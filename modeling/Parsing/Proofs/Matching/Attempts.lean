import Mathlib.Data.List.Induction
import Parsing.Proofs.Matching.Run

namespace Parsing

variable {K V : Type}

structure Outcome.FurthestOf (o : Outcome K) (os : List (Outcome K)) : Prop where
  mem : o ∈ os
  errors_ne_nil : o.errors ≠ []
  stop_le : ∀ p ∈ os, p.errors ≠ [] → p.stop ≤ o.stop

namespace Furthest

def Keeps (f : Furthest K) (os : List (Outcome K)) : Prop :=
  ∃ o : Outcome K, o.FurthestOf os ∧ f = ⟨o.stop, o.errors⟩

theorem note_first {o : Outcome K} (ho : o.errors ≠ []) :
    (⟨0, []⟩ : Furthest K).note o = ⟨o.stop, o.errors⟩ := by
  rw [note, if_pos]
  obtain hzero | hpos := Nat.eq_zero_or_pos o.stop
  · simp [hzero]
  · simp [hpos, ho]

theorem Keeps.note {f : Furthest K} {os : List (Outcome K)} (h : f.Keeps os) {o : Outcome K}
    (ho : o.errors ≠ [] ∨ f.stop ≠ 0 ∨ o.stop ≠ 0) : (f.note o).Keeps (os ++ [o]) := by
  obtain ⟨p, hp, rfl⟩ := h
  simp only [Furthest.note, Bool.or_eq_true, Bool.and_eq_true, decide_eq_true_eq,
    Bool.not_eq_true', List.isEmpty_eq_false_iff]
  split
  · next hnoted =>
    have herrors : o.errors ≠ [] := by
      obtain ⟨-, herrors⟩ | ⟨hp, ho'⟩ := hnoted
      · exact herrors
      · simpa [hp, ho'] using ho
    have hle : p.stop ≤ o.stop := by
      obtain ⟨hlt, -⟩ | ⟨hp, -⟩ := hnoted
      · exact hlt.le
      · exact hp.le.trans (Nat.zero_le _)
    refine ⟨o, ⟨by simp, herrors, fun q hq hne => ?_⟩, rfl⟩
    obtain hq | hq := List.mem_append.1 hq
    · exact (hp.stop_le q hq hne).trans hle
    · exact Nat.le_of_eq (congrArg _ (List.mem_singleton.1 hq))
  · next hnoted =>
    refine ⟨p, ⟨List.mem_append_left _ hp.mem, hp.errors_ne_nil, fun q hq hne => ?_⟩, rfl⟩
    obtain hq | hq := List.mem_append.1 hq
    · exact hp.stop_le q hq hne
    · obtain rfl := List.mem_singleton.1 hq
      exact Nat.le_of_not_lt fun hlt => hnoted (.inl ⟨hlt, hne⟩)

theorem keeps_foldl_note {os : List (Outcome K)} (hne : os ≠ []) (h : ∀ o ∈ os, o.errors ≠ []) :
    (os.foldl Furthest.note ⟨0, []⟩).Keeps os := by
  induction os using List.reverseRecOn with
  | nil => exact absurd rfl hne
  | append_singleton os o ih =>
    have ho : o.errors ≠ [] := h o (by simp)
    rw [List.foldl_append, List.foldl_cons, List.foldl_nil]
    obtain rfl | hos := eq_or_ne os []
    · rw [List.foldl_nil, note_first ho]
      exact ⟨o, ⟨by simp, ho, by simp⟩, rfl⟩
    · exact (ih hos fun p hp => h p (by simp [hp])).note (.inl ho)

end Furthest

def Match.untilMatch {α : Type} (attempt : α → Match (Outcome K)) :
    List α → Match (List (Outcome K))
  | [] => return []
  | a :: as => do
    let o ← attempt a
    if o.isMatch then return [o] else return o :: (← untilMatch attempt as)

namespace Match

variable {α : Type} {attempt attempt' : α → Match (Outcome K)} {as : List α}
  {os : List (Outcome K)} {a : α}

theorem untilMatch_cons : untilMatch attempt (a :: as) = .ok os ↔
    ∃ o, attempt a = .ok o ∧ if o.isMatch = true then os = [o]
      else ∃ os', untilMatch attempt as = .ok os' ∧ os = o :: os' := by
  rw [untilMatch, Except.bind_eq_ok]
  refine exists_congr fun o => and_congr_right fun _ => ?_
  split
  · exact Except.pure_eq_ok.trans eq_comm
  · refine Except.bind_eq_ok.trans (exists_congr fun os' => and_congr_right fun _ => ?_)
    exact Except.pure_eq_ok.trans eq_comm

theorem exists_of_mem_untilMatch (h : untilMatch attempt as = .ok os) {o : Outcome K}
    (ho : o ∈ os) : ∃ a ∈ as, attempt a = .ok o := by
  induction as generalizing os with
  | nil =>
    cases h
    cases ho
  | cons a as ih =>
    obtain ⟨p, hp, h⟩ := untilMatch_cons.1 h
    split at h
    · subst h
      obtain rfl := List.mem_singleton.1 ho
      exact ⟨a, by simp, hp⟩
    · obtain ⟨os', hos', rfl⟩ := h
      obtain rfl | ho := List.mem_cons.1 ho
      · exact ⟨a, by simp, hp⟩
      · obtain ⟨b, hb, hbo⟩ := ih hos' ho
        exact ⟨b, List.mem_cons_of_mem _ hb, hbo⟩

theorem cases_of_untilMatch (h : untilMatch attempt as = .ok os) :
    (∀ o ∈ os, o.isMatch = false) ∨
      ∃ before o, os = before ++ [o] ∧ o.isMatch = true ∧ ∀ p ∈ before, p.isMatch = false := by
  induction as generalizing os with
  | nil =>
    cases h
    simp
  | cons a as ih =>
    obtain ⟨p, -, h⟩ := untilMatch_cons.1 h
    split at h
    · next hp => exact .inr ⟨[], p, by simpa using h, hp, by simp⟩
    · next hp =>
      rw [Bool.not_eq_true] at hp
      obtain ⟨os', hos', rfl⟩ := h
      obtain hall | ⟨before, o, rfl, ho, hbefore⟩ := ih hos'
      · exact .inl (List.forall_mem_cons.2 ⟨hp, hall⟩)
      · exact .inr ⟨p :: before, o, rfl, ho, List.forall_mem_cons.2 ⟨hp, hbefore⟩⟩

theorem untilMatch_ne_nil (h : untilMatch attempt as = .ok os) (has : as ≠ []) : os ≠ [] := by
  cases as with
  | nil => exact absurd rfl has
  | cons a as =>
    obtain ⟨o, -, h⟩ := untilMatch_cons.1 h
    split at h
    · simp [h]
    · obtain ⟨os', -, rfl⟩ := h
      simp

theorem untilMatch_mono (hattempt : ∀ a ∈ as, ∀ o, attempt a = .ok o → attempt' a = .ok o)
    (h : untilMatch attempt as = .ok os) : untilMatch attempt' as = .ok os := by
  induction as generalizing os with
  | nil => exact h
  | cons a as ih =>
    rw [List.forall_mem_cons] at hattempt
    rw [untilMatch_cons] at h ⊢
    obtain ⟨o, ho, h⟩ := h
    refine ⟨o, hattempt.1 o ho, ?_⟩
    split at h
    · next hm =>
      rw [if_pos hm]
      exact h
    · next hm =>
      obtain ⟨os', hos', h⟩ := h
      rw [if_neg hm]
      exact ⟨os', ih hattempt.2 hos', h⟩

end Match

/-- What comes of a non-terminal whose last attempt came to `last?`, with `none` in place of errors
if there are none. -/
def Furthest.outcome (f : Furthest K) (none : Unexpected K) (last? : Option (Outcome K)) :
    Outcome K :=
  match last? with
  | some (.matched tree stop ended _) => .matched tree stop ended f.errors
  | _ => .failed (if f.errors.isEmpty then [none] else f.errors) f.stop

theorem Furthest.outcome_of_failed {f : Furthest K} (hf : f.errors ≠ []) (none : Unexpected K)
    {os : List (Outcome K)} (hos : ∀ o ∈ os, o.isMatch = false) :
    f.outcome none os.getLast? = .failed f.errors f.stop := by
  have hfailed : f.outcome none os.getLast? =
      .failed (if f.errors.isEmpty then [none] else f.errors) f.stop := by
    cases hlast : os.getLast? with
    | none => rfl
    | some o =>
      have ho := hos o (List.mem_of_getLast? hlast)
      cases o with
      | matched => cases ho
      | failed | inapplicable => rfl
  rw [hfailed, if_neg (by simpa using hf)]

theorem Furthest.outcome_of_matched (f : Furthest K) (none : Unexpected K)
    (before : List (Outcome K)) (tree : Tree K) (stop : Nat) (ended : Bool)
    (errors : List (Unexpected K)) :
    f.outcome none (before ++ [Outcome.matched tree stop ended errors]).getLast? =
      .matched tree stop ended f.errors := by
  rw [List.getLast?_concat]
  rfl

namespace NonTerminal

variable {attempt : Nat × Rule K V → Match (Outcome K)} {none : Unexpected K}
  {rs : List (Nat × Rule K V)}

theorem firstMatch_eq (f : Furthest K) : firstMatch attempt none rs f =
    (Match.untilMatch attempt rs).map fun os =>
      (os.foldl Furthest.note f).outcome none os.getLast? := by
  induction rs generalizing f with
  | nil => rfl
  | cons r rs ih =>
    simp only [firstMatch, Match.untilMatch, bind, Except.bind]
    cases attempt r with
    | error fault => rfl
    | ok o =>
      cases o with
      | matched tree stop ended errors => rfl
      | failed errors stop =>
        simp only [ih, Outcome.isMatch]
        cases Match.untilMatch attempt rs with
        | error fault => rfl
        | ok os => cases os <;> rfl
      | inapplicable stop =>
        simp only [ih, Outcome.isMatch]
        cases Match.untilMatch attempt rs with
        | error fault => rfl
        | ok os => cases os <;> rfl

theorem firstMatch_eq_ok {f : Furthest K} {o : Outcome K} :
    firstMatch attempt none rs f = .ok o ↔ ∃ os, Match.untilMatch attempt rs = .ok os ∧
      o = (os.foldl Furthest.note f).outcome none os.getLast? := by
  rw [firstMatch_eq]
  cases Match.untilMatch attempt rs with
  | error fault => simp [Except.map]
  | ok os => simp [Except.map, eq_comm]

end NonTerminal

end Parsing
