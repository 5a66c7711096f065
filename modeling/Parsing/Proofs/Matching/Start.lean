import Parsing.Proofs.Matching.Bounds

namespace Parsing

variable {K V : Type}

namespace Match

variable {α β : Type} {f : α → Match β} {l : List α} {bs : List β} {p : β → Bool}

theorem mapM_cons_eq_ok {a : α} :
    (a :: l).mapM f = .ok bs ↔ ∃ b bs', f a = .ok b ∧ l.mapM f = .ok bs' ∧ bs = b :: bs' := by
  simp only [List.mapM_cons, Except.bind_eq_ok, Except.pure_eq_ok]
  exact ⟨fun ⟨b, hb, bs', hbs', h⟩ => ⟨b, bs', hb, hbs', h.symm⟩,
    fun ⟨b, bs', hb, hbs', h⟩ => ⟨b, hb, bs', hbs', h.symm⟩⟩

theorem eq_nil_of_mapM_eq_nil (h : l.mapM f = .ok []) : l = [] := by
  cases l with
  | nil => rfl
  | cons a l =>
    obtain ⟨b, bs, -, -, hnil⟩ := mapM_cons_eq_ok.1 h
    cases hnil

theorem first_of_find?_mapM (h : l.mapM f = .ok bs) {b : β} (hb : bs.find? p = some b) :
    ∃ before a after, l = before ++ a :: after ∧ f a = .ok b ∧ p b = true ∧
      ∀ a' ∈ before, ∀ b', f a' = .ok b' → p b' = false := by
  induction l generalizing bs with
  | nil =>
    cases h
    cases hb
  | cons a l ih =>
    obtain ⟨c, bs, hc, hbs, rfl⟩ := mapM_cons_eq_ok.1 h
    cases hp : p c with
    | true =>
      obtain rfl : c = b := by simpa [hp] using hb
      exact ⟨[], a, l, rfl, hc, hp, by simp⟩
    | false =>
      obtain ⟨before, a', after, rfl, hfa', hpb, hbefore⟩ := ih hbs (by simpa [hp] using hb)
      refine ⟨a :: before, a', after, rfl, hfa', hpb, List.forall_mem_cons.2 ⟨?_, hbefore⟩⟩
      intro b' hb'
      rw [hc] at hb'
      cases hb'
      exact hp

theorem forall_of_find?_mapM_eq_none (h : l.mapM f = .ok bs) (hnone : bs.find? p = none) {a : α}
    (ha : a ∈ l) {b : β} (hb : f a = .ok b) : p b = false := by
  induction l generalizing bs with
  | nil => cases ha
  | cons a' l ih =>
    obtain ⟨c, bs, hc, hbs, rfl⟩ := mapM_cons_eq_ok.1 h
    rw [List.find?_eq_none, List.forall_mem_cons] at hnone
    rcases List.mem_cons.1 ha with rfl | ha
    · rw [hc] at hb
      cases hb
      simpa using hnone.1
    · exact ih hbs (List.find?_eq_none.2 hnone.2) ha

end Match

theorem NonTerminal.pairwise_numbered (n : NonTerminal K V) :
    n.numbered.Pairwise fun p q => p.1 < q.1 := by
  rw [List.pairwise_iff_getElem]
  intro i j hi hj hij
  simpa [numbered] using hij

variable [TokenKind K]

variable {ts : List (Token K)} {start : String} {g : Grammar K V}

theorem eq_of_isEndedAt {i : Nat} (h : isEndedAt ts i = true) (hi : i < ts.length) :
    i + 1 = ts.length ∨ i + 2 = ts.length := by
  simp only [isEndedAt, Bool.or_eq_true, decide_eq_true_eq, Bool.and_eq_true] at h
  omega

theorem Rule.ended_of_matchAt {call : String → Nat → Match (Outcome K)} {name : String}
    {index i stop : Nat} {r : Rule K V} {tree : Tree K} {ended : Bool}
    {errors : List (Unexpected K)}
    (h : r.matchAt ts call name index i = .ok (.matched tree stop ended errors)) :
    ended = isEndedAt ts stop := by
  rw [← matchBy_leading] at h
  obtain ⟨t, -, h⟩ := matchBy_eq_ok.1 h
  split at h
  · obtain ⟨ms, -, h⟩ := h
    cases ms with
    | matched => cases h; rfl
    | failed => cases h
  · cases h

namespace Grammar

def Tries (g : Grammar K V) (ts : List (Token K)) (start : String) (index : Nat) (o : Outcome K) :
    Prop :=
  ∃ t, ts[0]? = some t ∧ ∃ r, g.rule? start index = some r ∧ r.admits t.kind = true ∧
    g.matchRule ts start index r 0 = .ok o

structure Wins (g : Grammar K V) (ts : List (Token K)) (start : String) (index : Nat)
    (o : Outcome K) : Prop where
  tries : g.Tries ts start index o
  isEnded : o.isEnded = true
  first : ∀ j < index, ∀ p, g.Tries ts start j p → p.isEnded = false

theorem Wins.exists_eq {index : Nat} {o : Outcome K} (h : g.Wins ts start index o) :
    ∃ tree stop errors, o = .matched tree stop true errors ∧ isEndedAt ts stop = true := by
  obtain ⟨⟨t, -, r, -, -, hmatch⟩, hended, -⟩ := h
  cases o with
  | matched tree stop ended errors =>
    cases hended
    exact ⟨tree, stop, errors, rfl, (Rule.ended_of_matchAt hmatch).symm⟩
  | failed | inapplicable => cases hended

theorem report_eq_ok {attempts : List (Outcome K)} {o : Outcome K}
    (h : report ts attempts = .ok o) : ∃ e stop, o = .failed [e] stop := by
  obtain ⟨t, -, h⟩ := Except.bind_eq_ok.1 h
  obtain rfl := Except.pure_eq_ok.1 h
  generalize (attempts.filter _).flatMap Outcome.errors = errors
  -- There is always an error to report, for sorting loses none.
  have hne : Unexpected.sort (.nothingExpected t :: errors) ≠ [] := by
    rw [Unexpected.sort, ← List.length_pos_iff, List.length_mergeSort]
    exact Nat.succ_pos _
  exact ⟨_, _, by rw [List.getLast?_eq_some_getLast hne, Option.toList_some]⟩

section

variable {n : NonTerminal K V} {o : Outcome K}

theorem tries_iff (hn : g.nonTerminal? start = some n) {t : Token K} (ht : ts[0]? = some t)
    {index : Nat} :
    g.Tries ts start index o ↔ ∃ r, (index, r) ∈ n.numbered.filter (fun p => p.2.admits t.kind) ∧
      g.matchRule ts n.name index r 0 = .ok o := by
  simp only [Tries, ht, Option.some.injEq, exists_eq_left', rule?_eq_some, hn, List.mem_filter,
    NonTerminal.mem_numbered, NonTerminal.name_of_find? hn, and_assoc]

theorem matchStart_eq_ok (hn : g.nonTerminal? start = some n) (h : g.matchStart ts n = .ok o) :
    (∃ index, g.Wins ts start index o) ∨
      (∃ e stop, o = .failed [e] stop) ∧
        ∀ index p, g.Tries ts start index p → p.isEnded = false := by
  obtain ⟨t, ht, h⟩ := Except.bind_eq_ok.1 h
  rw [tokenAt_eq_ok] at ht
  obtain ⟨attempts, hattempts, h⟩ := Except.bind_eq_ok.1 h
  have hended : ∀ p : Outcome K, (p.isEnded && p.isMatch) = p.isEnded := by
    intro p
    cases p <;> simp [Outcome.isEnded, Outcome.isMatch]
  simp only [hended] at h
  split at h
  · next hnone =>
    refine .inr ⟨⟨_, _, (Except.pure_eq_ok.1 h).symm⟩, fun index p hp => ?_⟩
    obtain ⟨r, hr, hmatch⟩ := (tries_iff hn ht).1 hp
    exact Match.forall_of_find?_mapM_eq_none hattempts
      (by rw [List.isEmpty_iff.1 hnone, List.find?_nil]) hr hmatch
  · split at h
    · next w hw =>
      cases Except.pure_eq_ok.1 h
      obtain ⟨before, ⟨index, r⟩, after, hrules, hmatch, hend, hbefore⟩ :=
        Match.first_of_find?_mapM hattempts hw
      have hr : (index, r) ∈ n.numbered.filter fun p => p.2.admits t.kind := hrules ▸ by simp
      refine .inl ⟨index, (tries_iff hn ht).2 ⟨r, hr, hmatch⟩, hend, fun j hj p hp => ?_⟩
      obtain ⟨s, hs, hp⟩ := (tries_iff hn ht).1 hp
      -- The rules stand in the order of their numbers, so that rule `j` is before the winner.
      have hsorted := (n.pairwise_numbered.filter fun p => p.2.admits t.kind)
      rw [hrules] at hs hsorted
      rcases List.mem_append.1 hs with hs | hs
      · exact hbefore _ hs p hp
      · have hle : index ≤ j := by
          rcases List.mem_cons.1 hs with heq | hs
          · exact Nat.le_of_eq (congrArg Prod.fst heq).symm
          · exact Nat.le_of_lt (List.rel_of_pairwise_cons (List.pairwise_append.1 hsorted).2.1 hs)
        omega
    · next hnone =>
      refine .inr ⟨report_eq_ok h, fun index p hp => ?_⟩
      obtain ⟨r, hr, hmatch⟩ := (tries_iff hn ht).1 hp
      exact Match.forall_of_find?_mapM_eq_none hattempts hnone hr hmatch

theorem parse_eq_ok (h : g.parse ts start = .ok o) :
    (∃ index, g.Wins (withEndMarker ts) start index o) ∨
      (∃ e stop, o = .failed [e] stop) ∧
        ∀ index p, g.Tries (withEndMarker ts) start index p → p.isEnded = false := by
  rw [parse] at h
  cases hn : g.nonTerminal? start with
  | some n =>
    rw [hn] at h
    exact matchStart_eq_ok hn h
  | none =>
    rw [hn] at h
    obtain ⟨t, -, h⟩ := Except.bind_eq_ok.1 h
    refine .inr ⟨⟨_, _, (Except.pure_eq_ok.1 h).symm⟩, fun index p hp => ?_⟩
    obtain ⟨_, -, r, hr, -⟩ := hp
    obtain ⟨n, hn', -⟩ := rule?_eq_some.1 hr
    rw [hn] at hn'
    cases hn'

theorem stop_of_parse {tree : Tree K} {stop : Nat} {ended : Bool} {errors : List (Unexpected K)}
    (h : g.parse ts start = .ok (.matched tree stop ended errors)) :
    ended = true ∧
      (stop + 1 = (withEndMarker ts).length ∨ stop + 2 = (withEndMarker ts).length) := by
  obtain ⟨index, hwins⟩ | ⟨⟨e, stop, heq⟩, -⟩ := parse_eq_ok h
  · obtain ⟨_, _, _, heq, hend⟩ := hwins.exists_eq
    cases heq
    obtain ⟨e, hlast, he⟩ := getElem?_last_withEndMarker ts
    have hstop : stop ≤ _ := (parse_safe hlast he start).of_eq_ok h
    have hbound := (List.getElem?_eq_some_iff.1 hlast).1
    exact ⟨rfl, eq_of_isEndedAt hend (by omega)⟩
  · cases heq

end

end Grammar

end Parsing
