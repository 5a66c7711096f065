import Parsing.Proofs.Matching.Soundness

namespace Parsing

variable {K V : Type} [TokenKind K] {g : Grammar K V} {ts : List (Token K)}
  {call call' : String → Nat → Match (Outcome K)} {choice : Choice K V} {i : Nat} {o : Outcome K}

def Refines (step step' : Nat → Match (Outcome K)) : Prop :=
  ∀ i o, step i = .ok o → step' i = .ok o

theorem Takes.mono {step step' : Nat → Match (Outcome K)} {r : Repetition K}
    (hstep : Refines step step') (h : Takes ts step i r) : Takes ts step' i r := by
  induction h with
  | done ho hstop => exact .done (hstep _ _ ho) hstop
  | last ho hlt ht hend => exact .last (hstep _ _ ho) hlt ht hend
  | more ho hlt ht hend _ ih => exact .more (hstep _ _ ho) hlt ht hend ih

namespace Clause

theorem matchAll_mono {cs : List (Clause K)} {ms : Matches K}
    (hcs : ∀ c ∈ cs, Refines (matchAt ts call c) (matchAt ts call' c))
    (h : matchAll ts call cs i = .ok ms) : matchAll ts call' cs i = .ok ms := by
  induction cs generalizing i ms with
  | nil =>
    rw [matchAll_nil] at h ⊢
    exact h
  | cons c cs ih =>
    rw [matchAll_cons] at h ⊢
    obtain ⟨tree, stop, ended, errors, rest, hc, hrest, hms⟩ | ⟨p, hc, hp, hms⟩ := h
    · have hrest' := ih (fun d hd => hcs d (by simp [hd])) hrest
      exact .inl ⟨tree, stop, ended, errors, rest, hcs c (by simp) _ _ hc, hrest', hms⟩
    · exact .inr ⟨p, hcs c (by simp) _ _ hc, hp, hms⟩

theorem matchAt_mono (hcall : ∀ name, Refines (call name) (call' name)) (c : Clause K) :
    Refines (matchAt ts call c) (matchAt ts call' c) := by
  induction c using Clause.induction with
  | terminal k =>
    intro i o h
    rw [matchAt_terminal] at h ⊢
    exact h
  | nonTerminal name =>
    intro i o h
    rw [matchAt_nonTerminal] at h ⊢
    exact hcall name i o h
  | zeroOrMore c ih =>
    intro i o h
    rw [matchAt_zeroOrMore] at h ⊢
    obtain ⟨r, hr, ho⟩ := h
    exact ⟨r, hr.mono ih, ho⟩
  | oneOrMore c ih =>
    intro i o h
    rw [matchAt_oneOrMore] at h ⊢
    obtain ⟨r, hr, ho⟩ := h
    exact ⟨r, hr.mono ih, ho⟩
  | optional c ih =>
    intro i o h
    rw [matchAt_optional] at h ⊢
    obtain ⟨p, hp, ho⟩ := h
    exact ⟨p, ih i p hp, ho⟩
  | group cs ih =>
    intro i o h
    rw [matchAt_group] at h ⊢
    obtain ⟨ms, hms, ho⟩ := h
    exact ⟨ms, matchAll_mono ih hms, ho⟩

end Clause

theorem Rule.matchBy_mono (hcall : ∀ name, Refines (call name) (call' name)) {name : String}
    {index : Nat} {r : Rule K V} :
    Refines (r.matchBy choice ts call name index) (r.matchBy choice ts call' name index) := by
  intro i o h
  rw [matchBy_eq_ok] at h ⊢
  obtain ⟨t, ht, h⟩ := h
  refine ⟨t, ht, ?_⟩
  split
  · next hc =>
    rw [if_pos hc] at h
    obtain ⟨ms, hms, ho⟩ := h
    exact ⟨ms, Clause.matchAll_mono (fun c _ => Clause.matchAt_mono hcall c) hms, ho⟩
  · next hc =>
    rw [if_neg hc] at h
    exact h

namespace NonTerminal

omit [TokenKind K] in
theorem firstMatch_mono {attempt attempt' : Nat × Rule K V → Match (Outcome K)}
    {e : Unexpected K} {rs : List (Nat × Rule K V)} {f : Furthest K}
    (hattempt : ∀ p o, attempt p = .ok o → attempt' p = .ok o)
    (h : firstMatch attempt e rs f = .ok o) : firstMatch attempt' e rs f = .ok o := by
  induction rs generalizing f with
  | nil => exact h
  | cons p rs ih =>
    rw [firstMatch, Except.bind_eq_ok] at h ⊢
    obtain ⟨q, hq, h⟩ := h
    refine ⟨q, hattempt p q hq, ?_⟩
    cases q with
    | matched tree stop ended errors => exact h
    | failed errors stop => exact ih h
    | inapplicable stop => exact ih h

theorem matchBy_mono (hcall : ∀ name, Refines (call name) (call' name)) {n : NonTerminal K V} :
    Refines (n.matchBy choice ts call) (n.matchBy choice ts call') := by
  intro i o h
  rw [matchBy_eq_ok] at h ⊢
  obtain ⟨t, ht, h⟩ := h
  refine ⟨t, ht, ?_⟩
  split
  · next hnil =>
    rw [if_pos hnil] at h
    exact h
  · next hnil =>
    rw [if_neg hnil] at h
    apply firstMatch_mono _ h
    intro p o
    apply Rule.matchBy_mono hcall

end NonTerminal

theorem Grammar.callBy_mono_succ {depth : Nat} (name : String) :
    Refines (g.callBy choice ts depth name) (g.callBy choice ts (depth + 1) name) := by
  induction depth generalizing name with
  | zero =>
    intro i o h
    cases h
  | succ depth ih =>
    intro i o h
    rw [callBy_succ] at h ⊢
    obtain ⟨t, ht, h⟩ := h
    refine ⟨t, ht, ?_⟩
    cases hn : g.nonTerminal? name with
    | none =>
      rw [hn] at h
      exact h
    | some n =>
      rw [hn] at h
      exact NonTerminal.matchBy_mono ih i o h

theorem Fits.matchesEmpty {c : Clause K} {tree : Tree K} (h : Fits g c tree)
    (ht : tree.tokens = []) : MatchesEmpty g.alternatives c := by
  induction h with
  | leaf => cases ht
  | node hr _ ih => exact .nonTerminal (Grammar.alternatives_of_rule? hr) (ih ht)
  | zeroOrMore => exact .zeroOrMore
  | @oneOrMore c trees hne _ htokens =>
    obtain ⟨tree, htree⟩ := List.exists_mem_of_ne_nil trees hne
    rw [Tree.tokens, Tree.tokensAll_eq, List.flatMap_eq_nil_iff] at ht
    exact absurd (ht tree htree) (htokens tree htree)
  | absent => exact .optional
  | present => exact .optional
  | group_nil => exact .group_nil
  | group_cons _ _ ih ihs =>
    obtain ⟨hc, hcs⟩ := List.append_eq_nil_iff.1 ht
    exact .group_cons (ih hc) (ihs hcs)

theorem Covers.eq_nil {us : List (Token K)} (h : Covers ts i i us) : us = [] :=
  List.eq_nil_of_length_eq_zero (Nat.add_eq_left.1 h.stop_eq.symm)

theorem Covers.le_of_isEnd {us : List (Token K)} {stop q : Nat} {e : Token K}
    (h : Covers ts i stop us) (hi : i ≤ q) (hq : ts[q]? = some e) (he : e.isEnd = true) :
    stop ≤ q := by
  by_contra hlt
  have hmem : e ∈ us := by
    rw [h.eq_extract, List.mem_iff_getElem?]
    refine ⟨q - i, ?_⟩
    rw [List.extract, List.getElem?_take_of_lt (by omega), List.getElem?_drop,
      Nat.add_sub_cancel' hi, hq]
  rw [h.not_isEnd e hmem] at he
  cases he

section

variable {q : Nat} {e : Token K}

theorem Takes.exists_of_step {c : Clause K} {step : Nat → Match (Outcome K)}
    (hq : ts[q]? = some e) (he : e.isEnd = true) (hsound : StepSound g ts c step) (hi : i ≤ q)
    (hstep : ∀ j, i ≤ j → j ≤ q → ∃ o, step j = .ok o) : ∃ r, Takes ts step i r ∧ r.stop ≤ q := by
  generalize hn : q - i = n
  induction n using Nat.strong_induction_on generalizing i with
  | _ n ih =>
    subst hn
    obtain ⟨o, ho⟩ := hstep i (Nat.le_refl i) hi
    by_cases hmore : o.isMatch = true ∧ i < o.stop
    · cases o with
      | failed => cases hmore.1
      | inapplicable => cases hmore.1
      | matched tree stop ended errors =>
        have hlt : i < stop := hmore.2
        have hle : stop ≤ q := (hsound _ _ _ _ _ ho).2.le_of_isEnd hi hq he
        have hbound : stop < ts.length := hle.trans_lt (List.getElem?_eq_some_iff.1 hq).1
        have ht : ts[stop]? = some ts[stop] := List.getElem?_eq_getElem hbound
        cases hend : ts[stop].isEnd with
        | true => exact ⟨_, .last ho hlt ht hend, hle⟩
        | false =>
          obtain ⟨r, hr, hstop⟩ :=
            ih (q - stop) (by omega) hle (fun j hj => hstep j (hlt.le.trans hj)) rfl
          exact ⟨_, .more ho hlt ht hend hr, hstop⟩
    · refine ⟨_, .done ho fun hm => Nat.le_of_not_lt fun hlt => hmore ⟨hm, hlt⟩, hi⟩

namespace Clause

structure Callable (g : Grammar K V) (call : String → Nat → Match (Outcome K)) (q : Nat)
    (c : Clause K) (i : Nat) : Prop where
  left : ∀ name, LeadsTo (MatchesEmpty g.alternatives) c name → ∃ o, call name i = .ok o
  later : ∀ name j, i < j → j ≤ q → ∃ o, call name j = .ok o

omit [TokenKind K] in
theorem Callable.forward {c : Clause K} (h : Callable g call q c i) {j : Nat} (hj : i ≤ j)
    (hjq : j ≤ q) : Callable g call q c j where
  left name hname := by
    obtain rfl | hlt := Nat.eq_or_lt_of_le hj
    · exact h.left name hname
    · exact h.later name j hlt hjq
  later name k hk hkq := h.later name k (hj.trans_lt hk) hkq

omit [TokenKind K] in
theorem Callable.inner {c d : Clause K} (h : Callable g call q c i)
    (hd : ∀ name, LeadsTo (MatchesEmpty g.alternatives) d name →
      LeadsTo (MatchesEmpty g.alternatives) c name) : Callable g call q d i where
  left name hname := h.left name (hd name hname)
  later := h.later

variable (hq : ts[q]? = some e) (he : e.isEnd = true)
  (hsound : ∀ name, StepSound g ts (.nonTerminal name) (call name))

include hq he hsound

theorem exists_matchAll {cs : List (Clause K)}
    (hcs : ∀ c ∈ cs, ∀ i ≤ q, Callable g call q c i → ∃ o, matchAt ts call c i = .ok o) (hi : i ≤ q)
    (h : Callable g call q (.group cs) i) : ∃ ms, matchAll ts call cs i = .ok ms := by
  induction cs generalizing i with
  | nil => exact ⟨_, matchAll_nil.2 rfl⟩
  | cons c cs ih =>
    obtain ⟨o, ho⟩ := hcs c (by simp) i hi (h.inner fun name => .group_head)
    cases o with
    | failed errors stop => exact ⟨_, matchAll_cons.2 (.inr ⟨_, ho, rfl, rfl⟩)⟩
    | inapplicable stop => exact ⟨_, matchAll_cons.2 (.inr ⟨_, ho, rfl, rfl⟩)⟩
    | matched tree stop ended errors =>
      obtain ⟨hfit, hcov⟩ := matchAt_sound hsound i tree stop ended errors ho
      have hle : stop ≤ q := hcov.le_of_isEnd hi hq he
      have hrest : Callable g call q (.group cs) stop := by
        -- Only behind a match without tokens does the rest of the group stand at its left.
        obtain rfl | hlt := Nat.eq_or_lt_of_le hcov.le
        · exact h.inner fun name => .group_tail (hfit.matchesEmpty hcov.eq_nil)
        · exact ⟨fun name _ => h.later name stop hlt hle,
            fun name j hj => h.later name j (hlt.trans hj)⟩
      obtain ⟨ms, hms⟩ := ih (fun d hd => hcs d (by simp [hd])) hle hrest
      exact ⟨_, matchAll_cons.2 (.inl ⟨_, _, _, _, _, ho, hms, rfl⟩)⟩

theorem exists_matchAt {c : Clause K} (hi : i ≤ q) (h : Callable g call q c i) :
    ∃ o, matchAt ts call c i = .ok o := by
  induction c using Clause.induction generalizing i with
  | terminal k =>
    have hbound : i < ts.length := hi.trans_lt (List.getElem?_eq_some_iff.1 hq).1
    exact ⟨_, matchAt_terminal.2 ⟨_, List.getElem?_eq_getElem hbound, rfl⟩⟩
  | nonTerminal name =>
    rw [matchAt_nonTerminal]
    exact h.left name .nonTerminal
  | zeroOrMore c ih =>
    have hc : Callable g call q c i := h.inner fun name => .zeroOrMore
    obtain ⟨r, hr, hle⟩ := Takes.exists_of_step hq he (matchAt_sound hsound) hi
      fun j hij hj => ih hj (hc.forward hij hj)
    have hbound : r.stop < ts.length := hle.trans_lt (List.getElem?_eq_some_iff.1 hq).1
    have ht := List.getElem?_eq_getElem hbound
    exact ⟨_, matchAt_zeroOrMore.2 ⟨r, hr, Repetition.outcome_eq_ok.2 ⟨_, ht, rfl⟩⟩⟩
  | oneOrMore c ih =>
    have hc : Callable g call q c i := h.inner fun name => .oneOrMore
    obtain ⟨r, hr, hle⟩ := Takes.exists_of_step hq he (matchAt_sound hsound) hi
      fun j hij hj => ih hj (hc.forward hij hj)
    have hlen : q < ts.length := (List.getElem?_eq_some_iff.1 hq).1
    have hstop := List.getElem?_eq_getElem (hle.trans_lt hlen)
    by_cases htrees : r.trees = []
    · have ht := List.getElem?_eq_getElem (hi.trans_lt hlen)
      obtain ⟨errors, ho⟩ := matchAt_oneOrMore_of_nil hr htrees ht
      exact ⟨_, ho⟩
    · exact ⟨_, matchAt_oneOrMore_of_ne_nil hr htrees (Repetition.outcome_eq_ok.2 ⟨_, hstop, rfl⟩)⟩
  | optional c ih =>
    obtain ⟨p, hp⟩ := ih hi (h.inner fun name => .optional)
    exact ⟨_, matchAt_optional.2 ⟨p, hp, rfl⟩⟩
  | group cs ih =>
    obtain ⟨ms, hms⟩ := exists_matchAll hq he hsound (fun c hc j hj => ih c hc hj) hi h
    exact ⟨_, matchAt_group.2 ⟨ms, hms, rfl⟩⟩

end Clause

variable (hq : ts[q]? = some e) (he : e.isEnd = true)
  (hsound : ∀ name, StepSound g ts (.nonTerminal name) (call name))

omit [TokenKind K] in
theorem NonTerminal.exists_firstMatch {attempt : Nat × Rule K V → Match (Outcome K)}
    {none : Unexpected K} {rs : List (Nat × Rule K V)}
    (hattempt : ∀ p ∈ rs, ∃ o, attempt p = .ok o) (f : Furthest K) :
    ∃ o, firstMatch attempt none rs f = .ok o := by
  induction rs generalizing f with
  | nil => exact ⟨_, rfl⟩
  | cons p rs ih =>
    obtain ⟨o, ho⟩ := hattempt p (by simp)
    simp only [firstMatch, Except.bind_eq_ok]
    cases o with
    | matched tree stop ended errors => exact ⟨_, _, ho, rfl⟩
    | failed errors stop =>
      obtain ⟨o, h⟩ := ih (fun p hp => hattempt p (by simp [hp])) (f.note (.failed errors stop))
      exact ⟨o, _, ho, h⟩
    | inapplicable stop =>
      obtain ⟨o, h⟩ := ih (fun p hp => hattempt p (by simp [hp])) (f.note (.inapplicable stop))
      exact ⟨o, _, ho, h⟩

include hq he hsound

theorem Rule.exists_matchBy {name : String} {index : Nat} {r : Rule K V} (hi : i ≤ q)
    (h : Clause.Callable g call q (.group r.clauses) i) :
    ∃ o, r.matchBy choice ts call name index i = .ok o := by
  have hbound : i < ts.length := hi.trans_lt (List.getElem?_eq_some_iff.1 hq).1
  obtain ⟨ms, hms⟩ := Clause.exists_matchAll hq he hsound
    (fun c _ j hj => Clause.exists_matchAt hq he hsound hj) hi h
  simp only [matchBy_eq_ok]
  rw [exists_comm]
  refine ⟨ts[i], ?_⟩
  split
  · exact ⟨_, List.getElem?_eq_getElem hbound, ms, hms, rfl⟩
  · exact ⟨_, List.getElem?_eq_getElem hbound, rfl⟩

theorem NonTerminal.exists_matchBy {n : NonTerminal K V} (hi : i ≤ q)
    (h : ∀ r ∈ n.rules, Clause.Callable g call q (.group r.clauses) i) :
    ∃ o, n.matchBy choice ts call i = .ok o := by
  have hbound : i < ts.length := hi.trans_lt (List.getElem?_eq_some_iff.1 hq).1
  have hattempt : ∀ p ∈ n.numbered.filter fun p => choice p.2 ts[i].kind,
      ∃ o, p.2.matchBy choice ts call n.name p.1 i = .ok o := by
    intro p hp
    have hr := mem_numbered.1 (List.mem_filter.1 hp).1
    exact Rule.exists_matchBy hq he hsound hi (h p.2 (List.mem_of_getElem? hr))
  simp only [matchBy_eq_ok]
  rw [exists_comm]
  refine ⟨ts[i], ?_⟩
  split
  · exact ⟨_, List.getElem?_eq_getElem hbound, rfl⟩
  · obtain ⟨o, ho⟩ := exists_firstMatch hattempt ⟨0, []⟩
    exact ⟨o, List.getElem?_eq_getElem hbound, ho⟩

end

namespace Grammar

open Classical in
/-- The number of defined names that `name` comes to without a token, itself among them. -/
noncomputable def level (g : Grammar K V) (name : String) : Nat :=
  (g.nonTerminals.map (·.name)).countP
    fun b => decide (Relation.ReflTransGen (LeftReaches g.alternatives) name b)

omit [TokenKind K] in
theorem level_le_size (g : Grammar K V) (name : String) : g.level name ≤ g.size := by
  rw [level, size, ← List.length_map]
  apply List.countP_le_length

open Classical in
omit [TokenKind K] in
theorem level_pos (g : Grammar K V) {name : String} {n : NonTerminal K V}
    (hn : g.nonTerminal? name = some n) : 0 < g.level name := by
  rw [level, List.countP_pos_iff]
  refine ⟨name, ?_, decide_eq_true .refl⟩
  rw [← NonTerminal.name_of_find? hn]
  exact List.mem_map_of_mem (NonTerminal.mem_of_find? hn)

omit [TokenKind K] in
theorem mem_names_of_leftReaches {a b : String} (h : LeftReaches g.alternatives a b) :
    a ∈ g.nonTerminals.map (·.name) := by
  obtain ⟨cs, ⟨n, hn, -⟩, -⟩ := h
  rw [← NonTerminal.name_of_find? hn]
  exact List.mem_map_of_mem (NonTerminal.mem_of_find? hn)

omit [TokenKind K] in
theorem level_lt_of_leftReaches (hl : NoLeftRecursion g.alternatives) {a b : String}
    (h : LeftReaches g.alternatives a b) : g.level b < g.level a :=
  countP_reflTransGen_lt (mem_names_of_leftReaches h) h (hl a)

theorem exists_callBy (hl : NoLeftRecursion g.alternatives) {q : Nat} {e : Token K}
    (hq : ts[q]? = some e) (he : e.isEnd = true) {depth : Nat} {name : String} (hi : i ≤ q)
    (hdepth : g.size * (q - i) + g.level name < depth) :
    ∃ o, g.callBy choice ts depth name i = .ok o := by
  induction depth generalizing name i with
  | zero => exact absurd hdepth (Nat.not_lt_zero _)
  | succ depth ih =>
    have hbound : i < ts.length := hi.trans_lt (List.getElem?_eq_some_iff.1 hq).1
    simp only [callBy_succ, List.getElem?_eq_getElem hbound, Option.some.injEq, exists_eq_left']
    cases hn : g.nonTerminal? name with
    | none => exact ⟨_, rfl⟩
    | some n =>
      apply NonTerminal.exists_matchBy hq he callBy_sound hi
      intro r hr
      have ha : g.alternatives name r.clauses := ⟨n, hn, r, hr, rfl⟩
      constructor
      · intro b hb
        have hlevel := level_lt_of_leftReaches hl ⟨_, ha, hb⟩
        exact ih hi (by omega)
      · intro b j hij hj
        -- A token further on makes up for any level.
        have hpos : 0 < g.level name := g.level_pos hn
        have hle := g.level_le_size b
        have hmul : g.size * (q - j) + g.size ≤ g.size * (q - i) := by
          rw [← Nat.mul_succ]
          exact Nat.mul_le_mul_left _ (by omega)
        exact ih hj (by omega)

theorem exists_callBy_depth (hl : NoLeftRecursion g.alternatives) {q : Nat} {e : Token K}
    (hq : ts[q]? = some e) (he : e.isEnd = true) (name : String) (hi : i ≤ q) :
    ∃ o, g.callBy choice ts (g.depth ts) name i = .ok o := by
  apply exists_callBy hl hq he hi
  have hlen : q < ts.length := (List.getElem?_eq_some_iff.1 hq).1
  have hle := g.level_le_size name
  have hmul : g.size * (q - i) + g.size ≤ g.size * (ts.length + 1) := by
    rw [← Nat.mul_succ]
    exact Nat.mul_le_mul_left _ (by omega)
  rw [depth]
  omega

theorem exists_matchAt (hl : NoLeftRecursion g.alternatives) {q : Nat} {e : Token K}
    (hq : ts[q]? = some e) (he : e.isEnd = true) (c : Clause K) (hi : i ≤ q) :
    ∃ o, c.matchAt ts (g.callBy choice ts (g.depth ts)) i = .ok o :=
  Clause.exists_matchAt hq he callBy_sound hi
    ⟨fun name _ => exists_callBy_depth hl hq he name hi,
      fun name _ _ hj => exists_callBy_depth hl hq he name hj⟩

theorem exists_matchClause (hl : NoLeftRecursion g.alternatives) {q : Nat} {e : Token K}
    (hq : ts[q]? = some e) (he : e.isEnd = true) (c : Clause K) (hi : i ≤ q) :
    ∃ o, g.matchClause ts c i = .ok o := by
  rw [matchClause, ← callBy_leading]
  exact exists_matchAt hl hq he c hi

theorem matchClause_nonTerminal (hl : NoLeftRecursion g.alternatives) {q : Nat} {e : Token K}
    (hq : ts[q]? = some e) (he : e.isEnd = true) {name : String} {n : NonTerminal K V}
    (hn : g.nonTerminal? name = some n) (hi : i ≤ q) :
    g.matchClause ts (.nonTerminal name) i = n.matchAt ts (g.call ts (g.depth ts)) i := by
  rw [matchClause, Clause.matchAt_nonTerminal, ← callBy_leading, ← NonTerminal.matchBy_leading]
  obtain ⟨p, hp⟩ : ∃ p, g.callBy .leading ts (g.depth ts) name i = .ok p :=
    exists_callBy_depth hl hq he name hi
  obtain ⟨t, -, hmatch⟩ := callBy_succ.1 (callBy_mono_succ name i p hp)
  rw [hn] at hmatch
  rw [hp, hmatch]

end Grammar

end Parsing
