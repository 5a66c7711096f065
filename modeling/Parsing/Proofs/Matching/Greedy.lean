import Parsing.Proofs.Matching.Bounds

namespace Parsing

variable {K V : Type}

namespace Outcome

def progress? (i : Nat) : Outcome K → Option (Tree K × Nat)
  | matched tree stop _ _ => if i < stop then some (tree, stop) else none
  | failed _ _ | inapplicable _ => none

def repetition? : Outcome K → Option (List (Tree K) × Nat)
  | matched (.many trees) stop _ _ => some (trees, stop)
  | matched _ _ _ _ | failed _ _ | inapplicable _ => none

variable {i j : Nat} {o : Outcome K} {tree : Tree K}

theorem progress?_eq_some :
    o.progress? i = some (tree, j) ↔
      i < j ∧ ∃ ended errors, o = .matched tree j ended errors := by
  cases o with
  | matched tree' stop ended errors =>
    simp only [progress?, Option.ite_none_right_eq_some, Option.some.injEq, Prod.mk.injEq,
      matched.injEq]
    constructor
    · rintro ⟨hlt, rfl, rfl⟩
      exact ⟨hlt, ended, errors, rfl, rfl, rfl, rfl⟩
    · rintro ⟨hlt, _, _, rfl, rfl, -, -⟩
      exact ⟨hlt, rfl, rfl⟩
  | failed errors stop => simp [progress?]
  | inapplicable stop => simp [progress?]

theorem progress?_eq_none :
    o.progress? i = none ↔ (o.isMatch = true → o.stop ≤ i) := by
  cases o with
  | matched tree' stop ended errors => simp [progress?, isMatch, Outcome.stop]
  | failed errors stop => simp [progress?, isMatch]
  | inapplicable stop => simp [progress?, isMatch]

end Outcome

/-- Repeats as `Repetition.take` does, but does not stop at an end marker. -/
def Repetition.takeOn (step : Nat → Match (Outcome K)) : Nat → Nat → Match (Repetition K)
  | 0, _ => .error .endless
  | n + 1, i => do
    let o ← step i
    match o.progress? i with
    | some (tree, stop) =>
      let more ← takeOn step n stop
      return ⟨tree :: more.trees, more.stop, more.errors⟩
    | none => return ⟨[], i, o.errors⟩

variable [TokenKind K]

def StopsAtEnd (ts : List (Token K)) (step : Nat → Match (Outcome K)) : Prop :=
  ∀ q e, ts[q]? = some e → e.isEnd = true → StepWithin q step

section

variable {ts : List (Token K)} {step : Nat → Match (Outcome K)} {i j : Nat} {o : Outcome K}
  {tree : Tree K} {r : Repetition K}

theorem StopsAtEnd.progress?_eq_none {e : Token K} (hstep : StopsAtEnd ts step)
    (he : ts[i]? = some e) (hend : e.isEnd = true) (ho : step i = .ok o) :
    o.progress? i = none := by
  have hwithin : o.Within i i := (hstep i e he hend i (Nat.le_refl i)).of_eq_ok ho
  exact Outcome.progress?_eq_none.2 fun _ => hwithin.stop_mem.2

namespace Takes

theorem exists_first (h : Takes ts step i r) : ∃ o, step i = .ok o := by
  cases h with
  | done ho => exact ⟨_, ho⟩
  | last ho => exact ⟨_, ho⟩
  | more ho => exact ⟨_, ho⟩

theorem of_no_progress (ho : step i = .ok o) (hnone : o.progress? i = none) :
    Takes ts step i ⟨[], i, o.errors⟩ :=
  .done ho (Outcome.progress?_eq_none.1 hnone)

theorem eq_of_no_progress (h : Takes ts step i r) (ho : step i = .ok o)
    (hnone : o.progress? i = none) : r = ⟨[], i, o.errors⟩ :=
  Except.ok.inj ((Repetition.take_eq_ok.2 h).symm.trans
    (Repetition.take_eq_ok.2 (.of_no_progress ho hnone)))

theorem trees_eq_nil_iff (h : Takes ts step i r) (ho : step i = .ok o) :
    r.trees = [] ↔ o.progress? i = none := by
  cases h with
  | done ho' hstop =>
    cases ho.symm.trans ho'
    exact iff_of_true rfl (Outcome.progress?_eq_none.2 hstop)
  | last ho' hlt =>
    cases ho.symm.trans ho'
    simp [Outcome.progress?, hlt]
  | more ho' hlt =>
    cases ho.symm.trans ho'
    simp [Outcome.progress?, hlt]

theorem of_progress (hstep : StopsAtEnd ts step) (ho : step i = .ok o)
    (hsome : o.progress? i = some (tree, j)) {t : Token K} (ht : ts[j]? = some t)
    (h : Takes ts step j r) :
    ∃ errors, Takes ts step i ⟨tree :: r.trees, r.stop, errors⟩ := by
  obtain ⟨hlt, ended, errors, rfl⟩ := Outcome.progress?_eq_some.1 hsome
  cases hend : t.isEnd with
  | false => exact ⟨r.errors, .more ho hlt ht hend h⟩
  | true =>
    obtain ⟨p, hp⟩ := h.exists_first
    obtain rfl := h.eq_of_no_progress hp (hstep.progress?_eq_none ht hend hp)
    exact ⟨[], .last ho hlt ht hend⟩

end Takes

end

namespace Grammar

variable {g : Grammar K V} {ts : List (Token K)} {c : Clause K} {i j q : Nat} {e : Token K}
  {o : Outcome K} {tree : Tree K} {trees : List (Tree K)} {stop : Nat}

/-- A repetition of the clause comes to a match at `i`, with these children and this end. -/
def Repeats (g : Grammar K V) (ts : List (Token K)) (c : Clause K) (i : Nat)
    (trees : List (Tree K)) (stop : Nat) : Prop :=
  ∃ o, g.matchClause ts (.zeroOrMore c) i = .ok o ∧ o.repetition? = some (trees, stop)

theorem stopsAtEnd_matchClause : StopsAtEnd ts (g.matchClause ts c) :=
  fun _ _ hq he => Clause.matchAt_safe hq he (call_safe hq he) c

theorem matchClause_zeroOrMore :
    g.matchClause ts (.zeroOrMore c) i = .ok o ↔
      ∃ r, Takes ts (g.matchClause ts c) i r ∧ r.outcome ts = .ok o :=
  Clause.matchAt_zeroOrMore

theorem exists_repetition?_eq_some (h : g.matchClause ts (.zeroOrMore c) i = .ok o) :
    ∃ trees stop, o.repetition? = some (trees, stop) := by
  obtain ⟨r, -, h⟩ := matchClause_zeroOrMore.1 h
  obtain ⟨t, -, rfl⟩ := Repetition.outcome_eq_ok.1 h
  exact ⟨r.trees, r.stop, rfl⟩

theorem repeats_iff :
    g.Repeats ts c i trees stop ↔ ∃ errors t,
      Takes ts (g.matchClause ts c) i ⟨trees, stop, errors⟩ ∧ ts[stop]? = some t := by
  simp only [Repeats, matchClause_zeroOrMore, Repetition.outcome_eq_ok]
  constructor
  · rintro ⟨_, ⟨r, hr, t, ht, rfl⟩, heq⟩
    cases heq
    exact ⟨r.errors, t, hr, ht⟩
  · rintro ⟨errors, t, hr, ht⟩
    exact ⟨_, ⟨_, hr, t, ht, rfl⟩, rfl⟩

omit [TokenKind K] in
theorem exists_token_of_le (hi : i ≤ q) (hq : ts[q]? = some e) : ∃ t, ts[i]? = some t :=
  ⟨_, List.getElem?_eq_getElem (hi.trans_lt (List.getElem?_eq_some_iff.1 hq).1)⟩

section

variable (hi : i ≤ q) (hq : ts[q]? = some e) (he : e.isEnd = true)
  (ho : g.matchClause ts c i = .ok o)

include hi hq ho

theorem Repeats.nil (hnone : o.progress? i = none) : g.Repeats ts c i [] i := by
  obtain ⟨t, ht⟩ := exists_token_of_le hi hq
  exact repeats_iff.2 ⟨o.errors, t, .of_no_progress ho hnone, ht⟩

include he

theorem le_of_progress (hsome : o.progress? i = some (tree, j)) : j ≤ q := by
  obtain ⟨-, ended, errors, rfl⟩ := Outcome.progress?_eq_some.1 hsome
  have hstop : i ≤ j ∧ j ≤ q := (matchAt_safe hq he c hi).of_eq_ok ho
  exact hstop.2

theorem Repeats.cons (hsome : o.progress? i = some (tree, j)) (h : g.Repeats ts c j trees stop) :
    g.Repeats ts c i (tree :: trees) stop := by
  obtain ⟨errors, s, hr, hs⟩ := repeats_iff.1 h
  obtain ⟨t, ht⟩ := exists_token_of_le (le_of_progress hi hq he ho hsome) hq
  obtain ⟨errors', hr'⟩ := Takes.of_progress stopsAtEnd_matchClause ho hsome ht hr
  exact repeats_iff.2 ⟨errors', s, hr', hs⟩

end

theorem matchClause_oneOrMore (ho : g.matchClause ts c i = .ok o) {p : Outcome K}
    (h : g.matchClause ts (.oneOrMore c) i = .ok p) :
    (p.isMatch = true ↔ o.progress? i ≠ none) ∧
      (p.isMatch = true → g.matchClause ts (.zeroOrMore c) i = .ok p) := by
  obtain ⟨r, hr, hcases⟩ := Clause.matchAt_oneOrMore_cases h
  have hnil : r.trees = [] ↔ o.progress? i = none := hr.trees_eq_nil_iff ho
  obtain ⟨htrees, hout⟩ | ⟨htrees, errors, rfl⟩ := hcases
  · obtain ⟨t, -, rfl⟩ := Repetition.outcome_eq_ok.1 hout
    exact ⟨iff_of_true rfl (hnil.not.1 htrees), fun _ => matchClause_zeroOrMore.2 ⟨r, hr, hout⟩⟩
  · have hnone : ¬ o.progress? i ≠ none := not_not.2 (hnil.1 htrees)
    exact ⟨iff_of_false Bool.false_ne_true hnone, fun hm => by cases hm⟩

theorem repeats_of_takeOn (hi : i ≤ q) (hq : ts[q]? = some e) (he : e.isEnd = true) {n : Nat}
    {r : Repetition K} (h : Repetition.takeOn (g.matchClause ts c) n i = .ok r) :
    g.Repeats ts c i r.trees r.stop := by
  induction n generalizing i r with
  | zero => cases h
  | succ n ih =>
    obtain ⟨o, ho, h⟩ := Except.bind_eq_ok.1 h
    cases hsome : o.progress? i with
    | none =>
      rw [hsome] at h
      cases Except.pure_eq_ok.1 h
      exact .nil hi hq ho hsome
    | some p =>
      obtain ⟨tree, stop⟩ := p
      rw [hsome] at h
      obtain ⟨more, hmore, h⟩ := Except.bind_eq_ok.1 h
      cases Except.pure_eq_ok.1 h
      exact .cons hi hq he ho hsome (ih (le_of_progress hi hq he ho hsome) hmore)

end Grammar

/-- Before an end marker, a repetition always matches. If its clause takes a token, it takes the
clause's tree and then what a repetition takes from there; otherwise nothing. Where one match at
least is asked for, it matches if the clause takes a token, and then as it would otherwise. The
attempts that are not made at end markers would not change what is taken. -/
theorem repetition_unfolds (g : Grammar K V) {ts : List (Token K)} {p q : Nat} {e : Token K}
    (hp : p ≤ q) (hq : ts[q]? = some e) (he : e.isEnd = true) (c : Clause K) :
    (∀ o, g.matchClause ts (.zeroOrMore c) p = .ok o →
      ∃ trees stop, o.repetition? = some (trees, stop)) ∧
    (∀ first, g.matchClause ts c p = .ok first →
      (first.progress? p = none → g.Repeats ts c p [] p) ∧
      (∀ tree next, first.progress? p = some (tree, next) → ∀ trees stop,
        g.Repeats ts c next trees stop → g.Repeats ts c p (tree :: trees) stop) ∧
      ∀ o, g.matchClause ts (.oneOrMore c) p = .ok o →
        (o.isMatch = true ↔ first.progress? p ≠ none) ∧
        (o.isMatch = true → g.matchClause ts (.zeroOrMore c) p = .ok o)) ∧
    ∀ n r, Repetition.takeOn (g.matchClause ts c) n p = .ok r → g.Repeats ts c p r.trees r.stop :=
  ⟨fun _ => Grammar.exists_repetition?_eq_some,
    fun _ hfirst => ⟨.nil hp hq hfirst, fun _ _ hsome _ _ => .cons hp hq he hfirst hsome,
      fun _ => Grammar.matchClause_oneOrMore hfirst⟩,
    fun _ _ => Grammar.repeats_of_takeOn hp hq he⟩

namespace Brackets

def item : Tree Json.TokenType := .node ⟨"item", 0, "Int", none⟩ [.leaf (token .int)]

theorem item_is_repeated :
    1 ≤ 2 ∧ (Grammar.withEndMarker interrupted)[2]? = some (token .endMarker) ∧
      (token .endMarker).isEnd = true ∧
      (∃ first, grammar.matchClause (Grammar.withEndMarker interrupted) (.nonTerminal "item") 1 =
        .ok first ∧ first.progress? 1 = some (item, 2)) ∧
      grammar.Repeats (Grammar.withEndMarker interrupted) (.nonTerminal "item") 1 [item] 2 := by
  have hmarker : (Grammar.withEndMarker interrupted)[2]? = some (token .endMarker) := rfl
  have hfirst : grammar.matchClause (Grammar.withEndMarker interrupted) (.nonTerminal "item") 1 =
      .ok (.matched item 2 false []) := by
    rfl
  have hlast : grammar.matchClause (Grammar.withEndMarker interrupted) (.nonTerminal "item") 2 =
      .ok (.failed [.expectedAny (token .endMarker) [.int, .openBracket]] 2) := by
    rfl
  have hend := (repetition_unfolds grammar (Nat.le_refl 2) hmarker rfl (.nonTerminal "item")).2.1
    _ hlast
  have hunfold := (repetition_unfolds grammar (Nat.le_succ 1) hmarker rfl
    (.nonTerminal "item")).2.1 _ hfirst
  exact ⟨Nat.le_succ 1, hmarker, rfl, ⟨_, hfirst, rfl⟩,
    hunfold.2.1 item 2 rfl [] 2 (hend.1 rfl)⟩

end Brackets

end Parsing
