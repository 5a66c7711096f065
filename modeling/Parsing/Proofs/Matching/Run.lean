import Parsing.Matching.Matcher
import Parsing.Proofs.Grammar.Alternatives

namespace Parsing

variable {K V : Type}

theorem Except.bind_eq_ok {ε α β : Type} {x : Except ε α} {f : α → Except ε β} {b : β} :
    x >>= f = .ok b ↔ ∃ a, x = .ok a ∧ f a = .ok b := by
  cases x with
  | error e => simp [bind, Except.bind]
  | ok a => simp [bind, Except.bind]

theorem Except.pure_eq_ok {ε α : Type} {a b : α} : (pure a : Except ε α) = .ok b ↔ a = b :=
  ⟨fun h => Except.ok.inj h, congrArg Except.ok⟩

theorem tokenAt_eq_ok {ts : List (Token K)} {i : Nat} {t : Token K} :
    tokenAt ts i = .ok t ↔ ts[i]? = some t := by
  rw [tokenAt]
  split <;> simp_all

variable [TokenKind K]

def Outcome.asOption (ts : List (Token K)) (i : Nat) : Outcome K → Outcome K
  | matched tree stop ended errors => .matched (.present tree) stop ended errors
  | failed _ _ | inapplicable _ => .matchedAt ts .absent i []

def Matches.asOutcome (ts : List (Token K)) (tree : List (Tree K) → Tree K) : Matches K → Outcome K
  | matched trees stop errors => .matchedAt ts (tree trees) stop errors
  | failed errors stop => .failed errors stop

variable {ts : List (Token K)} {call : String → Nat → Match (Outcome K)} {i : Nat}

inductive Takes (ts : List (Token K)) (step : Nat → Match (Outcome K)) : Nat → Repetition K → Prop
  | done {i : Nat} {o : Outcome K} : step i = .ok o → (o.isMatch = true → o.stop ≤ i) →
    Takes ts step i ⟨[], i, o.errors⟩
  | last {i stop : Nat} {tree : Tree K} {ended : Bool} {errors : List (Unexpected K)} {t : Token K} :
    step i = .ok (.matched tree stop ended errors) → i < stop → ts[stop]? = some t →
    t.isEnd = true → Takes ts step i ⟨[tree], stop, []⟩
  | more {i stop : Nat} {tree : Tree K} {ended : Bool} {errors : List (Unexpected K)} {t : Token K}
      {r : Repetition K} :
    step i = .ok (.matched tree stop ended errors) → i < stop → ts[stop]? = some t →
    t.isEnd = false → Takes ts step stop r → Takes ts step i ⟨tree :: r.trees, r.stop, r.errors⟩

namespace Repetition

variable {step : Nat → Match (Outcome K)} {r : Repetition K}

theorem takes_of_take {n : Nat} (h : take ts step n i = .ok r) : Takes ts step i r := by
  induction n generalizing i r with
  | zero => cases h
  | succ n ih =>
    rw [take, Except.bind_eq_ok] at h
    obtain ⟨o, ho, h⟩ := h
    cases o with
    | matched tree stop ended errors =>
      dsimp only at h
      split at h
      · next hlt =>
        obtain ⟨t, ht, h⟩ := Except.bind_eq_ok.1 h
        rw [tokenAt_eq_ok] at ht
        split at h
        · next hend =>
          cases Except.pure_eq_ok.1 h
          exact .last ho hlt ht hend
        · next hend =>
          obtain ⟨more, hmore, h⟩ := Except.bind_eq_ok.1 h
          cases Except.pure_eq_ok.1 h
          exact .more ho hlt ht (by simpa using hend) (ih hmore)
      · next hlt =>
        cases Except.pure_eq_ok.1 h
        exact .done ho fun _ => Nat.le_of_not_lt hlt
    | failed errors stop =>
      cases Except.pure_eq_ok.1 h
      exact .done ho nofun
    | inapplicable stop =>
      cases Except.pure_eq_ok.1 h
      exact .done ho nofun

theorem take_of_takes (h : Takes ts step i r) {n : Nat} (hn : ts.length - i < n) :
    take ts step n i = .ok r := by
  induction h generalizing n with
  | @done i o ho hstop =>
    obtain ⟨n, rfl⟩ := Nat.exists_eq_succ_of_ne_zero (Nat.ne_zero_of_lt hn)
    rw [take, Except.bind_eq_ok]
    refine ⟨o, ho, ?_⟩
    cases o with
    | matched tree stop ended errors => exact if_neg (Nat.not_lt.2 (hstop rfl))
    | failed errors stop => rfl
    | inapplicable stop => rfl
  | last ho hlt ht hend =>
    obtain ⟨n, rfl⟩ := Nat.exists_eq_succ_of_ne_zero (Nat.ne_zero_of_lt hn)
    rw [take, Except.bind_eq_ok]
    refine ⟨_, ho, ?_⟩
    simp only [hlt, if_true, Except.bind_eq_ok]
    exact ⟨_, tokenAt_eq_ok.2 ht, by rw [if_pos hend]; rfl⟩
  | more ho hlt ht hend _ ih =>
    obtain ⟨n, rfl⟩ := Nat.exists_eq_succ_of_ne_zero (Nat.ne_zero_of_lt hn)
    have hbound := (List.getElem?_eq_some_iff.1 ht).1
    rw [take, Except.bind_eq_ok]
    refine ⟨_, ho, ?_⟩
    simp only [hlt, if_true, Except.bind_eq_ok]
    refine ⟨_, tokenAt_eq_ok.2 ht, ?_⟩
    rw [if_neg (by simp [hend]), Except.bind_eq_ok]
    exact ⟨_, ih (by omega), rfl⟩

theorem take_eq_ok : take ts step (ts.length - i + 1) i = .ok r ↔ Takes ts step i r :=
  ⟨takes_of_take, fun h => take_of_takes h (Nat.lt_succ_self _)⟩

theorem outcome_eq_ok {o : Outcome K} :
    r.outcome ts = .ok o ↔ ∃ t, ts[r.stop]? = some t ∧
      o = .matchedAt ts (.many r.trees) r.stop (r.errors.filter (t.position.offset < ·.offset)) := by
  rw [outcome, Except.bind_eq_ok]
  refine exists_congr fun t => ?_
  rw [tokenAt_eq_ok]
  exact and_congr_right fun _ => Except.pure_eq_ok.trans eq_comm

end Repetition

namespace Clause

variable {c : Clause K} {cs : List (Clause K)} {o : Outcome K}

theorem matchAt_terminal {k : K} :
    matchAt ts call (.terminal k) i = .ok o ↔ ∃ t, ts[i]? = some t ∧
      o = if t.kind = k ∧ t.isEnd = false then .matchedAt ts (.leaf t) (i + 1) []
        else .failed [.expectedOne t k] i := by
  simp only [matchAt, matchTerminal, Except.bind_eq_ok, tokenAt_eq_ok]
  refine exists_congr fun t => and_congr_right fun _ => ?_
  simp only [Bool.and_eq_true, decide_eq_true_eq, Bool.not_eq_true']
  split <;> exact Except.pure_eq_ok.trans eq_comm

theorem matchAt_zeroOrMore :
    matchAt ts call (.zeroOrMore c) i = .ok o ↔
      ∃ r, Takes ts (matchAt ts call c) i r ∧ r.outcome ts = .ok o := by
  simp only [matchAt, Except.bind_eq_ok, Repetition.take_eq_ok]

theorem matchAt_oneOrMore :
    matchAt ts call (.oneOrMore c) i = .ok o ↔
      ∃ r, Takes ts (matchAt ts call c) i r ∧
        if r.trees ≠ [] then r.outcome ts = .ok o
        else if r.errors ≠ [] then o = .failed r.errors i
        else ∃ t, ts[i]? = some t ∧ o = .failed [.nothingExpected t] i := by
  simp only [matchAt, Except.bind_eq_ok, Repetition.take_eq_ok]
  refine exists_congr fun r => and_congr_right fun _ => ?_
  obtain ⟨trees, stop, errors⟩ := r
  cases trees with
  | cons tree trees => rfl
  | nil =>
    cases errors with
    | cons e errors => exact Except.pure_eq_ok.trans eq_comm
    | nil =>
      refine Except.bind_eq_ok.trans (exists_congr fun t => ?_)
      rw [tokenAt_eq_ok]
      exact and_congr_right fun _ => Except.pure_eq_ok.trans eq_comm

theorem matchAt_oneOrMore_cases (h : matchAt ts call (.oneOrMore c) i = .ok o) :
    ∃ r, Takes ts (matchAt ts call c) i r ∧ ((r.trees ≠ [] ∧ r.outcome ts = .ok o) ∨
      (r.trees = [] ∧ ∃ errors, o = .failed errors i)) := by
  obtain ⟨r, hr, h⟩ := matchAt_oneOrMore.1 h
  refine ⟨r, hr, ?_⟩
  split at h
  · next htrees => exact .inl ⟨htrees, h⟩
  · next htrees =>
    refine .inr ⟨not_not.1 htrees, ?_⟩
    split at h
    · exact ⟨_, h⟩
    · obtain ⟨t, -, h⟩ := h
      exact ⟨_, h⟩

variable {r : Repetition K}

theorem matchAt_oneOrMore_of_ne_nil (hr : Takes ts (matchAt ts call c) i r) (htrees : r.trees ≠ [])
    (h : r.outcome ts = .ok o) : matchAt ts call (.oneOrMore c) i = .ok o := by
  rw [matchAt_oneOrMore]
  refine ⟨r, hr, ?_⟩
  rw [if_pos htrees]
  exact h

theorem matchAt_oneOrMore_of_nil (hr : Takes ts (matchAt ts call c) i r) (htrees : r.trees = [])
    {t : Token K} (ht : ts[i]? = some t) :
    ∃ errors, matchAt ts call (.oneOrMore c) i = .ok (.failed errors i) := by
  by_cases herrors : r.errors = []
  · refine ⟨[.nothingExpected t], matchAt_oneOrMore.2 ⟨r, hr, ?_⟩⟩
    rw [if_neg (not_not.2 htrees), if_neg (not_not.2 herrors)]
    exact ⟨t, ht, rfl⟩
  · refine ⟨r.errors, matchAt_oneOrMore.2 ⟨r, hr, ?_⟩⟩
    rw [if_neg (not_not.2 htrees), if_pos herrors]

theorem matchAt_optional :
    matchAt ts call (.optional c) i = .ok o ↔
      ∃ p, matchAt ts call c i = .ok p ∧ o = p.asOption ts i := by
  simp only [matchAt, Except.bind_eq_ok]
  refine exists_congr fun p => and_congr_right fun _ => ?_
  cases p <;> exact Except.pure_eq_ok.trans eq_comm

theorem matchAt_group :
    matchAt ts call (.group cs) i = .ok o ↔
      ∃ ms, matchAll ts call cs i = .ok ms ∧ o = ms.asOutcome ts .group := by
  simp only [matchAt, Except.bind_eq_ok]
  refine exists_congr fun ms => and_congr_right fun _ => ?_
  cases ms <;> exact Except.pure_eq_ok.trans eq_comm

variable {ms : Matches K}

theorem matchAll_nil : matchAll ts call [] i = .ok ms ↔ ms = .matched [] i [] := by
  rw [matchAll]
  exact Except.pure_eq_ok.trans eq_comm

theorem matchAll_cons :
    matchAll ts call (c :: cs) i = .ok ms ↔
      (∃ tree stop ended errors rest, matchAt ts call c i = .ok (.matched tree stop ended errors) ∧
        matchAll ts call cs stop = .ok rest ∧ ms = rest.cons tree errors) ∨
      ∃ p, matchAt ts call c i = .ok p ∧ p.isMatch = false ∧ ms = .failed p.errors i := by
  rw [matchAll, Except.bind_eq_ok]
  constructor
  · rintro ⟨p, hp, h⟩
    cases p with
    | matched tree stop ended errors =>
      obtain ⟨rest, hrest, h⟩ := Except.bind_eq_ok.1 h
      exact .inl ⟨tree, stop, ended, errors, rest, hp, hrest, (Except.pure_eq_ok.1 h).symm⟩
    | failed errors stop => exact .inr ⟨_, hp, rfl, (Except.pure_eq_ok.1 h).symm⟩
    | inapplicable stop => exact .inr ⟨_, hp, rfl, (Except.pure_eq_ok.1 h).symm⟩
  · rintro (⟨tree, stop, ended, errors, rest, hp, hrest, rfl⟩ | ⟨p, hp, hm, rfl⟩)
    · exact ⟨_, hp, Except.bind_eq_ok.2 ⟨rest, hrest, rfl⟩⟩
    · refine ⟨p, hp, ?_⟩
      cases p with
      | matched => cases hm
      | failed errors stop => rfl
      | inapplicable stop => rfl

end Clause

end Parsing
