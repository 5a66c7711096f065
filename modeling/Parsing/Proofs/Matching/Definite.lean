import Parsing.Proofs.Matching.Attempts
import Parsing.Proofs.Matching.Closed
import Parsing.Proofs.Matching.Truthful

namespace Parsing

variable {K V : Type}

inductive Matches.Definite (i : Nat) : Matches K → Prop
  | matched {trees : List (Tree K)} {stop : Nat} {errors : List (Unexpected K)} :
    i ≤ stop → Definite i (.matched trees stop errors)
  | failed {errors : List (Unexpected K)} {stop : Nat} :
    errors ≠ [] → i ≤ stop → Definite i (.failed errors stop)

theorem Matches.Definite.cons {i j : Nat} {ms : Matches K} (h : ms.Definite j) (hij : i ≤ j)
    (tree : Tree K) (errors : List (Unexpected K)) : (ms.cons tree errors).Definite i := by
  cases h with
  | matched hj => exact .matched (hij.trans hj)
  | failed he hj => exact .failed (by simp [he]) (hij.trans hj)

variable [TokenKind K]

inductive Outcome.Definite (ts : List (Token K)) (i : Nat) : Outcome K → Prop
  | matched {tree : Tree K} {stop : Nat} {errors : List (Unexpected K)} :
    i ≤ stop → Definite ts i (.matched tree stop (isEndedAt ts stop) errors)
  | failed {errors : List (Unexpected K)} {stop : Nat} :
    errors ≠ [] → i ≤ stop → Definite ts i (.failed errors stop)

def StepDefinite (ts : List (Token K)) (step : Nat → Match (Outcome K)) : Prop :=
  ∀ i o, step i = .ok o → o.Definite ts i

variable {ts : List (Token K)} {call : String → Nat → Match (Outcome K)} {i : Nat} {o : Outcome K}

theorem Outcome.Definite.le_stop (h : o.Definite ts i) : i ≤ o.stop := by
  cases h with
  | matched hi => exact hi
  | failed _ hi => exact hi

theorem Outcome.Definite.errors_ne_nil (h : o.Definite ts i) (ho : o.isMatch = false) :
    o.errors ≠ [] := by
  cases h with
  | matched => cases ho
  | failed herrors => exact herrors

theorem Outcome.Definite.asOption (h : o.Definite ts i) : (o.asOption ts i).Definite ts i := by
  cases h with
  | matched hi => exact .matched hi
  | failed => exact .matched (Nat.le_refl i)

theorem Matches.Definite.asOutcome {ms : Matches K} (h : ms.Definite i)
    (tree : List (Tree K) → Tree K) : (ms.asOutcome ts tree).Definite ts i := by
  cases h with
  | matched hi => exact .matched hi
  | failed herrors hi => exact .failed herrors hi

theorem Takes.le_stop {step : Nat → Match (Outcome K)} {r : Repetition K}
    (h : Takes ts step i r) : i ≤ r.stop :=
  (Nat.le_add_right _ _).trans h.length_trees_le

theorem Repetition.outcome_definite {r : Repetition K} (hr : i ≤ r.stop)
    (h : r.outcome ts = .ok o) : o.Definite ts i := by
  obtain ⟨t, -, rfl⟩ := outcome_eq_ok.1 h
  exact .matched hr

namespace Clause

theorem matchAll_definite {cs : List (Clause K)}
    (hcs : ∀ c ∈ cs, StepDefinite ts (matchAt ts call c)) {ms : Matches K}
    (h : matchAll ts call cs i = .ok ms) : ms.Definite i := by
  induction cs generalizing i ms with
  | nil =>
    cases matchAll_nil.1 h
    exact .matched (Nat.le_refl i)
  | cons c cs ih =>
    obtain ⟨tree, stop, ended, errors, rest, ho, hrest, rfl⟩ | ⟨o, ho, hm, rfl⟩ := matchAll_cons.1 h
    · have hrest := ih (fun d hd => hcs d (by simp [hd])) hrest
      exact hrest.cons (hcs c (by simp) i _ ho).le_stop tree errors
    · exact .failed ((hcs c (by simp) i o ho).errors_ne_nil hm) (Nat.le_refl i)

theorem matchAt_definite (hcall : ∀ name, StepDefinite ts (call name)) (c : Clause K) :
    StepDefinite ts (matchAt ts call c) := by
  induction c using Clause.induction with
  | terminal k =>
    intro i o h
    obtain ⟨t, -, rfl⟩ := matchAt_terminal.1 h
    split
    · exact .matched (Nat.le_succ i)
    · exact .failed (by simp) (Nat.le_refl i)
  | nonTerminal name =>
    intro i o h
    rw [matchAt_nonTerminal] at h
    exact hcall name i o h
  | zeroOrMore c =>
    intro i o h
    obtain ⟨r, hr, h⟩ := matchAt_zeroOrMore.1 h
    exact Repetition.outcome_definite hr.le_stop h
  | oneOrMore c =>
    intro i o h
    obtain ⟨r, hr, h⟩ := matchAt_oneOrMore.1 h
    split at h
    · exact Repetition.outcome_definite hr.le_stop h
    · split at h
      · next herrors =>
        subst h
        exact .failed herrors (Nat.le_refl i)
      · obtain ⟨t, -, rfl⟩ := h
        exact .failed (by simp) (Nat.le_refl i)
  | optional c ih =>
    intro i o h
    obtain ⟨p, hp, rfl⟩ := matchAt_optional.1 h
    exact (ih i p hp).asOption
  | group cs ih =>
    intro i o h
    obtain ⟨ms, hms, rfl⟩ := matchAt_group.1 h
    exact (matchAll_definite ih hms).asOutcome _

end Clause

theorem Rule.matchAt_eq_ok {name : String} {index : Nat} {r : Rule K V} :
    r.matchAt ts call name index i = .ok o ↔ ∃ t, ts[i]? = some t ∧
      if (r.admits t.kind || r.mayBeEmpty) = true then
        ∃ ms, Clause.matchAll ts call r.clauses i = .ok ms ∧
          o = ms.asOutcome ts fun trees => .node (r.head name index trees) trees
      else o = .inapplicable i := by
  rw [← matchBy_leading, matchBy_eq_ok]
  rfl

theorem Rule.matchAt_definite (hcall : ∀ name, StepDefinite ts (call name)) {name : String}
    {index : Nat} {r : Rule K V} {t : Token K} (ht : ts[i]? = some t)
    (happly : (r.admits t.kind || r.mayBeEmpty) = true)
    (h : r.matchAt ts call name index i = .ok o) : o.Definite ts i := by
  obtain ⟨t', ht', h⟩ := matchAt_eq_ok.1 h
  obtain rfl : t' = t := Option.some.inj (ht'.symm.trans ht)
  rw [if_pos happly] at h
  obtain ⟨ms, hms, rfl⟩ := h
  exact (Clause.matchAll_definite (fun c _ => Clause.matchAt_definite hcall c) hms).asOutcome _

namespace NonTerminal

section

variable {attempt : Nat × Rule K V → Match (Outcome K)} {rs : List (Nat × Rule K V)}
  (hattempt : ∀ p ∈ rs, ∀ o, attempt p = .ok o → o.Definite ts i) (hrs : rs ≠ [])
include hattempt

theorem definite_of_untilMatch {os : List (Outcome K)}
    (hos : Match.untilMatch attempt rs = .ok os) : ∀ o ∈ os, o.Definite ts i := by
  intro o ho
  obtain ⟨p, hp, hpo⟩ := Match.exists_of_mem_untilMatch hos ho
  exact hattempt p hp o hpo

include hrs

theorem keeps_of_failed {os : List (Outcome K)} (hos : Match.untilMatch attempt rs = .ok os)
    (hfailed : ∀ o ∈ os, o.isMatch = false) : (os.foldl Furthest.note ⟨0, []⟩).Keeps os :=
  Furthest.keeps_foldl_note (Match.untilMatch_ne_nil hos hrs) fun o ho =>
    (definite_of_untilMatch hattempt hos o ho).errors_ne_nil (hfailed o ho)

theorem firstMatch_definite {none : Unexpected K}
    (h : firstMatch attempt none rs ⟨0, []⟩ = .ok o) : o.Definite ts i := by
  obtain ⟨os, hos, rfl⟩ := firstMatch_eq_ok.1 h
  have hdefinite := definite_of_untilMatch hattempt hos
  obtain hfailed | ⟨before, m, rfl, hm, -⟩ := Match.cases_of_untilMatch hos
  · obtain ⟨p, hp, hkept⟩ := keeps_of_failed hattempt hrs hos hfailed
    rw [hkept, Furthest.outcome_of_failed hp.errors_ne_nil none hfailed]
    exact .failed hp.errors_ne_nil (hdefinite p hp.mem).le_stop
  · have hlast := hdefinite m (by simp)
    cases hlast with
    | matched hi =>
      rw [Furthest.outcome_of_matched]
      exact .matched hi
    | failed => cases hm

end

variable {n : NonTerminal K V}

theorem matchAt_eq_ok :
    n.matchAt ts call i = .ok o ↔ ∃ t, ts[i]? = some t ∧
      if n.candidates t.kind = [] then o = .failed [n.noStart t] i
      else firstMatch (fun p => p.2.matchAt ts call n.name p.1 i) (n.noStart t)
        (n.candidates t.kind) ⟨0, []⟩ = .ok o := by
  rw [← matchBy_leading, matchBy_eq_ok]
  simp only [Rule.matchBy_leading]
  rfl

theorem candidate_definite (hcall : ∀ name, StepDefinite ts (call name)) {t : Token K}
    (ht : ts[i]? = some t) {p : Nat × Rule K V} (hp : p ∈ n.candidates t.kind)
    (h : p.2.matchAt ts call n.name p.1 i = .ok o) : o.Definite ts i :=
  Rule.matchAt_definite hcall ht (List.mem_filter.1 hp).2 h

theorem matchAt_definite (hcall : ∀ name, StepDefinite ts (call name)) (n : NonTerminal K V) :
    StepDefinite ts (n.matchAt ts call) := by
  intro i o h
  obtain ⟨t, ht, h⟩ := matchAt_eq_ok.1 h
  split at h
  · subst h
    exact .failed (by simp) (Nat.le_refl i)
  · next hne =>
    exact firstMatch_definite (fun p hp o => candidate_definite hcall ht hp) hne h

end NonTerminal

namespace Grammar

variable {g : Grammar K V}

theorem call_definite {depth : Nat} (name : String) : StepDefinite ts (g.call ts depth name) := by
  induction depth generalizing name with
  | zero =>
    intro i o h
    cases h
  | succ depth ih =>
    intro i o h
    obtain ⟨t, -, h⟩ := Except.bind_eq_ok.1 h
    cases hn : g.nonTerminal? name with
    | none =>
      rw [hn] at h
      cases h
      exact .failed (by simp) (Nat.le_refl i)
    | some n =>
      rw [hn] at h
      exact NonTerminal.matchAt_definite ih n i o h

end Grammar

/-- What is done where no run comes to: where a rule that is tried does not apply, and where a
non-terminal fails without errors. -/
structure DeadEnds (K V : Type) where
  inapplicable : Nat → Match (Outcome K)
  noErrors : NonTerminal K V → Token K → Nat → Match (Outcome K)

namespace DeadEnds

variable (d : DeadEnds K V)

def matchRule (ts : List (Token K)) (call : String → Nat → Match (Outcome K)) (name : String)
    (index : Nat) (r : Rule K V) (i : Nat) : Match (Outcome K) := do
  let t ← tokenAt ts i
  if r.admits t.kind || r.mayBeEmpty then r.matchAt ts call name index i else d.inapplicable i

def firstMatch (attempt : Nat × Rule K V → Match (Outcome K)) (noErrors : Nat → Match (Outcome K)) :
    List (Nat × Rule K V) → Furthest K → Match (Outcome K)
  | [], f => if f.errors.isEmpty then noErrors f.stop else return .failed f.errors f.stop
  | r :: rs, f => do
    let o ← attempt r
    let f := f.note o
    match o with
    | .matched tree stop ended _ => return .matched tree stop ended f.errors
    | .failed _ _ | .inapplicable _ => firstMatch attempt noErrors rs f

def matchNonTerminal (ts : List (Token K)) (call : String → Nat → Match (Outcome K))
    (n : NonTerminal K V) (i : Nat) : Match (Outcome K) := do
  let t ← tokenAt ts i
  let rules := n.candidates t.kind
  if rules.isEmpty then return .failed [n.noStart t] i
  else
    firstMatch (fun (index, r) => d.matchRule ts call n.name index r i) (d.noErrors n t) rules
      ⟨0, []⟩

def matchNamed (g : Grammar K V) (ts : List (Token K)) :
    (depth : Nat) → String → Nat → Match (Outcome K)
  | 0, _, _ => .error .endless
  | depth + 1, name, i => do
    let t ← tokenAt ts i
    match g.nonTerminal? name with
    | some n => d.matchNonTerminal ts (matchNamed g ts depth) n i
    | none => return .failed [.nothingExpected t] i

def matchStart (g : Grammar K V) (ts : List (Token K)) (n : NonTerminal K V) :
    Match (Outcome K) := do
  let t ← tokenAt ts 0
  let rules := n.numbered.filter fun (_, r) => r.admits t.kind
  let attempts ← rules.mapM fun (index, r) =>
    d.matchRule ts (d.matchNamed g ts (g.depth ts)) n.name index r 0
  if attempts.isEmpty then return .failed [n.noStart t] 0
  match attempts.find? fun o => o.isEnded && o.isMatch with
  | some o => return o
  | none => Grammar.report ts attempts

def parse (g : Grammar K V) (ts : List (Token K)) (start : String) : Match (Outcome K) := do
  let ts := Grammar.withEndMarker ts
  match g.nonTerminal? start with
  | some n => d.matchStart g ts n
  | none => return .failed [.nothingExpected (← tokenAt ts 0)] 0

variable {d} {g : Grammar K V}

theorem matchRule_eq {name : String} {index : Nat} {r : Rule K V} {t : Token K}
    (ht : ts[i]? = some t) (happly : (r.admits t.kind || r.mayBeEmpty) = true) :
    d.matchRule ts call name index r i = r.matchAt ts call name index i := by
  rw [matchRule, tokenAt_eq_ok.2 ht]
  exact if_pos happly

omit [TokenKind K] in
theorem firstMatch_eq {attempt : Nat × Rule K V → Match (Outcome K)}
    {noErrors : Nat → Match (Outcome K)} (none : Unexpected K) {rs : List (Nat × Rule K V)}
    {f : Furthest K} (h : ∀ os, Match.untilMatch attempt rs = .ok os →
      (∀ o ∈ os, o.isMatch = false) → (os.foldl Furthest.note f).errors ≠ []) :
    firstMatch attempt noErrors rs f = NonTerminal.firstMatch attempt none rs f := by
  induction rs generalizing f with
  | nil =>
    have hf : f.errors ≠ [] := h [] rfl (List.forall_mem_nil _)
    simp only [firstMatch, NonTerminal.firstMatch, List.isEmpty_iff, if_neg hf]
  | cons r rs ih =>
    simp only [firstMatch, NonTerminal.firstMatch]
    cases ho : attempt r with
    | error fault => rfl
    | ok o =>
      have hmore (hm : o.isMatch = false) :
          firstMatch attempt noErrors rs (f.note o) =
            NonTerminal.firstMatch attempt none rs (f.note o) := by
        refine ih fun os hos hfailed => h (o :: os) ?_ (List.forall_mem_cons.2 ⟨hm, hfailed⟩)
        refine Match.untilMatch_cons.2 ⟨o, ho, ?_⟩
        rw [if_neg (Bool.eq_false_iff.1 hm)]
        exact ⟨os, hos, rfl⟩
      cases o with
      | matched => rfl
      | failed | inapplicable => exact hmore rfl

theorem matchNonTerminal_eq (hcall : ∀ name, StepDefinite ts (call name)) (n : NonTerminal K V) :
    d.matchNonTerminal ts call n i = n.matchAt ts call i := by
  simp only [matchNonTerminal, NonTerminal.matchAt]
  cases ht : tokenAt ts i with
  | error fault => rfl
  | ok t =>
    rw [tokenAt_eq_ok] at ht
    simp only [bind, Except.bind]
    split
    · rfl
    · next hne =>
      rw [List.isEmpty_iff] at hne
      have hdefinite (p : Nat × Rule K V) (hp : p ∈ n.candidates t.kind) (o : Outcome K)
          (ho : d.matchRule ts call n.name p.1 p.2 i = .ok o) : o.Definite ts i := by
        rw [matchRule_eq ht (List.mem_filter.1 hp).2] at ho
        exact NonTerminal.candidate_definite hcall ht hp ho
      rw [firstMatch_eq (n.noStart t) fun os hos hfailed => ?_]
      · exact NonTerminal.firstMatch_congr fun p hp => matchRule_eq ht (List.mem_filter.1 hp).2
      · obtain ⟨p, hp, hkept⟩ := NonTerminal.keeps_of_failed hdefinite hne hos hfailed
        rw [hkept]
        exact hp.errors_ne_nil

theorem matchNamed_eq (depth : Nat) : d.matchNamed g ts depth = g.call ts depth := by
  induction depth with
  | zero => rfl
  | succ depth ih =>
    funext name i
    have hmatch (n : NonTerminal K V) :
        d.matchNonTerminal ts (g.call ts depth) n i = n.matchAt ts (g.call ts depth) i :=
      matchNonTerminal_eq Grammar.call_definite n
    cases hn : g.nonTerminal? name <;> simp only [matchNamed, Grammar.call, hn, ih, hmatch]

theorem matchStart_eq (n : NonTerminal K V) : d.matchStart g ts n = g.matchStart ts n := by
  simp only [matchStart, Grammar.matchStart, matchNamed_eq]
  cases ht : tokenAt ts 0 with
  | error fault => rfl
  | ok t =>
    rw [tokenAt_eq_ok] at ht
    have hrules : ((n.numbered.filter fun p => p.2.admits t.kind).mapM fun p =>
          d.matchRule ts (g.call ts (g.depth ts)) n.name p.1 p.2 0) =
        (n.numbered.filter fun p => p.2.admits t.kind).mapM fun p =>
          g.matchRule ts n.name p.1 p.2 0 := by
      refine Match.mapM_congr fun p hp => matchRule_eq ht ?_
      rw [(List.mem_filter.1 hp).2, Bool.true_or]
    simp only [bind, Except.bind]
    exact hrules ▸ rfl

theorem parse_eq (start : String) : d.parse g ts start = g.parse ts start := by
  cases hn : g.nonTerminal? start <;> simp only [parse, Grammar.parse, hn, matchStart_eq]

end DeadEnds

/-- What a clause comes to anywhere, and a rule where it can start or may be empty, is a match that
tells whether it ended the input, or a failure with errors. No parse comes to a dead end: it is the
same whatever is done when a rule that is tried does not apply, and when a non-terminal fails
without errors. -/
theorem outcomes_are_definite (g : Grammar K V) (ts : List (Token K)) :
    (∀ c i o, g.matchClause ts c i = .ok o → o.Definite ts i) ∧
    (∀ name index r i t o, ts[i]? = some t → (r.admits t.kind || r.mayBeEmpty) = true →
      g.matchRule ts name index r i = .ok o → o.Definite ts i) ∧
    ∀ (d : DeadEnds K V) start, d.parse g ts start = g.parse ts start :=
  ⟨fun c i o => Clause.matchAt_definite Grammar.call_definite c i o,
    fun _ _ _ _ _ _ ht happly => Rule.matchAt_definite Grammar.call_definite ht happly,
    fun _ => DeadEnds.parse_eq⟩

namespace Brackets

def blind : DeadEnds Json.TokenType Nat where
  inapplicable i := .error (.noToken i)
  noErrors _ _ stop := .error (.noToken stop)

theorem unclosed_is_definite :
    ∃ errors, grammar.matchClause (Grammar.withEndMarker unclosed) (.nonTerminal "list") 0 =
        .ok (.failed errors 2) ∧ errors ≠ [] ∧
      blind.parse grammar unclosed "list" = grammar.parse unclosed "list" := by
  have hmatch : grammar.matchClause (Grammar.withEndMarker unclosed) (.nonTerminal "list") 0 =
      .ok (.failed [.expectedOne (token .endMarker) .closeBracket] 2) := by
    rfl
  have hdefinite := (outcomes_are_definite grammar (Grammar.withEndMarker unclosed)).1 _ _ _ hmatch
  cases hdefinite with
  | failed herrors =>
    exact ⟨_, hmatch, herrors, (outcomes_are_definite grammar unclosed).2.2 blind "list"⟩

end Brackets

end Parsing
