import Mathlib.Tactic.Simproc.ExistsAndEq
import Parsing.Proofs.Matching.Run

namespace Parsing

variable {K V : Type} [TokenKind K]

abbrev Choice (K V : Type) := Rule K V → K → Bool

namespace Choice

def leading : Choice K V := fun r k => r.admits k || r.mayBeEmpty

omit [TokenKind K] in
def all : Choice K V := fun _ _ => true

end Choice

def Rule.matchBy (choice : Choice K V) (ts : List (Token K))
    (call : String → Nat → Match (Outcome K)) (name : String) (index : Nat) (r : Rule K V)
    (i : Nat) : Match (Outcome K) := do
  let t ← tokenAt ts i
  if !choice r t.kind then return .inapplicable i
  return (← Clause.matchAll ts call r.clauses i).asOutcome ts fun trees =>
    .node (r.head name index trees) trees

def NonTerminal.matchBy (choice : Choice K V) (ts : List (Token K))
    (call : String → Nat → Match (Outcome K)) (n : NonTerminal K V) (i : Nat) :
    Match (Outcome K) := do
  let t ← tokenAt ts i
  let rules := n.numbered.filter fun (_, r) => choice r t.kind
  if rules.isEmpty then return .failed [n.noStart t] i
  else
    firstMatch (fun (index, r) => r.matchBy choice ts call n.name index i) (n.noStart t) rules
      ⟨0, []⟩

namespace Grammar

def callBy (choice : Choice K V) (g : Grammar K V) (ts : List (Token K)) :
    (depth : Nat) → String → Nat → Match (Outcome K)
  | 0, _, _ => .error .endless
  | depth + 1, name, i => do
    let t ← tokenAt ts i
    match g.nonTerminal? name with
    | some n => n.matchBy choice ts (callBy choice g ts depth) i
    | none => return .failed [.nothingExpected t] i

/-- Matches a clause with all rules tried in their order, whatever the token is. -/
def matchUnfiltered (g : Grammar K V) (ts : List (Token K)) (c : Clause K) (i : Nat) :
    Match (Outcome K) :=
  c.matchAt ts (g.callBy .all ts (g.depth ts)) i

end Grammar

variable {g : Grammar K V} {ts : List (Token K)} {call : String → Nat → Match (Outcome K)} {i : Nat}

theorem Rule.matchBy_leading {name : String} {index : Nat} {r : Rule K V} :
    r.matchBy .leading ts call name index i = r.matchAt ts call name index i := by
  simp only [matchBy, matchAt, Choice.leading, Bool.not_or]
  apply congrArg (tokenAt ts i >>= ·)
  funext t
  split
  · rfl
  · apply congrArg (Clause.matchAll ts call r.clauses i >>= ·)
    funext ms
    cases ms with
    | matched => rfl
    | failed => rfl

theorem NonTerminal.matchBy_leading {n : NonTerminal K V} :
    n.matchBy .leading ts call i = n.matchAt ts call i := by
  simp only [matchBy, Rule.matchBy_leading]
  rfl

theorem Grammar.callBy_leading {depth : Nat} : g.callBy .leading ts depth = g.call ts depth := by
  induction depth with
  | zero => rfl
  | succ depth ih =>
    funext name i
    rw [callBy, call, ih]
    apply congrArg (tokenAt ts i >>= ·)
    funext t
    cases g.nonTerminal? name with
    | none => rfl
    | some n => exact NonTerminal.matchBy_leading

variable {choice : Choice K V} {o : Outcome K}

theorem Rule.matchBy_eq_ok {name : String} {index : Nat} {r : Rule K V} :
    r.matchBy choice ts call name index i = .ok o ↔ ∃ t, ts[i]? = some t ∧
      if choice r t.kind = true then
        ∃ ms, Clause.matchAll ts call r.clauses i = .ok ms ∧
          o = ms.asOutcome ts fun trees => .node (r.head name index trees) trees
      else o = .inapplicable i := by
  simp only [matchBy, Except.bind_eq_ok, tokenAt_eq_ok]
  refine exists_congr fun t => and_congr_right fun _ => ?_
  cases choice r t.kind with
  | false => exact Except.pure_eq_ok.trans eq_comm
  | true =>
    refine Except.bind_eq_ok.trans (exists_congr fun ms => and_congr_right fun _ => ?_)
    exact Except.pure_eq_ok.trans eq_comm

namespace NonTerminal

variable {n : NonTerminal K V}

omit [TokenKind K] in
theorem mem_numbered {index : Nat} {r : Rule K V} :
    (index, r) ∈ n.numbered ↔ n.rules[index]? = some r := by
  simp [numbered, List.mem_zipIdx_iff_getElem?]

omit [TokenKind K] in
theorem map_snd_numbered : n.numbered.map (·.2) = n.rules := by
  rw [numbered, List.map_map]
  exact List.zipIdx_map_fst 0 n.rules

omit [TokenKind K] in
theorem exists_of_firstMatch {attempt : Nat × Rule K V → Match (Outcome K)} {e : Unexpected K}
    {rs : List (Nat × Rule K V)} {f : Furthest K} {tree : Tree K} {stop : Nat} {ended : Bool}
    {errors : List (Unexpected K)}
    (h : firstMatch attempt e rs f = .ok (.matched tree stop ended errors)) :
    ∃ p ∈ rs, ∃ errors', attempt p = .ok (.matched tree stop ended errors') := by
  induction rs generalizing f with
  | nil => cases h
  | cons p rs ih =>
    obtain ⟨o, ho, h⟩ := Except.bind_eq_ok.1 h
    cases o with
    | matched tree' stop' ended' errors' =>
      cases h
      exact ⟨p, by simp, errors', ho⟩
    | failed _ _ | inapplicable _ =>
      obtain ⟨q, hq, hmatch⟩ := ih h
      exact ⟨q, by simp [hq], hmatch⟩

theorem matchBy_eq_ok :
    n.matchBy choice ts call i = .ok o ↔ ∃ t, ts[i]? = some t ∧
      if n.numbered.filter (fun p => choice p.2 t.kind) = [] then o = .failed [n.noStart t] i
      else firstMatch (fun p => p.2.matchBy choice ts call n.name p.1 i) (n.noStart t)
        (n.numbered.filter fun p => choice p.2 t.kind) ⟨0, []⟩ = .ok o := by
  simp only [matchBy, Except.bind_eq_ok, tokenAt_eq_ok, List.isEmpty_iff]
  refine exists_congr fun t => and_congr_right fun _ => ?_
  split
  · exact Except.pure_eq_ok.trans eq_comm
  · rfl

end NonTerminal

theorem Grammar.callBy_succ {depth : Nat} {name : String} :
    g.callBy choice ts (depth + 1) name i = .ok o ↔ ∃ t, ts[i]? = some t ∧
      match g.nonTerminal? name with
      | some n => n.matchBy choice ts (g.callBy choice ts depth) i = .ok o
      | none => o = .failed [.nothingExpected t] i := by
  simp only [callBy, Except.bind_eq_ok, tokenAt_eq_ok]
  refine exists_congr fun t => and_congr_right fun _ => ?_
  cases g.nonTerminal? name with
  | none => exact Except.pure_eq_ok.trans eq_comm
  | some n => rfl

end Parsing
