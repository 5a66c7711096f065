import Parsing.Grammar.Basic

/-!
The token kinds that rules can start with. Each rule is visited once, on the first need; a rule
whose visit has begun and not ended counts as starting with nothing.
-/

namespace Parsing

abbrev RuleRef := String × Nat

abbrev Leading (K : Type) := List (RuleRef × LeadingTokens K)

namespace Leading

variable {K V : Type}

def visited (m : Leading K) (r : RuleRef) : Bool := (m.lookup r).isSome

def of (m : Leading K) (r : RuleRef) : LeadingTokens K := (m.lookup r).getD .empty

abbrev Visit (K : Type) := StateM (Leading K)

variable [TokenKind K]

mutual

def clause (visit : String → Visit K (LeadingTokens K)) : Clause K → Visit K (LeadingTokens K)
  | .terminal k => return .ofList [k]
  | .nonTerminal name => visit name
  | .zeroOrMore c | .oneOrMore c | .optional c => clause visit c
  | .group cs => sequence visit cs

def sequence (visit : String → Visit K (LeadingTokens K)) :
    List (Clause K) → Visit K (LeadingTokens K)
  | [] => return .empty
  | c :: cs => do
    let first ← clause visit c
    if c.isOptional then
      let more ← sequence visit cs
      return first.extend more.toList
    else return first

end

def rule (visit : String → Visit K (LeadingTokens K)) (ref : RuleRef) (r : Rule K V) :
    Visit K Unit := do
  if !(← get).visited ref then
    modify ((ref, .empty) :: ·)
    let s ← sequence visit r.clauses
    modify ((ref, s) :: ·)

def rulesFrom (visit : String → Visit K (LeadingTokens K)) (name : String) :
    Nat → List (Rule K V) → Visit K Unit
  | _, [] => return
  | i, r :: rs => do
    rule visit (name, i) r
    rulesFrom visit name (i + 1) rs

def ofNonTerminal (m : Leading K) (n : NonTerminal K V) : LeadingTokens K :=
  .ofList ((List.range n.rules.length).flatMap fun i => (m.of (n.name, i)).toList)

def nonTerminal (ns : List (NonTerminal K V)) :
    (depth : Nat) → String → Visit K (LeadingTokens K)
  | 0, _ => return .empty
  | depth + 1, name =>
    match NonTerminal.find? ns name with
    | none => return .empty
    | some n => do
      rulesFrom (nonTerminal ns depth) name 0 n.rules
      return (← get).ofNonTerminal n

/-- Every step down begins a visit, so the number of rules bounds the depth. -/
def depth (ns : List (NonTerminal K V)) : Nat := ns.foldr (fun n d => n.rules.length + d) 1

def compute (ns : List (NonTerminal K V)) (start : String) : Leading K :=
  let visitAll : Visit K Unit := do
    discard <| nonTerminal ns (depth ns) start
    ns.forM fun n => discard <| nonTerminal ns (depth ns) n.name
  (visitAll.run []).2

def table (ns : List (NonTerminal K V)) (start : String) : List (List (LeadingTokens K)) :=
  let m := compute ns start
  ns.map fun n => (List.range n.rules.length).map fun i => m.of (n.name, i)

def fillRules (n : NonTerminal K V) (sets : List (LeadingTokens K)) : NonTerminal K V :=
  { n with rules := n.rules.zipWith (fun r s => { r with leading := s }) sets }

def fill (ns : List (NonTerminal K V)) (start : String) : List (NonTerminal K V) :=
  ns.zipWith fillRules (table ns start)

end Leading

def Grammar.leadingTable {K V : Type} [TokenKind K] (g : Grammar K V) :
    List (List (LeadingTokens K)) :=
  Leading.table g.nonTerminals g.start

end Parsing
