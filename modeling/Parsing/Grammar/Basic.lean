import Parsing.Grammar.Clause
import Parsing.Grammar.LeadingTokens
import Parsing.Grammar.RuleText
import Parsing.Syntax.Arguments

namespace Parsing

/-- One alternative of a non-terminal: what it matches, the kinds it can start with, and the value
of a match. An operator has a reducer of its own. -/
structure Rule (K V : Type) where
  clauses : List (Clause K)
  leading : LeadingTokens K
  reducer : Reducer K V
  operators : List (K × Reducer K V)

namespace Rule

variable {K V : Type}

def mayBeEmpty (r : Rule K V) : Bool := Clause.allOptional r.clauses

def isExpression (r : Rule K V) : Bool := !r.operators.isEmpty

variable [TokenKind K]

def key (r : Rule K V) : String := Clause.key r.clauses

def operator? (r : Rule K V) (k : K) : Option (Reducer K V) :=
  (r.operators.reverse.find? (·.1 = k)).map (·.2)

def admits (r : Rule K V) (k : K) : Bool := r.leading.contains k

end Rule

structure NonTerminal (K V : Type) where
  name : String
  rules : List (Rule K V)

def NonTerminal.leading {K V : Type} [TokenKind K] (n : NonTerminal K V) : LeadingTokens K :=
  .ofList (n.rules.flatMap (·.leading.toList))

theorem NonTerminal.mem_leading {K V : Type} [TokenKind K] {n : NonTerminal K V} {k : K} :
    k ∈ n.leading.toList ↔ ∃ r ∈ n.rules, k ∈ r.leading.toList := by
  simp [leading]

def NonTerminal.find? {K V : Type} (ns : List (NonTerminal K V)) (name : String) :
    Option (NonTerminal K V) :=
  ns.find? (·.name = name)

structure Grammar (K V : Type) where
  start : String
  nonTerminals : List (NonTerminal K V)

namespace Grammar

variable {K V : Type}

def size (g : Grammar K V) : Nat := g.nonTerminals.length

def isEmpty (g : Grammar K V) : Bool := g.nonTerminals.isEmpty

def nonTerminal? (g : Grammar K V) (name : String) : Option (NonTerminal K V) :=
  NonTerminal.find? g.nonTerminals name

def rule? (g : Grammar K V) (name : String) (index : Nat) : Option (Rule K V) := do
  (← g.nonTerminal? name).rules[index]?

end Grammar

inductive GrammarError
  | empty
  | undefinedStart (name : String)
  | undefinedNonTerminal (rule name : String)
  | invalidRule (source : String) (problem : RuleText.Problem) (offset : Nat)
  | endMarkerInRule (rule : String)
  | leftRecursion (name : String)
  deriving DecidableEq, Repr

def GrammarError.message : GrammarError → String
  | empty => "grammar has no productions"
  | undefinedStart name => s!"starting non-terminal `{name}` is not defined"
  | undefinedNonTerminal rule name => s!"rule `{rule}` references undefined non-terminal `{name}`"
  | invalidRule source problem offset =>
    s!"invalid rule `{source}`: {problem.message} (at offset {offset})"
  | endMarkerInRule rule => s!"rule `{rule}` uses the end-of-input marker as a terminal"
  | leftRecursion name => s!"non-terminal `{name}` is left recursive"

def RuleText.read {K : Type} [TokenKind K] (source : String) :
    Except GrammarError (RuleText.Reading K) :=
  match RuleText.ofSigns (RuleText.signs source.toList) with
  | .ok r => .ok r
  | .error f => .error (.invalidRule source f.problem (f.offset source.toList))

end Parsing
