import Parsing.Grammar.Validation
import Parsing.Grammar.Leading

namespace Parsing

structure Production (K V : Type) where
  source : String
  reducer : Reducer K V
  operators : List (K × Reducer K V)

variable {K V : Type}

def NonTerminal.addRule (name : String) (r : Rule K V) :
    List (NonTerminal K V) → List (NonTerminal K V)
  | [] => [⟨name, [r]⟩]
  | n :: ns => if n.name = name then { n with rules := n.rules ++ [r] } :: ns
    else n :: addRule name r ns

variable [TokenKind K]

def Production.read (p : Production K V) : Except GrammarError (String × Rule K V) := do
  let r ← RuleText.read p.source
  return (r.nonTerminal, ⟨r.clauses, .empty, p.reducer, p.operators⟩)

def NonTerminal.ofRules (rules : List (String × Rule K V)) : List (NonTerminal K V) :=
  rules.foldl (fun ns (name, r) => addRule name r ns) []

/-- The grammar of some productions, or the first thing that is wrong with them: no production at
all, a rule that cannot be read, the start, and then what is wrong with the rules. -/
def Grammar.build (start : String) (productions : List (Production K V)) :
    Except GrammarError (Grammar K V) := do
  if productions.isEmpty then throw .empty
  let ns := NonTerminal.ofRules (← productions.mapM Production.read)
  if (NonTerminal.find? ns start).isNone then throw (.undefinedStart start)
  match NonTerminal.error? ns with
  | some e => throw e
  | none => return ⟨start, Leading.fill ns start⟩

end Parsing
