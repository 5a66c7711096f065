import Parsing.Grammar.Basic

namespace Parsing

variable {K V : Type} [TokenKind K]

namespace Clause

/-- Whether `name` is the leftmost non-terminal of a clause that only optional clauses precede. -/
def startsWith (name : String) : List (Clause K) → Bool
  | [] => false
  | c :: cs => c.leftmost? = some name || (c.isOptional && startsWith name cs)

end Clause

namespace NonTerminal

def qualified (name : String) (r : Rule K V) : String := name ++ " : " ++ r.key

def clauseError? (ns : List (NonTerminal K V)) (name : String) (r : Rule K V) :
    Clause K → Option GrammarError
  | .terminal k =>
    if k = TokenKind.endMarker then some (.endMarkerInRule (qualified name r)) else none
  | .nonTerminal n =>
    if (find? ns n).isNone then some (.undefinedNonTerminal (qualified name r) n) else none
  | _ => none

def ruleError? (ns : List (NonTerminal K V)) (name : String) (r : Rule K V) :
    Option GrammarError :=
  ((Clause.walkAll r.clauses).findSome? (clauseError? ns name r)).or
    (if Clause.startsWith name r.clauses then some (.leftRecursion name) else none)

def error? (ns : List (NonTerminal K V)) : Option GrammarError :=
  ns.findSome? fun n => n.rules.findSome? (ruleError? ns n.name)

end NonTerminal

end Parsing
