import Parsing.Token

namespace Parsing

inductive Clause (K : Type)
  | terminal (kind : K)
  | nonTerminal (name : String)
  | zeroOrMore (inner : Clause K)
  | oneOrMore (inner : Clause K)
  | optional (inner : Clause K)
  | group (inner : List (Clause K))

namespace Clause

variable {K : Type}

mutual

/-- Whether the clause may match without a token, judged by its form. A non-terminal is never taken
for optional, whatever its rules are. -/
def isOptional : Clause K → Bool
  | terminal _ | nonTerminal _ | oneOrMore _ => false
  | zeroOrMore _ | optional _ => true
  | group cs => allOptional cs

def allOptional : List (Clause K) → Bool
  | [] => true
  | c :: cs => c.isOptional && allOptional cs

end

theorem allOptional_eq (cs : List (Clause K)) : allOptional cs = cs.all isOptional := by
  induction cs with
  | nil => rfl
  | cons c cs ih => simp [allOptional, ih]

/-- The non-terminal at the very left, a group being entered at its first clause. -/
def leftmost? : Clause K → Option String
  | terminal _ => none
  | nonTerminal name => some name
  | zeroOrMore c | oneOrMore c | optional c => c.leftmost?
  | group [] => none
  | group (c :: _) => c.leftmost?

mutual

def walk : Clause K → List (Clause K)
  | terminal k => [terminal k]
  | nonTerminal name => [nonTerminal name]
  | zeroOrMore c => zeroOrMore c :: c.walk
  | oneOrMore c => oneOrMore c :: c.walk
  | optional c => optional c :: c.walk
  | group cs => group cs :: walkAll cs

def walkAll : List (Clause K) → List (Clause K)
  | [] => []
  | c :: cs => c.walk ++ walkAll cs

end

theorem walkAll_eq (cs : List (Clause K)) : walkAll cs = cs.flatMap walk := by
  induction cs with
  | nil => rfl
  | cons c cs ih => simp [walkAll, ih]

theorem mem_walk_self (c : Clause K) : c ∈ c.walk := by
  cases c <;> simp [walk]

variable [TokenKind K]

mutual

def describe : Clause K → String
  | terminal k => TokenKind.label k
  | nonTerminal name => name
  | zeroOrMore c => c.describe ++ "*"
  | oneOrMore c => c.describe ++ "+"
  | optional c => c.describe ++ "?"
  | group cs => "(" ++ " ".intercalate (describeAll cs) ++ ")"

def describeAll : List (Clause K) → List String
  | [] => []
  | c :: cs => c.describe :: describeAll cs

end

def key (cs : List (Clause K)) : String := "_".intercalate (describeAll cs)

end Clause

end Parsing
