import Parsing.Matching.Unexpected
import Parsing.Syntax.Tree

namespace Parsing

/-- A match or a failure, each with the place where it stopped, or neither if a rule does not apply.
A match also tells whether it ended the input, and carries the errors of what was tried before. -/
inductive Outcome (K : Type)
  | matched (tree : Tree K) (stop : Nat) (ended : Bool) (errors : List (Unexpected K))
  | failed (errors : List (Unexpected K)) (stop : Nat)
  | inapplicable (stop : Nat)

namespace Outcome

variable {K : Type}

def tree? : Outcome K → Option (Tree K)
  | matched tree _ _ _ => some tree
  | failed _ _ | inapplicable _ => none

def stop : Outcome K → Nat
  | matched _ stop _ _ | failed _ stop | inapplicable stop => stop

def isEnded : Outcome K → Bool
  | matched _ _ ended _ => ended
  | failed _ _ | inapplicable _ => false

def errors : Outcome K → List (Unexpected K)
  | matched _ _ _ errors | failed errors _ => errors
  | inapplicable _ => []

def isMatch : Outcome K → Bool
  | matched _ _ _ _ => true
  | failed _ _ | inapplicable _ => false

def isError : Outcome K → Bool
  | failed _ _ => true
  | matched _ _ _ _ | inapplicable _ => false

end Outcome

inductive Fault
  | endless
  | noToken (place : Nat)
  deriving DecidableEq, Repr

abbrev Match := Except Fault

end Parsing
