import Parsing.Token
import Parsing.Text.Quoted

namespace Parsing

/-- Which rule a node is a match of. An operator, if there is one, stands for the rule when the node
is reduced. -/
structure Head (K : Type) where
  nonTerminal : String
  rule : Nat
  key : String
  operator? : Option K
  deriving DecidableEq, Repr

def Head.name {K : Type} (h : Head K) : String := h.nonTerminal ++ "__" ++ h.key

inductive Tree (K : Type)
  | leaf (token : Token K)
  | node (head : Head K) (children : List (Tree K))
  | many (children : List (Tree K))
  | absent
  | present (child : Tree K)
  | group (children : List (Tree K))

inductive TreeShape
  | token
  | node
  | repetition
  | option
  | group
  deriving DecidableEq, Repr

def TreeShape.describe : TreeShape → String
  | token => "token"
  | node => "node"
  | repetition => "repetition"
  | option => "option"
  | group => "group"

namespace Tree

variable {K : Type}

def shape : Tree K → TreeShape
  | leaf _ => .token
  | node _ _ => .node
  | many _ => .repetition
  | absent | present _ => .option
  | group _ => .group

def head? : Tree K → Option (Head K)
  | node head _ => some head
  | _ => none

def token? : Tree K → Option (Token K)
  | leaf token => some token
  | _ => none

mutual

def tokens : Tree K → List (Token K)
  | leaf token => [token]
  | node _ ts | many ts | group ts => tokensAll ts
  | absent => []
  | present t => t.tokens

def tokensAll : List (Tree K) → List (Token K)
  | [] => []
  | t :: ts => t.tokens ++ tokensAll ts

end

theorem tokensAll_eq (ts : List (Tree K)) : tokensAll ts = ts.flatMap tokens := by
  induction ts with
  | nil => rfl
  | cons t ts ih => simp [tokensAll, ih]

def outlineLine (depth : Nat) (text : String) : String :=
  String.join (List.replicate depth "  ") ++ text ++ "\n"

variable [TokenKind K]

def headLine (h : Head K) : String :=
  match h.operator? with
  | some k => s!"{h.name} [{TokenKind.label k}]"
  | none => h.name

mutual

def outline (depth : Nat) : Tree K → String
  | leaf t => outlineLine depth (TokenKind.label t.kind ++ " " ++ Text.quoted t.text)
  | node h ts => outlineLine depth (headLine h) ++ outlineAll (depth + 1) ts
  | many ts => outlineLine depth "*" ++ outlineAll (depth + 1) ts
  | absent => outlineLine depth "? <none>"
  | present t => outlineLine depth "?" ++ t.outline (depth + 1)
  | group ts => outlineLine depth "()" ++ outlineAll (depth + 1) ts

def outlineAll (depth : Nat) : List (Tree K) → String
  | [] => ""
  | t :: ts => t.outline depth ++ outlineAll depth ts

end

def describe (t : Tree K) : String := t.outline 0

end Tree

end Parsing
