import Parsing.Position

namespace Parsing

/-- The vocabulary of a language: `endMarker` closes every token sequence, `label` is how a kind is
shown, and `ofName?` resolves the names that rules use for kinds. -/
class TokenKind (K : Type) where
  decEq : DecidableEq K
  endMarker : K
  label : K → String
  ofName? : String → Option K

attribute [reducible, instance] TokenKind.decEq

structure Token (K : Type) where
  kind : K
  text : String
  position : Position
  deriving DecidableEq, Repr

def unquote? (quote : Char) (s : String) : Option String :=
  match s.toList with
  | [] => none
  | c :: cs =>
    if c = quote ∧ cs.getLast? = some quote then some (String.ofList cs.dropLast) else none

namespace Token

variable {K : Type}

def unquoted (t : Token K) : String :=
  ((unquote? '"' t.text).or (unquote? '\x27' t.text)).getD t.text

def endPosition (t : Token K) : Position where
  line := t.position.line
  column := Position.capped (t.position.column + t.text.length)
  offset := t.position.offset + t.text.utf8ByteSize

variable [TokenKind K]

def endAt (p : Position) : Token K := ⟨TokenKind.endMarker, "", p⟩

def isEnd (t : Token K) : Bool := t.kind = TokenKind.endMarker

@[simp] theorem isEnd_endAt (p : Position) : (endAt p : Token K).isEnd = true := by
  simp [isEnd, endAt]

def describe (t : Token K) : String :=
  if t.isEnd then "end of input" else s!"'{t.text}' ({TokenKind.label t.kind})"

end Token

end Parsing
