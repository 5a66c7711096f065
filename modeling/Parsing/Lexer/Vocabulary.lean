import Parsing.Token
import Parsing.Regex.Reader

namespace Parsing

structure TokenDefinition (K : Type) where
  kind : K
  pattern : String
  discard : Bool
  lineBreak : Bool
  deriving DecidableEq, Repr

namespace TokenDefinition

variable {K : Type}

def token (kind : K) (pattern : String) : TokenDefinition K := ⟨kind, pattern, false, false⟩

def discarded (kind : K) (pattern : String) : TokenDefinition K := ⟨kind, pattern, true, false⟩

def lineBreaking (kind : K) (pattern : String) : TokenDefinition K := ⟨kind, pattern, true, true⟩

def isSkipped (d : TokenDefinition K) : Bool := d.discard || d.lineBreak

end TokenDefinition

structure CommentDelimiters where
  singleLine : Option String
  multiLine : Option (String × String)
  deriving DecidableEq, Repr

namespace CommentDelimiters

def cStyle : CommentDelimiters := ⟨some "//", some ("/*", "*/")⟩

def toList (d : CommentDelimiters) : List String :=
  d.singleLine.toList ++ d.multiLine.toList.flatMap fun (opener, closer) => [opener, closer]

end CommentDelimiters

inductive LexerProblem
  | unexpectedChar (c : Char)
  | unterminatedComment (closer : String)
  | invalidPattern (pattern : String) (problem : RegexProblem)
  | emptyDelimiter
  deriving DecidableEq, Repr

def LexerProblem.message : LexerProblem → String
  | unexpectedChar c => s!"unexpected character '{c}'"
  | unterminatedComment closer => s!"unterminated comment, expected '{closer}'"
  | invalidPattern pattern problem => s!"invalid pattern `{pattern}`: {problem.message}"
  | emptyDelimiter => "invalid pattern ``: empty comment delimiter"

structure LexerError where
  position : Position
  problem : LexerProblem
  deriving DecidableEq, Repr

def LexerError.message (e : LexerError) : String :=
  s!"{e.problem.message} at {e.position.describe}"

structure Lexer (K : Type) where
  definitions : List (TokenDefinition K × Regex)
  comments : Option CommentDelimiters

namespace Lexer

variable {K : Type}

/-- The pattern text of a definition, held to the start of the text by what is written around it. -/
def anchored (pattern : String) : List Char := "\\A(?:".toList ++ pattern.toList ++ [')']

def compile (d : TokenDefinition K) : Except LexerError (TokenDefinition K × Regex) :=
  match Regex.read (anchored d.pattern) with
  | .ok r => .ok (d, r)
  | .error problem => .error ⟨.start, .invalidPattern d.pattern problem⟩

def build (definitions : List (TokenDefinition K)) (comments : Option CommentDelimiters) :
    Except LexerError (Lexer K) := do
  let definitions ← definitions.mapM compile
  if comments.any (·.toList.any String.isEmpty) then throw ⟨.start, .emptyDelimiter⟩
  return ⟨definitions, comments⟩

end Lexer

end Parsing
