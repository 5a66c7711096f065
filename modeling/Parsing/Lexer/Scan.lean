import Parsing.Lexer.Segment
import Parsing.Text.Bytes

namespace Parsing

variable {K : Type}

/-- Why a scan breaks off: for a problem in the source, since a piece of text would begin or end
inside of a character or behind the source, or since there are no rounds left. -/
inductive ScanFault
  | problem (e : LexerError)
  | noPiece (offset : Nat)
  | endless
  deriving DecidableEq, Repr

def splitText (offset : Nat) (text : List Char) : Except ScanFault (List Char × List Char) :=
  match splitAtOffset? offset text with
  | some (before, after) =>
    if byteLength before = offset then .ok (before, after) else .error (.noPiece offset)
  | none => .error (.noPiece offset)

def isTerminatorByte (b : UInt8) : Bool := b = 10 || b = 13

def CommentDelimiters.byteLength? (d : CommentDelimiters) (rest : List UInt8) :
    Except LexerProblem (Option Nat) :=
  match d.multiLine.filter fun (opener, _) => (utf8 opener.toList).isPrefixOf rest with
  | some (opener, closer) =>
    match bytesBefore? (utf8 closer.toList) (rest.drop opener.utf8ByteSize) with
    | some n => .ok (some (opener.utf8ByteSize + n + closer.utf8ByteSize))
    | none => .error (.unterminatedComment closer)
  | none =>
    .ok ((d.singleLine.filter fun opener => (utf8 opener.toList).isPrefixOf rest).map fun _ =>
      rest.findIdx isTerminatorByte)

structure Scan (K : Type) where
  cursor : Position
  tokens : List (Token K)

namespace Scan

def start : Scan K := ⟨.start, []⟩

def pass (s : Scan K) (segment : Segment K) : Scan K where
  cursor := segment.advance s.cursor
  tokens := s.tokens ++ (segment.token? s.cursor).toList

end Scan

namespace Lexer

def commentByteLength? (L : Lexer K) (rest : List UInt8) : Except LexerProblem (Option Nat) :=
  match L.comments with
  | some d => d.byteLength? rest
  | none => .ok none

def round (L : Lexer K) (source : List Char) (s : Scan K) : Except ScanFault (Scan K) := do
  let (_, rest) ← splitText s.cursor.offset source
  match L.commentByteLength? (utf8 rest) with
  | .error problem => throw (.problem ⟨s.cursor, problem⟩)
  | .ok (some n) =>
    let (text, _) ← splitText n rest
    return s.pass ⟨none, text⟩
  | .ok none =>
    match L.definition? rest with
    | some (d, n) =>
      let (text, _) ← splitText (byteLength (rest.take n)) rest
      return s.pass ⟨some d, text⟩
    | none => throw (.problem ⟨s.cursor, .unexpectedChar (rest.headD default)⟩)

def scan [TokenKind K] (L : Lexer K) (source : List Char) (rounds : Nat) (s : Scan K) :
    Except ScanFault (List (Token K)) :=
  if byteLength source ≤ s.cursor.offset then .ok (s.tokens ++ [Token.endAt s.cursor])
  else
    match rounds with
    | 0 => .error .endless
    | rounds + 1 => do L.scan source rounds (← L.round source s)

end Lexer

end Parsing
