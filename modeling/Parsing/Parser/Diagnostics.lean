import Parsing.Parser.Basic

namespace Parsing

def trimReturns (cs : List Char) : List Char := (cs.reverse.dropWhile (· = '\r')).reverse

def lineAt? (source : List Char) (offset : Nat) : Option (List Char) :=
  (splitAtOffset? offset source).map fun (before, after) =>
    trimReturns (Position.lastLine before ++ after.takeWhile (· ≠ '\n'))

def extractLine? (source : String) (p : Position) : Option String :=
  (lineAt? source.toList p.offset).map String.ofList

def blanks (n : Nat) : String := String.ofList (List.replicate n ' ')

def pointAt (line : String) (p : Position) : String :=
  let number := toString (Position.ordinal p.line)
  let gutter := blanks number.length
  let caret := blanks p.column
  s!"\n{gutter} |\n{number} | {line}\n{gutter} | {caret}^"

def ParseError.describeIn {K : Type} [TokenKind K] (e : ParseError K) (source : String) : String :=
  match e.position? with
  | none => e.message
  | some p =>
    match extractLine? source p with
    | none => e.message
    | some line => e.message ++ pointAt line p

end Parsing
