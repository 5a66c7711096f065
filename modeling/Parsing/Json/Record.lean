import Parsing.Json.Basic
import Parsing.Lexer.Vocabulary

/-!
Positions, tokens, definitions and comment delimiters as JSON. A record is written as an object; it
may also be read from an array of its fields in order. Members that are not fields do not count.
-/

namespace Parsing

namespace Json

def fields? (names : List String) : Json → Option (List Json)
  | object members => names.mapM fun name => members.lookup name
  | array items => if items.length = names.length then some items else none
  | _ => none

def optionalFields? (names : List String) : Json → Option (List Json)
  | object members => some (names.map fun name => (members.lookup name).getD null)
  | array items => if items.length = names.length then some items else none
  | _ => none

def nat? (limit : Nat) : Json → Option Nat
  | int n => if 0 ≤ n ∧ n ≤ limit then some n.toNat else none
  | _ => none

def string? : Json → Option String
  | string s => some s
  | _ => none

def bool? : Json → Option Bool
  | bool b => some b
  | _ => none

def option? {α : Type} (content? : Json → Option α) : Json → Option (Option α)
  | null => some none
  | v => some <$> content? v

def pair? {α : Type} (content? : Json → Option α) : Json → Option (α × α)
  | array [a, b] => do return (← content? a, ← content? b)
  | _ => none

def ofOption {α : Type} (f : α → Json) : Option α → Json
  | none => null
  | some a => f a

end Json

def Position.offsetLimit : Nat := 18446744073709551615

def Position.ofJson? (v : Json) : Option Position :=
  match v.fields? ["line", "column", "offset"] with
  | some [line, column, offset] => do
    return ⟨← line.nat? limit, ← column.nat? limit, ← offset.nat? offsetLimit⟩
  | _ => none

def Position.toJson (p : Position) : Json :=
  .object [("column", .int p.column), ("line", .int p.line), ("offset", .int p.offset)]

namespace Token

variable {K : Type}

def ofJson? (kind? : Json → Option K) (v : Json) : Option (Token K) :=
  match v.fields? ["kind", "text", "position"] with
  | some [kind, text, position] => do
    return ⟨← kind? kind, ← text.string?, ← Position.ofJson? position⟩
  | _ => none

def toJson [TokenKind K] (t : Token K) : Json :=
  .object [("kind", .string (TokenKind.label t.kind)), ("position", t.position.toJson),
    ("text", .string t.text)]

end Token

namespace TokenDefinition

variable {K : Type}

def ofJson? (kind? : Json → Option K) (v : Json) : Option (TokenDefinition K) :=
  match v.fields? ["kind", "pattern", "discard", "line_break"] with
  | some [kind, pattern, discard, lineBreak] => do
    return ⟨← kind? kind, ← pattern.string?, ← discard.bool?, ← lineBreak.bool?⟩
  | _ => none

def toJson [TokenKind K] (d : TokenDefinition K) : Json :=
  .object [("discard", .bool d.discard), ("kind", .string (TokenKind.label d.kind)),
    ("line_break", .bool d.lineBreak), ("pattern", .string d.pattern)]

end TokenDefinition

namespace CommentDelimiters

def ofJson? (v : Json) : Option CommentDelimiters :=
  match v.optionalFields? ["single_line", "multi_line"] with
  | some [singleLine, multiLine] => do
    return ⟨← singleLine.option? Json.string?, ← multiLine.option? (Json.pair? Json.string?)⟩
  | _ => none

def toJson (d : CommentDelimiters) : Json :=
  .object [
    ("multi_line", Json.ofOption (fun (a, b) => .array [.string a, .string b]) d.multiLine),
    ("single_line", Json.ofOption .string d.singleLine)]

end CommentDelimiters

end Parsing
