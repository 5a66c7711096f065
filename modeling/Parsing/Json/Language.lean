import Parsing.Json.Basic
import Parsing.Text.Integer
import Parsing.Grammar.Production
import Parsing.Parser.Description

namespace Parsing.Json

inductive TokenType
  | decimal
  | int
  | string
  | boolean
  | null
  | openBrace
  | closeBrace
  | openBracket
  | closeBracket
  | colon
  | comma
  | blank
  | lineEnd
  | endMarker
  deriving DecidableEq, Repr

namespace TokenType

def label : TokenType → String
  | decimal => "Double"
  | int => "Int"
  | string => "String"
  | boolean => "Boolean"
  | null => "Null"
  | openBrace => "LBrace"
  | closeBrace => "RBrace"
  | openBracket => "LBracket"
  | closeBracket => "RBracket"
  | colon => "Colon"
  | comma => "Comma"
  | blank => "Ws"
  | lineEnd => "Eol"
  | endMarker => "Eof"

def ofName? : String → Option TokenType
  | "DOUBLE" => some decimal
  | "INT" => some int
  | "STRING" => some string
  | "BOOLEAN" => some boolean
  | "NULL" => some null
  | "ACCG" => some openBrace
  | "ACCD" => some closeBrace
  | "CROG" => some openBracket
  | "CROD" => some closeBracket
  | "COLON" => some colon
  | "COMMA" => some comma
  | _ => none

end TokenType

instance : TokenKind TokenType where
  decEq := inferInstance
  endMarker := .endMarker
  label := TokenType.label
  ofName? := TokenType.ofName?

/-- Decimals come before integers, which match their first digits. -/
def vocabulary : List (TokenDefinition TokenType) := [
  .token .decimal "-?[0-9]+\\.[0-9]+",
  .token .int "-?[0-9]+",
  .token .string "\"[^\"]*\"",
  .token .boolean "true|false",
  .token .null "null",
  .token .openBrace "\\\x7b",
  .token .closeBrace "\\\x7d",
  .token .openBracket "\\[",
  .token .closeBracket "\\]",
  .token .colon ":",
  .token .comma ",",
  .discarded .blank "[ \t]+",
  .lineBreaking .lineEnd "[\\r\\n]+"]

mutual

def describe : Json → String
  | null => "Null"
  | bool b => "Bool(" ++ Description.bool b ++ ")"
  | int n => "Int(" ++ toString n ++ ")"
  | decimal text => "Double(" ++ text ++ ")"
  | string s => "String(" ++ Text.quoted s ++ ")"
  | array items => "List([" ++ ", ".intercalate (describeAll items) ++ "])"
  | object members => "Object(\x7b" ++ ", ".intercalate (describeMembers members) ++ "\x7d)"

def describeAll : List Json → List String
  | [] => []
  | v :: vs => v.describe :: describeAll vs

def describeMembers : List (String × Json) → List String
  | [] => []
  | (k, v) :: ms => (Text.quoted k ++ ": " ++ v.describe) :: describeMembers ms

end

inductive Piece
  | value (v : Json)
  | elements (vs : List Json)
  | members (ms : List (String × Json))
  | property (key : String) (v : Json)

namespace Piece

abbrev Action := ArgsM TokenType Piece

def describe : Piece → String
  | value v => "Json(" ++ v.describe ++ ")"
  | elements vs => "Elements(" ++ Description.list (vs.map (·.describe)) ++ ")"
  | members ms =>
    "Members(" ++
      Description.list (ms.map fun (k, v) => Description.pair (Text.quoted k) v.describe) ++ ")"
  | property key v => "Property" ++ Description.pair (Text.quoted key) v.describe

def expected (what : String) (p : Piece) : ReduceError :=
  .custom ("expected " ++ what ++ ", got " ++ p.describe)

def toValue : Piece → Action Json
  | value v => return v
  | p => throw (p.expected "a value")

def toElements : Piece → Action (List Json)
  | elements vs => return vs
  | p => throw (p.expected "elements")

def toMembers : Piece → Action (List (String × Json))
  | members ms => return ms
  | p => throw (p.expected "members")

def toProperty : Piece → Action (String × Json)
  | property key v => return (key, v)
  | p => throw (p.expected "a property")

def ofString : Action Piece := return value (.string (← ArgsM.token 0).unquoted)

def ofInt : Action Piece := do
  match Text.readInteger (← ArgsM.token 0).text with
  | .ok n => return value (.int n)
  | .error e => throw (.custom e.message)

def ofDecimal : Action Piece := return value (.decimal (← ArgsM.token 0).text)

def ofBoolean : Action Piece := return value (.bool ((← ArgsM.token 0).text = "true"))

def constant (v : Json) : Action Piece := return value v

def ofObject : Action Piece := return value (Json.ofMembers (← (← ArgsM.value 1).toMembers))

def ofArray : Action Piece := return value (.array (← (← ArgsM.value 1).toElements))

def listOf {α : Type} (content : Piece → Action α) : Action (List α) := do
  let first ← content (← ArgsM.value 0)
  let more ← (← ArgsM.values 1).mapM content
  return first :: more

def ofElementList : Action Piece := return elements (← listOf toValue)

def ofPropertyList : Action Piece := return members (← listOf toProperty)

def ofProperty : Action Piece := do
  let key := (← ArgsM.token 0).unquoted
  return property key (← (← ArgsM.value 2).toValue)

end Piece

open Piece in
def productions : List (Production TokenType Piece) := [
  ⟨"root : value", ArgsM.value 0, []⟩,
  ⟨"value : STRING", ofString, []⟩,
  ⟨"value : INT", ofInt, []⟩,
  ⟨"value : DOUBLE", ofDecimal, []⟩,
  ⟨"value : BOOLEAN", ofBoolean, []⟩,
  ⟨"value : NULL", constant .null, []⟩,
  ⟨"value : object", ArgsM.value 0, []⟩,
  ⟨"value : list", ArgsM.value 0, []⟩,
  ⟨"object : ACCG ACCD", constant (.object []), []⟩,
  ⟨"object : ACCG members ACCD", ofObject, []⟩,
  ⟨"list : CROG CROD", constant (.array []), []⟩,
  ⟨"list : CROG listElements CROD", ofArray, []⟩,
  ⟨"listElements : value additionalValue*", ofElementList, []⟩,
  ⟨"additionalValue : COMMA value", ArgsM.value 1, []⟩,
  ⟨"members : property additionalProperty*", ofPropertyList, []⟩,
  ⟨"additionalProperty : COMMA property", ArgsM.value 1, []⟩,
  ⟨"property : STRING COLON value", ofProperty, []⟩]

def lexer : Except LexerError (Lexer TokenType) := Lexer.build vocabulary none

def grammar : Except GrammarError (Grammar TokenType Piece) := Grammar.build "root" productions

def inQuotes (s : String) : String := "\"" ++ s ++ "\""

mutual

/-- Items stand on one line and members on a line each. Strings are written as they are. -/
def render : Json → String
  | null => "null"
  | bool true => "true"
  | bool false => "false"
  | int n => toString n
  | decimal text => text
  | string s => inQuotes s
  | array items => "[" ++ ", ".intercalate (renderAll items) ++ "]"
  | object members => "\x7b\n" ++ ",\n".intercalate (renderMembers members) ++ "\n\x7d"

def renderAll : List Json → List String
  | [] => []
  | v :: vs => v.render :: renderAll vs

def renderMembers : List (String × Json) → List String
  | [] => []
  | (k, v) :: ms => (inQuotes k ++ ": " ++ v.render) :: renderMembers ms

end

end Parsing.Json
