import Parsing.Parser.Basic
import Parsing.Text.Quoted

namespace Parsing

namespace Description

def record (name : String) (fields : List (String × String)) (more : List String) : String :=
  let fields := (fields.map fun (field, value) => field ++ ": " ++ value) ++ more
  name ++ " \x7b " ++ ", ".intercalate fields ++ " \x7d"

def list (items : List String) : String := "[" ++ ", ".intercalate items ++ "]"

def pair (a b : String) : String := "(" ++ a ++ ", " ++ b ++ ")"

def option : Option String → String
  | none => "None"
  | some s => "Some(" ++ s ++ ")"

def bool : Bool → String
  | true => "true"
  | false => "false"

end Description

open Description Text

def CommentDelimiters.describe (d : CommentDelimiters) : String :=
  record "CommentDefinition"
    [("single_line", option (d.singleLine.map quoted)),
      ("multi_line", option (d.multiLine.map fun (a, b) => pair (quoted a) (quoted b)))] []

variable {K V : Type} [TokenKind K]

def Lexer.describe (L : Lexer K) : String :=
  record "CompiledLexer"
    [("definitions",
        list (L.definitions.map fun (d, _) => pair (TokenKind.label d.kind) (quoted d.pattern))),
      ("comments", option (L.comments.map (·.describe)))] []

def LeadingTokens.describe (s : LeadingTokens K) : String :=
  "LeadingTokens(" ++ list (s.toList.map TokenKind.label) ++ ")"

def Rule.describe (r : Rule K V) : String :=
  record "Rule"
    [("key", quoted r.key), ("leading", r.leading.describe), ("may_be_empty", bool r.mayBeEmpty),
      ("is_expression", bool r.isExpression)] [".."]

def NonTerminal.describe (n : NonTerminal K V) : String :=
  record "NonTerminal" [("name", quoted n.name), ("rules", list (n.rules.map (·.describe)))] []

def Grammar.describe (g : Grammar K V) : String :=
  record "Grammar"
    [("start", quoted g.start), ("non_terminals", list (g.nonTerminals.map (·.describe)))] []

def Parser.describe (p : Parser K V) : String :=
  record "Parser"
    [("lexer", p.lexer.describe), ("grammar", p.grammar.describe),
      ("config", record "ParserConfig" [("start", option (p.start?.map quoted))] [])] []

end Parsing
