import Parsing.Lexer.Segment
import Parsing.Matching.Matcher
import Parsing.Syntax.Reduction

namespace Parsing

inductive ParseError (K : Type)
  | lexical (e : LexerError)
  | syntactic (e : Unexpected K)
  | reduction (e : ReduceError)
  deriving DecidableEq, Repr

namespace ParseError

variable {K : Type}

def position? : ParseError K → Option Position
  | lexical e => some e.position
  | syntactic e => some e.token.position
  | reduction _ => none

def syntactic? : ParseError K → Option (Unexpected K)
  | syntactic e => some e
  | lexical _ | reduction _ => none

def message [TokenKind K] : ParseError K → String
  | lexical e => e.message
  | syntactic e => e.message
  | reduction e => e.message

end ParseError

structure ParseResult (K V : Type) where
  value? : Option V
  errors : List (ParseError K)
  tokenCount : Nat

namespace ParseResult

variable {K V : Type}

def success (v : V) (tokenCount : Nat) : ParseResult K V := ⟨some v, [], tokenCount⟩

def failure (e : ParseError K) (tokenCount : Nat) : ParseResult K V := ⟨none, [e], tokenCount⟩

def isError (r : ParseResult K V) : Bool := !r.errors.isEmpty

def isOk (r : ParseResult K V) : Bool := r.errors.isEmpty && r.value?.isSome

def toExcept (r : ParseResult K V) : Except (List (ParseError K)) V :=
  match r.value?, r.errors with
  | some v, [] => .ok v
  | _, errors => .error errors

end ParseResult

/-- A lexer and a grammar; `start?` is where parses start if not at the grammar's own start. -/
structure Parser (K V : Type) where
  lexer : Lexer K
  grammar : Grammar K V
  start? : Option String

namespace Parser

variable {K V : Type}

def build (lexer : Lexer K) (grammar : Grammar K V) (start? : Option String) :
    Except GrammarError (Parser K V) :=
  match start? with
  | none => .ok ⟨lexer, grammar, none⟩
  | some start =>
    if (grammar.nonTerminal? start).isSome then .ok ⟨lexer, grammar, some start⟩
    else .error (.undefinedStart start)

def start (p : Parser K V) : String := p.start?.getD p.grammar.start

variable [TokenKind K]

def parseTokens (p : Parser K V) (ts : List (Token K)) : Match (Outcome K) :=
  p.grammar.parse ts p.start

def conclude (g : Grammar K V) (ts : List (Token K)) : Outcome K → Match (ParseResult K V)
  | .matched tree _ _ _ =>
    match g.reduce tree with
    | .ok v => return .success v ts.length
    | .error e => return .failure (.reduction e) ts.length
  | .failed (e :: _) _ => return .failure (.syntactic e) ts.length
  | .failed [] _ | .inapplicable _ => do
    return .failure (.syntactic (.nothingExpected (← tokenAt ts 0))) ts.length

def parseFrom (p : Parser K V) (source start : String) : Match (ParseResult K V) :=
  match p.lexer.tokenize source with
  | .error e => return .failure (.lexical e) 0
  | .ok ts => do conclude p.grammar ts (← p.grammar.parse ts start)

def parse (p : Parser K V) (source : String) : Match (ParseResult K V) := p.parseFrom source p.start

def parseAll (p : Parser K V) (sources : List String) : Match (List (ParseResult K V)) :=
  sources.mapM p.parse

end Parser

end Parsing
