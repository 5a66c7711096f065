import Parsing.Token

namespace Parsing

def formatExpected : List String → String
  | [] => "nothing"
  | [a] => a
  | [a, b] => s!"{a} or {b}"
  | names =>
    let others := ", ".intercalate names.dropLast
    let last := names.getLastD ""
    s!"one of {others}, or {last}"

structure Unexpected (K : Type) where
  token : Token K
  expected? : Option (List K)
  deriving DecidableEq, Repr

namespace Unexpected

variable {K : Type}

def nothingExpected (t : Token K) : Unexpected K := ⟨t, none⟩

def expectedOne (t : Token K) (k : K) : Unexpected K := ⟨t, some [k]⟩

def expectedAny (t : Token K) (ks : List K) : Unexpected K := ⟨t, some ks⟩

def expected (e : Unexpected K) : List K := e.expected?.getD []

def offset (e : Unexpected K) : Nat := e.token.position.offset

def rank (e : Unexpected K) : Nat :=
  match e.expected? with
  | none => 0
  | some ks => ks.length + 1

variable [TokenKind K]

def expectedText (e : Unexpected K) : String := formatExpected (e.expected.map TokenKind.label)

def message (e : Unexpected K) : String :=
  let place := e.token.position.describe
  let found := if e.token.isEnd then "end of input" else s!"token {e.token.describe}"
  let hint := if e.expected.isEmpty then "" else s!", expected {e.expectedText}"
  s!"unexpected {found} at {place}{hint}"

/-- How much an error tells: the further one more, then the one with more kinds expected; the text
breaks ties. -/
def priority (a b : Unexpected K) : Ordering :=
  ((compare a.offset b.offset).then (compare a.rank b.rank)).then
    (compare a.expectedText b.expectedText)

def sort (es : List (Unexpected K)) : List (Unexpected K) :=
  es.mergeSort fun a b => (priority a b).isLE

end Unexpected

end Parsing
