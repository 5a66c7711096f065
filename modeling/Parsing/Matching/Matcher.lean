import Parsing.Grammar.Basic
import Parsing.Matching.Outcome

/-!
Matching from the start down to the tokens. A clause is matched at a place of the token list;
repetitions take as much as they can and are never taken back. A non-terminal keeps the first of its
rules that matches, whatever follows; only at the top are all rules tried, and the first that ends
the input wins.
-/

namespace Parsing

variable {K V : Type} [TokenKind K]

def tokenAt (ts : List (Token K)) (i : Nat) : Match (Token K) :=
  match ts[i]? with
  | some t => .ok t
  | none => .error (.noToken i)

/-- Whether nothing is left at `i`, or one token before a closing end marker. -/
def isEndedAt (ts : List (Token K)) (i : Nat) : Bool :=
  let last := ts.length - 1
  last ≤ i || (i + 1 = last && ts[last]?.any (·.isEnd))

namespace Outcome

def matchedAt (ts : List (Token K)) (tree : Tree K) (stop : Nat) (errors : List (Unexpected K)) :
    Outcome K :=
  .matched tree stop (isEndedAt ts stop) errors

end Outcome

/-- What came of matching clauses one after the other. A failure stops where the clause that failed
began. -/
inductive Matches (K : Type)
  | matched (trees : List (Tree K)) (stop : Nat) (errors : List (Unexpected K))
  | failed (errors : List (Unexpected K)) (stop : Nat)

def Matches.cons {K : Type} (tree : Tree K) (errors : List (Unexpected K)) : Matches K → Matches K
  | matched trees stop more => matched (tree :: trees) stop (errors ++ more)
  | failed more stop => failed (errors ++ more) stop

structure Repetition (K : Type) where
  trees : List (Tree K)
  stop : Nat
  errors : List (Unexpected K)

namespace Repetition

/-- Repeats `step` from `i` until it fails, takes nothing or reaches an end marker. A repetition
takes a token each time, so `n` rounds are enough for fewer than `n` tokens. -/
def take (ts : List (Token K)) (step : Nat → Match (Outcome K)) : Nat → Nat → Match (Repetition K)
  | 0, _ => .error .endless
  | n + 1, i => do
    match ← step i with
    | .matched tree stop _ errors =>
      if i < stop then
        if (← tokenAt ts stop).isEnd then return ⟨[tree], stop, []⟩
        else
          let more ← take ts step n stop
          return ⟨tree :: more.trees, more.stop, more.errors⟩
      else return ⟨[], i, errors⟩
    | .failed errors _ => return ⟨[], i, errors⟩
    | .inapplicable _ => return ⟨[], i, []⟩

/-- The repetition as a match. Of its errors those count that lie beyond its end; the others are
left to the clause that follows. -/
def outcome (ts : List (Token K)) (r : Repetition K) : Match (Outcome K) := do
  let limit := (← tokenAt ts r.stop).position.offset
  return .matchedAt ts (.many r.trees) r.stop (r.errors.filter (limit < ·.offset))

end Repetition

namespace Clause

def matchTerminal (ts : List (Token K)) (k : K) (i : Nat) : Match (Outcome K) := do
  let t ← tokenAt ts i
  if t.kind = k && !t.isEnd then return .matchedAt ts (.leaf t) (i + 1) []
  else return .failed [.expectedOne t k] i

mutual

def matchAt (ts : List (Token K)) (call : String → Nat → Match (Outcome K)) :
    Clause K → Nat → Match (Outcome K)
  | terminal k, i => matchTerminal ts k i
  | nonTerminal name, i => call name i
  | zeroOrMore c, i => do
    let r ← Repetition.take ts (matchAt ts call c) (ts.length - i + 1) i
    r.outcome ts
  | oneOrMore c, i => do
    let r ← Repetition.take ts (matchAt ts call c) (ts.length - i + 1) i
    if !r.trees.isEmpty then r.outcome ts
    else if r.errors.isEmpty then return .failed [.nothingExpected (← tokenAt ts i)] i
    else return .failed r.errors i
  | optional c, i => do
    match ← matchAt ts call c i with
    | .matched tree stop ended errors => return .matched (.present tree) stop ended errors
    | .failed _ _ | .inapplicable _ => return .matchedAt ts .absent i []
  | group cs, i => do
    match ← matchAll ts call cs i with
    | .matched trees stop errors => return .matchedAt ts (.group trees) stop errors
    | .failed errors stop => return .failed errors stop

def matchAll (ts : List (Token K)) (call : String → Nat → Match (Outcome K)) :
    List (Clause K) → Nat → Match (Matches K)
  | [], i => return .matched [] i []
  | c :: cs, i => do
    match ← matchAt ts call c i with
    | .matched tree stop _ errors => return (← matchAll ts call cs stop).cons tree errors
    | .failed errors _ => return .failed errors i
    | .inapplicable _ => return .failed [] i

end

theorem matchAt_nonTerminal {ts : List (Token K)} {call : String → Nat → Match (Outcome K)}
    {name : String} {i : Nat} : matchAt ts call (.nonTerminal name) i = call name i := by
  rw [matchAt]

end Clause

namespace Rule

def operatorOf? (r : Rule K V) : List (Tree K) → Option K
  | [_, .leaf t] => if (r.operator? t.kind).isSome then some t.kind else none
  | _ => none

def head (r : Rule K V) (name : String) (index : Nat) (trees : List (Tree K)) : Head K :=
  ⟨name, index, r.key, r.operatorOf? trees⟩

def matchAt (ts : List (Token K)) (call : String → Nat → Match (Outcome K)) (name : String)
    (index : Nat) (r : Rule K V) (i : Nat) : Match (Outcome K) := do
  let t ← tokenAt ts i
  if !r.admits t.kind && !r.mayBeEmpty then return .inapplicable i
  match ← Clause.matchAll ts call r.clauses i with
  | .matched trees stop errors =>
    return .matchedAt ts (.node (r.head name index trees) trees) stop errors
  | .failed errors stop => return .failed errors stop

end Rule

structure Furthest (K : Type) where
  stop : Nat
  errors : List (Unexpected K)

/-- Takes note of an attempt that has errors and went further, or of any as long as none went past
the first token. -/
def Furthest.note {K : Type} (f : Furthest K) (o : Outcome K) : Furthest K :=
  if (f.stop < o.stop && !o.errors.isEmpty) || (f.stop = 0 && o.stop = 0) then ⟨o.stop, o.errors⟩
  else f

namespace NonTerminal

def numbered (n : NonTerminal K V) : List (Nat × Rule K V) :=
  n.rules.zipIdx.map fun (r, index) => (index, r)

def candidates (n : NonTerminal K V) (k : K) : List (Nat × Rule K V) :=
  n.numbered.filter fun (_, r) => r.admits k || r.mayBeEmpty

def noStart (n : NonTerminal K V) (t : Token K) : Unexpected K := .expectedAny t n.leading.toList

def firstMatch (attempt : Nat × Rule K V → Match (Outcome K)) (none : Unexpected K) :
    List (Nat × Rule K V) → Furthest K → Match (Outcome K)
  | [], f => return .failed (if f.errors.isEmpty then [none] else f.errors) f.stop
  | r :: rs, f => do
    let o ← attempt r
    let f := f.note o
    match o with
    | .matched tree stop ended _ => return .matched tree stop ended f.errors
    | .failed _ _ | .inapplicable _ => firstMatch attempt none rs f

def matchAt (ts : List (Token K)) (call : String → Nat → Match (Outcome K)) (n : NonTerminal K V)
    (i : Nat) : Match (Outcome K) := do
  let t ← tokenAt ts i
  let rules := n.candidates t.kind
  if rules.isEmpty then return .failed [n.noStart t] i
  else
    firstMatch (fun (index, r) => r.matchAt ts call n.name index i) (n.noStart t) rules ⟨0, []⟩

end NonTerminal

namespace Grammar

def call (g : Grammar K V) (ts : List (Token K)) : (depth : Nat) → String → Nat → Match (Outcome K)
  | 0, _, _ => .error .endless
  | depth + 1, name, i => do
    let t ← tokenAt ts i
    match g.nonTerminal? name with
    | some n => n.matchAt ts (g.call ts depth) i
    | none => return .failed [.nothingExpected t] i

/-- As many non-terminals as can be open at once. If one is open twice at the same place, matching
has no end. -/
def depth (g : Grammar K V) (ts : List (Token K)) : Nat := g.size * (ts.length + 1) + 1

def matchClause (g : Grammar K V) (ts : List (Token K)) (c : Clause K) (i : Nat) :
    Match (Outcome K) :=
  c.matchAt ts (g.call ts (g.depth ts)) i

def matchRule (g : Grammar K V) (ts : List (Token K)) (name : String) (index : Nat) (r : Rule K V)
    (i : Nat) : Match (Outcome K) :=
  r.matchAt ts (g.call ts (g.depth ts)) name index i

def withEndMarker (ts : List (Token K)) : List (Token K) :=
  match ts.getLast? with
  | none => [Token.endAt .start]
  | some t => if t.isEnd then ts else ts ++ [Token.endAt t.endPosition]

/-- The error to report for attempts none of which ended the input: of those that went furthest, and
of "nothing expected" there, the one that tells most. -/
def report (ts : List (Token K)) (attempts : List (Outcome K)) : Match (Outcome K) := do
  let furthest := (attempts.map Outcome.stop).foldl max 0
  let errors := (attempts.filter (·.stop = furthest)).flatMap Outcome.errors
  let all := Unexpected.nothingExpected (← tokenAt ts furthest) :: errors
  return .failed (Unexpected.sort all).getLast?.toList furthest

def matchStart (g : Grammar K V) (ts : List (Token K)) (n : NonTerminal K V) :
    Match (Outcome K) := do
  let t ← tokenAt ts 0
  let rules := n.numbered.filter fun (_, r) => r.admits t.kind
  let attempts ← rules.mapM fun (index, r) => g.matchRule ts n.name index r 0
  if attempts.isEmpty then return .failed [n.noStart t] 0
  match attempts.find? fun o => o.isEnded && o.isMatch with
  | some o => return o
  | none => report ts attempts

def parse (g : Grammar K V) (ts : List (Token K)) (start : String) : Match (Outcome K) := do
  let ts := withEndMarker ts
  match g.nonTerminal? start with
  | some n => g.matchStart ts n
  | none => return .failed [.nothingExpected (← tokenAt ts 0)] 0

end Grammar

end Parsing
