import Parsing.Grammar.Clause
import Parsing.Unicode.Property

/-!
Rules in writing, such as `sum : term (PLUS term)*`. A non-terminal and a colon come first, then
clauses, as many as there are. A clause is a name or a group in brackets, which is not empty, and
one of `*`, `+` and `?` may follow it. A name that a token kind answers to is a terminal. Blanks may
stand between any two signs.
-/

namespace Parsing

namespace RuleText

inductive Sign
  | name (cs : List Char)
  | mark (c : Char)
  deriving DecidableEq, Repr

structure Placed where
  offset : Nat
  sign : Sign
  deriving DecidableEq, Repr

def isNameStart (c : Char) : Bool := c = '_' || Unicode.isAlphabetic c

def isNameChar (c : Char) : Bool := c = '_' || Unicode.isAlphanumeric c

def pendingName (offset : Nat) (before : List Char) : List Placed :=
  if before.isEmpty then [] else [⟨offset - byteLength before, .name before.reverse⟩]

/-- The signs of a text that stands at `offset`; `before` holds the characters, last first, of a
name that may go on. -/
def signsFrom (offset : Nat) (before : List Char) : List Char → List Placed
  | [] => pendingName offset before
  | c :: cs =>
    let next := offset + c.utf8Size
    if (if before.isEmpty then isNameStart c else isNameChar c) then
      signsFrom next (c :: before) cs
    else
      pendingName offset before ++
        (if Unicode.isWhiteSpace c then [] else [⟨offset, .mark c⟩]) ++ signsFrom next [] cs

def signs (source : List Char) : List Placed := signsFrom 0 [] source

inductive Problem
  | nameExpected
  | tokenName (name : String)
  | colonExpected (name : String)
  | unexpected (c : Char)
  | unclosedGroup
  | emptyGroup
  deriving DecidableEq, Repr

def Problem.message : Problem → String
  | nameExpected => "expected the non-terminal name before ':'"
  | tokenName name => s!"`{name}` names a token and cannot be defined as a non-terminal"
  | colonExpected name => s!"expected ':' after `{name}`"
  | unexpected c => s!"unexpected '{c}'"
  | unclosedGroup => "unclosed '('"
  | emptyGroup => "empty group '()'"

structure Failure where
  problem : Problem
  rest : List Placed
  deriving DecidableEq, Repr

def Failure.offset (source : List Char) (f : Failure) : Nat :=
  (f.rest.head?.map (·.offset)).getD (byteLength source)

variable {K : Type}

def repeats? : Char → Option (Clause K → Clause K)
  | '*' => some .zeroOrMore
  | '+' => some .oneOrMore
  | '?' => some .optional
  | _ => none

variable [TokenKind K]

def ofName (name : List Char) : Clause K :=
  match TokenKind.ofName? (String.ofList name) with
  | some k => .terminal k
  | none => .nonTerminal (String.ofList name)

/-- Reads clauses to the end. `outer` holds the clauses before each open group and `current` those
of the innermost one, last first; `atom` tells whether the last of them can still be repeated. -/
def clauses (outer : List (List (Clause K))) (current : List (Clause K)) (atom : Bool) :
    List Placed → Except Failure (List (Clause K))
  | [] => if outer.isEmpty then .ok current.reverse else .error ⟨.unclosedGroup, []⟩
  | ⟨_, .name n⟩ :: rest => clauses outer (ofName n :: current) true rest
  | ⟨_, .mark '('⟩ :: rest => clauses (current :: outer) [] false rest
  | ⟨o, .mark ')'⟩ :: rest =>
    match outer with
    | [] => .error ⟨.unexpected ')', ⟨o, .mark ')'⟩ :: rest⟩
    | before :: outer =>
      if current.isEmpty then .error ⟨.emptyGroup, rest⟩
      else clauses outer (.group current.reverse :: before) true rest
  | ⟨o, .mark c⟩ :: rest =>
    match atom, current, repeats? c with
    | true, last :: before, some f => clauses outer (f last :: before) false rest
    | _, _, _ => .error ⟨.unexpected c, ⟨o, .mark c⟩ :: rest⟩

structure Reading (K : Type) where
  nonTerminal : String
  clauses : List (Clause K)

def ofSigns : List Placed → Except Failure (Reading K)
  | ⟨_, .name n⟩ :: rest =>
    let name := String.ofList n
    if (TokenKind.ofName? name : Option K).isSome then .error ⟨.tokenName name, rest⟩
    else
      match rest with
      | ⟨_, .mark ':'⟩ :: rest => (clauses [] [] false rest).map (⟨name, ·⟩)
      | _ => .error ⟨.colonExpected name, rest⟩
  | rest => .error ⟨.nameExpected, rest⟩

end RuleText

end Parsing
