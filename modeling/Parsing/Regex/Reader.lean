import Parsing.Regex.Problem
import Parsing.Regex.PropertyName
import Parsing.Regex.Search
import Parsing.Regex.Weight

namespace Parsing.Regex

structure Flags where
  caseless : Bool
  multiLine : Bool
  dotAll : Bool
  swapGreed : Bool
  unicode : Bool
  anyBreak : Bool
  blanks : Bool
  deriving DecidableEq, Repr

namespace Flags

def initial : Flags := ⟨false, false, false, false, true, false, false⟩

def set (f : Flags) (value : Bool) : Char → Option Flags
  | 'i' => some { f with caseless := value }
  | 'm' => some { f with multiLine := value }
  | 's' => some { f with dotAll := value }
  | 'U' => some { f with swapGreed := value }
  | 'u' => some { f with unicode := value }
  | 'R' => some { f with anyBreak := value }
  | 'x' => some { f with blanks := value }
  | _ => none

def fold (f : Flags) (s : CharSet) : CharSet :=
  if !f.caseless then s
  else if f.unicode then s.caseless
  else s.union ((s.inter .ascii).caseless.inter .ascii)

def digit (f : Flags) : CharSet := if f.unicode then .digit else CharSet.Ascii.digit

def blank (f : Flags) : CharSet := if f.unicode then .blank else CharSet.Ascii.blank

def word (f : Flags) : CharSet := if f.unicode then .word else CharSet.Ascii.word

end Flags

structure Reading where
  rest : List Char
  flags : Flags
  groups : Nat
  names : List (List Char)
  deriving DecidableEq, Repr

/-- What has been read, with the depth of its nesting: groups, repetitions and brackets go one
deeper, as does what has more than one part. -/
structure Nested (α : Type) where
  value : α
  depth : Nat
  deriving DecidableEq, Repr

namespace Nested

def map {α β : Type} (f : α → β) (x : Nested α) : Nested β := ⟨f x.value, x.depth⟩

def within {α β : Type} (f : α → β) (x : Nested α) : Nested β := ⟨f x.value, x.depth + 1⟩

def gather {α β : Type} (f : List α → β) (xs : List (Nested α)) : Nested β :=
  let depth := (xs.map (·.depth)).foldr max 0
  ⟨f (xs.map (·.value)), if 1 < xs.length then depth + 1 else depth⟩

end Nested

abbrev Reader := StateT Reading (Except RegexProblem)

inductive Atom
  | literal (c : Char)
  | set (s : CharSet)
  | look (l : Look)
  deriving DecidableEq, Repr

def afterBlanks (comment : Bool) : List Char → List Char
  | [] => []
  | c :: cs =>
    if comment then afterBlanks (c ≠ '\n') cs
    else if c = '#' then afterBlanks true cs
    else if Unicode.isWhiteSpace c then afterBlanks false cs
    else c :: cs

namespace Reader

def peek : Reader (Option Char) := return (← get).rest.head?

def flags : Reader Flags := return (← get).flags

def bump : Reader Unit := modify fun r => { r with rest := r.rest.tail }

def skip : Reader Unit :=
  modify fun r => if r.flags.blanks then { r with rest := afterBlanks false r.rest } else r

def bumpSkip : Reader Unit := do bump; skip

def eat (text : List Char) : Reader Bool := do
  let r ← get
  if text.isPrefixOf r.rest then
    set { r with rest := r.rest.drop text.length }
    return true
  else return false

def next (problem : RegexProblem) : Reader Char := do
  match ← peek with
  | some c => bump; return c
  | none => throw problem

def expect (problem : RegexProblem) : Reader Char := do
  match ← peek with
  | some c => return c
  | none => throw problem

def collect (p : Char → Bool) : Nat → Reader (List Char)
  | 0 => return []
  | n + 1 => do
    match ← peek with
    | some c => if p c then bumpSkip; return c :: (← collect p n) else return []
    | none => return []

def collectAll (p : Char → Bool) : Reader (List Char) := do collect p (← get).rest.length

/-! ### Numbers -/

def decimal : Reader Nat := do
  modify fun r => { r with rest := r.rest.dropWhile Unicode.isWhiteSpace }
  let digits ← collectAll Char.isDigit
  discard <| collectAll Unicode.isWhiteSpace
  let n := Nat.ofDigitChars 10 digits 0
  if digits.isEmpty || 4294967295 < n then throw .repetitionCount
  return n

def isHexDigit (c : Char) : Bool := c.isDigit || ('a' ≤ c && c ≤ 'f') || ('A' ≤ c && c ≤ 'F')

def hexValue (c : Char) : Nat :=
  if c.isDigit then c.toNat - '0'.toNat else c.toLower.toNat - 'a'.toNat + 10

def codePoint (digits : List Char) : Reader Char := do
  let n := digits.foldl (fun n c => n * 16 + hexValue c) 0
  if digits.isEmpty then throw .codePoint
  if n.isValidChar then return Char.ofNat n else throw .codePoint

/-- A code point of `width` digits, or of any number between braces. Without Unicode two digits are
a byte, of which only those of ASCII are characters. -/
def hex (width : Nat) : Reader Char := do
  bumpSkip
  if (← expect .escape) = '{' then
    bumpSkip
    let digits ← collectAll isHexDigit
    if (← expect .escape) ≠ '}' then throw .codePoint
    bumpSkip
    codePoint digits
  else
    let digits ← collect isHexDigit width
    if digits.length < width then throw .codePoint
    let c ← codePoint digits
    if width = 2 && !(← flags).unicode && 127 < c.toNat then throw .notUnicode
    return c

/-! ### Escapes -/

def negateIf (negated : Bool) (s : CharSet) : Reader CharSet := do
  if !negated then return s
  if (← flags).unicode then return s.complement else throw .notUnicode

def propertyOf (negated : Bool) (name : List Char) : Reader CharSet := do
  let f ← flags
  if !f.unicode then throw .notUnicode
  match PropertyName.set? name with
  | some (unequal, s) => negateIf (negated != unequal) (f.fold s)
  | none => throw .property

def propertySet : Reader CharSet := do
  let negated := (← next .escape) = 'P'
  skip
  if (← expect .escape) = '{' then
    bumpSkip
    let name ← collectAll (· ≠ '}')
    discard <| expect .escape
    bump
    propertyOf negated name
  else
    let c ← next .escape
    if c = '\\' then throw .property
    skip
    propertyOf negated [c]

/-- What may follow `\b` in braces. Anything else in braces is left to be read as a count. -/
def wordBoundary (word : CharSet) : Reader Look := do
  let r ← get
  if r.rest.head? ≠ some '{' then return .wordBoundary word
  bumpSkip
  let c ← expect .wordBoundary
  if !c.isAlpha && c ≠ '-' then
    set r
    return .wordBoundary word
  let name ← collectAll fun c => c.isAlpha || c = '-'
  if (← peek) ≠ some '}' then throw .wordBoundary
  bump
  match String.ofList name with
  | "start" => return .wordStart word
  | "end" => return .wordEnd word
  | "start-half" => return .wordStartHalf word
  | "end-half" => return .wordEndHalf word
  | _ => throw .wordBoundary

/-- An escape. Any ASCII character that is no letter, digit or angle stands for itself. -/
def escape : Reader Atom := do
  bump
  let f ← flags
  let c ← expect .escape
  if c.isDigit then throw .backreference
  match c with
  | 'x' => return .literal (← hex 2)
  | 'u' => return .literal (← hex 4)
  | 'U' => return .literal (← hex 8)
  | 'p' | 'P' => return .set (← propertySet)
  | 'd' => bump; return .set f.digit
  | 'D' => bump; return .set (← negateIf true f.digit)
  | 's' => bump; return .set f.blank
  | 'S' => bump; return .set (← negateIf true f.blank)
  | 'w' => bump; return .set f.word
  | 'W' => bump; return .set (← negateIf true f.word)
  | 'a' => bump; return .literal '\x07'
  | 'f' => bump; return .literal '\x0c'
  | 't' => bump; return .literal '\t'
  | 'n' => bump; return .literal '\n'
  | 'r' => bump; return .literal '\r'
  | 'v' => bump; return .literal '\x0b'
  | 'A' => bump; return .look .textStart
  | 'z' => bump; return .look .textEnd
  | 'b' => bump; return .look (← wordBoundary f.word)
  | 'B' => bump; return .look (.notWordBoundary f.word)
  | '<' => bump; return .look (.wordStart f.word)
  | '>' => bump; return .look (.wordEnd f.word)
  | _ =>
    if c.toNat < 128 && !c.isAlpha then
      bump
      return .literal c
    else throw .escape

/-! ### Classes -/

inductive SetOperator
  | inter
  | diff
  | symmDiff
  deriving DecidableEq, Repr

def SetOperator.apply : SetOperator → CharSet → CharSet → CharSet
  | inter => CharSet.inter
  | diff => CharSet.diff
  | symmDiff => CharSet.symmDiff

abbrev Pending := Option (SetOperator × Nested CharSet)

def Pending.finish (f : Flags) (pending : Pending) (items : List (Nested CharSet)) :
    Nested CharSet :=
  let right := Nested.gather CharSet.unionAll items
  match pending with
  | none => right
  | some (op, left) =>
    ⟨op.apply (f.fold left.value) (f.fold right.value), max left.depth right.depth + 1⟩

def SetOperator.next? : List Char → Option (SetOperator × List Char)
  | '&' :: '&' :: rest => some (inter, rest)
  | '-' :: '-' :: rest => some (diff, rest)
  | '~' :: '~' :: rest => some (symmDiff, rest)
  | _ => none

def className? (negated : Bool) (cs : List Char) : Option (Bool × CharSet × List Char) :=
  match cs.dropWhile (· ≠ ':') with
  | ':' :: ']' :: rest =>
    (CharSet.Ascii.named? (String.ofList (cs.takeWhile (· ≠ ':')))).map (negated, ·, rest)
  | _ => none

def namedClass? : List Char → Option (Bool × CharSet × List Char)
  | '[' :: ':' :: '^' :: cs => className? true cs
  | '[' :: ':' :: cs => className? false cs
  | _ => none

def classAtom : Reader Atom := do
  match ← expect .classUnclosed with
  | '\\' => escape
  | c => bump; return .literal c

def classChar (c : Char) : Reader Char := do
  if !(← flags).unicode && 127 < c.toNat then throw .notUnicode
  return c

def Atom.toSet : Atom → Reader CharSet
  | .literal c => return .single (← classChar c)
  | .set s => return s
  | .look _ => throw .classItem

def Atom.toChar : Atom → Reader Char
  | .literal c => classChar c
  | _ => throw .classRange

/-- The character by which it is told whether a hyphen before `cs` makes a range. Where blanks do
not count, these and one sign that opens a comment are passed over, unless nothing else follows. -/
def afterHyphen (f : Flags) (cs : List Char) : Option Char :=
  if !f.blanks then cs.head?
  else
    let beyond := match cs.dropWhile Unicode.isWhiteSpace with
      | '#' :: comment => comment.dropWhile Unicode.isWhiteSpace
      | rest => rest
    beyond.head?.or cs.head?

/-- One character, one set or one range. A hyphen makes a range unless a bracket or another hyphen
follows. -/
def classRange : Reader CharSet := do
  let first ← classAtom
  skip
  discard <| expect .classUnclosed
  let r ← get
  let beyond := afterHyphen r.flags r.rest.tail
  if r.rest.head? = some '-' && beyond ≠ some ']' && beyond ≠ some '-' then
    bumpSkip
    let last ← classAtom
    let a ← Atom.toChar first
    let b ← Atom.toChar last
    if a ≤ b then return .range a b else throw .classRange
  else Atom.toSet first

def leadingHyphens : Nat → Reader (List (Nested CharSet))
  | 0 => return []
  | n + 1 => do
    if (← expect .classUnclosed) = '-' then
      bumpSkip
      return ⟨.single '-', 0⟩ :: (← leadingHyphens n)
    else return []

def classOpen : Reader (Bool × List (Nested CharSet)) := do
  bumpSkip
  let negated := (← expect .classUnclosed) = '^'
  if negated then bumpSkip
  let hyphens ← leadingHyphens ((← get).rest.length + 1)
  if hyphens.isEmpty && (← expect .classUnclosed) = ']' then
    bumpSkip
    discard <| expect .classUnclosed
    return (negated, [⟨.single ']', 0⟩])
  return (negated, hyphens)

mutual

def classSet : Nat → Reader (Nested CharSet)
  | 0 => throw .classUnclosed
  | n + 1 => do
    let (negated, items) ← classOpen
    let s ← classItems n none items
    return ⟨← negateIf negated ((← flags).fold s.value), s.depth + 1⟩

def classItems : Nat → Pending → List (Nested CharSet) → Reader (Nested CharSet)
  | 0, _, _ => throw .classUnclosed
  | n + 1, pending, items => do
    skip
    let r ← get
    match r.rest with
    | [] => throw .classUnclosed
    | ']' :: _ =>
      bump
      return pending.finish r.flags items
    | c :: _ =>
      match SetOperator.next? r.rest with
      | some (op, rest) =>
        set { r with rest }
        classItems n (some (op, pending.finish r.flags items)) []
      | none =>
        if c ≠ '[' then
          let s ← classRange
          classItems n pending (⟨s, 0⟩ :: items)
        else
          match namedClass? r.rest with
          | some (negated, s, rest) =>
            set { r with rest }
            classItems n pending (⟨← negateIf negated (r.flags.fold s), 0⟩ :: items)
          | none =>
            let s ← classSet n
            classItems n pending (s :: items)

end

/-! ### Groups -/

def isNameChar (first : Bool) (c : Char) : Bool :=
  if first then c = '_' || Unicode.isAlphabetic c
  else c ∈ ['_', '.', '[', ']'] || Unicode.isAlphanumeric c

def groupName : Reader Unit := do
  let r ← get
  let name := r.rest.takeWhile (· ≠ '>')
  match name, r.rest.drop name.length with
  | c :: cs, _ :: rest =>
    if !isNameChar true c || !cs.all (isNameChar false) || r.names.contains name then
      throw .groupName
    set { r with rest, names := name :: r.names }
  | _, _ => throw .groupName

/-- Flags up to `)` or `:`, which is passed over and returned with the number of items. `seen` holds
the flags so far, of which none may come twice. -/
def flagItems : Nat → Bool → List Char → Flags → Reader (Char × Nat × Flags)
  | 0, _, _, _ => throw .flag
  | n + 1, negated, seen, f => do
    let c ← next .flag
    if c = ')' || c = ':' then
      if seen.head? = some '-' then throw .flag
      return (c, seen.length, f)
    if c ∈ seen then throw .flag
    if c = '-' then flagItems n true ('-' :: seen) f
    else
      match f.set (!negated) c with
      | some f => flagItems n negated (c :: seen) f
      | none => throw .flag

inductive GroupKind
  | flags (f : Flags)
  | pattern (number? : Option Nat)
  deriving DecidableEq, Repr

def nextGroup : Reader GroupKind := do
  modify fun r => { r with groups := r.groups + 1 }
  return .pattern (some (← get).groups)

def groupOpen : Reader GroupKind := do
  bumpSkip
  for look in [['?', '='], ['?', '!'], ['?', '<', '='], ['?', '<', '!']] do
    if ← eat look then throw .lookAround
  if ← eat ['?', 'P', '<'] <||> eat ['?', '<'] then
    groupName
    nextGroup
  else if ← eat ['?'] then
    let r ← get
    if r.rest.isEmpty then throw .groupUnclosed
    let (c, count, f) ← flagItems (r.rest.length + 1) false [] r.flags
    if c = ')' then
      if count = 0 then throw .repetitionMissing
      return .flags f
    modify fun r => { r with flags := f }
    return .pattern none
  else nextGroup

/-! ### Repetitions -/

abbrev NestedPattern := Nested Pattern

def repetition (least : Nat) (most : Option Nat) (p : NestedPattern) : Reader NestedPattern := do
  let lazy := (← peek) = some '?'
  if lazy then bump
  let greedy := lazy == (← flags).swapGreed
  return p.within (.repeated greedy least most)

def counted (p : NestedPattern) : Reader NestedPattern := do
  bumpSkip
  discard <| expect .repetitionCount
  let least ← decimal
  let most ←
    if (← expect .repetitionCount) ≠ ',' then pure (some least)
    else
      bumpSkip
      if (← expect .repetitionCount) ≠ '}' then some <$> decimal else pure none
  if (← peek) ≠ some '}' then throw .repetitionCount
  bumpSkip
  let p ← repetition least most p
  if most.any (· < least) then throw .repetitionCount
  return p

def repeated : Nat → NestedPattern → Reader NestedPattern
  | 0, _ => throw .repetitionCount
  | n + 1, p => do
    skip
    match ← peek with
    | some '?' => bump; repeated n (← repetition 0 (some 1) p)
    | some '*' => bump; repeated n (← repetition 0 none p)
    | some '+' => bump; repeated n (← repetition 1 none p)
    | some '{' => repeated n (← counted p)
    | _ => return p

/-! ### Patterns -/

def primitive : Reader Pattern := do
  let f ← flags
  match ← expect .groupUnclosed with
  | '\\' =>
    match ← escape with
    | .literal c => return .ofSet (f.fold (.single c))
    | .set s => return .ofSet s
    | .look l => return .look l
  | '.' =>
    bump
    if !f.unicode then throw .notUnicode
    if f.dotAll then return .chars .any
    if f.anyBreak then return .chars (CharSet.ofList [('\n', '\n'), ('\r', '\r')]).complement
    return .chars (CharSet.single '\n').complement
  | '^' =>
    bump
    return .look (if !f.multiLine then .textStart else if f.anyBreak then .lineStartAnyBreak
      else .lineStart)
  | '$' =>
    bump
    return .look (if !f.multiLine then .textEnd else if f.anyBreak then .lineEndAnyBreak
      else .lineEnd)
  | c => bump; return .ofSet (f.fold (.single c))

mutual

def branches : Nat → Reader (List NestedPattern)
  | 0 => throw .groupUnclosed
  | n + 1 => do
    let p := Nested.gather Pattern.concat (← items n)
    if (← peek) = some '|' then
      bump
      return p :: (← branches n)
    else return [p]

def items : Nat → Reader (List NestedPattern)
  | 0 => throw .groupUnclosed
  | n + 1 => do
    skip
    match ← peek with
    | none | some ')' | some '|' => return []
    | some '?' | some '*' | some '+' | some '{' => throw .repetitionMissing
    | some '(' =>
      match ← group n with
      | none => return ⟨.empty, 0⟩ :: (← items n)
      | some p =>
        let p ← repeated n p
        return p :: (← items n)
    | some '[' =>
      let s ← classSet n
      let p ← repeated n (s.map .ofSet)
      return p :: (← items n)
    | some _ =>
      let p ← repeated n ⟨← primitive, 0⟩
      return p :: (← items n)

def group : Nat → Reader (Option NestedPattern)
  | 0 => throw .groupUnclosed
  | n + 1 => do
    let outer ← flags
    match ← groupOpen with
    | .flags f =>
      modify fun r => { r with flags := f }
      return none
    | .pattern number? =>
      let p := Nested.gather Pattern.oneOf (← branches n)
      if (← peek) ≠ some ')' then throw .groupUnclosed
      bump
      modify fun r => { r with flags := outer }
      return some (p.within fun p => (number?.map (Pattern.group · p)).getD p)

end

end Reader

def depthLimit : Nat := 250

/-- Enough steps to read `n` characters: a group takes three before it passes its bracket. -/
def readingSteps (n : Nat) : Nat := 3 * n + 4

def readPattern (text : List Char) : Except RegexProblem Pattern := do
  let (branches, left) ← (Reader.branches (readingSteps text.length)).run ⟨text, .initial, 0, []⟩
  if !left.rest.isEmpty then throw .groupUnopened
  let p := Nested.gather Pattern.oneOf branches
  if depthLimit < p.depth then throw .tooDeep
  if p.value.isTooHeavy then throw .tooLarge
  return p.value

def read (text : List Char) : Except RegexProblem Regex := return (← readPattern text).toRegex

end Parsing.Regex
