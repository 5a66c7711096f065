/-!
Places in a source text. Lines and columns count from zero and stop at `Position.limit`; offsets
count bytes of the UTF-8 form.
-/

namespace Parsing

def byteLength (cs : List Char) : Nat := cs.foldr (fun c n => c.utf8Size + n) 0

@[simp] theorem byteLength_nil : byteLength [] = 0 := rfl

@[simp] theorem byteLength_cons (c : Char) (cs : List Char) :
    byteLength (c :: cs) = c.utf8Size + byteLength cs := rfl

@[simp] theorem byteLength_append (cs ds : List Char) :
    byteLength (cs ++ ds) = byteLength cs + byteLength ds := by
  induction cs with
  | nil => simp
  | cons c cs ih => simp [ih, Nat.add_assoc]

/-- The characters before and after a byte offset; an offset past the end is the end. There is no
such split inside of a character. -/
def splitAtOffset? : Nat → List Char → Option (List Char × List Char)
  | 0, cs => some ([], cs)
  | _, [] => some ([], [])
  | n + 1, c :: cs =>
    if c.utf8Size ≤ n + 1 then
      (splitAtOffset? (n + 1 - c.utf8Size) cs).map fun (before, after) => (c :: before, after)
    else none

theorem splitAtOffset?_append (before after : List Char) :
    splitAtOffset? (byteLength before) (before ++ after) = some (before, after) := by
  induction before with
  | nil => cases after <;> rfl
  | cons c cs ih =>
    obtain ⟨n, hn⟩ := Nat.exists_eq_succ_of_ne_zero (Nat.ne_of_gt c.utf8Size_pos)
    have hlength : byteLength (c :: cs) = n + byteLength cs + 1 := by
      rw [byteLength_cons, hn]
      omega
    have hrest : n + byteLength cs + 1 - c.utf8Size = byteLength cs := by omega
    rw [hlength, List.cons_append, splitAtOffset?, if_pos (by omega), hrest, ih]
    rfl

structure Position where
  line : Nat
  column : Nat
  offset : Nat
  deriving DecidableEq, Repr

namespace Position

def start : Position := ⟨0, 0, 0⟩

def limit : Nat := 4294967295

def capped (n : Nat) : Nat := min n limit

def lastLine (cs : List Char) : List Char := (cs.reverse.takeWhile (· ≠ '\n')).reverse

/-- The position after reading `text` at `p`. A text without a newline ends the line only when it
is a line break by itself. -/
def advance (p : Position) (text : List Char) (breaks : Bool) : Position :=
  let offset := p.offset + byteLength text
  if '\n' ∈ text then
    ⟨capped (p.line + text.count '\n'), capped (lastLine text).length, offset⟩
  else if breaks then ⟨capped (p.line + 1), 0, offset⟩
  else ⟨p.line, capped (p.column + text.length), offset⟩

@[simp] theorem offset_advance (p : Position) (text : List Char) (breaks : Bool) :
    (p.advance text breaks).offset = p.offset + byteLength text := by
  simp only [advance]
  split <;> (try split) <;> rfl

/-- A line or column as people count: from one. Beyond the limit the count begins again. -/
def ordinal (n : Nat) : Nat := (n + 1) % (limit + 1)

def describe (p : Position) : String := s!"line {ordinal p.line}, column {ordinal p.column}"

end Position

end Parsing
