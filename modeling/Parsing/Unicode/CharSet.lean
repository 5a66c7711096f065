import Parsing.Unicode.Bounds
import Parsing.Unicode.CaseFolding

/-!
Sets of characters. A set is the increasing list of the code points at which membership changes, so
that equal sets have equal lists; no set holds a surrogate.
-/

namespace Parsing

structure CharSet where
  bounds : List Nat
  deriving DecidableEq, Repr

namespace CharSet

open Unicode

def contains (s : CharSet) (c : Char) : Bool := inside s.bounds c.toNat

def empty : CharSet := ⟨[]⟩

def any : CharSet := ⟨[0, 0xD800, 0xE000, 0x110000]⟩

def union (s t : CharSet) : CharSet := ⟨combine (· || ·) s.bounds t.bounds⟩

def inter (s t : CharSet) : CharSet := ⟨combine (· && ·) s.bounds t.bounds⟩

def diff (s t : CharSet) : CharSet := ⟨combine (fun p q => p && !q) s.bounds t.bounds⟩

def symmDiff (s t : CharSet) : CharSet := ⟨combine Bool.xor s.bounds t.bounds⟩

def complement (s : CharSet) : CharSet := any.diff s

@[simp] theorem contains_empty (c : Char) : empty.contains c = false := rfl

theorem contains_diff {s t : CharSet} (hs : s.bounds.Pairwise (· < ·))
    (ht : t.bounds.Pairwise (· < ·)) (c : Char) :
    (s.diff t).contains c = (s.contains c && !t.contains c) := inside_combine rfl hs ht _

def range (first last : Char) : CharSet := any.inter ⟨[first.toNat, last.toNat + 1]⟩

def single (c : Char) : CharSet := ⟨[c.toNat, c.toNat + 1]⟩

@[simp] theorem contains_single (a c : Char) : (single a).contains c = decide (c = a) := by
  rw [Bool.eq_iff_iff, decide_eq_true_iff, contains, single, inside_range]
  constructor
  · intro h
    exact Char.toNat_inj.1 (by omega)
  · rintro rfl
    omega

def ofList (ranges : List (Char × Char)) : CharSet :=
  ranges.foldr (fun r s => (range r.1 r.2).union s) empty

def unionAll (sets : List CharSet) : CharSet := sets.foldr union empty

def ofText (text : String) : CharSet := ⟨boundsOfText text⟩

def single? (s : CharSet) : Option Char :=
  match s.bounds with
  | [a, b] => if b = a + 1 then some (Char.ofNat a) else none
  | _ => none

def ranges (s : CharSet) : List (Nat × Nat) := pairs s.bounds
where
  pairs : List Nat → List (Nat × Nat)
    | a :: b :: bs => (a, b - 1) :: pairs bs
    | _ => []

def isAscii (s : CharSet) : Bool := s.bounds.all (· ≤ 128)

def caseless (s : CharSet) : CharSet :=
  let mates := (caseMates.filter (·.any (inside s.bounds))).flatten
  mates.foldr (fun n s => union ⟨[n, n + 1]⟩ s) s

def ascii : CharSet := range '\x00' '\x7f'

namespace Ascii

def digit : CharSet := range '0' '9'

def blank : CharSet := ofList [('\t', '\r'), (' ', ' ')]

def word : CharSet := ofList [('0', '9'), ('A', 'Z'), ('_', '_'), ('a', 'z')]

def named? : String → Option CharSet
  | "alnum" => some (ofList [('0', '9'), ('A', 'Z'), ('a', 'z')])
  | "alpha" => some (ofList [('A', 'Z'), ('a', 'z')])
  | "ascii" => some ascii
  | "blank" => some (ofList [('\t', '\t'), (' ', ' ')])
  | "cntrl" => some (ofList [('\x00', '\x1f'), ('\x7f', '\x7f')])
  | "digit" => some digit
  | "graph" => some (range '!' '~')
  | "lower" => some (range 'a' 'z')
  | "print" => some (range ' ' '~')
  | "punct" => some (ofList [('!', '/'), (':', '@'), ('[', '\x60'), ('\x7b', '~')])
  | "space" => some blank
  | "upper" => some (range 'A' 'Z')
  | "word" => some word
  | "xdigit" => some (ofList [('0', '9'), ('A', 'F'), ('a', 'f')])
  | _ => none

end Ascii

end CharSet

end Parsing
