/-!
Ranges of characters as sequences of byte ranges: a character is in the range if its bytes in UTF-8
are in the byte ranges of one of the sequences, one after the other. The sequences of a range are
increasing and do not meet.
-/

namespace Parsing.Unicode

abbrev ByteRange := Nat × Nat

def utf8Bytes (n : Nat) : List Nat :=
  if n < 0x80 then [n]
  else if n < 0x800 then [0xC0 + n / 64, 0x80 + n % 64]
  else if n < 0x10000 then [0xE0 + n / 4096, 0x80 + n / 64 % 64, 0x80 + n % 64]
  else [0xF0 + n / 262144, 0x80 + n / 4096 % 64, 0x80 + n / 64 % 64, 0x80 + n % 64]

def splitAfter (limits : List Nat) (range : Nat × Nat) : List (Nat × Nat) :=
  match limits with
  | [] => [range]
  | limit :: limits =>
    if range.1 ≤ limit && limit < range.2 then
      (range.1, limit) :: splitAfter limits (limit + 1, range.2)
    else splitAfter limits range

/-- Splits a range so that in each part the code points either agree in all digits but the last
`level`, in base 64, or run through all values of these. -/
def splitAligned : Nat → Nat × Nat → List (Nat × Nat)
  | 0, range => [range]
  | level + 1, (first, last) =>
    let size := 64 ^ (level + 1)
    if first / size = last / size then splitAligned level (first, last)
    else
      let inner := if first % size = 0 then first else (first / size + 1) * size
      let outer := if last % size = size - 1 then last + 1 else last / size * size
      (if first < inner then splitAligned level (first, inner - 1) else []) ++
      (if inner < outer then [(inner, outer - 1)] else []) ++
      (if outer ≤ last then splitAligned level (outer, last) else [])

def utf8Sequences (range : Nat × Nat) : List (List ByteRange) :=
  (splitAfter [0x7F, 0x7FF, 0xFFFF] range).flatMap fun part =>
    (splitAligned ((utf8Bytes part.1).length - 1) part).map fun (first, last) =>
      (utf8Bytes first).zip (utf8Bytes last)

example : utf8Sequences (0x41, 0x7FF) = [[(0x41, 0x7F)], [(0xC2, 0xDF), (0x80, 0xBF)]] := by decide

example : utf8Sequences (0x80, 0xBF) = [[(0xC2, 0xC2), (0x80, 0xBF)]] := by decide

end Parsing.Unicode
