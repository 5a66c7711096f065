
namespace Parsing

structure Visited where
  words : Array Nat
  deriving DecidableEq, Repr

namespace Visited

def upTo (last : Nat) : Visited := ⟨Array.replicate (last / 32 + 1) 0⟩

def contains (v : Visited) (address : Nat) : Bool :=
  (v.words.getD (address / 32) 0).testBit (address % 32)

def insert (v : Visited) (address : Nat) : Visited :=
  ⟨v.words.modify (address / 32) (· ||| 1 <<< (address % 32))⟩

end Visited

end Parsing
