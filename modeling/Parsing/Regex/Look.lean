import Parsing.Unicode.CharSet

namespace Parsing

structure Spot where
  before : Option Char
  rest : List Char
  deriving DecidableEq, Repr

namespace Spot

def after (s : Spot) : Option Char := s.rest.head?

end Spot

inductive Look
  | textStart
  | textEnd
  | lineStart
  | lineEnd
  | lineStartAnyBreak
  | lineEndAnyBreak
  | wordBoundary (word : CharSet)
  | notWordBoundary (word : CharSet)
  | wordStart (word : CharSet)
  | wordEnd (word : CharSet)
  | wordStartHalf (word : CharSet)
  | wordEndHalf (word : CharSet)
  deriving DecidableEq, Repr

namespace Look

def inWord (word : CharSet) (c : Option Char) : Bool := c.any word.contains

def holds : Look → Spot → Bool
  | textStart, s => s.before = none
  | textEnd, s => s.rest.isEmpty
  | lineStart, s => s.before = none || s.before = some '\n'
  | lineEnd, s => s.rest.isEmpty || s.after = some '\n'
  | lineStartAnyBreak, s =>
    s.before = none || s.before = some '\n' || (s.before = some '\r' && s.after ≠ some '\n')
  | lineEndAnyBreak, s =>
    s.rest.isEmpty || s.after = some '\r' || (s.after = some '\n' && s.before ≠ some '\r')
  | wordBoundary w, s => inWord w s.before != inWord w s.after
  | notWordBoundary w, s => inWord w s.before == inWord w s.after
  | wordStart w, s => !inWord w s.before && inWord w s.after
  | wordEnd w, s => inWord w s.before && !inWord w s.after
  | wordStartHalf w, s => !inWord w s.before
  | wordEndHalf w, s => !inWord w s.after

end Look

end Parsing
