import Parsing.Regex.Pattern
import Parsing.Unicode.Utf8
import Std.Data.TreeMap.Basic

/-!
The weight of a pattern: the bytes that a machine over the bytes of a text takes, with all counted
repetitions written out. A machine that reads forwards keeps the bounds of groups, one that reads
backwards does not. Patterns of which either machine is too heavy are refused.

States are numbered in the order in which they are added. Within a set of characters a state is
shared if it can be found again, for which it has a place that follows from what it does and where
it leads to. A newer state may take the place of an older one, which is then not found again.
-/

namespace Parsing

open Unicode

inductive Direction
  | forwards
  | backwards
  deriving DecidableEq, Repr

/-- What has been built of a machine: the number of its states, and the bytes that these take for
their branches and ranges. -/
structure Machine where
  states : Nat
  extra : Nat
  deriving DecidableEq, Repr

namespace Machine

def add (states extra : Nat) (m : Machine) : Machine := ⟨m.states + states, m.extra + extra⟩

def branch : Nat := 4

def byteRange : Nat := 8

def weight (m : Machine) : Nat := 32 * m.states + m.extra

def weightLimit : Nat := 10485760

def isTooHeavy (m : Machine) : Bool := weightLimit < m.weight

def addCopies (part : Machine → Machine) : Nat → Machine → Machine
  | 0, m => m
  | n + 1, m => if m.isTooHeavy then m else addCopies part n (part m)

/-- A machine with those states of a set that can be found again: in each place the newest, with
what it does and its number. -/
structure Sharing where
  machine : Machine
  found : Std.TreeMap Nat (List Nat × Nat)

/-- One of so many places. The numbers of `key` are mixed into a word of 64 bits, one after the
other. -/
def place (places : Nat) (key : List Nat) : Nat :=
  (key.foldl (fun h n => (h ^^^ n.toUInt64) * 1099511628211) (14695981039346656037 : UInt64)).toNat
    % places

def Sharing.intern (places extra : Nat) (key : List Nat) (s : Sharing) : Nat × Sharing :=
  let n := s.machine.states
  let new := (n, ⟨s.machine.add 1 extra, s.found.insert (place places key) (key, n)⟩)
  match s.found.get? (place places key) with
  | some (key', n') => if key' = key then (n', s) else new
  | none => new

def groupFirst (seqs : List (List ByteRange)) : List (ByteRange × List (List ByteRange)) :=
  seqs.foldr (fun s groups =>
    match s, groups with
    | [], _ => groups
    | r :: s, (r', ss) :: more => if r = r' then (r', s :: ss) :: more else (r, [s]) :: groups
    | r :: s, [] => [(r, [s])]) []

def Sharing.addEnds (stop : Nat) : Nat → List (List ByteRange) → Sharing → Nat × Sharing
  | 0, _, s => (stop, s)
  | n + 1, seqs, s =>
    if seqs.all (·.isEmpty) then (stop, s)
    else
      let groups := groupFirst seqs
      let (key, s) := groups.foldl (fun (key, s) (r, ss) =>
        let (next, s) := s.addEnds stop n ss
        (next :: r.2 :: r.1 :: key, s)) ([], s)
      s.intern 10000 (byteRange * groups.length) key.reverse

def Sharing.addBeginning (stop : Nat) (s : Sharing) (seq : List ByteRange) : Sharing :=
  (seq.foldl (fun (next, s) r => s.intern 1000 0 [next, r.1, r.2]) (stop, s)).2

def addSet (d : Direction) (s : CharSet) (m : Machine) : Machine :=
  if m.isTooHeavy then m
  else if s.isAscii then m.add 2 (byteRange * s.ranges.length)
  else
    let seqs := s.ranges.flatMap utf8Sequences
    match d with
    | .forwards => (Sharing.addEnds m.states 4 seqs ⟨m.add 1 0, ∅⟩).2.machine
    | .backwards =>
      let start : Sharing := ⟨m.add 2 (branch * seqs.length), ∅⟩
      (seqs.foldl (Sharing.addBeginning (m.states + 1)) start).machine

def literalBytes (d : Direction) (cs : List Char) : List Nat :=
  let bytes := cs.flatMap fun c => utf8Bytes c.toNat
  match d with
  | .forwards => bytes
  | .backwards => bytes.reverse

def cutAtEmpty : List (List Nat) → List (List (List Nat))
  | [] => [[]]
  | [] :: words => [] :: cutAtEmpty words
  | word :: words =>
    match cutAtEmpty words with
    | [] => [[word]]
    | chunk :: chunks => (word :: chunk) :: chunks

def after (byte : Nat) (words : List (List Nat)) : List (List Nat) :=
  words.filterMap fun word => if word.head? = some byte then some word.tail else none

/-- Adds a tree for `words` of at most `n` bytes. Where a word ends, the words before it and those
after it get branches of their own; further ends before any branch do not count. -/
def addWordTree : Nat → List (List Nat) → Machine → Machine
  | 0, _, m => m
  | n + 1, words, m =>
    if words.all (·.isEmpty) then m
    else
      let repeatedEnds := (words.takeWhile (·.isEmpty)).length - 1
      let chunks := (cutAtEmpty (words.drop repeatedEnds)).map fun chunk =>
        ((chunk.filterMap (·.head?)).eraseDups, chunk)
      let full := chunks.filter (!·.1.isEmpty)
      full.foldl (fun m (bytes, chunk) =>
        bytes.foldl (fun m byte => addWordTree n (after byte chunk) m)
          (m.add 1 (if bytes.length = 1 then 0 else byteRange * bytes.length)))
        (m.add 1 (branch * (full.length + (chunks.length - 1))))

def addWords (d : Direction) (words : List (List Char)) (m : Machine) : Machine :=
  let words := words.map (literalBytes d)
  addWordTree ((words.map (·.length)).foldr max 0 + 1) words (m.add 1 0)

inductive Rank
  | first
  | second
  | later
  deriving DecidableEq, Repr

/-- With the second alternative come a state that branches to both and one where both end. -/
def join : Rank → Machine → Machine
  | .first, m => m
  | .second, m => m.add 2 (2 * branch)
  | .later, m => m.add 0 branch

end Machine

namespace Pattern

open Machine

def literal? : Pattern → Option (List Char)
  | literal c cs => some (c :: cs)
  | _ => none

def buildRep (advances : Bool) (part : Machine → Machine) :
    Nat → Option Nat → Machine → Machine
  | 0, none, m =>
    if advances then part (m.add 1 (2 * branch)) else (part m).add 3 (4 * branch)
  | n + 1, none, m => (addCopies part (n + 1) m).add 1 (2 * branch)
  | 0, some 1, m => (part (m.add 1 (2 * branch))).add 1 0
  | least, some most, m =>
    let m := if least = 0 then m.add 1 0 else addCopies part least m
    if least < most then
      addCopies (fun m => part (m.add 1 (2 * branch))) (most - least) (m.add 1 0)
    else m

def build (d : Direction) : Pattern → Rank → Machine → Machine
  | empty, rank, m | look _, rank, m => (m.add 1 0).join rank
  | literal c cs, rank, m => (m.add (literalBytes d (c :: cs)).length 0).join rank
  | chars s, rank, m => (m.addSet d s).join rank
  | group _ p, rank, m =>
    (match d with
    | .forwards => (p.build d .first (m.add 1 0)).add 1 0
    | .backwards => p.build d .first m).join rank
  | rep _ least most p, rank, m =>
    (buildRep p.advances (p.build d .first) least most m).join rank
  | seq p q, rank, m =>
    (match d with
    | .forwards => q.build d .first (p.build d .first m)
    | .backwards => p.build d .first (q.build d .first m)).join rank
  | alt p q, .first, m =>
    match (alt p q).branches.mapM literal? with
    | some words => m.addWords d words
    | none => q.build d .second (p.build d .first m)
  | alt p q, rank, m => q.build d .later ((p.build d .first m).join rank)

def machine (d : Direction) (p : Pattern) : Machine :=
  let start (bound : Bool) : Machine := if bound then ⟨1, 0⟩ else ⟨3, 2 * branch + byteRange⟩
  match d with
  | .forwards => (p.build d .first ((start p.startsAtStart).add 1 0)).add 2 0
  | .backwards => (p.build d .first (start p.stopsAtEnd)).add 1 0

def isTooHeavy (p : Pattern) : Bool :=
  (p.machine .forwards).isTooHeavy || (p.machine .backwards).isTooHeavy

end Pattern

end Parsing
