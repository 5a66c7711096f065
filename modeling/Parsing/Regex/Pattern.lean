import Parsing.Regex.Look

/-!
Regular patterns in a normal form. Characters that follow each other make one literal, sequences and
alternatives lean to the right, and what all alternatives begin with stands before them. The
functions `concat`, `oneOf`, `ofSet` and `repeated` build patterns of this form from such patterns.
-/

namespace Parsing

inductive Pattern
  | empty
  | literal (c : Char) (cs : List Char)
  | chars (s : CharSet)
  | look (l : Look)
  | group (number : Nat) (p : Pattern)
  | rep (greedy : Bool) (least : Nat) (most : Option Nat) (p : Pattern)
  | seq (p q : Pattern)
  | alt (p q : Pattern)
  deriving DecidableEq, Repr

namespace Pattern

def minLength? : Pattern → Option Nat
  | empty | look _ => some 0
  | literal _ cs => some (cs.length + 1)
  | chars s => if s = .empty then none else some 1
  | group _ p => p.minLength?
  | rep _ least _ p => p.minLength?.map (least * ·)
  | seq p q => p.minLength?.bind fun m => q.minLength?.map (m + ·)
  | alt p q => p.minLength?.bind fun m => q.minLength?.map (min m)

def advances (p : Pattern) : Bool := p.minLength?.any (0 < ·)

def standsStill : Pattern → Bool
  | empty | look _ => true
  | literal _ _ | chars _ => false
  | group _ p | rep _ _ _ p => p.standsStill
  | seq p q | alt p q => p.standsStill && q.standsStill

def startsAtStart : Pattern → Bool
  | look l => l = .textStart
  | group _ p => p.startsAtStart
  | rep _ least _ p => 0 < least && p.startsAtStart
  | seq p q => p.startsAtStart || (p.standsStill && q.startsAtStart)
  | alt p q => p.startsAtStart && q.startsAtStart
  | _ => false

def stopsAtEnd : Pattern → Bool
  | look l => l = .textEnd
  | group _ p => p.stopsAtEnd
  | rep _ least _ p => 0 < least && p.stopsAtEnd
  | seq p q => q.stopsAtEnd || (q.standsStill && p.stopsAtEnd)
  | alt p q => p.stopsAtEnd && q.stopsAtEnd
  | _ => false

def parts : Pattern → List Pattern
  | empty => []
  | seq p q => p :: q.parts
  | p => [p]

def ofParts : List Pattern → Pattern
  | [] => empty
  | [p] => p
  | p :: ps => seq p (ofParts ps)

def consPart : Pattern → List Pattern → List Pattern
  | literal c cs, literal d ds :: ps => literal c (cs ++ d :: ds) :: ps
  | p, ps => p :: ps

def concat (ps : List Pattern) : Pattern := ofParts ((ps.flatMap parts).foldr consPart [])

def ofSet (s : CharSet) : Pattern :=
  match s.single? with
  | some c => literal c []
  | none => chars s

def branches : Pattern → List Pattern
  | alt p q => p :: q.branches
  | p => [p]

def ofBranches : List Pattern → Pattern
  | [] => chars .empty
  | [p] => p
  | p :: ps => alt p (ofBranches ps)

def character? : Pattern → Option Char
  | literal c [] => some c
  | _ => none

def set? : Pattern → Option CharSet
  | chars s => some s
  | _ => none

def setOf? (ps : List Pattern) : Option CharSet :=
  ((ps.mapM character?).map fun cs => CharSet.unionAll (cs.map .single)).or
    ((ps.mapM set?).map CharSet.unionAll)

def alternatives (ps : List Pattern) : Pattern :=
  match ps with
  | [p] => p
  | _ => ((setOf? ps).map ofSet).getD (ofBranches ps)

def commonPrefix : List Pattern → List Pattern → List Pattern
  | p :: ps, q :: qs => if p = q then p :: commonPrefix ps qs else []
  | _, _ => []

def sharedParts : List Pattern → List Pattern
  | [] => []
  | p :: ps =>
    let several (q : Pattern) : List Pattern := if 1 < q.parts.length then q.parts else []
    ps.foldl (fun shared q => commonPrefix shared (several q)) (several p)

def oneOf (ps : List Pattern) : Pattern :=
  let ps := ps.flatMap branches
  let shared := if 1 < ps.length && (setOf? ps).isNone then sharedParts ps else []
  if shared.isEmpty then alternatives ps
  else
    let rests := ps.map fun p => concat (p.parts.drop shared.length)
    concat (shared ++ [alternatives (rests.flatMap branches)])

/-- From `least` to `most` repetitions. Of what passes no character one is as good as many. -/
def repeated (greedy : Bool) (least : Nat) (most : Option Nat) (p : Pattern) : Pattern :=
  let (least, most) :=
    if p.standsStill then (min least 1, some ((most.map (min · 1)).getD 1)) else (least, most)
  if least = 0 ∧ most = some 0 then empty
  else if least = 1 ∧ most = some 1 then p
  else rep greedy least most p

end Pattern

end Parsing
