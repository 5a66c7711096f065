import Parsing.Regex.Pattern

/-!
Patterns as numbered instructions. An instruction is known by its address; an address past the last
instruction is where a match is complete. Every pattern has at least one instruction, and is entered
at its first.
-/

namespace Parsing

inductive Instruction
  | pass (s : CharSet) (next : Nat)
  | check (l : Look) (next : Nat)
  | jump (next : Nat)
  | split (first second : Nat)
  deriving DecidableEq, Repr

namespace Instruction

def choose (greedy : Bool) (more leave : Nat) : Instruction :=
  if greedy then split more leave else split leave more

end Instruction

namespace Pattern

open Instruction

def size : Pattern → Nat
  | empty | chars _ | look _ => 1
  | literal _ cs => cs.length + 1
  | group _ p => p.size
  | seq p q => p.size + q.size
  | alt p q => p.size + q.size + 1
  | rep _ 0 (some 0) _ => 1
  | rep _ least (some most) p => least * p.size + (most - least) * (p.size + 1)
  | rep _ 0 none p => p.size + if p.advances then 1 else 2
  | rep _ (least + 1) none p => (least + 1) * p.size + 1

def literalCode (start exit : Nat) : Char → List Char → List Instruction
  | c, [] => [pass (.single c) exit]
  | c, d :: ds => pass (.single c) (start + 1) :: literalCode (start + 1) exit d ds

/-- The instructions of a pattern that stand from address `start` on and go on at `exit`. The parts
of a sequence stand one after the other, as do the copies of a part that has to be repeated; a copy
that may be left out follows the choice whether to go on with it. -/
def code : Pattern → (start exit : Nat) → List Instruction
  | empty, _, exit => [jump exit]
  | literal c cs, start, exit => literalCode start exit c cs
  | chars s, _, exit => [pass s exit]
  | look l, _, exit => [check l exit]
  | group _ p, start, exit => p.code start exit
  | seq p q, start, exit =>
    p.code start (start + p.size) ++ q.code (start + p.size) exit
  | alt p q, start, exit =>
    split (start + 1) (start + 1 + p.size) ::
      (p.code (start + 1) exit ++ q.code (start + 1 + p.size) exit)
  | rep _ 0 (some 0) _, _, exit => [jump exit]
  | rep greedy least (some most) p, start, exit =>
    let stop := start + least * p.size + (most - least) * (p.size + 1)
    let after (address : Nat) := if address = stop then exit else address
    let needed := (List.range least).flatMap fun i =>
      p.code (start + i * p.size) (after (start + (i + 1) * p.size))
    let optional := (List.range (most - least)).flatMap fun i =>
      let choice := start + least * p.size + i * (p.size + 1)
      choose greedy (choice + 1) exit :: p.code (choice + 1) (after (choice + 1 + p.size))
    needed ++ optional
  | rep greedy 0 none p, start, exit =>
    if p.advances then choose greedy (start + 1) exit :: p.code (start + 1) start
    else
      let again := start + 1 + p.size
      choose greedy (start + 1) exit ::
        (p.code (start + 1) again ++ [choose greedy (start + 1) exit])
  | rep greedy (least + 1) none p, start, exit =>
    let last := start + least * p.size
    let copies := (List.range (least + 1)).flatMap fun i =>
      p.code (start + i * p.size) (start + (i + 1) * p.size)
    copies ++ [choose greedy last exit]

end Pattern

end Parsing
