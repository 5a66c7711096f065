import Parsing.Regex.Program
import Parsing.Regex.Visited

/-!
Searching for a pattern. All ways to match are followed together, in order of preference: a thread
is an address in the program with the spot where it began, and of two threads that come to one
address at one spot only the first is kept. A complete match drops the threads after it, while those
before it may still replace it. As long as there is no match a further thread begins at every spot,
after all others, so that the first spot from which there is a match decides.
-/

namespace Parsing

structure Regex where
  program : Array Instruction
  fromStart : Bool
  deriving DecidableEq, Repr

def Pattern.toRegex (p : Pattern) : Regex := ⟨(p.code 0 p.size).toArray, p.startsAtStart⟩

namespace Regex

structure Thread where
  address : Nat
  start : Nat
  deriving DecidableEq, Repr

/-- What the threads at a spot wait for: a character of one of the sets, each with the thread to go
on with. If there is a complete match, `complete?` is where it began, and the sets stand before it
in preference. -/
structure Waiting where
  steps : List (CharSet × Thread)
  complete? : Option Nat
  deriving DecidableEq, Repr

def followFrom (r : Regex) (s : Spot) :
    Nat → (stack : List Thread) → (visited : Visited) → (steps : List (CharSet × Thread)) → Waiting
  | 0, _, _, steps => ⟨steps.reverse, none⟩
  | _, [], _, steps => ⟨steps.reverse, none⟩
  | n + 1, ⟨address, start⟩ :: stack, visited, steps =>
    if visited.contains address then r.followFrom s n stack visited steps
    else
      let visited := visited.insert address
      match r.program[address]? with
      | none => ⟨steps.reverse, some start⟩
      | some (.pass cs next) => r.followFrom s n stack visited ((cs, ⟨next, start⟩) :: steps)
      | some (.check l next) =>
        r.followFrom s n (if l.holds s then ⟨next, start⟩ :: stack else stack) visited steps
      | some (.jump next) => r.followFrom s n (⟨next, start⟩ :: stack) visited steps
      | some (.split first second) =>
        r.followFrom s n (⟨first, start⟩ :: ⟨second, start⟩ :: stack) visited steps

/-- A visit of an instruction puts two threads on the stack at most, and takes one off. -/
def follow (r : Regex) (s : Spot) (threads : List Thread) : Waiting :=
  r.followFrom s (threads.length + 2 * r.program.size) threads (.upTo r.program.size) []

def Waiting.pass (w : Waiting) (c : Char) : List Thread :=
  w.steps.filterMap fun (s, t) => if s.contains c then some t else none

structure Span where
  start : Nat
  stop : Nat
  deriving DecidableEq, Repr

/-- The best match of `threads`, which stand after so many characters and go on with `rest`, and of
those that begin later; `best?` is the best match so far. -/
def runFrom (r : Regex) (before : Option Char) (passed : Nat) (best? : Option Span)
    (threads : List Thread) (rest : List Char) : Option Span :=
  let waiting := r.follow ⟨before, rest⟩ threads
  let best? := (waiting.complete?.map fun start => ⟨start, passed⟩).or best?
  match rest with
  | [] => best?
  | c :: rest =>
    let begun := if r.fromStart || best?.isSome then [] else [⟨0, passed + 1⟩]
    match waiting.pass c ++ begun with
    | [] => best?
    | threads => r.runFrom (some c) (passed + 1) best? threads rest

def find? (r : Regex) (text : List Char) : Option Span := r.runFrom none 0 none [⟨0, 0⟩] text

theorem stop_runFrom {r : Regex} {before : Option Char} {passed : Nat} {best? : Option Span}
    {threads : List Thread} {rest : List Char} {span : Span}
    (hbest : ∀ b ∈ best?, b.stop ≤ passed)
    (h : r.runFrom before passed best? threads rest = some span) :
    span.stop ≤ passed + rest.length := by
  induction rest generalizing before passed best? threads with
  | nil =>
    simp only [runFrom] at h
    rcases Option.or_eq_some_iff.1 h with h | ⟨-, h⟩
    · obtain ⟨_, -, rfl⟩ := Option.map_eq_some_iff.1 h
      simp
    · exact hbest span h
  | cons c rest ih =>
    have hnext : ∀ b ∈ ((r.follow ⟨before, c :: rest⟩ threads).complete?.map
        fun start => (⟨start, passed⟩ : Span)).or best?, b.stop ≤ passed := by
      intro b hb
      rcases Option.or_eq_some_iff.1 hb with hb | ⟨-, hb⟩
      · obtain ⟨_, -, rfl⟩ := Option.map_eq_some_iff.1 hb
        exact Nat.le_refl passed
      · exact hbest b hb
    simp only [runFrom] at h
    split at h
    · have := hnext span h
      omega
    · have := ih (fun b hb => Nat.le_succ_of_le (hnext b hb)) h
      simp only [List.length_cons]
      omega

theorem stop_find {r : Regex} {text : List Char} {span : Span} (h : r.find? text = some span) :
    span.stop ≤ text.length := by
  simpa using stop_runFrom (by simp) h

end Regex

end Parsing
