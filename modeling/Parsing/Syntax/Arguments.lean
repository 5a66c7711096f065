import Parsing.Syntax.Tree

/-!
The arguments of a reduction: what the children of a node were reduced to. An argument is handed out
once; its slot is empty afterwards, even when the argument was not of the kind asked for.
-/

namespace Parsing

structure Frame (α : Type) where
  rule : String
  slots : List (Option α)
  deriving DecidableEq, Repr

namespace Frame

variable {α : Type}

def ofList (rule : String) (items : List α) : Frame α := ⟨rule, items.map some⟩

def size (f : Frame α) : Nat := f.slots.length

def isEmpty (f : Frame α) : Bool := f.slots.isEmpty

def get? (f : Frame α) (i : Nat) : Option α := f.slots[i]?.join

def clear (f : Frame α) (i : Nat) : Frame α := { f with slots := f.slots.set i none }

end Frame

inductive Arg (K V : Type)
  | token (t : Token K)
  | value (v : V)
  | many (items : List (Arg K V))
  | absent
  | present (item : Arg K V)
  | group (args : Frame (Arg K V))

abbrev Args (K V : Type) := Frame (Arg K V)

inductive ArgShape
  | token
  | value
  | repetition
  | option
  | group
  deriving DecidableEq, Repr

def ArgShape.describe : ArgShape → String
  | token => "token"
  | value => "value"
  | repetition => "repetition"
  | option => "option"
  | group => "group"

inductive ReduceError
  | missingArgument (rule : String) (index : Nat)
  | argumentKind (rule : String) (index : Nat) (expected found : ArgShape)
  | unknownRule (node : String)
  | notANode (found : TreeShape)
  | custom (message : String)
  deriving DecidableEq, Repr

def ReduceError.message : ReduceError → String
  | missingArgument rule index => s!"rule `{rule}` has no argument {index}"
  | argumentKind rule index expected found =>
    s!"rule `{rule}`: argument {index} is a {found.describe}, not a {expected.describe}"
  | unknownRule node => s!"no rule for node `{node}`"
  | notANode found => s!"only rule nodes can be reduced, found a {found.describe}"
  | custom message => message

namespace Arg

variable {K V : Type}

def shape : Arg K V → ArgShape
  | token _ => .token
  | value _ => .value
  | many _ => .repetition
  | absent | present _ => .option
  | group _ => .group

def token? : Arg K V → Option (Token K)
  | token t => some t
  | _ => none

def value? : Arg K V → Option V
  | value v => some v
  | _ => none

def many? : Arg K V → Option (List (Arg K V))
  | many items => some items
  | _ => none

def option? : Arg K V → Option (Option (Arg K V))
  | absent => some none
  | present item => some (some item)
  | _ => none

def group? : Arg K V → Option (Args K V)
  | group args => some args
  | _ => none

end Arg

/-- Computations that take arguments. What was taken stays taken when the computation fails. -/
abbrev ArgsM (K V : Type) := ExceptT ReduceError (StateM (Args K V))

abbrev Reducer (K V : Type) := ArgsM K V V

namespace ArgsM

variable {K V α : Type}

def eval (m : ArgsM K V α) (args : Args K V) : Except ReduceError α := (m.run.run args).1

def within (args : Args K V) (m : ArgsM K V α) : ArgsM K V α := liftExcept (m.eval args)
where
  liftExcept : Except ReduceError α → ArgsM K V α
    | .ok a => pure a
    | .error e => throw e

def rule : ArgsM K V String := return (← get).rule

def take (i : Nat) : ArgsM K V (Arg K V) := do
  let args ← get
  match args.get? i with
  | some a =>
    set (args.clear i)
    return a
  | none => throw (.missingArgument args.rule i)

def expect (s : ArgShape) (content? : Arg K V → Option α) (i : Nat) (a : Arg K V) :
    ArgsM K V α := do
  match content? a with
  | some x => return x
  | none => throw (.argumentKind (← rule) i s a.shape)

def takeAs (s : ArgShape) (content? : Arg K V → Option α) (i : Nat) : ArgsM K V α := do
  expect s content? i (← take i)

def token (i : Nat) : ArgsM K V (Token K) := takeAs .token Arg.token? i

def value (i : Nat) : ArgsM K V V := takeAs .value Arg.value? i

def group (i : Nat) : ArgsM K V (Args K V) := takeAs .group Arg.group? i

def manyOf (s : ArgShape) (content? : Arg K V → Option α) (i : Nat) : ArgsM K V (List α) := do
  (← takeAs .repetition Arg.many? i).mapM (expect s content? i)

def tokens (i : Nat) : ArgsM K V (List (Token K)) := manyOf .token Arg.token? i

def values (i : Nat) : ArgsM K V (List V) := manyOf .value Arg.value? i

def groups (i : Nat) : ArgsM K V (List (Args K V)) := manyOf .group Arg.group? i

def optionOf (s : ArgShape) (content? : Arg K V → Option α) (i : Nat) : ArgsM K V (Option α) := do
  match ← takeAs .option Arg.option? i with
  | none => return none
  | some a => some <$> expect s content? i a

def optionToken (i : Nat) : ArgsM K V (Option (Token K)) := optionOf .token Arg.token? i

def optionValue (i : Nat) : ArgsM K V (Option V) := optionOf .value Arg.value? i

def optionGroup (i : Nat) : ArgsM K V (Option (Args K V)) := optionOf .group Arg.group? i

end ArgsM

end Parsing
