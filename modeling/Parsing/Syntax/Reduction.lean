import Parsing.Grammar.Basic

namespace Parsing

variable {K V : Type} [TokenKind K]

namespace Rule

def reducerFor (r : Rule K V) (operator? : Option K) : Reducer K V :=
  (operator?.bind r.operator?).getD r.reducer

end Rule

namespace Grammar

def ruleOf (g : Grammar K V) (h : Head K) : Except ReduceError (Rule K V) :=
  match g.rule? h.nonTerminal h.rule with
  | some r => .ok r
  | none => .error (.unknownRule h.name)

mutual

/-- What a tree is reduced to as a child of a node. The rule of a node is looked up before its
children are reduced. -/
def argument (g : Grammar K V) : Tree K → Except ReduceError (Arg K V)
  | .leaf t => return .token t
  | .node h ts => do
    let r ← g.ruleOf h
    return .value (← (r.reducerFor h.operator?).eval (.ofList h.name (← g.arguments ts)))
  | .many ts => return .many (← g.arguments ts)
  | .absent => return .absent
  | .present t => return .present (← g.argument t)
  | .group ts => return .group (.ofList "group" (← g.arguments ts))

def arguments (g : Grammar K V) : List (Tree K) → Except ReduceError (List (Arg K V))
  | [] => return []
  | t :: ts => do
    let a ← g.argument t
    let more ← g.arguments ts
    return a :: more

end

def reduce (g : Grammar K V) : Tree K → Except ReduceError V
  | .node h ts => do
    let r ← g.ruleOf h
    (r.reducerFor h.operator?).eval (.ofList h.name (← g.arguments ts))
  | t => throw (.notANode t.shape)

end Grammar

end Parsing
