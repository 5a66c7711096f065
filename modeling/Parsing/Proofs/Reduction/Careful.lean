import Parsing.Proofs.Reduction.Accessors

namespace Parsing

variable {K V : Type} {α β γ : Type}

namespace ArgsM

def attempt (m : ArgsM K V α) (f : Except ReduceError α → ArgsM K V β) : ArgsM K V β :=
  ExceptT.mk (m.run >>= fun r => (f r).run)

theorem bind_eq_attempt (m : ArgsM K V α) (f : α → ArgsM K V β) :
    m >>= f = attempt m fun
      | .ok x => f x
      | .error e => throw e := by
  change ExceptT.mk (m.run >>= ExceptT.bindCont f) = _
  refine congrArg (fun next => ExceptT.mk (m.run >>= next)) (funext fun r => ?_)
  cases r <;> rfl

theorem eval_attempt (m : ArgsM K V α) (f : Except ReduceError α → ArgsM K V β) (args : Args K V) :
    (attempt m f).eval args = (f (m.run.run args).1).eval (m.run.run args).2 := rfl

end ArgsM

/-- Computations that use the arguments of the clauses in `rest` as these allow. The arguments of a
group are used in the same way, and in between others. Whatever an accessor may give, what comes
after it must be careful in turn with what is left. Errors that are raised besides are `own`. -/
inductive Careful (own : ReduceError → Prop) :
    List (Option (Clause K)) → ArgsM K V α → Prop
  | pure {rest : List (Option (Clause K))} (a : α) : Careful own rest (pure a)
  | fail {rest : List (Option (Clause K))} {e : ReduceError} : own e → Careful own rest (throw e)
  -- The name and the number of the arguments may be looked at.
  | look {rest : List (Option (Clause K))} {f : String → Nat → ArgsM K V α} :
    (∀ name size, Careful own rest (f name size)) →
    Careful own rest (do
      let args ← get
      f args.rule args.size)
  -- The continuation is given errors as well, but no accessor that fits comes to one.
  | access {rest : List (Option (Clause K))} {i : Nat} {c : Clause K} {β : Type}
      {acc : Nat → ArgsM K V β} {P : β → Prop} {f : Except ReduceError β → ArgsM K V α} :
    rest[i]? = some (some c) → Accesses c acc P →
    (∀ x, P x → Careful own (rest.set i none) (f (.ok x))) →
    Careful own rest (ArgsM.attempt (acc i) f)
  -- The arguments of a group are values, so what an accessor leaves of them is passed on.
  | inner {rest inside : List (Option (Clause K))} {args : Args K V} {i : Nat} {c : Clause K}
      {β : Type} {acc : Nat → ArgsM K V β} {P : β → Prop}
      {f : Except ReduceError β × Args K V → ArgsM K V α} :
    Offers inside args → inside[i]? = some (some c) → Accesses c acc P →
    (∀ x args', P x → Offers (inside.set i none) args' → Careful own rest (f (.ok x, args'))) →
    Careful own rest (f ((acc i).run.run args))

namespace Careful

variable {own : ReduceError → Prop} {rest : List (Option (Clause K))}

theorem own_of_eval {m : ArgsM K V α} (h : Careful own rest m) {args : Args K V}
    (hargs : Offers rest args) {e : ReduceError} (he : m.eval args = .error e) : own e := by
  induction h generalizing args with
  | pure a => cases he
  | fail hown =>
    cases he
    exact hown
  | look _ ih => exact ih _ _ hargs he
  | @access rest i c β acc P f hc hacc _ ih =>
    obtain ⟨a, ha, hsuits⟩ := hargs i c hc
    obtain ⟨x, hx, hp⟩ := hacc.exists_returns ha hsuits
    rw [ArgsM.eval_attempt, hx] at he
    exact ih x hp (hargs.clear i) he
  | @inner rest inside nested i c β acc P f hnested hc hacc _ ih =>
    obtain ⟨a, ha, hsuits⟩ := hnested i c hc
    obtain ⟨x, hx, hp⟩ := hacc.exists_returns ha hsuits
    rw [hx] at he
    exact ih x _ hp (hnested.clear i) hargs he

theorem bind {i : Nat} {c : Clause K} {acc : Nat → ArgsM K V β} {P : β → Prop}
    {f : β → ArgsM K V α} (hc : rest[i]? = some (some c)) (hacc : Accesses c acc P)
    (hf : ∀ x, P x → Careful own (rest.set i none) (f x)) : Careful own rest (acc i >>= f) := by
  rw [ArgsM.bind_eq_attempt]
  exact .access hc hacc hf

theorem last {i : Nat} {c : Clause K} {acc : Nat → ArgsM K V α} {P : α → Prop}
    (hc : rest[i]? = some (some c)) (hacc : Accesses c acc P) : Careful own rest (acc i) := by
  rw [← bind_pure (acc i)]
  exact bind hc hacc fun x _ => .pure x

theorem within_bind {inside : List (Option (Clause K))} {m : ArgsM K V β} {f : β → ArgsM K V α}
    (hm : Careful own inside m) {args : Args K V} (hargs : Offers inside args)
    (hf : ∀ x, Careful own rest (f x)) : Careful own rest (ArgsM.within args m >>= f) := by
  induction hm generalizing args with
  | pure a => exact hf a
  | fail hown => exact .fail hown
  | look _ ih => exact ih _ _ hargs
  | @access inside i c β' acc P k hc hacc _ ih =>
    let next (p : Except ReduceError β' × Args K V) := ArgsM.within p.2 (k p.1) >>= f
    have hnext : Careful own rest (next ((acc i).run.run args)) :=
      .inner hargs hc hacc fun x args' hp hargs' => ih x hp hargs'
    exact hnext
  | @inner inside inside' nested i c β' acc P k hnested hc hacc _ ih =>
    let next (p : Except ReduceError β' × Args K V) := ArgsM.within args (k p) >>= f
    have hnext : Careful own rest (next ((acc i).run.run nested)) :=
      .inner hnested hc hacc fun x nested' hp hnested' => ih x nested' hp hnested' hargs
    exact hnext

theorem mapM_bind {xs : List β} {h : β → ArgsM K V γ} {f : List γ → ArgsM K V α}
    (hh : ∀ x ∈ xs, ∀ k : γ → ArgsM K V α, (∀ y, Careful own rest (k y)) →
      Careful own rest (h x >>= k))
    (hf : ∀ ys, Careful own rest (f ys)) : Careful own rest (xs.mapM h >>= f) := by
  induction xs generalizing f with
  | nil => exact hf []
  | cons x xs ih =>
    rw [List.mapM_cons, bind_assoc]
    refine hh x (by simp) _ fun y => ?_
    rw [bind_assoc]
    refine ih (fun z hz => hh z (by simp [hz])) fun ys => ?_
    exact hf (y :: ys)

end Careful

theorem Rule.careful_reducerFor [TokenKind K] {own : ReduceError → Prop} {r : Rule K V}
    {rest : List (Option (Clause K))} (hr : Careful own rest r.reducer)
    (hops : ∀ p ∈ r.operators, Careful own rest p.2) (operator? : Option K) :
    Careful own rest (r.reducerFor operator?) := by
  rw [reducerFor]
  cases h : operator?.bind r.operator? with
  | none => exact hr
  | some f =>
    obtain ⟨k, -, hf⟩ := Option.bind_eq_some_iff.1 h
    obtain ⟨p, hp, rfl⟩ := Option.map_eq_some_iff.1 hf
    exact hops p (List.mem_reverse.1 (List.mem_of_find?_eq_some hp))

end Parsing
