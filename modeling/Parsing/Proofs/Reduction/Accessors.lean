import Parsing.Proofs.Reduction.Applications

namespace Parsing

variable {K V : Type}

namespace Frame

variable {α : Type} {f : Frame α} {i j : Nat}

theorem get?_clear_of_ne (h : i ≠ j) : (f.clear i).get? j = f.get? j := by
  simp [get?, clear, List.getElem?_set_ne h]

end Frame

namespace ArgsM

variable {α β : Type} {args args' args'' : Args K V} {i : Nat}

def Returns (m : ArgsM K V α) (args : Args K V) (x : α) (args' : Args K V) : Prop :=
  m.run.run args = (.ok x, args')

theorem Returns.pure (x : α) (args : Args K V) : Returns (pure x) args x args := rfl

theorem Returns.bind {m : ArgsM K V α} {f : α → ArgsM K V β} {x : α} {y : β}
    (h : Returns m args x args') (h' : Returns (f x) args' y args'') :
    Returns (m >>= f) args y args'' := by
  rw [Returns, ExceptT.run_bind, StateT.run_bind, h]
  exact h'

theorem Returns.map {m : ArgsM K V α} {x : α} (h : Returns m args x args') (f : α → β) :
    Returns (f <$> m) args (f x) args' := by
  rw [map_eq_pure_bind]
  exact h.bind (.pure _ _)

theorem Returns.mapM {f : α → ArgsM K V β} {P : β → Prop} {as : List α}
    (h : ∀ a ∈ as, ∃ x, Returns (f a) args x args ∧ P x) :
    ∃ xs, Returns (as.mapM f) args xs args ∧ xs.length = as.length ∧ ∀ x ∈ xs, P x := by
  induction as with
  | nil => exact ⟨[], .pure [] args, rfl, by simp⟩
  | cons a as ih =>
    obtain ⟨x, hx, hp⟩ := h a (by simp)
    obtain ⟨xs, hxs, hlen, hps⟩ := ih fun b hb => h b (by simp [hb])
    refine ⟨x :: xs, ?_, congrArg (· + 1) hlen, List.forall_mem_cons.2 ⟨hp, hps⟩⟩
    rw [List.mapM_cons]
    exact hx.bind (hxs.bind (.pure _ _))

theorem Returns.mapM_map {γ : Type} {f : α → ArgsM K V β} {e : γ → α} {g : γ → β} {xs : List γ}
    (h : ∀ x, Returns (f (e x)) args (g x) args) :
    Returns ((xs.map e).mapM f) args (xs.map g) args := by
  induction xs with
  | nil => exact .pure [] args
  | cons x xs ih =>
    rw [List.map_cons, List.mapM_cons]
    exact (h x).bind (ih.bind (.pure _ _))

theorem get_returns : Returns (get : ArgsM K V (Args K V)) args args args := rfl

theorem set_returns : Returns (set args' : ArgsM K V PUnit) args .unit args' := rfl

theorem take_returns {a : Arg K V} (h : args.get? i = some a) :
    Returns (take i) args a (args.clear i) := by
  refine get_returns.bind ?_
  rw [h]
  exact set_returns.bind (.pure a _)

section

variable {s : ArgShape} {content? : Arg K V → Option α} {a : Arg K V} {x : α}

theorem expect_returns (h : content? a = some x) :
    Returns (expect s content? i a) args x args := by
  rw [expect, h]
  exact .pure x args

theorem takeAs_returns (hi : args.get? i = some a) (h : content? a = some x) :
    Returns (takeAs s content? i) args x (args.clear i) :=
  (take_returns hi).bind (expect_returns h)

theorem manyOf_returns {P : α → Prop} {items : List (Arg K V)}
    (hi : args.get? i = some (.many items)) (h : ∀ a ∈ items, ∃ x, content? a = some x ∧ P x) :
    ∃ xs, Returns (manyOf s content? i) args xs (args.clear i) ∧ xs.length = items.length ∧
      ∀ x ∈ xs, P x := by
  have hitems (a : Arg K V) (ha : a ∈ items) :
      ∃ x, Returns (expect s content? i a) (args.clear i) x (args.clear i) ∧ P x := by
    obtain ⟨x, hx, hp⟩ := h a ha
    exact ⟨x, expect_returns hx, hp⟩
  have hmany : Arg.many? (.many items) = some items := rfl
  obtain ⟨xs, hxs, hlen, hps⟩ := Returns.mapM hitems
  exact ⟨xs, (takeAs_returns hi hmany).bind hxs, hlen, hps⟩

theorem optionOf_returns_none (hi : args.get? i = some .absent) :
    Returns (optionOf s content? i) args none (args.clear i) := by
  have habsent : Arg.option? (.absent : Arg K V) = some none := rfl
  exact (takeAs_returns hi habsent).bind (.pure none _)

theorem optionOf_returns_some (hi : args.get? i = some (.present a)) (h : content? a = some x) :
    Returns (optionOf s content? i) args (some x) (args.clear i) := by
  have hpresent : Arg.option? (.present a) = some (some a) := rfl
  have hcontent : Returns (some <$> expect s content? i a) (args.clear i) (some x) (args.clear i) :=
    (expect_returns h).map some
  exact (takeAs_returns hi hpresent).bind hcontent

end

end ArgsM

inductive Holds : {α : Type} → Clause K → ArgShape → (Arg K V → Option α) → (α → Prop) → Prop
  | token {k : K} : Holds (.terminal k) .token Arg.token? fun t => t.kind = k
  | value {name : String} : Holds (.nonTerminal name) .value Arg.value? fun _ => True
  | group {cs : List (Clause K)} :
    Holds (.group cs) .group Arg.group? fun args => Suits (.group cs) (.group args)

theorem Holds.exists_content {α : Type} {c : Clause K} {s : ArgShape}
    {content? : Arg K V → Option α} {P : α → Prop} (h : Holds c s content? P) {a : Arg K V}
    (ha : Suits c a) : ∃ x, content? a = some x ∧ P x := by
  cases h with
  | token =>
    cases ha with
    | token hk => exact ⟨_, rfl, hk⟩
  | value =>
    cases ha
    exact ⟨_, rfl, trivial⟩
  | group =>
    obtain ⟨args, rfl⟩ : ∃ args, a = .group args := by cases ha <;> exact ⟨_, rfl⟩
    exact ⟨args, rfl, ha⟩

/-- The accessors that fit a clause, and what they give. Any argument may also be taken as it is. -/
inductive Accesses : {α : Type} → Clause K → (Nat → ArgsM K V α) → (α → Prop) → Prop
  | take {c : Clause K} : Accesses c ArgsM.take (Suits c)
  | content {α : Type} {c : Clause K} {s : ArgShape} {content? : Arg K V → Option α}
      {P : α → Prop} : Holds c s content? P → Accesses c (ArgsM.takeAs s content?) P
  | zeroOrMore {α : Type} {c : Clause K} {s : ArgShape} {content? : Arg K V → Option α}
      {P : α → Prop} : Holds c s content? P →
    Accesses (.zeroOrMore c) (ArgsM.manyOf s content?) fun xs => ∀ x ∈ xs, P x
  | oneOrMore {α : Type} {c : Clause K} {s : ArgShape} {content? : Arg K V → Option α}
      {P : α → Prop} : Holds c s content? P →
    Accesses (.oneOrMore c) (ArgsM.manyOf s content?) fun xs => xs ≠ [] ∧ ∀ x ∈ xs, P x
  | optional {α : Type} {c : Clause K} {s : ArgShape} {content? : Arg K V → Option α}
      {P : α → Prop} : Holds c s content? P →
    Accesses (.optional c) (ArgsM.optionOf s content?) fun o => ∀ x ∈ o, P x

theorem Accesses.exists_returns {α : Type} {c : Clause K} {access : Nat → ArgsM K V α}
    {P : α → Prop} (h : Accesses c access P) {args : Args K V} {i : Nat} {a : Arg K V}
    (hi : args.get? i = some a) (ha : Suits c a) :
    ∃ x, (access i).Returns args x (args.clear i) ∧ P x := by
  cases h with
  | take => exact ⟨a, ArgsM.take_returns hi, ha⟩
  | content h =>
    obtain ⟨x, hx, hp⟩ := h.exists_content ha
    exact ⟨x, ArgsM.takeAs_returns hi hx, hp⟩
  | zeroOrMore h =>
    cases ha with
    | zeroOrMore hitems =>
      obtain ⟨xs, hxs, -, hps⟩ :=
        ArgsM.manyOf_returns hi fun a ha => h.exists_content (hitems a ha)
      exact ⟨xs, hxs, hps⟩
  | oneOrMore h =>
    cases ha with
    | oneOrMore hne hitems =>
      obtain ⟨xs, hxs, hlen, hps⟩ :=
        ArgsM.manyOf_returns hi fun a ha => h.exists_content (hitems a ha)
      exact ⟨xs, hxs, List.length_pos_iff.1 (hlen ▸ List.length_pos_iff.2 hne), hps⟩
  | optional h =>
    cases ha with
    | absent => exact ⟨none, ArgsM.optionOf_returns_none hi, by simp⟩
    | present hitem =>
      obtain ⟨x, hx, hp⟩ := h.exists_content hitem
      exact ⟨some x, ArgsM.optionOf_returns_some hi hx, by simpa using hp⟩

def Offers (rest : List (Option (Clause K))) (args : Args K V) : Prop :=
  ∀ i c, rest[i]? = some (some c) → ∃ a, args.get? i = some a ∧ Suits c a

theorem Suits.offers {cs : List (Clause K)} {args : Args K V}
    (h : Suits (.group cs) (.group args)) : Offers (cs.map some) args := by
  intro i c hc
  exact h.exists_get? (by simpa using hc)

theorem Offers.clear {rest : List (Option (Clause K))} {args : Args K V} (h : Offers rest args)
    (i : Nat) : Offers (rest.set i none) (args.clear i) := by
  intro j c hc
  have hne : i ≠ j := by
    rintro rfl
    simp [List.getElem?_set] at hc
  rw [List.getElem?_set_ne hne] at hc
  rw [Frame.get?_clear_of_ne hne]
  exact h j c hc

end Parsing
