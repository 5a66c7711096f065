import Parsing.Syntax.Reduction
import Parsing.Proofs.Matching.Soundness

namespace Parsing

variable {K V : Type}

namespace Tree

def children : Tree K → List (Tree K)
  | leaf _ | absent => []
  | node _ ts | many ts | group ts => ts
  | present t => [t]

theorem induction {P : Tree K → Prop} (step : ∀ tree, (∀ t ∈ tree.children, P t) → P tree)
    (tree : Tree K) : P tree :=
  @Tree.rec K P (fun ts => ∀ t ∈ ts, P t) (fun t => step (.leaf t) nofun)
    (fun h ts => step (.node h ts)) (fun ts => step (.many ts)) (step .absent nofun)
    (fun t ht => step (.present t) (by simpa [children] using ht)) (fun ts => step (.group ts))
    nofun (fun _ _ ht hts => List.forall_mem_cons.2 ⟨ht, hts⟩) tree

end Tree

/-- Whether an argument is of the shape of a clause. A group of clauses and the arguments under it
stand for any sequence of clauses and their arguments, under any name. -/
inductive Suits : Clause K → Arg K V → Prop
  | token {k : K} {t : Token K} : t.kind = k → Suits (.terminal k) (.token t)
  | value {name : String} {v : V} : Suits (.nonTerminal name) (.value v)
  | zeroOrMore {c : Clause K} {items : List (Arg K V)} :
    (∀ a ∈ items, Suits c a) → Suits (.zeroOrMore c) (.many items)
  | oneOrMore {c : Clause K} {items : List (Arg K V)} :
    items ≠ [] → (∀ a ∈ items, Suits c a) → Suits (.oneOrMore c) (.many items)
  | absent {c : Clause K} : Suits (.optional c) .absent
  | present {c : Clause K} {a : Arg K V} : Suits c a → Suits (.optional c) (.present a)
  | group_nil {name : String} : Suits (.group []) (.group ⟨name, []⟩)
  | group_cons {c : Clause K} {cs : List (Clause K)} {a : Arg K V} {name : String}
      {slots : List (Option (Arg K V))} :
    Suits c a → Suits (.group cs) (.group ⟨name, slots⟩) →
    Suits (.group (c :: cs)) (.group ⟨name, some a :: slots⟩)

namespace Suits

variable {cs : List (Clause K)} {args : Args K V}

theorem rename {slots : List (Option (Arg K V))} {name : String} (name' : String)
    (h : Suits (.group cs) (.group ⟨name, slots⟩)) : Suits (.group cs) (.group ⟨name', slots⟩) := by
  induction cs generalizing slots with
  | nil =>
    cases h
    exact .group_nil
  | cons c cs ih =>
    cases h with
    | group_cons ha hslots => exact .group_cons ha (ih hslots)

theorem size_eq (h : Suits (.group cs) (.group args)) : args.size = cs.length := by
  induction cs generalizing args with
  | nil =>
    cases h
    rfl
  | cons c cs ih =>
    cases h with
    | group_cons _ hslots => exact congrArg (· + 1) (ih hslots)

theorem exists_get? (h : Suits (.group cs) (.group args)) {i : Nat} {c : Clause K}
    (hc : cs[i]? = some c) : ∃ a, args.get? i = some a ∧ Suits c a := by
  induction cs generalizing args i with
  | nil => cases hc
  | cons d cs ih =>
    cases h with
    | group_cons ha hslots =>
      cases i with
      | zero =>
        cases hc
        exact ⟨_, rfl, ha⟩
      | succ i => exact ih hslots hc

end Suits

theorem Except.bind_eq_error {ε α β : Type} {x : Except ε α} {f : α → Except ε β} {e : ε} :
    x >>= f = .error e ↔ x = .error e ∨ ∃ a, x = .ok a ∧ f a = .error e := by
  cases x with
  | error e => simp [bind, Except.bind]
  | ok a => simp [bind, Except.bind]

theorem Except.map_eq_error {ε α β : Type} {x : Except ε α} {f : α → β} {e : ε} :
    f <$> x = .error e ↔ x = .error e := by
  cases x with
  | error e => simp [Functor.map, Except.map]
  | ok a => simp [Functor.map, Except.map]

theorem Except.pure_ne_error {ε α : Type} {a : α} {e : ε} : (pure a : Except ε α) ≠ .error e :=
  nofun

namespace Grammar

variable {g : Grammar K V} {h : Head K} {r : Rule K V} {e : ReduceError}

theorem ruleOf_eq_ok : g.ruleOf h = .ok r ↔ g.rule? h.nonTerminal h.rule = some r := by
  rw [ruleOf]
  split <;> simp_all

variable [TokenKind K]

theorem reduce_node {ts : List (Tree K)} :
    g.reduce (.node h ts) = (do
      let r ← g.ruleOf h
      let items ← g.arguments ts
      (r.reducerFor h.operator?).eval (.ofList h.name items)) := rfl

theorem argument_node {ts : List (Tree K)} :
    g.argument (.node h ts) = (do return .value (← g.reduce (.node h ts))) := by
  simp only [argument, reduce, bind_assoc]

theorem arguments_cons_eq_ok {t : Tree K} {ts : List (Tree K)} {items : List (Arg K V)} :
    g.arguments (t :: ts) = .ok items ↔
      ∃ a more, g.argument t = .ok a ∧ g.arguments ts = .ok more ∧ items = a :: more := by
  simp only [arguments, Except.bind_eq_ok, Except.pure_eq_ok]
  constructor
  · rintro ⟨a, ha, more, hmore, rfl⟩
    exact ⟨a, more, ha, hmore, rfl⟩
  · rintro ⟨a, more, ha, hmore, rfl⟩
    exact ⟨a, ha, more, hmore, rfl⟩

theorem exists_of_mem_arguments {ts : List (Tree K)} {items : List (Arg K V)}
    (h : g.arguments ts = .ok items) {a : Arg K V} (ha : a ∈ items) :
    ∃ t ∈ ts, g.argument t = .ok a := by
  induction ts generalizing items with
  | nil =>
    cases h
    cases ha
  | cons t ts ih =>
    obtain ⟨b, more, hb, hmore, rfl⟩ := arguments_cons_eq_ok.1 h
    obtain rfl | ha := List.mem_cons.1 ha
    · exact ⟨t, by simp, hb⟩
    · obtain ⟨s, hs, hsa⟩ := ih hmore ha
      exact ⟨s, by simp [hs], hsa⟩

theorem arguments_cons_eq_error {t : Tree K} {ts : List (Tree K)} :
    g.arguments (t :: ts) = .error e ↔
      g.argument t = .error e ∨ (∃ a, g.argument t = .ok a) ∧ g.arguments ts = .error e := by
  simp [arguments, Except.bind_eq_error, Except.map_eq_error]

theorem arguments_eq_error {ts : List (Tree K)} :
    g.arguments ts = .error e ↔ ∃ before t after, ts = before ++ t :: after ∧
      (∀ s ∈ before, ∃ a, g.argument s = .ok a) ∧ g.argument t = .error e := by
  constructor
  · intro h
    induction ts with
    | nil => cases h
    | cons t ts ih =>
      obtain ht | ⟨ht, hts⟩ := arguments_cons_eq_error.1 h
      · exact ⟨[], t, ts, rfl, by simp, ht⟩
      · obtain ⟨before, s, after, rfl, hbefore, hs⟩ := ih hts
        exact ⟨t :: before, s, after, rfl, List.forall_mem_cons.2 ⟨ht, hbefore⟩, hs⟩
  · rintro ⟨before, t, after, rfl, hbefore, ht⟩
    induction before with
    | nil => exact arguments_cons_eq_error.2 (.inl ht)
    | cons s before ih =>
      rw [List.forall_mem_cons] at hbefore
      exact arguments_cons_eq_error.2 (.inr ⟨hbefore.1, ih hbefore.2⟩)

def Defines (g : Grammar K V) (tree : Tree K) : Prop :=
  ∀ h ts, tree = .node h ts → ∃ r, g.ruleOf h = .ok r

theorem argument_eq_error {tree : Tree K} (hrule : g.Defines tree) :
    g.argument tree = .error e ↔ g.arguments tree.children = .error e ∨
      ∃ h ts r items, tree = .node h ts ∧ g.ruleOf h = .ok r ∧ g.arguments ts = .ok items ∧
        (r.reducerFor h.operator?).eval (.ofList h.name items) = .error e := by
  cases tree with
  | leaf t => simp [argument, arguments, Tree.children, Except.pure_ne_error]
  | node h ts =>
    obtain ⟨r, hr⟩ := hrule h ts rfl
    simp [argument_node, reduce_node, Tree.children, Except.bind_eq_error, Except.map_eq_error, hr]
  | many ts => simp [argument, Tree.children, Except.map_eq_error]
  | absent => simp [argument, arguments, Tree.children, Except.pure_ne_error]
  | present t => simp [argument, arguments, Tree.children, Except.map_eq_error]
  | group ts => simp [argument, Tree.children, Except.map_eq_error]

end Grammar

variable [TokenKind K] {g : Grammar K V} {c : Clause K} {tree : Tree K} {e : ReduceError}

theorem Fits.defines (hfit : Fits g c tree) : g.Defines tree := by
  rintro h ts rfl
  cases hfit with
  | node hr _ => exact ⟨_, Grammar.ruleOf_eq_ok.2 hr⟩

theorem Fits.child (hfit : Fits g c tree) {t : Tree K} (ht : t ∈ tree.children) :
    ∃ d, Fits g d t := by
  induction hfit with
  | leaf => cases ht
  | node _ _ ih => exact ih ht
  | zeroOrMore hitems _ => exact ⟨_, hitems t ht⟩
  | oneOrMore _ hitems _ => exact ⟨_, hitems t ht⟩
  | absent => cases ht
  | present hitem => exact ⟨_, List.mem_singleton.1 ht ▸ hitem⟩
  | group_nil => cases ht
  | group_cons hitem _ _ ih =>
    obtain rfl | ht := List.mem_cons.1 ht
    · exact ⟨_, hitem⟩
    · exact ih ht

theorem Fits.suits (hfit : Fits g c tree) {a : Arg K V} (ha : g.argument tree = .ok a) :
    Suits c a := by
  induction hfit generalizing a with
  | leaf hk =>
    cases ha
    exact .token hk
  | node =>
    rw [Grammar.argument_node] at ha
    obtain ⟨v, -, ha⟩ := Except.bind_eq_ok.1 ha
    cases ha
    exact .value
  | zeroOrMore _ _ ih =>
    obtain ⟨items, hitems, ha⟩ := Except.bind_eq_ok.1 ha
    cases ha
    refine .zeroOrMore fun a ha => ?_
    obtain ⟨t, ht, hta⟩ := Grammar.exists_of_mem_arguments hitems ha
    exact ih t ht hta
  | oneOrMore hne _ _ ih =>
    obtain ⟨items, hitems, ha⟩ := Except.bind_eq_ok.1 ha
    cases ha
    refine .oneOrMore ?_ fun a ha => ?_
    · obtain ⟨t, ts, rfl⟩ := List.exists_cons_of_ne_nil hne
      obtain ⟨b, more, -, -, rfl⟩ := Grammar.arguments_cons_eq_ok.1 hitems
      exact List.cons_ne_nil b more
    · obtain ⟨t, ht, hta⟩ := Grammar.exists_of_mem_arguments hitems ha
      exact ih t ht hta
  | absent =>
    cases ha
    exact .absent
  | present _ ih =>
    obtain ⟨a, hitem, ha⟩ := Except.bind_eq_ok.1 ha
    cases ha
    exact .present (ih hitem)
  | group_nil =>
    cases ha
    exact .group_nil
  | group_cons _ _ ih ihs =>
    obtain ⟨items, hitems, ha⟩ := Except.bind_eq_ok.1 ha
    cases ha
    obtain ⟨a, more, hitem, hmore, rfl⟩ := Grammar.arguments_cons_eq_ok.1 hitems
    exact .group_cons (ih hitem) (ihs (Except.bind_eq_ok.2 ⟨more, hmore, rfl⟩))

/-- The calls of reducers that the reduction of a tree makes: for which node, with which rule, on
which arguments. A child is reduced after those before it, and those of a node only if it has a
rule. -/
inductive Applies (g : Grammar K V) : Tree K → Head K → Rule K V → Args K V → Prop
  | node {h : Head K} {ts : List (Tree K)} {r : Rule K V} {items : List (Arg K V)} :
    g.ruleOf h = .ok r → g.arguments ts = .ok items →
    Applies g (.node h ts) h r (.ofList h.name items)
  | child {tree t : Tree K} {before after : List (Tree K)} {h : Head K} {r : Rule K V}
      {args : Args K V} :
    tree.children = before ++ t :: after → (∀ s ∈ before, ∃ a, g.argument s = .ok a) →
    g.Defines tree → Applies g t h r args → Applies g tree h r args

namespace Applies

variable {h : Head K} {r : Rule K V} {args : Args K V}

theorem argument_eq_error (ha : Applies g tree h r args)
    (he : (r.reducerFor h.operator?).eval args = .error e) : g.argument tree = .error e := by
  induction ha with
  | @node h ts r items hr hitems =>
    have hdefines : g.Defines (.node h ts) := by
      rintro _ _ ⟨⟩
      exact ⟨r, hr⟩
    exact (Grammar.argument_eq_error hdefines).2 (.inr ⟨h, ts, r, items, rfl, hr, hitems, he⟩)
  | @child tree t before after h r args hchildren hbefore hdefines _ ih =>
    refine (Grammar.argument_eq_error hdefines).2 (.inl ?_)
    exact Grammar.arguments_eq_error.2 ⟨before, t, after, hchildren, hbefore, ih he⟩

theorem suits (ha : Applies g tree h r args) (hfit : Fits g c tree) :
    g.rule? h.nonTerminal h.rule = some r ∧ Suits (.group r.clauses) (.group args) := by
  induction ha generalizing c with
  | @node h ts r items hr hitems =>
    have hrule := Grammar.ruleOf_eq_ok.1 hr
    cases hfit with
    | node hr' htrees =>
      obtain rfl := Option.some.inj (hrule.symm.trans hr')
      have hgroup := htrees.suits (Except.bind_eq_ok.2 ⟨items, hitems, rfl⟩)
      exact ⟨hrule, hgroup.rename _⟩
  | @child tree t before after h r args hchildren _ _ _ ih =>
    have hmem : t ∈ tree.children := by simp [hchildren]
    obtain ⟨d, hd⟩ := hfit.child hmem
    exact ih hd

end Applies

theorem Fits.exists_applies (hfit : Fits g c tree) (he : g.argument tree = .error e) :
    ∃ h r args, Applies g tree h r args ∧ (r.reducerFor h.operator?).eval args = .error e := by
  induction tree using Tree.induction generalizing c with
  | step tree ih =>
    obtain hchildren | ⟨h, ts, r, items, rfl, hr, hitems, he⟩ :=
      (Grammar.argument_eq_error hfit.defines).1 he
    · obtain ⟨before, t, after, hchildren, hbefore, ht⟩ := Grammar.arguments_eq_error.1 hchildren
      have hmem : t ∈ tree.children := by simp [hchildren]
      obtain ⟨d, hd⟩ := hfit.child hmem
      obtain ⟨h, r, args, ha, he⟩ := ih t hmem hd ht
      exact ⟨h, r, args, .child hchildren hbefore hfit.defines ha, he⟩
    · exact ⟨h, r, _, .node hr hitems, he⟩

theorem Fits.reduce_eq_error {name : String} (hfit : Fits g (.nonTerminal name) tree) :
    g.reduce tree = .error e ↔
      ∃ h r args, Applies g tree h r args ∧ (r.reducerFor h.operator?).eval args = .error e := by
  have hargument : g.argument tree = .error e ↔ g.reduce tree = .error e := by
    cases hfit
    simp [Grammar.argument_node, Except.map_eq_error]
  rw [← hargument]
  exact ⟨hfit.exists_applies, fun ⟨h, r, args, ha, he⟩ => ha.argument_eq_error he⟩

end Parsing
