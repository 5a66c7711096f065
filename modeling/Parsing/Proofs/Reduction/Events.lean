import Mathlib.Data.List.Forall2
import Parsing.Proofs.Reduction.Applications

namespace Parsing

variable {K V : Type}

inductive Event (K : Type)
  | lookup (h : Head K)
  | call (h : Head K) (children : List (Tree K))

namespace Tree

mutual

/-- The events of a tree in the order of its reduction. A node is entered before its children and
left after them. -/
def events : Tree K → List (Event K)
  | leaf _ | absent => []
  | node h ts => .lookup h :: (eventsAll ts ++ [.call h ts])
  | many ts | group ts => eventsAll ts
  | present t => t.events

def eventsAll : List (Tree K) → List (Event K)
  | [] => []
  | t :: ts => t.events ++ eventsAll ts

end

end Tree

/-- Which reducer is called for a node of the rule: the one registered last for the operator of the
node, or that of the rule if there is no operator or none is registered for it. -/
inductive Rule.Handles (r : Rule K V) : Option K → Reducer K V → Prop
  | resolver {k : K} {f : Reducer K V} {before after : List (K × Reducer K V)} :
    r.operators = before ++ (k, f) :: after → (∀ p ∈ after, p.1 ≠ k) → Handles r (some k) f
  | unregistered {k : K} : (∀ p ∈ r.operators, p.1 ≠ k) → Handles r (some k) r.reducer
  | plain : Handles r none r.reducer

mutual

inductive ReducesTo (g : Grammar K V) : Tree K → Arg K V → Prop
  | leaf {t : Token K} : ReducesTo g (.leaf t) (.token t)
  | node {h : Head K} {ts : List (Tree K)} {v : V} :
    Invokes g h ts (.ok v) → ReducesTo g (.node h ts) (.value v)
  | many {ts : List (Tree K)} {items : List (Arg K V)} :
    List.Forall₂ (ReducesTo g) ts items → ReducesTo g (.many ts) (.many items)
  | absent : ReducesTo g .absent .absent
  | present {t : Tree K} {a : Arg K V} : ReducesTo g t a → ReducesTo g (.present t) (.present a)
  | group {ts : List (Tree K)} {items : List (Arg K V)} :
    List.Forall₂ (ReducesTo g) ts items → ReducesTo g (.group ts) (.group (.ofList "group" items))

inductive Invokes (g : Grammar K V) : Head K → List (Tree K) → Except ReduceError V → Prop
  | intro {h : Head K} {ts : List (Tree K)} {r : Rule K V} {f : Reducer K V}
      {items : List (Arg K V)} {outcome : Except ReduceError V} :
    g.rule? h.nonTerminal h.rule = some r → r.Handles h.operator? f →
    List.Forall₂ (ReducesTo g) ts items → f.eval (.ofList h.name items) = outcome →
    Invokes g h ts outcome

end

namespace Event

/-- A call that is not made, because of a failure before it, neither passes nor fails. -/
inductive Passes (g : Grammar K V) : Event K → Prop
  | lookup {h : Head K} {r : Rule K V} :
    g.rule? h.nonTerminal h.rule = some r → Passes g (.lookup h)
  | call {h : Head K} {ts : List (Tree K)} {v : V} : Invokes g h ts (.ok v) → Passes g (.call h ts)

inductive Fails (g : Grammar K V) : Event K → ReduceError → Prop
  | lookup {h : Head K} :
    g.rule? h.nonTerminal h.rule = none → Fails g (.lookup h) (.unknownRule h.name)
  | call {h : Head K} {ts : List (Tree K)} {e : ReduceError} :
    Invokes g h ts (.error e) → Fails g (.call h ts) e

variable {g : Grammar K V} {h : Head K} {ts : List (Tree K)} {e : ReduceError}

theorem passes_lookup : (lookup h).Passes g ↔ ∃ r, g.ruleOf h = .ok r := by
  simp only [Grammar.ruleOf_eq_ok]
  exact ⟨fun | .lookup hr => ⟨_, hr⟩, fun ⟨_, hr⟩ => .lookup hr⟩

theorem fails_lookup : (lookup h).Fails g e ↔ g.ruleOf h = .error e := by
  rw [Grammar.ruleOf]
  constructor
  · intro hfails
    cases hfails with
    | lookup hr => rw [hr]
  · intro hr
    split at hr
    · cases hr
    · rename_i hnone
      cases hr
      exact .lookup hnone

theorem passes_call : (call h ts).Passes g ↔ ∃ v, Invokes g h ts (.ok v) :=
  ⟨fun | .call hv => ⟨_, hv⟩, fun ⟨_, hv⟩ => .call hv⟩

theorem fails_call : (call h ts).Fails g e ↔ Invokes g h ts (.error e) :=
  ⟨fun | .call he => he, .call⟩

end Event

def FailsFirst (g : Grammar K V) (events : List (Event K)) (e : ReduceError) : Prop :=
  ∃ before event after, events = before ++ event :: after ∧ (∀ x ∈ before, x.Passes g) ∧
    event.Fails g e

namespace FailsFirst

variable {g : Grammar K V} {x : Event K} {xs ys : List (Event K)} {e : ReduceError}

@[simp] theorem nil : ¬FailsFirst g [] e := by
  rintro ⟨before, event, after, h, -⟩
  cases before <;> cases h

@[simp] theorem cons : FailsFirst g (x :: xs) e ↔ x.Fails g e ∨ x.Passes g ∧ FailsFirst g xs e := by
  constructor
  · rintro ⟨before, event, after, h, hbefore, hevent⟩
    cases before with
    | nil =>
      cases h
      exact .inl hevent
    | cons y before =>
      cases h
      rw [List.forall_mem_cons] at hbefore
      exact .inr ⟨hbefore.1, before, event, after, rfl, hbefore.2, hevent⟩
  · rintro (hx | ⟨hx, before, event, after, rfl, hbefore, hevent⟩)
    · exact ⟨[], x, xs, rfl, by simp, hx⟩
    · exact ⟨x :: before, event, after, rfl, List.forall_mem_cons.2 ⟨hx, hbefore⟩, hevent⟩

theorem append : FailsFirst g (xs ++ ys) e ↔
    FailsFirst g xs e ∨ (∀ x ∈ xs, x.Passes g) ∧ FailsFirst g ys e := by
  induction xs with
  | nil => simp
  | cons x xs ih =>
    rw [List.cons_append, cons, cons, ih, List.forall_mem_cons]
    tauto

end FailsFirst

theorem Except.exists_map_eq_ok {ε α β : Type} {x : Except ε α} {f : α → β} :
    (∃ b, f <$> x = .ok b) ↔ ∃ a, x = .ok a := by
  cases x with
  | error e => simp [Functor.map, Except.map]
  | ok a => simp [Functor.map, Except.map]

variable [TokenKind K] {g : Grammar K V}

namespace Rule

variable {r : Rule K V} {k : K} {f : Reducer K V}

theorem operator?_eq_some : r.operator? k = some f ↔
    ∃ before after, r.operators = before ++ (k, f) :: after ∧ ∀ p ∈ after, p.1 ≠ k := by
  simp only [operator?, Option.map_eq_some_iff, List.find?_eq_some_iff_append, decide_eq_true_eq]
  constructor
  · rintro ⟨⟨k, f⟩, ⟨rfl, as, bs, h, has⟩, rfl⟩
    refine ⟨bs.reverse, as.reverse, by simpa using congrArg List.reverse h, ?_⟩
    simpa using has
  · rintro ⟨before, after, h, hafter⟩
    exact ⟨(k, f), ⟨rfl, after.reverse, before.reverse, by simp [h], by simpa using hafter⟩, rfl⟩

theorem operator?_eq_none : r.operator? k = none ↔ ∀ p ∈ r.operators, p.1 ≠ k := by
  simp [operator?]

theorem handles_iff {operator? : Option K} :
    r.Handles operator? f ↔ f = r.reducerFor operator? := by
  constructor
  · intro h
    cases h with
    | resolver h hafter =>
      have hk := operator?_eq_some.2 ⟨_, _, h, hafter⟩
      simp [reducerFor, hk]
    | unregistered hk => simp [reducerFor, operator?_eq_none.2 hk]
    | plain => rfl
  · rintro rfl
    cases operator? with
    | none => exact .plain
    | some k =>
      cases hk : r.operator? k with
      | none =>
        simpa [reducerFor, hk] using Handles.unregistered (operator?_eq_none.1 hk)
      | some f =>
        obtain ⟨before, after, h, hafter⟩ := operator?_eq_some.1 hk
        simpa [reducerFor, hk] using Handles.resolver h hafter

end Rule

theorem forall₂_reducesTo_iff {ts : List (Tree K)} {items : List (Arg K V)}
    (hts : ∀ t ∈ ts, ∀ a, ReducesTo g t a ↔ g.argument t = .ok a) :
    List.Forall₂ (ReducesTo g) ts items ↔ g.arguments ts = .ok items := by
  induction ts generalizing items with
  | nil => rw [List.forall₂_nil_left_iff, Grammar.arguments, Except.pure_eq_ok, eq_comm]
  | cons t ts ih =>
    rw [List.forall_mem_cons] at hts
    rw [List.forall₂_cons_left_iff, Grammar.arguments_cons_eq_ok]
    simp only [hts.1, ih hts.2]

theorem invokes_iff_of {h : Head K} {ts : List (Tree K)} {outcome : Except ReduceError V}
    (hts : ∀ items, List.Forall₂ (ReducesTo g) ts items ↔ g.arguments ts = .ok items) :
    Invokes g h ts outcome ↔ ∃ r items, g.ruleOf h = .ok r ∧ g.arguments ts = .ok items ∧
      (r.reducerFor h.operator?).eval (.ofList h.name items) = outcome := by
  constructor
  · intro hcall
    cases hcall with
    | intro hr hf hitems hv =>
      rw [Rule.handles_iff.1 hf] at hv
      exact ⟨_, _, Grammar.ruleOf_eq_ok.2 hr, (hts _).1 hitems, hv⟩
  · rintro ⟨r, items, hr, hitems, hv⟩
    exact .intro (Grammar.ruleOf_eq_ok.1 hr) (Rule.handles_iff.2 rfl) ((hts _).2 hitems) hv

theorem Grammar.reduce_node_eq_ok {h : Head K} {ts : List (Tree K)} {v : V} :
    g.reduce (.node h ts) = .ok v ↔ ∃ r items, g.ruleOf h = .ok r ∧ g.arguments ts = .ok items ∧
      (r.reducerFor h.operator?).eval (.ofList h.name items) = .ok v := by
  simp [Grammar.reduce_node, Except.bind_eq_ok]

theorem reducesTo_iff {tree : Tree K} {a : Arg K V} :
    ReducesTo g tree a ↔ g.argument tree = .ok a := by
  induction tree using Tree.induction generalizing a with
  | step tree ih =>
    have hchildren (items : List (Arg K V)) :
        List.Forall₂ (ReducesTo g) tree.children items ↔ g.arguments tree.children = .ok items :=
      forall₂_reducesTo_iff fun t ht _ => ih t ht
    constructor
    · intro ha
      cases ha with
      | leaf | absent => rfl
      | node hcall =>
        have hv := Grammar.reduce_node_eq_ok.2 ((invokes_iff_of hchildren).1 hcall)
        rw [Grammar.argument_node]
        exact Except.bind_eq_ok.2 ⟨_, hv, rfl⟩
      | many hitems => exact Except.bind_eq_ok.2 ⟨_, (hchildren _).1 hitems, rfl⟩
      | present ha => exact Except.bind_eq_ok.2 ⟨_, (ih _ (List.mem_singleton_self _)).1 ha, rfl⟩
      | group hitems => exact Except.bind_eq_ok.2 ⟨_, (hchildren _).1 hitems, rfl⟩
    · intro ha
      cases tree with
      | leaf t =>
        cases ha
        exact .leaf
      | node h ts =>
        rw [Grammar.argument_node] at ha
        obtain ⟨v, hv, ⟨⟩⟩ := Except.bind_eq_ok.1 ha
        exact .node ((invokes_iff_of hchildren).2 (Grammar.reduce_node_eq_ok.1 hv))
      | many ts =>
        obtain ⟨items, hitems, ⟨⟩⟩ := Except.bind_eq_ok.1 ha
        exact .many ((hchildren items).2 hitems)
      | absent =>
        cases ha
        exact .absent
      | present t =>
        obtain ⟨b, hb, ⟨⟩⟩ := Except.bind_eq_ok.1 ha
        exact .present ((ih t (List.mem_singleton_self t)).2 hb)
      | group ts =>
        obtain ⟨items, hitems, ⟨⟩⟩ := Except.bind_eq_ok.1 ha
        exact .group ((hchildren items).2 hitems)

theorem invokes_iff {h : Head K} {ts : List (Tree K)} {outcome : Except ReduceError V} :
    Invokes g h ts outcome ↔ ∃ r items, g.ruleOf h = .ok r ∧ g.arguments ts = .ok items ∧
      (r.reducerFor h.operator?).eval (.ofList h.name items) = outcome :=
  invokes_iff_of fun _ => forall₂_reducesTo_iff fun _ _ _ => reducesTo_iff

variable {h : Head K} {ts : List (Tree K)} {tree : Tree K} {e : ReduceError}

theorem Invokes.unique {outcome outcome' : Except ReduceError V} (hcall : Invokes g h ts outcome)
    (hcall' : Invokes g h ts outcome') : outcome = outcome' := by
  obtain ⟨r, items, hr, hitems, rfl⟩ := invokes_iff.1 hcall
  obtain ⟨r', items', hr', hitems', rfl⟩ := invokes_iff.1 hcall'
  cases hr.symm.trans hr'
  cases hitems.symm.trans hitems'
  rfl

theorem invokes_ok_iff {v : V} : Invokes g h ts (.ok v) ↔ g.reduce (.node h ts) = .ok v := by
  rw [Grammar.reduce_node_eq_ok, invokes_iff]

theorem Grammar.reduce_node_eq_error :
    g.reduce (.node h ts) = .error e ↔ g.ruleOf h = .error e ∨ (∃ r, g.ruleOf h = .ok r) ∧
      (g.arguments ts = .error e ∨ (∃ items, g.arguments ts = .ok items) ∧
        Invokes g h ts (.error e)) := by
  simp only [Grammar.reduce_node, Except.bind_eq_error, invokes_iff]
  constructor
  · rintro (hr | ⟨r, hr, hts | ⟨items, hitems, he⟩⟩)
    · exact .inl hr
    · exact .inr ⟨⟨r, hr⟩, .inl hts⟩
    · exact .inr ⟨⟨r, hr⟩, .inr ⟨⟨items, hitems⟩, r, items, hr, hitems, he⟩⟩
  · rintro (hr | ⟨⟨r, hr⟩, hts | ⟨-, r, items, hr, hitems, he⟩⟩)
    · exact .inl hr
    · exact .inr ⟨r, hr, .inl hts⟩
    · exact .inr ⟨r, hr, .inr ⟨items, hitems, he⟩⟩

theorem passes_eventsAll
    (hts : ∀ t ∈ ts, (∀ x ∈ t.events, x.Passes g) ↔ ∃ a, g.argument t = .ok a) :
    (∀ x ∈ Tree.eventsAll ts, x.Passes g) ↔ ∃ items, g.arguments ts = .ok items := by
  induction ts with
  | nil => simp [Tree.eventsAll, Grammar.arguments, Except.pure_eq_ok]
  | cons t ts ih =>
    rw [List.forall_mem_cons] at hts
    simp only [Tree.eventsAll, List.forall_mem_append, hts.1, ih hts.2,
      Grammar.arguments_cons_eq_ok]
    constructor
    · rintro ⟨⟨a, ha⟩, more, hmore⟩
      exact ⟨_, a, more, ha, hmore, rfl⟩
    · rintro ⟨_, a, more, ha, hmore, -⟩
      exact ⟨⟨a, ha⟩, more, hmore⟩

theorem passes_events : (∀ x ∈ tree.events, x.Passes g) ↔ ∃ a, g.argument tree = .ok a := by
  induction tree using Tree.induction with
  | step tree ih =>
    have hchildren := passes_eventsAll ih
    cases tree with
    | leaf t => simp [Tree.events, Grammar.argument, Except.pure_eq_ok]
    | node h ts =>
      rw [Tree.children] at hchildren
      simp only [Tree.events, List.forall_mem_cons, List.forall_mem_append, hchildren,
        Event.passes_lookup, Event.passes_call, Grammar.argument_node, bind_pure_comp,
        Except.exists_map_eq_ok, invokes_ok_iff]
      constructor
      · rintro ⟨-, -, hcall, -⟩
        exact hcall
      · rintro ⟨v, hv⟩
        obtain ⟨r, items, hr, hitems, -⟩ := Grammar.reduce_node_eq_ok.1 hv
        exact ⟨⟨r, hr⟩, ⟨items, hitems⟩, ⟨v, hv⟩, by simp⟩
    | absent => simp [Tree.events, Grammar.argument, Except.pure_eq_ok]
    | many ts | present t | group ts =>
      simpa [Tree.events, Tree.eventsAll, Tree.children, Grammar.argument, Grammar.arguments,
        Except.exists_map_eq_ok] using hchildren

theorem failsFirst_eventsAll
    (hts : ∀ t ∈ ts, FailsFirst g t.events e ↔ g.argument t = .error e) :
    FailsFirst g (Tree.eventsAll ts) e ↔ g.arguments ts = .error e := by
  induction ts with
  | nil => simp [Tree.eventsAll, Grammar.arguments, Except.pure_ne_error]
  | cons t ts ih =>
    rw [List.forall_mem_cons] at hts
    rw [Tree.eventsAll, FailsFirst.append, Grammar.arguments_cons_eq_error, hts.1, ih hts.2,
      passes_events]

theorem failsFirst_events : FailsFirst g tree.events e ↔ g.argument tree = .error e := by
  induction tree using Tree.induction with
  | step tree ih =>
    have hchildren := failsFirst_eventsAll ih
    cases tree with
    | leaf t => simp [Tree.events, Grammar.argument, Except.pure_ne_error]
    | node h ts =>
      rw [Tree.children] at hchildren
      rw [Tree.events, FailsFirst.cons, FailsFirst.append, FailsFirst.cons, hchildren,
        passes_eventsAll fun t _ => passes_events, Event.passes_lookup, Event.fails_lookup,
        Event.fails_call, Grammar.argument_node, bind_pure_comp, Except.map_eq_error,
        Grammar.reduce_node_eq_error]
      simp
    | absent => simp [Tree.events, Grammar.argument, Except.pure_ne_error]
    | many ts | present t | group ts =>
      simpa [Tree.events, Tree.eventsAll, Tree.children, Grammar.argument, Grammar.arguments,
        Except.map_eq_error] using hchildren

theorem Grammar.reduce_of_shape_ne (hshape : tree.shape ≠ .node) :
    g.reduce tree = .error (.notANode tree.shape) := by
  cases tree with
  | node h ts => exact absurd rfl hshape
  | leaf | many | absent | present | group => rfl

theorem Grammar.reduce_eq_error_iff (hshape : tree.shape = .node) :
    g.reduce tree = .error e ↔ FailsFirst g tree.events e := by
  cases tree with
  | node h ts =>
    rw [failsFirst_events, Grammar.argument_node, bind_pure_comp, Except.map_eq_error]
  | leaf | many | absent | present | group => cases hshape

theorem Grammar.reduce_eq_ok_iff {v : V} :
    g.reduce tree = .ok v ↔ ∃ h ts, tree = .node h ts ∧ Invokes g h ts (.ok v) := by
  constructor
  · intro hv
    cases tree with
    | node h ts => exact ⟨h, ts, rfl, invokes_ok_iff.2 hv⟩
    | leaf | many | absent | present | group => cases hv
  · rintro ⟨h, ts, rfl, hcall⟩
    exact invokes_ok_iff.1 hcall

theorem Event.Passes.not_fails {x : Event K} (hx : x.Passes g) : ¬x.Fails g e := by
  intro hfails
  cases hx with
  | lookup hr =>
    cases hfails with
    | lookup hnone => simp [hr] at hnone
  | call hv => cases hv.unique (Event.fails_call.1 hfails)

theorem Grammar.exists_reduce_eq_ok (hshape : tree.shape = .node) :
    (∃ v, g.reduce tree = .ok v) ↔ ∀ x ∈ tree.events, ∀ e, ¬x.Fails g e := by
  constructor
  · rintro ⟨v, hv⟩ x hx e
    cases tree with
    | node h ts =>
      have hargument : g.argument (.node h ts) = .ok (.value v) := by
        rw [Grammar.argument_node, hv]
        rfl
      exact (passes_events.2 ⟨_, hargument⟩ x hx).not_fails
    | leaf | many | absent | present | group => cases hshape
  · intro hnone
    cases hv : g.reduce tree with
    | ok v => exact ⟨v, rfl⟩
    | error e =>
      obtain ⟨before, event, after, hevents, -, hevent⟩ :=
        (Grammar.reduce_eq_error_iff hshape).1 hv
      exact absurd hevent (hnone event (by simp [hevents]) e)

/-- The reduction of a node goes through the events of the node and ends with the first that fails,
with the error of that event and whatever follows it. When none of them fails, it ends with what the
last of them, the call for the node itself, gives. -/
theorem reduction_goes_through_events (g : Grammar K V) (tree : Tree K) :
    (∀ e, g.reduce tree = .error e ↔
      tree.shape ≠ .node ∧ e = .notANode tree.shape ∨
        tree.shape = .node ∧ FailsFirst g tree.events e) ∧
      ((∃ v, g.reduce tree = .ok v) ↔
        tree.shape = .node ∧ ∀ x ∈ tree.events, ∀ e, ¬x.Fails g e) ∧
      ∀ v, g.reduce tree = .ok v ↔ ∃ h ts, tree = .node h ts ∧ Invokes g h ts (.ok v) := by
  refine ⟨fun e => ?_, ?_, fun v => Grammar.reduce_eq_ok_iff⟩
  · by_cases hshape : tree.shape = .node
    · simp [hshape, Grammar.reduce_eq_error_iff hshape]
    · simp [hshape, Grammar.reduce_of_shape_ne hshape, eq_comm]
  · by_cases hshape : tree.shape = .node
    · simp only [hshape, Grammar.exists_reduce_eq_ok hshape, true_and]
    · simp [hshape, Grammar.reduce_of_shape_ne hshape]

namespace Sums

open Json (TokenType)

def refuse (message : String) : ArgsM TokenType Nat Nat := throw (.custom message)

def two : ArgsM TokenType Nat Nat := return 2

def grammar : Grammar TokenType Nat where
  start := "sum"
  nonTerminals := [
    ⟨"sum", [⟨[.zeroOrMore (.nonTerminal "entry")], ⟨[.int]⟩, refuse "no sum", []⟩]⟩,
    ⟨"entry", [⟨[.terminal .int, .terminal .colon], ⟨[.int]⟩, refuse "no entry",
      [(.colon, refuse "no colon"), (.colon, two)]⟩]⟩]

def entry (rule : Nat) (operator? : Option TokenType) : Tree TokenType :=
  .node ⟨"entry", rule, "Int_Colon", operator?⟩ [.leaf ⟨.int, "7", .start⟩]

-- The operator of the second entry is not registered, the third entry is of a rule that there is
-- not, and the sum fails by itself.
example : grammar.reduce (.node ⟨"sum", 0, "entry*", none⟩ [
      entry 0 (some .colon), .many [.group [.present (entry 0 (some .comma))], entry 7 none]]) =
    .error (.custom "no entry") := by rfl

end Sums

end Parsing
