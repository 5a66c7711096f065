import Parsing.Json.Language
import Parsing.Proofs.Reduction.Accessors

namespace Parsing

variable {K V : Type}

inductive Content
  | token
  | value
  | group
  deriving DecidableEq, Repr

def Content.shape : Content → ArgShape
  | token => .token
  | value => .value
  | group => .group

inductive Accessor
  | take
  | one (c : Content)
  | many (c : Content)
  | option (c : Content)
  deriving DecidableEq, Repr

def Arg.ofOption : Option (Arg K V) → Arg K V
  | none => .absent
  | some a => .present a

namespace Accessor

def call : Accessor → Nat → ArgsM K V (Arg K V)
  | take, i => ArgsM.take i
  | one .token, i => .token <$> ArgsM.token i
  | one .value, i => .value <$> ArgsM.value i
  | one .group, i => .group <$> ArgsM.group i
  | many .token, i => (fun ts => .many (ts.map .token)) <$> ArgsM.tokens i
  | many .value, i => (fun vs => .many (vs.map .value)) <$> ArgsM.values i
  | many .group, i => (fun gs => .many (gs.map .group)) <$> ArgsM.groups i
  | option .token, i => (fun t? => .ofOption (t?.map .token)) <$> ArgsM.optionToken i
  | option .value, i => (fun v? => .ofOption (v?.map .value)) <$> ArgsM.optionValue i
  | option .group, i => (fun g? => .ofOption (g?.map .group)) <$> ArgsM.optionGroup i

inductive Accepts : Accessor → Arg K V → Prop
  | take {a : Arg K V} : Accepts take a
  | one {c : Content} {a : Arg K V} : a.shape = c.shape → Accepts (one c) a
  | many {c : Content} {items : List (Arg K V)} :
    (∀ a ∈ items, a.shape = c.shape) → Accepts (many c) (.many items)
  | absent {c : Content} : Accepts (option c) .absent
  | present {c : Content} {a : Arg K V} : a.shape = c.shape → Accepts (option c) (.present a)

/-- Why an accessor does not give out an argument: the shape it expected and the one it found. Of a
repetition the first item counts that is of another shape. -/
inductive Refuses : Accessor → Arg K V → ArgShape → ArgShape → Prop
  | one {c : Content} {a : Arg K V} : a.shape ≠ c.shape → Refuses (one c) a c.shape a.shape
  | many {c : Content} {a : Arg K V} :
    a.shape ≠ .repetition → Refuses (many c) a .repetition a.shape
  | item {c : Content} {before after : List (Arg K V)} {a : Arg K V} :
    (∀ b ∈ before, b.shape = c.shape) → a.shape ≠ c.shape →
    Refuses (many c) (.many (before ++ a :: after)) c.shape a.shape
  | option {c : Content} {a : Arg K V} :
    a.shape ≠ .option → Refuses (option c) a .option a.shape
  | present {c : Content} {a : Arg K V} :
    a.shape ≠ c.shape → Refuses (option c) (.present a) c.shape a.shape

variable {a : Accessor} {arg : Arg K V} {expected found expected' found' : ArgShape}

theorem Accepts.not_refuses (h : a.Accepts arg) : ¬ a.Refuses arg expected found := by
  intro hrefuses
  cases h with
  | take => cases hrefuses
  | one h =>
    cases hrefuses with
    | one hne => exact hne h
  | many h =>
    cases hrefuses with
    | many hne => exact hne rfl
    | item _ hne => exact hne (h _ (by simp))
  | absent =>
    cases hrefuses with
    | option hne => exact hne rfl
  | present h =>
    cases hrefuses with
    | option hne => exact hne rfl
    | present hne => exact hne h

theorem first_unique {s : ArgShape} {before before' after after' : List (Arg K V)}
    {b b' : Arg K V} (h : before ++ b :: after = before' ++ b' :: after')
    (hbefore : ∀ x ∈ before, x.shape = s) (hbefore' : ∀ x ∈ before', x.shape = s)
    (hb : b.shape ≠ s) (hb' : b'.shape ≠ s) : b = b' := by
  induction before generalizing before' with
  | nil =>
    cases before' with
    | nil => exact (List.cons_eq_cons.1 h).1
    | cons x before' =>
      obtain ⟨rfl, -⟩ := List.cons_eq_cons.1 h
      exact absurd (hbefore' b (by simp)) hb
  | cons x before ih =>
    rw [List.forall_mem_cons] at hbefore
    cases before' with
    | nil =>
      obtain ⟨rfl, -⟩ := List.cons_eq_cons.1 h
      exact absurd hbefore.1 hb'
    | cons y before' =>
      rw [List.forall_mem_cons] at hbefore'
      exact ih (List.cons_eq_cons.1 h).2 hbefore.2 hbefore'.2

theorem Refuses.unique (h : a.Refuses arg expected found) (h' : a.Refuses arg expected' found') :
    expected = expected' ∧ found = found' := by
  cases h with
  | one =>
    cases h'
    exact ⟨rfl, rfl⟩
  | many hne =>
    cases h' with
    | many => exact ⟨rfl, rfl⟩
    | item => exact absurd rfl hne
  | @item c before after x hbefore hx =>
    generalize hitems : before ++ x :: after = items at h'
    cases h' with
    | many hne => exact absurd rfl hne
    | item hbefore' hx' => exact ⟨rfl,
        congrArg Arg.shape (first_unique hitems hbefore hbefore' hx hx')⟩
  | option hne =>
    cases h' with
    | option => exact ⟨rfl, rfl⟩
    | present => exact absurd rfl hne
  | present =>
    cases h' with
    | option hne => exact absurd rfl hne
    | present => exact ⟨rfl, rfl⟩

end Accessor

namespace ArgsM

variable {α β : Type} {args args' : Args K V} {i : Nat}

def Fails (m : ArgsM K V α) (args : Args K V) (e : ReduceError) (args' : Args K V) : Prop :=
  m.run.run args = (.error e, args')

theorem Fails.bind {m : ArgsM K V α} {e : ReduceError} (h : Fails m args e args')
    (f : α → ArgsM K V β) : Fails (m >>= f) args e args' := by
  rw [Fails, ExceptT.run_bind, StateT.run_bind, h]
  rfl

theorem Returns.bind_fails {m : ArgsM K V α} {f : α → ArgsM K V β} {x : α} {e : ReduceError}
    {args'' : Args K V} (h : Returns m args x args') (h' : Fails (f x) args' e args'') :
    Fails (m >>= f) args e args'' := by
  rw [Fails, ExceptT.run_bind, StateT.run_bind, h]
  exact h'

theorem Fails.map {m : ArgsM K V α} {e : ReduceError} (h : Fails m args e args') (f : α → β) :
    Fails (f <$> m) args e args' := by
  rw [map_eq_pure_bind]
  exact h.bind _

theorem throw_fails (e : ReduceError) : Fails (throw e : ArgsM K V α) args e args := rfl

theorem take_fails (h : args.get? i = none) :
    Fails (take i) args (.missingArgument args.rule i) args := by
  refine get_returns.bind_fails ?_
  rw [h]
  exact throw_fails _

section

variable {s : ArgShape} {content? : Arg K V → Option α} {a : Arg K V}

theorem expect_fails (h : content? a = none) :
    Fails (expect s content? i a) args (.argumentKind args.rule i s a.shape) args := by
  rw [expect, h]
  exact get_returns.bind_fails (throw_fails _)

theorem takeAs_fails (hi : args.get? i = some a) (h : content? a = none) :
    Fails (takeAs s content? i) args (.argumentKind args.rule i s a.shape) (args.clear i) :=
  (take_returns hi).bind_fails (expect_fails h)

end

end ArgsM

inductive Settles (args : Args K V) (i : Nat) (a : Accessor) (arg : Arg K V)
    (m : ArgsM K V (Arg K V)) : Prop
  | accepted : a.Accepts arg → m.Returns args arg (args.clear i) → Settles args i a arg m
  | refused {expected found : ArgShape} : a.Refuses arg expected found →
    m.Fails args (.argumentKind args.rule i expected found) (args.clear i) → Settles args i a arg m

structure Content.Reads {α : Type} (c : Content) (content? : Arg K V → Option α)
    (put : α → Arg K V) : Prop where
  content?_put : ∀ x, content? (put x) = some x
  exists_put : ∀ a, a.shape = c.shape → ∃ x, put x = a
  content?_eq_none : ∀ a, a.shape ≠ c.shape → content? a = none

namespace Content.Reads

theorem token : Content.token.Reads (K := K) (V := V) Arg.token? Arg.token where
  content?_put _ := rfl
  exists_put a h := by
    cases a with
    | token t => exact ⟨t, rfl⟩
    | _ => cases h
  content?_eq_none a h := by
    cases a with
    | token => exact absurd rfl h
    | _ => rfl

theorem value : Content.value.Reads (K := K) (V := V) Arg.value? Arg.value where
  content?_put _ := rfl
  exists_put a h := by
    cases a with
    | value v => exact ⟨v, rfl⟩
    | _ => cases h
  content?_eq_none a h := by
    cases a with
    | value => exact absurd rfl h
    | _ => rfl

theorem group : Content.group.Reads (K := K) (V := V) Arg.group? Arg.group where
  content?_put _ := rfl
  exists_put a h := by
    cases a with
    | group args => exact ⟨args, rfl⟩
    | _ => cases h
  content?_eq_none a h := by
    cases a with
    | group => exact absurd rfl h
    | _ => rfl

variable {α : Type} {c : Content} {content? : Arg K V → Option α} {put : α → Arg K V}
  {args : Args K V} {i : Nat} {arg : Arg K V}

theorem exists_map_put (h : c.Reads content? put) {items : List (Arg K V)}
    (hitems : ∀ a ∈ items, a.shape = c.shape) : ∃ xs : List α, xs.map put = items := by
  induction items with
  | nil => exact ⟨[], rfl⟩
  | cons a items ih =>
    rw [List.forall_mem_cons] at hitems
    obtain ⟨x, rfl⟩ := h.exists_put a hitems.1
    obtain ⟨xs, rfl⟩ := ih hitems.2
    exact ⟨x :: xs, rfl⟩

theorem mapM_returns (h : c.Reads content? put) (xs : List α) :
    ((xs.map put).mapM (ArgsM.expect c.shape content? i)).Returns args xs args := by
  have hx (x : α) : (ArgsM.expect c.shape content? i (put x)).Returns args x args :=
    ArgsM.expect_returns (h.content?_put x)
  simpa using ArgsM.Returns.mapM_map (g := id) hx

theorem mapM_fails (h : c.Reads content? put) (xs : List α) {a : Arg K V} (ha : a.shape ≠ c.shape)
    (after : List (Arg K V)) :
    ((xs.map put ++ a :: after).mapM (ArgsM.expect c.shape content? i)).Fails args
      (.argumentKind args.rule i c.shape a.shape) args := by
  rw [List.mapM_append, List.mapM_cons]
  refine (h.mapM_returns xs).bind_fails ?_
  exact ((ArgsM.expect_fails (h.content?_eq_none a ha)).bind _).bind _

theorem settles_one (h : c.Reads content? put) (hi : args.get? i = some arg) :
    Settles args i (.one c) arg (put <$> ArgsM.takeAs c.shape content? i) := by
  by_cases hshape : arg.shape = c.shape
  · obtain ⟨x, rfl⟩ := h.exists_put arg hshape
    exact .accepted (.one hshape) ((ArgsM.takeAs_returns hi (h.content?_put x)).map put)
  · exact .refused (.one hshape) ((ArgsM.takeAs_fails hi (h.content?_eq_none arg hshape)).map put)

theorem settles_many (h : c.Reads content? put) (hi : args.get? i = some arg) :
    Settles args i (.many c) arg
      ((fun xs => .many (xs.map put)) <$> ArgsM.manyOf c.shape content? i) := by
  by_cases hshape : arg.shape = .repetition
  · obtain ⟨items, rfl⟩ : ∃ items, arg = .many items := by
      cases arg with
      | many items => exact ⟨items, rfl⟩
      | _ => cases hshape
    have htake : (ArgsM.takeAs .repetition Arg.many? i).Returns args items (args.clear i) :=
      ArgsM.takeAs_returns hi rfl
    by_cases hitems : ∀ a ∈ items, a.shape = c.shape
    · obtain ⟨xs, rfl⟩ := h.exists_map_put hitems
      exact .accepted (.many hitems) ((htake.bind (h.mapM_returns xs)).map _)
    · -- The first item of another shape is where the accessor stops.
      obtain ⟨a, ha⟩ : ∃ a, items.find? (fun a => decide (a.shape ≠ c.shape)) = some a := by
        simpa [← Option.isSome_iff_exists] using hitems
      obtain ⟨hne, before, after, rfl, hbefore⟩ := List.find?_eq_some_iff_append.1 ha
      have hfront : ∀ b ∈ before, b.shape = c.shape := by simpa using hbefore
      have hne : a.shape ≠ c.shape := by simpa using hne
      obtain ⟨xs, rfl⟩ := h.exists_map_put hfront
      exact .refused (.item hfront hne) ((htake.bind_fails (h.mapM_fails xs hne after)).map _)
  · have hnone : Arg.many? arg = none := by
      cases arg with
      | many => exact absurd rfl hshape
      | _ => rfl
    exact .refused (.many hshape) (((ArgsM.takeAs_fails hi hnone).bind _).map _)

theorem settles_option (h : c.Reads content? put) (hi : args.get? i = some arg) :
    Settles args i (.option c) arg
      ((fun x? => .ofOption (x?.map put)) <$> ArgsM.optionOf c.shape content? i) := by
  cases arg with
  | absent => exact .accepted .absent ((ArgsM.optionOf_returns_none hi).map _)
  | present a =>
    by_cases hshape : a.shape = c.shape
    · obtain ⟨x, rfl⟩ := h.exists_put a hshape
      exact .accepted (.present hshape)
        ((ArgsM.optionOf_returns_some hi (h.content?_put x)).map _)
    · have htake : (ArgsM.takeAs .option Arg.option? i).Returns args (some a) (args.clear i) :=
        ArgsM.takeAs_returns hi rfl
      have hfails : (ArgsM.expect c.shape content? i a).Fails (args.clear i)
          (.argumentKind args.rule i c.shape a.shape) (args.clear i) :=
        ArgsM.expect_fails (h.content?_eq_none a hshape)
      exact .refused (.present hshape) ((htake.bind_fails (hfails.map some)).map _)
  | token | value | many | group =>
    exact .refused (.option (by simp [Arg.shape])) (((ArgsM.takeAs_fails hi rfl).bind _).map _)

end Content.Reads

namespace Accessor

variable {args : Args K V} {i : Nat} {arg : Arg K V}

theorem settles (a : Accessor) (hi : args.get? i = some arg) : Settles args i a arg (a.call i) := by
  cases a with
  | take => exact .accepted .take (ArgsM.take_returns hi)
  | one c =>
    cases c with
    | token => exact Content.Reads.token.settles_one hi
    | value => exact Content.Reads.value.settles_one hi
    | group => exact Content.Reads.group.settles_one hi
  | many c =>
    cases c with
    | token => exact Content.Reads.token.settles_many hi
    | value => exact Content.Reads.value.settles_many hi
    | group => exact Content.Reads.group.settles_many hi
  | option c =>
    cases c with
    | token => exact Content.Reads.token.settles_option hi
    | value => exact Content.Reads.value.settles_option hi
    | group => exact Content.Reads.group.settles_option hi

theorem call_fails (a : Accessor) (hi : args.get? i = none) :
    (a.call i).Fails args (.missingArgument args.rule i) args := by
  have htake := ArgsM.take_fails hi
  cases a with
  | take => exact htake
  | one c => cases c <;> exact (htake.bind _).map _
  | many c => cases c <;> exact ((htake.bind _).bind _).map _
  | option c => cases c <;> exact ((htake.bind _).bind _).map _

end Accessor

namespace Frame

variable {α : Type} {f : Frame α} {i j : Nat}

@[simp] theorem rule_clear : (f.clear i).rule = f.rule := rfl

@[simp] theorem size_clear : (f.clear i).size = f.size := List.length_set

theorem get?_clear : (f.clear i).get? j = if i = j then none else f.get? j := by
  split
  · next h =>
    subst h
    by_cases hi : i < f.slots.length <;> simp [get?, clear, hi]
  · next h => exact get?_clear_of_ne h

theorem clear_of_get?_eq_none (h : f.get? i = none) : f.clear i = f := by
  have hslots : f.slots.set i none = f.slots := by
    by_cases hi : i < f.slots.length
    · have hnone : f.slots[i] = none := by simpa [get?, hi] using h
      conv_lhs => rw [← hnone]
      exact List.set_getElem_self hi
    · exact List.set_eq_of_length_le (Nat.le_of_not_lt hi)
  rw [clear, hslots]

theorem get?_eq_some {a : α} : f.get? i = some a ↔ f.slots[i]? = some (some a) := by
  simp [get?, Option.join_eq_some_iff]

theorem get?_eq_none : f.get? i = none ↔ f.size ≤ i ∨ f.slots[i]? = some none := by
  simp [get?, size, Option.join_eq_none_iff]

end Frame

namespace Accessor

variable {args : Args K V} {i : Nat}

theorem args_call (a : Accessor) (i : Nat) (args : Args K V) :
    ((a.call i).run.run args).2 = args.clear i := by
  cases hi : args.get? i with
  | none => rw [a.call_fails hi, Frame.clear_of_get?_eq_none hi]
  | some arg =>
    cases a.settles hi with
    | accepted _ h => rw [h]
    | refused _ h => rw [h]

def after (history : List (Accessor × Nat)) (args : Args K V) : Args K V :=
  history.foldl (fun args c => ((c.1.call c.2).run.run args).2) args

theorem rule_after (history : List (Accessor × Nat)) (args : Args K V) :
    (after history args).rule = args.rule := by
  induction history generalizing args with
  | nil => rfl
  | cons c history ih => rw [after, List.foldl_cons, ← after, ih, args_call, Frame.rule_clear]

theorem size_after (history : List (Accessor × Nat)) (args : Args K V) :
    (after history args).size = args.size := by
  induction history generalizing args with
  | nil => rfl
  | cons c history ih => rw [after, List.foldl_cons, ← after, ih, args_call, Frame.size_clear]

theorem get?_after (history : List (Accessor × Nat)) (args : Args K V) :
    (after history args).get? i = if i ∈ history.map (·.2) then none else args.get? i := by
  induction history generalizing args with
  | nil => rfl
  | cons c history ih =>
    rw [after, List.foldl_cons, ← after, ih, args_call, Frame.get?_clear, List.map_cons]
    by_cases hc : c.2 = i
    · simp [hc]
    · simp only [List.mem_cons, Ne.symm hc, false_or, if_neg hc]

end Accessor

/-- Whatever was called before, the name and the number of the arguments are as they were. A call
on an argument that was not called on yet gives it out as it was stored, or fails with what it
refuses in it; and it is gone from then on. Any other call fails and changes nothing. -/
theorem arguments_are_handed_out_once (args : Args K V) (history : List (Accessor × Nat))
    (a : Accessor) (i : Nat) :
    (Accessor.after history args).rule = args.rule ∧
      (Accessor.after history args).size = args.size ∧
      (∀ arg, args.slots[i]? = some (some arg) → i ∉ history.map (·.2) → ∃ outcome,
        (a.call i).run.run (Accessor.after history args) =
          (outcome, (Accessor.after history args).clear i) ∧
        (∀ given, outcome = .ok given ↔ a.Accepts arg ∧ given = arg) ∧
        ∀ e, outcome = .error e ↔ ∃ expected found, a.Refuses arg expected found ∧
          e = .argumentKind args.rule i expected found) ∧
      (args.size ≤ i ∨ args.slots[i]? = some none ∨ i ∈ history.map (·.2) →
        (a.call i).run.run (Accessor.after history args) =
          (.error (.missingArgument args.rule i), Accessor.after history args)) := by
  have hrule := Accessor.rule_after history args
  refine ⟨hrule, Accessor.size_after history args, fun arg harg hfirst => ?_, fun hmissing => ?_⟩
  · have hi : (Accessor.after history args).get? i = some arg := by
      rw [Accessor.get?_after, if_neg hfirst, Frame.get?_eq_some, harg]
    cases a.settles hi with
    | accepted haccepts h =>
      refine ⟨_, h, fun given => ?_, fun e => ?_⟩
      · simp [haccepts, eq_comm]
      · simp only [reduceCtorEq, false_iff]
        rintro ⟨expected, found, hrefuses, -⟩
        exact haccepts.not_refuses hrefuses
    | @refused expected found hrefuses h =>
      rw [hrule] at h
      refine ⟨_, h, fun given => ?_, fun e => ?_⟩
      · simp only [reduceCtorEq, false_iff]
        exact fun haccepts => haccepts.1.not_refuses hrefuses
      · constructor
        · intro he
          cases he
          exact ⟨expected, found, hrefuses, rfl⟩
        · rintro ⟨expected', found', hrefuses', rfl⟩
          obtain ⟨rfl, rfl⟩ := hrefuses.unique hrefuses'
          rfl
  · have hi : (Accessor.after history args).get? i = none := by
      rw [Accessor.get?_after]
      split
      · rfl
      · next hfirst =>
        rw [← or_assoc] at hmissing
        exact Frame.get?_eq_none.2 (hmissing.resolve_right hfirst)
    rw [← hrule]
    exact a.call_fails hi

theorem arguments_of_member :
    let name : Arg Json.TokenType Nat := .token ⟨.string, "a", ⟨0, 0, 0⟩⟩
    let args : Args Json.TokenType Nat :=
      .ofList "member" [.many [.value 1, name, .absent], .present (.value 2), name]
    let history : List (Accessor × Nat) := [(.many .value, 0), (.one .value, 2), (.take, 3)]
    ((Accessor.many .value).call 0).run.run args =
        (.error (.argumentKind "member" 0 .value .token), args.clear 0) ∧
      ((Accessor.option .value).call 1).run.run (Accessor.after history args) =
        (.ok (.present (.value 2)), (Accessor.after history args).clear 1) ∧
      ((Accessor.one .token).call 2).run.run (Accessor.after history args) =
        (.error (.missingArgument "member" 2), Accessor.after history args) := by
  intro name args history
  refine ⟨?_, ?_, ?_⟩
  · have hrefuses : (Accessor.many .value).Refuses (.many ([.value 1] ++ name :: [.absent]))
        .value name.shape :=
      .item (by simp [Arg.shape, Content.shape]) (by simp [name, Arg.shape, Content.shape])
    obtain ⟨_, h, -, herror⟩ :=
      (arguments_are_handed_out_once args [] (.many .value) 0).2.2.1 _ rfl (by simp)
    rw [(herror _).2 ⟨_, _, hrefuses, rfl⟩] at h
    exact h
  · obtain ⟨_, h, hok, -⟩ :=
      (arguments_are_handed_out_once args history (.option .value) 1).2.2.1 _ rfl
        (by simp [history])
    rw [(hok _).2 ⟨.present rfl, rfl⟩] at h
    exact h
  · exact (arguments_are_handed_out_once args history (.one .token) 2).2.2.2
      (.inr (.inr (by simp [history])))

end Parsing
