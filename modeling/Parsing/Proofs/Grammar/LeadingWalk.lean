import Mathlib.Order.Bounds.Defs
import Parsing.Proofs.Grammar.Build

namespace Parsing

variable {K V : Type}

/-- The equations of leading tokens: what a clause begins with, in terms of the clauses in it and of
the alternatives of a name. -/
structure LeadingEquations (A : Alternatives K) (S : Clause K → K → Prop) : Prop where
  terminal : ∀ k l, S (.terminal k) l ↔ l = k
  nonTerminal : ∀ name l, S (.nonTerminal name) l ↔ ∃ cs, A name cs ∧ S (.group cs) l
  zeroOrMore : ∀ c l, S (.zeroOrMore c) l ↔ S c l
  oneOrMore : ∀ c l, S (.oneOrMore c) l ↔ S c l
  optional : ∀ c l, S (.optional c) l ↔ S c l
  group_nil : ∀ l, ¬ S (.group []) l
  group_cons : ∀ c cs l, S (.group (c :: cs)) l ↔ S c l ∨ c.isOptional = true ∧ S (.group cs) l

theorem Begins.equations (A : Alternatives K) : LeadingEquations A (Begins A) where
  terminal k l := by
    constructor
    · intro h
      cases h
      rfl
    · rintro rfl
      exact .terminal
  nonTerminal name l := by
    constructor
    · intro h
      cases h with
      | nonTerminal ha h => exact ⟨_, ha, h⟩
    · rintro ⟨cs, ha, h⟩
      exact .nonTerminal ha h
  zeroOrMore c l := by
    refine ⟨fun h => ?_, .zeroOrMore⟩
    cases h with
    | zeroOrMore h => exact h
  oneOrMore c l := by
    refine ⟨fun h => ?_, .oneOrMore⟩
    cases h with
    | oneOrMore h => exact h
  optional c l := by
    refine ⟨fun h => ?_, .optional⟩
    cases h with
    | optional h => exact h
  group_nil l := nofun
  group_cons c cs l := by
    constructor
    · intro h
      cases h with
      | group_head h => exact .inl h
      | group_tail ho h => exact .inr ⟨ho, h⟩
    · rintro (h | ⟨ho, h⟩)
      · exact .group_head h
      · exact .group_tail ho h

theorem LeadingEquations.of_begins {A : Alternatives K} {S : Clause K → K → Prop}
    (hS : LeadingEquations A S) {c : Clause K} {k : K} (h : Begins A c k) : S c k := by
  induction h with
  | terminal => exact (hS.terminal _ _).2 rfl
  | nonTerminal ha _ ih => exact (hS.nonTerminal _ _).2 ⟨_, ha, ih⟩
  | zeroOrMore _ ih => exact (hS.zeroOrMore _ _).2 ih
  | oneOrMore _ ih => exact (hS.oneOrMore _ _).2 ih
  | optional _ ih => exact (hS.optional _ _).2 ih
  | group_head _ ih => exact (hS.group_cons _ _ _).2 (.inl ih)
  | group_tail ho _ ih => exact (hS.group_cons _ _ _).2 (.inr ⟨ho, ih⟩)

theorem Begins.isLeast (A : Alternatives K) :
    IsLeast {S : Clause K → K → Prop | LeadingEquations A S} (Begins A) :=
  ⟨equations A, fun _ hS _ _ h => hS.of_begins h⟩

namespace Leading

open NonTerminal (find? alternatives)

@[simp] theorem visited_cons {m : Leading K} {q r : RuleRef} {s : LeadingTokens K} :
    visited ((q, s) :: m) r = true ↔ r = q ∨ visited m r = true := by
  by_cases h : r = q
  · simp [visited, h]
  · have hb : (r == q) = false := by simpa using h
    simp only [visited, List.lookup_cons, hb, h, false_or]

@[simp] theorem of_cons_self {m : Leading K} {r : RuleRef} {s : LeadingTokens K} :
    of ((r, s) :: m) r = s := by
  simp [of]

theorem of_cons_of_ne {m : Leading K} {q r : RuleRef} {s : LeadingTokens K} (h : r ≠ q) :
    of ((q, s) :: m) r = of m r := by
  have hb : (r == q) = false := by simpa using h
  simp only [of, List.lookup_cons, hb]

def entries (m : Leading K) (r : RuleRef) : Leading K := m.filter (·.1 = r)

@[simp] theorem entries_cons_self {m : Leading K} {r : RuleRef} {s : LeadingTokens K} :
    entries ((r, s) :: m) r = (r, s) :: entries m r := by
  simp [entries]

theorem entries_cons_of_ne {m : Leading K} {q r : RuleRef} {s : LeadingTokens K} (h : r ≠ q) :
    entries ((q, s) :: m) r = entries m r := by
  simp [entries, Ne.symm h]

theorem entries_eq_nil {m : Leading K} {r : RuleRef} : entries m r = [] ↔ m.visited r = false := by
  induction m with
  | nil => simp [entries, visited]
  | cons p m ih =>
    obtain ⟨q, s⟩ := p
    by_cases h : r = q
    · subst h
      simp [Bool.eq_false_iff]
    · rw [entries_cons_of_ne h, ih, Bool.eq_false_iff, Bool.eq_false_iff, ne_eq, ne_eq,
        visited_cons, or_iff_right h]

theorem of_of_entries {m : Leading K} {r : RuleRef} {s : LeadingTokens K} {l : Leading K}
    (h : entries m r = (r, s) :: l) : m.of r = s := by
  induction m with
  | nil => cases h
  | cons p m ih =>
    obtain ⟨q, s'⟩ := p
    by_cases hq : r = q
    · subst hq
      rw [entries_cons_self] at h
      cases h
      exact of_cons_self
    · rw [entries_cons_of_ne hq] at h
      rw [of_cons_of_ne hq]
      exact ih h

def Extends (m m' : Leading K) : Prop := ∀ r, m.visited r = true → m'.visited r = true

theorem extends_cons {m : Leading K} {r : RuleRef} {s : LeadingTokens K} :
    Extends m ((r, s) :: m) := fun _ h => visited_cons.2 (.inr h)

theorem run_bind {α β : Type} (x : Visit K α) (f : α → Visit K β) (m : Leading K) :
    (x >>= f).run m = (f (x.run m).1).run (x.run m).2 := rfl

def refs (ns : List (NonTerminal K V)) : List RuleRef :=
  ns.flatMap fun n => (List.range n.rules.length).map fun i => (n.name, i)

theorem mem_refs {ns : List (NonTerminal K V)} {name : String} {n : NonTerminal K V} {i : Nat}
    (hn : find? ns name = some n) (hi : i < n.rules.length) : (name, i) ∈ refs ns := by
  refine List.mem_flatMap.2 ⟨n, NonTerminal.mem_of_find? hn, ?_⟩
  simpa [NonTerminal.name_of_find? hn] using hi

theorem length_refs (ns : List (NonTerminal K V)) : (refs ns).length + 1 = depth ns := by
  induction ns with
  | nil => rfl
  | cons n ns ih =>
    rw [depth, List.foldr_cons, ← depth, ← ih]
    simp [refs, Nat.add_assoc]

def pending (ns : List (NonTerminal K V)) (m : Leading K) : Nat :=
  (refs ns).countP fun r => !m.visited r

theorem pending_lt_depth (ns : List (NonTerminal K V)) (m : Leading K) :
    pending ns m < depth ns := by
  have hle : pending ns m ≤ (refs ns).length := List.countP_le_length
  have hlen := length_refs ns
  omega

theorem pending_le {m m' : Leading K} (h : Extends m m') (ns : List (NonTerminal K V)) :
    pending ns m' ≤ pending ns m := by
  refine List.countP_mono_left fun r _ hr => ?_
  simp only [Bool.not_eq_true', Bool.eq_false_iff] at hr ⊢
  exact fun hv => hr (h r hv)

theorem pending_cons_lt {ns : List (NonTerminal K V)} {m : Leading K} {r : RuleRef}
    {s : LeadingTokens K} (hr : r ∈ refs ns) (hv : m.visited r = false) :
    pending ns ((r, s) :: m) < pending ns m := by
  apply countP_lt_countP hr
  · intro q _ hq
    simp only [Bool.not_eq_true', Bool.eq_false_iff] at hq ⊢
    exact fun hq' => hq (extends_cons q hq')
  · simp [hv]
  · simp

def RuleAt (ns : List (NonTerminal K V)) (ref : RuleRef) (r : Rule K V) : Prop :=
  ∃ n, find? ns ref.1 = some n ∧ n.rules[ref.2]? = some r

theorem RuleAt.mem_refs {ns : List (NonTerminal K V)} {ref : RuleRef} {r : Rule K V}
    (h : RuleAt ns ref r) : ref ∈ refs ns := by
  obtain ⟨n, hn, hr⟩ := h
  exact Leading.mem_refs hn (List.getElem?_eq_some_iff.1 hr).1

theorem RuleAt.alternatives {ns : List (NonTerminal K V)} {ref : RuleRef} {r : Rule K V}
    (h : RuleAt ns ref r) : alternatives ns ref.1 r.clauses := by
  obtain ⟨n, hn, hr⟩ := h
  exact ⟨n, hn, r, List.mem_of_getElem? hr, rfl⟩

theorem RuleAt.unique {ns : List (NonTerminal K V)} {ref : RuleRef} {r s : Rule K V}
    (hr : RuleAt ns ref r) (hs : RuleAt ns ref s) : s = r := by
  obtain ⟨n, hn, hr⟩ := hr
  obtain ⟨n', hn', hs⟩ := hs
  rw [hn] at hn'
  cases hn'
  rw [hr] at hs
  exact (Option.some.inj hs).symm

theorem RuleAt.of_find? {ns : List (NonTerminal K V)} {name : String} {n : NonTerminal K V}
    (hn : find? ns name = some n) (j : Nat) (r : Rule K V) (hr : n.rules[j]? = some r) :
    RuleAt ns (name, 0 + j) r :=
  ⟨n, hn, by rwa [Nat.zero_add]⟩

theorem forall_getElem?_tail {α : Type} (P : Nat → α → Prop) {a : α} {l : List α} {i : Nat}
    (h : ∀ j b, (a :: l)[j]? = some b → P (i + j) b) (j : Nat) (b : α) (hb : l[j]? = some b) :
    P (i + 1 + j) b := by
  rw [Nat.add_assoc, Nat.add_comm 1]
  exact h (j + 1) b (by simpa using hb)

structure Admissible (A : Alternatives K) (c : Clause K) (s : LeadingTokens K) : Prop where
  nodup : s.toList.Nodup
  begins : ∀ k ∈ s.toList, Begins A c k

theorem Admissible.of_begins {A : Alternatives K} {c d : Clause K} {s : LeadingTokens K}
    (h : Admissible A c s) (hcd : ∀ k, Begins A c k → Begins A d k) : Admissible A d s :=
  ⟨h.nodup, fun k hk => hcd k (h.begins k hk)⟩

theorem Admissible.empty {A : Alternatives K} {c : Clause K} : Admissible A c .empty :=
  ⟨List.nodup_nil, nofun⟩

def Sound (ns : List (NonTerminal K V)) (m : Leading K) : Prop :=
  ∀ ref r, RuleAt ns ref r → Admissible (alternatives ns) (.group r.clauses) (m.of ref)

/-- What a visit may do to the memory: it ends each visit of a rule that it begins, and leaves the
rules alone that were begun before. -/
structure Continues (ns : List (NonTerminal K V)) (m m' : Leading K) : Prop where
  kept : ∀ r, m.visited r = true → m'.entries r = m.entries r
  ended : ∀ r, m.visited r = false → m'.visited r = true →
    ∃ s, m'.entries r = [(r, s), (r, .empty)]
  sound : Sound ns m → Sound ns m'

namespace Continues

variable {ns : List (NonTerminal K V)} {m m' m'' : Leading K}

theorem refl (ns : List (NonTerminal K V)) (m : Leading K) : Continues ns m m :=
  ⟨fun _ _ => rfl, fun _ h h' => by simp [h] at h', id⟩

theorem keeps (h : Continues ns m m') : Extends m m' := by
  intro r hr
  by_contra hv
  have hentries := h.kept r hr
  rw [entries_eq_nil.2 (by simpa using hv)] at hentries
  simp [entries_eq_nil.1 hentries.symm] at hr

theorem trans (h : Continues ns m m') (h' : Continues ns m' m'') : Continues ns m m'' where
  kept r hr := (h'.kept r (h.keeps r hr)).trans (h.kept r hr)
  ended r hr hr'' := by
    cases hv : m'.visited r with
    | true =>
      rw [h'.kept r hv]
      exact h.ended r hr hv
    | false => exact h'.ended r hv hr''
  sound hm := h'.sound (h.sound hm)

theorem of_begun {ref : RuleRef} {r : Rule K V} {s : LeadingTokens K} (hr : RuleAt ns ref r)
    (hv : m.visited ref = false) (h : Continues ns ((ref, .empty) :: m) m')
    (hs : Sound ns ((ref, .empty) :: m) → Admissible (alternatives ns) (.group r.clauses) s) :
    Continues ns m ((ref, s) :: m') where
  kept q hq := by
    have hne : q ≠ ref := by
      rintro rfl
      simp [hv] at hq
    rw [entries_cons_of_ne hne, h.kept q (extends_cons q hq), entries_cons_of_ne hne]
  ended q hq hq' := by
    by_cases hqr : q = ref
    · subst hqr
      refine ⟨s, ?_⟩
      rw [entries_cons_self, h.kept q (by simp), entries_cons_self, entries_eq_nil.2 hv]
    · have hbegun : visited ((ref, .empty) :: m) q = false := by
        rw [Bool.eq_false_iff, ne_eq, visited_cons, or_iff_right hqr, hq]
        simp
      obtain ⟨s', hs'⟩ := h.ended q hbegun ((visited_cons.1 hq').resolve_left hqr)
      exact ⟨s', by rw [entries_cons_of_ne hqr, hs']⟩
  sound hm := by
    have hbegun : Sound ns ((ref, .empty) :: m) := by
      intro q p hp
      by_cases hqr : q = ref
      · subst hqr
        rw [of_cons_self]
        exact .empty
      · rw [of_cons_of_ne hqr]
        exact hm q p hp
    intro q p hp
    by_cases hqr : q = ref
    · subst hqr
      rw [of_cons_self, hr.unique hp]
      exact hs hbegun
    · rw [of_cons_of_ne hqr]
      exact h.sound hbegun q p hp

end Continues

variable [TokenKind K] {ns : List (NonTerminal K V)}
  {visit visit' : String → Visit K (LeadingTokens K)}

theorem run_rule_of_visited {m : Leading K} {ref : RuleRef} (r : Rule K V)
    (hv : m.visited ref = true) : (rule visit ref r).run m = ((), m) := by
  simp [rule, hv]
  rfl

theorem run_rule_of_not_visited {m : Leading K} {ref : RuleRef} (r : Rule K V)
    (hv : m.visited ref = false) :
    (rule visit ref r).run m =
      ((), (ref, ((sequence visit r.clauses).run ((ref, .empty) :: m)).1) ::
        ((sequence visit r.clauses).run ((ref, .empty) :: m)).2) := by
  simp [rule, hv]
  rfl

theorem run_sequence_cons {c : Clause K} {cs : List (Clause K)} {m : Leading K} :
    (sequence visit (c :: cs)).run m =
      if c.isOptional then
        ((((clause visit c).run m).1.extend
            ((sequence visit cs).run ((clause visit c).run m).2).1.toList),
          ((sequence visit cs).run ((clause visit c).run m).2).2)
      else (clause visit c).run m := by
  rw [sequence, run_bind]
  split <;> rfl

theorem run_nonTerminal_succ {depth : Nat} {name : String} {n : NonTerminal K V}
    (hn : find? ns name = some n) (m : Leading K) :
    (nonTerminal ns (depth + 1) name).run m =
      (ofNonTerminal ((rulesFrom (nonTerminal ns depth) name 0 n.rules).run m).2 n,
        ((rulesFrom (nonTerminal ns depth) name 0 n.rules).run m).2) := by
  simp only [nonTerminal, hn]
  rfl

def Yields (ns : List (NonTerminal K V)) (c : Clause K) (x : Visit K (LeadingTokens K)) : Prop :=
  ∀ m, Continues ns m (x.run m).2 ∧
    (Sound ns m → Admissible (alternatives ns) c (x.run m).1)

omit [TokenKind K] in
theorem Yields.of_begins {c d : Clause K} {x : Visit K (LeadingTokens K)} (h : Yields ns c x)
    (hcd : ∀ k, Begins (alternatives ns) c k → Begins (alternatives ns) d k) : Yields ns d x :=
  fun m => ⟨(h m).1, fun hm => ((h m).2 hm).of_begins hcd⟩

theorem sequence_yields {cs : List (Clause K)}
    (hcs : ∀ c ∈ cs, Yields ns c (clause visit c)) : Yields ns (.group cs) (sequence visit cs) := by
  induction cs with
  | nil => exact fun m => ⟨.refl ns m, fun _ => .empty⟩
  | cons c cs ih =>
    intro m
    obtain ⟨hcont, hfirst⟩ := hcs c (by simp) m
    obtain ⟨hcont', hmore⟩ := ih (fun d hd => hcs d (by simp [hd])) ((clause visit c).run m).2
    rw [run_sequence_cons]
    split
    · next ho =>
      refine ⟨hcont.trans hcont', fun hm => ⟨LeadingTokens.nodup_extend (hfirst hm).nodup, ?_⟩⟩
      intro k hk
      obtain hk | hk := LeadingTokens.mem_extend.1 hk
      · exact .group_head ((hfirst hm).begins k hk)
      · exact .group_tail ho ((hmore (hcont.sound hm)).begins k hk)
    · exact ⟨hcont, fun hm => (hfirst hm).of_begins fun k => .group_head⟩

theorem clause_yields (hvisit : ∀ name, Yields ns (.nonTerminal name) (visit name)) (c : Clause K) :
    Yields ns c (clause visit c) := by
  induction c using Clause.induction with
  | terminal k =>
    refine fun m => ⟨.refl ns m, fun _ => ⟨LeadingTokens.nodup_ofList [k], fun l hl => ?_⟩⟩
    obtain rfl := List.mem_singleton.1 (LeadingTokens.mem_ofList.1 hl)
    exact .terminal
  | nonTerminal name => exact hvisit name
  | zeroOrMore c ih => exact ih.of_begins fun k => .zeroOrMore
  | oneOrMore c ih => exact ih.of_begins fun k => .oneOrMore
  | optional c ih => exact ih.of_begins fun k => .optional
  | group cs ih => exact sequence_yields ih

theorem rule_continues {ref : RuleRef} {r : Rule K V} (hr : RuleAt ns ref r)
    (hvisit : ∀ name, Yields ns (.nonTerminal name) (visit name)) (m : Leading K) :
    Continues ns m ((rule visit ref r).run m).2 ∧
      visited ((rule visit ref r).run m).2 ref = true := by
  cases hv : m.visited ref with
  | true =>
    rw [run_rule_of_visited r hv]
    exact ⟨.refl ns m, hv⟩
  | false =>
    obtain ⟨hcont, hset⟩ :=
      clause_yields hvisit (.group r.clauses) ((ref, .empty) :: m)
    rw [run_rule_of_not_visited r hv]
    exact ⟨.of_begun hr hv hcont hset, by simp⟩

theorem rulesFrom_continues {name : String} {i : Nat} {rs : List (Rule K V)}
    (hrs : ∀ j r, rs[j]? = some r → RuleAt ns (name, i + j) r)
    (hvisit : ∀ name, Yields ns (.nonTerminal name) (visit name)) (m : Leading K) :
    Continues ns m ((rulesFrom visit name i rs).run m).2 ∧
      ∀ j < rs.length, visited ((rulesFrom visit name i rs).run m).2 (name, i + j) = true := by
  induction rs generalizing i m with
  | nil => exact ⟨.refl ns m, by simp⟩
  | cons r rs ih =>
    obtain ⟨hcont, hself⟩ := rule_continues (hrs 0 r rfl) hvisit m
    have htail := forall_getElem?_tail (fun k s => RuleAt ns (name, k) s) hrs
    obtain ⟨hcont', hall⟩ := ih htail ((rule visit (name, i) r).run m).2
    rw [rulesFrom, run_bind]
    refine ⟨hcont.trans hcont', fun j hj => ?_⟩
    cases j with
    | zero => exact hcont'.keeps _ hself
    | succ j => simpa only [Nat.add_assoc, Nat.add_comm 1] using hall j (by simpa using hj)

theorem nonTerminal_yields (ns : List (NonTerminal K V)) (depth : Nat) (name : String) :
    Yields ns (.nonTerminal name) (nonTerminal ns depth name) := by
  induction depth generalizing name with
  | zero => exact fun m => ⟨.refl ns m, fun _ => .empty⟩
  | succ depth ih =>
    intro m
    cases hn : find? ns name with
    | none =>
      simp only [nonTerminal, hn]
      exact ⟨.refl ns m, fun _ => .empty⟩
    | some n =>
      obtain ⟨hcont, -⟩ := rulesFrom_continues (RuleAt.of_find? hn) ih m
      rw [run_nonTerminal_succ hn]
      refine ⟨hcont, fun hm => ⟨LeadingTokens.nodup_ofList _, fun k hk => ?_⟩⟩
      obtain ⟨i, hi, hk⟩ : ∃ i < n.rules.length, k ∈
          (of ((rulesFrom (nonTerminal ns depth) name 0 n.rules).run m).2 (n.name, i)).toList := by
        simpa [ofNonTerminal] using hk
      have hat : RuleAt ns (n.name, i) n.rules[i] :=
        ⟨n, NonTerminal.name_of_find? hn ▸ hn, List.getElem?_eq_getElem hi⟩
      have hbegins := (hcont.sound hm _ _ hat).begins k hk
      rw [← NonTerminal.name_of_find? hn]
      exact .nonTerminal hat.alternatives hbegins

theorem visited_nonTerminal {name : String} {i : Nat} {r : Rule K V}
    (hr : RuleAt ns (name, i) r) (depth : Nat) (m : Leading K) :
    visited ((nonTerminal ns (depth + 1) name).run m).2 (name, i) = true := by
  obtain ⟨n, hn, hi⟩ := hr
  obtain ⟨-, hall⟩ := rulesFrom_continues (RuleAt.of_find? hn) (nonTerminal_yields ns depth) m
  rw [run_nonTerminal_succ hn]
  simpa using hall i (List.getElem?_eq_some_iff.1 hi).1

theorem forM_continues (ns l : List (NonTerminal K V)) (depth : Nat) (m : Leading K) :
    Continues ns m ((l.forM fun n => discard <| nonTerminal ns (depth + 1) n.name).run m).2 ∧
      ∀ n ∈ l, ∀ i r, RuleAt ns (n.name, i) r →
        visited ((l.forM fun n => discard <| nonTerminal ns (depth + 1) n.name).run m).2
          (n.name, i) = true := by
  induction l generalizing m with
  | nil => exact ⟨.refl ns m, by simp⟩
  | cons n l ih =>
    have hfirst := (nonTerminal_yields ns (depth + 1) n.name m).1
    obtain ⟨hcont, hall⟩ := ih ((nonTerminal ns (depth + 1) n.name).run m).2
    refine ⟨hfirst.trans hcont, List.forall_mem_cons.2 ⟨fun i r hr => ?_, hall⟩⟩
    exact hcont.keeps _ (visited_nonTerminal hr depth m)

theorem compute_continues (ns : List (NonTerminal K V)) (start : String) :
    Continues ns [] (compute ns start) ∧
      ∀ ref r, RuleAt ns ref r → (compute ns start).visited ref = true := by
  have hfirst := (nonTerminal_yields ns (depth ns) start []).1
  obtain ⟨hcont, hall⟩ := forM_continues ns ns (refs ns).length
    ((nonTerminal ns (depth ns) start).run []).2
  rw [length_refs] at hcont hall
  refine ⟨hfirst.trans hcont, fun ref r hr => ?_⟩
  obtain ⟨n, hn, -⟩ := id hr
  have hname := NonTerminal.name_of_find? hn
  have hv := hall n (NonTerminal.mem_of_find? hn) ref.2 r
  rw [hname] at hv
  exact hv hr

theorem entries_compute {ref : RuleRef} {r : Rule K V} (hr : RuleAt ns ref r) (start : String) :
    ∃ s, (compute ns start).entries ref = [(ref, s), (ref, .empty)] ∧
      (compute ns start).of ref = s ∧ Admissible (alternatives ns) (.group r.clauses) s := by
  obtain ⟨hcont, hall⟩ := compute_continues ns start
  obtain ⟨s, hs⟩ := hcont.ended ref rfl (hall ref r hr)
  have hof := of_of_entries hs
  have hinit : Sound ns ([] : Leading K) := fun _ _ _ => .empty
  exact ⟨s, hs, hof, hof ▸ hcont.sound hinit ref r hr⟩

end Leading

end Parsing
