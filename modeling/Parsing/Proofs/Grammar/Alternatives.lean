import Mathlib.Data.Nat.Basic
import Mathlib.Logic.Relation
import Mathlib.Order.Basic
import Parsing.Grammar.Basic

namespace Parsing

variable {K V : Type}

theorem Clause.induction {P : Clause K → Prop} (terminal : ∀ k, P (.terminal k))
    (nonTerminal : ∀ name, P (.nonTerminal name)) (zeroOrMore : ∀ c, P c → P (.zeroOrMore c))
    (oneOrMore : ∀ c, P c → P (.oneOrMore c)) (optional : ∀ c, P c → P (.optional c))
    (group : ∀ cs, (∀ c ∈ cs, P c) → P (.group cs)) (c : Clause K) : P c :=
  @Clause.rec K P (fun cs => ∀ c ∈ cs, P c) terminal nonTerminal zeroOrMore oneOrMore optional group
    (by simp) (fun _ _ hc hcs => by simpa using ⟨hc, hcs⟩) c

@[simp] theorem Clause.isOptional_group_nil : (group [] : Clause K).isOptional = true := rfl

@[simp] theorem Clause.isOptional_group_cons {c : Clause K} {cs : List (Clause K)} :
    (group (c :: cs)).isOptional = true ↔ c.isOptional = true ∧ (group cs).isOptional = true := by
  simp [Clause.isOptional, Clause.allOptional]

abbrev Alternatives (K : Type) := String → List (Clause K) → Prop

def NonTerminal.alternatives (ns : List (NonTerminal K V)) : Alternatives K :=
  fun name cs => ∃ n, find? ns name = some n ∧ ∃ r ∈ n.rules, r.clauses = cs

def Grammar.alternatives (g : Grammar K V) : Alternatives K :=
  NonTerminal.alternatives g.nonTerminals

theorem countP_lt_countP {α : Type} {l : List α} {p q : α → Bool} {a : α} (ha : a ∈ l)
    (hpq : ∀ b ∈ l, p b = true → q b = true) (hq : q a = true) (hp : p a = false) :
    l.countP p < l.countP q := by
  obtain ⟨before, after, rfl⟩ := List.append_of_mem ha
  have hbefore := List.countP_mono_left fun b (hb : b ∈ before) => hpq b (by simp [hb])
  have hafter := List.countP_mono_left fun b (hb : b ∈ after) => hpq b (by simp [hb])
  simp only [List.countP_append, List.countP_cons, hq, hp]
  simp
  omega

open Classical in
theorem countP_reflTransGen_lt {α : Type} {r : α → α → Prop} {l : List α} {a b : α} (ha : a ∈ l)
    (hab : r a b) (hr : ¬ Relation.TransGen r a a) :
    (l.countP fun c => decide (Relation.ReflTransGen r b c)) <
      l.countP fun c => decide (Relation.ReflTransGen r a c) := by
  have hba : ¬ Relation.ReflTransGen r b a := fun hba => hr (.head' hab hba)
  apply countP_lt_countP ha
  · intro c _ hc
    rw [decide_eq_true_eq] at hc ⊢
    exact .head hab hc
  · exact decide_eq_true .refl
  · exact decide_eq_false hba

theorem not_transGen_self_of_lt {α : Type} {r : α → α → Prop} (f : α → Nat)
    (h : ∀ a b, r a b → f b < f a) (a : α) : ¬ Relation.TransGen r a a := by
  have hlt {b : α} (hab : Relation.TransGen r a b) : f b < f a := by
    induction hab with
    | single hr => exact h _ _ hr
    | tail _ hr ih => exact (h _ _ hr).trans ih
  exact fun ha => Nat.lt_irrefl _ (hlt ha)

theorem Grammar.rule?_eq_some {g : Grammar K V} {name : String} {index : Nat} {r : Rule K V} :
    g.rule? name index = some r ↔
      ∃ n, g.nonTerminal? name = some n ∧ n.rules[index]? = some r := by
  simp [Grammar.rule?, Option.bind_eq_some_iff]

theorem Grammar.alternatives_of_rule? {g : Grammar K V} {name : String} {index : Nat}
    {r : Rule K V} (h : g.rule? name index = some r) : g.alternatives name r.clauses := by
  obtain ⟨n, hn, hr⟩ := rule?_eq_some.1 h
  exact ⟨n, hn, r, List.mem_of_getElem? hr, rfl⟩

namespace NonTerminal

theorem name_of_find? {ns : List (NonTerminal K V)} {name : String} {n : NonTerminal K V}
    (h : find? ns name = some n) : n.name = name := by
  simpa using List.find?_some h

theorem mem_of_find? {ns : List (NonTerminal K V)} {name : String} {n : NonTerminal K V}
    (h : find? ns name = some n) : n ∈ ns :=
  List.mem_of_find?_eq_some h

end NonTerminal

variable {A : Alternatives K}

/-- Whether a clause can match without a token. What a repetition `+` takes is never empty. -/
inductive MatchesEmpty (A : Alternatives K) : Clause K → Prop
  | nonTerminal {name : String} {cs : List (Clause K)} :
    A name cs → MatchesEmpty A (.group cs) → MatchesEmpty A (.nonTerminal name)
  | zeroOrMore {c : Clause K} : MatchesEmpty A (.zeroOrMore c)
  | optional {c : Clause K} : MatchesEmpty A (.optional c)
  | group_nil : MatchesEmpty A (.group [])
  | group_cons {c : Clause K} {cs : List (Clause K)} :
    MatchesEmpty A c → MatchesEmpty A (.group cs) → MatchesEmpty A (.group (c :: cs))

theorem MatchesEmpty.of_isOptional {c : Clause K} : c.isOptional = true → MatchesEmpty A c := by
  induction c using Clause.induction with
  | terminal k => simp [Clause.isOptional]
  | nonTerminal name => simp [Clause.isOptional]
  | zeroOrMore c _ => exact fun _ => .zeroOrMore
  | oneOrMore c _ => simp [Clause.isOptional]
  | optional c _ => exact fun _ => .optional
  | group cs ih =>
    intro h
    induction cs with
    | nil => exact .group_nil
    | cons c cs ihs =>
      obtain ⟨hc, hcs⟩ := Clause.isOptional_group_cons.1 h
      exact .group_cons (ih c (by simp) hc) (ihs (fun d hd => ih d (by simp [hd])) hcs)

/-- Whether a non-terminal stands at the left of a clause, where `skips` tells which clauses it may
stand behind. -/
inductive LeadsTo (skips : Clause K → Prop) : Clause K → String → Prop
  | nonTerminal {name : String} : LeadsTo skips (.nonTerminal name) name
  | zeroOrMore {c : Clause K} {name : String} :
    LeadsTo skips c name → LeadsTo skips (.zeroOrMore c) name
  | oneOrMore {c : Clause K} {name : String} :
    LeadsTo skips c name → LeadsTo skips (.oneOrMore c) name
  | optional {c : Clause K} {name : String} :
    LeadsTo skips c name → LeadsTo skips (.optional c) name
  | group_head {c : Clause K} {cs : List (Clause K)} {name : String} :
    LeadsTo skips c name → LeadsTo skips (.group (c :: cs)) name
  | group_tail {c : Clause K} {cs : List (Clause K)} {name : String} :
    skips c → LeadsTo skips (.group cs) name → LeadsTo skips (.group (c :: cs)) name

namespace LeadsTo

variable {skips : Clause K → Prop} {c : Clause K} {cs : List (Clause K)} {name a : String}

@[simp] theorem not_terminal {k : K} : ¬ LeadsTo skips (.terminal k) name := nofun

@[simp] theorem nonTerminal_iff : LeadsTo skips (.nonTerminal a) name ↔ name = a := by
  constructor
  · intro h
    cases h
    rfl
  · rintro rfl
    exact .nonTerminal

@[simp] theorem zeroOrMore_iff : LeadsTo skips (.zeroOrMore c) name ↔ LeadsTo skips c name :=
  ⟨fun | .zeroOrMore h => h, .zeroOrMore⟩

@[simp] theorem oneOrMore_iff : LeadsTo skips (.oneOrMore c) name ↔ LeadsTo skips c name :=
  ⟨fun | .oneOrMore h => h, .oneOrMore⟩

@[simp] theorem optional_iff : LeadsTo skips (.optional c) name ↔ LeadsTo skips c name :=
  ⟨fun | .optional h => h, .optional⟩

@[simp] theorem not_group_nil : ¬ LeadsTo skips (.group []) name := nofun

@[simp] theorem group_cons_iff :
    LeadsTo skips (.group (c :: cs)) name ↔
      LeadsTo skips c name ∨ skips c ∧ LeadsTo skips (.group cs) name := by
  constructor
  · intro h
    cases h with
    | group_head h => exact .inl h
    | group_tail hc h => exact .inr ⟨hc, h⟩
  · rintro (h | ⟨hc, h⟩)
    · exact .group_head h
    · exact .group_tail hc h

end LeadsTo

theorem LeadsTo.mono {p q : Clause K → Prop} (hpq : ∀ c, p c → q c) {c : Clause K} {name : String}
    (h : LeadsTo p c name) : LeadsTo q c name := by
  induction h with
  | nonTerminal => exact .nonTerminal
  | zeroOrMore _ ih => exact .zeroOrMore ih
  | oneOrMore _ ih => exact .oneOrMore ih
  | optional _ ih => exact .optional ih
  | group_head _ ih => exact .group_head ih
  | group_tail hc _ ih => exact .group_tail (hpq _ hc) ih

/-- The leading positions of a clause: behind clauses that are optional by their form. -/
abbrev Leads : Clause K → String → Prop := LeadsTo fun c => c.isOptional = true

def LeftReaches (A : Alternatives K) (a b : String) : Prop :=
  ∃ cs, A a cs ∧ LeadsTo (MatchesEmpty A) (.group cs) b

def NoLeftRecursion (A : Alternatives K) : Prop := ∀ a, ¬ Relation.TransGen (LeftReaches A) a a

theorem LeftReaches.of_leads {a b : String} {cs : List (Clause K)} (ha : A a cs)
    (hb : Leads (.group cs) b) : LeftReaches A a b :=
  ⟨cs, ha, hb.mono fun _ => .of_isOptional⟩

/-- The kinds a clause begins with: the least solution of the equations that the computation of
leading tokens solves. -/
inductive Begins (A : Alternatives K) : Clause K → K → Prop
  | terminal {k : K} : Begins A (.terminal k) k
  | nonTerminal {name : String} {cs : List (Clause K)} {k : K} :
    A name cs → Begins A (.group cs) k → Begins A (.nonTerminal name) k
  | zeroOrMore {c : Clause K} {k : K} : Begins A c k → Begins A (.zeroOrMore c) k
  | oneOrMore {c : Clause K} {k : K} : Begins A c k → Begins A (.oneOrMore c) k
  | optional {c : Clause K} {k : K} : Begins A c k → Begins A (.optional c) k
  | group_head {c : Clause K} {cs : List (Clause K)} {k : K} :
    Begins A c k → Begins A (.group (c :: cs)) k
  | group_tail {c : Clause K} {cs : List (Clause K)} {k : K} :
    c.isOptional = true → Begins A (.group cs) k → Begins A (.group (c :: cs)) k

end Parsing
