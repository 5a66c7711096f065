import Mathlib.Data.List.Nodup
import Parsing.Grammar.Production
import Parsing.Proofs.Grammar.Alternatives

namespace Parsing

variable {K V : Type}

namespace NonTerminal

theorem isSome_find? {ns : List (NonTerminal K V)} {name : String} :
    (find? ns name).isSome = true ↔ ∃ n ∈ ns, n.name = name := by
  simp [find?, List.find?_isSome]

theorem mem_addRule {ns : List (NonTerminal K V)} {name a : String} {r q : Rule K V} :
    (∃ n ∈ addRule name r ns, n.name = a ∧ q ∈ n.rules) ↔
      (∃ n ∈ ns, n.name = a ∧ q ∈ n.rules) ∨ (name = a ∧ q = r) := by
  induction ns with
  | nil => simp [addRule]
  | cons n ns ih =>
    rw [addRule]
    split
    · next h =>
      subst h
      simp only [List.exists_mem_cons_iff, List.mem_append, List.mem_singleton, and_or_left]
      grind
    · simp only [List.exists_mem_cons_iff, ih, or_assoc]

def addRules (rules : List (String × Rule K V)) (ns : List (NonTerminal K V)) :
    List (NonTerminal K V) :=
  rules.foldl (fun ns p => addRule p.1 p.2 ns) ns

theorem ofRules_eq {rules : List (String × Rule K V)} : ofRules rules = addRules rules [] := rfl

theorem mem_addRules {rules : List (String × Rule K V)} {ns : List (NonTerminal K V)} {a : String}
    {q : Rule K V} :
    (∃ n ∈ addRules rules ns, n.name = a ∧ q ∈ n.rules) ↔
      (∃ n ∈ ns, n.name = a ∧ q ∈ n.rules) ∨ (a, q) ∈ rules := by
  induction rules generalizing ns with
  | nil => simp [addRules]
  | cons p rules ih =>
    rw [addRules, List.foldl_cons, ← addRules, ih, mem_addRule, List.mem_cons, Prod.ext_iff,
      or_assoc]
    simp only [eq_comm]

theorem mem_ofRules {rules : List (String × Rule K V)} {a : String} {q : Rule K V} :
    (∃ n ∈ ofRules rules, n.name = a ∧ q ∈ n.rules) ↔ (a, q) ∈ rules := by
  rw [ofRules_eq, mem_addRules]
  simp

theorem rules_ne_nil_of_mem_addRule {ns : List (NonTerminal K V)} {name : String} {r : Rule K V}
    (h : ∀ n ∈ ns, n.rules ≠ []) : ∀ n ∈ addRule name r ns, n.rules ≠ [] := by
  induction ns with
  | nil => simp [addRule]
  | cons n ns ih =>
    rw [List.forall_mem_cons] at h
    rw [addRule]
    split
    · exact List.forall_mem_cons.2 ⟨by simp, h.2⟩
    · exact List.forall_mem_cons.2 ⟨h.1, ih h.2⟩

theorem rules_ne_nil_of_mem_addRules {rules : List (String × Rule K V)}
    {ns : List (NonTerminal K V)} (h : ∀ n ∈ ns, n.rules ≠ []) :
    ∀ n ∈ addRules rules ns, n.rules ≠ [] := by
  induction rules generalizing ns with
  | nil => exact h
  | cons p rules ih => exact ih (rules_ne_nil_of_mem_addRule h)

theorem isSome_find?_ofRules {rules : List (String × Rule K V)} {name : String} :
    (find? (ofRules rules) name).isSome = true ↔ ∃ r, (name, r) ∈ rules := by
  rw [isSome_find?]
  constructor
  · rintro ⟨n, hn, rfl⟩
    obtain ⟨r, hr⟩ := List.exists_mem_of_ne_nil _ (rules_ne_nil_of_mem_addRules (by simp) n hn)
    exact ⟨r, mem_ofRules.1 ⟨n, hn, rfl, hr⟩⟩
  · rintro ⟨r, hr⟩
    obtain ⟨n, hn, hname, -⟩ := mem_ofRules.2 hr
    exact ⟨n, hn, hname⟩

theorem mem_names_addRule {name a : String} {r : Rule K V} {ns : List (NonTerminal K V)} :
    a ∈ (addRule name r ns).map (·.name) ↔ a ∈ ns.map (·.name) ∨ a = name := by
  induction ns with
  | nil => simp [addRule]
  | cons n ns ih =>
    rw [addRule]
    split
    · next h => simp [← h, or_comm]
    · rw [List.map_cons, List.map_cons, List.mem_cons, List.mem_cons, ih, or_assoc]

theorem nodup_names_addRule {name : String} {r : Rule K V} {ns : List (NonTerminal K V)}
    (h : (ns.map (·.name)).Nodup) : ((addRule name r ns).map (·.name)).Nodup := by
  induction ns with
  | nil => simp [addRule]
  | cons n ns ih =>
    obtain ⟨hn, hns⟩ := List.nodup_cons.1 h
    rw [addRule]
    split
    · exact h
    · next hname => exact List.nodup_cons.2 ⟨fun h => (mem_names_addRule.1 h).elim hn hname, ih hns⟩

theorem nodup_names_addRules {rules : List (String × Rule K V)} {ns : List (NonTerminal K V)}
    (h : (ns.map (·.name)).Nodup) : ((addRules rules ns).map (·.name)).Nodup := by
  induction rules generalizing ns with
  | nil => exact h
  | cons p rules ih => exact ih (nodup_names_addRule h)

theorem nodup_names_ofRules (rules : List (String × Rule K V)) :
    ((ofRules rules).map (·.name)).Nodup :=
  nodup_names_addRules List.nodup_nil

theorem find?_eq_some_of_nodup {ns : List (NonTerminal K V)} (hns : (ns.map (·.name)).Nodup)
    {name : String} {n : NonTerminal K V} : find? ns name = some n ↔ n ∈ ns ∧ n.name = name := by
  constructor
  · exact fun h => ⟨mem_of_find? h, name_of_find? h⟩
  · rintro ⟨hn, rfl⟩
    obtain ⟨m, hm⟩ := Option.isSome_iff_exists.1 (isSome_find?.2 ⟨n, hn, rfl⟩)
    rw [hm, List.inj_on_of_nodup_map hns (mem_of_find? hm) hn (name_of_find? hm)]

theorem find?_eq_of_perm {ns ns' : List (NonTerminal K V)} (h : ns.Perm ns')
    (hns : (ns'.map (·.name)).Nodup) : find? ns = find? ns' := by
  funext name
  ext n
  rw [find?_eq_some_of_nodup hns,
    find?_eq_some_of_nodup ((h.map _).nodup_iff.2 hns), h.mem_iff]

end NonTerminal

namespace Leading

variable {ns : List (NonTerminal K V)} {start name : String}

theorem getElem?_fillRules {n : NonTerminal K V} {f : Nat → LeadingTokens K} {i : Nat} :
    (fillRules n ((List.range n.rules.length).map f)).rules[i]? =
      n.rules[i]?.map fun r => { r with leading := f i } := by
  simp only [fillRules, List.getElem?_zipWith, List.getElem?_map]
  cases h : n.rules[i]? with
  | none => rfl
  | some r =>
    have hi := (List.getElem?_eq_some_iff.1 h).1
    simp [List.getElem?_range hi]

variable [TokenKind K]

theorem fill_eq :
    fill ns start = ns.map fun n =>
      fillRules n ((List.range n.rules.length).map fun i => (compute ns start).of (n.name, i)) := by
  simp [fill, table, List.zipWith_map_right, List.zipWith_self]

theorem find?_fill :
    NonTerminal.find? (fill ns start) name =
      (NonTerminal.find? ns name).map fun n =>
        fillRules n ((List.range n.rules.length).map fun i => (compute ns start).of (n.name, i)) := by
  rw [fill_eq, NonTerminal.find?, List.find?_map]
  rfl

theorem alternatives_fill :
    NonTerminal.alternatives (fill ns start) = NonTerminal.alternatives ns := by
  funext a cs
  simp only [NonTerminal.alternatives, find?_fill, List.mem_iff_getElem?]
  apply propext
  constructor
  · rintro ⟨_, hn, r, ⟨i, hi⟩, rfl⟩
    obtain ⟨n, hn', rfl⟩ := Option.map_eq_some_iff.1 hn
    rw [getElem?_fillRules] at hi
    obtain ⟨q, hq, rfl⟩ := Option.map_eq_some_iff.1 hi
    exact ⟨n, hn', q, ⟨i, hq⟩, rfl⟩
  · rintro ⟨n, hn, q, ⟨i, hq⟩, rfl⟩
    refine ⟨_, Option.map_eq_some_iff.2 ⟨n, hn, rfl⟩,
      { q with leading := (compute ns start).of (n.name, i) }, ⟨i, ?_⟩, rfl⟩
    rw [getElem?_fillRules, hq]
    rfl

end Leading

def Rule.unfilled (r : Rule K V) : Rule K V := { r with leading := .empty }

namespace Grammar

variable [TokenKind K] {start : String} {ps : List (Production K V)}
  {rules : List (String × Rule K V)} {g : Grammar K V}

open NonTerminal (ofRules)

theorem build_of_read (hr : ps.mapM Production.read = .ok rules) (hs : ∃ r, (start, r) ∈ rules) :
    build start ps =
      match NonTerminal.error? (ofRules rules) with
      | some e => .error e
      | none => .ok ⟨start, Leading.fill (ofRules rules) start⟩ := by
  have hne : ps.isEmpty = false := by
    cases ps with
    | nil =>
      cases hr
      simp at hs
    | cons p ps => rfl
  have hstart : (NonTerminal.find? (ofRules rules) start).isNone = false := by
    rw [← Option.not_isSome, NonTerminal.isSome_find?_ofRules.2 hs, Bool.not_true]
  simp only [build, hne, hr, hstart, bind, Except.bind, pure, Except.pure, Bool.false_eq_true,
    if_false]
  rfl

theorem of_build_eq_ok (h : build start ps = .ok g) :
    ∃ rules, ps.mapM Production.read = .ok rules ∧ (∃ r, (start, r) ∈ rules) ∧
      NonTerminal.error? (ofRules rules) = none ∧
      g = ⟨start, Leading.fill (ofRules rules) start⟩ := by
  cases he : ps.isEmpty with
  | true => simp [build, he, bind, Except.bind, throw, throwThe, MonadExceptOf.throw] at h
  | false =>
    cases hr : ps.mapM Production.read with
    | error e => simp [build, he, hr, bind, Except.bind] at h
    | ok rules =>
      have hs : (NonTerminal.find? (ofRules rules) start).isSome = true := by
        by_contra hs
        rw [Option.not_isSome_iff_eq_none] at hs
        simp [build, he, hr, hs, bind, Except.bind, throw, throwThe, MonadExceptOf.throw] at h
      have hs := NonTerminal.isSome_find?_ofRules.1 hs
      rw [build_of_read hr hs] at h
      cases herr : NonTerminal.error? (ofRules rules) with
      | some e => simp [herr] at h
      | none =>
        rw [herr] at h
        cases h
        exact ⟨rules, rfl, hs, herr, rfl⟩

def unfilled (g : Grammar K V) : List (NonTerminal K V) :=
  g.nonTerminals.map fun n => { n with rules := n.rules.map Rule.unfilled }

theorem fill_unfilled
    (htable : Leading.table g.unfilled g.start = g.nonTerminals.map (·.rules.map (·.leading))) :
    Leading.fill g.unfilled g.start = g.nonTerminals := by
  rw [Leading.fill, htable, unfilled, List.zipWith_map, List.zipWith_self]
  refine (List.map_congr_left fun n _ => ?_).trans (List.map_id _)
  rw [Leading.fillRules, List.zipWith_map, List.zipWith_self]
  exact congrArg (NonTerminal.mk n.name) (List.map_id _)

/-- A grammar is built from its own rules if the sets of starting kinds that they have are those that
are computed from them. -/
theorem build_of_table (g : Grammar K V) (hread : ps.mapM Production.read = .ok rules)
    (hrules : ofRules rules = g.unfilled)
    (hstart : (NonTerminal.find? g.unfilled g.start).isSome = true)
    (herror : NonTerminal.error? g.unfilled = none)
    (htable : Leading.table g.unfilled g.start = g.nonTerminals.map (·.rules.map (·.leading))) :
    build g.start ps = .ok g := by
  rw [← hrules, NonTerminal.isSome_find?_ofRules] at hstart
  rw [build_of_read hread hstart, hrules, herror, fill_unfilled htable]

end Grammar

end Parsing
