import Mathlib.Data.List.Induction
import Parsing.Parser.Basic
import Parsing.Proofs.Grammar.LeadingSets
import Parsing.Proofs.Matching.Truthful

namespace Parsing

variable {K V : Type}

namespace NonTerminal

def rulesOf (ns : List (NonTerminal K V)) (name : String) : List (Rule K V) :=
  (find? ns name).elim [] (·.rules)

theorem find?_cons {n : NonTerminal K V} {ns : List (NonTerminal K V)} {name : String} :
    find? (n :: ns) name = if n.name = name then some n else find? ns name := by
  rw [find?, List.find?_cons]
  by_cases h : n.name = name
  · simp [h]
  · simp [h, find?]

theorem rulesOf_addRule {ns : List (NonTerminal K V)} {name a : String} {r : Rule K V} :
    rulesOf (addRule name r ns) a = rulesOf ns a ++ if name = a then [r] else [] := by
  induction ns with
  | nil =>
    by_cases ha : name = a
    · simp [addRule, rulesOf, find?, ha]
    · simp [addRule, rulesOf, find?, ha]
  | cons n ns ih =>
    rw [addRule]
    by_cases hn : n.name = name
    · subst hn
      by_cases ha : n.name = a
      · simp [rulesOf, find?_cons, ha]
      · simp [rulesOf, find?_cons, ha]
    · simp only [rulesOf, if_neg hn, find?_cons] at ih ⊢
      by_cases ha : n.name = a
      · have hne : name ≠ a := fun h => hn (ha.trans h.symm)
        simp [ha, hne]
      · simpa [ha] using ih

theorem rulesOf_addRules {rules : List (String × Rule K V)} {ns : List (NonTerminal K V)}
    {a : String} :
    rulesOf (addRules rules ns) a = rulesOf ns a ++ (rules.filter (·.1 = a)).map (·.2) := by
  induction rules generalizing ns with
  | nil => simp [addRules]
  | cons p rules ih =>
    rw [addRules, List.foldl_cons, ← addRules, ih, rulesOf_addRule, List.append_assoc]
    by_cases ha : p.1 = a
    · simp [ha]
    · simp [ha]

theorem rulesOf_ofRules {rules : List (String × Rule K V)} {a : String} :
    rulesOf (ofRules rules) a = (rules.filter (·.1 = a)).map (·.2) := by
  rw [ofRules_eq, rulesOf_addRules]
  rfl

theorem names_addRule {ns : List (NonTerminal K V)} {name : String} {r : Rule K V} :
    (addRule name r ns).map (·.name) =
      if name ∈ ns.map (·.name) then ns.map (·.name) else ns.map (·.name) ++ [name] := by
  induction ns with
  | nil => rfl
  | cons n ns ih =>
    rw [addRule]
    by_cases hn : n.name = name
    · simp [hn]
    · have hne : name ≠ n.name := Ne.symm hn
      simp only [if_neg hn, List.map_cons, ih, List.mem_cons, or_iff_right hne]
      split <;> rfl

theorem names_ofRules (rules : List (String × Rule K V)) :
    (ofRules rules).map (·.name) = (rules.map (·.1)).eraseDups := by
  induction rules using List.reverseRecOn with
  | nil => rfl
  | append_singleton rules p ih =>
    have hsnoc : ofRules (rules ++ [p]) = addRule p.1 p.2 (ofRules rules) := by
      rw [ofRules_eq, ofRules_eq, addRules, List.foldl_append]
      rfl
    simp only [hsnoc, names_addRule, ih, List.map_append, List.eraseDups_append,
      List.mem_eraseDups]
    split
    · next h => simp [List.removeAll, h]
    · next h => simp [List.removeAll, h, List.eraseDups_cons]

end NonTerminal

namespace Leading

variable [TokenKind K] {ns : List (NonTerminal K V)} {start : String}

theorem names_fill : (fill ns start).map (·.name) = ns.map (·.name) := by
  rw [fill_eq, List.map_map]
  rfl

end Leading

theorem Leading.unfilled_fillRules {n : NonTerminal K V} {f : Nat → LeadingTokens K} :
    (fillRules n ((List.range n.rules.length).map f)).rules.map Rule.unfilled =
      n.rules.map Rule.unfilled := by
  apply List.ext_getElem?
  intro i
  rw [List.getElem?_map, List.getElem?_map, getElem?_fillRules, Option.map_map]
  rfl

variable [TokenKind K]

/-- The grammar has the rules that were read, their starting kinds apart: each under its own name
and in its place there, the names in the order in which they first occur. -/
structure Grammar.Represents (g : Grammar K V) (start : String) (rules : List (String × Rule K V)) :
    Prop where
  start_eq : g.start = start
  names : g.nonTerminals.map (·.name) = (rules.map (·.1)).eraseDups
  nonTerminal? : ∀ name n, g.nonTerminal? name = some n ↔ n ∈ g.nonTerminals ∧ n.name = name
  rules : ∀ n ∈ g.nonTerminals,
    n.rules.map Rule.unfilled = (rules.filter (·.1 = n.name)).map (·.2)

structure Grammar.Resolved (g : Grammar K V) : Prop where
  start : (g.nonTerminal? g.start).isSome = true
  names : ∀ n ∈ g.nonTerminals, ∀ r ∈ n.rules, ∀ a, .nonTerminal a ∈ Clause.walkAll r.clauses →
    (g.nonTerminal? a).isSome = true
  terminals : ∀ n ∈ g.nonTerminals, ∀ r ∈ n.rules,
    .terminal TokenKind.endMarker ∉ Clause.walkAll r.clauses
  leading : ∀ n ∈ g.nonTerminals, (∀ r ∈ n.rules, TokenKind.endMarker ∉ r.leading.toList) ∧
    TokenKind.endMarker ∉ n.leading.toList

theorem NonTerminal.isSome_of_error? {ns : List (NonTerminal K V)} (h : error? ns = none) :
    ∀ n ∈ ns, ∀ r ∈ n.rules, ∀ a, .nonTerminal a ∈ Clause.walkAll r.clauses →
      (find? ns a).isSome = true := by
  intro n hn r hr a ha
  have hrule := List.findSome?_eq_none_iff.1 (List.findSome?_eq_none_iff.1 h n hn) r hr
  have hclause := List.findSome?_eq_none_iff.1 (Option.or_eq_none_iff.1 hrule).1 _ ha
  simpa [clauseError?, Option.isSome_iff_ne_none] using hclause

theorem Production.unfilled_of_read {ps : List (Production K V)} {rules : List (String × Rule K V)}
    (h : ps.mapM Production.read = .ok rules) : ∀ p ∈ rules, p.2.unfilled = p.2 := by
  induction ps generalizing rules with
  | nil =>
    cases h
    simp
  | cons p ps ih =>
    rw [List.mapM_cons] at h
    obtain ⟨q, hq, h⟩ := Except.bind_eq_ok.1 h
    obtain ⟨qs, hqs, h⟩ := Except.bind_eq_ok.1 h
    obtain ⟨reading, -, hread⟩ := Except.bind_eq_ok.1 hq
    cases Except.pure_eq_ok.1 h
    cases Except.pure_eq_ok.1 hread
    exact List.forall_mem_cons.2 ⟨rfl, ih hqs⟩

namespace Grammar

variable {start : String} {ps : List (Production K V)} {rules : List (String × Rule K V)}
  {g : Grammar K V}

open NonTerminal (ofRules rulesOf)

theorem nonTerminal?_of_build (hg : build start ps = .ok g) (name : String) (n : NonTerminal K V) :
    g.nonTerminal? name = some n ↔ n ∈ g.nonTerminals ∧ n.name = name := by
  obtain ⟨rules, -, -, -, rfl⟩ := of_build_eq_ok hg
  apply NonTerminal.find?_eq_some_of_nodup
  rw [Leading.names_fill]
  exact NonTerminal.nodup_names_ofRules rules

theorem represents_of_build (hg : build start ps = .ok g) :
    ∃ rules, ps.mapM Production.read = .ok rules ∧ g.Represents start rules := by
  have hnames := nonTerminal?_of_build hg
  obtain ⟨rules, hread, -, -, rfl⟩ := of_build_eq_ok hg
  refine ⟨rules, hread, rfl, ?_, hnames, fun n hn => ?_⟩
  · rw [Leading.names_fill, NonTerminal.names_ofRules]
  · have hfind := (hnames n.name n).2 ⟨hn, rfl⟩
    rw [Grammar.nonTerminal?, Leading.find?_fill] at hfind
    obtain ⟨m, hm, heq⟩ := Option.map_eq_some_iff.1 hfind
    have hrules : m.rules = (rules.filter (·.1 = n.name)).map (·.2) := by
      rw [← NonTerminal.rulesOf_ofRules, rulesOf, hm]
      rfl
    have hunfilled := Leading.unfilled_fillRules (n := m)
      (f := fun i => (Leading.compute (ofRules rules) start).of (m.name, i))
    rw [heq, hrules] at hunfilled
    rw [hunfilled]
    refine (List.map_congr_left fun r hr => ?_).trans (List.map_id _)
    obtain ⟨p, hp, rfl⟩ := List.mem_map.1 hr
    exact Production.unfilled_of_read hread p (List.mem_filter.1 hp).1

theorem resolved_of_build (hg : build start ps = .ok g) : g.Resolved := by
  have halternatives (n : NonTerminal K V) (hn : n ∈ g.nonTerminals) (r : Rule K V)
      (hr : r ∈ n.rules) : g.alternatives n.name r.clauses :=
    ⟨n, (nonTerminal?_of_build hg n.name n).2 ⟨hn, rfl⟩, r, hr, rfl⟩
  have hhonest := honest_of_build hg
  have hleading (n : NonTerminal K V) (hn : n ∈ g.nonTerminals) (r : Rule K V) (hr : r ∈ n.rules) :
      TokenKind.endMarker ∉ r.leading.toList := by
    obtain ⟨index, hindex⟩ := List.mem_iff_getElem?.1 hr
    have hrule : g.rule? n.name index = some r :=
      rule?_eq_some.2 ⟨n, (nonTerminal?_of_build hg n.name n).2 ⟨hn, rfl⟩, hindex⟩
    exact fun hk => hhonest.endMarker (hhonest.leading n.name index r hrule _ hk)
  refine ⟨?_, fun n hn r hr a ha => ?_,
    fun n hn r hr => endMarker_not_mem hg (halternatives n hn r hr),
    fun n hn => ⟨hleading n hn, ?_⟩⟩
  · obtain ⟨rules, -, hs, -, rfl⟩ := of_build_eq_ok hg
    rw [Grammar.nonTerminal?, Leading.find?_fill, Option.isSome_map]
    exact NonTerminal.isSome_find?_ofRules.2 hs
  · have hr := halternatives n hn r hr
    obtain ⟨rules, -, -, herror, rfl⟩ := of_build_eq_ok hg
    rw [alternatives, Leading.alternatives_fill] at hr
    obtain ⟨m, hm, q, hq, hclauses⟩ := hr
    rw [Grammar.nonTerminal?, Leading.find?_fill, Option.isSome_map]
    exact NonTerminal.isSome_of_error? herror m (NonTerminal.mem_of_find? hm) q hq a (hclauses ▸ ha)
  · simpa [NonTerminal.mem_leading] using hleading n hn

end Grammar

end Parsing
