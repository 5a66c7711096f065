import Parsing.Proofs.Grammar.Faithful

namespace Parsing

variable {K V : Type} [TokenKind K]

def Production.rule? (p : Production K V) : Option (String × Rule K V) := p.read.toOption

def Production.name? (p : Production K V) : Option String := p.rule?.map (·.1)

structure Reordered (name : String) (ps ps' : List (Production K V)) : Prop where
  perm : ps.Perm ps'
  others : ∀ a ≠ name, ps.filter (·.name? = some a) = ps'.filter (·.name? = some a)

namespace Production

variable {ps ps' : List (Production K V)} {rules : List (String × Rule K V)} {name a : String}

theorem mapM_read_eq_ok : ps.mapM read = .ok rules ↔
    (∀ p ∈ ps, p.rule?.isSome = true) ∧ rules = ps.filterMap rule? := by
  induction ps generalizing rules with
  | nil =>
    rw [List.mapM_nil, Except.pure_eq_ok]
    exact ⟨fun h => ⟨by simp, h.symm⟩, fun h => h.2.symm⟩
  | cons p ps ih =>
    rw [List.mapM_cons, List.forall_mem_cons]
    cases hp : p.read with
    | error e => simp [rule?, hp, bind, Except.bind, Except.toOption]
    | ok q =>
      have hrule : p.rule? = some q := by rw [rule?, hp]; rfl
      simp only [hrule, List.filterMap_cons, Except.bind_eq_ok, Except.pure_eq_ok, Except.ok.injEq,
        exists_eq_left', ih, Option.isSome_some, true_and]
      exact ⟨fun ⟨_, ⟨h, rfl⟩, heq⟩ => ⟨h, heq.symm⟩, fun ⟨h, heq⟩ => ⟨_, ⟨h, rfl⟩, heq.symm⟩⟩

theorem filter_filterMap_rule? :
    (ps.filterMap rule?).filter (·.1 = a) = (ps.filter (·.name? = some a)).filterMap rule? := by
  rw [List.filter_filterMap, List.filterMap_filter]
  apply List.filterMap_congr
  intro p _
  cases hp : p.rule? with
  | none => simp [name?, hp]
  | some q => simp [name?, hp, Option.filter]

end Production

theorem Reordered.read {name : String} {ps ps' : List (Production K V)} (h : Reordered name ps ps')
    {rules : List (String × Rule K V)} (hr : ps.mapM Production.read = .ok rules) :
    ∃ rules', ps'.mapM Production.read = .ok rules' ∧ rules.Perm rules' ∧
      ∀ a ≠ name, rules.filter (·.1 = a) = rules'.filter (·.1 = a) := by
  obtain ⟨hall, rfl⟩ := Production.mapM_read_eq_ok.1 hr
  refine ⟨_, Production.mapM_read_eq_ok.2 ⟨fun p hp => hall p (h.perm.mem_iff.2 hp), rfl⟩,
    h.perm.filterMap _, fun a ha => ?_⟩
  rw [Production.filter_filterMap_rule?, Production.filter_filterMap_rule?, h.others a ha]

namespace NonTerminal

variable {ns ns' : List (NonTerminal K V)} {rules rules' : List (String × Rule K V)}

omit [TokenKind K] in
theorem alternatives_ofRules {a : String} {cs : List (Clause K)} :
    alternatives (ofRules rules) a cs ↔ ∃ r, (a, r) ∈ rules ∧ r.clauses = cs := by
  constructor
  · rintro ⟨n, hn, r, hr, rfl⟩
    exact ⟨r, mem_ofRules.1 ⟨n, mem_of_find? hn, name_of_find? hn, hr⟩, rfl⟩
  · rintro ⟨r, hr, rfl⟩
    obtain ⟨n, hn, hname, hr⟩ := mem_ofRules.2 hr
    exact ⟨n, (find?_eq_some_of_nodup (nodup_names_ofRules rules)).2 ⟨hn, hname⟩, r, hr, rfl⟩

omit [TokenKind K] in
theorem find?_ofRules {a : String} :
    find? (ofRules rules) a =
      if rulesOf (ofRules rules) a = [] then none else some ⟨a, rulesOf (ofRules rules) a⟩ := by
  cases hn : find? (ofRules rules) a with
  | none => simp [rulesOf, hn]
  | some n =>
    have hne : n.rules ≠ [] := rules_ne_nil_of_mem_addRules (by simp) n (mem_of_find? hn)
    have hname := name_of_find? hn
    subst hname
    simp [rulesOf, hn, hne]

theorem ruleError?_congr (h : ∀ a, (find? ns a).isSome = (find? ns' a).isSome) {name : String}
    {r : Rule K V} : ruleError? ns name r = ruleError? ns' name r := by
  have hclause : clauseError? ns name r = clauseError? ns' name r := by
    funext c
    cases c <;> simp only [clauseError?]
    next a => rw [← Option.not_isSome, ← Option.not_isSome, h]
  rw [ruleError?, ruleError?, hclause]

theorem error?_ofRules : error? (ofRules rules) = none ↔
    ∀ a r, (a, r) ∈ rules → ruleError? (ofRules rules) a r = none := by
  simp only [error?, List.findSome?_eq_none_iff]
  constructor
  · intro h a r hr
    obtain ⟨n, hn, rfl, hmem⟩ := mem_ofRules.2 hr
    exact h n hn r hmem
  · exact fun h n hn r hr => h n.name r (mem_ofRules.1 ⟨n, hn, rfl, hr⟩)

section

variable (h : rules.Perm rules')
include h

omit [TokenKind K] in
theorem isSome_find?_of_perm (a : String) :
    (find? (ofRules rules) a).isSome = (find? (ofRules rules') a).isSome := by
  rw [Bool.eq_iff_iff]
  simp only [isSome_find?_ofRules, h.mem_iff]

omit [TokenKind K] in
theorem alternatives_of_perm : alternatives (ofRules rules) = alternatives (ofRules rules') := by
  funext a cs
  simp only [alternatives_ofRules, h.mem_iff]

theorem error?_of_perm (herror : error? (ofRules rules) = none) :
    error? (ofRules rules') = none := by
  rw [error?_ofRules] at herror ⊢
  intro a r hr
  rw [← ruleError?_congr (isSome_find?_of_perm h)]
  exact herror a r (h.mem_iff.2 hr)

omit [TokenKind K] in
theorem length_ofRules_of_perm : (ofRules rules).length = (ofRules rules').length := by
  have hnames : ((ofRules rules).map (·.name)).Perm ((ofRules rules').map (·.name)) := by
    rw [List.perm_ext_iff_of_nodup (nodup_names_ofRules rules) (nodup_names_ofRules rules')]
    intro a
    have hsome := isSome_find?_of_perm h a
    rw [Bool.eq_iff_iff, isSome_find?, isSome_find?] at hsome
    simpa [List.mem_map] using hsome
  simpa using hnames.length_eq

end

end NonTerminal

namespace Leading

open NonTerminal (find? rulesOf alternatives ofRules)

variable {ns : List (NonTerminal K V)} {F : String → LeadingTokens K}

def fillBy (F : String → LeadingTokens K) (r : Rule K V) : Rule K V :=
  { r with leading := Clause.leadingAllBy F r.clauses }

theorem find?_fill_of_solves
    (hacyclic : ∀ a, ¬ Relation.TransGen (LeadsFrom (alternatives ns)) a a) (hF : Solves ns F)
    (start name : String) :
    find? (fill ns start) name = (find? ns name).map fun n => ⟨n.name, n.rules.map (fillBy F)⟩ := by
  rw [find?_fill]
  cases hn : find? ns name with
  | none => rfl
  | some n =>
    have hname := NonTerminal.name_of_find? hn
    have hsets : (List.range n.rules.length).map (fun i => (compute ns start).of (n.name, i)) =
        n.rules.map fun r => Clause.leadingAllBy F r.clauses :=
      map_range_eq_map fun i r hr => of_compute hacyclic hF ⟨n, hname ▸ hn, hr⟩
    rw [Option.map_some, Option.map_some, hsets, fillRules, List.zipWith_map_right,
      List.zipWith_self]
    rfl

theorem rulesOf_fill_of_solves
    (hacyclic : ∀ a, ¬ Relation.TransGen (LeadsFrom (alternatives ns)) a a) (hF : Solves ns F)
    (start name : String) : rulesOf (fill ns start) name = (rulesOf ns name).map (fillBy F) := by
  rw [rulesOf, find?_fill_of_solves hacyclic hF, rulesOf]
  cases find? ns name <;> rfl

theorem fillBy_congr {name : String} {F' : String → LeadingTokens K}
    (hF : ∀ a ≠ name, F' a = F a) {r : Rule K V}
    (hr : .nonTerminal name ∉ Clause.walkAll r.clauses) : fillBy F r = fillBy F' r := by
  have hleading : Clause.leadingAllBy F r.clauses = Clause.leadingAllBy F' r.clauses := by
    refine Clause.leadingBy_congr (c := .group r.clauses) fun a ha => (hF a ?_).symm
    rintro rfl
    exact hr ha.mem_walkAll
  rw [fillBy, fillBy, hleading]

theorem Solves.reordered {rules rules' : List (String × Rule K V)} {name : String}
    (hF : Solves (ofRules rules) F)
    (hfind : ∀ a ≠ name, find? (ofRules rules) a = find? (ofRules rules') a)
    (hname : ∀ a cs, alternatives (ofRules rules') a cs → .nonTerminal name ∉ Clause.walkAll cs) :
    ∃ F', Solves (ofRules rules') F' ∧ ∀ a ≠ name, F' a = F a := by
  let F' := Function.update F name ((find? (ofRules rules') name).elim .empty (ofRulesBy F))
  have hother (a : String) (ha : a ≠ name) : F' a = F a := Function.update_of_ne ha _ _
  have hrules (a : String) : (find? (ofRules rules') a).elim .empty (ofRulesBy F') =
      (find? (ofRules rules') a).elim .empty (ofRulesBy F) := by
    cases hn : find? (ofRules rules') a with
    | none => rfl
    | some n =>
      refine ofRulesBy_congr fun r hr b hb => hother b ?_
      rintro rfl
      exact hname a r.clauses ⟨n, hn, r, hr, rfl⟩ hb.mem_walkAll
  refine ⟨F', fun a => ?_, hother⟩
  rw [hrules]
  by_cases ha : a = name
  · subst ha
    exact Function.update_self _ _ _
  · rw [hother a ha, hF a, hfind a ha]

end Leading

namespace Grammar

open NonTerminal (ofRules rulesOf find?)

def Unreferenced (g : Grammar K V) (name : String) : Prop :=
  ∀ a cs, g.alternatives a cs → .nonTerminal name ∉ Clause.walkAll cs

omit [TokenKind K] in
theorem unreferenced_of_forall {g : Grammar K V} {name : String}
    (h : ∀ n ∈ g.nonTerminals, ∀ r ∈ n.rules, .nonTerminal name ∉ Clause.walkAll r.clauses) :
    g.Unreferenced name := by
  rintro a cs ⟨n, hn, r, hr, rfl⟩
  exact h n (NonTerminal.mem_of_find? hn) r hr

structure SameBut (name : String) (g g' : Grammar K V) : Prop where
  others : ∀ a ≠ name, g.nonTerminal? a = g'.nonTerminal? a
  rules : (rulesOf g.nonTerminals name).Perm (rulesOf g'.nonTerminals name)
  size : g.size = g'.size
  alternatives : g.alternatives = g'.alternatives

omit [TokenKind K] in
theorem SameBut.symm {name : String} {g g' : Grammar K V} (h : SameBut name g g') :
    SameBut name g' g :=
  ⟨fun a ha => (h.others a ha).symm, h.rules.symm, h.size.symm, h.alternatives.symm⟩

variable {start name : String} {ps ps' : List (Production K V)} {g : Grammar K V}

theorem build_of_reordered (hg : build start ps = .ok g) (hl : NoLeftRecursion g.alternatives)
    (hname : g.Unreferenced name) (h : Reordered name ps ps') :
    ∃ g', build start ps' = .ok g' ∧ SameBut name g g' := by
  obtain ⟨rules, hread, ⟨r, hr⟩, herror, rfl⟩ := of_build_eq_ok hg
  obtain ⟨rules', hread', hperm, hothers⟩ := h.read hread
  have hfind (a : String) (ha : a ≠ name) :
      find? (ofRules rules) a = find? (ofRules rules') a := by
    rw [NonTerminal.find?_ofRules, NonTerminal.find?_ofRules, NonTerminal.rulesOf_ofRules,
      NonTerminal.rulesOf_ofRules, hothers a ha]
  have halternatives := NonTerminal.alternatives_of_perm hperm
  refine ⟨⟨start, Leading.fill (ofRules rules') start⟩, ?_, ?_⟩
  · rw [build_of_read hread' ⟨r, hperm.mem_iff.1 hr⟩, NonTerminal.error?_of_perm hperm herror]
  rw [alternatives, Leading.alternatives_fill] at hl
  simp only [Unreferenced, alternatives, Leading.alternatives_fill] at hname
  have hacyclic := Leading.acyclic_of_noLeftRecursion hl
  obtain ⟨F, hF⟩ := Leading.exists_solves hacyclic
  obtain ⟨F', hF', hother⟩ := hF.reordered hfind (halternatives ▸ hname)
  have hfillBy (a : String) : (rulesOf (ofRules rules') a).map (Leading.fillBy F) =
      (rulesOf (ofRules rules') a).map (Leading.fillBy F') := by
    refine List.map_congr_left fun q hq => Leading.fillBy_congr hother ?_
    rw [NonTerminal.rulesOf_ofRules, List.mem_map] at hq
    obtain ⟨⟨b, q⟩, hq, rfl⟩ := hq
    exact hname b q.clauses (NonTerminal.alternatives_ofRules.2
      ⟨q, hperm.mem_iff.2 (List.mem_filter.1 hq).1, rfl⟩)
  refine ⟨fun a ha => ?_, ?_, ?_, ?_⟩
  · rw [nonTerminal?, nonTerminal?, Leading.find?_fill_of_solves hacyclic hF,
      Leading.find?_fill_of_solves (halternatives ▸ hacyclic) hF', hfind a ha,
      NonTerminal.find?_ofRules]
    split
    · rfl
    · rw [Option.map_some, Option.map_some, hfillBy]
  · rw [Leading.rulesOf_fill_of_solves hacyclic hF,
      Leading.rulesOf_fill_of_solves (halternatives ▸ hacyclic) hF', ← hfillBy,
      NonTerminal.rulesOf_ofRules, NonTerminal.rulesOf_ofRules]
    exact ((hperm.filter _).map _).map _
  · simpa [size, Leading.fill_eq] using NonTerminal.length_ofRules_of_perm hperm
  · rw [alternatives, alternatives, Leading.alternatives_fill, Leading.alternatives_fill,
      halternatives]

end Grammar

end Parsing
