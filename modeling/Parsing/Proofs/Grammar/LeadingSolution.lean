import Parsing.Json.Language
import Parsing.Proofs.Grammar.LeadingSets
import Parsing.Proofs.Grammar.WalkPairs

namespace Parsing

variable {K V : Type} [TokenKind K]

namespace Leading

open NonTerminal (find? alternatives ofRules)

omit [TokenKind K] in
theorem alternatives_eq_of_find? {ns ns' : List (NonTerminal K V)} (h : find? ns = find? ns') :
    alternatives ns = alternatives ns' := by
  funext name cs
  rw [NonTerminal.alternatives, NonTerminal.alternatives, h]

omit [TokenKind K] in
theorem RuleAt.of_mem {ns : List (NonTerminal K V)} (hns : (ns.map (·.name)).Nodup)
    {n : NonTerminal K V} (hn : n ∈ ns) {i : Nat} {r : Rule K V} (hr : n.rules[i]? = some r) :
    RuleAt ns (n.name, i) r :=
  ⟨n, (NonTerminal.find?_eq_some_of_nodup hns).2 ⟨hn, rfl⟩, hr⟩

theorem table_eq {ns : List (NonTerminal K V)} (hns : (ns.map (·.name)).Nodup)
    (hacyclic : ∀ a, ¬ Relation.TransGen (LeadsFrom (alternatives ns)) a a)
    {F : String → LeadingTokens K} (hF : Solves ns F) (start : String) :
    table ns start = ns.map fun n => n.rules.map fun r => Clause.leadingAllBy F r.clauses := by
  apply List.map_congr_left
  intro n hn
  apply map_range_eq_map
  intro i r hr
  exact of_compute hacyclic hF (.of_mem hns hn hr)

theorem Solves.mem_iff_begins {ns : List (NonTerminal K V)}
    (hacyclic : ∀ a, ¬ Relation.TransGen (LeadsFrom (alternatives ns)) a a)
    {F : String → LeadingTokens K} (hF : Solves ns F) {n : NonTerminal K V} {name : String}
    (hn : find? ns name = some n) {r : Rule K V} (hr : r ∈ n.rules) {k : K} :
    k ∈ (Clause.leadingAllBy F r.clauses).toList ↔
      Begins (alternatives ns) (.group r.clauses) k := by
  obtain ⟨i, hi⟩ := List.mem_iff_getElem?.1 hr
  have hat : RuleAt ns (name, i) r := ⟨n, hn, hi⟩
  obtain ⟨s, -, hs, hadmissible⟩ := entries_compute hat name
  refine ⟨fun hk => hadmissible.begins k ?_, hF.equations.of_begins⟩
  rw [← hs, of_compute hacyclic hF hat]
  exact hk

/-- The sets of all rules come from one visit of each, which never comes to the bound on its depth,
and hold nothing that is not in the least solution of the leading equations. If no non-terminal
comes back to itself through leading positions, they are what the one solution gives, in its order.
The rules need not have passed any check. -/
theorem table_solves_equations {rules : List (String × Rule K V)} {ns : List (NonTerminal K V)}
    (hns : ns.Perm (ofRules rules)) (start : String) :
    (∀ d, depth ns ≤ d → nonTerminal ns d = nonTerminal ns (depth ns)) ∧
      (∀ n ∈ ns, ∀ i r, n.rules[i]? = some r → ∃ s,
        (compute ns start).entries (n.name, i) = [((n.name, i), s), ((n.name, i), .empty)] ∧
          (compute ns start).of (n.name, i) = s ∧
          Admissible (alternatives (ofRules rules)) (.group r.clauses) s) ∧
      IsLeast {S | LeadingEquations (alternatives (ofRules rules)) S}
        (Begins (alternatives (ofRules rules))) ∧
      ((∀ a, ¬ Relation.TransGen (LeadsFrom (alternatives (ofRules rules))) a a) →
        ∃ F, Solves (ofRules rules) F ∧ (∀ F', Solves (ofRules rules) F' → F' = F) ∧
          table ns start =
            ns.map (fun n => n.rules.map fun r => Clause.leadingAllBy F r.clauses) ∧
          ∀ n ∈ ns, ∀ r ∈ n.rules, ∀ k, k ∈ (Clause.leadingAllBy F r.clauses).toList ↔
            Begins (alternatives (ofRules rules)) (.group r.clauses) k) := by
  have hfind := NonTerminal.find?_eq_of_perm hns (NonTerminal.nodup_names_ofRules rules)
  have hnames := (hns.map _).nodup_iff.2 (NonTerminal.nodup_names_ofRules rules)
  rw [← alternatives_eq_of_find? hfind]
  refine ⟨fun d => nonTerminal_eq_of_depth_le, ?_, Begins.isLeast _, fun hacyclic => ?_⟩
  · intro n hn i r hr
    exact entries_compute (.of_mem hnames hn hr) start
  · obtain ⟨F, hF⟩ := exists_solves hacyclic
    have hF' : Solves (ofRules rules) F := by
      rw [Solves, ← hfind]
      exact hF
    refine ⟨F, hF', fun F' h => ?_, table_eq hnames hacyclic hF start, fun n hn r hr k => ?_⟩
    · rw [Solves, ← hfind] at h
      exact hF.unique hacyclic h
    · exact hF.mem_iff_begins hacyclic ((NonTerminal.find?_eq_some_of_nodup hnames).2 ⟨hn, rfl⟩) hr

namespace Entries

open Json (TokenType)

def rules : List (String × Rule TokenType Nat) := [
  ("entry", ⟨[.group [.optional (.terminal .comma), .zeroOrMore (.nonTerminal "value")],
    .terminal .colon], .empty, ArgsM.value 0, []⟩),
  ("value", ⟨[.terminal .int], .empty, ArgsM.value 0, []⟩),
  ("value", ⟨[.optional (.terminal .null), .terminal .comma], .empty, ArgsM.value 0, []⟩)]

theorem leadsFrom_cases {a b : String} (h : LeadsFrom (alternatives (ofRules rules)) a b) :
    a = "entry" ∧ b = "value" := by
  obtain ⟨_, ⟨n, hn, r, hr, rfl⟩, h⟩ := h
  have hmem := NonTerminal.mem_ofRules.1 ⟨n, NonTerminal.mem_of_find? hn,
    NonTerminal.name_of_find? hn, hr⟩
  simp only [rules, List.mem_cons, Prod.mk.injEq, List.not_mem_nil, or_false] at hmem
  obtain ⟨rfl, rfl⟩ | ⟨rfl, rfl⟩ | ⟨rfl, rfl⟩ := hmem
  · exact ⟨rfl, by simpa [Clause.isOptional] using h⟩
  · simp at h
  · simp at h

theorem acyclic (a : String) :
    ¬ Relation.TransGen (LeadsFrom (alternatives (ofRules rules))) a a := by
  refine not_transGen_self_of_lt (fun a => if a = "entry" then 1 else 0) (fun a b h => ?_) a
  obtain ⟨rfl, rfl⟩ := leadsFrom_cases h
  decide

theorem table_reverse_solves :
    (ofRules rules).reverse.Perm (ofRules rules) ∧
      (∀ a, ¬ Relation.TransGen (LeadsFrom (alternatives (ofRules rules))) a a) ∧
      ∃ F, Solves (ofRules rules) F ∧ (∀ F', Solves (ofRules rules) F' → F' = F) ∧
        table (ofRules rules).reverse "value" =
          (ofRules rules).reverse.map
            (fun n => n.rules.map fun r => Clause.leadingAllBy F r.clauses) := by
  have hperm := List.reverse_perm (ofRules rules)
  obtain ⟨-, -, -, hsolved⟩ := table_solves_equations hperm "value"
  obtain ⟨F, hF, hunique, htable, -⟩ := hsolved acyclic
  exact ⟨hperm, acyclic, F, hF, hunique, htable⟩

example : table (ofRules rules).reverse "value" =
    [[⟨[.int]⟩, ⟨[.null, .comma]⟩], [⟨[.comma, .int, .null, .colon]⟩]] := by
  decide +kernel

end Entries

end Leading

end Parsing
