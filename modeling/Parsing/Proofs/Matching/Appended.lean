import Parsing.Json.Language
import Parsing.Proofs.Grammar.AddedRule
import Parsing.Proofs.Matching.Depth
import Parsing.Proofs.Matching.Report

/-!
A production more at the end. The attempts of the rules that were there come to what they came to
before, as long as nothing refers to the name of the new rule; so a match of theirs is still the
first one. If the name is the start, the new rule must not lead to names that come back to
themselves: what such a name starts with depends on where the walk enters its cycle.
-/

namespace Parsing

variable {K V : Type} [TokenKind K]

open NonTerminal (rulesOf ofRules addRule)

namespace Grammar

/-- The second grammar has one rule more, behind those of one name. No rule of the first refers to
the name. -/
structure ExtendedBy (g : Grammar K V) (name : String) (g' : Grammar K V) : Prop where
  unreferenced : g.Unreferenced name
  others : ∀ a ≠ name, g.nonTerminal? a = g'.nonTerminal? a
  rules : ∃ q, rulesOf g'.nonTerminals name = rulesOf g.nonTerminals name ++ [q]

section

variable {start name : String} {g g' : Grammar K V} {ts : List (Token K)} {a : String}
  {index index' : Nat} {o o' : Outcome K}

theorem Wins.unique (h : g.Wins ts start index o) (h' : g.Wins ts start index' o') :
    index' = index ∧ o' = o := by
  obtain hlt | rfl | hlt := Nat.lt_trichotomy index index'
  · exact absurd h.isEnded (by simp [h'.first index hlt o h.tries])
  · obtain ⟨_, _, r, hr, -, hmatch⟩ := h.tries
    obtain ⟨_, _, r', hr', -, hmatch'⟩ := h'.tries
    rw [hr] at hr'
    cases hr'
    rw [hmatch] at hmatch'
    exact ⟨rfl, (Except.ok.inj hmatch').symm⟩
  · exact absurd h'.isEnded (by simp [h.first index' hlt o' h'.tries])

theorem Wins.eq_of_parse (hwins : g.Wins (withEndMarker ts) start index o)
    (h : g.parse ts start = .ok o') : o' = o := by
  obtain ⟨index', hwins'⟩ | ⟨-, hended⟩ := parse_eq_ok h
  · exact (hwins.unique hwins').2
  · exact absurd hwins.isEnded (by simp [hended index o hwins.tries])

namespace ExtendedBy

variable (h : g.ExtendedBy name g')
include h

omit [TokenKind K] in
theorem rule? {r : Rule K V} (hr : g.rule? a index = some r) : g'.rule? a index = some r := by
  by_cases ha : a = name
  · subst ha
    obtain ⟨q, hrules⟩ := h.rules
    rw [rule?_eq_getElem?] at hr ⊢
    rw [hrules, List.getElem?_append_left (List.getElem?_eq_some_iff.1 hr).1, hr]
  · rw [Grammar.rule?, ← h.others a ha]
    exact hr

theorem matchRule_iff {r : Rule K V} (hr : g.rule? a index = some r) {i : Nat} :
    g'.matchRule ts a index r i = .ok o ↔ g.matchRule ts a index r i = .ok o := by
  have hdepth (depth : Nat) : r.matchAt ts (g'.call ts depth) a index i =
      r.matchAt ts (g.call ts depth) a index i := by
    refine Rule.matchAt_congr fun b hb =>
      call_eq_of_unreferenced h.others h.unreferenced ts depth ?_
    rintro rfl
    exact h.unreferenced a r.clauses (alternatives_of_rule? hr) hb
  simp only [matchRule_eq_ok, hdepth]

theorem tries_iff {r : Rule K V} (hr : g.rule? a index = some r) :
    g'.Tries ts a index o ↔ g.Tries ts a index o := by
  simp only [Tries, h.rule? hr, hr, Option.some.injEq, exists_eq_left', h.matchRule_iff hr]

theorem wins (hwins : g.Wins ts a index o) : g'.Wins ts a index o := by
  obtain ⟨_, -, r, hr, -⟩ := hwins.tries
  refine ⟨(h.tries_iff hr).2 hwins.tries, hwins.isEnded, fun j hj p hp => ?_⟩
  -- Before a rule that was there, there are no others.
  rw [rule?_eq_getElem?] at hr
  have hbefore : j < (rulesOf g.nonTerminals a).length :=
    hj.trans (List.getElem?_eq_some_iff.1 hr).1
  have hr' := rule?_eq_getElem?.trans (List.getElem?_eq_getElem hbefore)
  exact hwins.first j hj p ((h.tries_iff hr').1 hp)

end ExtendedBy

end

section

variable {start name : String} {ps : List (Production K V)} {q : Production K V} {r : Rule K V}
  {g g' : Grammar K V}

theorem exists_eq_fill_of_build (hg : build start ps = .ok g)
    (hg' : build start (ps ++ [q]) = .ok g') (hq : q.read = .ok (name, r)) :
    ∃ ns, g = ⟨start, Leading.fill ns start⟩ ∧
      g' = ⟨start, Leading.fill (addRule name r ns) start⟩ ∧
      (NonTerminal.find? ns start).isSome = true := by
  obtain ⟨rules, hread, hs, -, rfl⟩ := of_build_eq_ok hg
  obtain ⟨rules', hread', -, -, rfl⟩ := of_build_eq_ok hg'
  have hrules : rules' = rules ++ [(name, r)] := by
    rw [List.mapM_append, hread] at hread'
    simp only [List.mapM_cons, List.mapM_nil, hq, bind, Except.bind, pure, Except.pure] at hread'
    exact (Except.ok.inj hread').symm
  refine ⟨ofRules rules, rfl, ?_, NonTerminal.isSome_find?_ofRules.2 hs⟩
  rw [hrules, NonTerminal.ofRules_concat]

theorem extendedBy_of_fill {ns : List (NonTerminal K V)}
    (hname : ∀ a cs, NonTerminal.alternatives ns a cs → .nonTerminal name ∉ Clause.walkAll cs)
    (hsets : ∀ ref p, Leading.RuleAt ns ref p →
      (Leading.compute (addRule name r ns) start).of ref = (Leading.compute ns start).of ref) :
    ExtendedBy (⟨start, Leading.fill ns start⟩ : Grammar K V) name
      ⟨start, Leading.fill (addRule name r ns) start⟩ where
  unreferenced := by
    rw [Unreferenced, alternatives, Leading.alternatives_fill]
    exact hname
  others a ha := (Leading.find?_fill_addRule_of_ne hsets ha).symm
  rules := Leading.exists_rulesOf_fill_addRule hsets

theorem extendedBy_of_new (hg : build start ps = .ok g) (hg' : build start (ps ++ [q]) = .ok g')
    (hq : q.read = .ok (name, r)) (hnew : g.nonTerminal? name = none) : g.ExtendedBy name g' := by
  have hres := resolved_of_build hg
  obtain ⟨ns, rfl, rfl, hstart⟩ := exists_eq_fill_of_build hg hg' hq
  have hname : ∀ a cs, NonTerminal.alternatives ns a cs →
      .nonTerminal name ∉ Clause.walkAll cs := by
    intro a cs ha hmem
    have hfill : NonTerminal.alternatives (Leading.fill ns start) a cs := by
      rw [Leading.alternatives_fill]
      exact ha
    obtain ⟨n, hn, p, hp, rfl⟩ := hfill
    have hsome := hres.names n (NonTerminal.mem_of_find? hn) p hp name hmem
    rw [hnew] at hsome
    cases hsome
  have hnone : NonTerminal.find? ns name = none := by
    rw [nonTerminal?, Leading.find?_fill, Option.map_eq_none_iff] at hnew
    exact hnew
  have hne : start ≠ name := by
    rintro rfl
    rw [hnone] at hstart
    cases hstart
  exact extendedBy_of_fill hname fun ref p hp =>
    Leading.of_compute_addRule_of_find?_none (.of_unreferenced hname) hnone hne hp

theorem extendedBy_of_start (hg : build start ps = .ok g)
    (hg' : build start (ps ++ [q]) = .ok g') (hq : q.read = .ok (start, r))
    (hname : g'.Unreferenced start)
    (hacyclic : ∀ a, Leading.LeadsBelow g.alternatives (.group r.clauses) a →
      ¬ Relation.TransGen (Leading.LeadsFrom g.alternatives) a a) : g.ExtendedBy start g' := by
  obtain ⟨ns, rfl, rfl, hstart⟩ := exists_eq_fill_of_build hg hg' hq
  obtain ⟨n, hn⟩ := Option.isSome_iff_exists.1 hstart
  simp only [Unreferenced, alternatives, Leading.alternatives_fill] at hname hacyclic
  have hname' : ∀ a cs, NonTerminal.alternatives ns a cs →
      .nonTerminal start ∉ Clause.walkAll cs := by
    rintro a cs ⟨m, hm, p, hp, rfl⟩
    obtain ⟨i, hi⟩ := List.mem_iff_getElem?.1 hp
    have hat : Leading.RuleAt ns (a, i) p := ⟨m, hm, hi⟩
    exact hname a p.clauses hat.addRule.alternatives
  have hself : .nonTerminal start ∉ Clause.walkAll r.clauses :=
    hname start r.clauses ⟨_, NonTerminal.find?_addRule_self, r, by simp, rfl⟩
  exact extendedBy_of_fill hname' fun ref p hp =>
    Leading.of_compute_addRule_of_acyclic (.of_unreferenced hname')
      (fun hleads => hself hleads.mem_walkAll) hacyclic hn hp

end

end Grammar

/-- A production behind all others does not change what is parsed without it. It may begin a new
non-terminal, or be of the start, if nothing refers to the start and no name that the production
leads to comes back to itself. -/
theorem appended_rule_overrides_nothing {start name : String} {ps : List (Production K V)}
    {q : Production K V} {r : Rule K V} {g g' : Grammar K V}
    (hg : Grammar.build start ps = .ok g) (hg' : Grammar.build start (ps ++ [q]) = .ok g')
    (hq : q.read = .ok (name, r))
    (hname : g.nonTerminal? name = none ∨ name = start ∧ g'.Unreferenced start ∧
      ∀ a, Leading.LeadsBelow g.alternatives (.group r.clauses) a →
        ¬ Relation.TransGen (Leading.LeadsFrom g.alternatives) a a)
    {ts : List (Token K)} {tree : Tree K} {stop : Nat} {ended : Bool}
    {errors : List (Unexpected K)} {o : Outcome K}
    (hmatched : g.parse ts start = .ok (.matched tree stop ended errors))
    (ho : g'.parse ts start = .ok o) : o = .matched tree stop ended errors := by
  have hextended : g.ExtendedBy name g' := by
    obtain hnew | ⟨rfl, hstart, hacyclic⟩ := hname
    · exact Grammar.extendedBy_of_new hg hg' hq hnew
    · exact Grammar.extendedBy_of_start hg hg' hq hstart hacyclic
  obtain ⟨index, hwins⟩ | ⟨⟨e, stop, heq⟩, -⟩ := Grammar.parse_eq_ok hmatched
  · exact (hextended.wins hwins).eq_of_parse ho
  · cases heq

namespace Keys

open Json (TokenType)

def answer (n : Nat) : ArgsM TokenType Nat Nat := return n

def productions : List (Production TokenType Nat) := [
  ⟨"entry : NULL key? INT STRING", answer 0, []⟩,
  ⟨"pair : INT? key", answer 1, []⟩,
  ⟨"key : STRING", answer 2, []⟩,
  ⟨"key : pair", answer 3, []⟩,
  ⟨"nothing : NULL", answer 4, []⟩]

def grammar (entries : List (Rule TokenType Nat)) (kinds : List TokenType) :
    Grammar TokenType Nat where
  start := "entry"
  nonTerminals := [
    ⟨"entry", ⟨[.terminal .null, .optional (.nonTerminal "key"), .terminal .int, .terminal .string],
      ⟨[.null]⟩, answer 0, []⟩ :: entries⟩,
    ⟨"pair", [⟨[.optional (.terminal .int), .nonTerminal "key"], ⟨[.int, .string]⟩, answer 1, []⟩]⟩,
    ⟨"key", [⟨[.terminal .string], ⟨[.string]⟩, answer 2, []⟩,
      ⟨[.nonTerminal "pair"], ⟨kinds⟩, answer 3, []⟩]⟩,
    ⟨"nothing", [⟨[.terminal .null], ⟨[.null]⟩, answer 4, []⟩]⟩]

theorem build_productions : Grammar.build "entry" productions = .ok (grammar [] []) :=
  Grammar.build_of_table (grammar [] []) rfl rfl rfl (by decide +kernel) (by decide +kernel)

theorem unreferenced {entries : List (Rule TokenType Nat)} {kinds : List TokenType}
    (h : ∀ r ∈ entries, .nonTerminal "entry" ∉ Clause.walkAll r.clauses) :
    (grammar entries kinds).Unreferenced "entry" :=
  Grammar.unreferenced_of_forall (by simpa [grammar, Clause.walkAll, Clause.walk] using h)

def tokens : List (Token TokenType) :=
  [⟨.null, "null", ⟨0, 0, 0⟩⟩, ⟨.int, "1", ⟨0, 5, 5⟩⟩, ⟨.string, "\"a\"", ⟨0, 7, 7⟩⟩]

def tree : Tree TokenType :=
  .node ⟨"entry", 0, "Null_key?_Int_String", none⟩ [
    .leaf ⟨.null, "null", ⟨0, 0, 0⟩⟩, .absent, .leaf ⟨.int, "1", ⟨0, 5, 5⟩⟩,
    .leaf ⟨.string, "\"a\"", ⟨0, 7, 7⟩⟩]

theorem parse_tokens : (grammar [] []).parse tokens "entry" = .ok (.matched tree 3 true []) := by
  rfl

def emptyEntry : Production TokenType Nat := ⟨"entry : nothing INT STRING", answer 5, []⟩

def emptyRule : Rule TokenType Nat :=
  ⟨[.nonTerminal "nothing", .terminal .int, .terminal .string], ⟨[.null]⟩, answer 5, []⟩

theorem build_emptyEntry :
    Grammar.build "entry" (productions ++ [emptyEntry]) = .ok (grammar [emptyRule] []) :=
  Grammar.build_of_table (grammar [emptyRule] []) rfl rfl rfl (by decide +kernel)
    (by decide +kernel)

theorem not_leadsFrom_nothing (a : String) :
    ¬ Leading.LeadsFrom (grammar [] []).alternatives "nothing" a := by
  rintro ⟨_, ⟨n, hn, r, hr, rfl⟩, ha⟩
  cases hn
  cases List.mem_singleton.1 hr
  simp at ha

theorem acyclic_below_emptyRule (a : String)
    (ha : Leading.LeadsBelow (grammar [] []).alternatives (.group emptyRule.clauses) a) :
    ¬ Relation.TransGen (Leading.LeadsFrom (grammar [] []).alternatives) a a := by
  obtain ⟨b, hb, hba⟩ := ha
  obtain rfl : b = "nothing" := by simpa [emptyRule] using hb
  obtain rfl | ⟨c, hc, -⟩ := hba.cases_head
  · intro hcycle
    obtain ⟨c, hc, -⟩ := Relation.TransGen.head'_iff.1 hcycle
    exact not_leadsFrom_nothing c hc
  · exact absurd hc (not_leadsFrom_nothing c)

theorem first_entry_is_kept :
    Grammar.build "entry" productions = .ok (grammar [] []) ∧
      Grammar.build "entry" (productions ++ [emptyEntry]) = .ok (grammar [emptyRule] []) ∧
      (grammar [] []).parse tokens "entry" = .ok (.matched tree 3 true []) ∧
      (∃ tree', (grammar [emptyRule] []).matchRule (Grammar.withEndMarker tokens) "entry" 1
        emptyRule 0 = .ok (.matched tree' 3 true [])) ∧
      (grammar [emptyRule] []).parse tokens "entry" = .ok (.matched tree 3 true []) := by
  obtain ⟨o, ho⟩ : ∃ o, (grammar [emptyRule] []).parse tokens "entry" = .ok o := ⟨_, rfl⟩
  have hname : (grammar [emptyRule] []).Unreferenced "entry" := by
    refine unreferenced fun r hr => ?_
    cases List.mem_singleton.1 hr
    simp [emptyRule, Clause.walkAll, Clause.walk]
  have heq := appended_rule_overrides_nothing build_productions build_emptyEntry rfl
    (.inr ⟨rfl, hname, acyclic_below_emptyRule⟩) parse_tokens ho
  exact ⟨build_productions, build_emptyEntry, parse_tokens, ⟨_, rfl⟩, heq ▸ ho⟩

def keyEntry : Production TokenType Nat := ⟨"entry : key", answer 5, []⟩

def keyRule : Rule TokenType Nat := ⟨[.nonTerminal "key"], ⟨[.string, .int]⟩, answer 5, []⟩

/-- The new rule leads to `key`, which comes back to itself. It makes the walk come to `key` before
`pair`, so that a key may start with an integer, and the first rule takes the rest for a key. -/
theorem key_takes_the_rest :
    Grammar.build "entry" productions = .ok (grammar [] []) ∧
      Grammar.build "entry" (productions ++ [keyEntry]) = .ok (grammar [keyRule] [.int, .string]) ∧
      (∃ r, keyEntry.read = .ok ("entry", r)) ∧
      (grammar [keyRule] [.int, .string]).Unreferenced "entry" ∧
      (grammar [] []).parse tokens "entry" = .ok (.matched tree 3 true []) ∧
      ∃ e, (grammar [keyRule] [.int, .string]).parse tokens "entry" = .ok (.failed [e] 3) := by
  have hname : (grammar [keyRule] [.int, .string]).Unreferenced "entry" := by
    refine unreferenced fun r hr => ?_
    cases List.mem_singleton.1 hr
    simp [keyRule, Clause.walkAll, Clause.walk]
  have hbuild :
      Grammar.build "entry" (productions ++ [keyEntry]) = .ok (grammar [keyRule] [.int, .string]) :=
    Grammar.build_of_table (grammar [keyRule] [.int, .string]) rfl rfl rfl (by decide +kernel)
      (by decide +kernel)
  have hsort : Unexpected.sort [.nothingExpected (Token.endAt ⟨0, 10, 10⟩),
      .expectedOne (Token.endAt ⟨0, 10, 10⟩) TokenType.int] = _ :=
    List.mergeSort_of_pairwise (by decide +kernel)
  have hparse : (grammar [keyRule] [.int, .string]).parse tokens "entry" =
      .ok (.failed [.expectedOne (Token.endAt ⟨0, 10, 10⟩) .int] 3) := by
    exact congrArg (fun es => Except.ok (Outcome.failed es.getLast?.toList 3)) hsort
  exact ⟨build_productions, hbuild, ⟨_, rfl⟩, hname, parse_tokens, ⟨_, hparse⟩⟩

end Keys

end Parsing
