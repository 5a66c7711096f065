import Parsing.Proofs.Grammar.Build
import Parsing.Json.Language

namespace Parsing

variable {K V : Type}

/-- The leading positions that are looked at when rules are checked: behind optional clauses of the
rule itself, and in a group only at its first clause. -/
inductive LeadsFlat : List (Clause K) → String → Prop
  | head {c : Clause K} {cs : List (Clause K)} {name : String} :
    LeadsTo (fun _ => False) c name → LeadsFlat (c :: cs) name
  | tail {c : Clause K} {cs : List (Clause K)} {name : String} :
    c.isOptional = true → LeadsFlat cs name → LeadsFlat (c :: cs) name

theorem LeadsFlat.leads {cs : List (Clause K)} {name : String} (h : LeadsFlat cs name) :
    Leads (.group cs) name := by
  induction h with
  | head hc => exact .group_head (hc.mono fun _ => False.elim)
  | tail hc _ ih => exact .group_tail hc ih

namespace Clause

theorem leftmost?_eq_some {c : Clause K} {name : String} :
    c.leftmost? = some name ↔ LeadsTo (fun _ => False) c name := by
  constructor
  · intro h
    induction c using Clause.induction with
    | terminal k => simp [leftmost?] at h
    | nonTerminal a =>
      simp only [leftmost?, Option.some.injEq] at h
      subst h
      exact .nonTerminal
    | zeroOrMore c ih => exact .zeroOrMore (ih h)
    | oneOrMore c ih => exact .oneOrMore (ih h)
    | optional c ih => exact .optional (ih h)
    | group cs ih =>
      cases cs with
      | nil => simp [leftmost?] at h
      | cons c cs => exact .group_head (ih c (by simp) h)
  · intro h
    induction h with
    | nonTerminal => rfl
    | zeroOrMore _ ih => exact ih
    | oneOrMore _ ih => exact ih
    | optional _ ih => exact ih
    | group_head _ ih => exact ih
    | group_tail hc => exact hc.elim

theorem startsWith_eq_true {cs : List (Clause K)} {name : String} :
    startsWith name cs = true ↔ LeadsFlat cs name := by
  induction cs with
  | nil => exact ⟨fun h => by simp [startsWith] at h, nofun⟩
  | cons c cs ih =>
    simp only [startsWith, Bool.or_eq_true, Bool.and_eq_true, decide_eq_true_eq, ih,
      leftmost?_eq_some]
    constructor
    · rintro (h | ⟨hc, h⟩)
      · exact .head h
      · exact .tail hc h
    · rintro (h | ⟨hc, h⟩)
      · exact .inl h
      · exact .inr ⟨hc, h⟩

end Clause

variable [TokenKind K]

structure Closed (start : String) (rules : List (String × Rule K V)) : Prop where
  start_defined : ∃ r, (start, r) ∈ rules
  names_defined : ∀ p ∈ rules, ∀ name, .nonTerminal name ∈ Clause.walkAll p.2.clauses →
    ∃ r, (name, r) ∈ rules
  no_endMarker : ∀ p ∈ rules, .terminal TokenKind.endMarker ∉ Clause.walkAll p.2.clauses

namespace Closed

open NonTerminal

variable {start : String} {ps : List (Production K V)} {rules : List (String × Rule K V)}

theorem clauseError?_eq_none (hc : Closed start rules) {name : String} {r : Rule K V}
    (hr : (name, r) ∈ rules) {c : Clause K} (h : c ∈ Clause.walkAll r.clauses) :
    clauseError? (ofRules rules) name r c = none := by
  cases c with
  | terminal k =>
    have hk : k ≠ TokenKind.endMarker := by
      rintro rfl
      exact hc.no_endMarker _ hr h
    simp [clauseError?, hk]
  | nonTerminal a =>
    have ha := isSome_find?_ofRules.2 (hc.names_defined _ hr a h)
    simp [clauseError?, Option.isSome_iff_ne_none.1 ha]
  | _ => rfl

theorem ruleError?_eq (hc : Closed start rules) {name : String} {r : Rule K V}
    (hr : (name, r) ∈ rules) :
    ruleError? (ofRules rules) name r =
      if Clause.startsWith name r.clauses then some (.leftRecursion name) else none := by
  rw [ruleError?, List.findSome?_eq_none_iff.2 fun c => hc.clauseError?_eq_none hr, Option.none_or]

theorem exists_of_error? (hc : Closed start rules) {e : GrammarError}
    (h : error? (ofRules rules) = some e) :
    ∃ p ∈ rules, e = .leftRecursion p.1 ∧ LeadsFlat p.2.clauses p.1 := by
  obtain ⟨n, hn, h⟩ := List.exists_of_findSome?_eq_some h
  obtain ⟨r, hr, h⟩ := List.exists_of_findSome?_eq_some h
  have hp : (n.name, r) ∈ rules := mem_ofRules.1 ⟨n, hn, rfl, hr⟩
  rw [hc.ruleError?_eq hp] at h
  split at h
  · next hs =>
    cases h
    exact ⟨_, hp, rfl, Clause.startsWith_eq_true.1 hs⟩
  · cases h

theorem error?_ne_none (hc : Closed start rules) {p : String × Rule K V} (hp : p ∈ rules)
    (h : LeadsFlat p.2.clauses p.1) : error? (ofRules rules) ≠ none := by
  intro he
  obtain ⟨n, hn, hname, hr⟩ := mem_ofRules.2 hp
  have hrule := List.findSome?_eq_none_iff.1 (List.findSome?_eq_none_iff.1 he n hn) _ hr
  rw [hname, hc.ruleError?_eq hp, if_pos (Clause.startsWith_eq_true.2 h)] at hrule
  cases hrule

theorem build_eq_leftRecursion (hc : Closed start rules)
    (hr : ps.mapM Production.read = .ok rules) :
    (∃ name, Grammar.build start ps = .error (.leftRecursion name)) ↔
      ∃ p ∈ rules, LeadsFlat p.2.clauses p.1 := by
  rw [Grammar.build_of_read hr hc.start_defined]
  constructor
  · rintro ⟨name, h⟩
    cases he : error? (ofRules rules) with
    | none => simp [he] at h
    | some e =>
      obtain ⟨p, hp, -, hl⟩ := hc.exists_of_error? he
      exact ⟨p, hp, hl⟩
  · rintro ⟨p, hp, hl⟩
    obtain ⟨e, he⟩ := Option.ne_none_iff_exists'.1 (hc.error?_ne_none hp hl)
    obtain ⟨q, -, rfl, -⟩ := hc.exists_of_error? he
    exact ⟨q.1, by rw [he]⟩

end Closed

/-- Building fails for left recursion just when some rule has its own non-terminal at a leading
position that is looked at. That is the same as having it at any leading position unless all rules
that have it there have it in a group, behind other clauses of the group. -/
theorem build_eq_leftRecursion_iff {start : String} {ps : List (Production K V)}
    {rules : List (String × Rule K V)} (hr : ps.mapM Production.read = .ok rules)
    (hc : Closed start rules) :
    ((∃ name, Grammar.build start ps = .error (.leftRecursion name)) ↔
        ∃ p ∈ rules, LeadsFlat p.2.clauses p.1) ∧
      (((∃ name, Grammar.build start ps = .error (.leftRecursion name)) ↔
          ∃ p ∈ rules, Leads (.group p.2.clauses) p.1) ↔
        ((∃ p ∈ rules, Leads (.group p.2.clauses) p.1) →
          ∃ p ∈ rules, LeadsFlat p.2.clauses p.1)) := by
  have hbuild := hc.build_eq_leftRecursion hr
  have hleads : (∃ p ∈ rules, LeadsFlat p.2.clauses p.1) →
      ∃ p ∈ rules, Leads (.group p.2.clauses) p.1 :=
    fun ⟨p, hp, h⟩ => ⟨p, hp, h.leads⟩
  refine ⟨hbuild, ?_⟩
  rw [hbuild]
  exact ⟨fun h => h.2, fun h => ⟨hleads, h⟩⟩

open Json (TokenType)

def hiddenProductions : List (Production TokenType Nat) := [
  ⟨"list : (COMMA? list) INT", ArgsM.value 0, []⟩,
  ⟨"list : NULL", ArgsM.value 0, []⟩]

def hiddenRules : List (String × Rule TokenType Nat) := [
  ("list", ⟨[.group [.optional (.terminal .comma), .nonTerminal "list"], .terminal .int], .empty,
    ArgsM.value 0, []⟩),
  ("list", ⟨[.terminal .null], .empty, ArgsM.value 0, []⟩)]

theorem read_hiddenProductions : hiddenProductions.mapM Production.read = .ok hiddenRules := by rfl

theorem closed_hiddenRules : Closed "list" hiddenRules where
  start_defined := ⟨_, .head _⟩
  names_defined := by simp [hiddenRules, Clause.walkAll, Clause.walk]
  no_endMarker := by simp [hiddenRules, Clause.walkAll, Clause.walk, TokenKind.endMarker]

theorem leads_hiddenRules : ∃ p ∈ hiddenRules, Leads (.group p.2.clauses) p.1 :=
  ⟨_, .head _, .group_head (.group_tail rfl (.group_head .nonTerminal))⟩

def hiddenGrammar : Grammar TokenType Nat where
  start := "list"
  nonTerminals := [⟨"list", [
    ⟨[.group [.optional (.terminal .comma), .nonTerminal "list"], .terminal .int],
      ⟨[.comma, .null]⟩, ArgsM.value 0, []⟩,
    ⟨[.terminal .null], ⟨[.null]⟩, ArgsM.value 0, []⟩]⟩]

theorem build_hiddenProductions : Grammar.build "list" hiddenProductions = .ok hiddenGrammar :=
  Grammar.build_of_table hiddenGrammar rfl rfl rfl (by decide +kernel) (by decide +kernel)

theorem hiddenProductions_not_refused :
    (¬ ∃ name, Grammar.build "list" hiddenProductions = .error (.leftRecursion name)) ∧
      ¬ ∃ p ∈ hiddenRules, LeadsFlat p.2.clauses p.1 := by
  have h : ¬ ∃ name, Grammar.build "list" hiddenProductions = .error (.leftRecursion name) := by
    simp [build_hiddenProductions]
  have hiff := (build_eq_leftRecursion_iff read_hiddenProductions closed_hiddenRules).1
  exact ⟨h, fun hl => h (hiff.2 hl)⟩

theorem hidden_leftRecursion_accepted :
    (∃ rules, hiddenProductions.mapM Production.read = .ok rules ∧ Closed "list" rules ∧
        ∃ p ∈ rules, Leads (.group p.2.clauses) p.1) ∧
      Grammar.build "list" hiddenProductions = .ok hiddenGrammar ∧
      hiddenGrammar.parse [⟨.null, "null", .start⟩] "list" = .error .endless :=
  ⟨⟨hiddenRules, read_hiddenProductions, closed_hiddenRules, leads_hiddenRules⟩,
    build_hiddenProductions, by rfl⟩

end Parsing
