import Parsing.Proofs.Matching.Definite
import Parsing.Proofs.Matching.Depth

namespace Parsing

variable {K V : Type}

def Outcome.Remembers (o : Outcome K) (os : List (Outcome K)) : Prop :=
  ∃ p : Outcome K, p.FurthestOf os ∧ o.errors = p.errors

/-- None of the attempts went past the first token, and the last is a match without errors. -/
structure Forgotten (os : List (Outcome K)) : Prop where
  stop_eq_zero : ∀ p ∈ os, p.stop = 0
  last : ∃ tree ended, os.getLast? = some (.matched tree 0 ended [])

namespace Furthest

theorem errors_outcome {f : Furthest K} (hf : f.errors ≠ []) (none : Unexpected K)
    (last? : Option (Outcome K)) : (f.outcome none last?).errors = f.errors := by
  unfold outcome
  split
  · rfl
  · exact if_neg (by simpa using hf)

theorem Keeps.remembers {f : Furthest K} {os : List (Outcome K)} (h : f.Keeps os)
    (none : Unexpected K) (last? : Option (Outcome K)) : (f.outcome none last?).Remembers os := by
  obtain ⟨p, hp, rfl⟩ := h
  exact ⟨p, hp, errors_outcome hp.errors_ne_nil none last?⟩

theorem stop_foldl_note_le {q : Nat} {os : List (Outcome K)}
    (h : ∀ o ∈ os, o.stop ≤ q) : (os.foldl Furthest.note ⟨0, []⟩).stop ≤ q := by
  induction os using List.reverseRecOn with
  | nil => exact Nat.zero_le q
  | append_singleton os o ih =>
    rw [List.foldl_append, List.foldl_cons, List.foldl_nil]
    exact NonTerminal.stop_note_le (ih fun p hp => h p (by simp [hp])) (h o (by simp))

end Furthest

theorem Forgotten.errors_eq_nil {os : List (Outcome K)} (h : Forgotten os) (none : Unexpected K) :
    ((os.foldl Furthest.note ⟨0, []⟩).outcome none os.getLast?).errors = [] := by
  obtain ⟨tree, ended, hlast⟩ := h.last
  obtain ⟨before, rfl⟩ := List.getLast?_eq_some_iff.1 hlast
  have hstop : (before.foldl Furthest.note ⟨0, []⟩).stop = 0 :=
    Nat.le_zero.1 (Furthest.stop_foldl_note_le fun p hp =>
      (h.stop_eq_zero p (List.mem_append_left _ hp)).le)
  rw [Furthest.outcome_of_matched, List.foldl_append, List.foldl_cons, List.foldl_nil]
  simp [Furthest.note, hstop, Outcome.errors, Outcome.stop]

theorem keeps_append_matched {before : List (Outcome K)} (hne : before ≠ [])
    (hbefore : ∀ o ∈ before, o.errors ≠ []) {tree : Tree K} {stop : Nat} {ended : Bool}
    {errors : List (Unexpected K)}
    (h : ¬ Forgotten (before ++ [Outcome.matched tree stop ended errors])) :
    ((before ++ [Outcome.matched tree stop ended errors]).foldl Furthest.note ⟨0, []⟩).Keeps
      (before ++ [.matched tree stop ended errors]) := by
  have hkeeps := Furthest.keeps_foldl_note hne hbefore
  rw [List.foldl_append, List.foldl_cons, List.foldl_nil]
  refine hkeeps.note ?_
  by_contra hlost
  simp only [Outcome.errors, Outcome.stop, not_or, not_not] at hlost
  obtain ⟨rfl, hzero, rfl⟩ := hlost
  obtain ⟨q, hq, hkept⟩ := hkeeps
  rw [hkept] at hzero
  refine h ⟨fun p hp => ?_, tree, ended, List.getLast?_concat⟩
  obtain hp | hp := List.mem_append.1 hp
  · exact Nat.le_zero.1 ((hq.stop_le p hp (hbefore p hp)).trans_eq hzero)
  · rw [List.mem_singleton.1 hp]
    rfl

variable [TokenKind K] {ts : List (Token K)} {i : Nat}

theorem keeps_of_not_forgotten {α : Type} {attempt : α → Match (Outcome K)} {as : List α}
    {os : List (Outcome K)} (hos : Match.untilMatch attempt as = .ok os)
    (hdefinite : ∀ o ∈ os, o.Definite ts i) (herrors : ∃ p ∈ os, p.errors ≠ [])
    (h : ¬ Forgotten os) : (os.foldl Furthest.note ⟨0, []⟩).Keeps os := by
  obtain hfailed | ⟨before, m, rfl, hm, hfailed⟩ := Match.cases_of_untilMatch hos
  · refine Furthest.keeps_foldl_note ?_ fun o ho => (hdefinite o ho).errors_ne_nil (hfailed o ho)
    obtain ⟨p, hp, -⟩ := herrors
    exact List.ne_nil_of_mem hp
  · have hbefore (o : Outcome K) (ho : o ∈ before) : o.errors ≠ [] :=
      (hdefinite o (List.mem_append_left _ ho)).errors_ne_nil (hfailed o ho)
    obtain rfl | hne := eq_or_ne before []
    · refine Furthest.keeps_foldl_note (by simp) fun o ho => ?_
      obtain ⟨p, hp, hne⟩ := herrors
      rw [List.nil_append, List.mem_singleton] at ho hp
      rwa [ho, ← hp]
    · cases m with
      | matched => exact keeps_append_matched hne hbefore h
      | failed => cases hm
      | inapplicable => cases hm

namespace Grammar

variable {g : Grammar K V}

def attempts (g : Grammar K V) (ts : List (Token K)) (n : NonTerminal K V) (i : Nat) :
    Match (List (Outcome K)) := do
  let t ← tokenAt ts i
  Match.untilMatch (fun (index, r) => g.matchRule ts n.name index r i) (n.candidates t.kind)

theorem attempts_definite {n : NonTerminal K V} {os : List (Outcome K)}
    (h : g.attempts ts n i = .ok os) : ∀ o ∈ os, o.Definite ts i := by
  obtain ⟨t, ht, h⟩ := Except.bind_eq_ok.1 h
  exact NonTerminal.definite_of_untilMatch
    (fun p hp o => NonTerminal.candidate_definite call_definite (tokenAt_eq_ok.1 ht) hp) h

theorem exists_attempts {name : String} {n : NonTerminal K V} (hn : g.nonTerminal? name = some n)
    {o : Outcome K} (h : g.matchClause ts (.nonTerminal name) i = .ok o) :
    ∃ os, g.attempts ts n i = .ok os ∧ (os ≠ [] → ∃ none,
      o = (os.foldl Furthest.note ⟨0, []⟩).outcome none os.getLast?) := by
  rw [matchClause, Clause.matchAt_nonTerminal] at h
  obtain ⟨t, ht, h⟩ := Except.bind_eq_ok.1 h
  rw [hn] at h
  change n.matchAt ts _ i = .ok o at h
  obtain ⟨t', ht', h⟩ := NonTerminal.matchAt_eq_ok.1 h
  obtain rfl : t' = t := Option.some.inj (ht'.symm.trans (tokenAt_eq_ok.1 ht))
  rw [attempts, ht]
  split at h
  · next hnone =>
    refine ⟨[], ?_, fun hne => absurd rfl hne⟩
    simp only [bind, Except.bind, hnone]
    rfl
  · obtain ⟨os, hos, rfl⟩ := NonTerminal.firstMatch_eq_ok.1 h
    refine ⟨os, Match.untilMatch_mono (fun p _ o ho => ?_) hos, fun _ => ⟨_, rfl⟩⟩
    exact matchRule_eq_ok.2 ⟨_, ho⟩

end Grammar

/-- If an attempt has errors, those of one of the furthest with errors are remembered, and never
replaced by those of an attempt without; but for one case, in which nothing is remembered: the match
takes nothing at the first token and has no errors, and no attempt before it went past that
token. -/
theorem errors_remembered_iff {g : Grammar K V} {ts : List (Token K)} {name : String}
    {n : NonTerminal K V} (hn : g.nonTerminal? name = some n) {i : Nat} {o : Outcome K}
    (h : g.matchClause ts (.nonTerminal name) i = .ok o) :
    ∃ os, g.attempts ts n i = .ok os ∧ ((∃ p ∈ os, p.errors ≠ []) →
      (o.Remembers os ↔ ¬ Forgotten os) ∧ (Forgotten os → i = 0 ∧ o.errors = [])) := by
  obtain ⟨os, hos, ho⟩ := Grammar.exists_attempts hn h
  refine ⟨os, hos, fun herrors => ?_⟩
  have hdefinite := Grammar.attempts_definite hos
  obtain ⟨none, rfl⟩ := ho (by
    obtain ⟨p, hp, -⟩ := herrors
    exact List.ne_nil_of_mem hp)
  refine ⟨⟨fun ⟨p, hp, heq⟩ hforgotten => ?_, fun hkept => ?_⟩, fun hforgotten => ⟨?_, ?_⟩⟩
  · exact hp.errors_ne_nil (heq ▸ hforgotten.errors_eq_nil none)
  · obtain ⟨t, -, hos⟩ := Except.bind_eq_ok.1 hos
    exact (keeps_of_not_forgotten hos hdefinite herrors hkept).remembers none _
  · obtain ⟨p, hp, -⟩ := herrors
    exact Nat.le_zero.1 ((hdefinite p hp).le_stop.trans_eq (hforgotten.stop_eq_zero p hp))
  · exact hforgotten.errors_eq_nil none

namespace Lapses

open Json (TokenType)
open Gaps (answer)

def productions : List (Production TokenType Nat) := [
  ⟨"whole : COMMA? pair", answer 0, []⟩,
  ⟨"pair : (INT COMMA) INT", answer 1, []⟩,
  ⟨"pair : COLON?", answer 2, []⟩]

def pair : NonTerminal TokenType Nat where
  name := "pair"
  rules := [
    ⟨[.group [.terminal .int, .terminal .comma], .terminal .int], ⟨[.int]⟩, answer 1, []⟩,
    ⟨[.optional (.terminal .colon)], ⟨[.colon]⟩, answer 2, []⟩]

def grammar : Grammar TokenType Nat where
  start := "whole"
  nonTerminals := [
    ⟨"whole", [⟨[.optional (.terminal .comma), .nonTerminal "pair"], ⟨[.comma, .int, .colon]⟩,
      answer 0, []⟩]⟩,
    pair]

theorem build_productions : Grammar.build "whole" productions = .ok grammar :=
  Grammar.build_of_table grammar rfl rfl rfl (by decide +kernel) (by decide +kernel)

def ints (kinds : List TokenType) : List (Token TokenType) :=
  (kinds ++ [TokenType.int, .int, .endMarker]).map Brackets.token

def nothing (i : Nat) (errors : List (Unexpected TokenType)) : Outcome TokenType :=
  .matched (.node ⟨"pair", 1, "Colon?", none⟩ [.absent]) i false errors

def attemptsAt (i : Nat) : List (Outcome TokenType) :=
  [.failed [.expectedOne (Brackets.token .int) .comma] i, nothing i []]

theorem exists_errors_attemptsAt (i : Nat) : ∃ p ∈ attemptsAt i, p.errors ≠ [] :=
  ⟨_, List.mem_cons_self, List.cons_ne_nil _ _⟩

theorem errors_are_lost :
    Grammar.build "whole" productions = .ok grammar ∧
      grammar.nonTerminal? "pair" = some pair ∧
      ∃ o, grammar.matchClause (ints []) (.nonTerminal "pair") 0 = .ok o ∧
        ∃ os, grammar.attempts (ints []) pair 0 = .ok os ∧ (∃ p ∈ os, p.errors ≠ []) ∧
          ¬ o.Remembers os := by
  refine ⟨build_productions, rfl, nothing 0 [], by rfl, attemptsAt 0, by rfl,
    exists_errors_attemptsAt 0, ?_⟩
  rintro ⟨p, hp, herrors⟩
  exact hp.errors_ne_nil herrors.symm

theorem errors_remembered_behind_comma :
    grammar.nonTerminal? "pair" = some pair ∧
      ∃ o, grammar.matchClause (ints [.comma]) (.nonTerminal "pair") 1 = .ok o ∧
        ∃ os, grammar.attempts (ints [.comma]) pair 1 = .ok os ∧ (∃ p ∈ os, p.errors ≠ []) ∧
          o.Remembers os := by
  have hpair : grammar.nonTerminal? "pair" = some pair := rfl
  have hmatch : grammar.matchClause (ints [.comma]) (.nonTerminal "pair") 1 =
      .ok (nothing 1 [.expectedOne (Brackets.token .int) .comma]) := by
    rfl
  have hattempts : grammar.attempts (ints [.comma]) pair 1 = .ok (attemptsAt 1) := by rfl
  obtain ⟨os, hos, hremembered⟩ := errors_remembered_iff hpair hmatch
  obtain rfl := Except.ok.inj (hattempts.symm.trans hos)
  obtain ⟨hiff, hzero⟩ := hremembered (exists_errors_attemptsAt 1)
  refine ⟨hpair, _, hmatch, _, hos, exists_errors_attemptsAt 1, hiff.2 fun hforgotten => ?_⟩
  exact absurd (hzero hforgotten).1 (by decide)

end Lapses

end Parsing
