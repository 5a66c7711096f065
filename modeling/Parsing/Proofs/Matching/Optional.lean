import Parsing.Proofs.Matching.Definite

namespace Parsing

variable {K V : Type} [TokenKind K] {ts : List (Token K)}
  {call : String → Nat → Match (Outcome K)} {i : Nat} {o : Outcome K}

namespace Clause

omit [TokenKind K] in
theorem isOptional_of_mem {c : Clause K} {cs : List (Clause K)} (h : allOptional cs = true)
    (hc : c ∈ cs) : c.isOptional = true := by
  rw [allOptional_eq] at h
  exact List.all_eq_true.1 h c hc

theorem exists_matched_of_matchAll {cs : List (Clause K)}
    (hcs : ∀ c ∈ cs, ∀ i o, matchAt ts call c i = .ok o → o.isMatch = true) {ms : Matches K}
    (h : matchAll ts call cs i = .ok ms) :
    ∃ trees stop errors, ms = .matched trees stop errors := by
  induction cs generalizing i ms with
  | nil => exact ⟨_, _, _, matchAll_nil.1 h⟩
  | cons c cs ih =>
    obtain ⟨tree, stop, ended, errors, rest, -, hrest, rfl⟩ | ⟨p, hp, hm, -⟩ := matchAll_cons.1 h
    · obtain ⟨trees, stop, more, rfl⟩ := ih (fun d hd => hcs d (by simp [hd])) hrest
      exact ⟨_, _, _, rfl⟩
    · rw [hcs c (by simp) i p hp] at hm
      cases hm

theorem isMatch_of_isOptional {c : Clause K} (hc : c.isOptional = true)
    (h : matchAt ts call c i = .ok o) : o.isMatch = true := by
  induction c using Clause.induction generalizing i o with
  | terminal k => simp [isOptional] at hc
  | nonTerminal name => simp [isOptional] at hc
  | oneOrMore c => simp [isOptional] at hc
  | zeroOrMore c =>
    obtain ⟨r, -, h⟩ := matchAt_zeroOrMore.1 h
    obtain ⟨t, -, rfl⟩ := Repetition.outcome_eq_ok.1 h
    rfl
  | optional c =>
    obtain ⟨p, -, rfl⟩ := matchAt_optional.1 h
    cases p <;> rfl
  | group cs ih =>
    obtain ⟨ms, hms, rfl⟩ := matchAt_group.1 h
    rw [isOptional] at hc
    obtain ⟨trees, stop, errors, rfl⟩ :=
      exists_matched_of_matchAll (fun c hmem i o => ih c hmem (isOptional_of_mem hc hmem)) hms
    rfl

end Clause

theorem Rule.isMatch_of_mayBeEmpty {name : String} {index : Nat} {r : Rule K V}
    (hr : r.mayBeEmpty = true) (h : r.matchAt ts call name index i = .ok o) :
    o.isMatch = true := by
  obtain ⟨t, -, h⟩ := matchAt_eq_ok.1 h
  rw [hr, Bool.or_true, if_pos rfl] at h
  obtain ⟨ms, hms, rfl⟩ := h
  have hclauses (c : Clause K) (hc : c ∈ r.clauses) (i : Nat) (o : Outcome K)
      (ho : c.matchAt ts call i = .ok o) : o.isMatch = true :=
    Clause.isMatch_of_isOptional (Clause.isOptional_of_mem hr hc) ho
  obtain ⟨trees, stop, errors, rfl⟩ := Clause.exists_matched_of_matchAll hclauses hms
  rfl

namespace Grammar

variable {g : Grammar K V} {c : Clause K}

theorem isOptional_of_matched_empty (hc : ∀ name, .nonTerminal name ∉ c.walk) {tree : Tree K}
    {ended : Bool} {errors : List (Unexpected K)}
    (h : g.matchClause ts c i = .ok (.matched tree i ended errors)) : c.isOptional = true := by
  obtain ⟨hfits, hcovers⟩ := matchClause_sound h
  have hempty : MatchesEmpty g.alternatives c := hfits.matchesEmpty hcovers.eq_nil
  exact hempty.isOptional fun name hname => absurd hname.mem_walk (hc name)

theorem exists_match_iff_isOptional (hc : ∀ name, .nonTerminal name ∉ c.walk) {q : Nat}
    {e : Token K} (hq : ts[q]? = some e) (he : e.isEnd = true) :
    (∃ o, g.matchClause ts c q = .ok o ∧ o.isMatch = true) ↔ c.isOptional = true := by
  constructor
  · rintro ⟨o, ho, hm⟩
    have hstop : q ≤ o.stop ∧ o.stop ≤ q :=
      (matchAt_safe hq he c (Nat.le_refl q)).of_eq_ok ho
    cases o with
    | matched tree stop ended errors =>
      obtain rfl : stop = q := Nat.le_antisymm hstop.2 hstop.1
      exact isOptional_of_matched_empty hc ho
    | failed => cases hm
    | inapplicable => cases hm
  · intro hoptional
    have hcallable : Clause.Callable g (g.call ts (g.depth ts)) q c q :=
      ⟨fun name hname => absurd hname.mem_walk (hc name),
        fun name j hlt hle => absurd hle (Nat.not_le.2 hlt)⟩
    obtain ⟨o, ho⟩ := Clause.exists_matchAt hq he call_sound (Nat.le_refl q) hcallable
    exact ⟨o, ho, Clause.isMatch_of_isOptional hoptional ho⟩

end Grammar

/-- A clause that is optional by its form matches wherever it comes to an outcome, and so does a
rule that may be empty, whatever the token is. A clause without non-terminals that matches without a
token is optional by its form; so at an end marker these clauses match, and no others. -/
theorem optional_always_matches (g : Grammar K V) (ts : List (Token K)) :
    (∀ c i o, c.isOptional = true → g.matchClause ts c i = .ok o → o.isMatch = true) ∧
    (∀ name index r i o, r.mayBeEmpty = true → g.matchRule ts name index r i = .ok o →
      o.isMatch = true) ∧
    ∀ c, (∀ name, .nonTerminal name ∉ c.walk) →
      (∀ i tree ended errors, g.matchClause ts c i = .ok (.matched tree i ended errors) →
        c.isOptional = true) ∧
      ∀ q e, ts[q]? = some e → e.isEnd = true →
        ((∃ o, g.matchClause ts c q = .ok o ∧ o.isMatch = true) ↔ c.isOptional = true) :=
  ⟨fun _ _ _ => Clause.isMatch_of_isOptional, fun _ _ _ _ _ => Rule.isMatch_of_mayBeEmpty,
    fun _ hc => ⟨fun _ _ _ _ => Grammar.isOptional_of_matched_empty hc,
      fun _ _ => Grammar.exists_match_iff_isOptional hc⟩⟩

namespace Gaps

open Json (TokenType)

def broken : List (Token TokenType) :=
  [⟨.int, "1", ⟨0, 0, 0⟩⟩, ⟨.comma, ",", ⟨0, 1, 1⟩⟩, Token.endAt ⟨0, 2, 2⟩]

def gap : Clause TokenType :=
  .group [.optional (.terminal .comma), .zeroOrMore (.group [.terminal .int, .terminal .colon])]

theorem matchClause_gap : grammar.matchClause broken gap 0 =
    .ok (.matched (.group [.absent, .many []]) 0 false
      [.expectedOne ⟨.comma, ",", ⟨0, 1, 1⟩⟩ .colon]) := by
  rfl

def items : Rule TokenType Nat :=
  ⟨[.zeroOrMore (.nonTerminal "item")], ⟨[.int, .comma]⟩, answer 0, []⟩

theorem matchRule_items : grammar.matchRule broken "items" 0 items 2 =
    .ok (.matched (.node ⟨"items", 0, "item*", none⟩ [.many []]) 2 true []) := by
  rfl

theorem gap_always_matches :
    gap.isOptional = true ∧ (∃ o, grammar.matchClause broken gap 2 = .ok o ∧ o.isMatch = true) ∧
      items.mayBeEmpty = true ∧
        ∃ o, grammar.matchRule broken "items" 0 items 2 = .ok o ∧ o.isMatch = true := by
  obtain ⟨-, hrule, hclause⟩ := optional_always_matches grammar broken
  obtain ⟨hempty, hend⟩ := hclause gap (by simp [gap, Clause.walk, Clause.walkAll])
  have hgap : gap.isOptional = true := hempty 0 _ _ _ matchClause_gap
  exact ⟨hgap, (hend 2 _ rfl (Token.isEnd_endAt _)).2 hgap, rfl,
    _, matchRule_items, hrule "items" 0 items 2 _ rfl matchRule_items⟩

end Gaps

end Parsing
