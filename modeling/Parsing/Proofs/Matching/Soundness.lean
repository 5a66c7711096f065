import Mathlib.Data.List.Basic
import Parsing.Json.Language
import Parsing.Proofs.Grammar.Build
import Parsing.Proofs.Matching.Choice

namespace Parsing

variable {K V : Type} [TokenKind K]

/-- The derivation trees of a clause. A group and its trees stand for any sequence of clauses and
what they match, one tree for each clause. -/
inductive Fits (g : Grammar K V) : Clause K → Tree K → Prop
  | leaf {k : K} {t : Token K} : t.kind = k → Fits g (.terminal k) (.leaf t)
  | node {name : String} {index : Nat} {r : Rule K V} {trees : List (Tree K)} :
    g.rule? name index = some r → Fits g (.group r.clauses) (.group trees) →
    Fits g (.nonTerminal name) (.node (r.head name index trees) trees)
  | zeroOrMore {c : Clause K} {trees : List (Tree K)} : (∀ tree ∈ trees, Fits g c tree) →
    (∀ tree ∈ trees, tree.tokens ≠ []) → Fits g (.zeroOrMore c) (.many trees)
  | oneOrMore {c : Clause K} {trees : List (Tree K)} :
    trees ≠ [] → (∀ tree ∈ trees, Fits g c tree) →
    (∀ tree ∈ trees, tree.tokens ≠ []) → Fits g (.oneOrMore c) (.many trees)
  | absent {c : Clause K} : Fits g (.optional c) .absent
  | present {c : Clause K} {tree : Tree K} : Fits g c tree → Fits g (.optional c) (.present tree)
  | group_nil : Fits g (.group []) (.group [])
  | group_cons {c : Clause K} {cs : List (Clause K)} {tree : Tree K} {trees : List (Tree K)} :
    Fits g c tree → Fits g (.group cs) (.group trees) →
    Fits g (.group (c :: cs)) (.group (tree :: trees))

/-- The tokens from `i` up to `stop` are `us`, none of which is an end marker. -/
structure Covers (ts : List (Token K)) (i stop : Nat) (us : List (Token K)) : Prop where
  stop_eq : stop = i + us.length
  eq_extract : us = ts.extract i stop
  not_isEnd : ∀ t ∈ us, t.isEnd = false

namespace Covers

variable {ts us vs : List (Token K)} {i j stop : Nat}

theorem of_drop (hstop : stop = i + us.length) (h : ts.drop i = us ++ ts.drop stop)
    (he : ∀ t ∈ us, t.isEnd = false) : Covers ts i stop us where
  stop_eq := hstop
  eq_extract := by
    rw [List.extract, h, hstop, Nat.add_sub_cancel_left, List.take_left']
    rfl
  not_isEnd := he

theorem drop_eq (h : Covers ts i stop us) : ts.drop i = us ++ ts.drop stop := by
  have hsub : stop - i = us.length := by
    rw [h.stop_eq, Nat.add_sub_cancel_left]
  have htake : us = (ts.drop i).take us.length := by
    rw [← hsub]
    exact h.eq_extract
  calc ts.drop i = (ts.drop i).take us.length ++ (ts.drop i).drop us.length :=
        (List.take_append_drop _ _).symm
    _ = us ++ ts.drop stop := by rw [← htake, List.drop_drop, h.stop_eq]

theorem nil (ts : List (Token K)) (i : Nat) : Covers ts i i [] :=
  of_drop rfl rfl (by simp)

theorem single {t : Token K} (h : ts[i]? = some t) (he : t.isEnd = false) :
    Covers ts i (i + 1) [t] := by
  obtain ⟨hi, rfl⟩ := List.getElem?_eq_some_iff.1 h
  exact of_drop rfl (List.drop_eq_getElem_cons hi) (by simpa using he)

theorem append (h : Covers ts i j us) (h' : Covers ts j stop vs) : Covers ts i stop (us ++ vs) := by
  refine of_drop ?_ ?_ (List.forall_mem_append.2 ⟨h.not_isEnd, h'.not_isEnd⟩)
  · rw [h'.stop_eq, h.stop_eq, List.length_append, Nat.add_assoc]
  · rw [h.drop_eq, h'.drop_eq, List.append_assoc]

theorem le (h : Covers ts i stop us) : i ≤ stop := h.stop_eq ▸ Nat.le_add_right _ _

theorem ne_nil (h : Covers ts i stop us) (hlt : i < stop) : us ≠ [] := by
  rintro rfl
  exact absurd h.stop_eq (Nat.ne_of_gt hlt)

end Covers

section

variable {g : Grammar K V} {ts : List (Token K)} {call : String → Nat → Match (Outcome K)}
  {i stop : Nat} {tree : Tree K} {trees : List (Tree K)} {ended : Bool}
  {errors : List (Unexpected K)}

def StepSound (g : Grammar K V) (ts : List (Token K)) (c : Clause K)
    (step : Nat → Match (Outcome K)) : Prop :=
  ∀ i tree stop ended errors, step i = .ok (.matched tree stop ended errors) →
    Fits g c tree ∧ Covers ts i stop tree.tokens

theorem Takes.sound {c : Clause K} {step : Nat → Match (Outcome K)} {r : Repetition K}
    (hstep : StepSound g ts c step) (h : Takes ts step i r) :
    (∀ tree ∈ r.trees, Fits g c tree) ∧ (∀ tree ∈ r.trees, tree.tokens ≠ []) ∧
      Covers ts i r.stop (Tree.tokensAll r.trees) := by
  induction h with
  | done => exact ⟨by simp, by simp, .nil ts _⟩
  | last ho hlt =>
    obtain ⟨hfit, hcov⟩ := hstep _ _ _ _ _ ho
    refine ⟨by simpa using hfit, by simpa using hcov.ne_nil hlt, ?_⟩
    simpa [Tree.tokensAll] using hcov
  | more ho hlt _ _ _ ih =>
    obtain ⟨hfit, hcov⟩ := hstep _ _ _ _ _ ho
    obtain ⟨hfits, hne, hcovs⟩ := ih
    exact ⟨List.forall_mem_cons.2 ⟨hfit, hfits⟩, List.forall_mem_cons.2 ⟨hcov.ne_nil hlt, hne⟩,
      hcov.append hcovs⟩

namespace Clause

theorem matchAll_sound {cs : List (Clause K)}
    (hcs : ∀ c ∈ cs, StepSound g ts c (matchAt ts call c))
    (h : matchAll ts call cs i = .ok (.matched trees stop errors)) :
    Fits g (.group cs) (.group trees) ∧ Covers ts i stop (Tree.tokensAll trees) := by
  induction cs generalizing i trees errors with
  | nil =>
    cases matchAll_nil.1 h
    exact ⟨.group_nil, .nil ts _⟩
  | cons c cs ih =>
    obtain ⟨tree, next, ended, es, rest, ho, hrest, heq⟩ | ⟨p, -, -, heq⟩ := matchAll_cons.1 h
    · cases rest with
      | failed => cases heq
      | matched rest stop' es' =>
        cases heq
        obtain ⟨hfit, hcov⟩ := hcs c (by simp) _ _ _ _ _ ho
        obtain ⟨hfits, hcovs⟩ := ih (fun d hd => hcs d (by simp [hd])) hrest
        exact ⟨.group_cons hfit hfits, hcov.append hcovs⟩
    · cases heq

theorem matchAt_sound (hcall : ∀ name, StepSound g ts (.nonTerminal name) (call name))
    {c : Clause K} : StepSound g ts c (matchAt ts call c) := by
  induction c using Clause.induction with
  | terminal k =>
    intro i tree stop ended errors h
    obtain ⟨t, ht, h⟩ := matchAt_terminal.1 h
    split at h
    · next hk =>
      cases h
      exact ⟨.leaf hk.1, .single ht hk.2⟩
    · cases h
  | nonTerminal name =>
    intro i tree stop ended errors h
    rw [matchAt_nonTerminal] at h
    exact hcall name i tree stop ended errors h
  | zeroOrMore c ih =>
    intro i tree stop ended errors h
    obtain ⟨r, hr, h⟩ := matchAt_zeroOrMore.1 h
    obtain ⟨t, -, h⟩ := Repetition.outcome_eq_ok.1 h
    cases h
    obtain ⟨hfits, hne, hcov⟩ := hr.sound ih
    exact ⟨.zeroOrMore hfits hne, hcov⟩
  | oneOrMore c ih =>
    intro i tree stop ended errors h
    obtain ⟨r, hr, ⟨htrees, h⟩ | ⟨-, es, h⟩⟩ := matchAt_oneOrMore_cases h
    · obtain ⟨t, -, h⟩ := Repetition.outcome_eq_ok.1 h
      cases h
      obtain ⟨hfits, hne, hcov⟩ := hr.sound ih
      exact ⟨.oneOrMore htrees hfits hne, hcov⟩
    · cases h
  | optional c ih =>
    intro i tree stop ended errors h
    obtain ⟨p, hp, h⟩ := matchAt_optional.1 h
    cases p with
    | matched tree stop ended errors =>
      cases h
      obtain ⟨hfit, hcov⟩ := ih _ _ _ _ _ hp
      exact ⟨.present hfit, hcov⟩
    | failed | inapplicable =>
      cases h
      exact ⟨.absent, .nil ts i⟩
  | group cs ih =>
    intro i tree stop ended errors h
    obtain ⟨ms, hms, h⟩ := matchAt_group.1 h
    cases ms with
    | failed => cases h
    | matched trees stop errors =>
      cases h
      exact matchAll_sound ih hms

end Clause

variable {choice : Choice K V}

theorem Rule.matchBy_sound (hcall : ∀ name, StepSound g ts (.nonTerminal name) (call name))
    {name : String} {index : Nat} {r : Rule K V} (hr : g.rule? name index = some r)
    (h : r.matchBy choice ts call name index i = .ok (.matched tree stop ended errors)) :
    (∃ trees, tree = .node (r.head name index trees) trees) ∧ Fits g (.nonTerminal name) tree ∧
      Covers ts i stop tree.tokens := by
  obtain ⟨t, -, h⟩ := matchBy_eq_ok.1 h
  split at h
  · obtain ⟨ms, hms, h⟩ := h
    cases ms with
    | failed => cases h
    | matched trees stop errors =>
      cases h
      obtain ⟨hfit, hcov⟩ := Clause.matchAll_sound (fun _ _ => Clause.matchAt_sound hcall) hms
      exact ⟨⟨trees, rfl⟩, .node hr hfit, hcov⟩
  · cases h

theorem Grammar.callBy_sound {depth : Nat} (name : String) :
    StepSound g ts (.nonTerminal name) (g.callBy choice ts depth name) := by
  induction depth generalizing name with
  | zero => exact fun _ _ _ _ _ h => by cases h
  | succ depth ih =>
    intro i tree stop ended errors h
    obtain ⟨t, -, h⟩ := callBy_succ.1 h
    cases hn : g.nonTerminal? name with
    | none =>
      rw [hn] at h
      cases h
    | some n =>
      rw [hn] at h
      obtain ⟨t, -, h⟩ := NonTerminal.matchBy_eq_ok.1 h
      split at h
      · cases h
      · obtain ⟨⟨index, r⟩, hmem, errors', hmatch⟩ := NonTerminal.exists_of_firstMatch h
        have hr := NonTerminal.mem_numbered.1 (List.mem_filter.1 hmem).1
        have hname := NonTerminal.name_of_find? hn
        rw [hname] at hmatch
        exact (Rule.matchBy_sound ih (rule?_eq_some.2 ⟨n, hn, hr⟩) hmatch).2

theorem Match.mem_of_mapM_eq_ok {α β : Type} {f : α → Match β} {l : List α} {bs : List β}
    (h : l.mapM f = .ok bs) {b : β} (hb : b ∈ bs) : ∃ a ∈ l, f a = .ok b := by
  induction l generalizing bs with
  | nil =>
    cases h
    cases hb
  | cons a l ih =>
    rw [List.mapM_cons] at h
    obtain ⟨b', hb', h⟩ := Except.bind_eq_ok.1 h
    obtain ⟨bs', hbs', h⟩ := Except.bind_eq_ok.1 h
    cases Except.pure_eq_ok.1 h
    rcases List.mem_cons.1 hb with rfl | hb
    · exact ⟨a, by simp, hb'⟩
    · obtain ⟨a', ha', hfa⟩ := ih hbs' hb
      exact ⟨a', by simp [ha'], hfa⟩

namespace Grammar

theorem exists_withEndMarker_eq (ts : List (Token K)) :
    ∃ us, ∃ e : Token K, e.isEnd = true ∧ withEndMarker ts = us ++ [e] ∧
      (ts = us ∨ ts = us ++ [e]) := by
  cases h : ts.getLast? with
  | none =>
    rw [List.getLast?_eq_none_iff] at h
    subst h
    exact ⟨[], Token.endAt .start, Token.isEnd_endAt _, rfl, .inl rfl⟩
  | some t =>
    have hts : ts.dropLast ++ [t] = ts := List.dropLast_append_getLast? t h
    cases he : t.isEnd with
    | true => exact ⟨ts.dropLast, t, he, by simp [withEndMarker, h, he, hts], .inr hts.symm⟩
    | false =>
      exact ⟨ts, Token.endAt t.endPosition, Token.isEnd_endAt _, by simp [withEndMarker, h, he],
        .inl rfl⟩

theorem covers_of_withEndMarker {us : List (Token K)} (h : Covers (withEndMarker ts) 0 stop us) :
    Covers ts 0 stop us := by
  obtain ⟨vs, e, he, hts, rfl | rfl⟩ := exists_withEndMarker_eq ts
  · rw [hts] at h
    have hdrop : ts ++ [e] = us ++ (ts ++ [e]).drop stop := h.drop_eq
    have hle : stop ≤ ts.length := by
      by_contra hlt
      have hall : (ts ++ [e]).length ≤ stop := by
        rw [List.length_append]
        exact Nat.lt_of_not_le hlt
      rw [List.drop_eq_nil_of_le hall, List.append_nil] at hdrop
      have hmem : e ∈ us := hdrop ▸ by simp
      simp [h.not_isEnd e hmem] at he
    rw [List.drop_append_of_le_length hle, ← List.append_assoc] at hdrop
    exact .of_drop h.stop_eq (List.append_cancel_right hdrop) h.not_isEnd
  · rwa [hts] at h

theorem exists_rule_of_matchStart {n : NonTerminal K V}
    (h : g.matchStart ts n = .ok (.matched tree stop ended errors)) :
    ∃ index r, n.rules[index]? = some r ∧
      g.matchRule ts n.name index r 0 = .ok (.matched tree stop ended errors) := by
  obtain ⟨t, -, h⟩ := Except.bind_eq_ok.1 h
  obtain ⟨attempts, hattempts, h⟩ := Except.bind_eq_ok.1 h
  split at h
  · cases h
  · split at h
    · next o ho =>
      cases h
      obtain ⟨⟨index, r⟩, hr, hmatch⟩ :=
        Match.mem_of_mapM_eq_ok hattempts (List.mem_of_find?_eq_some ho)
      exact ⟨index, r, NonTerminal.mem_numbered.1 (List.mem_filter.1 hr).1, hmatch⟩
    · obtain ⟨t, -, h⟩ := Except.bind_eq_ok.1 h
      cases h

theorem matchClause_sound {c : Clause K}
    (h : g.matchClause ts c i = .ok (.matched tree stop ended errors)) :
    Fits g c tree ∧ Covers ts i stop tree.tokens := by
  rw [matchClause, ← callBy_leading] at h
  exact Clause.matchAt_sound callBy_sound i tree stop ended errors h

theorem matchRule_sound {name : String} {index : Nat} {r : Rule K V}
    (hr : g.rule? name index = some r)
    (h : g.matchRule ts name index r i = .ok (.matched tree stop ended errors)) :
    (∃ trees, tree = .node (r.head name index trees) trees) ∧ Fits g (.nonTerminal name) tree ∧
      Covers ts i stop tree.tokens := by
  rw [matchRule, ← callBy_leading, ← Rule.matchBy_leading] at h
  exact Rule.matchBy_sound callBy_sound hr h

theorem parse_sound {start : String}
    (h : g.parse ts start = .ok (.matched tree stop ended errors)) :
    Fits g (.nonTerminal start) tree ∧ Covers ts 0 stop tree.tokens := by
  rw [parse] at h
  cases hn : g.nonTerminal? start with
  | none =>
    rw [hn] at h
    obtain ⟨t, -, h⟩ := Except.bind_eq_ok.1 h
    cases h
  | some n =>
    rw [hn] at h
    obtain ⟨index, r, hr, hmatch⟩ := exists_rule_of_matchStart h
    rw [NonTerminal.name_of_find? hn] at hmatch
    obtain ⟨-, hfit, hcov⟩ := matchRule_sound (rule?_eq_some.2 ⟨n, hn, hr⟩) hmatch
    exact ⟨hfit, covers_of_withEndMarker hcov⟩

end Grammar

end

/-- A match is a derivation tree of what was asked for, and its tokens are those from where it began
to where it stopped. -/
theorem matched_fits_and_covers (g : Grammar K V) (ts : List (Token K)) :
    (∀ c i tree stop ended errors, g.matchClause ts c i = .ok (.matched tree stop ended errors) →
      Fits g c tree ∧ Covers ts i stop tree.tokens) ∧
    (∀ name index r, g.rule? name index = some r → ∀ i tree stop ended errors,
      g.matchRule ts name index r i = .ok (.matched tree stop ended errors) →
      (∃ trees, tree = .node (r.head name index trees) trees) ∧ Fits g (.nonTerminal name) tree ∧
        Covers ts i stop tree.tokens) ∧
    ∀ start tree stop ended errors, g.parse ts start = .ok (.matched tree stop ended errors) →
      Fits g (.nonTerminal start) tree ∧ Covers ts 0 stop tree.tokens :=
  ⟨fun _ _ _ _ _ _ => Grammar.matchClause_sound, fun _ _ _ hr _ _ _ _ _ => Grammar.matchRule_sound hr,
    fun _ _ _ _ _ => Grammar.parse_sound⟩

namespace Brackets

open Json (TokenType)

def productions : List (Production TokenType Nat) := [
  ⟨"list : CROG item* CROD", ArgsM.value 0, []⟩,
  ⟨"item : INT", ArgsM.value 0, []⟩,
  ⟨"item : list", ArgsM.value 0, []⟩]

def grammar : Grammar TokenType Nat where
  start := "list"
  nonTerminals := [
    ⟨"list", [⟨[.terminal .openBracket, .zeroOrMore (.nonTerminal "item"), .terminal .closeBracket],
      ⟨[.openBracket]⟩, ArgsM.value 0, []⟩]⟩,
    ⟨"item", [⟨[.terminal .int], ⟨[.int]⟩, ArgsM.value 0, []⟩,
      ⟨[.nonTerminal "list"], ⟨[.openBracket]⟩, ArgsM.value 0, []⟩]⟩]

theorem build_productions : Grammar.build "list" productions = .ok grammar :=
  Grammar.build_of_table grammar rfl rfl rfl (by decide +kernel) (by decide +kernel)

def token (k : TokenType) : Token TokenType := ⟨k, "", .start⟩

def tokens : List (Token TokenType) :=
  [.openBracket, .int, .openBracket, .closeBracket, .closeBracket].map token

def tree : Tree TokenType :=
  .node ⟨"list", 0, "LBracket_item*_RBracket", none⟩ [
    .leaf (token .openBracket),
    .many [
      .node ⟨"item", 0, "Int", none⟩ [.leaf (token .int)],
      .node ⟨"item", 1, "list", none⟩ [
        .node ⟨"list", 0, "LBracket_item*_RBracket", none⟩ [
          .leaf (token .openBracket), .many [], .leaf (token .closeBracket)]]],
    .leaf (token .closeBracket)]

theorem parse_tokens : grammar.parse tokens "list" = .ok (.matched tree 5 true []) := by rfl

theorem tree_fits_and_covers :
    Grammar.build "list" productions = .ok grammar ∧
      grammar.parse tokens "list" = .ok (.matched tree 5 true []) ∧
      Fits grammar (.nonTerminal "list") tree ∧ Covers tokens 0 5 tree.tokens :=
  ⟨build_productions, parse_tokens,
    (matched_fits_and_covers grammar tokens).2.2 "list" tree 5 true [] parse_tokens⟩

end Brackets

end Parsing
