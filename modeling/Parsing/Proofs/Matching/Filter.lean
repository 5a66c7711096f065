import Parsing.Proofs.Grammar.Derivation
import Parsing.Proofs.Grammar.LeadingSets
import Parsing.Proofs.Matching.Termination

namespace Parsing

variable {K V : Type}

def LeadsNonEmpty (A : Alternatives K) : Prop :=
  ∀ name cs b, A name cs → Leads (.group cs) b → ¬ MatchesEmpty A (.nonTerminal b)

theorem MatchesEmpty.isOptional {A : Alternatives K} {c : Clause K} (h : MatchesEmpty A c)
    (hc : ∀ b, Leads c b → ¬ MatchesEmpty A (.nonTerminal b)) : c.isOptional = true := by
  induction h with
  | nonTerminal ha hcs => exact absurd (.nonTerminal ha hcs) (hc _ .nonTerminal)
  | zeroOrMore => rfl
  | optional => rfl
  | group_nil => rfl
  | group_cons _ _ ih ihs =>
    have ho := ih fun b hb => hc b (.group_head hb)
    exact Clause.isOptional_group_cons.2 ⟨ho, ihs fun b hb => hc b (.group_tail ho hb)⟩

theorem Tree.exists_tokens_eq_cons {trees : List (Tree K)} (hne : ∀ tree ∈ trees, tree.tokens ≠ [])
    {t : Token K} {us : List (Token K)} (ht : tokensAll trees = t :: us) :
    ∃ tree ∈ trees, ∃ vs, tree.tokens = t :: vs := by
  cases trees with
  | nil => cases ht
  | cons tree trees =>
    obtain ⟨u, vs, hu⟩ := List.exists_cons_of_ne_nil (hne tree (by simp))
    rw [tokensAll, hu] at ht
    cases ht
    exact ⟨tree, by simp, vs, hu⟩

variable [TokenKind K] {g : Grammar K V}

theorem Fits.begins (hA : LeadsNonEmpty g.alternatives) {c : Clause K} {tree : Tree K}
    (h : Fits g c tree) (hc : ∀ b, Leads c b → ¬ MatchesEmpty g.alternatives (.nonTerminal b))
    {t : Token K} {us : List (Token K)} (ht : tree.tokens = t :: us) :
    Begins g.alternatives c t.kind := by
  induction h generalizing us with
  | leaf hk =>
    cases ht
    subst hk
    exact .terminal
  | node hr _ ih =>
    have ha := Grammar.alternatives_of_rule? hr
    exact .nonTerminal ha (ih (fun b => hA _ _ b ha) ht)
  | zeroOrMore _ hne ih =>
    obtain ⟨tree, hmem, vs, hu⟩ := Tree.exists_tokens_eq_cons hne ht
    exact .zeroOrMore (ih tree hmem (fun b hb => hc b (.zeroOrMore hb)) hu)
  | oneOrMore _ _ hne ih =>
    obtain ⟨tree, hmem, vs, hu⟩ := Tree.exists_tokens_eq_cons hne ht
    exact .oneOrMore (ih tree hmem (fun b hb => hc b (.oneOrMore hb)) hu)
  | absent => cases ht
  | present _ ih => exact .optional (ih (fun b hb => hc b (.optional hb)) ht)
  | group_nil => cases ht
  | @group_cons c cs tree trees hfit _ ih ihs =>
    have hhead : ∀ b, Leads c b → ¬ MatchesEmpty g.alternatives (.nonTerminal b) :=
      fun b hb => hc b (.group_head hb)
    cases hu : tree.tokens with
    | nil =>
      have ho := (hfit.matchesEmpty hu).isOptional hhead
      rw [Tree.tokens, Tree.tokensAll, hu] at ht
      exact .group_tail ho (ihs (fun b hb => hc b (.group_tail ho hb)) ht)
    | cons u vs =>
      rw [Tree.tokens, Tree.tokensAll, hu] at ht
      cases ht
      exact .group_head (ih hhead hu)

inductive Outcome.Agrees : Outcome K → Outcome K → Prop
  | matched {tree : Tree K} {stop : Nat} {ended : Bool} {errors errors' : List (Unexpected K)} :
    Agrees (.matched tree stop ended errors) (.matched tree stop ended errors')
  | unmatched {o o' : Outcome K} : o.isMatch = false → o'.isMatch = false → Agrees o o'

inductive Matches.Agrees : Matches K → Matches K → Prop
  | matched {trees : List (Tree K)} {stop : Nat} {errors errors' : List (Unexpected K)} :
    Agrees (.matched trees stop errors) (.matched trees stop errors')
  | failed {stop stop' : Nat} {errors errors' : List (Unexpected K)} :
    Agrees (.failed errors stop) (.failed errors' stop')

variable {ts : List (Token K)} {call call' : String → Nat → Match (Outcome K)} {i q : Nat}
  {e : Token K}

omit [TokenKind K] in
theorem Matches.Agrees.cons {ms ms' : Matches K} (h : ms.Agrees ms') {tree : Tree K}
    {errors errors' : List (Unexpected K)} :
    (ms.cons tree errors).Agrees (ms'.cons tree errors') := by
  cases h with
  | matched => exact .matched
  | failed => exact .failed

theorem Matches.Agrees.asOutcome {ms ms' : Matches K} (h : ms.Agrees ms')
    {tree : List (Tree K) → Tree K} : (ms.asOutcome ts tree).Agrees (ms'.asOutcome ts tree) := by
  cases h with
  | matched => exact .matched
  | failed => exact .unmatched rfl rfl

theorem Outcome.Agrees.asOption {o o' : Outcome K} (h : o.Agrees o') :
    (o.asOption ts i).Agrees (o'.asOption ts i) := by
  cases h with
  | matched => exact .matched
  | unmatched ho ho' =>
    have habsent {p : Outcome K} (hp : p.isMatch = false) :
        p.asOption ts i = .matchedAt ts .absent i [] := by
      cases p with
      | matched => cases hp
      | failed => rfl
      | inapplicable => rfl
    rw [habsent ho, habsent ho']
    exact .matched

def Follows (q : Nat) (step step' : Nat → Match (Outcome K)) : Prop :=
  ∀ i ≤ q, ∀ o, step i = .ok o → ∃ o', step' i = .ok o' ∧ o.Agrees o'

theorem Follows.takes {step step' : Nat → Match (Outcome K)} {c : Clause K} {r : Repetition K}
    (hstep : Follows q step step') (hsound : StepSound g ts c step) (hq : ts[q]? = some e)
    (he : e.isEnd = true) (h : Takes ts step i r) (hi : i ≤ q) :
    ∃ errors, Takes ts step' i ⟨r.trees, r.stop, errors⟩ := by
  induction h with
  | done ho hstop =>
    obtain ⟨o', ho', ha⟩ := hstep _ hi _ ho
    refine ⟨o'.errors, .done ho' ?_⟩
    cases ha with
    | matched => exact hstop
    | unmatched _ hm =>
      intro hm'
      rw [hm] at hm'
      cases hm'
  | last ho hlt ht hend =>
    obtain ⟨o', ho', ha⟩ := hstep _ hi _ ho
    cases ha with
    | matched => exact ⟨_, .last ho' hlt ht hend⟩
    | unmatched hm => cases hm
  | more ho hlt ht hend _ ih =>
    obtain ⟨o', ho', ha⟩ := hstep _ hi _ ho
    obtain ⟨errors, hr⟩ := ih ((hsound _ _ _ _ _ ho).2.le_of_isEnd hi hq he)
    cases ha with
    | matched => exact ⟨errors, .more ho' hlt ht hend hr⟩
    | unmatched hm => cases hm

section

variable (hq : ts[q]? = some e) (he : e.isEnd = true)
  (hsound : ∀ name, StepSound g ts (.nonTerminal name) (call name))

include hq he hsound

theorem Clause.matchAll_agrees {cs : List (Clause K)} {ms : Matches K}
    (hcs : ∀ c ∈ cs, Follows q (matchAt ts call c) (matchAt ts call' c)) (hi : i ≤ q)
    (h : matchAll ts call cs i = .ok ms) :
    ∃ ms', matchAll ts call' cs i = .ok ms' ∧ ms.Agrees ms' := by
  induction cs generalizing i ms with
  | nil =>
    rw [matchAll_nil] at h
    subst h
    exact ⟨_, matchAll_nil.2 rfl, .matched⟩
  | cons c cs ih =>
    obtain ⟨tree, stop, ended, errors, rest, ho, hrest, rfl⟩ | ⟨o, ho, hm, rfl⟩ := matchAll_cons.1 h
    · obtain ⟨o', ho', ha⟩ := hcs c (by simp) i hi _ ho
      have hle := (matchAt_sound hsound _ _ _ _ _ ho).2.le_of_isEnd hi hq he
      obtain ⟨rest', hrest', has⟩ := ih (fun d hd => hcs d (by simp [hd])) hle hrest
      cases ha with
      | matched => exact ⟨_, matchAll_cons.2 (.inl ⟨_, _, _, _, _, ho', hrest', rfl⟩), has.cons⟩
      | unmatched hm => cases hm
    · obtain ⟨o', ho', ha⟩ := hcs c (by simp) i hi _ ho
      cases ha with
      | matched => cases hm
      | unmatched _ hm' => exact ⟨_, matchAll_cons.2 (.inr ⟨o', ho', hm', rfl⟩), .failed⟩

theorem Clause.matchAt_follows (hcall : ∀ name, Follows q (call name) (call' name)) (c : Clause K) :
    Follows q (matchAt ts call c) (matchAt ts call' c) := by
  induction c using Clause.induction with
  | terminal k =>
    intro i _ o h
    rw [matchAt_terminal] at h
    refine ⟨o, matchAt_terminal.2 h, ?_⟩
    cases o with
    | matched => exact .matched
    | failed => exact .unmatched rfl rfl
    | inapplicable => exact .unmatched rfl rfl
  | nonTerminal name =>
    intro i hi o h
    rw [matchAt_nonTerminal] at h ⊢
    exact hcall name i hi o h
  | zeroOrMore c ih =>
    intro i hi o h
    obtain ⟨r, hr, h⟩ := matchAt_zeroOrMore.1 h
    obtain ⟨errors, hr'⟩ := ih.takes (matchAt_sound hsound) hq he hr hi
    obtain ⟨t, ht, rfl⟩ := Repetition.outcome_eq_ok.1 h
    exact ⟨_, matchAt_zeroOrMore.2 ⟨_, hr', Repetition.outcome_eq_ok.2 ⟨t, ht, rfl⟩⟩, .matched⟩
  | oneOrMore c ih =>
    intro i hi o h
    obtain ⟨r, hr, h⟩ := matchAt_oneOrMore_cases h
    obtain ⟨errors, hr'⟩ := ih.takes (matchAt_sound hsound) hq he hr hi
    obtain ⟨htrees, h⟩ | ⟨htrees, es, rfl⟩ := h
    · obtain ⟨t, ht, rfl⟩ := Repetition.outcome_eq_ok.1 h
      exact ⟨_, matchAt_oneOrMore_of_ne_nil hr' htrees (Repetition.outcome_eq_ok.2 ⟨t, ht, rfl⟩),
        .matched⟩
    · have hbound : i < ts.length := hi.trans_lt (List.getElem?_eq_some_iff.1 hq).1
      obtain ⟨es', ho'⟩ := matchAt_oneOrMore_of_nil hr' htrees (List.getElem?_eq_getElem hbound)
      exact ⟨_, ho', .unmatched rfl rfl⟩
  | optional c ih =>
    intro i hi o h
    obtain ⟨p, hp, rfl⟩ := matchAt_optional.1 h
    obtain ⟨p', hp', ha⟩ := ih i hi p hp
    exact ⟨_, matchAt_optional.2 ⟨p', hp', rfl⟩, ha.asOption⟩
  | group cs ih =>
    intro i hi o h
    obtain ⟨ms, hms, rfl⟩ := matchAt_group.1 h
    obtain ⟨ms', hms', ha⟩ := matchAll_agrees hq he hsound ih hi hms
    exact ⟨_, matchAt_group.2 ⟨ms', hms', rfl⟩, ha.asOutcome⟩

end

theorem Rule.leading_of_matchAll (hA : LeadsNonEmpty g.alternatives) (hadmits : g.AdmitsBegins)
    (hsound : ∀ name, StepSound g ts (.nonTerminal name) (call name)) {name : String} {index : Nat}
    {r : Rule K V} (hr : g.rule? name index = some r) {t : Token K} (ht : ts[i]? = some t)
    {trees : List (Tree K)} {stop : Nat} {errors : List (Unexpected K)}
    (h : Clause.matchAll ts call r.clauses i = .ok (.matched trees stop errors)) :
    Choice.leading r t.kind = true := by
  have hlead (b : String) (hb : Leads (.group r.clauses) b) :
      ¬ MatchesEmpty g.alternatives (.nonTerminal b) :=
    hA name r.clauses b (Grammar.alternatives_of_rule? hr) hb
  obtain ⟨hfit, hcov⟩ := Clause.matchAll_sound (fun _ _ => Clause.matchAt_sound hsound) h
  rw [Choice.leading, Bool.or_eq_true]
  -- A match without tokens shows in the form of the clauses, any other in its first token.
  cases hu : Tree.tokensAll trees with
  | nil => exact .inr ((hfit.matchesEmpty hu).isOptional hlead)
  | cons u us =>
    have hdrop := hcov.drop_eq
    rw [hu, List.cons_append] at hdrop
    have hhead : ts[i]? = some u := by
      rw [← Nat.add_zero i, ← List.getElem?_drop, hdrop]
      rfl
    rw [ht] at hhead
    cases hhead
    exact .inl (hadmits name index r hr t.kind (hfit.begins hA hlead hu))

omit [TokenKind K] in
theorem NonTerminal.firstMatch_agrees {attempt attempt' : Nat × Rule K V → Match (Outcome K)}
    {none none' : Unexpected K} {tried : Nat × Rule K V → Bool} {rs : List (Nat × Rule K V)}
    (htried : ∀ p ∈ rs, tried p = true → ∀ o, attempt p = .ok o →
      ∃ o', attempt' p = .ok o' ∧ o.Agrees o')
    (hleft : ∀ p ∈ rs, tried p = false → ∀ o, attempt p = .ok o → o.isMatch = false)
    {f : Furthest K} {o : Outcome K} (h : firstMatch attempt none rs f = .ok o) (f' : Furthest K) :
    ∃ o', firstMatch attempt' none' (rs.filter tried) f' = .ok o' ∧ o.Agrees o' := by
  induction rs generalizing f f' with
  | nil =>
    cases h
    exact ⟨_, rfl, .unmatched rfl rfl⟩
  | cons p rs ih =>
    rw [List.forall_mem_cons] at htried hleft
    rw [firstMatch, Except.bind_eq_ok] at h
    obtain ⟨q, hq, h⟩ := h
    cases hp : tried p with
    | false =>
      have hm := hleft.1 hp q hq
      rw [List.filter_cons_of_neg (by simp [hp])]
      cases q with
      | matched => cases hm
      | failed => exact ih htried.2 hleft.2 h _
      | inapplicable => exact ih htried.2 hleft.2 h _
    | true =>
      obtain ⟨q', hq', ha⟩ := htried.1 hp q hq
      simp only [List.filter_cons_of_pos hp, firstMatch, Except.bind_eq_ok, hq', Except.ok.injEq,
        exists_eq_left']
      cases ha with
      | matched =>
        cases h
        exact ⟨_, rfl, .matched⟩
      | unmatched hm hm' =>
        cases q with
        | matched => cases hm
        | failed | inapplicable =>
          cases q' with
          | matched => cases hm'
          | failed => exact ih htried.2 hleft.2 h _
          | inapplicable => exact ih htried.2 hleft.2 h _

section

variable (hq : ts[q]? = some e) (he : e.isEnd = true)
  (hsound : ∀ name, StepSound g ts (.nonTerminal name) (call name))
  (hcall : ∀ name, Follows q (call name) (call' name))

include hq he hsound hcall

theorem Rule.matchBy_agrees {name : String} {index : Nat} {r : Rule K V} {t : Token K}
    (ht : ts[i]? = some t) (hi : i ≤ q) (hlead : Choice.leading r t.kind = true) {o : Outcome K}
    (h : r.matchBy .all ts call name index i = .ok o) :
    ∃ o', r.matchBy .leading ts call' name index i = .ok o' ∧ o.Agrees o' := by
  obtain ⟨u, -, ms, hms, rfl⟩ := matchBy_eq_ok.1 h
  obtain ⟨ms', hms', ha⟩ := Clause.matchAll_agrees hq he hsound
    (fun c _ => Clause.matchAt_follows hq he hsound hcall c) hi hms
  refine ⟨_, matchBy_eq_ok.2 ⟨t, ht, ?_⟩, ha.asOutcome⟩
  rw [if_pos hlead]
  exact ⟨ms', hms', rfl⟩

variable (hA : LeadsNonEmpty g.alternatives) (hadmits : g.AdmitsBegins)

include hA hadmits

omit hq he hcall in
theorem Rule.not_isMatch_of_not_leading {a name : String} {index : Nat} {r : Rule K V}
    (hr : g.rule? a index = some r) {t : Token K} (ht : ts[i]? = some t)
    (hlead : Choice.leading r t.kind = false) {o : Outcome K}
    (h : r.matchBy .all ts call name index i = .ok o) : o.isMatch = false := by
  obtain ⟨u, -, ms, hms, rfl⟩ := matchBy_eq_ok.1 h
  cases ms with
  | failed => rfl
  | matched trees stop errors =>
    rw [leading_of_matchAll hA hadmits hsound hr ht hms] at hlead
    cases hlead

theorem NonTerminal.matchBy_follows {name : String} {n : NonTerminal K V}
    (hn : g.nonTerminal? name = some n) :
    Follows q (n.matchBy .all ts call) (n.matchBy .leading ts call') := by
  intro i hi o h
  obtain ⟨t, ht, h⟩ := matchBy_eq_ok.1 h
  have hall : (n.numbered.filter fun p => Choice.all p.2 t.kind) = n.numbered :=
    List.filter_eq_self.2 fun _ _ => rfl
  rw [hall] at h
  simp only [matchBy_eq_ok, ht, Option.some.injEq, exists_eq_left']
  split at h
  · next hnil =>
    rw [hnil, h]
    exact ⟨_, rfl, .unmatched rfl rfl⟩
  · obtain ⟨o', ho', ha⟩ := firstMatch_agrees
      (fun p _ hp o ho => Rule.matchBy_agrees hq he hsound hcall ht hi hp ho)
      (fun p hmem hp o ho => Rule.not_isMatch_of_not_leading hsound hA hadmits
        (Grammar.rule?_eq_some.2 ⟨n, hn, mem_numbered.1 hmem⟩) ht hp ho) h ⟨0, []⟩
    split
    · next hnil =>
      rw [hnil] at ho'
      cases ho'
      cases ha with
      | unmatched hm _ => exact ⟨_, rfl, .unmatched hm rfl⟩
    · exact ⟨o', ho', ha⟩

end

namespace Grammar

theorem callBy_follows (hA : LeadsNonEmpty g.alternatives) (hadmits : g.AdmitsBegins)
    (hq : ts[q]? = some e) (he : e.isEnd = true) {depth : Nat} (name : String) :
    Follows q (g.callBy .all ts depth name) (g.callBy .leading ts depth name) := by
  induction depth generalizing name with
  | zero =>
    intro i _ o h
    cases h
  | succ depth ih =>
    intro i hi o h
    obtain ⟨t, ht, h⟩ := callBy_succ.1 h
    simp only [callBy_succ, ht, Option.some.injEq, exists_eq_left']
    cases hn : g.nonTerminal? name with
    | none =>
      rw [hn] at h
      subst h
      exact ⟨_, rfl, .unmatched rfl rfl⟩
    | some n =>
      rw [hn] at h
      exact NonTerminal.matchBy_follows hq he callBy_sound ih hA hadmits hn i hi o h

end Grammar

/-- Where no non-terminal comes back to itself and none that can match without a token stands at a
leading position, matching with and without leading tokens comes to an end and gives the same
matches. -/
theorem matchClause_iff_matchUnfiltered {start : String} {ps : List (Production K V)}
    (hg : Grammar.build start ps = .ok g) (hl : NoLeftRecursion g.alternatives)
    (hA : LeadsNonEmpty g.alternatives) (hlast : ts.getLast? = some e) (he : e.isEnd = true)
    (c : Clause K) (hi : i < ts.length) :
    (∃ o, g.matchClause ts c i = .ok o) ∧ (∃ o, g.matchUnfiltered ts c i = .ok o) ∧
      ∀ tree stop, (∃ ended errors, g.matchClause ts c i = .ok (.matched tree stop ended errors)) ↔
        ∃ ended errors, g.matchUnfiltered ts c i = .ok (.matched tree stop ended errors) := by
  rw [List.getLast?_eq_getElem?] at hlast
  have hle : i ≤ ts.length - 1 := Nat.le_sub_one_of_lt hi
  rw [Grammar.matchClause, ← Grammar.callBy_leading, Grammar.matchUnfiltered]
  obtain ⟨p, hp⟩ : ∃ p, c.matchAt ts (g.callBy .all ts (g.depth ts)) i = .ok p :=
    Grammar.exists_matchAt hl hlast he c hle
  have hadmits : g.AdmitsBegins := Grammar.admitsBegins_of_build hg hl
  obtain ⟨o, ho, ha⟩ := Clause.matchAt_follows hlast he Grammar.callBy_sound
    (Grammar.callBy_follows hA hadmits hlast he) c i hle p hp
  refine ⟨⟨_, ho⟩, ⟨_, hp⟩, fun tree stop => ?_⟩
  rw [ho, hp]
  cases ha with
  | matched => simp
  | unmatched hm hm' =>
    constructor
    · rintro ⟨ended, errors, h⟩
      cases h
      cases hm'
    · rintro ⟨ended, errors, h⟩
      cases h
      cases hm

namespace Brackets

theorem alternatives_cases {name : String} {cs : List (Clause Json.TokenType)}
    (h : grammar.alternatives name cs) :
    (name = "list" ∧
        cs = [.terminal .openBracket, .zeroOrMore (.nonTerminal "item"), .terminal .closeBracket]) ∨
      (name = "item" ∧ (cs = [.terminal .int] ∨ cs = [.nonTerminal "list"])) := by
  obtain ⟨n, hn, r, hr, rfl⟩ := h
  have hname := NonTerminal.name_of_find? hn
  have hmem := NonTerminal.mem_of_find? hn
  simp only [grammar, List.mem_cons, List.not_mem_nil, or_false] at hmem
  obtain rfl | rfl := hmem
  · simp only [List.mem_cons, List.not_mem_nil, or_false] at hr
    subst hr
    exact .inl ⟨hname.symm, rfl⟩
  · simp only [List.mem_cons, List.not_mem_nil, or_false] at hr
    refine .inr ⟨hname.symm, ?_⟩
    obtain rfl | rfl := hr
    · exact .inl rfl
    · exact .inr rfl

theorem not_derives_nil (name : String) : ¬ Derives grammar.alternatives (.nonTerminal name) [] := by
  have hlist : ¬ Derives grammar.alternatives (.nonTerminal "list") [] := by
    rw [Derives.nonTerminal_iff]
    rintro ⟨cs, ha, h⟩
    obtain ⟨-, rfl⟩ | ⟨hname, -⟩ := alternatives_cases ha
    · simp at h
    · simp at hname
  rw [Derives.nonTerminal_iff]
  rintro ⟨cs, ha, h⟩
  obtain ⟨-, rfl⟩ | ⟨-, rfl | rfl⟩ := alternatives_cases ha
  · simp at h
  · simp at h
  · exact hlist (by simpa using h)

theorem leadsNonEmpty : LeadsNonEmpty grammar.alternatives :=
  fun _ _ b _ _ h => not_derives_nil b h.derives

theorem noLeftRecursion : NoLeftRecursion grammar.alternatives :=
  Grammar.noLeftRecursion_of_level (fun a => if a = "item" then 1 else 0) (by decide)

def items : Clause Json.TokenType := .zeroOrMore (.nonTerminal "item")

theorem items_iff_unfiltered :
    (∃ o, grammar.matchClause (Grammar.withEndMarker tokens) items 1 = .ok o) ∧
      (∃ o, grammar.matchUnfiltered (Grammar.withEndMarker tokens) items 1 = .ok o) ∧
      ∀ tree stop,
        (∃ ended errors, grammar.matchClause (Grammar.withEndMarker tokens) items 1 =
            .ok (.matched tree stop ended errors)) ↔
          ∃ ended errors, grammar.matchUnfiltered (Grammar.withEndMarker tokens) items 1 =
            .ok (.matched tree stop ended errors) :=
  matchClause_iff_matchUnfiltered build_productions noLeftRecursion leadsNonEmpty rfl rfl items
    (by decide)

end Brackets

end Parsing
