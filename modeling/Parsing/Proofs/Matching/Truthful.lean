import Parsing.Proofs.Grammar.Derivation
import Parsing.Proofs.Grammar.LeadingSets
import Parsing.Proofs.Matching.Start

namespace Parsing

variable {K V : Type} [TokenKind K]

def Grammar.HasTerminal (g : Grammar K V) (k : K) : Prop :=
  ∃ name cs, g.alternatives name cs ∧ .terminal k ∈ Clause.walkAll cs

structure Unexpected.Truthful (g : Grammar K V) (ts : List (Token K)) (p q : Nat)
    (e : Unexpected K) : Prop where
  cited : ∃ i, p ≤ i ∧ i ≤ q ∧ ts[i]? = some e.token
  nodup : e.expected.Nodup
  hasTerminal : ∀ k ∈ e.expected, g.HasTerminal k
  ne_endMarker : ∀ k ∈ e.expected, k ≠ TokenKind.endMarker
  not_mem : e.token.kind ∉ e.expected

structure Grammar.Honest (g : Grammar K V) : Prop where
  endMarker : ¬ g.HasTerminal TokenKind.endMarker
  leading : ∀ name index r, g.rule? name index = some r → ∀ k ∈ r.leading.toList, g.HasTerminal k

omit [TokenKind K] in
theorem Clause.terminal_mem_walk_group {k : K} {cs : List (Clause K)} :
    terminal k ∈ (group cs).walk ↔ terminal k ∈ walkAll cs := by
  simp [walk]

omit [TokenKind K] in
theorem Clause.mem_walkAll {b c : Clause K} {cs : List (Clause K)} (hc : c ∈ cs) (hb : b ∈ c.walk) :
    b ∈ walkAll cs := by
  rw [walkAll_eq, List.mem_flatMap]
  exact ⟨c, hc, hb⟩

omit [TokenKind K] in
theorem Clause.mem_walk_trans {b c d : Clause K} (hc : c ∈ d.walk) (hb : b ∈ c.walk) :
    b ∈ d.walk := by
  induction d using Clause.induction with
  | terminal k =>
    obtain rfl := List.mem_singleton.1 hc
    exact hb
  | nonTerminal name =>
    obtain rfl := List.mem_singleton.1 hc
    exact hb
  | zeroOrMore d ih | oneOrMore d ih | optional d ih =>
    obtain rfl | hc := List.mem_cons.1 hc
    · exact hb
    · exact List.mem_cons_of_mem _ (ih hc)
  | group ds ih =>
    obtain rfl | hc := List.mem_cons.1 hc
    · exact hb
    · rw [walkAll_eq, List.mem_flatMap] at hc
      obtain ⟨d, hd, hc⟩ := hc
      exact List.mem_cons_of_mem _ (mem_walkAll hd (ih d hd hc))

omit [TokenKind K] in
theorem Begins.exists_terminal {A : Alternatives K} {c : Clause K} {k : K} (h : Begins A c k) :
    .terminal k ∈ c.walk ∨ ∃ name cs, A name cs ∧ .terminal k ∈ Clause.walkAll cs := by
  induction h with
  | terminal => exact .inl (Clause.mem_walk_self _)
  | nonTerminal ha _ ih =>
    exact .inr (ih.elim (fun hk => ⟨_, _, ha, Clause.terminal_mem_walk_group.1 hk⟩) id)
  | zeroOrMore _ ih | oneOrMore _ ih | optional _ ih =>
    exact ih.imp_left fun hk => by simp [Clause.walk, hk]
  | group_head _ ih => exact ih.imp_left fun hk => by simp [Clause.walk, Clause.walkAll, hk]
  | group_tail _ _ ih =>
    refine ih.imp_left fun hk => ?_
    simp [Clause.walk, Clause.walkAll, Clause.terminal_mem_walk_group.1 hk]

namespace Grammar

variable {g : Grammar K V} {start : String} {ps : List (Production K V)}

theorem honest_of_build (hg : build start ps = .ok g) : g.Honest where
  endMarker := fun ⟨_, _, ha, hk⟩ => endMarker_not_mem hg ha hk
  leading := by
    intro name index r hr k hk
    obtain ⟨rules, -, -, -, rfl⟩ := of_build_eq_ok hg
    obtain ⟨q, hq, rfl⟩ := Leading.rule?_fill hr
    obtain ⟨s, -, hs, hadmissible⟩ := Leading.entries_compute hq start
    have hbegins := hadmissible.begins k (hs ▸ hk)
    rw [HasTerminal, alternatives, Leading.alternatives_fill]
    exact hbegins.exists_terminal.elim
      (fun hk => ⟨name, q.clauses, hq.alternatives, Clause.terminal_mem_walk_group.1 hk⟩) id

end Grammar

variable {g : Grammar K V} {ts : List (Token K)} {call : String → Nat → Match (Outcome K)}
  {i j p q : Nat} {t : Token K}

namespace Unexpected.Truthful

theorem mono {e : Unexpected K} (h : e.Truthful g ts j q) (hij : i ≤ j) : e.Truthful g ts i q where
  cited := by
    obtain ⟨k, hj, hq, ht⟩ := h.cited
    exact ⟨k, hij.trans hj, hq, ht⟩
  nodup := h.nodup
  hasTerminal := h.hasTerminal
  ne_endMarker := h.ne_endMarker
  not_mem := h.not_mem

theorem nothingExpected (ht : ts[i]? = some t) (hp : p ≤ i) (hi : i ≤ q) :
    (Unexpected.nothingExpected t).Truthful g ts p q where
  cited := ⟨i, hp, hi, ht⟩
  nodup := List.nodup_nil
  hasTerminal := by simp [Unexpected.nothingExpected, Unexpected.expected]
  ne_endMarker := by simp [Unexpected.nothingExpected, Unexpected.expected]
  not_mem := by simp [Unexpected.nothingExpected, Unexpected.expected]

theorem expectedAny (hg : g.Honest) (ht : ts[i]? = some t) (hi : i ≤ q) {ks : List K}
    (hnodup : ks.Nodup) (hks : ∀ k ∈ ks, g.HasTerminal k) (hnot : t.kind ∉ ks) :
    (Unexpected.expectedAny t ks).Truthful g ts i q where
  cited := ⟨i, Nat.le_refl i, hi, ht⟩
  nodup := hnodup
  hasTerminal := hks
  ne_endMarker := by
    rintro k hk rfl
    exact hg.endMarker (hks _ hk)
  not_mem := hnot

theorem expectedOne (hg : g.Honest) (ht : ts[i]? = some t) (hi : i ≤ q) {k : K}
    (hk : g.HasTerminal k) (hnot : ¬ (t.kind = k ∧ t.isEnd = false)) :
    (Unexpected.expectedOne t k).Truthful g ts i q := by
  refine expectedAny hg ht hi (List.nodup_singleton k) (by simpa using hk) ?_
  rw [List.mem_singleton]
  rintro rfl
  -- The token would be an end marker, and no rule asks for one.
  have hend : t.isEnd = true := by simpa using hnot
  rw [Token.isEnd, decide_eq_true_eq] at hend
  exact hg.endMarker (hend ▸ hk)

theorem noStart (hg : g.Honest) {name : String} {n : NonTerminal K V}
    (hn : g.nonTerminal? name = some n) (ht : ts[i]? = some t) (hi : i ≤ q)
    (hadmits : ∀ r ∈ n.rules, r.admits t.kind = false) : (n.noStart t).Truthful g ts i q := by
  refine expectedAny hg ht hi (LeadingTokens.nodup_ofList _) (fun k hk => ?_) fun hk => ?_
  · obtain ⟨r, hr, hk⟩ := NonTerminal.mem_leading.1 hk
    obtain ⟨index, hindex⟩ := List.mem_iff_getElem?.1 hr
    exact hg.leading name index r (Grammar.rule?_eq_some.2 ⟨n, hn, hindex⟩) k hk
  · obtain ⟨r, hr, hk⟩ := NonTerminal.mem_leading.1 hk
    have hadmit := hadmits r hr
    rw [Rule.admits, LeadingTokens.contains_iff.2 hk] at hadmit
    cases hadmit

end Unexpected.Truthful

def Matches.errors : Matches K → List (Unexpected K)
  | matched _ _ errors | failed errors _ => errors

omit [TokenKind K] in
@[simp] theorem Matches.errors_cons {ms : Matches K} {tree : Tree K} {errors : List (Unexpected K)} :
    (ms.cons tree errors).errors = errors ++ ms.errors := by
  cases ms with
  | matched => rfl
  | failed => rfl

@[simp] theorem Matches.errors_asOutcome {ms : Matches K} {tree : List (Tree K) → Tree K} :
    (ms.asOutcome ts tree).errors = ms.errors := by
  cases ms with
  | matched => rfl
  | failed => rfl

def StepTruthful (g : Grammar K V) (ts : List (Token K)) (q : Nat)
    (step : Nat → Match (Outcome K)) : Prop :=
  ∀ i ≤ q, ∀ o, step i = .ok o → ∀ e ∈ o.errors, e.Truthful g ts i q

theorem Takes.truthful {step : Nat → Match (Outcome K)} {r : Repetition K}
    (hwithin : StepWithin q step) (hstep : StepTruthful g ts q step) (h : Takes ts step i r)
    (hi : i ≤ q) : ∀ e ∈ r.errors, e.Truthful g ts i q := by
  induction h with
  | done ho => exact hstep _ hi _ ho
  | last => simp
  | more ho hlt _ _ _ ih =>
    have hstop := ((hwithin _ hi).of_eq_ok ho).stop_mem
    exact fun e he => (ih hstop.2 e he).mono hstop.1

theorem Repetition.errors_outcome {r : Repetition K} {o : Outcome K} (h : r.outcome ts = .ok o) :
    ∀ e ∈ o.errors, e ∈ r.errors := by
  obtain ⟨t, -, rfl⟩ := outcome_eq_ok.1 h
  exact fun e he => (List.mem_filter.1 he).1

section

variable {e : Token K} (hg : g.Honest) (hq : ts[q]? = some e) (he : e.isEnd = true)
  (hwithin : ∀ name, StepWithin q (call name))
  (hcall : ∀ name, StepTruthful g ts q (call name))

namespace Clause

theorem matchAll_truthful {cs : List (Clause K)}
    (hsteps : ∀ c ∈ cs, StepWithin q (matchAt ts call c))
    (hcs : ∀ c ∈ cs, StepTruthful g ts q (matchAt ts call c)) (hi : i ≤ q) {ms : Matches K}
    (h : matchAll ts call cs i = .ok ms) : ∀ e ∈ ms.errors, e.Truthful g ts i q := by
  induction cs generalizing i ms with
  | nil =>
    cases matchAll_nil.1 h
    simp [Matches.errors]
  | cons c cs ih =>
    have hc := hcs c (by simp) i hi
    obtain ⟨tree, stop, ended, errors, rest, ho, hrest, rfl⟩ | ⟨o, ho, -, rfl⟩ := matchAll_cons.1 h
    · have hstop := ((hsteps c (by simp) i hi).of_eq_ok ho).stop_mem
      have hmore := ih (fun d hd => hsteps d (by simp [hd])) (fun d hd => hcs d (by simp [hd]))
        hstop.2 hrest
      rw [Matches.errors_cons, List.forall_mem_append]
      exact ⟨hc _ ho, fun e he => (hmore e he).mono hstop.1⟩
    · exact hc o ho

include hg hq he hwithin hcall

theorem matchAt_truthful {c : Clause K} (hc : ∀ k, .terminal k ∈ c.walk → g.HasTerminal k) :
    StepTruthful g ts q (matchAt ts call c) := by
  induction c using Clause.induction with
  | terminal k =>
    intro i hi o h
    obtain ⟨t, ht, rfl⟩ := matchAt_terminal.1 h
    split
    · simp [Outcome.matchedAt, Outcome.errors]
    · next hnot =>
      have hk : g.HasTerminal k := hc k (mem_walk_self _)
      simpa [Outcome.errors] using Unexpected.Truthful.expectedOne hg ht hi hk hnot
  | nonTerminal name =>
    intro i hi o h
    rw [matchAt_nonTerminal] at h
    exact hcall name i hi o h
  | zeroOrMore c ih =>
    intro i hi o h
    obtain ⟨r, hr, h⟩ := matchAt_zeroOrMore.1 h
    have hstep := ih fun k hk => hc k (by simp [walk, hk])
    have hr := hr.truthful (matchAt_safe hq he hwithin c) hstep hi
    exact fun e he => hr e (Repetition.errors_outcome h e he)
  | oneOrMore c ih =>
    intro i hi o h
    obtain ⟨r, hr, h⟩ := matchAt_oneOrMore.1 h
    have hstep := ih fun k hk => hc k (by simp [walk, hk])
    have hr := hr.truthful (matchAt_safe hq he hwithin c) hstep hi
    split at h
    · exact fun e he => hr e (Repetition.errors_outcome h e he)
    · split at h
      · subst h
        exact hr
      · obtain ⟨t, ht, rfl⟩ := h
        simpa [Outcome.errors] using
          Unexpected.Truthful.nothingExpected (g := g) ht (Nat.le_refl i) hi
  | optional c ih =>
    intro i hi o h
    obtain ⟨p, hp, rfl⟩ := matchAt_optional.1 h
    have hp := ih (fun k hk => hc k (by simp [walk, hk])) i hi p hp
    cases p with
    | matched => exact hp
    | failed => simp [Outcome.asOption, Outcome.matchedAt, Outcome.errors]
    | inapplicable => simp [Outcome.asOption, Outcome.matchedAt, Outcome.errors]
  | group cs ih =>
    intro i hi o h
    obtain ⟨ms, hms, rfl⟩ := matchAt_group.1 h
    have hmem {d : Clause K} (hd : d ∈ cs) (k : K) (hk : .terminal k ∈ d.walk) :
        g.HasTerminal k :=
      hc k (terminal_mem_walk_group.2 (mem_walkAll hd hk))
    rw [Matches.errors_asOutcome]
    exact matchAll_truthful (fun d _ => matchAt_safe hq he hwithin d)
      (fun d hd => ih d hd (hmem hd)) hi hms

end Clause

include hg hq he hwithin hcall

theorem Rule.matchAt_truthful {a name : String} {index : Nat} {r : Rule K V}
    (hr : g.alternatives a r.clauses) : StepTruthful g ts q (r.matchAt ts call name index) := by
  intro i hi o h
  rw [← matchBy_leading] at h
  obtain ⟨t, -, h⟩ := matchBy_eq_ok.1 h
  split at h
  · obtain ⟨ms, hms, rfl⟩ := h
    rw [Matches.errors_asOutcome]
    have hmem {d : Clause K} (hd : d ∈ r.clauses) (k : K) (hk : .terminal k ∈ d.walk) :
        g.HasTerminal k :=
      ⟨a, r.clauses, hr, Clause.mem_walkAll hd hk⟩
    exact Clause.matchAll_truthful (fun d _ => Clause.matchAt_safe hq he hwithin d)
      (fun d hd => Clause.matchAt_truthful hg hq he hwithin hcall (hmem hd)) hi hms
  · subst h
    simp [Outcome.errors]

end

namespace NonTerminal

omit [TokenKind K] in
theorem eq_false_of_filter_numbered {n : NonTerminal K V} (p : Rule K V → Bool)
    (h : n.numbered.filter (fun x => p x.2) = []) {r : Rule K V} (hr : r ∈ n.rules) :
    p r = false := by
  obtain ⟨index, hindex⟩ := List.mem_iff_getElem?.1 hr
  simpa using List.filter_eq_nil_iff.1 h (index, r) (mem_numbered.2 hindex)

omit [TokenKind K] in
theorem forall_errors_note {P : Unexpected K → Prop} {f : Furthest K} {o : Outcome K}
    (hf : ∀ e ∈ f.errors, P e) (ho : ∀ e ∈ o.errors, P e) : ∀ e ∈ (f.note o).errors, P e := by
  rw [Furthest.note]
  split
  · exact ho
  · exact hf

omit [TokenKind K] in
theorem errors_note_ne_nil {f : Furthest K} {errors : List (Unexpected K)} {stop : Nat}
    (hf : f.stop ≠ 0 → f.errors ≠ []) (herrors : errors ≠ []) :
    (f.note (.failed errors stop)).errors ≠ [] := by
  rw [Furthest.note]
  split
  · exact herrors
  · next h =>
    refine hf fun hzero => h ?_
    -- As long as nothing went past the first token, any failure is taken note of.
    obtain hstop | hstop := Nat.eq_zero_or_pos stop
    · simp [Outcome.stop, hzero, hstop]
    · simp [Outcome.stop, Outcome.errors, hzero, hstop, herrors]

omit [TokenKind K] in
theorem forall_errors_firstMatch {P : Unexpected K → Prop}
    {attempt : Nat × Rule K V → Match (Outcome K)} {none : Unexpected K}
    {rs : List (Nat × Rule K V)}
    (hattempt : ∀ p ∈ rs, ∀ o, attempt p = .ok o → o.Within i q ∧ ∀ e ∈ o.errors, P e)
    {f : Furthest K} (hf : ∀ e ∈ f.errors, P e) (hstop : f.stop ≠ 0 → f.errors ≠ [])
    (hrs : rs = [] → f.errors ≠ []) {o : Outcome K} (h : firstMatch attempt none rs f = .ok o) :
    ∀ e ∈ o.errors, P e := by
  induction rs generalizing f with
  | nil =>
    -- Once a rule has been tried there are errors, so the fallback `none` is not among them.
    cases h
    simpa [Outcome.errors, hrs rfl] using hf
  | cons p rs ih =>
    obtain ⟨o', ho', h⟩ := Except.bind_eq_ok.1 h
    obtain ⟨hwithin, herrors⟩ := hattempt p (by simp) o' ho'
    have hnote := forall_errors_note hf herrors
    cases hwithin with
    | matched =>
      cases h
      exact hnote
    | @failed errors stop hne =>
      have hne : (f.note (.failed errors stop)).errors ≠ [] := errors_note_ne_nil hstop hne
      exact ih (fun p hp => hattempt p (by simp [hp])) hnote (fun _ => hne) (fun _ => hne) h

theorem matchAt_truthful {e : Token K} (hg : g.Honest) (hq : ts[q]? = some e)
    (he : e.isEnd = true) (hwithin : ∀ name, StepWithin q (call name))
    (hcall : ∀ name, StepTruthful g ts q (call name)) {name : String} {n : NonTerminal K V}
    (hn : g.nonTerminal? name = some n) : StepTruthful g ts q (n.matchAt ts call) := by
  intro i hi o h
  rw [← matchBy_leading] at h
  obtain ⟨t, ht, h⟩ := matchBy_eq_ok.1 h
  split at h
  · next hnone =>
    subst h
    have hadmits (r : Rule K V) (hr : r ∈ n.rules) : r.admits t.kind = false :=
      (Bool.or_eq_false_iff.1
        (eq_false_of_filter_numbered (fun r => Choice.leading r t.kind) hnone hr)).1
    simpa [Outcome.errors] using Unexpected.Truthful.noStart hg hn ht hi hadmits
  · next hsome =>
    refine forall_errors_firstMatch (i := i) (q := q) (fun p hp o ho => ?_) (by simp) (by simp)
      (fun hnil => absurd hnil hsome) h
    obtain ⟨hmem, happly⟩ := List.mem_filter.1 hp
    have hr : g.alternatives name p.2.clauses :=
      ⟨n, hn, p.2, List.mem_of_getElem? (mem_numbered.1 hmem), rfl⟩
    rw [Rule.matchBy_leading] at ho
    exact ⟨(candidate_safe hq he hwithin ht hp hi).of_eq_ok ho,
      Rule.matchAt_truthful hg hq he hwithin hcall hr i hi o ho⟩

end NonTerminal

namespace Grammar

variable {e : Token K} (hg : g.Honest) (hq : ts[q]? = some e) (he : e.isEnd = true)

include hg hq he

theorem call_truthful {depth : Nat} (name : String) :
    StepTruthful g ts q (g.call ts depth name) := by
  induction depth generalizing name with
  | zero =>
    intro i _ o h
    cases h
  | succ depth ih =>
    intro i hi o h
    obtain ⟨t, ht, h⟩ := Except.bind_eq_ok.1 h
    cases hn : g.nonTerminal? name with
    | none =>
      rw [hn] at h
      cases h
      simpa [Outcome.errors] using Unexpected.Truthful.nothingExpected (g := g)
        (tokenAt_eq_ok.1 ht) (Nat.le_refl i) hi
    | some n =>
      rw [hn] at h
      exact NonTerminal.matchAt_truthful hg hq he (call_safe hq he) ih hn i hi o h

theorem matchAt_truthful_of_rule {depth : Nat} {name : String} {index : Nat} {r : Rule K V}
    (hr : g.rule? name index = some r) {c : Clause K} (hc : c ∈ Clause.walkAll r.clauses) :
    StepTruthful g ts q (c.matchAt ts (g.call ts depth)) :=
  Clause.matchAt_truthful hg hq he (call_safe hq he) (call_truthful hg hq he) fun _ hk =>
    ⟨name, r.clauses, alternatives_of_rule? hr, Clause.terminal_mem_walk_group.1
      (Clause.mem_walk_trans (List.mem_cons_of_mem _ hc) hk)⟩

theorem matchRule_truthful {depth : Nat} {name : String} {index : Nat} {r : Rule K V}
    (hr : g.rule? name index = some r) :
    StepTruthful g ts q (r.matchAt ts (g.call ts depth) name index) :=
  Rule.matchAt_truthful hg hq he (call_safe hq he) (call_truthful hg hq he)
    (alternatives_of_rule? hr)

omit hg hq he in
theorem mem_errors_report {attempts : List (Outcome K)} {o : Outcome K}
    (h : report ts attempts = .ok o) : ∀ e ∈ o.errors,
      (∃ t, ts[(attempts.map Outcome.stop).foldl max 0]? = some t ∧ e = .nothingExpected t) ∨
        ∃ a ∈ attempts, e ∈ a.errors := by
  obtain ⟨t, ht, h⟩ := Except.bind_eq_ok.1 h
  cases Except.pure_eq_ok.1 h
  intro e he
  rw [Outcome.errors, Option.mem_toList] at he
  have hmem := (List.mergeSort_perm _ _).mem_iff.1 (List.mem_of_getLast? he)
  rw [List.mem_cons, List.mem_flatMap] at hmem
  obtain rfl | ⟨a, ha, hea⟩ := hmem
  · exact .inl ⟨t, tokenAt_eq_ok.1 ht, rfl⟩
  · exact .inr ⟨a, (List.mem_filter.1 ha).1, hea⟩

theorem matchStart_truthful {start : String} {n : NonTerminal K V}
    (hn : g.nonTerminal? start = some n) {o : Outcome K} (h : g.matchStart ts n = .ok o) :
    ∀ e ∈ o.errors, e.Truthful g ts 0 q := by
  obtain ⟨t, ht, h⟩ := Except.bind_eq_ok.1 h
  rw [tokenAt_eq_ok] at ht
  obtain ⟨attempts, hattempts, h⟩ := Except.bind_eq_ok.1 h
  have htried : ∀ a ∈ attempts, a.stop ≤ q ∧ ∀ e ∈ a.errors, e.Truthful g ts 0 q := by
    intro a ha
    obtain ⟨⟨index, r⟩, hp, ha⟩ := Match.mem_of_mapM_eq_ok hattempts ha
    have hr : g.rule? n.name index = some r := by
      rw [rule?_eq_some, NonTerminal.name_of_find? hn]
      exact ⟨n, hn, NonTerminal.mem_numbered.1 (List.mem_filter.1 hp).1⟩
    exact ⟨((matchRule_safe hq he (Nat.zero_le q)).of_eq_ok ha).2,
      matchRule_truthful hg hq he hr 0 (Nat.zero_le q) a ha⟩
  split at h
  · next hnone =>
    cases h
    have hrules : n.numbered.filter (fun p => p.2.admits t.kind) = [] :=
      Match.eq_nil_of_mapM_eq_nil (List.isEmpty_iff.1 hnone ▸ hattempts)
    simpa [Outcome.errors] using Unexpected.Truthful.noStart hg hn ht (Nat.zero_le q)
      fun r hr => NonTerminal.eq_false_of_filter_numbered (·.admits t.kind) hrules hr
  · split at h
    · next a ha =>
      cases h
      exact (htried _ (List.mem_of_find?_eq_some ha)).2
    · intro e he
      obtain ⟨t, ht, rfl⟩ | ⟨a, ha, hea⟩ := mem_errors_report h e he
      · have hstop : (attempts.map Outcome.stop).foldl max 0 ≤ q :=
          foldl_max_le (Nat.zero_le q) (by simpa using fun a ha => (htried a ha).1)
        exact .nothingExpected ht (Nat.zero_le _) hstop
      · exact (htried a ha).2 e hea

omit hq in
theorem parse_truthful {start : String} {us : List (Token K)}
    (hq : (withEndMarker us)[q]? = some e) {o : Outcome K} (h : g.parse us start = .ok o) :
    ∀ e ∈ o.errors, e.Truthful g (withEndMarker us) 0 q := by
  rw [parse] at h
  cases hn : g.nonTerminal? start with
  | some n =>
    rw [hn] at h
    exact matchStart_truthful hg hq he hn h
  | none =>
    rw [hn] at h
    obtain ⟨t, ht, h⟩ := Except.bind_eq_ok.1 h
    cases h
    simpa [Outcome.errors] using Unexpected.Truthful.nothingExpected (g := g)
      (tokenAt_eq_ok.1 ht) (Nat.le_refl 0) (Nat.zero_le q)

end Grammar

/-- With a grammar that was built, all errors are truthful: those of the rules of the grammar, of
the clauses in them and of non-terminals, wherever they are matched, and those of a parse. A parse
that fails has one error to report. -/
theorem errors_are_truthful {start : String} {ps : List (Production K V)}
    (hg : Grammar.build start ps = .ok g) (ts : List (Token K)) :
    (∀ p < (Grammar.withEndMarker ts).length, ∃ q, EndsAt (Grammar.withEndMarker ts) p q ∧
      ∀ depth o,
        (∀ name index r, g.rule? name index = some r →
          (r.matchAt (Grammar.withEndMarker ts) (g.call (Grammar.withEndMarker ts) depth) name index
              p = .ok o → ∀ e ∈ o.errors, e.Truthful g (Grammar.withEndMarker ts) p q) ∧
          ∀ c ∈ Clause.walkAll r.clauses,
            c.matchAt (Grammar.withEndMarker ts) (g.call (Grammar.withEndMarker ts) depth) p =
              .ok o → ∀ e ∈ o.errors, e.Truthful g (Grammar.withEndMarker ts) p q) ∧
        ∀ name, g.call (Grammar.withEndMarker ts) depth name p = .ok o →
          ∀ e ∈ o.errors, e.Truthful g (Grammar.withEndMarker ts) p q) ∧
    ∀ start' o, g.parse ts start' = .ok o → ∃ q, EndsAt (Grammar.withEndMarker ts) 0 q ∧
      (∀ e ∈ o.errors, e.Truthful g (Grammar.withEndMarker ts) 0 q) ∧
      (o.isMatch = false → ∃ e, o.errors = [e]) := by
  have hhonest := Grammar.honest_of_build hg
  obtain ⟨last, hlast, hisEnd⟩ := Grammar.getElem?_last_withEndMarker ts
  refine ⟨fun p hp => ?_, fun start' o h => ?_⟩
  · obtain ⟨q, hpq⟩ := exists_endsAt (Nat.le_sub_one_of_lt hp) hlast hisEnd
    obtain ⟨e, hq, he⟩ := hpq.isEnd
    refine ⟨q, hpq, fun depth o => ⟨fun name index r hr => ⟨fun h => ?_, fun c hc h => ?_⟩,
      fun name h => ?_⟩⟩
    · exact Grammar.matchRule_truthful hhonest hq he hr p hpq.le o h
    · exact Grammar.matchAt_truthful_of_rule hhonest hq he hr hc p hpq.le o h
    · exact Grammar.call_truthful hhonest hq he name p hpq.le o h
  · obtain ⟨q, hpq⟩ := exists_endsAt (Nat.zero_le _) hlast hisEnd
    obtain ⟨e, hq, he⟩ := hpq.isEnd
    refine ⟨q, hpq, Grammar.parse_truthful hhonest he hq h, fun hm => ?_⟩
    obtain ⟨index, hwins⟩ | ⟨⟨e', stop, rfl⟩, -⟩ := Grammar.parse_eq_ok h
    · obtain ⟨_, _, _, rfl, -⟩ := hwins.exists_eq
      cases hm
    · exact ⟨e', rfl⟩

namespace Brackets

def unclosed : List (Token Json.TokenType) := [.openBracket, .int].map token

theorem parse_unclosed : grammar.parse unclosed "list" =
    .ok (.failed [.expectedOne (token .endMarker) .closeBracket] 2) := by
  have hsort : Unexpected.sort [.nothingExpected (token .endMarker),
      .expectedOne (token .endMarker) .closeBracket] = _ :=
    List.mergeSort_of_pairwise (by decide +kernel)
  exact congrArg (fun es => Except.ok (Outcome.failed es.getLast?.toList 2)) hsort

theorem unclosed_is_truthful :
    Grammar.build "list" productions = .ok grammar ∧
      grammar.parse unclosed "list" =
        .ok (.failed [.expectedOne (token .endMarker) .closeBracket] 2) ∧
      ∃ q, EndsAt (Grammar.withEndMarker unclosed) 0 q ∧
        (Unexpected.expectedOne (token .endMarker) .closeBracket).Truthful grammar
          (Grammar.withEndMarker unclosed) 0 q := by
  obtain ⟨q, hq, herrors, -⟩ := (errors_are_truthful build_productions unclosed).2 _ _ parse_unclosed
  exact ⟨build_productions, parse_unclosed, q, hq, herrors _ (by simp [Outcome.errors])⟩

end Brackets

end Parsing
