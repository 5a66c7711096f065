import Mathlib.Order.Bounds.Basic
import Mathlib.Order.MinMax
import Parsing.Json.Language
import Parsing.Proofs.Grammar.Reordered
import Parsing.Proofs.Matching.Closed
import Parsing.Proofs.Matching.Priority

namespace Parsing

variable {K V : Type}

theorem isGreatest_foldl_max (l : List Nat) (a : Nat) :
    IsGreatest {s | s ∈ a :: l} (l.foldl max a) := by
  induction l generalizing a with
  | nil => exact ⟨by simp, by simp [upperBounds]⟩
  | cons b l ih =>
    obtain ⟨hmem, hle⟩ := ih (max a b)
    have hmax : max a b ≤ l.foldl max (max a b) := hle List.mem_cons_self
    refine ⟨?_, fun s hs => ?_⟩
    · obtain h | h := List.mem_cons.1 hmem
      · refine List.mem_cons.2 ((max_choice a b).imp h.trans fun hb => ?_)
        exact List.mem_cons.2 (.inl (h.trans hb))
      · exact List.mem_cons_of_mem _ (List.mem_cons_of_mem _ h)
    · obtain rfl | rfl | hs : s = a ∨ s = b ∨ s ∈ l := by simpa using hs
      · exact (Nat.le_max_left _ _).trans hmax
      · exact (Nat.le_max_right _ _).trans hmax
      · exact hle (List.mem_cons_of_mem _ hs)

theorem isGreatest_foldl_max_zero {l : List Nat} (hl : l ≠ []) :
    IsGreatest {s | s ∈ l} (l.foldl max 0) := by
  obtain ⟨hmem, hle⟩ := isGreatest_foldl_max l 0
  refine ⟨?_, fun s hs => hle (List.mem_cons_of_mem _ hs)⟩
  obtain h | h := List.mem_cons.1 hmem
  · obtain ⟨s, hs⟩ := List.exists_mem_of_ne_nil l hl
    have hzero : s ≤ l.foldl max 0 := hle (List.mem_cons_of_mem _ hs)
    rw [h] at hzero ⊢
    rwa [Nat.le_zero.1 hzero] at hs
  · exact h

theorem Match.mem_iff_of_mapM {α β : Type} {f : α → Match β} {l : List α} {bs : List β}
    (h : l.mapM f = .ok bs) {b : β} : b ∈ bs ↔ ∃ a ∈ l, f a = .ok b := by
  induction l generalizing bs with
  | nil =>
    cases h
    simp
  | cons a l ih =>
    obtain ⟨c, bs, hc, hbs, rfl⟩ := mapM_cons_eq_ok.1 h
    simp [ih hbs, hc, eq_comm]

def OffsetsIncrease (ts : List (Token K)) : Prop :=
  ts.Pairwise fun s t => s.position.offset < t.position.offset

variable [TokenKind K] {g : Grammar K V} {ts : List (Token K)} {start : String}

namespace Grammar

def CanStart (g : Grammar K V) (ts : List (Token K)) (start : String) : Prop :=
  ∃ t, ts[0]? = some t ∧ ∃ index r, g.rule? start index = some r ∧ r.admits t.kind = true

/-- What may be reported where attempts of `start` stopped: that nothing is expected there, and the
errors of these attempts. -/
def Competes (g : Grammar K V) (ts : List (Token K)) (start : String) (stop : Nat)
    (e : Unexpected K) : Prop :=
  (∃ t, ts[stop]? = some t ∧ e = .nothingExpected t) ∨
    ∃ index o, g.Tries ts start index o ∧ o.stop = stop ∧ e ∈ o.errors

def Stops (g : Grammar K V) (ts : List (Token K)) (start : String) : Set Nat :=
  {stop | ∃ index o, g.Tries ts start index o ∧ o.stop = stop}

theorem mem_attempts_iff {n : NonTerminal K V} (hn : g.nonTerminal? start = some n) {t : Token K}
    (ht : ts[0]? = some t)
    {attempts : List (Outcome K)}
    (h : (n.numbered.filter fun p => p.2.admits t.kind).mapM
      (fun p => g.matchRule ts n.name p.1 p.2 0) = .ok attempts) {o : Outcome K} :
    o ∈ attempts ↔ ∃ index, g.Tries ts start index o := by
  simp only [Match.mem_iff_of_mapM h, tries_iff hn ht, Prod.exists]

structure Reports (g : Grammar K V) (ts : List (Token K)) (start : String) (e : Unexpected K)
    (stop : Nat) : Prop where
  furthest : IsGreatest (g.Stops ts start) stop
  competes : g.Competes ts start stop e
  greatest : ∀ x, g.Competes ts start stop x → (x.priority e).isLE = true

theorem reports_of_report {attempts : List (Outcome K)} (hne : attempts ≠ [])
    (hattempts : ∀ o, o ∈ attempts ↔ ∃ index, g.Tries ts start index o) {e : Unexpected K}
    {stop : Nat} (h : report ts attempts = .ok (.failed [e] stop)) : g.Reports ts start e stop := by
  obtain ⟨t, ht, h⟩ := Except.bind_eq_ok.1 h
  rw [tokenAt_eq_ok] at ht
  injection Except.pure_eq_ok.1 h with hlast hstop
  rw [hstop] at ht hlast
  have hfurthest := isGreatest_foldl_max_zero (l := attempts.map Outcome.stop) (by simpa using hne)
  rw [hstop] at hfurthest
  have hstops : {s | s ∈ attempts.map Outcome.stop} = g.Stops ts start := by
    ext s
    refine List.mem_map.trans ⟨fun ⟨o, ho, hs⟩ => ?_, fun ⟨index, o, ho, hs⟩ => ?_⟩
    · obtain ⟨index, ho⟩ := (hattempts o).1 ho
      exact ⟨index, o, ho, hs⟩
    · exact ⟨o, (hattempts o).2 ⟨index, ho⟩, hs⟩
  have hmem (x : Unexpected K) : x ∈ Unexpected.nothingExpected t ::
      (attempts.filter (·.stop = stop)).flatMap Outcome.errors ↔ g.Competes ts start stop x := by
    simp only [Competes, ht, Option.some.injEq, exists_eq_left', List.mem_cons, List.mem_flatMap,
      List.mem_filter, hattempts, decide_eq_true_eq, and_assoc]
    refine or_congr_right ⟨fun ⟨o, ⟨index, ho⟩, hx⟩ => ⟨index, o, ho, hx⟩,
      fun ⟨index, o, ho, hx⟩ => ⟨o, ⟨index, ho⟩, hx⟩⟩
  obtain ⟨hcompetes, hgreatest⟩ :=
    Unexpected.greatest_of_getLast?_sort (Option.toList_eq_singleton_iff.1 hlast)
  rw [hmem] at hcompetes
  exact ⟨hstops ▸ hfurthest, hcompetes, fun x hx => hgreatest x ((hmem x).2 hx)⟩

theorem parse_of_not_isMatch {o : Outcome K} (h : g.parse ts start = .ok o)
    (hfailed : o.isMatch = false) (hstart : g.CanStart (withEndMarker ts) start) :
    ∃ e stop, o = .failed [e] stop ∧ g.Reports (withEndMarker ts) start e stop := by
  obtain ⟨t, ht, index, r, hr, hadmits⟩ := hstart
  obtain ⟨n, hn, hindex⟩ := rule?_eq_some.1 hr
  rw [parse, hn] at h
  obtain ⟨t', ht', h⟩ := Except.bind_eq_ok.1 h
  obtain rfl : t' = t := Option.some.inj ((tokenAt_eq_ok.1 ht').symm.trans ht)
  obtain ⟨attempts, hattempts, h⟩ := Except.bind_eq_ok.1 h
  have hmem (p : Outcome K) := mem_attempts_iff hn ht hattempts (o := p)
  have hne : attempts ≠ [] := by
    rintro rfl
    have hcandidate : (index, r) ∈ n.numbered.filter fun p => p.2.admits t'.kind :=
      List.mem_filter.2 ⟨NonTerminal.mem_numbered.2 hindex, hadmits⟩
    rw [Match.eq_nil_of_mapM_eq_nil hattempts] at hcandidate
    cases hcandidate
  split at h
  · next hnone => exact absurd (List.isEmpty_iff.1 hnone) hne
  · split at h
    · next w hw =>
      cases Except.pure_eq_ok.1 h
      have := List.find?_some hw
      simp_all
    · obtain ⟨e, stop, rfl⟩ := report_eq_ok h
      exact ⟨e, stop, rfl, reports_of_report hne hmem h⟩

section

variable {q : Nat} {m : Token K} (hg : g.Honest) (hq : ts[q]? = some m) (he : m.isEnd = true)
  {stop : Nat} {e : Unexpected K}
include hg hq he

theorem Competes.cited (h : g.Competes ts start stop e) : ∃ i : Nat, ts[i]? = some e.token := by
  obtain ⟨t, ht, rfl⟩ | ⟨index, o, ⟨t, -, r, hr, -, hmatch⟩, -, hmem⟩ := h
  · exact ⟨stop, ht⟩
  · obtain ⟨i, -, -, hi⟩ :=
      (matchRule_truthful hg hq he hr 0 (Nat.zero_le q) o hmatch e hmem).cited
    exact ⟨i, hi⟩

theorem Reports.exists_index (h : g.Reports ts start e stop) (hts : OffsetsIncrease ts) :
    ∃ i, stop ≤ i ∧ ts[i]? = some e.token := by
  obtain ⟨index, o, ⟨_, -, r, -, -, hmatch⟩, rfl⟩ := h.furthest.1
  have hstop : o.stop < ts.length :=
    ((matchRule_safe hq he (Nat.zero_le q)).of_eq_ok hmatch).2.trans_lt
      (List.getElem?_eq_some_iff.1 hq).1
  have hnothing := h.greatest _ (.inl ⟨_, List.getElem?_eq_getElem hstop, rfl⟩)
  obtain ⟨i, hi⟩ := h.competes.cited hg hq he
  refine ⟨i, Nat.le_of_not_lt fun hlt => ?_, hi⟩
  -- An error before the stop would be less than "nothing expected" there.
  obtain ⟨hbound, htoken⟩ := List.getElem?_eq_some_iff.1 hi
  have hoffset := List.pairwise_iff_getElem.1 hts i o.stop hbound hstop hlt
  have hle := Unexpected.offset_le_of_isLE hnothing
  rw [htoken] at hoffset
  exact Nat.not_lt.2 hle hoffset

theorem Competes.eq_of_priority_eq (hts : OffsetsIncrease ts)
    (hlabels : LegibleLabels K) {stop' : Nat} {e' : Unexpected K} (h : g.Competes ts start stop e)
    (h' : g.Competes ts start stop' e') (heq : e.priority e' = .eq) : e = e' := by
  obtain ⟨i, hi⟩ := h.cited hg hq he
  obtain ⟨j, hj⟩ := h'.cited hg hq he
  obtain ⟨hi, htoken⟩ := List.getElem?_eq_some_iff.1 hi
  obtain ⟨hj, htoken'⟩ := List.getElem?_eq_some_iff.1 hj
  refine Unexpected.eq_of_priority_eq hlabels ?_ heq
  have hoffset : ts[i].position.offset = ts[j].position.offset := by
    rw [htoken, htoken']
    exact (Unexpected.priority_eq_iff.1 heq).1
  rw [OffsetsIncrease, List.pairwise_iff_getElem] at hts
  obtain hlt | rfl | hlt := Nat.lt_trichotomy i j
  · exact absurd hoffset (hts i j hi hj hlt).ne
  · rw [← htoken, ← htoken']
  · exact absurd hoffset.symm (hts j i hj hi hlt).ne

end

theorem isMatch_iff {o : Outcome K} (h : g.parse ts start = .ok o) :
    o.isMatch = true ↔
      ∃ index p, g.Tries (withEndMarker ts) start index p ∧ p.isEnded = true := by
  obtain ⟨index, hwins⟩ | ⟨⟨e, stop, rfl⟩, hended⟩ := parse_eq_ok h
  · obtain ⟨_, _, _, rfl, -⟩ := hwins.exists_eq
    exact ⟨fun _ => ⟨index, _, hwins.tries, rfl⟩, fun _ => rfl⟩
  · constructor
    · intro h
      cases h
    · rintro ⟨index, p, htries, hp⟩
      rw [hended index p htries] at hp
      cases hp

end Grammar

def Outcome.bearing (o : Outcome K) : Nat × Bool × List (Unexpected K) :=
  (o.stop, o.isEnded, o.errors)

theorem Rule.bearing_matchAt (ts : List (Token K)) (call : String → Nat → Match (Outcome K))
    (name : String) (r : Rule K V) (index index' i : Nat) :
    (r.matchAt ts call name index i).map Outcome.bearing =
      (r.matchAt ts call name index' i).map Outcome.bearing := by
  simp only [matchAt, bind, Except.bind]
  cases tokenAt ts i with
  | error fault => rfl
  | ok t =>
    dsimp only
    split
    · rfl
    · cases Clause.matchAll ts call r.clauses i with
      | error fault => rfl
      | ok ms => cases ms <;> rfl

namespace Grammar

omit [TokenKind K] in
theorem rule?_eq_getElem? {name : String} {index : Nat} :
    g.rule? name index = (NonTerminal.rulesOf g.nonTerminals name)[index]? := by
  rw [rule?, NonTerminal.rulesOf, nonTerminal?]
  cases NonTerminal.find? g.nonTerminals name <;> rfl

theorem call_eq_of_unreferenced {name : String} {g' : Grammar K V}
    (hothers : ∀ a ≠ name, g.nonTerminal? a = g'.nonTerminal? a) (hname : g.Unreferenced name)
    (ts : List (Token K)) (depth : Nat) {a : String} (ha : a ≠ name) :
    g'.call ts depth a = g.call ts depth a := by
  induction depth generalizing a with
  | zero => rfl
  | succ depth ih =>
    funext i
    simp only [call, ← hothers a ha]
    cases hn : g.nonTerminal? a with
    | none => rfl
    | some n =>
      have hmatch : n.matchAt ts (g'.call ts depth) i = n.matchAt ts (g.call ts depth) i := by
        refine NonTerminal.matchAt_congr hn fun b k hcall => congrFun (ih ?_) k
        rintro rfl
        obtain ⟨m, t, p, hm, -, hp, henters⟩ := hcall
        have hr := List.mem_of_getElem? (NonTerminal.mem_numbered.1 (List.mem_filter.1 hp).1)
        exact hname a p.2.clauses ⟨m, hm, p.2, hr, rfl⟩ henters.mem_walkAll
      simp only [hmatch]

namespace SameBut

variable {name : String} {g' : Grammar K V} (h : SameBut name g g') (hname : g.Unreferenced name)
include h hname

theorem tries {index : Nat} {o : Outcome K} (htries : g.Tries ts name index o) :
    ∃ index' o', g'.Tries ts name index' o' ∧ o'.bearing = o.bearing := by
  obtain ⟨t, ht, r, hr, hadmits, hmatch⟩ := htries
  have hmem : r ∈ NonTerminal.rulesOf g'.nonTerminals name :=
    h.rules.mem_iff.1 (List.mem_of_getElem? (rule?_eq_getElem?.symm.trans hr))
  obtain ⟨index', hr'⟩ := List.mem_iff_getElem?.1 hmem
  have hdepth : g'.depth ts = g.depth ts := by rw [depth, depth, h.size]
  have hcalls : r.matchAt ts (g'.call ts (g'.depth ts)) name index' 0 =
      r.matchAt ts (g.call ts (g.depth ts)) name index' 0 := by
    rw [hdepth]
    refine Rule.matchAt_congr fun a ha => call_eq_of_unreferenced h.others hname ts _ ?_
    rintro rfl
    exact hname a r.clauses (alternatives_of_rule? hr) ha
  have hbearing := Rule.bearing_matchAt ts (g.call ts (g.depth ts)) name r index index' 0
  rw [← matchRule, hmatch, ← hcalls] at hbearing
  cases ho : r.matchAt ts (g'.call ts (g'.depth ts)) name index' 0 with
  | error fault => simp [ho, Except.map] at hbearing
  | ok o' =>
    rw [ho] at hbearing
    injection hbearing with hbearing
    exact ⟨index', o', ⟨t, ht, r, rule?_eq_getElem?.trans hr', hadmits, ho⟩, hbearing.symm⟩

theorem competes {stop : Nat} {e : Unexpected K} (hcompetes : g.Competes ts name stop e) :
    g'.Competes ts name stop e := by
  obtain hnothing | ⟨index, o, htries, rfl, hmem⟩ := hcompetes
  · exact .inl hnothing
  · obtain ⟨index', o', htries', hbearing⟩ := h.tries hname htries
    injection hbearing with hstop hbearing
    injection hbearing with _ herrors
    exact .inr ⟨index', o', htries', hstop, herrors ▸ hmem⟩

theorem stops_subset : g.Stops ts name ⊆ g'.Stops ts name := by
  rintro stop ⟨index, o, htries, rfl⟩
  obtain ⟨index', o', htries', hbearing⟩ := h.tries hname htries
  exact ⟨index', o', htries', congrArg Prod.fst hbearing⟩

omit hname in
theorem canStart (hstart : g.CanStart ts name) : g'.CanStart ts name := by
  obtain ⟨t, ht, index, r, hr, hadmits⟩ := hstart
  rw [rule?_eq_getElem?] at hr
  obtain ⟨index', hr'⟩ := List.mem_iff_getElem?.1 (h.rules.mem_iff.1 (List.mem_of_getElem? hr))
  exact ⟨t, ht, index', r, rule?_eq_getElem?.trans hr', hadmits⟩

omit [TokenKind K] hname in
theorem unreferenced_iff : g'.Unreferenced name ↔ g.Unreferenced name := by
  rw [Unreferenced, Unreferenced, h.alternatives]

theorem isMatch_of_isMatch {o o' : Outcome K} (ho : g.parse ts name = .ok o)
    (ho' : g'.parse ts name = .ok o') (hmatch : o.isMatch = true) : o'.isMatch = true := by
  rw [isMatch_iff ho] at hmatch
  obtain ⟨index, p, htries, hended⟩ := hmatch
  obtain ⟨index', p', htries', hbearing⟩ := h.tries hname htries
  injection hbearing with _ hbearing
  injection hbearing with hended' _
  exact (isMatch_iff ho').2 ⟨index', p', htries', hended'.trans hended⟩

theorem isMatch_eq {o o' : Outcome K} (ho : g.parse ts name = .ok o)
    (ho' : g'.parse ts name = .ok o') : o'.isMatch = o.isMatch :=
  Bool.eq_iff_iff.2 ⟨h.symm.isMatch_of_isMatch (h.unreferenced_iff.2 hname) ho' ho,
    h.isMatch_of_isMatch hname ho ho'⟩

theorem reports_unique {e e' : Unexpected K} {stop stop' : Nat} (he : g.Reports ts name e stop)
    (he' : g'.Reports ts name e' stop')
    (hpar : ∀ x, g.Competes ts name stop x → e.priority x = .eq → e = x) :
    e = e' ∧ stop = stop' := by
  have hname' := h.unreferenced_iff.2 hname
  obtain rfl : stop = stop' := by
    have hstops : g.Stops ts name = g'.Stops ts name :=
      (h.stops_subset hname).antisymm (h.symm.stops_subset hname')
    exact (hstops ▸ he.furthest).unique he'.furthest
  have hcompetes := h.symm.competes hname' he'.competes
  refine ⟨hpar e' hcompetes ?_, rfl⟩
  exact Std.OrientedCmp.isLE_antisymm (he'.greatest e (h.competes hname he.competes))
    (he.greatest e' hcompetes)

end SameBut

end Grammar

/-- A parse that fails, though some rule of the start could be tried, ends where the furthest
attempts end, with one of the greatest errors there; and if the tokens come one after the other in
the text, it cites none before that place. If besides the labels tell the kinds apart, errors on a
par are equal. So without left recursion, and if no rule refers to a name, its rules may be put in
another order: the same tokens are parsed from it, and the same error is reported. -/
theorem parse_reports_greatest {start : String} {ps : List (Production K V)} {g : Grammar K V}
    (hg : Grammar.build start ps = .ok g) :
    (∀ ts name o, g.parse ts name = .ok o → o.isMatch = false →
      g.CanStart (Grammar.withEndMarker ts) name → ∃ e stop, o = .failed [e] stop ∧
        g.Reports (Grammar.withEndMarker ts) name e stop ∧
        (OffsetsIncrease (Grammar.withEndMarker ts) →
          ∃ i, stop ≤ i ∧ (Grammar.withEndMarker ts)[i]? = some e.token)) ∧
    (∀ ts name, LegibleLabels K → OffsetsIncrease (Grammar.withEndMarker ts) →
      ∀ stop stop' e e', g.Competes (Grammar.withEndMarker ts) name stop e →
        g.Competes (Grammar.withEndMarker ts) name stop' e' → e.priority e' = .eq → e = e') ∧
    (∀ name ps', NoLeftRecursion g.alternatives → g.Unreferenced name → Reordered name ps ps' →
      ∃ g', Grammar.build start ps' = .ok g' ∧ ∀ ts, ∃ o o',
        g.parse ts name = .ok o ∧ g'.parse ts name = .ok o' ∧ o'.isMatch = o.isMatch ∧
        (LegibleLabels K → OffsetsIncrease (Grammar.withEndMarker ts) →
          g.CanStart (Grammar.withEndMarker ts) name → o.isMatch = false → o' = o)) := by
  have hhonest := Grammar.honest_of_build hg
  have hpar (ts : List (Token K)) (name : String) (hlabels : LegibleLabels K)
      (hts : OffsetsIncrease (Grammar.withEndMarker ts)) (stop stop' : Nat) (e e' : Unexpected K)
      (h : g.Competes (Grammar.withEndMarker ts) name stop e)
      (h' : g.Competes (Grammar.withEndMarker ts) name stop' e') (heq : e.priority e' = .eq) :
      e = e' := by
    obtain ⟨m, hq, he⟩ := Grammar.getElem?_last_withEndMarker ts
    exact h.eq_of_priority_eq hhonest hq he hts hlabels h' heq
  refine ⟨fun ts name o ho hfailed hstart => ?_, hpar, fun name ps' hl hname hps => ?_⟩
  · obtain ⟨e, stop, rfl, hreports⟩ := Grammar.parse_of_not_isMatch ho hfailed hstart
    obtain ⟨m, hq, he⟩ := Grammar.getElem?_last_withEndMarker ts
    exact ⟨e, stop, rfl, hreports, hreports.exists_index hhonest hq he⟩
  · obtain ⟨g', hg', h⟩ := Grammar.build_of_reordered hg hl hname hps
    refine ⟨g', hg', fun ts => ?_⟩
    obtain ⟨o, ho⟩ := Grammar.exists_parse hl ts name
    obtain ⟨o', ho'⟩ := Grammar.exists_parse (h.alternatives ▸ hl) ts name
    have hmatch := h.isMatch_eq hname ho ho'
    refine ⟨o, o', ho, ho', hmatch, fun hlabels hts hstart hfailed => ?_⟩
    obtain ⟨e, stop, rfl, hreports⟩ := Grammar.parse_of_not_isMatch ho hfailed hstart
    obtain ⟨e', stop', rfl, hreports'⟩ :=
      Grammar.parse_of_not_isMatch ho' (hmatch.trans hfailed) (h.canStart hstart)
    obtain ⟨rfl, rfl⟩ := h.reports_unique hname hreports hreports' fun x hx heq =>
      hpar ts name hlabels hts _ _ _ _ hreports.competes hx heq
    rfl

namespace Pairs

open Json (TokenType)

def first : Production TokenType Nat := ⟨"pair : value COMMA INT", ArgsM.value 0, []⟩

def second : Production TokenType Nat := ⟨"pair : value COMMA STRING", ArgsM.value 0, []⟩

def value : Production TokenType Nat := ⟨"value : INT", ArgsM.value 0, []⟩

def grammar : Grammar TokenType Nat where
  start := "pair"
  nonTerminals := [
    ⟨"pair", [
      ⟨[.nonTerminal "value", .terminal .comma, .terminal .int], ⟨[.int]⟩, ArgsM.value 0, []⟩,
      ⟨[.nonTerminal "value", .terminal .comma, .terminal .string], ⟨[.int]⟩, ArgsM.value 0, []⟩]⟩,
    ⟨"value", [⟨[.terminal .int], ⟨[.int]⟩, ArgsM.value 0, []⟩]⟩]

theorem build_productions : Grammar.build "pair" [first, second, value] = .ok grammar :=
  Grammar.build_of_table grammar rfl rfl rfl (by decide +kernel) (by decide +kernel)

theorem unreferenced : grammar.Unreferenced "pair" :=
  Grammar.unreferenced_of_forall (by simp [grammar, Clause.walkAll, Clause.walk])

theorem noLeftRecursion : NoLeftRecursion grammar.alternatives :=
  Grammar.noLeftRecursion_of_level (fun a => if a = "pair" then 1 else 0) (by decide)

theorem reordered : Reordered "pair" [first, second, value] [second, first, value] := by
  refine ⟨.swap _ _ _, fun a ha => ?_⟩
  have hfirst : first.name? = some "pair" := rfl
  have hsecond : second.name? = some "pair" := rfl
  simp [hfirst, hsecond, Ne.symm ha]

theorem legibleLabels : LegibleLabels TokenType where
  injective a b h := by
    cases a <;> cases b <;> first | rfl | exact absurd h (by decide)
  no_blank k := by cases k <;> decide
  no_comma k := by cases k <;> decide

def tokens : List (Token TokenType) :=
  [⟨.int, "1", ⟨0, 0, 0⟩⟩, ⟨.comma, ",", ⟨0, 1, 1⟩⟩, ⟨.comma, ",", ⟨0, 2, 2⟩⟩]

theorem parse_tokens : grammar.parse tokens "pair" =
    .ok (.failed [.expectedOne ⟨.comma, ",", ⟨0, 2, 2⟩⟩ .string] 2) := by
  have hsort : Unexpected.sort ([.nothingExpected ⟨.comma, ",", ⟨0, 2, 2⟩⟩,
      .expectedOne ⟨.comma, ",", ⟨0, 2, 2⟩⟩ .int, .expectedOne ⟨.comma, ",", ⟨0, 2, 2⟩⟩ .string] :
      List (Unexpected TokenType)) = _ :=
    List.mergeSort_of_pairwise (by decide +kernel)
  exact congrArg (fun es => Except.ok (Outcome.failed es.getLast?.toList 2)) hsort

theorem offsetsIncrease : OffsetsIncrease (Grammar.withEndMarker tokens) := by
  unfold OffsetsIncrease
  decide

theorem string_is_reported :
    Grammar.build "pair" [first, second, value] = .ok grammar ∧
      grammar.parse tokens "pair" =
        .ok (.failed [.expectedOne ⟨.comma, ",", ⟨0, 2, 2⟩⟩ .string] 2) ∧
      grammar.Reports (Grammar.withEndMarker tokens) "pair"
        (.expectedOne ⟨.comma, ",", ⟨0, 2, 2⟩⟩ .string) 2 ∧
      ∃ g', Grammar.build "pair" [second, first, value] = .ok g' ∧
        g'.parse tokens "pair" = grammar.parse tokens "pair" := by
  have hstart : grammar.CanStart (Grammar.withEndMarker tokens) "pair" :=
    ⟨_, rfl, 0, _, rfl, rfl⟩
  obtain ⟨hreports, -, hreordered⟩ := parse_reports_greatest build_productions
  obtain ⟨e, stop, heq, hgreatest, -⟩ := hreports tokens "pair" _ parse_tokens rfl hstart
  obtain ⟨g', hg', hparse⟩ := hreordered "pair" _ noLeftRecursion unreferenced reordered
  obtain ⟨o, o', ho, ho', -, hsame⟩ := hparse tokens
  cases heq
  rw [parse_tokens] at ho ⊢
  cases ho
  rw [hsame legibleLabels offsetsIncrease hstart rfl] at ho'
  exact ⟨build_productions, rfl, hgreatest, g', hg', ho'⟩

end Pairs

end Parsing
