import Mathlib.Data.Nat.Find
import Parsing.Proofs.Matching.Soundness

namespace Parsing

variable {K V : Type}

/-- Whether every token that is looked for is there and what is found satisfies `P`. A computation
that is cut short need only have found its tokens so far. -/
def Match.Safe {α : Type} (P : α → Prop) : Match α → Prop
  | .ok a => P a
  | .error .endless => True
  | .error (.noToken _) => False

namespace Match.Safe

variable {α β : Type} {P : α → Prop} {Q : β → Prop}

theorem bind {x : Match α} {f : α → Match β} (hx : x.Safe P) (hf : ∀ a, P a → (f a).Safe Q) :
    (x >>= f).Safe Q := by
  cases x with
  | ok a => exact hf a hx
  | error fault =>
    cases fault with
    | endless => trivial
    | noToken j => exact hx

theorem imp {x : Match α} {P' : α → Prop} (hx : x.Safe P) (hP : ∀ a, P a → P' a) : x.Safe P' := by
  cases x with
  | ok a => exact hP a hx
  | error fault =>
    cases fault with
    | endless => trivial
    | noToken j => exact hx

theorem of_eq_ok {x : Match α} (hx : x.Safe P) {a : α} (h : x = .ok a) : P a := by
  subst h
  exact hx

theorem eq_endless {x : Match α} (hx : x.Safe P) {fault : Fault} (h : x = .error fault) :
    fault = .endless := by
  subst h
  cases fault with
  | endless => rfl
  | noToken j => exact hx.elim

theorem mapM {f : α → Match β} {l : List α} (h : ∀ a ∈ l, (f a).Safe Q) :
    (l.mapM f).Safe fun bs => ∀ b ∈ bs, Q b := by
  induction l with
  | nil => exact fun b hb => absurd hb (by simp)
  | cons a l ih =>
    rw [List.mapM_cons]
    refine (h a (by simp)).bind fun b hb => ?_
    refine (ih fun a ha => h a (by simp [ha])).bind fun bs hbs => ?_
    exact List.forall_mem_cons.2 ⟨hb, hbs⟩

end Match.Safe

inductive Outcome.Within (i q : Nat) : Outcome K → Prop
  | matched {tree : Tree K} {stop : Nat} {ended : Bool} {errors : List (Unexpected K)} :
    i ≤ stop → stop ≤ q → Within i q (.matched tree stop ended errors)
  | failed {errors : List (Unexpected K)} {stop : Nat} :
    errors ≠ [] → i ≤ stop → stop ≤ q → Within i q (.failed errors stop)

inductive Matches.Within (i q : Nat) : Matches K → Prop
  | matched {trees : List (Tree K)} {stop : Nat} {errors : List (Unexpected K)} :
    i ≤ stop → stop ≤ q → Within i q (.matched trees stop errors)
  | failed {errors : List (Unexpected K)} {stop : Nat} :
    errors ≠ [] → i ≤ stop → stop ≤ q → Within i q (.failed errors stop)

theorem Outcome.Within.stop_mem {i q : Nat} {o : Outcome K} (h : o.Within i q) :
    i ≤ o.stop ∧ o.stop ≤ q := by
  cases h with
  | matched hi hq => exact ⟨hi, hq⟩
  | failed _ hi hq => exact ⟨hi, hq⟩

theorem Matches.Within.cons {i j q : Nat} {ms : Matches K} (h : ms.Within j q) (hij : i ≤ j)
    (tree : Tree K) (errors : List (Unexpected K)) : (ms.cons tree errors).Within i q := by
  cases h with
  | matched hj hq => exact .matched (hij.trans hj) hq
  | failed he hj hq => exact .failed (by simp [he]) (hij.trans hj) hq

variable [TokenKind K]

theorem Matches.Within.asOutcome {i q : Nat} {ms : Matches K} (h : ms.Within i q)
    (ts : List (Token K)) (tree : List (Tree K) → Tree K) : (ms.asOutcome ts tree).Within i q := by
  cases h with
  | matched hi hq => exact .matched hi hq
  | failed he hi hq => exact .failed he hi hq

theorem Outcome.Within.asOption {i q : Nat} {o : Outcome K} (h : o.Within i q)
    (ts : List (Token K)) (hi : i ≤ q) : (o.asOption ts i).Within i q := by
  cases h with
  | matched hi hq => exact .matched hi hq
  | failed => exact .matched (Nat.le_refl i) hi

def StepWithin (q : Nat) (step : Nat → Match (Outcome K)) : Prop :=
  ∀ i ≤ q, (step i).Safe (Outcome.Within i q)

section

variable {ts : List (Token K)} {call : String → Nat → Match (Outcome K)} {i q : Nat} {e : Token K}
  (hq : ts[q]? = some e) (he : e.isEnd = true)

include hq

omit [TokenKind K] in
theorem tokenAt_safe (hi : i ≤ q) : (tokenAt ts i).Safe fun t => ts[i]? = some t := by
  have hbound : i < ts.length := hi.trans_lt (List.getElem?_eq_some_iff.1 hq).1
  rw [tokenAt_eq_ok.2 (List.getElem?_eq_getElem hbound)]
  exact List.getElem?_eq_getElem hbound

namespace Repetition

theorem take_safe {step : Nat → Match (Outcome K)} (hstep : StepWithin q step) {n : Nat}
    (hi : i ≤ q) : (take ts step n i).Safe fun r => i ≤ r.stop ∧ r.stop ≤ q := by
  induction n generalizing i with
  | zero => trivial
  | succ n ih =>
    rw [take]
    refine (hstep i hi).bind fun o ho => ?_
    cases ho with
    | failed => exact ⟨Nat.le_refl i, hi⟩
    | matched his hsq =>
      dsimp only
      split
      · refine (tokenAt_safe hq hsq).bind fun t _ => ?_
        split
        · exact ⟨his, hsq⟩
        · exact (ih hsq).bind fun r hr => ⟨his.trans hr.1, hr.2⟩
      · exact ⟨Nat.le_refl i, hi⟩

theorem outcome_safe {r : Repetition K} (hr : i ≤ r.stop ∧ r.stop ≤ q) :
    (r.outcome ts).Safe (Outcome.Within i q) :=
  (tokenAt_safe hq hr.2).bind fun _ _ => .matched hr.1 hr.2

end Repetition

namespace Clause

omit hq in
theorem matchAll_safe {cs : List (Clause K)} (hcs : ∀ c ∈ cs, StepWithin q (matchAt ts call c))
    (hi : i ≤ q) : (matchAll ts call cs i).Safe (Matches.Within i q) := by
  induction cs generalizing i with
  | nil => exact .matched (Nat.le_refl i) hi
  | cons c cs ih =>
    rw [matchAll]
    refine (hcs c (by simp) i hi).bind fun o ho => ?_
    cases ho with
    | failed herrors => exact .failed herrors (Nat.le_refl i) hi
    | matched his hsq =>
      refine (ih (fun d hd => hcs d (by simp [hd])) hsq).bind fun ms hms => ?_
      exact hms.cons his _ _

include he

theorem matchTerminal_safe {k : K} (hi : i ≤ q) :
    (matchTerminal ts k i).Safe (Outcome.Within i q) := by
  refine (tokenAt_safe hq hi).bind fun t ht => ?_
  split
  · next hk =>
    rw [Bool.and_eq_true, Bool.not_eq_true'] at hk
    -- The token is no end marker, so that it is not the one at `q`.
    have hne : i ≠ q := by
      rintro rfl
      rw [hq] at ht
      cases ht
      simp [he] at hk
    exact .matched (Nat.le_succ i) (Nat.succ_le_of_lt (Nat.lt_of_le_of_ne hi hne))
  · exact .failed (by simp) (Nat.le_refl i) hi

theorem matchAt_safe (hcall : ∀ name, StepWithin q (call name)) (c : Clause K) :
    StepWithin q (matchAt ts call c) := by
  induction c using Clause.induction with
  | terminal k =>
    intro i hi
    rw [matchAt]
    exact matchTerminal_safe hq he hi
  | nonTerminal name =>
    intro i hi
    rw [matchAt_nonTerminal]
    exact hcall name i hi
  | zeroOrMore c ih =>
    intro i hi
    rw [matchAt]
    exact (Repetition.take_safe hq ih hi).bind fun r hr => Repetition.outcome_safe hq hr
  | oneOrMore c ih =>
    intro i hi
    rw [matchAt]
    refine (Repetition.take_safe hq ih hi).bind fun r hr => ?_
    split
    · exact Repetition.outcome_safe hq hr
    · split
      · refine (tokenAt_safe hq hi).bind fun t _ => ?_
        exact .failed (by simp) (Nat.le_refl i) hi
      · next herrors => exact .failed (by simpa using herrors) (Nat.le_refl i) hi
  | optional c ih =>
    intro i hi
    rw [matchAt]
    refine (ih i hi).bind fun o ho => ?_
    have hoption := ho.asOption ts hi
    cases ho with
    | matched => exact hoption
    | failed => exact hoption
  | group cs ih =>
    intro i hi
    rw [matchAt]
    refine (matchAll_safe ih hi).bind fun ms hms => ?_
    have hgroup := hms.asOutcome ts Tree.group
    cases hms with
    | matched => exact hgroup
    | failed => exact hgroup

end Clause

include he

theorem Rule.matchAt_safe (hcall : ∀ name, StepWithin q (call name)) {name : String} {index : Nat}
    {r : Rule K V} (hi : i ≤ q) :
    (r.matchAt ts call name index i).Safe fun o =>
      o.Within i q ∨ (o = .inapplicable i ∧ ∃ t, ts[i]? = some t ∧
        (r.admits t.kind || r.mayBeEmpty) = false) := by
  refine (tokenAt_safe hq hi).bind fun t ht => ?_
  split
  · next happly =>
    rw [← Bool.not_or, Bool.not_eq_true'] at happly
    exact .inr ⟨rfl, t, ht, happly⟩
  · refine (Clause.matchAll_safe (fun c _ => Clause.matchAt_safe hq he hcall c) hi).bind
      fun ms hms => ?_
    have hnode := hms.asOutcome ts fun trees => .node (r.head name index trees) trees
    cases hms with
    | matched => exact .inl hnode
    | failed => exact .inl hnode

end

namespace NonTerminal

omit [TokenKind K] in
theorem le_stop_note {f : Furthest K} {i stop : Nat} {errors : List (Unexpected K)}
    (herrors : errors ≠ []) (hi : i ≤ stop) : i ≤ (f.note (.failed errors stop)).stop := by
  rw [Furthest.note]
  split
  · exact hi
  · next h =>
    simp only [Outcome.stop, Outcome.errors, Bool.or_eq_true, Bool.and_eq_true, decide_eq_true_eq,
      Bool.not_eq_true', List.isEmpty_eq_false_iff, not_or] at h
    have hle : ¬ f.stop < stop := fun hlt => h.1 ⟨decide_eq_true hlt, herrors⟩
    omega

omit [TokenKind K] in
theorem stop_note_le {f : Furthest K} {o : Outcome K} {q : Nat} (hf : f.stop ≤ q) (ho : o.stop ≤ q) :
    (f.note o).stop ≤ q := by
  rw [Furthest.note]
  split
  · exact ho
  · exact hf

omit [TokenKind K] in
theorem firstMatch_safe {attempt : Nat × Rule K V → Match (Outcome K)} {none : Unexpected K}
    {rs : List (Nat × Rule K V)} {f : Furthest K} {i q : Nat}
    (hattempt : ∀ p ∈ rs, (attempt p).Safe (Outcome.Within i q)) (hf : f.stop ≤ q)
    (hi : rs = [] → i ≤ f.stop) : (firstMatch attempt none rs f).Safe (Outcome.Within i q) := by
  induction rs generalizing f with
  | nil =>
    refine .failed ?_ (hi rfl) hf
    split
    · simp
    · next herrors => simpa using herrors
  | cons p rs ih =>
    rw [firstMatch]
    refine (hattempt p (by simp)).bind fun o ho => ?_
    cases ho with
    | matched hle hq => exact .matched hle hq
    | failed herrors hle hq =>
      exact ih (fun p hp => hattempt p (by simp [hp])) (stop_note_le hf hq)
        fun _ => le_stop_note herrors hle

variable {ts : List (Token K)} {call : String → Nat → Match (Outcome K)} {i q : Nat} {e : Token K}
  (hq : ts[q]? = some e) (he : e.isEnd = true) (hcall : ∀ name, StepWithin q (call name))

include hq he hcall

theorem candidate_safe {n : NonTerminal K V} {t : Token K} (ht : ts[i]? = some t)
    {p : Nat × Rule K V} (hp : p ∈ n.candidates t.kind) (hi : i ≤ q) {name : String} :
    (p.2.matchAt ts call name p.1 i).Safe (Outcome.Within i q) := by
  have happly := (List.mem_filter.1 hp).2
  refine (Rule.matchAt_safe hq he hcall hi).imp fun o ho => ?_
  obtain ho | ⟨-, t', ht', hnot⟩ := ho
  · exact ho
  · rw [ht] at ht'
    cases ht'
    simp [happly] at hnot

theorem matchAt_safe (n : NonTerminal K V) :
    StepWithin q (n.matchAt ts call) := by
  intro i hi
  refine (tokenAt_safe hq hi).bind fun t ht => ?_
  dsimp only
  split
  · exact .failed (by simp) (Nat.le_refl i) hi
  · next hne =>
    rw [List.isEmpty_iff] at hne
    exact firstMatch_safe (fun p hp => candidate_safe hq he hcall ht hp hi) (Nat.zero_le q)
      fun hnil => absurd hnil hne

end NonTerminal

namespace Grammar

variable {g : Grammar K V} {ts : List (Token K)} {i q : Nat} {e : Token K}

theorem call_safe (hq : ts[q]? = some e) (he : e.isEnd = true) {depth : Nat} (name : String) :
    StepWithin q (g.call ts depth name) := by
  induction depth generalizing name with
  | zero => exact fun i _ => trivial
  | succ depth ih =>
    intro i hi
    rw [call]
    refine (tokenAt_safe hq hi).bind fun t _ => ?_
    cases g.nonTerminal? name with
    | none => exact .failed (by simp) (Nat.le_refl i) hi
    | some n => exact n.matchAt_safe hq he ih i hi

omit [TokenKind K] in
theorem foldl_max_le {l : List Nat} {a : Nat} (ha : a ≤ q) (h : ∀ b ∈ l, b ≤ q) :
    l.foldl max a ≤ q := by
  induction l generalizing a with
  | nil => exact ha
  | cons b l ih =>
    exact ih (Nat.max_le.2 ⟨ha, h b (by simp)⟩) fun c hc => h c (by simp [hc])

theorem report_safe (hq : ts[q]? = some e) {attempts : List (Outcome K)}
    (h : ∀ o ∈ attempts, o.stop ≤ q) : (report ts attempts).Safe fun o => o.stop ≤ q := by
  have hstop : (attempts.map Outcome.stop).foldl max 0 ≤ q :=
    foldl_max_le (Nat.zero_le q) (by simpa using h)
  exact (tokenAt_safe hq hstop).bind fun _ _ => hstop

theorem matchAt_safe (hq : ts[q]? = some e) (he : e.isEnd = true) {depth : Nat} (c : Clause K)
    (hi : i ≤ q) : (c.matchAt ts (g.call ts depth) i).Safe fun o => i ≤ o.stop ∧ o.stop ≤ q :=
  (Clause.matchAt_safe hq he (call_safe hq he) c i hi).imp fun _ ho => ho.stop_mem

theorem matchRule_safe (hq : ts[q]? = some e) (he : e.isEnd = true) {depth : Nat} {name : String}
    {index : Nat} {r : Rule K V} (hi : i ≤ q) :
    (r.matchAt ts (g.call ts depth) name index i).Safe fun o => i ≤ o.stop ∧ o.stop ≤ q := by
  refine (Rule.matchAt_safe hq he (call_safe hq he) hi).imp fun o ho => ?_
  obtain ho | ⟨rfl, -⟩ := ho
  · exact ho.stop_mem
  · exact ⟨Nat.le_refl i, hi⟩

theorem matchStart_safe (hq : ts[q]? = some e) (he : e.isEnd = true) (n : NonTerminal K V) :
    (g.matchStart ts n).Safe fun o => o.stop ≤ q := by
  refine (tokenAt_safe hq (Nat.zero_le q)).bind fun t _ => ?_
  have hrules : ∀ p ∈ n.numbered.filter (fun p => p.2.admits t.kind),
      (g.matchRule ts n.name p.1 p.2 0).Safe fun o => o.stop ≤ q :=
    fun p _ => (matchRule_safe hq he (Nat.zero_le q)).imp fun o ho => ho.2
  refine (Match.Safe.mapM hrules).bind fun attempts hattempts => ?_
  split
  · exact Nat.zero_le q
  · split
    · next o ho => exact hattempts o (List.mem_of_find?_eq_some ho)
    · exact report_safe hq hattempts

theorem parse_safe (hq : (withEndMarker ts)[q]? = some e) (he : e.isEnd = true) (start : String) :
    (g.parse ts start).Safe fun o => o.stop ≤ q := by
  rw [parse]
  split
  · exact matchStart_safe hq he _
  · exact (tokenAt_safe hq (Nat.zero_le q)).bind fun t _ => Nat.zero_le q

end Grammar

structure EndsAt (ts : List (Token K)) (p q : Nat) : Prop where
  le : p ≤ q
  isEnd : ∃ e, ts[q]? = some e ∧ e.isEnd = true
  first : ∀ i t, p ≤ i → i < q → ts[i]? = some t → t.isEnd = false

theorem exists_endsAt {ts : List (Token K)} {p q : Nat} {e : Token K} (hp : p ≤ q)
    (hq : ts[q]? = some e) (he : e.isEnd = true) : ∃ q', EndsAt ts p q' := by
  classical
  have hex : ∃ n, p ≤ n ∧ ∃ e, ts[n]? = some e ∧ e.isEnd = true := ⟨q, hp, e, hq, he⟩
  refine ⟨Nat.find hex, (Nat.find_spec hex).1, (Nat.find_spec hex).2, fun i t hpi hi ht => ?_⟩
  by_contra hend
  exact Nat.find_min hex hi ⟨hpi, t, ht, by simpa using hend⟩

theorem Grammar.getElem?_last_withEndMarker (ts : List (Token K)) :
    ∃ e, (withEndMarker ts)[(withEndMarker ts).length - 1]? = some e ∧ e.isEnd = true := by
  obtain ⟨us, e, he, hts, -⟩ := exists_withEndMarker_eq ts
  exact ⟨e, by simp [hts], he⟩

/-- Tokens are only looked for where there are tokens. Behind any tokens, and however deep matching
goes, what begins at a place stops there or further on, and not behind the first end marker from
that place on. -/
theorem matching_stays_within (g : Grammar K V) (ts : List (Token K)) :
    (∃ e, (Grammar.withEndMarker ts)[(Grammar.withEndMarker ts).length - 1]? = some e ∧
      e.isEnd = true) ∧
    (∀ start, (g.parse ts start).Safe fun o => o.stop < (Grammar.withEndMarker ts).length) ∧
    (∀ p, p < (Grammar.withEndMarker ts).length → ∃ q, EndsAt (Grammar.withEndMarker ts) p q) ∧
    ∀ p q, EndsAt (Grammar.withEndMarker ts) p q → ∀ depth,
      (∀ c : Clause K, (c.matchAt (Grammar.withEndMarker ts)
          (g.call (Grammar.withEndMarker ts) depth) p).Safe fun o => p ≤ o.stop ∧ o.stop ≤ q) ∧
      ∀ name index (r : Rule K V), (r.matchAt (Grammar.withEndMarker ts)
          (g.call (Grammar.withEndMarker ts) depth) name index p).Safe
        fun o => p ≤ o.stop ∧ o.stop ≤ q := by
  obtain ⟨e, hlast, he⟩ := Grammar.getElem?_last_withEndMarker ts
  have hbound := (List.getElem?_eq_some_iff.1 hlast).1
  refine ⟨⟨e, hlast, he⟩, fun start => ?_, fun p hp => ?_, fun p q hpq depth => ?_⟩
  · exact (Grammar.parse_safe hlast he start).imp fun o ho => ho.trans_lt hbound
  · exact exists_endsAt (by omega) hlast he
  · obtain ⟨e', hq, he'⟩ := hpq.isEnd
    exact ⟨fun c => Grammar.matchAt_safe hq he' c hpq.le,
      fun name index r => Grammar.matchRule_safe hq he' hpq.le⟩

namespace Brackets

def interrupted : List (Token Json.TokenType) :=
  [.openBracket, .int, .endMarker, .closeBracket].map token

theorem endsAt_interrupted : EndsAt (Grammar.withEndMarker interrupted) 1 2 where
  le := by decide
  isEnd := ⟨token .endMarker, rfl, rfl⟩
  first := by
    intro i t hi hlt ht
    obtain rfl : i = 1 := by omega
    cases ht
    rfl

theorem item_stays_within :
    (grammar.call (Grammar.withEndMarker interrupted) 2 "item" 1 =
        .ok (.matched (.node ⟨"item", 0, "Int", none⟩ [.leaf (token .int)]) 2 false [])) ∧
      (Clause.matchAt (Grammar.withEndMarker interrupted)
        (grammar.call (Grammar.withEndMarker interrupted) 2) (.zeroOrMore (.nonTerminal "item")) 1).Safe
          fun o => 1 ≤ o.stop ∧ o.stop ≤ 2 :=
  ⟨by rfl, ((matching_stays_within grammar interrupted).2.2.2 1 2 endsAt_interrupted 2).1 _⟩

end Brackets

end Parsing
