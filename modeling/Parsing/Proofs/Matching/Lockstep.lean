import Parsing.Proofs.Matching.Start

/-!
Two runs of the matcher side by side, the second over tokens behind which those of the first stand
again, as far as one can see. They take the same steps: of the tokens that are seen only the kinds
count, and of a place only how far it is from the end.
-/

namespace Parsing

variable {K V : Type}

inductive Match.InStep {α β : Type} (R : α → β → Prop) : Match α → Match β → Prop
  | ok {a : α} {b : β} : R a b → InStep R (.ok a) (.ok b)
  | endless : InStep R (.error .endless) (.error .endless)

namespace Match.InStep

variable {α β γ δ : Type} {R : α → β → Prop} {S : γ → δ → Prop} {x : Match α} {y : Match β}

theorem bind (h : InStep R x y) {f : α → Match γ} {g : β → Match δ}
    (hfg : ∀ a b, R a b → InStep S (f a) (g b)) : InStep S (x >>= f) (y >>= g) := by
  cases h with
  | ok h => exact hfg _ _ h
  | endless => exact .endless

theorem imp (h : InStep R x y) {R' : α → β → Prop} (hR : ∀ a b, R a b → R' a b) :
    InStep R' x y := by
  cases h with
  | ok h => exact .ok (hR _ _ h)
  | endless => exact .endless

theorem left (h : InStep R x y) {P : α → Prop} (hx : x.Safe P) :
    InStep (fun a b => R a b ∧ P a) x y := by
  cases h with
  | ok h => exact .ok ⟨h, hx⟩
  | endless => exact .endless

theorem right (h : InStep R x y) {Q : β → Prop} (hy : y.Safe Q) :
    InStep (fun a b => R a b ∧ Q b) x y := by
  cases h with
  | ok h => exact .ok ⟨h, hy⟩
  | endless => exact .endless

theorem mapM {f : α → Match γ} {g : α → Match δ} {l : List α}
    (h : ∀ a ∈ l, InStep S (f a) (g a)) : InStep (List.Forall₂ S) (l.mapM f) (l.mapM g) := by
  induction l with
  | nil => exact .ok .nil
  | cons a l ih =>
    rw [List.mapM_cons, List.mapM_cons]
    refine (h a (by simp)).bind fun b c hbc => ?_
    exact (ih fun a ha => h a (by simp [ha])).bind fun bs cs hbcs => .ok (.cons hbc hbcs)

theorem error_iff (h : InStep R x y) (fault : Fault) : x = .error fault ↔ y = .error fault := by
  cases h with
  | ok => simp
  | endless => simp

theorem exists_of_ok (h : InStep R x y) {a : α} (ha : x = .ok a) : ∃ b, y = .ok b ∧ R a b := by
  cases h with
  | ok h =>
    cases ha
    exact ⟨_, rfl, h⟩
  | endless => cases ha

theorem exists_of_ok_right (h : InStep R x y) {b : β} (hb : y = .ok b) :
    ∃ a, x = .ok a ∧ R a b := by
  cases h with
  | ok h =>
    cases hb
    exact ⟨_, rfl, h⟩
  | endless => cases hb

end Match.InStep

namespace Tree

mutual

def mapTokens (f : Token K → Token K) : Tree K → Tree K
  | leaf t => .leaf (f t)
  | node h ts => .node h (mapTokensAll f ts)
  | many ts => .many (mapTokensAll f ts)
  | absent => .absent
  | present t => .present (t.mapTokens f)
  | group ts => .group (mapTokensAll f ts)

def mapTokensAll (f : Token K → Token K) : List (Tree K) → List (Tree K)
  | [] => []
  | t :: ts => t.mapTokens f :: mapTokensAll f ts

end

mutual

theorem mapTokens_id : (t : Tree K) → t.mapTokens id = t
  | leaf _ => rfl
  | node h ts => congrArg (Tree.node h) (mapTokensAll_id ts)
  | many ts => congrArg Tree.many (mapTokensAll_id ts)
  | absent => rfl
  | present t => congrArg Tree.present t.mapTokens_id
  | group ts => congrArg Tree.group (mapTokensAll_id ts)

theorem mapTokensAll_id : (ts : List (Tree K)) → mapTokensAll id ts = ts
  | [] => rfl
  | t :: ts => congrArg₂ List.cons t.mapTokens_id (mapTokensAll_id ts)

end

end Tree

variable {f : Token K → Token K} {n : Nat} {ts us : List (Token K)}

/-- Behind `n` tokens, `us` has as many tokens as `ts` and shows the same of them. -/
structure SeenAlike (f : Token K → Token K) (n : Nat) (ts us : List (Token K)) : Prop where
  length_eq : us.length = n + ts.length
  map_eq : ∀ i, us[n + i]?.map f = ts[i]?.map f

inductive Outcome.Alike (f : Token K → Token K) (n : Nat) : Outcome K → Outcome K → Prop
  | matched {tree tree' : Tree K} {stop : Nat} {ended : Bool} {errors errors' : List (Unexpected K)} :
    tree.mapTokens f = tree'.mapTokens f →
    Alike f n (.matched tree stop ended errors) (.matched tree' (n + stop) ended errors')
  | failed {stop : Nat} {errors errors' : List (Unexpected K)} :
    Alike f n (.failed errors stop) (.failed errors' (n + stop))
  | inapplicable {stop : Nat} : Alike f n (.inapplicable stop) (.inapplicable (n + stop))

inductive Matches.Alike (f : Token K → Token K) (n : Nat) : Matches K → Matches K → Prop
  | matched {trees trees' : List (Tree K)} {stop : Nat} {errors errors' : List (Unexpected K)} :
    Tree.mapTokensAll f trees = Tree.mapTokensAll f trees' →
    Alike f n (.matched trees stop errors) (.matched trees' (n + stop) errors')
  | failed {stop : Nat} {errors errors' : List (Unexpected K)} :
    Alike f n (.failed errors stop) (.failed errors' (n + stop))

structure Repetition.Alike (f : Token K → Token K) (n : Nat) (r r' : Repetition K) : Prop where
  trees_eq : Tree.mapTokensAll f r.trees = Tree.mapTokensAll f r'.trees
  stop_eq : r'.stop = n + r.stop

theorem Repetition.Alike.isEmpty_eq {r r' : Repetition K} (h : r.Alike f n r') :
    r.trees.isEmpty = r'.trees.isEmpty := by
  have htrees := h.trees_eq
  revert htrees
  cases r.trees <;> cases r'.trees <;> simp [Tree.mapTokensAll]

theorem Matches.Alike.cons {ms ms' : Matches K} (h : ms.Alike f n ms') {tree tree' : Tree K}
    (htree : tree.mapTokens f = tree'.mapTokens f) {errors errors' : List (Unexpected K)} :
    (ms.cons tree errors).Alike f n (ms'.cons tree' errors') := by
  cases h with
  | matched htrees => exact .matched (congrArg₂ List.cons htree htrees)
  | failed => exact .failed

theorem Outcome.Alike.stop_eq {o o' : Outcome K} (h : o.Alike f n o') : o'.stop = n + o.stop := by
  cases h <;> rfl

theorem Outcome.Alike.isEnded_eq {o o' : Outcome K} (h : o.Alike f n o') :
    o'.isEnded = o.isEnded := by
  cases h <;> rfl

theorem Outcome.Alike.isMatch_eq {o o' : Outcome K} (h : o.Alike f n o') :
    o'.isMatch = o.isMatch := by
  cases h <;> rfl

theorem Outcome.Alike.isError_eq {o o' : Outcome K} (h : o.Alike f n o') :
    o'.isError = o.isError := by
  cases h <;> rfl

def StepsAlike (f : Token K → Token K) (n q : Nat) (step step' : Nat → Match (Outcome K)) : Prop :=
  ∀ i ≤ q, (step i).InStep (Outcome.Alike f n) (step' (n + i))

variable [TokenKind K]

section

variable {i q : Nat} {call call' : String → Nat → Match (Outcome K)} (hf : ∀ t, (f t).kind = t.kind)
  (hts : SeenAlike f n ts us)

omit [TokenKind K] in
include hf in
theorem kind_eq_of_alike {t u : Token K} (h : f t = f u) : t.kind = u.kind := by
  rw [← hf t, h, hf u]

include hf in
theorem isEnd_eq_of_alike {t u : Token K} (h : f t = f u) : t.isEnd = u.isEnd := by
  rw [Token.isEnd, Token.isEnd, kind_eq_of_alike hf h]

include hts

omit [TokenKind K] in
theorem tokenAt_inStep (hi : i < ts.length) :
    (tokenAt ts i).InStep (fun t u => ts[i]? = some t ∧ us[n + i]? = some u ∧ f t = f u)
      (tokenAt us (n + i)) := by
  have hmap := hts.map_eq i
  have hi' : n + i < us.length := hts.length_eq ▸ Nat.add_lt_add_left hi n
  rw [List.getElem?_eq_getElem hi, List.getElem?_eq_getElem hi'] at hmap
  rw [tokenAt_eq_ok.2 (List.getElem?_eq_getElem hi), tokenAt_eq_ok.2 (List.getElem?_eq_getElem hi')]
  exact .ok ⟨List.getElem?_eq_getElem hi, List.getElem?_eq_getElem hi', (Option.some.inj hmap).symm⟩

include hf

theorem isEndedAt_eq_of_alike (hne : ts ≠ []) : isEndedAt us (n + i) = isEndedAt ts i := by
  have hpos := List.length_pos_of_ne_nil hne
  have hlast : us.length - 1 = n + (ts.length - 1) := by
    rw [hts.length_eq]
    omega
  have hany : us[n + (ts.length - 1)]?.any (·.isEnd) = ts[ts.length - 1]?.any (·.isEnd) := by
    have hmap := hts.map_eq (ts.length - 1)
    revert hmap
    cases us[n + (ts.length - 1)]? with
    | none => cases ts[ts.length - 1]? <;> simp
    | some u =>
      cases ts[ts.length - 1]? with
      | none => simp
      | some t =>
        intro hmap
        exact isEnd_eq_of_alike hf (Option.some.inj hmap)
  simp only [isEndedAt, hlast, hany, Nat.add_le_add_iff_left, Nat.add_assoc, Nat.add_left_cancel_iff]

theorem exists_isEnd_of_alike {e : Token K} (hq : ts[q]? = some e) (he : e.isEnd = true) :
    ∃ e', us[n + q]? = some e' ∧ e'.isEnd = true := by
  have hmap := hts.map_eq q
  rw [hq, Option.map_some, Option.map_eq_some_iff] at hmap
  obtain ⟨e', he', hfe⟩ := hmap
  exact ⟨e', he', (isEnd_eq_of_alike hf hfe).trans he⟩

theorem Outcome.matchedAt_alike (hne : ts ≠ []) {tree tree' : Tree K}
    (htree : tree.mapTokens f = tree'.mapTokens f)
    {stop : Nat} {errors errors' : List (Unexpected K)} :
    (matchedAt ts tree stop errors).Alike f n (matchedAt us tree' (n + stop) errors') := by
  rw [matchedAt, matchedAt, isEndedAt_eq_of_alike hf hts hne]
  exact .matched htree

omit hf in
theorem Repetition.take_inStep (hq : q < ts.length) {step step' : Nat → Match (Outcome K)}
    (hf : ∀ t, (f t).kind = t.kind) (hwithin : StepWithin q step)
    (hstep : StepsAlike f n q step step') {m : Nat} (hi : i ≤ q) :
    (take ts step m i).InStep (Repetition.Alike f n) (take us step' m (n + i)) := by
  induction m generalizing i with
  | zero => exact .endless
  | succ m ih =>
    rw [take, take]
    refine ((hstep i hi).left (hwithin i hi)).bind fun o o' h => ?_
    obtain ⟨ho, hstop⟩ := h
    cases ho with
    | failed => exact .ok ⟨rfl, rfl⟩
    | inapplicable => exact .ok ⟨rfl, rfl⟩
    | @matched tree tree' stop _ _ _ htree =>
      obtain ⟨-, hsq⟩ := hstop.stop_mem
      simp only [Nat.add_lt_add_iff_left]
      split
      · refine (tokenAt_inStep hts (hsq.trans_lt hq)).bind fun t u h => ?_
        obtain ⟨-, -, htu⟩ := h
        rw [isEnd_eq_of_alike hf htu]
        split
        · exact .ok ⟨congrArg₂ List.cons htree rfl, rfl⟩
        · exact (ih hsq).bind fun r r' hr => .ok ⟨congrArg₂ List.cons htree hr.trees_eq, hr.stop_eq⟩
      · exact .ok ⟨rfl, rfl⟩

omit hf in
theorem Repetition.rounds_inStep {e : Token K} (hq : ts[q]? = some e)
    {step step' : Nat → Match (Outcome K)} (hf : ∀ t, (f t).kind = t.kind)
    (hwithin : StepWithin q step) (hstep : StepsAlike f n q step step') (hi : i ≤ q) :
    (take ts step (ts.length - i + 1) i).InStep (fun r r' => r.Alike f n r' ∧ r.stop < ts.length)
      (take us step' (us.length - (n + i) + 1) (n + i)) := by
  have hlt : q < ts.length := (List.getElem?_eq_some_iff.1 hq).1
  rw [hts.length_eq, Nat.add_sub_add_left]
  refine ((take_inStep hts hlt hf hwithin hstep hi).left (take_safe hq hwithin hi)).imp ?_
  exact fun r r' h => ⟨h.1, h.2.2.trans_lt hlt⟩

theorem Repetition.outcome_inStep {r r' : Repetition K} (hr : r.Alike f n r')
    (hstop : r.stop < ts.length) :
    (r.outcome ts).InStep (Outcome.Alike f n) (r'.outcome us) := by
  rw [outcome, outcome, hr.stop_eq]
  refine (tokenAt_inStep hts hstop).bind fun t u _ => .ok ?_
  apply Outcome.matchedAt_alike hf hts (List.ne_nil_of_length_pos (Nat.zero_lt_of_lt hstop))
  exact congrArg Tree.many hr.trees_eq

namespace Clause

omit hf hts in
theorem matchAll_inStep {cs : List (Clause K)} (hwithin : ∀ c ∈ cs, StepWithin q (matchAt ts call c))
    (hcs : ∀ c ∈ cs, StepsAlike f n q (matchAt ts call c) (matchAt us call' c)) (hi : i ≤ q) :
    (matchAll ts call cs i).InStep (Matches.Alike f n) (matchAll us call' cs (n + i)) := by
  induction cs generalizing i with
  | nil => exact .ok (.matched rfl)
  | cons c cs ih =>
    rw [matchAll, matchAll]
    refine ((hcs c (by simp) i hi).left (hwithin c (by simp) i hi)).bind fun o o' h => ?_
    obtain ⟨ho, hstop⟩ := h
    cases ho with
    | failed => exact .ok .failed
    | inapplicable => exact .ok .failed
    | matched htree =>
      have hrest := ih (fun d hd => hwithin d (by simp [hd])) (fun d hd => hcs d (by simp [hd]))
        hstop.stop_mem.2
      exact hrest.bind fun ms ms' hms => .ok (hms.cons htree)

theorem matchTerminal_inStep {k : K} (hi : i < ts.length) :
    (matchTerminal ts k i).InStep (Outcome.Alike f n) (matchTerminal us k (n + i)) := by
  refine (tokenAt_inStep hts hi).bind fun t u h => ?_
  obtain ⟨-, -, htu⟩ := h
  rw [kind_eq_of_alike hf htu, isEnd_eq_of_alike hf htu]
  split
  · apply Match.InStep.ok
    apply Outcome.matchedAt_alike hf hts (List.ne_nil_of_length_pos (Nat.zero_lt_of_lt hi))
    exact congrArg Tree.leaf htu
  · exact .ok .failed

omit hf hts [TokenKind K] in
theorem exists_failed_of_errors (hi : i < ts.length) (errors : List (Unexpected K)) :
    ∃ errors', (if errors.isEmpty then do return .failed [.nothingExpected (← tokenAt ts i)] i
      else return .failed errors i : Match (Outcome K)) = .ok (.failed errors' i) := by
  rw [tokenAt_eq_ok.2 (List.getElem?_eq_getElem hi)]
  cases errors with
  | nil => exact ⟨_, rfl⟩
  | cons => exact ⟨_, rfl⟩

theorem matchAt_inStep {e : Token K} (hq : ts[q]? = some e) (he : e.isEnd = true)
    (hwithin : ∀ name, StepWithin q (call name))
    (hcall : ∀ name, StepsAlike f n q (call name) (call' name)) (c : Clause K) :
    StepsAlike f n q (matchAt ts call c) (matchAt us call' c) := by
  have hlt : q < ts.length := (List.getElem?_eq_some_iff.1 hq).1
  have hne : ts ≠ [] := List.ne_nil_of_length_pos (Nat.zero_lt_of_lt hlt)
  induction c using Clause.induction with
  | terminal k =>
    intro i hi
    rw [matchAt, matchAt]
    exact matchTerminal_inStep hf hts (hi.trans_lt hlt)
  | nonTerminal name =>
    intro i hi
    rw [matchAt_nonTerminal, matchAt_nonTerminal]
    exact hcall name i hi
  | zeroOrMore c ih =>
    intro i hi
    rw [matchAt, matchAt]
    refine (Repetition.rounds_inStep hts hq hf (matchAt_safe hq he hwithin c) ih hi).bind ?_
    exact fun r r' h => Repetition.outcome_inStep hf hts h.1 h.2
  | oneOrMore c ih =>
    intro i hi
    rw [matchAt, matchAt]
    refine (Repetition.rounds_inStep hts hq hf (matchAt_safe hq he hwithin c) ih hi).bind
      fun r r' h => ?_
    rw [h.1.isEmpty_eq]
    split
    · exact Repetition.outcome_inStep hf hts h.1 h.2
    · -- Whatever errors there are, both repetitions fail where they began.
      have hi' : n + i < us.length := by
        rw [hts.length_eq]
        omega
      obtain ⟨errors, herrors⟩ := exists_failed_of_errors (hi.trans_lt hlt) r.errors
      obtain ⟨errors', herrors'⟩ := exists_failed_of_errors hi' r'.errors
      rw [herrors, herrors']
      exact .ok .failed
  | optional c ih =>
    intro i hi
    rw [matchAt, matchAt]
    refine (ih i hi).bind fun o o' ho => ?_
    cases ho with
    | matched htree => exact .ok (.matched (congrArg Tree.present htree))
    | failed => exact .ok (Outcome.matchedAt_alike hf hts hne rfl)
    | inapplicable => exact .ok (Outcome.matchedAt_alike hf hts hne rfl)
  | group cs ih =>
    intro i hi
    rw [matchAt, matchAt]
    refine (matchAll_inStep (fun c _ => matchAt_safe hq he hwithin c) ih hi).bind
      fun ms ms' hms => ?_
    cases hms with
    | failed => exact .ok .failed
    | matched htrees =>
      apply Match.InStep.ok
      apply Outcome.matchedAt_alike hf hts hne
      exact congrArg Tree.group htrees

end Clause

omit hts in
theorem Rule.operatorOf?_mapTokensAll (r : Rule K V) (trees : List (Tree K)) :
    r.operatorOf? (Tree.mapTokensAll f trees) = r.operatorOf? trees := by
  match trees with
  | [] => rfl
  | [_] => rfl
  | [_, .leaf t] => simp [Tree.mapTokensAll, Tree.mapTokens, operatorOf?, hf]
  | [_, .node _ _] | [_, .many _] | [_, .absent] | [_, .present _] | [_, .group _] => rfl
  | _ :: _ :: _ :: _ => simp [Tree.mapTokensAll, operatorOf?]

omit hts in
theorem Rule.head_eq_of_alike (r : Rule K V) (name : String) (index : Nat)
    {trees trees' : List (Tree K)}
    (h : Tree.mapTokensAll f trees = Tree.mapTokensAll f trees') :
    r.head name index trees = r.head name index trees' := by
  rw [head, head, ← operatorOf?_mapTokensAll hf, h, operatorOf?_mapTokensAll hf]

omit hf hts [TokenKind K] in
theorem Furthest.stop_note {a : Furthest K} {o : Outcome K} (h : o.errors ≠ []) :
    (a.note o).stop = max a.stop o.stop := by
  have hcond : ((a.stop < o.stop && !o.errors.isEmpty) || (a.stop = 0 && o.stop = 0)) = true ↔
      a.stop < o.stop ∨ a.stop = 0 ∧ o.stop = 0 := by
    simp [h]
  rw [note]
  by_cases hc : a.stop < o.stop ∨ a.stop = 0 ∧ o.stop = 0
  · rw [if_pos (hcond.2 hc)]
    simp only
    omega
  · rw [if_neg (mt hcond.1 hc)]
    omega

omit hf hts [TokenKind K] in
theorem NonTerminal.firstMatch_inStep {attempt attempt' : Nat × Rule K V → Match (Outcome K)}
    {none none' : Unexpected K} {rs : List (Nat × Rule K V)}
    (hattempt : ∀ p ∈ rs, (attempt p).InStep
      (fun o o' => (o.Alike f n o' ∧ o.Within i q) ∧ o'.Within (n + i) (n + q)) (attempt' p))
    {a a' : Furthest K} (ha : ∀ stop, max a'.stop (n + stop) = n + max a.stop stop)
    (hrs : rs = [] → a'.stop = n + a.stop) :
    (firstMatch attempt none rs a).InStep (Outcome.Alike f n) (firstMatch attempt' none' rs a') := by
  induction rs generalizing a a' with
  | nil =>
    rw [firstMatch, firstMatch, hrs rfl]
    exact .ok .failed
  | cons p rs ih =>
    rw [firstMatch, firstMatch]
    refine (hattempt p (by simp)).bind fun o o' h => ?_
    obtain ⟨⟨ho, hleft⟩, hright⟩ := h
    cases ho with
    | matched htree => exact .ok (.matched htree)
    | inapplicable => cases hleft
    | @failed stop errors errors' =>
      cases hleft with
      | failed hne =>
        cases hright with
        | failed hne' =>
          -- The count starts at zero on both sides; from the first attempt on it is `n` apart.
          have hnote : (a'.note (.failed errors' (n + stop))).stop =
              n + (a.note (.failed errors stop)).stop := by
            rw [Furthest.stop_note (o := .failed _ stop) hne,
              Furthest.stop_note (o := .failed _ (n + stop)) hne']
            exact ha stop
          refine ih (fun p hp => hattempt p (by simp [hp])) (fun s => ?_) fun _ => hnote
          rw [hnote, Nat.add_max_add_left]

variable {e : Token K} (hq : ts[q]? = some e) (he : e.isEnd = true)
  (hwithin : ∀ name, StepWithin q (call name)) (hwithin' : ∀ name, StepWithin (n + q) (call' name))
  (hcall : ∀ name, StepsAlike f n q (call name) (call' name))

include hq he hwithin hcall

theorem Rule.matchAt_inStep (name : String) (index : Nat) (r : Rule K V) :
    StepsAlike f n q (r.matchAt ts call name index) (r.matchAt us call' name index) := by
  intro i hi
  have hlt : q < ts.length := (List.getElem?_eq_some_iff.1 hq).1
  refine (tokenAt_inStep hts (hi.trans_lt hlt)).bind fun t u h => ?_
  obtain ⟨-, -, htu⟩ := h
  rw [kind_eq_of_alike hf htu]
  split
  · exact .ok .inapplicable
  · refine (Clause.matchAll_inStep (fun c _ => Clause.matchAt_safe hq he hwithin c)
      (fun c _ => Clause.matchAt_inStep hf hts hq he hwithin hcall c) hi).bind fun ms ms' hms => ?_
    cases hms with
    | failed => exact .ok .failed
    | matched htrees =>
      apply Match.InStep.ok
      apply Outcome.matchedAt_alike hf hts (List.ne_nil_of_length_pos (Nat.zero_lt_of_lt hlt))
      rw [head_eq_of_alike hf r name index htrees]
      exact congrArg (Tree.node _) htrees

include hwithin'

theorem NonTerminal.matchAt_inStep (m : NonTerminal K V) :
    StepsAlike f n q (m.matchAt ts call) (m.matchAt us call') := by
  intro i hi
  have hlt : q < ts.length := (List.getElem?_eq_some_iff.1 hq).1
  obtain ⟨e', hq', he'⟩ := exists_isEnd_of_alike hf hts hq he
  refine (tokenAt_inStep hts (hi.trans_lt hlt)).bind fun t u h => ?_
  obtain ⟨ht, hu, htu⟩ := h
  dsimp only
  rw [← kind_eq_of_alike hf htu]
  split
  · exact .ok .failed
  · next hne =>
    rw [List.isEmpty_iff] at hne
    refine firstMatch_inStep (i := i) (q := q) (fun p hp => ?_) (fun stop => by simp)
      fun hnil => absurd hnil hne
    have hrule := Rule.matchAt_inStep hf hts hq he hwithin hcall m.name p.1 p.2 i hi
    refine (hrule.left (candidate_safe hq he hwithin ht hp hi)).right ?_
    rw [kind_eq_of_alike hf htu] at hp
    exact candidate_safe hq' he' hwithin' hu hp (Nat.add_le_add_left hi n)

end

namespace Grammar

variable {g : Grammar K V} {q : Nat} {e : Token K} (hf : ∀ t, (f t).kind = t.kind)
  (hts : SeenAlike f n ts us) (hq : ts[q]? = some e) (he : e.isEnd = true)

include hf hts hq he

theorem call_inStep (depth : Nat) (name : String) :
    StepsAlike f n q (g.call ts depth name) (g.call us depth name) := by
  obtain ⟨e', hq', he'⟩ := exists_isEnd_of_alike hf hts hq he
  induction depth generalizing name with
  | zero => exact fun i _ => .endless
  | succ depth ih =>
    intro i hi
    rw [call, call]
    refine (tokenAt_inStep hts (hi.trans_lt (List.getElem?_eq_some_iff.1 hq).1)).bind fun t u _ => ?_
    cases g.nonTerminal? name with
    | none => exact .ok .failed
    | some m =>
      exact m.matchAt_inStep hf hts hq he (call_safe hq he) (call_safe hq' he') ih i hi

theorem matchAt_inStep (depth : Nat) (c : Clause K) :
    StepsAlike f n q (c.matchAt ts (g.call ts depth)) (c.matchAt us (g.call us depth)) :=
  Clause.matchAt_inStep hf hts hq he (call_safe hq he) (call_inStep hf hts hq he depth) c

theorem matchRuleAt_inStep (depth : Nat) (name : String) (index : Nat) (r : Rule K V) :
    StepsAlike f n q (r.matchAt ts (g.call ts depth) name index)
      (r.matchAt us (g.call us depth) name index) :=
  Rule.matchAt_inStep hf hts hq he (call_safe hq he) (call_inStep hf hts hq he depth) name index r

end Grammar

end Parsing
