import Mathlib.Data.List.Flatten
import Parsing.Proofs.Grammar.Faithful
import Parsing.Proofs.Grammar.WalkPairs

/-!
One more rule, put behind the others. The rules that were there keep their leading tokens if the
rule is the first of its name. If its name has rules already, but is referred to nowhere, the walk
comes to some rules earlier than before; they keep their leading tokens if none of the names that
the new rule leads to comes back to itself.
-/

namespace Parsing

variable {K V : Type}

namespace NonTerminal

variable {ns : List (NonTerminal K V)} {name a : String} {r : Rule K V}

theorem ofRules_concat {rules : List (String × Rule K V)} :
    ofRules (rules ++ [(name, r)]) = addRule name r (ofRules rules) := by
  rw [ofRules_eq, ofRules_eq, addRules, List.foldl_append]
  rfl

theorem find?_addRule_of_ne (h : a ≠ name) : find? (addRule name r ns) a = find? ns a := by
  induction ns with
  | nil => simp [addRule, find?, Ne.symm h]
  | cons n ns ih =>
    rw [addRule]
    split
    · next hn =>
      have hne : n.name ≠ a := fun heq => h (heq.symm.trans hn)
      rw [find?_cons, find?_cons, if_neg hne, if_neg hne]
    · rw [find?_cons, find?_cons, ih]

theorem find?_addRule_self :
    find? (addRule name r ns) name = some ⟨name, rulesOf ns name ++ [r]⟩ := by
  induction ns with
  | nil => simp [addRule, find?, rulesOf]
  | cons n ns ih =>
    rw [addRule]
    split
    · next hn =>
      subst hn
      simp [find?_cons, rulesOf]
    · next hn =>
      rw [find?_cons, if_neg hn, ih]
      simp [rulesOf, find?_cons, hn]

theorem names_addRule_of_find?_none (h : find? ns name = none) :
    (addRule name r ns).map (·.name) = ns.map (·.name) ++ [name] := by
  rw [names_addRule, if_neg]
  intro hmem
  obtain ⟨n, hn, rfl⟩ := List.mem_map.1 hmem
  have hsome := isSome_find?.2 ⟨n, hn, rfl⟩
  rw [h] at hsome
  cases hsome

theorem names_addRule_of_find?_some {n : NonTerminal K V} (h : find? ns name = some n) :
    (addRule name r ns).map (·.name) = ns.map (·.name) := by
  rw [names_addRule, if_pos]
  rw [← name_of_find? h]
  exact List.mem_map_of_mem (mem_of_find? h)

end NonTerminal

namespace Leading

open NonTerminal (find? rulesOf alternatives addRule)

section

variable {ns : List (NonTerminal K V)} {name : String} {r : Rule K V}

theorem depth_addRule : depth (addRule name r ns) = depth ns + 1 := by
  induction ns with
  | nil => rfl
  | cons n ns ih =>
    rw [addRule]
    split
    · simp only [depth, List.foldr_cons, List.length_append, List.length_singleton]
      omega
    · simp only [depth, List.foldr_cons] at ih ⊢
      omega

theorem depth_le_depth_addRule : depth ns ≤ depth (addRule name r ns) := by
  rw [depth_addRule]
  exact Nat.le_succ _

theorem not_ruleAt_length {n : NonTerminal K V} (hn : find? ns name = some n) (q : Rule K V) :
    ¬ RuleAt ns (name, n.rules.length) q := by
  rintro ⟨l, hl, hq⟩
  rw [hn] at hl
  cases hl
  simp at hq

theorem RuleAt.addRule {ref : RuleRef} {q : Rule K V} (h : RuleAt ns ref q) :
    RuleAt (addRule name r ns) ref q := by
  obtain ⟨n, hn, hq⟩ := h
  obtain ⟨a, i⟩ := ref
  by_cases ha : a = name
  · subst ha
    refine ⟨_, NonTerminal.find?_addRule_self, ?_⟩
    have hrules : rulesOf ns a = n.rules := by rw [rulesOf, hn]; rfl
    rw [hrules, List.getElem?_append_left (List.getElem?_eq_some_iff.1 hq).1]
    exact hq
  · exact ⟨n, (NonTerminal.find?_addRule_of_ne ha).trans hn, hq⟩

end

variable [TokenKind K] {ns : List (NonTerminal K V)} {start name : String} {r : Rule K V}

def afterVisit (ns : List (NonTerminal K V)) (m : Leading K) (name : String) : Leading K :=
  ((nonTerminal ns (depth ns) name).run m).2

theorem compute_eq_foldl (ns : List (NonTerminal K V)) (start : String) :
    compute ns start = (start :: ns.map (·.name)).foldl (afterVisit ns) [] := by
  have hforM : ∀ (l : List (NonTerminal K V)) (m : Leading K),
      ((l.forM fun n => discard <| nonTerminal ns (depth ns) n.name).run m).2 =
        (l.map (·.name)).foldl (afterVisit ns) m := by
    intro l
    induction l with
    | nil => exact fun m => rfl
    | cons n l ih => exact fun m => ih _
  exact hforM ns _

def NotLed (ns : List (NonTerminal K V)) (name : String) : Prop :=
  ∀ a cs, alternatives ns a cs → ¬ Leads (.group cs) name

omit [TokenKind K] in
theorem NotLed.of_unreferenced
    (h : ∀ a cs, alternatives ns a cs → .nonTerminal name ∉ Clause.walkAll cs) : NotLed ns name :=
  fun a cs ha hleads => h a cs ha hleads.mem_walkAll

theorem rulesFrom_addRule_of_notLed (h : NotLed ns name) {depth : Nat}
    (hvisit : ∀ b ≠ name, nonTerminal (addRule name r ns) depth b = nonTerminal ns depth b)
    {n : NonTerminal K V} {a : String} (hn : find? ns a = some n) :
    rulesFrom (nonTerminal (addRule name r ns) depth) a 0 n.rules =
      rulesFrom (nonTerminal ns depth) a 0 n.rules := by
  refine rulesFrom_congr fun q hq b hb => hvisit b ?_
  rintro rfl
  exact h a q.clauses ⟨n, hn, q, hq, rfl⟩ hb

theorem nonTerminal_addRule_of_ne (h : NotLed ns name) (depth : Nat) {a : String} (ha : a ≠ name) :
    nonTerminal (addRule name r ns) depth a = nonTerminal ns depth a := by
  induction depth generalizing a with
  | zero => rfl
  | succ depth ih =>
    rw [nonTerminal, nonTerminal, NonTerminal.find?_addRule_of_ne ha]
    cases hn : find? ns a with
    | none => rfl
    | some n => simp only [rulesFrom_addRule_of_notLed h (fun b hb => ih hb) hn]

theorem afterVisit_addRule_of_ne (h : NotLed ns name) {a : String} (ha : a ≠ name) (m : Leading K) :
    afterVisit (addRule name r ns) m a = afterVisit ns m a := by
  rw [afterVisit, nonTerminal_addRule_of_ne h _ ha,
    nonTerminal_eq_of_depth_le depth_le_depth_addRule, ← afterVisit]

theorem of_compute_addRule_of_find?_none (h : NotLed ns name) (hnew : find? ns name = none)
    (hstart : start ≠ name) {ref : RuleRef} {q : Rule K V} (hq : RuleAt ns ref q) :
    (compute (addRule name r ns) start).of ref = (compute ns start).of ref := by
  have hne : ∀ a ∈ start :: ns.map (·.name), a ≠ name := by
    rintro a ha rfl
    obtain rfl | ha := List.mem_cons.1 ha
    · exact hstart rfl
    · obtain ⟨n, hn, rfl⟩ := List.mem_map.1 ha
      have hsome := NonTerminal.isSome_find?.2 ⟨n, hn, rfl⟩
      rw [hnew] at hsome
      cases hsome
  -- The new name comes last, when the rules of all other names are known.
  have hcompute : compute (addRule name r ns) start =
      afterVisit (addRule name r ns) (compute ns start) name := by
    rw [compute_eq_foldl, compute_eq_foldl, NonTerminal.names_addRule_of_find?_none hnew,
      ← List.cons_append, List.foldl_append]
    refine congrArg (fun m => afterVisit (addRule name r ns) m name) ?_
    exact List.foldl_ext _ _ _ fun m a ha => afterVisit_addRule_of_ne h (hne a ha) m
  obtain ⟨s, hs, hof, -⟩ := entries_compute hq start
  have hkept := (nonTerminal_yields (addRule name r ns) (depth (addRule name r ns)) name
    (compute ns start)).1.kept ref ((compute_continues ns start).2 ref q hq)
  rw [hof, hcompute]
  exact of_of_entries (hkept.trans hs)

omit [TokenKind K] in
open Classical in
noncomputable def restrict (P : String → Prop) (ns : List (NonTerminal K V)) :
    List (NonTerminal K V) :=
  ns.filter fun n => decide (P n.name)

structure Settled (P : String → Prop) (ns : List (NonTerminal K V)) : Prop where
  closed : ∀ a b, P a → LeadsFrom (alternatives ns) a b → P b
  acyclic : ∀ a, P a → ¬ Relation.TransGen (LeadsFrom (alternatives ns)) a a

section

variable {P : String → Prop}

omit [TokenKind K]

theorem find?_restrict {a : String} {n : NonTerminal K V} :
    find? (restrict P ns) a = some n ↔ P a ∧ find? ns a = some n := by
  classical
  rw [find?, restrict, List.find?_filter]
  by_cases ha : P a
  · have heq : (fun n : NonTerminal K V => decide (P n.name) && decide (n.name = a)) =
        fun n => decide (n.name = a) := by
      funext n
      by_cases hn : n.name = a <;> simp [hn, ha]
    simp [heq, ha, find?]
  · have hnone : ∀ n ∈ ns, ¬ (decide (P n.name) && decide (n.name = a)) = true := by
      rintro n - hn
      simp only [Bool.and_eq_true, decide_eq_true_eq] at hn
      exact ha (hn.2 ▸ hn.1)
    simp [List.find?_eq_none.2 hnone, ha]

theorem ruleAt_restrict {ref : RuleRef} {q : Rule K V} :
    RuleAt (restrict P ns) ref q ↔ P ref.1 ∧ RuleAt ns ref q := by
  simp only [RuleAt, find?_restrict, and_assoc, exists_and_left]

theorem leadsFrom_restrict {a b : String} :
    LeadsFrom (alternatives (restrict P ns)) a b ↔ P a ∧ LeadsFrom (alternatives ns) a b := by
  simp only [LeadsFrom, NonTerminal.alternatives, find?_restrict]
  constructor
  · rintro ⟨cs, ⟨n, ⟨ha, hn⟩, hr⟩, hb⟩
    exact ⟨ha, cs, ⟨n, hn, hr⟩, hb⟩
  · rintro ⟨ha, cs, ⟨n, hn, hr⟩, hb⟩
    exact ⟨cs, ⟨n, ⟨ha, hn⟩, hr⟩, hb⟩

theorem Settled.acyclic_restrict (hP : Settled P ns) (a : String) :
    ¬ Relation.TransGen (LeadsFrom (alternatives (restrict P ns))) a a := by
  intro h
  obtain ⟨b, hab, -⟩ := Relation.TransGen.head'_iff.1 h
  refine hP.acyclic a (leadsFrom_restrict.1 hab).1 ?_
  exact Relation.TransGen.mono (fun b c hbc => (leadsFrom_restrict.1 hbc).2) _ _ h

theorem pending_restrict_le (P : String → Prop) (ns : List (NonTerminal K V)) (m : Leading K) :
    pending (restrict P ns) m ≤ pending ns m :=
  (List.filter_sublist.flatMap _).countP_le

end

omit [TokenKind K] in
theorem lookup_cons_of_ne {m : Leading K} {q ref : RuleRef} {s : LeadingTokens K} (h : ref ≠ q) :
    List.lookup ref ((q, s) :: m) = m.lookup ref := by
  have hb : (ref == q) = false := by simpa using h
  simp only [List.lookup_cons, hb]

/-- One memory twice, which holds of rules outside of `P` what `m₀` does. -/
structure Outside (P : String → Prop) (m₀ m m' : Leading K) : Prop where
  eq : m = m'
  lookup_eq : ∀ ref, ¬ P ref.1 → m.lookup ref = m₀.lookup ref

omit [TokenKind K] in
theorem Outside.cons {P : String → Prop} {m₀ m m' : Leading K} (h : Outside P m₀ m m')
    {ref : RuleRef} (href : P ref.1) (s : LeadingTokens K) :
    Outside P m₀ ((ref, s) :: m) ((ref, s) :: m') := by
  refine ⟨h.eq ▸ rfl, fun q hq => ?_⟩
  rw [lookup_cons_of_ne, h.lookup_eq q hq]
  rintro rfl
  exact hq href

section

variable {P : String → Prop} (hP : Settled P ns)
include hP

theorem nonTerminal_restrict (depth : Nat) {a : String} (ha : P a) :
    nonTerminal (restrict P ns) depth a = nonTerminal ns depth a := by
  induction depth generalizing a with
  | zero => rfl
  | succ depth ih =>
    rw [nonTerminal, nonTerminal]
    cases hn : find? ns a with
    | none =>
      have hnone : find? (restrict P ns) a = none := by
        rw [Option.eq_none_iff_forall_ne_some]
        intro n h
        rw [(find?_restrict.1 h).2] at hn
        cases hn
      rw [hnone]
    | some n =>
      have hrules : rulesFrom (nonTerminal (restrict P ns) depth) a 0 n.rules =
          rulesFrom (nonTerminal ns depth) a 0 n.rules :=
        rulesFrom_congr fun q hq b hb => ih (hP.closed a b ha ⟨q.clauses, ⟨n, hn, q, hq, rfl⟩, hb⟩)
      simp only [find?_restrict.2 ⟨ha, hn⟩, hrules]

theorem nonTerminal_outside (depth : Nat) {a : String} (ha : P a) (m₀ : Leading K) :
    Together (Outside P m₀) (nonTerminal ns depth a) (nonTerminal ns depth a) := by
  induction depth generalizing a with
  | zero => exact fun m m' hm => ⟨rfl, hm⟩
  | succ depth ih =>
    refine nonTerminal_succ_together (fun _ _ hm _ _ _ => hm.eq ▸ rfl) fun i q hq => ?_
    exact rule_together (fun _ _ h => h.eq ▸ rfl) (fun _ _ h _ => h.cons ha _)
      (fun _ _ _ h => h.cons ha _) fun b hb => ih (hP.closed a b ha ⟨_, hq.alternatives, hb⟩)

end

/-- Two memories that are alike, but for rules of settled names and for one more rule. Of settled
names each holds what the solution says. -/
structure Alike (P : String → Prop) (ns : List (NonTerminal K V)) (F : String → LeadingTokens K)
    (extra : RuleRef) (m m' : Leading K) : Prop where
  lookup_eq : ∀ ref, ¬ P ref.1 → ref ≠ extra → m.lookup ref = m'.lookup ref
  known : Known (restrict P ns) F (fun _ => False) m
  known' : Known (restrict P ns) F (fun _ => False) m'

theorem Known.cons {P : String → Prop} {F : String → LeadingTokens K} {m : Leading K}
    (h : Known (restrict P ns) F (fun _ => False) m) {ref : RuleRef}
    (href : ∀ q, ¬ RuleAt (restrict P ns) ref q) (s : LeadingTokens K) :
    Known (restrict P ns) F (fun _ => False) ((ref, s) :: m) := by
  intro q r hr hq hfree
  have hne : q ≠ ref := by
    rintro rfl
    exact href r hr
  rw [of_cons_of_ne hne]
  exact h q r hr ((visited_cons.1 hq).resolve_left hne) hfree

section

variable {P : String → Prop} {F : String → LeadingTokens K} {extra : RuleRef} {fuel : Nat}
  {m m' : Leading K}

theorem Alike.cons (h : Alike P ns F extra m m') {ref : RuleRef} (href : ¬ P ref.1)
    (s : LeadingTokens K) : Alike P ns F extra ((ref, s) :: m) ((ref, s) :: m') := by
  have hnot : ∀ q, ¬ RuleAt (restrict P ns) ref q := fun q hq => href (ruleAt_restrict.1 hq).1
  refine ⟨fun q hq hne => ?_, h.known.cons hnot s, h.known'.cons hnot s⟩
  rw [List.lookup_cons, List.lookup_cons, h.lookup_eq q hq hne]

theorem Alike.visited_eq (h : Alike P ns F extra m m') {ref : RuleRef} (href : ¬ P ref.1)
    (hne : ref ≠ extra) : m.visited ref = m'.visited ref := by
  rw [visited, visited, h.lookup_eq ref href hne]

theorem Alike.of_eq (h : Alike P ns F extra m m') {ref : RuleRef} (href : ¬ P ref.1)
    (hne : ref ≠ extra) : m.of ref = m'.of ref := by
  rw [of, of, h.lookup_eq ref href hne]

theorem nonTerminal_alike_of_settled (hP : Settled P ns) (hF : Solves (restrict P ns) F)
    {a : String} (ha : P a) :
    Together (Bounded ns (Alike P ns F extra) fuel) (nonTerminal ns fuel a)
      (nonTerminal ns fuel a) := by
  have hfinds : Finds (restrict P ns) F (fun _ => False) fuel (nonTerminal ns fuel a) (F a) :=
    nonTerminal_restrict hP fuel ha ▸ nonTerminal_finds hP.acyclic_restrict hF a fun _ => False.elim
  have hyields := nonTerminal_yields ns fuel a
  intro m m' hm
  obtain ⟨hknown, hfound⟩ := hfinds m
    ⟨hm.related.known, (pending_restrict_le P ns m).trans_lt hm.pending_lt⟩
  obtain ⟨hknown', hfound'⟩ := hfinds m'
    ⟨hm.related.known', (pending_restrict_le P ns m').trans_lt hm.pending_lt'⟩
  refine ⟨hfound.trans hfound'.symm, ⟨fun ref href hne => ?_, hknown, hknown'⟩,
    (pending_le (hyields m).1.keeps ns).trans_lt hm.pending_lt,
    (pending_le (hyields m').1.keeps ns).trans_lt hm.pending_lt'⟩
  have houtside (l : Leading K) := (nonTerminal_outside hP fuel ha l l l ⟨rfl, fun _ _ => rfl⟩).2
  rw [(houtside m).lookup_eq ref href, (houtside m').lookup_eq ref href,
    hm.related.lookup_eq ref href hne]

theorem nonTerminal_alike (hP : Settled P ns) (hF : Solves (restrict P ns) F)
    (hextra : ∀ q, ¬ RuleAt ns extra q) (a : String) :
    Together (Bounded ns (Alike P ns F extra) fuel) (nonTerminal ns fuel a)
      (nonTerminal ns fuel a) := by
  induction fuel generalizing a with
  | zero => exact fun m m' hm => absurd hm.pending_lt (Nat.not_lt_zero _)
  | succ fuel ih =>
    by_cases ha : P a
    · exact nonTerminal_alike_of_settled hP hF ha
    · have hne : ∀ i q, RuleAt ns (a, i) q → (a, i) ≠ extra := by
        rintro i q hq rfl
        exact hextra q hq
      refine nonTerminal_succ_together (fun _ _ hm i q hq => ?_) fun i q hq => ?_
      · exact hm.related.of_eq ha (hne i q hq)
      · exact rule_together_bounded hq (fun _ _ hm => hm.visited_eq ha (hne i q hq))
          (fun _ _ s hm => hm.cons ha s) fun b _ => ih b

theorem Alike.run_rule (h : Alike P ns F extra m m') (hP : Settled P ns)
    (hF : Solves (restrict P ns) F) (hextra : ∀ q, ¬ RuleAt ns extra q) (hout : ¬ P extra.1)
    (hr : ∀ b, Leads (.group r.clauses) b → P b) :
    Alike P ns F extra m ((rule (nonTerminal ns (depth ns)) extra r).run m').2 := by
  cases hv : m'.visited extra with
  | true =>
    rw [run_rule_of_visited r hv]
    exact h
  | false =>
    let begun : Leading K := (extra, .empty) :: m'
    let ended := (sequence (nonTerminal ns (depth ns)) r.clauses).run begun
    have hsame : Alike P ns F extra m' m' := ⟨fun _ _ _ => rfl, h.known', h.known'⟩
    have hafter : Alike P ns F extra ended.2 ended.2 :=
      (clause_together (c := .group r.clauses)
        (fun b _ => (nonTerminal_alike hP hF hextra b).of_bounded) begun begun
          (hsame.cons hout .empty)).2
    have houtside : Outside P begun ended.2 ended.2 :=
      (clause_together (c := .group r.clauses)
        (fun b hb => nonTerminal_outside hP (depth ns) (hr b hb) begun) begun begun
          ⟨rfl, fun _ _ => rfl⟩).2
    rw [run_rule_of_not_visited r hv]
    refine ⟨fun ref href hne => ?_, h.known, (hafter.cons hout ended.1).known'⟩
    calc m.lookup ref = m'.lookup ref := h.lookup_eq ref href hne
      _ = begun.lookup ref := (lookup_cons_of_ne hne).symm
      _ = ended.2.lookup ref := (houtside.lookup_eq ref href).symm
      _ = List.lookup ref ((extra, ended.1) :: ended.2) := (lookup_cons_of_ne hne).symm

end

theorem rulesFrom_concat {visit : String → Visit K (LeadingTokens K)} {i : Nat}
    {rs : List (Rule K V)} (m : Leading K) :
    ((rulesFrom visit name i (rs ++ [r])).run m).2 =
      ((rule visit (name, i + rs.length) r).run ((rulesFrom visit name i rs).run m).2).2 := by
  induction rs generalizing i m with
  | nil => rfl
  | cons q rs ih =>
    simp only [List.cons_append, rulesFrom, run_bind, List.length_cons]
    rw [ih, Nat.add_assoc, Nat.add_comm 1]

theorem afterVisit_addRule_self (h : NotLed ns name) (hr : ¬ Leads (.group r.clauses) name)
    {n : NonTerminal K V} (hn : find? ns name = some n) (m : Leading K) :
    afterVisit (addRule name r ns) m name =
      ((rule (nonTerminal ns (depth ns)) (name, n.rules.length) r).run
        (afterVisit ns m name)).2 := by
  have hrules : rulesOf ns name = n.rules := by rw [rulesOf, hn]; rfl
  have hvisits : rulesFrom (nonTerminal (addRule name r ns) (depth ns)) name 0 (n.rules ++ [r]) =
      rulesFrom (nonTerminal ns (depth ns)) name 0 (n.rules ++ [r]) := by
    refine rulesFrom_congr fun q hq b hb => nonTerminal_addRule_of_ne h _ ?_
    rintro rfl
    obtain hq | hq := List.mem_append.1 hq
    · exact h b q.clauses ⟨n, hn, q, hq, rfl⟩ hb
    · rw [List.mem_singleton.1 hq] at hb
      exact hr hb
  have hold : ((nonTerminal ns (depth ns + 1) name).run m).2 =
      ((rulesFrom (nonTerminal ns (depth ns)) name 0 n.rules).run m).2 := by
    rw [run_nonTerminal_succ hn]
  rw [nonTerminal_eq_of_depth_le (Nat.le_succ _), ← afterVisit] at hold
  rw [afterVisit, depth_addRule, run_nonTerminal_succ NonTerminal.find?_addRule_self, hrules,
    hvisits, rulesFrom_concat, Nat.zero_add, hold]

section

variable {P : String → Prop} (hP : Settled P ns) (h : NotLed ns name)
  (hr : ∀ b, Leads (.group r.clauses) b → P b) (hout : ¬ P name) {n : NonTerminal K V}
  (hn : find? ns name = some n)
include hP h hr hout hn

theorem Alike.afterVisit {F : String → LeadingTokens K} (hF : Solves (restrict P ns) F)
    {m m' : Leading K} (hm : Alike P ns F (name, n.rules.length) m m') (a : String) :
    Alike P ns F (name, n.rules.length) (afterVisit ns m a)
      (Leading.afterVisit (addRule name r ns) m' a) := by
  have hextra := not_ruleAt_length hn
  have hold := ((nonTerminal_alike hP hF hextra a).of_bounded m m' hm).2
  by_cases ha : a = name
  · subst ha
    rw [afterVisit_addRule_self h (fun hb => hout (hr _ hb)) hn]
    exact hold.run_rule hP hF hextra hout hr
  · rw [afterVisit_addRule_of_ne h ha]
    exact hold

theorem alike_compute {F : String → LeadingTokens K} (hF : Solves (restrict P ns) F)
    (start : String) :
    Alike P ns F (name, n.rules.length) (compute ns start)
      (compute (addRule name r ns) start) := by
  have hnone : Known (restrict P ns) F (fun _ => False) [] :=
    fun _ _ _ hq => by simp [visited] at hq
  have hinit : Alike P ns F (name, n.rules.length) [] [] := ⟨fun _ _ _ => rfl, hnone, hnone⟩
  rw [compute_eq_foldl, compute_eq_foldl, NonTerminal.names_addRule_of_find?_some hn]
  exact List.foldl_rel hinit fun a _ m m' hm => hm.afterVisit hP h hr hout hn hF a

theorem of_compute_addRule_of_settled {ref : RuleRef} {q : Rule K V} (hq : RuleAt ns ref q) :
    (compute (addRule name r ns) start).of ref = (compute ns start).of ref := by
  obtain ⟨F, hF⟩ := exists_solves hP.acyclic_restrict
  have halike := alike_compute hP h hr hout hn hF start
  by_cases href : P ref.1
  · have hat : RuleAt (restrict P ns) ref q := ruleAt_restrict.2 ⟨href, hq⟩
    rw [halike.known ref q hat ((compute_continues ns start).2 ref q hq) id,
      halike.known' ref q hat ((compute_continues _ start).2 ref q hq.addRule) id]
  · refine (halike.of_eq href ?_).symm
    rintro rfl
    exact not_ruleAt_length hn q hq

end

def LeadsBelow (A : Alternatives K) (c : Clause K) (b : String) : Prop :=
  ∃ a, Leads c a ∧ Relation.ReflTransGen (LeadsFrom A) a b

theorem of_compute_addRule_of_acyclic (h : NotLed ns name) (hr : ¬ Leads (.group r.clauses) name)
    (hacyclic : ∀ a, LeadsBelow (alternatives ns) (.group r.clauses) a →
      ¬ Relation.TransGen (LeadsFrom (alternatives ns)) a a) {n : NonTerminal K V}
    (hn : find? ns name = some n) {ref : RuleRef} {q : Rule K V} (hq : RuleAt ns ref q) :
    (compute (addRule name r ns) start).of ref = (compute ns start).of ref := by
  have hP : Settled (LeadsBelow (alternatives ns) (.group r.clauses)) ns :=
    ⟨fun _ _ ⟨c, hc, hca⟩ hab => ⟨c, hc, hca.tail hab⟩, hacyclic⟩
  refine of_compute_addRule_of_settled hP h (fun b hb => ⟨b, hb, .refl⟩) ?_ hn hq
  rintro ⟨a, ha, hname⟩
  obtain rfl | ⟨b, -, cs, hcs, hb⟩ := hname.cases_tail
  · exact hr ha
  · exact h b cs hcs hb

theorem rulesOf_fill {a : String} : rulesOf (fill ns start) a =
    (rulesOf ns a).zipWith (fun q s => { q with leading := s })
      ((List.range (rulesOf ns a).length).map fun i => (compute ns start).of (a, i)) := by
  rw [rulesOf, find?_fill, rulesOf]
  cases hn : find? ns a with
  | none => rfl
  | some n =>
    rw [← NonTerminal.name_of_find? hn]
    rfl

omit [TokenKind K] in
theorem exists_ruleAt {a : String} {i : Nat} (hi : i ∈ List.range (rulesOf ns a).length) :
    ∃ q, RuleAt ns (a, i) q := by
  rw [List.mem_range, rulesOf] at hi
  cases hn : find? ns a with
  | none => simp [hn] at hi
  | some n =>
    rw [hn] at hi
    exact ⟨n.rules[i], n, hn, List.getElem?_eq_getElem hi⟩

section

variable (h : ∀ ref q, RuleAt ns ref q →
  (compute (addRule name r ns) start).of ref = (compute ns start).of ref)
include h

theorem map_of_addRule (a : String) :
    (List.range (rulesOf ns a).length).map
        (fun i => (compute (addRule name r ns) start).of (a, i)) =
      (List.range (rulesOf ns a).length).map fun i => (compute ns start).of (a, i) := by
  refine List.map_congr_left fun i hi => ?_
  obtain ⟨q, hq⟩ := exists_ruleAt hi
  exact h (a, i) q hq

theorem find?_fill_addRule_of_ne {a : String} (ha : a ≠ name) :
    find? (fill (addRule name r ns) start) a = find? (fill ns start) a := by
  rw [find?_fill, find?_fill, NonTerminal.find?_addRule_of_ne ha]
  cases hn : find? ns a with
  | none => rfl
  | some n =>
    have hsets := map_of_addRule h a
    rw [rulesOf, hn] at hsets
    rw [Option.map_some, Option.map_some, NonTerminal.name_of_find? hn]
    exact congrArg (fun sets => some (fillRules n sets)) hsets

theorem exists_rulesOf_fill_addRule :
    ∃ q, rulesOf (fill (addRule name r ns) start) name = rulesOf (fill ns start) name ++ [q] := by
  refine ⟨{ r with leading :=
    (compute (addRule name r ns) start).of (name, (rulesOf ns name).length) }, ?_⟩
  rw [rulesOf_fill, rulesOf_fill, NonTerminal.rulesOf_addRule, if_pos rfl, List.length_append,
    List.length_singleton, List.range_succ, List.map_append, List.zipWith_append, map_of_addRule h]
  · rfl
  · simp

end

end Leading

end Parsing
