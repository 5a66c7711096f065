import Parsing.Proofs.Grammar.LeadingWalk

namespace Parsing

variable {K V : Type}

namespace Leading

/-- From related memories both visits find the same and leave related memories. -/
def Together {α : Type} (S : Leading K → Leading K → Prop) (x y : Visit K α) : Prop :=
  ∀ m m', S m m' → (x.run m).1 = (y.run m').1 ∧ S (x.run m).2 (y.run m').2

variable [TokenKind K] {S T : Leading K → Leading K → Prop}
  {visit visit' : String → Visit K (LeadingTokens K)} {name : String}

theorem clause_together {c : Clause K}
    (h : ∀ b, Leads c b → Together S (visit b) (visit' b)) :
    Together S (clause visit c) (clause visit' c) := by
  induction c using Clause.induction with
  | terminal k => exact fun m m' hm => ⟨rfl, hm⟩
  | nonTerminal name => exact h name .nonTerminal
  | zeroOrMore c ih => exact ih fun b hb => h b (.zeroOrMore hb)
  | oneOrMore c ih => exact ih fun b hb => h b (.oneOrMore hb)
  | optional c ih => exact ih fun b hb => h b (.optional hb)
  | group cs ih =>
    simp only [clause]
    induction cs with
    | nil => exact fun m m' hm => ⟨rfl, hm⟩
    | cons c cs ihs =>
      intro m m' hm
      obtain ⟨hfound, hrelated⟩ := ih c (by simp) (fun b hb => h b (.group_head hb)) m m' hm
      rw [run_sequence_cons, run_sequence_cons]
      split
      · next ho =>
        obtain ⟨hfound', hrelated'⟩ := ihs (fun d hd => ih d (by simp [hd]))
          (fun b hb => h b (.group_tail ho hb)) _ _ hrelated
        exact ⟨by rw [hfound, hfound'], hrelated'⟩
      · exact ⟨hfound, hrelated⟩

theorem rule_together {ref : RuleRef} {r : Rule K V}
    (hvisited : ∀ m m', S m m' → m.visited ref = m'.visited ref)
    (hbegin : ∀ m m', S m m' → m.visited ref = false → T ((ref, .empty) :: m) ((ref, .empty) :: m'))
    (hend : ∀ m m' s, T m m' → S ((ref, s) :: m) ((ref, s) :: m'))
    (h : ∀ b, Leads (.group r.clauses) b → Together T (visit b) (visit' b)) :
    Together S (rule visit ref r) (rule visit' ref r) := by
  intro m m' hm
  cases hv : m.visited ref with
  | true =>
    rw [run_rule_of_visited r hv, run_rule_of_visited r (hvisited m m' hm ▸ hv)]
    exact ⟨rfl, hm⟩
  | false =>
    have hsequence : Together T (sequence visit r.clauses) (sequence visit' r.clauses) :=
      clause_together (c := .group r.clauses) h
    obtain ⟨hfound, hrelated⟩ := hsequence _ _ (hbegin m m' hm hv)
    rw [run_rule_of_not_visited r hv, run_rule_of_not_visited r (hvisited m m' hm ▸ hv), ← hfound]
    exact ⟨rfl, hend _ _ _ hrelated⟩

theorem rulesFrom_together {i : Nat} {rs : List (Rule K V)}
    (h : ∀ j r, rs[j]? = some r →
      Together S (rule visit (name, i + j) r) (rule visit' (name, i + j) r)) :
    Together S (rulesFrom visit name i rs) (rulesFrom visit' name i rs) := by
  induction rs generalizing i with
  | nil => exact fun m m' hm => ⟨rfl, hm⟩
  | cons r rs ih =>
    intro m m' hm
    have hrelated := (h 0 r rfl m m' hm).2
    rw [rulesFrom, rulesFrom, run_bind, run_bind]
    exact ih (forall_getElem?_tail (fun k r =>
      Together S (rule visit (name, k) r) (rule visit' (name, k) r)) h) _ _ hrelated

variable {ns : List (NonTerminal K V)}

theorem nonTerminal_succ_together {d d' : Nat}
    (hof : ∀ m m', S m m' → ∀ i r, RuleAt ns (name, i) r → m.of (name, i) = m'.of (name, i))
    (hrule : ∀ i r, RuleAt ns (name, i) r →
      Together S (rule (nonTerminal ns d) (name, i) r) (rule (nonTerminal ns d') (name, i) r)) :
    Together S (nonTerminal ns (d + 1) name) (nonTerminal ns (d' + 1) name) := by
  intro m m' hm
  cases hn : NonTerminal.find? ns name with
  | none =>
    simp only [nonTerminal, hn]
    exact ⟨rfl, hm⟩
  | some n =>
    have hrules := (rulesFrom_together fun j r hr =>
      hrule (0 + j) r (RuleAt.of_find? hn j r hr)) m m' hm
    rw [run_nonTerminal_succ hn, run_nonTerminal_succ hn]
    refine ⟨?_, hrules.2⟩
    simp only [ofNonTerminal, NonTerminal.name_of_find? hn]
    refine congrArg LeadingTokens.ofList (List.flatMap_congr fun i hi => ?_)
    rw [List.mem_range] at hi
    rw [hof _ _ hrules.2 i n.rules[i] ⟨n, hn, List.getElem?_eq_getElem hi⟩]

omit [TokenKind K] in
theorem together_eq {α : Type} {x y : Visit K α} : Together Eq x y ↔ x = y := by
  constructor
  · intro h
    funext m
    exact Prod.ext (h m m rfl).1 (h m m rfl).2
  · rintro rfl m _ rfl
    exact ⟨rfl, rfl⟩

theorem rulesFrom_congr {i : Nat} {rs : List (Rule K V)}
    (h : ∀ r ∈ rs, ∀ b, Leads (.group r.clauses) b → visit' b = visit b) :
    rulesFrom visit' name i rs = rulesFrom visit name i rs := by
  refine together_eq.1 (rulesFrom_together fun j r hr => ?_)
  refine rule_together (T := Eq) (fun _ _ hm => hm ▸ rfl) (fun _ _ hm _ => hm ▸ rfl)
    (fun _ _ _ hm => hm ▸ rfl) fun b hb => together_eq.2 (h r (List.mem_of_getElem? hr) b hb)

structure Bounded (ns : List (NonTerminal K V)) (R : Leading K → Leading K → Prop) (bound : Nat)
    (m m' : Leading K) : Prop where
  related : R m m'
  pending_lt : pending ns m < bound
  pending_lt' : pending ns m' < bound

variable {R : Leading K → Leading K → Prop} {bound : Nat}

omit [TokenKind K] in
theorem Together.of_bounded {α : Type} {x y : Visit K α}
    (h : Together (Bounded ns R (depth ns)) x y) : Together R x y := by
  intro m m' hm
  obtain ⟨hfound, hbounded⟩ := h m m' ⟨hm, pending_lt_depth ns m, pending_lt_depth ns m'⟩
  exact ⟨hfound, hbounded.related⟩

theorem rule_together_bounded {ref : RuleRef} {r : Rule K V} (hr : RuleAt ns ref r)
    (hvisited : ∀ m m', R m m' → m.visited ref = m'.visited ref)
    (hcons : ∀ m m' s, R m m' → R ((ref, s) :: m) ((ref, s) :: m'))
    (h : ∀ b, Leads (.group r.clauses) b → Together (Bounded ns R bound) (visit b) (visit' b)) :
    Together (Bounded ns R (bound + 1)) (rule visit ref r) (rule visit' ref r) := by
  refine rule_together (fun m m' hm => hvisited m m' hm.related) (fun m m' hm hv => ?_)
    (fun m m' s hm => ?_) h
  · have hv' : m'.visited ref = false := hvisited m m' hm.related ▸ hv
    have hlt := pending_cons_lt (s := LeadingTokens.empty) hr.mem_refs hv
    have hlt' := pending_cons_lt (s := LeadingTokens.empty) hr.mem_refs hv'
    have hbound := hm.pending_lt
    have hbound' := hm.pending_lt'
    exact ⟨hcons m m' _ hm.related, by omega, by omega⟩
  · have hle (l : Leading K) : pending ns ((ref, s) :: l) ≤ pending ns l :=
      pending_le extends_cons ns
    exact ⟨hcons m m' s hm.related, Nat.lt_succ_of_le ((hle m).trans hm.pending_lt.le),
      Nat.lt_succ_of_le ((hle m').trans hm.pending_lt'.le)⟩

theorem nonTerminal_together {d d' : Nat} (hd : d ≤ d') (name : String) :
    Together (Bounded ns Eq d) (nonTerminal ns d name) (nonTerminal ns d' name) := by
  induction d generalizing d' name with
  | zero => exact fun m m' hm => absurd hm.pending_lt (Nat.not_lt_zero _)
  | succ d ih =>
    obtain ⟨d', rfl⟩ := Nat.exists_eq_succ_of_ne_zero (Nat.ne_zero_of_lt hd)
    refine nonTerminal_succ_together (fun _ _ hm _ _ _ => hm.related ▸ rfl) fun i r hr => ?_
    exact rule_together_bounded hr (fun _ _ h => h ▸ rfl) (fun _ _ _ h => h ▸ rfl)
      fun b _ => ih (Nat.le_of_succ_le_succ hd) b

/-- The walk never comes to the bound on its depth. -/
theorem nonTerminal_eq_of_depth_le {d : Nat} (hd : depth ns ≤ d) :
    nonTerminal ns d = nonTerminal ns (depth ns) := by
  funext name
  exact (together_eq.1 (nonTerminal_together hd name).of_bounded).symm

end Leading

end Parsing
