import Parsing.Proofs.Grammar.LeadingWalk

/-!
The leading tokens that are computed are exact, if no non-terminal comes back to itself through
leading positions: then the equations have one solution, and each rule has the list that the
solution gives it. While rules are visited, some are begun and not ended; what is known of all
others is already what the solution says.
-/

namespace Parsing

variable {K V : Type}

namespace Clause

variable [TokenKind K]

mutual

/-- The kinds a clause starts with in the order in which they are found, where `F` gives those of a
non-terminal. -/
def leadingBy (F : String → LeadingTokens K) : Clause K → LeadingTokens K
  | terminal k => .ofList [k]
  | nonTerminal name => F name
  | zeroOrMore c | oneOrMore c | optional c => leadingBy F c
  | group cs => leadingAllBy F cs

def leadingAllBy (F : String → LeadingTokens K) : List (Clause K) → LeadingTokens K
  | [] => .empty
  | c :: cs =>
    if c.isOptional then (leadingBy F c).extend (leadingAllBy F cs).toList else leadingBy F c

end

variable {F F' : String → LeadingTokens K}

theorem mem_leadingAllBy_cons {c : Clause K} {cs : List (Clause K)} {k : K} :
    k ∈ (leadingAllBy F (c :: cs)).toList ↔
      k ∈ (leadingBy F c).toList ∨ c.isOptional = true ∧ k ∈ (leadingAllBy F cs).toList := by
  rw [leadingAllBy]
  split
  · next h => simp [LeadingTokens.mem_extend, h]
  · next h => simp [h]

theorem leadingBy_congr {c : Clause K} (h : ∀ name, Leads c name → F name = F' name) :
    leadingBy F c = leadingBy F' c := by
  induction c using Clause.induction with
  | terminal k => rfl
  | nonTerminal name => exact h name .nonTerminal
  | zeroOrMore c ih => exact ih fun name hc => h name (.zeroOrMore hc)
  | oneOrMore c ih => exact ih fun name hc => h name (.oneOrMore hc)
  | optional c ih => exact ih fun name hc => h name (.optional hc)
  | group cs ih =>
    simp only [leadingBy]
    induction cs with
    | nil => rfl
    | cons c cs ihs =>
      have hfirst := ih c (by simp) fun name hc => h name (.group_head hc)
      rw [leadingAllBy, leadingAllBy, hfirst]
      split
      · next ho =>
        have hmore := ihs (fun d hd => ih d (by simp [hd]))
          fun name hcs => h name (.group_tail ho hcs)
        rw [hmore]
      · rfl

end Clause

theorem map_range_eq_map {α β : Type} {l : List α} {f : Nat → β} {g : α → β}
    (h : ∀ i a, l[i]? = some a → f i = g a) : (List.range l.length).map f = l.map g := by
  apply List.ext_getElem (by simp)
  intro i hi hi'
  rw [List.length_map] at hi'
  simpa using h i l[i] (List.getElem?_eq_getElem hi')

namespace Leading

open NonTerminal (find? alternatives)

section

variable [TokenKind K]

def ofRulesBy (F : String → LeadingTokens K) (n : NonTerminal K V) : LeadingTokens K :=
  .ofList (n.rules.flatMap fun r => (Clause.leadingAllBy F r.clauses).toList)

def Solves (ns : List (NonTerminal K V)) (F : String → LeadingTokens K) : Prop :=
  ∀ name, F name = (find? ns name).elim .empty (ofRulesBy F)

variable {ns : List (NonTerminal K V)} {F F' : String → LeadingTokens K}

theorem ofRulesBy_congr {n : NonTerminal K V}
    (h : ∀ r ∈ n.rules, ∀ name, Leads (.group r.clauses) name → F name = F' name) :
    ofRulesBy F n = ofRulesBy F' n := by
  have hrules : (n.rules.flatMap fun r => (Clause.leadingAllBy F r.clauses).toList) =
      n.rules.flatMap fun r => (Clause.leadingAllBy F' r.clauses).toList := by
    apply List.flatMap_congr
    intro r hr
    exact congrArg (·.toList) (Clause.leadingBy_congr (c := .group r.clauses) (h r hr))
  rw [ofRulesBy, ofRulesBy, hrules]

theorem Solves.equations (hF : Solves ns F) :
    LeadingEquations (alternatives ns) fun c k => k ∈ (Clause.leadingBy F c).toList where
  terminal k l := by simp [Clause.leadingBy]
  nonTerminal name l := by
    simp only [Clause.leadingBy]
    rw [hF name]
    cases hn : find? ns name with
    | none => simp [NonTerminal.alternatives, hn]
    | some n => simp [NonTerminal.alternatives, hn, ofRulesBy]
  zeroOrMore c l := .rfl
  oneOrMore c l := .rfl
  optional c l := .rfl
  group_nil l := by simp [Clause.leadingBy, Clause.leadingAllBy]
  group_cons c cs l := Clause.mem_leadingAllBy_cons

end

def LeadsFrom (A : Alternatives K) (a b : String) : Prop := ∃ cs, A a cs ∧ Leads (.group cs) b

theorem acyclic_of_noLeftRecursion {A : Alternatives K} (h : NoLeftRecursion A) (a : String) :
    ¬ Relation.TransGen (LeadsFrom A) a a :=
  fun ha => h a (Relation.TransGen.mono (fun _ _ ⟨_, hcs, hb⟩ => .of_leads hcs hb) _ _ ha)

theorem wellFounded_leadsFrom {ns : List (NonTerminal K V)}
    (hacyclic : ∀ a, ¬ Relation.TransGen (LeadsFrom (alternatives ns)) a a) :
    WellFounded fun b a => LeadsFrom (alternatives ns) a b := by
  classical
  refine Subrelation.wf (fun {b a} h => ?_) (measure fun a => (ns.map (·.name)).countP fun c =>
    decide (Relation.ReflTransGen (LeadsFrom (alternatives ns)) a c)).wf
  obtain ⟨cs, ⟨n, hn, -⟩, -⟩ := id h
  have ha : a ∈ ns.map (·.name) := by
    rw [← NonTerminal.name_of_find? hn]
    exact List.mem_map_of_mem (NonTerminal.mem_of_find? hn)
  exact countP_reflTransGen_lt ha h (hacyclic a)

section

variable [TokenKind K] {ns : List (NonTerminal K V)} {F F' : String → LeadingTokens K}

open Classical in
noncomputable def ofLed (ns : List (NonTerminal K V)) (a : String)
    (F : ∀ b, LeadsFrom (alternatives ns) a b → LeadingTokens K) (b : String) : LeadingTokens K :=
  if h : LeadsFrom (alternatives ns) a b then F b h else .empty

theorem exists_solves (hacyclic : ∀ a, ¬ Relation.TransGen (LeadsFrom (alternatives ns)) a a) :
    ∃ F, Solves ns F := by
  -- By well-founded recursion, from the names that lead to no others upwards.
  have wf := wellFounded_leadsFrom hacyclic
  refine ⟨wf.fix fun a F => (find? ns a).elim .empty (ofRulesBy (ofLed ns a F)), fun name => ?_⟩
  rw [wf.fix_eq]
  cases hn : find? ns name with
  | none => rfl
  | some n =>
    apply ofRulesBy_congr
    intro r hr b hb
    exact dif_pos ⟨r.clauses, ⟨n, hn, r, hr, rfl⟩, hb⟩

theorem Solves.unique (hacyclic : ∀ a, ¬ Relation.TransGen (LeadsFrom (alternatives ns)) a a)
    (hF : Solves ns F) (hF' : Solves ns F') : F' = F := by
  funext name
  induction name using (wellFounded_leadsFrom hacyclic).induction with
  | _ name ih =>
    rw [hF name, hF' name]
    cases hn : find? ns name with
    | none => rfl
    | some n =>
      apply ofRulesBy_congr
      intro r hr b hb
      exact ih b ⟨r.clauses, ⟨n, hn, r, hr, rfl⟩, hb⟩

end

/-- What is known is what the solution says, but for the rules that are `busy`: begun and not
ended. -/
def Known [TokenKind K] (ns : List (NonTerminal K V)) (F : String → LeadingTokens K)
    (busy : RuleRef → Prop) (m : Leading K) : Prop :=
  ∀ ref r, RuleAt ns ref r → m.visited ref = true → ¬ busy ref →
    m.of ref = Clause.leadingAllBy F r.clauses

structure Ready [TokenKind K] (ns : List (NonTerminal K V)) (F : String → LeadingTokens K)
    (busy : RuleRef → Prop) (fuel : Nat) (m : Leading K) : Prop where
  known : Known ns F busy m
  pending_lt : pending ns m < fuel

def Finds [TokenKind K] (ns : List (NonTerminal K V)) (F : String → LeadingTokens K)
    (busy : RuleRef → Prop) (fuel : Nat) (x : Visit K (LeadingTokens K)) (s : LeadingTokens K) :
    Prop :=
  ∀ m, Ready ns F busy fuel m → Known ns F busy (x.run m).2 ∧ (x.run m).1 = s

section

variable [TokenKind K] {ns : List (NonTerminal K V)} {F : String → LeadingTokens K}
  {busy : RuleRef → Prop} {fuel : Nat} {visit : String → Visit K (LeadingTokens K)}

theorem Ready.of_continues {m m' : Leading K} (h : Ready ns F busy fuel m)
    (hk : Known ns F busy m') (hc : Continues ns m m') : Ready ns F busy fuel m' :=
  ⟨hk, (pending_le hc.keeps ns).trans_lt h.pending_lt⟩

theorem sequence_finds {cs : List (Clause K)}
    (hcs : ∀ c ∈ cs, Yields ns c (clause visit c) ∧
      ((∀ name, Leads c name → Finds ns F busy fuel (visit name) (F name)) →
        Finds ns F busy fuel (clause visit c) (Clause.leadingBy F c)))
    (hvisit : ∀ name, Leads (.group cs) name → Finds ns F busy fuel (visit name) (F name)) :
    Finds ns F busy fuel (sequence visit cs) (Clause.leadingAllBy F cs) := by
  induction cs with
  | nil => exact fun m hm => ⟨hm.known, rfl⟩
  | cons c cs ih =>
    intro m hm
    obtain ⟨hyields, hclause⟩ := hcs c (by simp)
    obtain ⟨hknown, hfirst⟩ := hclause (fun name h => hvisit name (.group_head h)) m hm
    rw [run_sequence_cons, Clause.leadingAllBy]
    split
    · next ho =>
      have hrest := ih (fun d hd => hcs d (by simp [hd]))
        fun name h => hvisit name (.group_tail ho h)
      obtain ⟨hknown', hmore⟩ := hrest _ (hm.of_continues hknown (hyields m).1)
      exact ⟨hknown', by rw [hfirst, hmore]⟩
    · exact ⟨hknown, hfirst⟩

theorem clause_finds (hyields : ∀ name, Yields ns (.nonTerminal name) (visit name)) {c : Clause K}
    (hvisit : ∀ name, Leads c name → Finds ns F busy fuel (visit name) (F name)) :
    Finds ns F busy fuel (clause visit c) (Clause.leadingBy F c) := by
  induction c using Clause.induction with
  | terminal k => exact fun m hm => ⟨hm.known, rfl⟩
  | nonTerminal name => exact hvisit name .nonTerminal
  | zeroOrMore c ih => exact ih fun name h => hvisit name (.zeroOrMore h)
  | oneOrMore c ih => exact ih fun name h => hvisit name (.oneOrMore h)
  | optional c ih => exact ih fun name h => hvisit name (.optional h)
  | group cs ih => exact sequence_finds (fun c hc => ⟨clause_yields hyields c, ih c hc⟩) hvisit

theorem rule_known {ref : RuleRef} {r : Rule K V} (hr : RuleAt ns ref r)
    (hseq : Finds ns F (fun q => q = ref ∨ busy q) fuel (sequence visit r.clauses)
      (Clause.leadingAllBy F r.clauses))
    {m : Leading K} (hm : Ready ns F busy (fuel + 1) m) :
    Known ns F busy ((rule visit ref r).run m).2 := by
  cases hv : m.visited ref with
  | true =>
    rw [run_rule_of_visited r hv]
    exact hm.known
  | false =>
    have hbegun : Ready ns F (fun q => q = ref ∨ busy q) fuel ((ref, .empty) :: m) := by
      refine ⟨fun q s hs hq hbusy => ?_, ?_⟩
      · obtain ⟨hne, hbusy⟩ := not_or.1 hbusy
        rw [of_cons_of_ne hne]
        exact hm.known q s hs ((visited_cons.1 hq).resolve_left hne) hbusy
      · have hlt := pending_cons_lt (s := LeadingTokens.empty) hr.mem_refs hv
        have hfuel := hm.pending_lt
        omega
    obtain ⟨hknown, hfound⟩ := hseq _ hbegun
    rw [run_rule_of_not_visited r hv]
    intro q s hs hq hbusy
    by_cases hqr : q = ref
    · subst hqr
      rw [of_cons_self, hfound, hr.unique hs]
    · rw [of_cons_of_ne hqr]
      exact hknown q s hs ((visited_cons.1 hq).resolve_left hqr) (not_or.2 ⟨hqr, hbusy⟩)

theorem rulesFrom_known {name : String} {i : Nat} {rs : List (Rule K V)}
    (hyields : ∀ name, Yields ns (.nonTerminal name) (visit name))
    (hrs : ∀ j r, rs[j]? = some r → RuleAt ns (name, i + j) r ∧
      Finds ns F (fun q => q = (name, i + j) ∨ busy q) fuel (sequence visit r.clauses)
        (Clause.leadingAllBy F r.clauses))
    {m : Leading K} (hm : Ready ns F busy (fuel + 1) m) :
    Known ns F busy ((rulesFrom visit name i rs).run m).2 := by
  induction rs generalizing i m with
  | nil => exact hm.known
  | cons r rs ih =>
    obtain ⟨hr, hseq⟩ := hrs 0 r rfl
    have hknown := rule_known hr hseq hm
    have hcont := (rule_continues hr hyields m).1
    rw [rulesFrom, run_bind]
    apply ih (fun j s hs => ?_) (hm.of_continues hknown hcont)
    exact forall_getElem?_tail (fun k s => RuleAt ns (name, k) s ∧
      Finds ns F (fun q => q = (name, k) ∨ busy q) fuel (sequence visit s.clauses)
        (Clause.leadingAllBy F s.clauses)) hrs j s hs

theorem ofNonTerminal_eq {m : Leading K} {n : NonTerminal K V}
    (h : ∀ i r, n.rules[i]? = some r → m.of (n.name, i) = Clause.leadingAllBy F r.clauses) :
    m.ofNonTerminal n = ofRulesBy F n := by
  have hsets : (List.range n.rules.length).map (fun i => m.of (n.name, i)) =
      n.rules.map fun r => Clause.leadingAllBy F r.clauses := map_range_eq_map h
  have hkinds := congrArg (List.flatMap (·.toList)) hsets
  simp only [List.flatMap_map] at hkinds
  rw [ofNonTerminal, ofRulesBy, hkinds]

theorem nonTerminal_finds (hacyclic : ∀ a, ¬ Relation.TransGen (LeadsFrom (alternatives ns)) a a)
    (hF : Solves ns F) (name : String)
    (hbusy : ∀ q, busy q → Relation.TransGen (LeadsFrom (alternatives ns)) q.1 name) :
    Finds ns F busy fuel (nonTerminal ns fuel name) (F name) := by
  induction fuel generalizing busy name with
  | zero => exact fun m hm => absurd hm.pending_lt (Nat.not_lt_zero _)
  | succ fuel ih =>
    intro m hm
    cases hn : find? ns name with
    | none =>
      simp only [nonTerminal, hn]
      exact ⟨hm.known, by rw [hF name, hn]; rfl⟩
    | some n =>
      have hname := NonTerminal.name_of_find? hn
      have hrules (j : Nat) (r : Rule K V) (hr : n.rules[j]? = some r) :
          RuleAt ns (name, 0 + j) r ∧
            Finds ns F (fun q => q = (name, 0 + j) ∨ busy q) fuel
              (sequence (nonTerminal ns fuel) r.clauses) (Clause.leadingAllBy F r.clauses) := by
        have hat := RuleAt.of_find? hn j r hr
        refine ⟨hat, ?_⟩
        refine clause_finds (c := .group r.clauses) (nonTerminal_yields ns fuel) fun b hb => ?_
        have hstep : LeadsFrom (alternatives ns) name b := ⟨_, hat.alternatives, hb⟩
        apply ih b
        rintro q (rfl | hq)
        · exact .single hstep
        · exact (hbusy q hq).tail hstep
      have hknown := rulesFrom_known (nonTerminal_yields ns fuel) hrules hm
      rw [run_nonTerminal_succ hn]
      refine ⟨hknown, ?_⟩
      rw [hF name, hn]
      apply ofNonTerminal_eq
      intro i r hr
      have hat : RuleAt ns (name, i) r := ⟨n, hn, hr⟩
      -- A rule begun above and not ended would lead back from `name` to itself.
      have hfree : ¬ busy (name, i) := fun hb => hacyclic name (hbusy _ hb)
      have hv := visited_nonTerminal hat fuel m
      rw [run_nonTerminal_succ hn] at hv
      rw [hname]
      exact hknown (name, i) r hat hv hfree

theorem forM_known (hacyclic : ∀ a, ¬ Relation.TransGen (LeadsFrom (alternatives ns)) a a)
    (hF : Solves ns F) {l : List (NonTerminal K V)} {m : Leading K}
    (hm : Ready ns F (fun _ => False) fuel m) :
    Known ns F (fun _ => False)
      ((l.forM fun n => discard <| nonTerminal ns fuel n.name).run m).2 := by
  induction l generalizing m with
  | nil => exact hm.known
  | cons n l ih =>
    obtain ⟨hknown, -⟩ := nonTerminal_finds hacyclic hF n.name (fun _ => False.elim) m hm
    exact ih (hm.of_continues hknown (nonTerminal_yields ns fuel n.name m).1)

theorem of_compute (hacyclic : ∀ a, ¬ Relation.TransGen (LeadsFrom (alternatives ns)) a a)
    (hF : Solves ns F) {start : String} {ref : RuleRef} {r : Rule K V} (hr : RuleAt ns ref r) :
    (compute ns start).of ref = Clause.leadingAllBy F r.clauses := by
  have hinit : Ready ns F (fun _ => False) (depth ns) [] :=
    ⟨fun q s _ hq => by simp [visited] at hq, pending_lt_depth ns []⟩
  obtain ⟨hknown, -⟩ := nonTerminal_finds hacyclic hF start (fun _ => False.elim) [] hinit
  have hcont := (nonTerminal_yields ns (depth ns) start []).1
  have hall := forM_known hacyclic hF (l := ns) (hinit.of_continues hknown hcont)
  exact hall ref r hr ((compute_continues ns start).2 ref r hr) id

theorem mem_compute (hacyclic : ∀ a, ¬ Relation.TransGen (LeadsFrom (alternatives ns)) a a)
    {start : String} {ref : RuleRef} {r : Rule K V} (hr : RuleAt ns ref r) {k : K}
    (hk : Begins (alternatives ns) (.group r.clauses) k) :
    k ∈ ((compute ns start).of ref).toList := by
  obtain ⟨F, hF⟩ := exists_solves hacyclic
  rw [of_compute hacyclic hF hr]
  exact hF.equations.of_begins hk

theorem rule?_fill {start name : String} {i : Nat} {r : Rule K V}
    (h : (⟨start, fill ns start⟩ : Grammar K V).rule? name i = some r) :
    ∃ q, RuleAt ns (name, i) q ∧ r = { q with leading := (compute ns start).of (name, i) } := by
  obtain ⟨n, hn, hr⟩ := Grammar.rule?_eq_some.1 h
  rw [Grammar.nonTerminal?, find?_fill] at hn
  obtain ⟨n, hfind, rfl⟩ := Option.map_eq_some_iff.1 hn
  rw [getElem?_fillRules, NonTerminal.name_of_find? hfind] at hr
  obtain ⟨q, hq, rfl⟩ := Option.map_eq_some_iff.1 hr
  exact ⟨q, ⟨n, hfind, hq⟩, rfl⟩

end

end Leading

namespace Grammar

variable [TokenKind K] {start : String} {ps : List (Production K V)} {g : Grammar K V}

open NonTerminal (ofRules)

def AdmitsBegins (g : Grammar K V) : Prop :=
  ∀ name index r, g.rule? name index = some r → ∀ k, Begins g.alternatives (.group r.clauses) k →
    r.admits k = true

theorem admitsBegins_of_build (hg : build start ps = .ok g) (hl : NoLeftRecursion g.alternatives) :
    g.AdmitsBegins := by
  intro name index r hr k hk
  obtain ⟨rules, -, -, -, rfl⟩ := of_build_eq_ok hg
  obtain ⟨q, hq, rfl⟩ := Leading.rule?_fill hr
  rw [alternatives, Leading.alternatives_fill] at hl hk
  exact LeadingTokens.contains_iff.2
    (Leading.mem_compute (Leading.acyclic_of_noLeftRecursion hl) hq hk)

end Grammar

end Parsing
