import Mathlib.Order.RelClasses
import Parsing.Proofs.Matching.Bounds
import Parsing.Proofs.Matching.Filter

namespace Parsing

variable {K V : Type} [TokenKind K]

inductive Rounds (ts : List (Token K)) (step : Nat → Match (Outcome K)) : Nat → Nat → Prop
  | first {i : Nat} : Rounds ts step i i
  | next {i j stop : Nat} {tree : Tree K} {ended : Bool} {errors : List (Unexpected K)}
      {t : Token K} :
    step i = .ok (.matched tree stop ended errors) → i < stop → ts[stop]? = some t →
    t.isEnd = false → Rounds ts step stop j → Rounds ts step i j

/-- `Visits ts call c i d j`: to match `c` at `i`, its part `d` is matched at `j`. -/
inductive Visits (ts : List (Token K)) (call : String → Nat → Match (Outcome K)) :
    Clause K → Nat → Clause K → Nat → Prop
  | zeroOrMore {c : Clause K} {i j : Nat} :
    Rounds ts (c.matchAt ts call) i j → Visits ts call (.zeroOrMore c) i c j
  | oneOrMore {c : Clause K} {i j : Nat} :
    Rounds ts (c.matchAt ts call) i j → Visits ts call (.oneOrMore c) i c j
  | optional {c : Clause K} {i : Nat} : Visits ts call (.optional c) i c i
  | group_head {c : Clause K} {cs : List (Clause K)} {i : Nat} :
    Visits ts call (.group (c :: cs)) i c i
  | group_tail {c d : Clause K} {cs : List (Clause K)} {i j stop : Nat} {tree : Tree K}
      {ended : Bool} {errors : List (Unexpected K)} :
    c.matchAt ts call i = .ok (.matched tree stop ended errors) →
    Visits ts call (.group cs) stop d j → Visits ts call (.group (c :: cs)) i d j

/-- `Enters ts call c i name j`: to match `c` at `i`, the non-terminal `name` is matched at `j`. -/
inductive Enters (ts : List (Token K)) (call : String → Nat → Match (Outcome K)) :
    Clause K → Nat → String → Nat → Prop
  | here {name : String} {i : Nat} : Enters ts call (.nonTerminal name) i name i
  | part {c d : Clause K} {name : String} {i j k : Nat} :
    Visits ts call c i d j → Enters ts call d j name k → Enters ts call c i name k

def Grammar.Calls (g : Grammar K V) (ts : List (Token K))
    (call : String → Nat → Match (Outcome K)) (a : String) (i : Nat) (b : String) (j : Nat) : Prop :=
  ∃ n t p, g.nonTerminal? a = some n ∧ ts[i]? = some t ∧ p ∈ n.candidates t.kind ∧
    Enters ts call (.group p.2.clauses) i b j

variable {g : Grammar K V} {ts : List (Token K)} {call call' : String → Nat → Match (Outcome K)}
  {c d : Clause K} {i j q : Nat} {name : String}

omit [TokenKind K] in
theorem StepWithin.stop_mem {step : Nat → Match (Outcome K)} (hstep : StepWithin q step)
    (hi : i ≤ q) {o : Outcome K} (ho : step i = .ok o) : i ≤ o.stop ∧ o.stop ≤ q :=
  ((hstep i hi).of_eq_ok ho).stop_mem

theorem Rounds.place_mem {step : Nat → Match (Outcome K)} (hstep : StepWithin q step)
    (h : Rounds ts step i j) (hi : i ≤ q) : i ≤ j ∧ j ≤ q := by
  induction h with
  | first => exact ⟨Nat.le_refl _, hi⟩
  | next ho hlt _ _ _ ih =>
    obtain ⟨hj, hq⟩ := ih (hstep.stop_mem hi ho).2
    exact ⟨hlt.le.trans hj, hq⟩

theorem Visits.place_mem (hwithin : ∀ c : Clause K, StepWithin q (c.matchAt ts call))
    (h : Visits ts call c i d j) (hi : i ≤ q) : i ≤ j ∧ j ≤ q := by
  induction h with
  | zeroOrMore h => exact h.place_mem (hwithin _) hi
  | oneOrMore h => exact h.place_mem (hwithin _) hi
  | optional => exact ⟨Nat.le_refl _, hi⟩
  | group_head => exact ⟨Nat.le_refl _, hi⟩
  | group_tail ho _ ih =>
    obtain ⟨hstop, hq⟩ := (hwithin _).stop_mem hi ho
    obtain ⟨hj, hq⟩ := ih hq
    exact ⟨hstop.trans hj, hq⟩

theorem Visits.length_walk_lt (h : Visits ts call c i d j) : d.walk.length < c.walk.length := by
  induction h with
  | zeroOrMore => simp [Clause.walk]
  | oneOrMore => simp [Clause.walk]
  | optional => simp [Clause.walk]
  | group_head =>
    simp only [Clause.walk, Clause.walkAll, List.length_cons, List.length_append]
    omega
  | group_tail _ _ ih =>
    simp only [Clause.walk, Clause.walkAll, List.length_cons, List.length_append] at ih ⊢
    omega

theorem Visits.leadsTo (hwithin : ∀ c : Clause K, StepWithin q (c.matchAt ts call))
    (hsound : ∀ c : Clause K, StepSound g ts c (c.matchAt ts call)) (h : Visits ts call c i d j)
    (hi : i ≤ q) (hj : j = i) (hname : LeadsTo (MatchesEmpty g.alternatives) d name) :
    LeadsTo (MatchesEmpty g.alternatives) c name := by
  induction h with
  | zeroOrMore => exact .zeroOrMore hname
  | oneOrMore => exact .oneOrMore hname
  | optional => exact .optional hname
  | group_head => exact .group_head hname
  | group_tail ho hrest ih =>
    obtain ⟨hstop, hq⟩ := (hwithin _).stop_mem hi ho
    obtain ⟨hrest, -⟩ := hrest.place_mem hwithin hq
    -- The clauses before took nothing, as the part is back where the group began.
    obtain rfl := Nat.le_antisymm hstop (hrest.trans_eq hj)
    obtain ⟨hfit, hcov⟩ := hsound _ _ _ _ _ _ ho
    exact .group_tail (hfit.matchesEmpty hcov.eq_nil) (ih hq hj hname)

theorem Enters.later_or_left (hwithin : ∀ c : Clause K, StepWithin q (c.matchAt ts call))
    (hsound : ∀ c : Clause K, StepSound g ts c (c.matchAt ts call)) (h : Enters ts call c i name j)
    (hi : i ≤ q) :
    j ≤ q ∧ (i < j ∨ (j = i ∧ LeadsTo (MatchesEmpty g.alternatives) c name)) := by
  induction h with
  | here => exact ⟨hi, .inr ⟨rfl, .nonTerminal⟩⟩
  | part hvisit _ ih =>
    obtain ⟨hle, hq⟩ := hvisit.place_mem hwithin hi
    obtain ⟨hq, hlt | ⟨rfl, hleft⟩⟩ := ih hq
    · exact ⟨hq, .inl (hle.trans_lt hlt)⟩
    · obtain heq | hlt := Nat.eq_or_lt_of_le hle
      · exact ⟨hq, .inr ⟨heq.symm, hvisit.leadsTo hwithin hsound hi heq.symm hleft⟩⟩
      · exact ⟨hq, .inl hlt⟩

namespace Grammar

theorem call_sound {depth : Nat} (name : String) :
    StepSound g ts (.nonTerminal name) (g.call ts depth name) := by
  rw [← callBy_leading]
  exact callBy_sound name

variable {e : Token K} {a b : String} {depth : Nat}

theorem Calls.later_or_left (hq : ts[q]? = some e) (he : e.isEnd = true)
    (h : g.Calls ts (g.call ts depth) a i b j) (hi : i ≤ q) :
    j ≤ q ∧ (i < j ∨ (j = i ∧ LeftReaches g.alternatives a b)) := by
  obtain ⟨n, t, p, hn, -, hp, henters⟩ := h
  obtain ⟨hjq, hlt | ⟨hj, hleft⟩⟩ := henters.later_or_left
    (Clause.matchAt_safe hq he (call_safe hq he)) (fun c => Clause.matchAt_sound call_sound) hi
  · exact ⟨hjq, .inl hlt⟩
  · have hr := NonTerminal.mem_numbered.1 (List.mem_filter.1 hp).1
    exact ⟨hjq, .inr ⟨hj, _, ⟨n, hn, _, List.mem_of_getElem? hr, rfl⟩, hleft⟩⟩

end Grammar

namespace Repetition

theorem take_congr {step step' : Nat → Match (Outcome K)}
    (h : ∀ j, Rounds ts step i j → step' j = step j) (n : Nat) :
    take ts step' n i = take ts step n i := by
  induction n generalizing i with
  | zero => rfl
  | succ n ih =>
    simp only [take, h i .first]
    cases ho : step i with
    | error fault => rfl
    | ok o =>
      cases o with
      | failed errors stop => rfl
      | inapplicable stop => rfl
      | matched tree stop ended errors =>
        simp only [bind, Except.bind]
        split
        · next hlt =>
          cases ht : tokenAt ts stop with
          | error fault => rfl
          | ok t =>
            dsimp only
            split
            · rfl
            · next hend =>
              have hnext : ∀ j, Rounds ts step stop j → step' j = step j := fun j hj =>
                h j (.next ho hlt (tokenAt_eq_ok.1 ht) (by simpa using hend) hj)
              rw [ih hnext]
        · rfl

end Repetition

namespace Clause

theorem matchAll_congr {cs : List (Clause K)}
    (hcs : ∀ c ∈ cs, ∀ i, (∀ b k, Enters ts call c i b k → call' b k = call b k) →
      matchAt ts call' c i = matchAt ts call c i)
    (h : ∀ b k, Enters ts call (.group cs) i b k → call' b k = call b k) :
    matchAll ts call' cs i = matchAll ts call cs i := by
  induction cs generalizing i with
  | nil => simp only [matchAll]
  | cons c cs ih =>
    have hc := hcs c (by simp) i fun b k hk => h b k (.part .group_head hk)
    simp only [matchAll, hc]
    cases ho : matchAt ts call c i with
    | error fault => rfl
    | ok o =>
      cases o with
      | failed errors stop => rfl
      | inapplicable stop => rfl
      | matched tree stop ended errors =>
        have hrest : matchAll ts call' cs stop = matchAll ts call cs stop := by
          refine ih (fun d hd => hcs d (by simp [hd])) fun b k hk => h b k ?_
          cases hk with
          | part hvisit hk => exact .part (.group_tail ho hvisit) hk
        simp only [bind, Except.bind, hrest]

theorem matchAt_congr (h : ∀ b k, Enters ts call c i b k → call' b k = call b k) :
    matchAt ts call' c i = matchAt ts call c i := by
  induction c using Clause.induction generalizing i with
  | terminal k => simp only [matchAt]
  | nonTerminal name =>
    simp only [matchAt]
    exact h name i .here
  | zeroOrMore c ih =>
    have htake := Repetition.take_congr fun j hj =>
      ih fun b k hk => h b k (.part (.zeroOrMore hj) hk)
    simp only [matchAt, htake]
  | oneOrMore c ih =>
    have htake := Repetition.take_congr fun j hj =>
      ih fun b k hk => h b k (.part (.oneOrMore hj) hk)
    simp only [matchAt, htake]
  | optional c ih =>
    have hc := ih fun b k hk => h b k (.part .optional hk)
    simp only [matchAt, hc]
  | group cs ih =>
    have hcs := matchAll_congr (fun c hc i => ih c hc) h
    simp only [matchAt, hcs]

end Clause

namespace NonTerminal

omit [TokenKind K] in
theorem firstMatch_congr {attempt attempt' : Nat × Rule K V → Match (Outcome K)}
    {none : Unexpected K} {rs : List (Nat × Rule K V)} {f : Furthest K}
    (h : ∀ p ∈ rs, attempt' p = attempt p) :
    firstMatch attempt' none rs f = firstMatch attempt none rs f := by
  induction rs generalizing f with
  | nil => rfl
  | cons p rs ih =>
    have hrest : ∀ f, firstMatch attempt' none rs f = firstMatch attempt none rs f :=
      fun f => ih fun p hp => h p (by simp [hp])
    simp only [firstMatch, h p (by simp), hrest]

theorem matchAt_congr {n : NonTerminal K V} {a : String} (hn : g.nonTerminal? a = some n)
    (h : ∀ b k, g.Calls ts call a i b k → call' b k = call b k) :
    n.matchAt ts call' i = n.matchAt ts call i := by
  simp only [matchAt]
  cases ht : tokenAt ts i with
  | error fault => rfl
  | ok t =>
    have hattempt : ∀ p ∈ n.candidates t.kind,
        p.2.matchAt ts call' n.name p.1 i = p.2.matchAt ts call n.name p.1 i := by
      intro p hp
      have hrule : Clause.matchAll ts call' p.2.clauses i = Clause.matchAll ts call p.2.clauses i :=
        Clause.matchAll_congr (fun c _ i => Clause.matchAt_congr)
          fun b k hk => h b k ⟨n, t, p, hn, tokenAt_eq_ok.1 ht, hp, hk⟩
      simp only [Rule.matchAt, hrule]
    simp only [bind, Except.bind, firstMatch_congr hattempt]

end NonTerminal

theorem wellFounded_of_later_or_lower {α : Type} (level : α → Nat) (n : Nat)
    {R : α × Nat → α × Nat → Prop}
    (h : ∀ x y, R x y → (x.2 < y.2 ∧ y.2 < n) ∨ (y.2 = x.2 ∧ level y.1 < level x.1)) :
    WellFounded fun y x => R x y := by
  have hlex : WellFounded (InvImage (Prod.Lex (· < ·) (· < ·))
      fun x : α × Nat => (n - x.2, level x.1)) :=
    InvImage.wf _ (WellFounded.prod_lex Nat.lt_wfRel.wf Nat.lt_wfRel.wf)
  refine Subrelation.wf (fun {y x} hxy => ?_) hlex
  obtain ⟨hlt, hbound⟩ | ⟨heq, hlevel⟩ := h x y hxy
  · exact .left _ _ (by omega)
  · simpa only [InvImage, heq] using Prod.Lex.right _ hlevel

theorem Match.exists_mapM {α β : Type} {f : α → Match β} {l : List α}
    (h : ∀ a ∈ l, ∃ b, f a = .ok b) : ∃ bs, l.mapM f = .ok bs := by
  induction l with
  | nil => exact ⟨_, rfl⟩
  | cons a l ih =>
    obtain ⟨b, hb⟩ := h a (by simp)
    obtain ⟨bs, hbs⟩ := ih fun a ha => h a (by simp [ha])
    refine ⟨b :: bs, ?_⟩
    rw [List.mapM_cons, Except.bind_eq_ok]
    exact ⟨b, hb, Except.bind_eq_ok.2 ⟨bs, hbs, rfl⟩⟩

theorem Takes.length_trees_le {step : Nat → Match (Outcome K)} {r : Repetition K}
    (h : Takes ts step i r) : i + r.trees.length ≤ r.stop := by
  induction h with
  | done => exact Nat.le_refl _
  | last _ hlt => exact hlt
  | more _ hlt _ _ _ ih =>
    dsimp only
    rw [List.length_cons]
    omega

namespace Grammar

variable {e : Token K}

theorem exists_matchRule (hl : NoLeftRecursion g.alternatives) (hq : ts[q]? = some e)
    (he : e.isEnd = true) (name : String) (index : Nat) (r : Rule K V) (hi : i ≤ q) :
    ∃ o, g.matchRule ts name index r i = .ok o := by
  rw [matchRule, ← callBy_leading, ← Rule.matchBy_leading]
  exact Rule.exists_matchBy hq he callBy_sound hi
    ⟨fun name _ => exists_callBy_depth hl hq he name hi,
      fun name _ _ hj => exists_callBy_depth hl hq he name hj⟩

theorem exists_matchStart (hl : NoLeftRecursion g.alternatives) (hq : ts[q]? = some e)
    (he : e.isEnd = true) (n : NonTerminal K V) : ∃ o, g.matchStart ts n = .ok o := by
  obtain ⟨t, ht⟩ : ∃ t, tokenAt ts 0 = .ok t := by
    have hbound := (Nat.zero_le q).trans_lt (List.getElem?_eq_some_iff.1 hq).1
    exact ⟨_, tokenAt_eq_ok.2 (List.getElem?_eq_getElem hbound)⟩
  obtain ⟨attempts, hattempts⟩ := Match.exists_mapM
    (l := n.numbered.filter fun p => p.2.admits t.kind)
    fun p _ => exists_matchRule hl hq he n.name p.1 p.2 (Nat.zero_le q)
  have hstop : ∀ o ∈ attempts, o.stop ≤ q := by
    intro o ho
    obtain ⟨p, -, hp⟩ := Match.mem_of_mapM_eq_ok hattempts ho
    exact ((matchRule_safe hq he (Nat.zero_le q)).of_eq_ok hp).2
  obtain ⟨last, hlast⟩ : ∃ o, report ts attempts = .ok o := by
    have hmax : (attempts.map Outcome.stop).foldl max 0 < ts.length :=
      (foldl_max_le (Nat.zero_le q) (by simpa using hstop)).trans_lt
        (List.getElem?_eq_some_iff.1 hq).1
    rw [report, tokenAt_eq_ok.2 (List.getElem?_eq_getElem hmax)]
    exact ⟨_, rfl⟩
  simp only [matchStart, ht, hattempts, hlast, bind, Except.bind]
  split
  · exact ⟨_, rfl⟩
  · split
    · exact ⟨_, rfl⟩
    · exact ⟨_, rfl⟩

theorem exists_parse (hl : NoLeftRecursion g.alternatives) (ts : List (Token K)) (start : String) :
    ∃ o, g.parse ts start = .ok o := by
  obtain ⟨e, hq, he⟩ := getElem?_last_withEndMarker ts
  rw [parse]
  split
  · exact exists_matchStart hl hq he _
  · have hbound := (Nat.zero_le _).trans_lt (List.getElem?_eq_some_iff.1 hq).1
    rw [tokenAt_eq_ok.2 (List.getElem?_eq_getElem hbound)]
    exact ⟨_, rfl⟩

theorem call_eq_of_depth_le (hl : NoLeftRecursion g.alternatives) (hq : ts[q]? = some e)
    (he : e.isEnd = true) (hi : i ≤ q) {depth : Nat} (hdepth : g.depth ts ≤ depth) :
    g.call ts depth name i = g.call ts (g.depth ts) name i := by
  induction depth, hdepth using Nat.le_induction with
  | base => rfl
  | succ depth _ ih =>
    obtain ⟨o, ho⟩ : ∃ o, g.call ts (g.depth ts) name i = .ok o := by
      rw [← callBy_leading]
      exact exists_callBy_depth hl hq he name hi
    rw [ho] at ih ⊢
    rw [← callBy_leading] at ih ⊢
    exact callBy_mono_succ name i o ih

structure Descends (g : Grammar K V) (ts : List (Token K)) : Prop where
  part : ∀ depth c i d j, i < ts.length → Visits ts (g.call ts depth) c i d j →
    d.walk.length < c.walk.length ∧ i ≤ j ∧ j < ts.length
  call : ∀ depth a i b j, i < ts.length → g.Calls ts (g.call ts depth) a i b j →
    (i < j ∧ j < ts.length) ∨ (j = i ∧ LeftReaches g.alternatives a b ∧ g.level b < g.level a)
  /-- There are no other calls, since none could change the outcome. -/
  only : ∀ depth call a n i, g.nonTerminal? a = some n →
    (∀ b j, g.Calls ts (g.call ts depth) a i b j → call b j = g.call ts depth b j) →
    n.matchAt ts call i = n.matchAt ts (g.call ts depth) i
  wellFounded : ∀ depth, WellFounded fun y x : String × Nat =>
    x.2 < ts.length ∧ g.Calls ts (g.call ts depth) x.1 x.2 y.1 y.2
  round : ∀ c i, i < ts.length →
    ∃ r, Takes ts (g.matchClause ts c) i r ∧ i + r.trees.length < ts.length
  depth : ∀ depth name i, i < ts.length → g.depth ts ≤ depth →
    g.call ts depth name i = g.call ts (g.depth ts) name i

theorem descends (hl : NoLeftRecursion g.alternatives) (hq : ts[ts.length - 1]? = some e)
    (he : e.isEnd = true) : g.Descends ts := by
  have hpos : ts.length - 1 < ts.length := (List.getElem?_eq_some_iff.1 hq).1
  have hcall : ∀ depth a i b j, i < ts.length → g.Calls ts (g.call ts depth) a i b j →
      (i < j ∧ j < ts.length) ∨
        (j = i ∧ LeftReaches g.alternatives a b ∧ g.level b < g.level a) := by
    intro depth a i b j hi h
    obtain ⟨hj, hlt | ⟨heq, hleft⟩⟩ := h.later_or_left hq he (by omega)
    · exact .inl ⟨hlt, by omega⟩
    · exact .inr ⟨heq, hleft, level_lt_of_leftReaches hl hleft⟩
  refine ⟨fun depth c i d j hi h => ?_, hcall, fun depth call a n i hn h => ?_, fun depth => ?_,
    fun c i hi => ?_, fun depth name i hi => call_eq_of_depth_le hl hq he (by omega)⟩
  · have hplace := h.place_mem (Clause.matchAt_safe hq he (call_safe hq he)) (by omega)
    exact ⟨h.length_walk_lt, hplace.1, by omega⟩
  · exact NonTerminal.matchAt_congr hn h
  · refine wellFounded_of_later_or_lower g.level ts.length fun x y hxy => ?_
    exact (hcall depth x.1 x.2 y.1 y.2 hxy.1 hxy.2).imp_right fun h => ⟨h.1, h.2.2⟩
  · obtain ⟨r, hr, hstop⟩ := Takes.exists_of_step hq he (Clause.matchAt_sound call_sound)
      (Nat.le_sub_one_of_lt hi) fun j _ hj => exists_matchClause hl hq he c hj
    have hlen := hr.length_trees_le
    exact ⟨r, hr, by omega⟩

end Grammar

/-- Without left recursion every parse comes to an outcome, whatever the start and the tokens are:
all calls that are made on the way go down. -/
theorem parse_returns {g : Grammar K V} (hl : NoLeftRecursion g.alternatives)
    (ts : List (Token K)) :
    (∀ start, ∃ o, g.parse ts start = .ok o) ∧ g.Descends (Grammar.withEndMarker ts) := by
  obtain ⟨e, hq, he⟩ := Grammar.getElem?_last_withEndMarker ts
  exact ⟨Grammar.exists_parse hl ts, Grammar.descends hl hq he⟩

namespace Brackets

theorem item_calls_list (call : String → Nat → Match (Outcome Json.TokenType)) :
    grammar.Calls (Grammar.withEndMarker tokens) call "item" 2 "list" 2 :=
  ⟨_, token .openBracket, (1, _), rfl, rfl, .head _, .part .group_head .here⟩

theorem list_lower_than_item :
    NoLeftRecursion grammar.alternatives ∧ (∃ o, grammar.parse interrupted "item" = .ok o) ∧
      LeftReaches grammar.alternatives "item" "list" ∧ grammar.level "list" < grammar.level "item" := by
  have hreturns := parse_returns noLeftRecursion
  refine ⟨noLeftRecursion, (hreturns interrupted).1 "item", ?_⟩
  have hcall := (hreturns tokens).2.call 5 _ _ _ _ (by decide) (item_calls_list _)
  simpa using hcall

end Brackets

end Parsing
