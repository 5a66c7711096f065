import Parsing.Parser.Basic
import Parsing.Proofs.Matching.Completeness

namespace Parsing

variable {K V : Type} [TokenKind K]

def Reads (g : Grammar K V) (ts : List (Token K)) (c : Clause K) (i j : Nat) (a : Arg K V) : Prop :=
  ∃ tree ended errors, g.matchClause ts c i = .ok (.matched tree j ended errors) ∧
    g.argument tree = .ok a

def ReadsAll (g : Grammar K V) (ts : List (Token K)) (cs : List (Clause K)) (i j : Nat)
    (as : List (Arg K V)) : Prop :=
  ∃ trees errors, Clause.matchAll ts (g.call ts (g.depth ts)) cs i = .ok (.matched trees j errors) ∧
    g.arguments trees = .ok as

def ReadsMany (g : Grammar K V) (ts : List (Token K)) (c : Clause K) (i j : Nat)
    (as : List (Arg K V)) : Prop :=
  ∃ r, Takes ts (g.matchClause ts c) i r ∧ r.stop = j ∧ g.arguments r.trees = .ok as

def Refuses (g : Grammar K V) (ts : List (Token K)) (c : Clause K) (i : Nat) : Prop :=
  ∃ o, g.matchClause ts c i = .ok o ∧ o.isMatch = false

def RefusesAll (g : Grammar K V) (ts : List (Token K)) (cs : List (Clause K)) (i : Nat) : Prop :=
  ∃ errors stop, Clause.matchAll ts (g.call ts (g.depth ts)) cs i = .ok (.failed errors stop)

variable {g : Grammar K V} {ts : List (Token K)} {c : Clause K} {cs : List (Clause K)}
  {i j k : Nat} {t : Token K} {a : Arg K V} {as : List (Arg K V)} {v : V}

namespace Reads

theorem terminal (ht : ts[i]? = some t) (hend : t.isEnd = false) :
    Reads g ts (.terminal t.kind) i (i + 1) (.token t) :=
  ⟨.leaf t, _, [], Clause.matchAt_terminal.2 ⟨t, ht, (if_pos ⟨rfl, hend⟩).symm⟩, by
    rw [Grammar.argument]
    rfl⟩

theorem zeroOrMore (h : ReadsMany g ts c i j as) (ht : ts[j]? = some t) :
    Reads g ts (.zeroOrMore c) i j (.many as) := by
  obtain ⟨r, hr, rfl, has⟩ := h
  refine ⟨.many r.trees, _, _, Clause.matchAt_zeroOrMore.2
    ⟨r, hr, Repetition.outcome_eq_ok.2 ⟨t, ht, rfl⟩⟩, ?_⟩
  rw [Grammar.argument, has]
  rfl

end Reads

theorem Refuses.terminal {kind : K} (ht : ts[i]? = some t) (hkind : t.kind ≠ kind) :
    Refuses g ts (.terminal kind) i :=
  ⟨_, Clause.matchAt_terminal.2 ⟨t, ht, rfl⟩, by rw [if_neg fun h => hkind h.1]; rfl⟩

namespace ReadsAll

theorem nil : ReadsAll g ts [] i i [] :=
  ⟨[], [], Clause.matchAll_nil.2 rfl, by rw [Grammar.arguments]; rfl⟩

theorem cons (h : Reads g ts c i k a) (hs : ReadsAll g ts cs k j as) :
    ReadsAll g ts (c :: cs) i j (a :: as) := by
  obtain ⟨tree, ended, errors, htree, ha⟩ := h
  obtain ⟨trees, errors', htrees, has⟩ := hs
  refine ⟨tree :: trees, errors ++ errors', Clause.matchAll_cons.2 (.inl
    ⟨tree, k, ended, errors, _, htree, htrees, rfl⟩), ?_⟩
  rw [Grammar.arguments, ha, has]
  rfl

end ReadsAll

namespace RefusesAll

theorem head (h : Refuses g ts c i) : RefusesAll g ts (c :: cs) i := by
  obtain ⟨o, ho, hm⟩ := h
  exact ⟨_, _, Clause.matchAll_cons.2 (.inr ⟨o, ho, hm, rfl⟩)⟩

theorem tail (h : Reads g ts c i k a) (hs : RefusesAll g ts cs k) :
    RefusesAll g ts (c :: cs) i := by
  obtain ⟨tree, ended, errors, htree, -⟩ := h
  obtain ⟨errors', stop, hs⟩ := hs
  exact ⟨_, _, Clause.matchAll_cons.2 (.inl ⟨tree, k, ended, errors, _, htree, hs, rfl⟩)⟩

end RefusesAll

namespace ReadsMany

theorem done (h : Refuses g ts c i) : ReadsMany g ts c i i [] := by
  obtain ⟨o, ho, hm⟩ := h
  refine ⟨_, .done ho fun h => ?_, rfl, by rw [Grammar.arguments]; rfl⟩
  rw [hm] at h
  cases h

theorem more (h : Reads g ts c i k a) (hik : i < k) (ht : ts[k]? = some t) (hend : t.isEnd = false)
    (hs : ReadsMany g ts c k j as) : ReadsMany g ts c i j (a :: as) := by
  obtain ⟨tree, ended, errors, htree, ha⟩ := h
  obtain ⟨r, hr, rfl, has⟩ := hs
  refine ⟨_, .more htree hik ht hend hr, rfl, ?_⟩
  rw [Grammar.arguments, ha, has]
  rfl

end ReadsMany

theorem Grammar.argument_of_reduce {tree : Tree K} (h : g.reduce tree = .ok v) :
    g.argument tree = .ok (.value v) := by
  cases tree with
  | node head trees =>
    rw [reduce] at h
    rw [argument]
    obtain ⟨r, hr, h⟩ := Except.bind_eq_ok.1 h
    obtain ⟨as, has, h⟩ := Except.bind_eq_ok.1 h
    rw [hr, has]
    simp only [bind, Except.bind, h]
    rfl
  | leaf | many | absent | present | group => cases h

variable {name : String} {index : Nat} {r : Rule K V} {n : NonTerminal K V}

theorem Rule.matchAt_of_matchAll {call : String → Nat → Match (Outcome K)} {ms : Matches K}
    (ht : ts[i]? = some t) (hk : Choice.leading r t.kind = true)
    (h : Clause.matchAll ts call r.clauses i = .ok ms) :
    r.matchAt ts call name index i =
      .ok (ms.asOutcome ts fun trees => .node (r.head name index trees) trees) := by
  rw [← Rule.matchBy_leading, Rule.matchBy_eq_ok]
  exact ⟨t, ht, by rw [if_pos hk]; exact ⟨ms, h, rfl⟩⟩

theorem ReadsAll.rule (h : ReadsAll g ts r.clauses i j as) (hr : g.rule? name index = some r)
    (ht : ts[i]? = some t) (hk : Choice.leading r t.kind = true) (hoperators : r.operators = [])
    (hv : ∀ rule, r.reducer.eval (.ofList rule as) = .ok v) :
    ∃ tree errors, g.matchRule ts name index r i = .ok (.matchedAt ts tree j errors) ∧
      g.reduce tree = .ok v := by
  obtain ⟨trees, errors, htrees, has⟩ := h
  refine ⟨.node (r.head name index trees) trees, errors,
    Rule.matchAt_of_matchAll ht hk htrees, ?_⟩
  have hreducer : ∀ operator?, r.reducerFor operator? = r.reducer := by
    intro operator?
    cases operator? <;> simp [Rule.reducerFor, Rule.operator?, hoperators]
  have hrule : g.ruleOf (r.head name index trees) = .ok r := by
    simp only [Grammar.ruleOf, Rule.head, hr]
  rw [Grammar.reduce, hrule]
  simp only [bind, Except.bind, has, hreducer, hv]

omit [TokenKind K] in
theorem NonTerminal.firstMatch_of_failed {attempt : Nat × Rule K V → Match (Outcome K)}
    {none : Unexpected K} {before after : List (Nat × Rule K V)} {p : Nat × Rule K V}
    {tree : Tree K} {stop : Nat} {ended : Bool} {errors : List (Unexpected K)}
    (hbefore : ∀ q ∈ before, ∃ errors stop, attempt q = .ok (.failed errors stop))
    (hp : attempt p = .ok (.matched tree stop ended errors)) (f : Furthest K) :
    ∃ errors, firstMatch attempt none (before ++ p :: after) f =
      .ok (.matched tree stop ended errors) := by
  induction before generalizing f with
  | nil => exact ⟨_, Except.bind_eq_ok.2 ⟨_, hp, rfl⟩⟩
  | cons q before ih =>
    obtain ⟨hq, hbefore⟩ := List.forall_mem_cons.1 hbefore
    obtain ⟨errors', stop', hq⟩ := hq
    obtain ⟨errors, h⟩ := ih hbefore (f.note (.failed errors' stop'))
    exact ⟨errors, Except.bind_eq_ok.2 ⟨_, hq, h⟩⟩

def Grammar.candidates? (g : Grammar K V) (name : String) (k : K) :
    Option (List (Nat × Rule K V)) :=
  (g.nonTerminal? name).map (·.candidates k)

section

variable (hl : NoLeftRecursion g.alternatives) {e : Token K} (hlast : ts[ts.length - 1]? = some e)
  (he : e.isEnd = true)

include hl hlast he

theorem Grammar.matchClause_name (hn : g.nonTerminal? name = some n) (ht : ts[i]? = some t) :
    g.matchClause ts (.nonTerminal name) i = n.matchAt ts (g.call ts (g.depth ts)) i := by
  have hi := (List.getElem?_eq_some_iff.1 ht).1
  exact matchClause_nonTerminal hl hlast he hn (by omega)

theorem Refuses.nonTerminal (ht : ts[i]? = some t)
    (hcandidates : g.candidates? name t.kind = some []) :
    Refuses g ts (.nonTerminal name) i := by
  obtain ⟨n, hn, hcandidates⟩ := Option.map_eq_some_iff.1 hcandidates
  rw [Refuses, Grammar.matchClause_name hl hlast he hn ht, NonTerminal.matchAt,
    tokenAt_eq_ok.2 ht]
  exact ⟨.failed [n.noStart t] i, by simp only [bind, Except.bind, hcandidates]; rfl, rfl⟩

theorem Reads.nonTerminal (ht : ts[i]? = some t) {before after : List (Nat × Rule K V)}
    (hcandidates : g.candidates? name t.kind = some (before ++ (index, r) :: after))
    (hbefore : ∀ p ∈ before, RefusesAll g ts p.2.clauses i) (h : ReadsAll g ts r.clauses i j as)
    (hoperators : r.operators = []) (hv : ∀ rule, r.reducer.eval (.ofList rule as) = .ok v) :
    Reads g ts (.nonTerminal name) i j (.value v) := by
  obtain ⟨n, hn, hcandidates⟩ := Option.map_eq_some_iff.1 hcandidates
  have hcandidate : ∀ p ∈ before ++ (index, r) :: after,
      n.rules[p.1]? = some p.2 ∧ Choice.leading p.2 t.kind = true := by
    intro p hp
    obtain ⟨hmem, hk⟩ := List.mem_filter.1 (hcandidates ▸ hp : p ∈ n.candidates t.kind)
    exact ⟨NonTerminal.mem_numbered.1 hmem, hk⟩
  have hfailed : ∀ p ∈ before, ∃ errors stop,
      p.2.matchAt ts (g.call ts (g.depth ts)) n.name p.1 i = .ok (.failed errors stop) := by
    intro p hp
    obtain ⟨errors, stop, hp'⟩ := hbefore p hp
    exact ⟨errors, stop, Rule.matchAt_of_matchAll ht (hcandidate p (by simp [hp])).2 hp'⟩
  obtain ⟨hindex, hk⟩ := hcandidate (index, r) (by simp)
  have hr : g.rule? n.name index = some r :=
    Grammar.rule?_eq_some.2 ⟨n, (NonTerminal.name_of_find? hn).symm ▸ hn, hindex⟩
  obtain ⟨tree, errors, hmatch, hreduce⟩ := h.rule hr ht hk hoperators hv
  obtain ⟨errors', hfirst⟩ : ∃ errors', NonTerminal.firstMatch
      (fun p => p.2.matchAt ts (g.call ts (g.depth ts)) n.name p.1 i) (n.noStart t)
      (before ++ (index, r) :: after) ⟨0, []⟩ = .ok (.matched tree j (isEndedAt ts j) errors') :=
    NonTerminal.firstMatch_of_failed (p := (index, r)) hfailed hmatch _
  refine ⟨tree, isEndedAt ts j, errors', ?_, Grammar.argument_of_reduce hreduce⟩
  rw [Grammar.matchClause_name hl hlast he hn ht, NonTerminal.matchAt, tokenAt_eq_ok.2 ht]
  simp only [bind, Except.bind, hcandidates]
  rw [if_neg (by simp)]
  exact hfirst

theorem Reads.firstRule {k : K} (ht : ts[i]? = some t) (hk : t.kind = k)
    {after : List (Nat × Rule K V)}
    (hcandidates : g.candidates? name k = some ((index, r) :: after))
    (h : ReadsAll g ts r.clauses i j as) (hoperators : r.operators = [])
    (hv : ∀ rule, r.reducer.eval (.ofList rule as) = .ok v) :
    Reads g ts (.nonTerminal name) i j (.value v) := by
  subst hk
  exact .nonTerminal hl hlast he ht
    (show g.candidates? name t.kind = some ([] ++ (index, r) :: after) from hcandidates)
    (List.forall_mem_nil _) h hoperators hv

end

theorem ReadsAll.parse {us : List (Token K)} {e : Token K} (he : e.isEnd = true)
    (h : ReadsAll g (us ++ [e]) r.clauses 0 us.length as) (ht : us[0]? = some t)
    (hn : g.nonTerminal? g.start = some n)
    (hfilter : (n.numbered.filter fun p => p.2.admits t.kind) = [(index, r)])
    (hoperators : r.operators = []) (hv : ∀ rule, r.reducer.eval (.ofList rule as) = .ok v) :
    g.parse (us ++ [e]) g.start >>= Parser.conclude g (us ++ [e]) =
      .ok (.success v (us ++ [e]).length) := by
  have hmarker : Grammar.withEndMarker (us ++ [e]) = us ++ [e] := by
    simp only [Grammar.withEndMarker, List.getLast?_concat, he, if_true]
  have ht' : (us ++ [e])[0]? = some t :=
    (List.getElem?_append_left (List.getElem?_eq_some_iff.1 ht).1).trans ht
  obtain ⟨hmem, hk⟩ := List.mem_filter.1 (hfilter ▸ List.mem_singleton_self (index, r))
  have hleading : Choice.leading r t.kind = true := by rw [Choice.leading, hk, Bool.true_or]
  have hr : g.rule? n.name index = some r := Grammar.rule?_eq_some.2
    ⟨n, (NonTerminal.name_of_find? hn).symm ▸ hn, NonTerminal.mem_numbered.1 hmem⟩
  obtain ⟨tree, errors, hmatch, hreduce⟩ := h.rule hr ht' hleading hoperators hv
  rw [Outcome.matchedAt, isEndedAt_end] at hmatch
  have hparse : g.parse (us ++ [e]) g.start = .ok (.matched tree us.length true errors) := by
    rw [Grammar.parse, hmarker]
    simp only [hn]
    exact Grammar.matchStart_of_filter ht' hfilter hmatch rfl
  rw [hparse, Except.bind_eq_ok]
  exact ⟨_, rfl, by simp only [Parser.conclude, hreduce]; rfl⟩

end Parsing
