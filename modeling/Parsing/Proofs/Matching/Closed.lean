import Parsing.Json.Language
import Parsing.Proofs.Grammar.Faithful
import Parsing.Proofs.Grammar.WalkPairs
import Parsing.Proofs.Matching.Calls

namespace Parsing

variable {K V : Type} [TokenKind K]

namespace Leading

def nonTerminalElse (unknown : Visit K (LeadingTokens K)) (ns : List (NonTerminal K V)) :
    (depth : Nat) → String → Visit K (LeadingTokens K)
  | 0, _ => return .empty
  | depth + 1, name =>
    match NonTerminal.find? ns name with
    | none => unknown
    | some n => do
      rulesFrom (nonTerminalElse unknown ns depth) name 0 n.rules
      return (← get).ofNonTerminal n

def computeElse (unknown : Visit K (LeadingTokens K)) (ns : List (NonTerminal K V))
    (start : String) : Leading K :=
  let visitAll : Visit K Unit := do
    discard <| nonTerminalElse unknown ns (depth ns) start
    ns.forM fun n => discard <| nonTerminalElse unknown ns (depth ns) n.name
  (visitAll.run []).2

theorem computeElse_empty (ns : List (NonTerminal K V)) (start : String) :
    computeElse (return .empty) ns start = compute ns start := by
  have hvisit : nonTerminalElse (return .empty) ns = nonTerminal ns := by
    funext d
    induction d with
    | zero => rfl
    | succ d ih =>
      funext name
      cases hn : NonTerminal.find? ns name <;> simp only [nonTerminalElse, nonTerminal, hn, ih]
  rw [computeElse, compute, hvisit]

end Leading

namespace Grammar

def callElse (unknown : Token K → Nat → Match (Outcome K)) (g : Grammar K V)
    (ts : List (Token K)) : (depth : Nat) → String → Nat → Match (Outcome K)
  | 0, _, _ => .error .endless
  | depth + 1, name, i => do
    let t ← tokenAt ts i
    match g.nonTerminal? name with
    | some n => n.matchAt ts (callElse unknown g ts depth) i
    | none => unknown t i

def matchStartElse (unknown : Token K → Nat → Match (Outcome K)) (g : Grammar K V)
    (ts : List (Token K)) (n : NonTerminal K V) : Match (Outcome K) := do
  let t ← tokenAt ts 0
  let rules := n.numbered.filter fun (_, r) => r.admits t.kind
  let attempts ← rules.mapM fun (index, r) =>
    r.matchAt ts (g.callElse unknown ts (g.depth ts)) n.name index 0
  if attempts.isEmpty then return .failed [n.noStart t] 0
  match attempts.find? fun o => o.isEnded && o.isMatch with
  | some o => return o
  | none => report ts attempts

def parseElse (unknown : Token K → Nat → Match (Outcome K)) (g : Grammar K V)
    (ts : List (Token K)) (start : String) : Match (Outcome K) := do
  let ts := withEndMarker ts
  match g.nonTerminal? start with
  | some n => g.matchStartElse unknown ts n
  | none => return .failed [.nothingExpected (← tokenAt ts 0)] 0

theorem parseElse_nothingExpected (g : Grammar K V) :
    g.parseElse (fun t i => return .failed [.nothingExpected t] i) = g.parse := by
  have hcall (ts : List (Token K)) :
      g.callElse (fun t i => return .failed [.nothingExpected t] i) ts = g.call ts := by
    funext depth
    induction depth with
    | zero => rfl
    | succ depth ih =>
      funext name i
      cases hn : g.nonTerminal? name <;> simp only [callElse, call, hn, ih]
  have hstart (ts : List (Token K)) (n : NonTerminal K V) :
      g.matchStartElse (fun t i => return .failed [.nothingExpected t] i) ts n =
        g.matchStart ts n := by
    rw [matchStartElse, hcall]
    rfl
  funext ts start
  cases hn : g.nonTerminal? start <;> simp only [parseElse, parse, hn, hstart]

end Grammar

section

variable {ts : List (Token K)} {call call' : String → Nat → Match (Outcome K)} {c d : Clause K}
  {i j : Nat} {name : String}

theorem Visits.mem_walk (h : Visits ts call c i d j) : d ∈ c.walk := by
  induction h with
  | zeroOrMore | oneOrMore | optional => simp [Clause.walk, Clause.mem_walk_self]
  | group_head => simp [Clause.walk, Clause.walkAll, Clause.mem_walk_self]
  | @group_tail c d cs i j stop tree ended errors _ hvisit ih =>
    -- What is visited of the rest is a part of it, and not the rest itself.
    have hne : d ≠ .group cs := by
      rintro rfl
      exact Nat.lt_irrefl _ hvisit.length_walk_lt
    simp only [Clause.walk, Clause.walkAll, List.mem_cons, List.mem_append] at ih ⊢
    exact .inr (.inr (ih.resolve_left hne))

theorem Enters.mem_walk (h : Enters ts call c i name j) : .nonTerminal name ∈ c.walk := by
  induction h with
  | here => exact Clause.mem_walk_self _
  | part hvisit _ ih => exact Clause.mem_walk_trans hvisit.mem_walk ih

theorem Enters.mem_walkAll {cs : List (Clause K)} (h : Enters ts call (.group cs) i name j) :
    .nonTerminal name ∈ Clause.walkAll cs := by
  simpa [Clause.walk] using h.mem_walk

theorem Rule.matchAt_congr {r : Rule K V} {index : Nat}
    (h : ∀ a, .nonTerminal a ∈ Clause.walkAll r.clauses → call' a = call a) :
    r.matchAt ts call' name index i = r.matchAt ts call name index i := by
  have hclauses : Clause.matchAll ts call' r.clauses i = Clause.matchAll ts call r.clauses i := by
    refine Clause.matchAll_congr (fun c _ i => Clause.matchAt_congr) fun b k henters => ?_
    exact congrFun (h b henters.mem_walkAll) k
  simp only [Rule.matchAt, hclauses]

end

theorem Match.mapM_congr {α β : Type} {f f' : α → Match β} {l : List α}
    (h : ∀ a ∈ l, f' a = f a) : l.mapM f' = l.mapM f := by
  induction l with
  | nil => rfl
  | cons a l ih =>
    rw [List.forall_mem_cons] at h
    rw [List.mapM_cons, List.mapM_cons, h.1, ih h.2]

namespace Leading

variable {ns : List (NonTerminal K V)} {start : String}

theorem nonTerminalElse_eq (unknown : Visit K (LeadingTokens K))
    (hns : ∀ n ∈ ns, ∀ r ∈ n.rules, ∀ a, .nonTerminal a ∈ Clause.walkAll r.clauses →
      (NonTerminal.find? ns a).isSome = true) (depth : Nat) {name : String}
    (hname : (NonTerminal.find? ns name).isSome = true) :
    nonTerminalElse unknown ns depth name = nonTerminal ns depth name := by
  induction depth generalizing name with
  | zero => rfl
  | succ depth ih =>
    obtain ⟨n, hn⟩ := Option.isSome_iff_exists.1 hname
    have hrules : rulesFrom (nonTerminalElse unknown ns depth) name 0 n.rules =
        rulesFrom (nonTerminal ns depth) name 0 n.rules :=
      rulesFrom_congr fun r hr a ha =>
        ih (hns n (NonTerminal.mem_of_find? hn) r hr a ha.mem_walkAll)
    simp only [nonTerminalElse, nonTerminal, hn, hrules]

theorem computeElse_eq (unknown : Visit K (LeadingTokens K))
    (hns : ∀ n ∈ ns, ∀ r ∈ n.rules, ∀ a, .nonTerminal a ∈ Clause.walkAll r.clauses →
      (NonTerminal.find? ns a).isSome = true)
    (hstart : (NonTerminal.find? ns start).isSome = true) :
    computeElse unknown ns start = compute ns start := by
  have hall : ∀ l ⊆ ns, (l.forM fun n => discard <| nonTerminalElse unknown ns (depth ns) n.name) =
      l.forM fun n => discard <| nonTerminal ns (depth ns) n.name := by
    intro l hl
    induction l with
    | nil => rfl
    | cons n l ih =>
      rw [List.cons_subset] at hl
      have hn := nonTerminalElse_eq unknown hns (depth ns)
        (NonTerminal.isSome_find?.2 ⟨n, hl.1, rfl⟩)
      simp only [List.forM, hn, ih hl.2]
  have hfirst := nonTerminalElse_eq unknown hns (depth ns) hstart
  rw [computeElse, compute, hfirst, hall ns (List.Subset.refl ns)]

end Leading

namespace Grammar

variable {g : Grammar K V} {start : String} {n : NonTerminal K V}

theorem Resolved.isSome_of_mem {name a : String} (hg : g.Resolved)
    (hn : g.nonTerminal? name = some n) {index : Nat} {r : Rule K V}
    (hr : (index, r) ∈ n.numbered) (ha : .nonTerminal a ∈ Clause.walkAll r.clauses) :
    (g.nonTerminal? a).isSome = true :=
  hg.names n (NonTerminal.mem_of_find? hn) r
    (List.mem_of_getElem? (NonTerminal.mem_numbered.1 hr)) a ha

theorem Calls.isSome (hg : g.Resolved) {ts : List (Token K)}
    {call : String → Nat → Match (Outcome K)} {a b : String} {i j : Nat}
    (h : g.Calls ts call a i b j) : (g.nonTerminal? b).isSome = true := by
  obtain ⟨n, t, p, hn, -, hp, henters⟩ := h
  exact hg.isSome_of_mem hn (List.mem_filter.1 hp).1 henters.mem_walkAll

variable (unknown : Token K → Nat → Match (Outcome K))

theorem callElse_eq (hg : g.Resolved) (ts : List (Token K)) (depth : Nat) {name : String}
    (hname : (g.nonTerminal? name).isSome = true) :
    g.callElse unknown ts depth name = g.call ts depth name := by
  induction depth generalizing name with
  | zero => rfl
  | succ depth ih =>
    obtain ⟨n, hn⟩ := Option.isSome_iff_exists.1 hname
    funext i
    have hmatch : n.matchAt ts (g.callElse unknown ts depth) i = n.matchAt ts (g.call ts depth) i :=
      NonTerminal.matchAt_congr hn fun b k hcall => congrFun (ih (hcall.isSome hg)) k
    simp only [callElse, call, hn, hmatch]

theorem parseElse_eq (hg : g.Resolved) (ts : List (Token K))
    (hstart : (g.nonTerminal? start).isSome = true) :
    g.parseElse unknown ts start = g.parse ts start := by
  obtain ⟨n, hn⟩ := Option.isSome_iff_exists.1 hstart
  have hrules (us : List (Token K)) (k : K) :
      ((n.numbered.filter fun p => p.2.admits k).mapM fun p =>
        p.2.matchAt us (g.callElse unknown us (g.depth us)) n.name p.1 0) =
      (n.numbered.filter fun p => p.2.admits k).mapM fun p => g.matchRule us n.name p.1 p.2 0 := by
    refine Match.mapM_congr fun p hp => ?_
    refine Rule.matchAt_congr fun a ha => callElse_eq unknown hg us _ ?_
    exact hg.isSome_of_mem hn (List.mem_filter.1 hp).1 ha
  have hmatch (us : List (Token K)) : g.matchStartElse unknown us n = g.matchStart us n := by
    simp only [matchStartElse, hrules]
    rfl
  simp only [parseElse, parse, hn, hmatch]

theorem head?_withEndMarker {ts : List (Token K)} {t : Token K} (ht : ts.head? = some t) :
    (withEndMarker ts)[0]? = some t := by
  obtain ⟨us, rfl⟩ := List.head?_eq_some_iff.1 ht
  rw [withEndMarker]
  split
  · next h => simp at h
  · split <;> rfl

theorem parse_of_isEnd (hg : g.Resolved) {ts : List (Token K)} {t : Token K}
    (ht : ts.head? = some t) (he : t.isEnd = true) (hn : g.nonTerminal? start = some n) :
    g.parse ts start = .ok (.failed [n.noStart t] 0) := by
  have hkind : t.kind = TokenKind.endMarker := by simpa [Token.isEnd] using he
  -- No rule of a built grammar can start with the end marker, so none is tried.
  have hrules : (n.numbered.filter fun p => p.2.admits t.kind) = [] := by
    refine List.filter_eq_nil_iff.2 fun p hp hadmits => ?_
    have hr := List.mem_of_getElem? (NonTerminal.mem_numbered.1 hp)
    refine (hg.leading n (NonTerminal.mem_of_find? hn)).1 p.2 hr ?_
    rw [hkind] at hadmits
    exact LeadingTokens.contains_iff.1 hadmits
  simp only [parse, hn, matchStart, tokenAt_eq_ok.2 (head?_withEndMarker ht), bind, Except.bind,
    hrules]
  rfl

end Grammar

/-- A grammar that was built has the rules of its productions, and all names in it are defined. So
is every start that a parser is built with, and from a defined start neither the computation of
starting kinds nor a parse comes to an undefined name: they come out the same whatever is done at
one. No clause and no starting kind is the end marker, and a list of tokens that begins with one is
not parsed. -/
theorem build_is_faithful {start : String} {ps : List (Production K V)} {g : Grammar K V}
    (hg : Grammar.build start ps = .ok g) :
    ∃ rules, ps.mapM Production.read = .ok rules ∧ g.Represents start rules ∧ g.Resolved ∧
      (∀ (L : Lexer K) start? p, Parser.build L g start? = .ok p →
        (g.nonTerminal? p.start).isSome = true) ∧
      (∀ unknown, Leading.computeElse unknown (NonTerminal.ofRules rules) start =
        Leading.compute (NonTerminal.ofRules rules) start) ∧
      ∀ start', (g.nonTerminal? start').isSome = true →
        (∀ unknown ts, g.parseElse unknown ts start' = g.parse ts start') ∧
        ∀ ts t, ts.head? = some t → t.isEnd = true →
          ∃ e, g.parse ts start' = .ok (.failed [e] 0) := by
  obtain ⟨rules, hread, hrep⟩ := Grammar.represents_of_build hg
  have hres := Grammar.resolved_of_build hg
  refine ⟨rules, hread, hrep, hres, fun L start? p hp => ?_, fun unknown => ?_,
    fun start' hstart => ⟨fun unknown ts => Grammar.parseElse_eq unknown hres ts hstart,
      fun ts t ht he => ?_⟩⟩
  · rw [Parser.start]
    cases start? with
    | none =>
      cases hp
      exact hres.start
    | some start =>
      rw [Parser.build] at hp
      split at hp
      · next hstart =>
        cases hp
        exact hstart
      · cases hp
  · obtain ⟨rules', hread', hs, herror, -⟩ := Grammar.of_build_eq_ok hg
    cases hread.symm.trans hread'
    exact Leading.computeElse_eq unknown (NonTerminal.isSome_of_error? herror)
      (NonTerminal.isSome_find?_ofRules.2 hs)
  · obtain ⟨n, hn⟩ := Option.isSome_iff_exists.1 hstart
    exact ⟨_, Grammar.parse_of_isEnd hres ht he hn⟩

namespace Gaps

open Json (TokenType)

def answer (n : Nat) : ArgsM TokenType Nat Nat := return n

def productions : List (Production TokenType Nat) := [
  ⟨"items : item*", answer 0, []⟩,
  ⟨"item : INT", answer 1, []⟩,
  ⟨"items : CROG items CROD", answer 2, []⟩,
  ⟨"item : COMMA (item COLON)?", answer 3, []⟩]

def grammar : Grammar TokenType Nat where
  start := "items"
  nonTerminals := [
    ⟨"items", [⟨[.zeroOrMore (.nonTerminal "item")], ⟨[.int, .comma]⟩, answer 0, []⟩,
      ⟨[.terminal .openBracket, .nonTerminal "items", .terminal .closeBracket], ⟨[.openBracket]⟩,
        answer 2, []⟩]⟩,
    ⟨"item", [⟨[.terminal .int], ⟨[.int]⟩, answer 1, []⟩,
      ⟨[.terminal .comma, .optional (.group [.nonTerminal "item", .terminal .colon])], ⟨[.comma]⟩,
        answer 3, []⟩]⟩]

theorem build_productions : Grammar.build "items" productions = .ok grammar :=
  Grammar.build_of_table grammar rfl rfl rfl (by decide +kernel) (by decide +kernel)

theorem end_is_not_parsed :
    Grammar.build "items" productions = .ok grammar ∧
      (grammar.rule? "items" 0).map (·.mayBeEmpty) = some true ∧
      (∃ rules, productions.mapM Production.read = .ok rules ∧ grammar.Represents "items" rules) ∧
      grammar.Resolved ∧
      ∃ e, grammar.parse [Token.endAt .start, ⟨.int, "1", .start⟩] "items" = .ok (.failed [e] 0) := by
  obtain ⟨rules, hread, hrep, hres, -, -, hparse⟩ := build_is_faithful build_productions
  refine ⟨build_productions, rfl, ⟨rules, hread, hrep⟩, hres, ?_⟩
  exact (hparse "items" rfl).2 _ _ rfl (Token.isEnd_endAt _)

end Gaps

end Parsing
