import Parsing.Proofs.Reduction.Careful

namespace Parsing

variable {K V : Type} [TokenKind K]

/-- A parsed tree is a node, and its reduction fails only where a reducer does that is called. Each
is called with one argument for each clause of its rule, of the shape of the clause, so that a
reducer that is careful with them fails with an error of its own. The grammar need not have passed
any check. -/
theorem reduction_is_shape_safe {g : Grammar K V} {ts : List (Token K)} {start : String}
    {tree : Tree K} {stop : Nat} {ended : Bool} {errors : List (Unexpected K)}
    (hparse : g.parse ts start = .ok (.matched tree stop ended errors)) :
    tree.shape = .node ∧
      (∀ e, g.reduce tree = .error e ↔ ∃ h r args, Applies g tree h r args ∧
        (r.reducerFor h.operator?).eval args = .error e) ∧
      ∀ h r args, Applies g tree h r args →
        g.rule? h.nonTerminal h.rule = some r ∧
          args.size = r.clauses.length ∧
          (∀ i c, r.clauses[i]? = some c → ∃ a, args.get? i = some a ∧ Suits c a) ∧
          ∀ own, Careful own (r.clauses.map some) (r.reducerFor h.operator?) →
            ∀ e, (r.reducerFor h.operator?).eval args = .error e → own e := by
  obtain ⟨hfit, -⟩ := Grammar.parse_sound hparse
  refine ⟨?_, fun e => hfit.reduce_eq_error, fun h r args ha => ?_⟩
  · cases hfit
    rfl
  · obtain ⟨hrule, hsuits⟩ := ha.suits hfit
    refine ⟨hrule, hsuits.size_eq, fun i c => hsuits.exists_get?, fun own hcareful e he => ?_⟩
    exact hcareful.own_of_eval hsuits.offers he

namespace Totals

open Json (TokenType)

def entry : ArgsM TokenType Nat Nat := return (← ArgsM.token 0).text.length

def doubled : ArgsM TokenType Nat Nat := return 2 * (← ArgsM.token 0).text.length

def total : ArgsM TokenType Nat Nat := do
  let first ← ArgsM.value 0
  let groups ← ArgsM.groups 1
  let more ← groups.mapM fun args => ArgsM.within args (ArgsM.value 1)
  match ← ArgsM.optionToken 2 with
  | some _ => throw (.custom "no total")
  | none => return more.foldl (· + ·) first

def productions : List (Production TokenType Nat) := [
  ⟨"total : entry (COMMA entry)* NULL?", total, []⟩,
  ⟨"entry : INT COLON", entry, [(.colon, doubled)]⟩,
  ⟨"entry : INT", entry, []⟩]

def grammar : Grammar TokenType Nat where
  start := "total"
  nonTerminals := [
    ⟨"total", [⟨[.nonTerminal "entry",
        .zeroOrMore (.group [.terminal .comma, .nonTerminal "entry"]),
        .optional (.terminal .null)], ⟨[.int]⟩, total, []⟩]⟩,
    ⟨"entry", [⟨[.terminal .int, .terminal .colon], ⟨[.int]⟩, entry, [(.colon, doubled)]⟩,
      ⟨[.terminal .int], ⟨[.int]⟩, entry, []⟩]⟩]

theorem build_productions : Grammar.build "total" productions = .ok grammar :=
  Grammar.build_of_table grammar rfl rfl rfl (by decide +kernel) (by decide +kernel)

def tokens : List (Token TokenType) :=
  [⟨.int, "7", .start⟩, ⟨.colon, ":", .start⟩, ⟨.comma, ",", .start⟩, ⟨.int, "10", .start⟩]

def tree : Tree TokenType :=
  .node ⟨"total", 0, "entry_(Comma entry)*_Null?", none⟩ [
    .node ⟨"entry", 0, "Int_Colon", some .colon⟩ [
      .leaf ⟨.int, "7", .start⟩, .leaf ⟨.colon, ":", .start⟩],
    .many [.group [.leaf ⟨.comma, ",", .start⟩,
      .node ⟨"entry", 1, "Int", none⟩ [.leaf ⟨.int, "10", .start⟩]]],
    .absent]

theorem parse_tokens : grammar.parse tokens "total" = .ok (.matched tree 4 true []) := by rfl

example : grammar.reduce tree = .ok 4 := by rfl

def NoTotal (e : ReduceError) : Prop := e = .custom "no total"

theorem careful_entry {cs : List (Clause TokenType)} :
    Careful NoTotal ((.terminal .int :: cs).map some) entry :=
  .bind rfl (.content .token) fun _ _ => .pure _

theorem careful_doubled {cs : List (Clause TokenType)} :
    Careful NoTotal ((.terminal .int :: cs).map some) doubled :=
  .bind rfl (.content .token) fun _ _ => .pure _

theorem careful_total :
    Careful NoTotal ([.nonTerminal "entry", .zeroOrMore (.group [.terminal .comma,
      .nonTerminal "entry"]), .optional (.terminal .null)].map some) total := by
  refine .bind rfl (.content .value) fun first _ => ?_
  refine .bind rfl (.zeroOrMore .group) fun groups hgroups => ?_
  refine .mapM_bind (fun args hargs k hk => ?_) fun more => ?_
  · exact .within_bind (.last rfl (.content .value)) (hgroups args hargs).offers hk
  · refine .bind rfl (.optional .token) fun last _ => ?_
    cases last with
    | none => exact .pure _
    | some t => exact .fail rfl

theorem careful_reducerFor {name : String} {index : Nat} {r : Rule TokenType Nat}
    (hr : grammar.rule? name index = some r) (operator? : Option TokenType) :
    Careful NoTotal (r.clauses.map some) (r.reducerFor operator?) := by
  obtain ⟨n, hn, hr⟩ := Grammar.rule?_eq_some.1 hr
  have hmem := NonTerminal.mem_of_find? hn
  simp only [grammar, List.mem_cons, List.not_mem_nil, or_false] at hmem
  have hr := List.mem_of_getElem? hr
  obtain rfl | rfl := hmem
  · obtain rfl := List.mem_singleton.1 hr
    exact Rule.careful_reducerFor careful_total (by simp) operator?
  · simp only [List.mem_cons, List.not_mem_nil, or_false] at hr
    obtain rfl | rfl := hr
    · refine Rule.careful_reducerFor careful_entry (fun p hp => ?_) operator?
      obtain rfl := List.mem_singleton.1 hp
      exact careful_doubled
    · exact Rule.careful_reducerFor careful_entry (by simp) operator?

theorem tree_fails_alone :
    grammar.parse tokens "total" = .ok (.matched tree 4 true []) ∧ tree.shape = .node ∧
      (∀ h r args, Applies grammar tree h r args → args.size = r.clauses.length) ∧
      ∀ e, grammar.reduce tree = .error e → NoTotal e := by
  obtain ⟨hshape, hfails, hcalls⟩ := reduction_is_shape_safe parse_tokens
  refine ⟨parse_tokens, hshape, fun h r args ha => (hcalls h r args ha).2.1, fun e he => ?_⟩
  obtain ⟨h, r, args, ha, he⟩ := (hfails e).1 he
  obtain ⟨hrule, -, -, hown⟩ := hcalls h r args ha
  exact hown NoTotal (careful_reducerFor hrule h.operator?) e he

end Totals

end Parsing
