import Parsing.Proofs.Json.Lexemes
import Parsing.Proofs.Parser.Result
import Parsing.Proofs.Reduction.Accessors
import Parsing.Proofs.Reduction.Reading

namespace Parsing.Json

open Clause Piece

/-! ### The productions read -/

namespace Built

def valueKinds : List TokenType :=
  [.string, .int, .decimal, .boolean, .null, .openBrace, .openBracket]

def rule (clauses : List (Clause TokenType)) (kinds : List TokenType)
    (reducer : Reducer TokenType Piece) : Rule TokenType Piece := ⟨clauses, ⟨kinds⟩, reducer, []⟩

def grammar : Grammar TokenType Piece where
  start := "root"
  nonTerminals := [
    ⟨"root", [rule [nonTerminal "value"] valueKinds (ArgsM.value 0)]⟩,
    ⟨"value", [
      rule [terminal .string] [.string] ofString,
      rule [terminal .int] [.int] ofInt,
      rule [terminal .decimal] [.decimal] ofDecimal,
      rule [terminal .boolean] [.boolean] ofBoolean,
      rule [terminal .null] [.null] (constant .null),
      rule [nonTerminal "object"] [.openBrace] (ArgsM.value 0),
      rule [nonTerminal "list"] [.openBracket] (ArgsM.value 0)]⟩,
    ⟨"object", [
      rule [terminal .openBrace, terminal .closeBrace] [.openBrace] (constant (.object [])),
      rule [terminal .openBrace, nonTerminal "members", terminal .closeBrace] [.openBrace]
        ofObject]⟩,
    ⟨"list", [
      rule [terminal .openBracket, terminal .closeBracket] [.openBracket] (constant (.array [])),
      rule [terminal .openBracket, nonTerminal "listElements", terminal .closeBracket]
        [.openBracket] ofArray]⟩,
    ⟨"listElements", [
      rule [nonTerminal "value", zeroOrMore (nonTerminal "additionalValue")] valueKinds
        ofElementList]⟩,
    ⟨"additionalValue", [rule [terminal .comma, nonTerminal "value"] [.comma] (ArgsM.value 1)]⟩,
    ⟨"members", [
      rule [nonTerminal "property", zeroOrMore (nonTerminal "additionalProperty")] [.string]
        ofPropertyList]⟩,
    ⟨"additionalProperty", [
      rule [terminal .comma, nonTerminal "property"] [.comma] (ArgsM.value 1)]⟩,
    ⟨"property", [rule [terminal .string, terminal .colon, nonTerminal "value"] [.string]
      ofProperty]⟩]

end Built

theorem build_productions : grammar = .ok Built.grammar :=
  Grammar.build_of_table Built.grammar rfl rfl rfl (by decide +kernel) (by decide +kernel)

theorem noLeftRecursion : NoLeftRecursion Built.grammar.alternatives :=
  Grammar.noLeftRecursion_of_level
    (fun name =>
      if name = "value" then 1 else if name ∈ ["root", "listElements", "members"] then 2 else 0)
    (by decide +kernel)

/-! ### Lexemes of tokens -/

def Stands (ts : List (Token TokenType)) (i : Nat) (ls : List Lexeme) : Prop :=
  ls <+: (ts.drop i).map Token.lexeme

namespace Stands

variable {ts : List (Token TokenType)} {i : Nat} {l : Lexeme} {ls ls' : List Lexeme}

theorem append (h : Stands ts i (ls ++ ls')) : Stands ts i ls ∧ Stands ts (i + ls.length) ls' := by
  obtain ⟨rest, hrest⟩ := h
  rw [List.append_assoc] at hrest
  refine ⟨⟨_, hrest⟩, rest, ?_⟩
  have hdrop := congrArg (List.drop ls.length) hrest
  rwa [List.drop_left, ← List.map_drop, List.drop_drop] at hdrop

theorem cons (h : Stands ts i (l :: ls)) :
    (∃ t, ts[i]? = some t ∧ t.lexeme = l) ∧ Stands ts (i + 1) ls := by
  refine ⟨?_, (append (show Stands ts i ([l] ++ ls) from h)).2⟩
  obtain ⟨rest, hrest⟩ := h
  have hget := congrArg List.head? hrest
  rw [List.head?_map, List.head?_drop] at hget
  exact Option.map_eq_some_iff.1 hget.symm

end Stands

/-! ### Reducers -/

variable {t t' : Token TokenType} {rule : String}

theorem eval_ofString :
    ofString.eval (.ofList rule [.token t]) = .ok (.value (.string t.unquoted)) := rfl

theorem eval_ofInt {n : Int} (h : Text.readInteger t.text = .ok n) :
    ofInt.eval (.ofList rule [.token t]) = .ok (.value (.int n)) := by
  have htoken : (ArgsM.token 0 : Action (Token TokenType)).Returns (.ofList rule [.token t]) t _ :=
    ArgsM.takeAs_returns rfl rfl
  have hint : ofInt.Returns (.ofList rule [.token t]) (.value (.int n)) _ :=
    htoken.bind (by rw [h]; exact .pure _ _)
  exact congrArg Prod.fst hint

theorem eval_ofBoolean :
    ofBoolean.eval (.ofList rule [.token t]) = .ok (.value (.bool (t.text = "true"))) := rfl

theorem eval_ofArray {vs : List Json} :
    ofArray.eval (.ofList rule [.token t, .value (.elements vs), .token t']) =
      .ok (.value (.array vs)) := rfl

theorem eval_ofObject {ms : List (String × Json)} :
    ofObject.eval (.ofList rule [.token t, .value (.members ms), .token t']) =
      .ok (.value (ofMembers ms)) := rfl

theorem eval_ofProperty {v : Json} :
    ofProperty.eval (.ofList rule [.token t, .token t', .value (.value v)]) =
      .ok (.property t.unquoted v) := rfl

def listArgs {α : Type} (piece : α → Piece) (x : α) (xs : List α) : List (Arg TokenType Piece) :=
  [.value (piece x), .many (xs.map fun x => .value (piece x))]

theorem returns_listOf {α β : Type} {content : Piece → Action β} {piece : α → Piece} {f : α → β}
    (h : ∀ x, content (piece x) = pure (f x)) (x : α) (xs : List α) :
    ∃ args, (listOf content).Returns (.ofList rule (listArgs piece x xs))
      ((x :: xs).map f) args := by
  let args : Args TokenType Piece := .ofList rule (listArgs piece x xs)
  have hfirst : (ArgsM.value 0 : Action Piece).Returns args (piece x) (args.clear 0) :=
    ArgsM.takeAs_returns rfl rfl
  have hmany : (ArgsM.takeAs .repetition Arg.many? 1 : Action _).Returns (args.clear 0)
      (xs.map fun x => .value (piece x)) ((args.clear 0).clear 1) := ArgsM.takeAs_returns rfl rfl
  have hvalues : (ArgsM.values 1 : Action (List Piece)).Returns (args.clear 0) (xs.map piece)
      ((args.clear 0).clear 1) := hmany.bind (.mapM_map fun _ => ArgsM.expect_returns rfl)
  have hx : (content (piece x)).Returns (args.clear 0) (f x) (args.clear 0) := h x ▸ .pure _ _
  have hxs : ((xs.map piece).mapM content).Returns ((args.clear 0).clear 1) (xs.map f)
      ((args.clear 0).clear 1) := .mapM_map fun x => h x ▸ .pure _ _
  exact ⟨_, hfirst.bind (hx.bind (hvalues.bind (hxs.bind (.pure _ _))))⟩

theorem eval_ofElementList {α : Type} (f : α → Json) (x : α) (xs : List α) :
    ofElementList.eval (.ofList rule (listArgs (fun x => .value (f x)) x xs)) =
      .ok (.elements ((x :: xs).map f)) := by
  have hvalue : ∀ x, toValue (.value (f x)) = pure (f x) := fun _ => rfl
  obtain ⟨args, h⟩ := returns_listOf hvalue x xs
  exact congrArg Prod.fst (h.bind (.pure (Piece.elements ((x :: xs).map f)) args))

theorem eval_ofPropertyList {α : Type} (f : α → String × Json) (x : α) (xs : List α) :
    ofPropertyList.eval (.ofList rule (listArgs (fun x => .property (f x).1 (f x).2) x xs)) =
      .ok (.members ((x :: xs).map f)) := by
  have hproperty : ∀ x, toProperty (.property (f x).1 (f x).2) = pure (f x) := fun _ => rfl
  obtain ⟨args, h⟩ := returns_listOf hproperty x xs
  exact congrArg Prod.fst (h.bind (.pure (Piece.members ((x :: xs).map f)) args))

/-! ### Reading lexemes -/

section

variable {ts : List (Token TokenType)} {e : Token TokenType} {i j : Nat} {l close : Lexeme}
  {ls : List Lexeme} {name next inner : String}

theorem Stands.terminal (h : Stands ts i (l :: ls)) (hl : l.1 ≠ .endMarker) :
    ∃ t, ts[i]? = some t ∧ t.lexeme = l ∧ t.isEnd = false ∧
      Reads Built.grammar ts (terminal l.1) i (i + 1) (.token t) ∧ Stands ts (i + 1) ls := by
  obtain ⟨⟨t, ht, rfl⟩, hs⟩ := h.cons
  have hend : t.isEnd = false := decide_eq_false hl
  exact ⟨t, ht, rfl, hend, .terminal ht hend, hs⟩

theorem intercalate_cons {α : Type} (f : α → List Lexeme) (x : α) (xs : List α) :
    [comma].intercalate ((x :: xs).map f) = f x ++ xs.flatMap fun x => comma :: f x := by
  induction xs generalizing x with
  | nil => simp
  | cons y ys ih =>
    rw [List.map_cons, List.map_cons, List.intercalate_cons_cons, ← List.map_cons, ih,
      List.flatMap_cons, List.append_assoc, List.cons_append]
    rfl

variable (hlast : ts[ts.length - 1]? = some e) (he : e.isEnd = true)

include hlast he

theorem reads_scalar {index : Nat} {reducer : Reducer TokenType Piece} {p : Piece}
    (h : Stands ts i [l]) (hl : l.1 ≠ .endMarker)
    (hcandidates : Built.grammar.candidates? name l.1 =
      some [(index, Built.rule [terminal l.1] [l.1] reducer)])
    (hp : ∀ t rule, t.lexeme = l → reducer.eval (.ofList rule [.token t]) = .ok p) :
    Reads Built.grammar ts (nonTerminal name) i (i + 1) (.value p) := by
  obtain ⟨t, ht, rfl, -, hread, -⟩ := h.terminal hl
  exact .firstRule noLeftRecursion hlast he ht rfl hcandidates (.cons hread .nil) rfl
    fun rule => hp t rule rfl

theorem reads_alias {index : Nat} {p : Piece} (h : Stands ts i (l :: ls))
    (hcandidates : Built.grammar.candidates? name l.1 =
      some [(index, Built.rule [nonTerminal inner] [l.1] (ArgsM.value 0))])
    (hread : Reads Built.grammar ts (nonTerminal inner) i j (.value p)) :
    Reads Built.grammar ts (nonTerminal name) i j (.value p) := by
  obtain ⟨⟨t, ht, rfl⟩, -⟩ := h.cons
  exact .firstRule noLeftRecursion hlast he ht rfl hcandidates (.cons hread .nil) rfl fun _ => rfl

/-! ### Lists -/

section

variable {α : Type} {f : α → List Lexeme} {piece : α → Piece} {x : α} {xs : List α}

theorem readsMany_next (hnext : Built.grammar.candidates? next .comma =
      some [(0, Built.rule [terminal .comma, nonTerminal name] [.comma] (ArgsM.value 1))])
    (hclose : Built.grammar.candidates? next close.1 = some []) (hend : close.1 ≠ .endMarker)
    (hread : ∀ x ∈ xs, ∀ i, Stands ts i (f x) →
      Reads Built.grammar ts (nonTerminal name) i (i + (f x).length) (.value (piece x)))
    (h : Stands ts i (xs.flatMap (fun x => comma :: f x) ++ [close])) :
    ReadsMany Built.grammar ts (nonTerminal next) i
      (i + (xs.flatMap fun x => comma :: f x).length) (xs.map fun x => .value (piece x)) := by
  induction xs generalizing i with
  | nil =>
    obtain ⟨⟨t, ht, rfl⟩, -⟩ := h.cons
    exact .done (.nonTerminal noLeftRecursion hlast he ht hclose)
  | cons x xs ih =>
    obtain ⟨hx, hxs⟩ := List.forall_mem_cons.1 hread
    rw [List.flatMap_cons, List.cons_append, List.cons_append, List.append_assoc] at h
    obtain ⟨t, ht, hcomma, -, hterminal, h⟩ := h.terminal (by decide)
    obtain ⟨hstands, h⟩ := h.append
    have hkind : t.kind = .comma := congrArg Prod.fst hcomma
    have helement : Reads Built.grammar ts (nonTerminal next) i (i + 1 + (f x).length)
        (.value (piece x)) :=
      .firstRule noLeftRecursion hlast he ht hkind hnext
        (.cons hterminal (.cons (hx _ hstands) .nil)) rfl fun _ => rfl
    -- The token behind the element is a comma or the closing one.
    obtain ⟨t', ht', hend'⟩ : ∃ t, ts[i + 1 + (f x).length]? = some t ∧ t.isEnd = false := by
      cases xs with
      | nil =>
        obtain ⟨t', ht', -, hend', -⟩ := h.terminal hend
        exact ⟨t', ht', hend'⟩
      | cons y ys =>
        obtain ⟨t', ht', -, hend', -⟩ := h.terminal (by decide)
        exact ⟨t', ht', hend'⟩
    have hmore := ih hxs h
    rw [List.flatMap_cons, List.length_append, List.length_cons, Nat.add_comm (f x).length 1,
      ← Nat.add_assoc, ← Nat.add_assoc]
    exact .more helement (by omega) ht' hend' hmore

theorem reads_list {reducer : Reducer TokenType Piece} {kinds : List TokenType} {k : TokenType}
    {p : Piece} (h : Stands ts i ([comma].intercalate ((x :: xs).map f) ++ [close]))
    (hnext : Built.grammar.candidates? next .comma =
      some [(0, Built.rule [terminal .comma, nonTerminal inner] [.comma] (ArgsM.value 1))])
    (hclose : Built.grammar.candidates? next close.1 = some []) (hend : close.1 ≠ .endMarker)
    (hlist : Built.grammar.candidates? name k =
      some [(0, Built.rule [nonTerminal inner, zeroOrMore (nonTerminal next)] kinds reducer)])
    (hfirst : ∃ l ls, f x = l :: ls ∧ l.1 = k)
    (hread : ∀ y ∈ x :: xs, ∀ i, Stands ts i (f y) →
      Reads Built.grammar ts (nonTerminal inner) i (i + (f y).length) (.value (piece y)))
    (hp : ∀ rule, reducer.eval (.ofList rule (listArgs piece x xs)) = .ok p) :
    Reads Built.grammar ts (nonTerminal name) i
      (i + ([comma].intercalate ((x :: xs).map f)).length) (.value p) := by
  obtain ⟨hx, hxs⟩ := List.forall_mem_cons.1 hread
  rw [intercalate_cons, List.append_assoc] at h
  obtain ⟨hstands, hrest⟩ := h.append
  obtain ⟨l, ls, hf, rfl⟩ := hfirst
  obtain ⟨⟨t, ht, rfl⟩, -⟩ := (hf ▸ hstands : Stands ts i (l :: ls)).cons
  have hmany := readsMany_next hlast he hnext hclose hend hxs hrest
  obtain ⟨⟨t', ht', -⟩, -⟩ := hrest.append.2.cons
  rw [intercalate_cons, List.length_append, ← Nat.add_assoc]
  exact .firstRule noLeftRecursion hlast he ht rfl hlist
    (.cons (hx i hstands) (.cons (.zeroOrMore hmany ht') .nil)) rfl hp

end

/-! ### What stands between brackets -/

section

variable {opening : Lexeme} {empty reducer : Reducer TokenType Piece} {p q : Piece}
  (hcandidates : Built.grammar.candidates? name opening.1 = some [
    (0, Built.rule [terminal opening.1, terminal close.1] [opening.1] empty),
    (1, Built.rule [terminal opening.1, nonTerminal inner, terminal close.1] [opening.1] reducer)])
  (hopening : opening.1 ≠ .endMarker) (hclose : close.1 ≠ .endMarker)

include hcandidates hopening hclose

theorem reads_empty (h : Stands ts i [opening, close])
    (hp : ∀ t t' rule, empty.eval (.ofList rule [.token t, .token t']) = .ok p) :
    Reads Built.grammar ts (nonTerminal name) i (i + 2) (.value p) := by
  obtain ⟨t, ht, rfl, -, hopens, h⟩ := h.terminal hopening
  obtain ⟨t', -, rfl, -, hcloses, -⟩ := h.terminal hclose
  exact .firstRule noLeftRecursion hlast he ht rfl hcandidates
    (.cons hopens (.cons hcloses .nil)) rfl (hp t t')

theorem reads_filled (h : Stands ts i (opening :: (l :: ls ++ [close]))) (hl : l.1 ≠ close.1)
    (hread : Reads Built.grammar ts (nonTerminal inner) (i + 1) (i + 1 + (l :: ls).length)
      (.value p))
    (hp : ∀ t t' rule, reducer.eval (.ofList rule [.token t, .value p, .token t']) = .ok q) :
    Reads Built.grammar ts (nonTerminal name) i (i + (opening :: (l :: ls ++ [close])).length)
      (.value q) := by
  obtain ⟨t, ht, rfl, -, hopens, h⟩ := h.terminal hopening
  obtain ⟨hstands, hrest⟩ := h.append
  obtain ⟨t', -, rfl, -, hcloses, -⟩ := hrest.terminal hclose
  obtain ⟨⟨u, hu, rfl⟩, -⟩ := hstands.cons
  -- The rule of what is empty is tried first and fails at the second lexeme.
  have hempty : RefusesAll Built.grammar ts [terminal t.kind, terminal t'.kind] i :=
    .tail hopens (.head (.terminal hu hl))
  have hlength : i + (t.lexeme :: (u.lexeme :: ls ++ [t'.lexeme])).length =
      i + 1 + (u.lexeme :: ls).length + 1 := by
    simp only [List.length_cons, List.length_append, List.length_nil]
    omega
  rw [hlength]
  exact .nonTerminal noLeftRecursion hlast he ht
    (show _ = some ([(0, _)] ++ (1, _) :: []) from hcandidates) (List.forall_mem_singleton.2 hempty)
    (.cons hopens (.cons hread (.cons hcloses .nil))) rfl (hp t t')

end

/-! ### Values -/

omit hlast he in
theorem exists_lexemes_eq (v : Json) : ∃ l ls, v.lexemes = l :: ls ∧ l.1 ∈ Built.valueKinds := by
  cases v with
  | bool b => cases b <;> exact ⟨_, _, lexemes.eq_def _, by simp [Built.valueKinds]⟩
  | null | int | decimal | string | array | object =>
    exact ⟨_, _, lexemes.eq_def _, by simp [Built.valueKinds]⟩

omit hlast he in
theorem unquoted_of_inQuotes {t : Token TokenType} {s : String} (h : t.text = inQuotes s) :
    t.unquoted = s := by
  have hquoted : unquote? '"' t.text = some s := by
    simp [unquote?, h, toList_inQuotes]
  rw [Token.unquoted, hquoted, Option.some_or, Option.getD_some]

def ReadsValue (ts : List (Token TokenType)) (v : Json) : Prop :=
  ∀ i, Stands ts i v.lexemes →
    Reads Built.grammar ts (nonTerminal "value") i (i + v.lexemes.length)
      (.value (.value v.canonical))

omit hlast he in
theorem candidates?_elements {k : TokenType} (hk : k ∈ Built.valueKinds) :
    Built.grammar.candidates? "listElements" k = some [(0, Built.rule
      [nonTerminal "value", zeroOrMore (nonTerminal "additionalValue")] Built.valueKinds
        ofElementList)] := by
  simp only [Built.valueKinds, List.mem_cons, List.not_mem_nil, or_false] at hk
  rcases hk with rfl | rfl | rfl | rfl | rfl | rfl | rfl <;> rfl

theorem readsValue_array {items : List Json} (h : ∀ v ∈ items, ReadsValue ts v) :
    ReadsValue ts (.array items) := by
  intro i hs
  rw [lexemes, lexemesAll_eq] at hs ⊢
  rw [canonical, canonicalAll_eq]
  refine reads_alias hlast he hs rfl ?_
  cases items with
  | nil => exact reads_empty hlast he rfl (by decide) (by decide) hs fun _ _ _ => rfl
  | cons v vs =>
    obtain ⟨l, ls, hv, hl⟩ := exists_lexemes_eq v
    have hitems := reads_list hlast he hs.cons.2 rfl rfl (by decide) (candidates?_elements hl)
      ⟨l, ls, hv, rfl⟩ h fun _ => eval_ofElementList canonical v vs
    have hne : ∀ k ∈ Built.valueKinds, k ≠ .closeBracket := by decide
    rw [intercalate_cons, hv, List.cons_append] at hs hitems ⊢
    exact reads_filled hlast he rfl (by decide) (by decide) hs (hne _ hl) hitems
      fun _ _ _ => eval_ofArray

theorem reads_property {m : String × Json} (h : ReadsValue ts m.2)
    (hs : Stands ts i (memberLexemes m)) :
    Reads Built.grammar ts (nonTerminal "property") i (i + (memberLexemes m).length)
      (.value (.property m.1 m.2.canonical)) := by
  obtain ⟨t, ht, hkey, -, hstring, hs⟩ := hs.terminal nofun
  obtain ⟨_, -, -, -, hcolon, hs⟩ := hs.terminal (by decide)
  have hlength : i + (memberLexemes m).length = i + 1 + 1 + m.2.lexemes.length := by
    rw [memberLexemes, List.length_cons, List.length_cons]
    omega
  have hunquoted : t.unquoted = m.1 := unquoted_of_inQuotes (congrArg Prod.snd hkey)
  rw [hlength, ← hunquoted]
  exact .firstRule noLeftRecursion hlast he ht (congrArg Prod.fst hkey) rfl
    (.cons hstring (.cons hcolon (.cons (h _ hs) .nil))) rfl fun _ => eval_ofProperty

theorem readsValue_object {members : List (String × Json)} (h : ∀ m ∈ members, ReadsValue ts m.2) :
    ReadsValue ts (.object members) := by
  intro i hs
  rw [lexemes, lexemesMembers_eq] at hs ⊢
  rw [canonical, canonicalMembers_eq]
  refine reads_alias hlast he hs rfl ?_
  cases members with
  | nil => exact reads_empty hlast he rfl (by decide) (by decide) hs fun _ _ _ => rfl
  | cons m ms =>
    have hread : ∀ m' ∈ m :: ms, ∀ i, Stands ts i (memberLexemes m') →
        Reads Built.grammar ts (nonTerminal "property") i (i + (memberLexemes m').length)
          (.value (.property m'.1 m'.2.canonical)) :=
      fun m' hm' _ hs => reads_property hlast he (h m' hm') hs
    have hfirst : ∃ l ls, memberLexemes m = l :: ls ∧ l.1 = .string := ⟨_, _, rfl, rfl⟩
    have hlist : Built.grammar.candidates? "members" .string = some [(0, Built.rule
        [nonTerminal "property", zeroOrMore (nonTerminal "additionalProperty")] [.string]
        ofPropertyList)] := rfl
    have hmembers := reads_list hlast he hs.cons.2 rfl rfl (by decide) hlist hfirst hread
      fun _ => eval_ofPropertyList (fun m : String × Json => (m.1, m.2.canonical)) m ms
    have hkey : TokenType.string ≠ .closeBrace := by decide
    rw [intercalate_cons, memberLexemes, List.cons_append] at hs hmembers ⊢
    exact reads_filled hlast he rfl (by decide) (by decide) hs hkey hmembers
      fun _ _ _ => eval_ofObject

theorem Plain.readsValue {v : Json} (h : v.Plain) : ReadsValue ts v := by
  induction h with
  | null => exact fun i hs => reads_scalar hlast he hs (by decide) rfl fun _ _ _ => rfl
  | @bool b =>
    intro i hs
    cases b with
    | false | true =>
      refine reads_scalar hlast he hs (by decide) rfl fun t rule ht => ?_
      have htext : t.text = _ := congrArg Prod.snd ht
      rw [eval_ofBoolean, htext]
      rfl
  | @int n hmin hmax =>
    refine fun i hs => reads_scalar hlast he hs nofun rfl fun t rule ht => eval_ofInt ?_
    have htext : t.text = toString n := congrArg Prod.snd ht
    rw [htext]
    exact Text.readInteger_toString hmin hmax
  | string =>
    refine fun i hs => reads_scalar hlast he hs nofun rfl fun t rule ht => ?_
    rw [eval_ofString, unquoted_of_inQuotes (congrArg Prod.snd ht)]
    rfl
  | array _ ih => exact readsValue_array hlast he ih
  | object _ _ ih => exact readsValue_object hlast he ih

end

/-! ### The round trip -/

theorem Plain.tokenize {v : Json} (h : v.Plain) :
    ∃ us p, Built.lexer.tokenize v.render = .ok (us ++ [Token.endAt p]) ∧
      us.map Token.lexeme = v.lexemes := by
  have hscans : Scans (v.render.toList ++ []) (v.lexemes ++ []) :=
    h.writes.scans (by simp [Ends]) .nil
  rw [List.append_nil, List.append_nil] at hscans
  exact hscans.tokenize

theorem filter_root {k : TokenType} (hk : k ∈ Built.valueKinds) :
    ∃ n, Built.grammar.nonTerminal? Built.grammar.start = some n ∧
      (n.numbered.filter fun p => p.2.admits k) = [(0, Built.rule [nonTerminal "value"]
        Built.valueKinds (ArgsM.value 0))] := by
  refine ⟨_, rfl, ?_⟩
  simp only [Built.valueKinds, List.mem_cons, List.not_mem_nil, or_false] at hk
  rcases hk with rfl | rfl | rfl | rfl | rfl | rfl | rfl <;> rfl

/-- A value that has no decimals, no integers of more than 64 bits and no quotes in its strings is
parsed from what is written for it; the members of its objects come in the order of their keys. -/
theorem parse_render {v : Json} (h : v.Plain) :
    ∃ L g n, lexer = .ok L ∧ grammar = .ok g ∧
      (Parser.mk L g none).parse v.render = .ok (.success (.value v.canonical) n) ∧
      (v.Ordered → v.canonical = v) := by
  obtain ⟨us, p, htokens, hlexemes⟩ := h.tokenize
  let ts := us ++ [Token.endAt p]
  refine ⟨Built.lexer, Built.grammar, ts.length, build_vocabulary, build_productions, ?_,
    Ordered.canonical_eq⟩
  have he : (Token.endAt p : Token TokenType).isEnd = true := Token.isEnd_endAt p
  have hlast : ts[ts.length - 1]? = some (Token.endAt p) := by simp [ts]
  have hstands : Stands ts 0 v.lexemes := by
    rw [Stands, List.drop_zero, List.map_append, hlexemes]
    exact List.prefix_append _ _
  have hlength : us.length = v.lexemes.length := by rw [← hlexemes, List.length_map]
  have hvalue : Reads Built.grammar ts (nonTerminal "value") 0 us.length
      (.value (.value v.canonical)) := by
    simpa [hlength] using h.readsValue hlast he 0 hstands
  obtain ⟨l, ls, hls, hl⟩ := exists_lexemes_eq v
  obtain ⟨t, ht, rfl⟩ : ∃ t, us[0]? = some t ∧ t.lexeme = l := by
    cases us with
    | nil =>
      rw [hls] at hlexemes
      cases hlexemes
    | cons t us =>
      rw [hls] at hlexemes
      exact ⟨t, rfl, (List.cons.inj hlexemes).1⟩
  obtain ⟨n, hn, hfilter⟩ := filter_root hl
  rw [Parser.parse_of_tokenize_eq_ok htokens]
  exact ReadsAll.parse he (.cons hvalue .nil) ht hn hfilter rfl fun _ => rfl

def sample : Json := object [("a", array [null, int (-7), array []]),
  ("b", object [("c", string "x y")]), ("d", bool true)]

theorem parse_render_sample : sample.Plain ∧ sample.Ordered ∧ ∃ L g n, lexer = .ok L ∧
    grammar = .ok g ∧
    (Parser.mk L g none).parse sample.render = .ok (.success (.value sample) n) := by
  have hplain : sample.Plain := by
    have hitems : (array [null, int (-7), array []]).Plain := .array <|
      List.forall_mem_cons.2 ⟨.null, List.forall_mem_cons.2 ⟨.int (by decide) (by decide),
        List.forall_mem_singleton.2 (.array (List.forall_mem_nil _))⟩⟩
    have hinner : (object [("c", string "x y")]).Plain :=
      .object (by decide) (List.forall_mem_singleton.2 (.string (by decide)))
    exact .object (by decide) (List.forall_mem_cons.2 ⟨hitems, List.forall_mem_cons.2 ⟨hinner,
      List.forall_mem_singleton.2 .bool⟩⟩)
  have hordered : sample.Ordered := by
    have hitems : (array [null, int (-7), array []]).Ordered := .array <|
      List.forall_mem_cons.2 ⟨.null, List.forall_mem_cons.2 ⟨.int,
        List.forall_mem_singleton.2 (.array (List.forall_mem_nil _))⟩⟩
    have hinner : (object [("c", string "x y")]).Ordered :=
      .object (List.pairwise_singleton _ _) (List.forall_mem_singleton.2 .string)
    exact .object (by decide +kernel) (List.forall_mem_cons.2 ⟨hitems,
      List.forall_mem_cons.2 ⟨hinner, List.forall_mem_singleton.2 .bool⟩⟩)
  obtain ⟨L, g, n, hL, hg, hparse, hcanonical⟩ := parse_render hplain
  rw [hcanonical hordered] at hparse
  exact ⟨hplain, hordered, L, g, n, hL, hg, hparse⟩

end Parsing.Json
