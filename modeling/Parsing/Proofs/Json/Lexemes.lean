import Parsing.Proofs.Json.Values
import Parsing.Proofs.Lexer.Scanning
import Parsing.Proofs.Text.Integer

namespace Parsing

theorem CharSet.contains_any (c : Char) : any.contains c = true := by
  have hvalid : c.toNat < 0xD800 ∨ (0xDFFF < c.toNat ∧ c.toNat < 0x110000) := c.valid
  simp only [contains, any, Unicode.inside_cons, Unicode.inside_nil, Bool.and_eq_true,
    Bool.not_eq_true', Bool.and_eq_false_imp, decide_eq_true_eq, Bool.not_false]
  grind

namespace Json

namespace Built

def digit : CharSet := ⟨[48, 58]⟩

def decimal : Regex := ⟨#[.check .textStart 1, .split 2 3, .pass (.single '-') 3, .pass digit 4,
  .split 3 5, .pass (.single '.') 6, .pass digit 7, .split 6 8], true⟩

def int : Regex :=
  ⟨#[.check .textStart 1, .split 2 3, .pass (.single '-') 3, .pass digit 4, .split 3 5], true⟩

def notQuote : CharSet := ⟨[0, 34, 35, 55296, 57344, 1114112]⟩

def string : Regex := ⟨#[.check .textStart 1, .pass (.single '"') 2, .split 3 4, .pass notQuote 2,
  .pass (.single '"') 5], true⟩

def boolean : Regex := ⟨#[.check .textStart 1, .split 2 6, .pass (.single 't') 3,
  .pass (.single 'r') 4, .pass (.single 'u') 5, .pass (.single 'e') 11, .pass (.single 'f') 7,
  .pass (.single 'a') 8, .pass (.single 'l') 9, .pass (.single 's') 10, .pass (.single 'e') 11],
  true⟩

def null : Regex := ⟨#[.check .textStart 1, .pass (.single 'n') 2, .pass (.single 'u') 3,
  .pass (.single 'l') 4, .pass (.single 'l') 5], true⟩

def mark (c : Char) : Regex := ⟨#[.check .textStart 1, .pass (.single c) 2], true⟩

def oneOrMore (s : CharSet) : Regex := ⟨#[.check .textStart 1, .pass s 2, .split 1 3], true⟩

def blank : CharSet := ⟨[9, 10, 32, 33]⟩

def lineBreak : CharSet := ⟨[10, 11, 13, 14]⟩

def regexes : List Regex := [decimal, int, string, boolean, null, mark '\x7b', mark '\x7d',
  mark '[', mark ']', mark ':', mark ',', oneOrMore blank, oneOrMore lineBreak]

def lexer : Lexer TokenType := ⟨vocabulary.zip regexes, none⟩

end Built

theorem build_vocabulary : lexer = .ok Built.lexer := by
  have hread : ∀ p ∈ Built.lexer.definitions,
      Regex.read (Lexer.anchored p.1.pattern) = .ok p.2 := by decide +kernel
  exact Lexer.build_eq_ok.2 ⟨⟨rfl, hread⟩, rfl, by decide⟩

theorem contains_digit (c : Char) : Built.digit.contains c = c.isDigit := by
  rw [Bool.eq_iff_iff, CharSet.contains, Built.digit, Unicode.inside_range]
  simp only [Char.isDigit, ge_iff_le, Bool.and_eq_true, decide_eq_true_eq, UInt32.le_iff_toNat_le]
  show 48 ≤ c.toNat ∧ c.toNat < 58 ↔ 48 ≤ c.toNat ∧ c.toNat ≤ 57
  omega

def Ends (after : List Char) : Prop := ∀ c ∈ after.head?, c.isDigit = false ∧ c ≠ '.'

/-- A pattern that takes a sign and digits first, and waits for `w` behind each of the digits. -/
structure TakesDigits (r : Regex) (w : Regex.Waiting) : Prop where
  fromStart : r.fromStart = true
  start : ∀ rest, r.follow ⟨none, rest⟩ [⟨0, 0⟩] =
    ⟨[(.single '-', ⟨3, 0⟩), (Built.digit, ⟨4, 0⟩)], none⟩
  sign : r.Waits [⟨3, 0⟩] ⟨[(Built.digit, ⟨4, 0⟩)], none⟩
  digits : r.Waits [⟨4, 0⟩] w
  pass_digit : ∀ c, c.isDigit = true → w.pass c = [⟨4, 0⟩]

theorem takesDigits_decimal : TakesDigits Built.decimal
    ⟨[(Built.digit, ⟨4, 0⟩), (.single '.', ⟨6, 0⟩)], none⟩ where
  fromStart := rfl
  start _ := rfl
  sign _ _ := rfl
  digits _ _ := rfl
  pass_digit c hc := by
    have hdot : c ≠ '.' := by rintro rfl; cases hc
    simp [Regex.Waiting.pass, contains_digit, hc, hdot]

theorem takesDigits_int : TakesDigits Built.int ⟨[(Built.digit, ⟨4, 0⟩)], some 0⟩ where
  fromStart := rfl
  start _ := rfl
  sign _ _ := rfl
  digits _ _ := rfl
  pass_digit c hc := by simp [Regex.Waiting.pass, contains_digit, hc]

namespace TakesDigits

variable {r : Regex} {w : Regex.Waiting} (h : TakesDigits r w) {c : Char} {cs after : List Char}

include h

theorem runFrom (hstop : ∀ c ∈ after.head?, w.pass c = []) (hcs : ∀ d ∈ c :: cs, d.isDigit = true)
    {before : Option Char} {passed : Nat} {threads : List Regex.Thread}
    {steps : List (CharSet × Regex.Thread)}
    (hw : r.follow ⟨before, c :: (cs ++ after)⟩ threads = ⟨steps, none⟩)
    (hpass : Regex.Waiting.pass ⟨steps, none⟩ c = [⟨4, 0⟩]) :
    r.runFrom before passed none threads (c :: (cs ++ after)) =
      w.best (passed + (c :: cs).length) none := by
  have hcs' : ∀ d ∈ cs, w.pass d = [⟨4, 0⟩] := fun d hd => h.pass_digit d (hcs d (by simp [hd]))
  rw [Regex.runFrom_step h.fromStart hw hpass (by simp),
    Regex.runFrom_loop h.fromStart h.digits (by simp) hcs' hstop, List.length_cons, Nat.add_assoc,
    Nat.add_comm 1]
  rfl

theorem find? (hstop : ∀ c ∈ after.head?, w.pass c = []) (n : Int) :
    r.find? ((toString n).toList ++ after) = w.best (toString n).toList.length none := by
  obtain ⟨c, cs, hdigits⟩ := List.exists_cons_of_ne_nil (@Nat.toDigits_ne_nil n.natAbs 10)
  have hcs : ∀ d ∈ c :: cs, d.isDigit = true := fun d hd =>
    Nat.isDigit_of_mem_toDigits (by decide) (Nat.le_refl 10) (hdigits ▸ hd)
  have hc : Built.digit.contains c = true := (contains_digit c).trans (hcs c (by simp))
  rw [Text.toList_toString, hdigits, Regex.find?]
  rcases Int.lt_or_le n 0 with hn | hn
  · rw [if_pos hn]
    have hminus : Regex.Waiting.pass ⟨[(.single '-', ⟨3, 0⟩), (Built.digit, ⟨4, 0⟩)], none⟩ '-' =
        [⟨3, 0⟩] := by decide
    refine (Regex.runFrom_step h.fromStart (h.start _) hminus (by simp)).trans ?_
    refine (h.runFrom hstop hcs (h.sign _ _) ?_).trans (by simp [Nat.add_comm])
    simp [Regex.Waiting.pass, hc]
  · have hsign : c ≠ '-' := by
      rintro rfl
      exact absurd (hcs '-' (by simp)) (by decide)
    rw [if_neg (Int.not_lt.2 hn)]
    refine (h.runFrom hstop hcs (h.start _) ?_).trans (by simp)
    simp [Regex.Waiting.pass, hc, hsign]

end TakesDigits

theorem find?_decimal {after : List Char} (h : Ends after) (n : Int) :
    Built.decimal.find? ((toString n).toList ++ after) = none := by
  refine takesDigits_decimal.find? (fun c hc => ?_) n
  obtain ⟨hdigit, hdot⟩ := h c hc
  simp [Regex.Waiting.pass, contains_digit, hdigit, hdot]

theorem find?_int {after : List Char} (h : Ends after) (n : Int) :
    Built.int.find? ((toString n).toList ++ after) = some ⟨0, (toString n).toList.length⟩ := by
  refine takesDigits_int.find? (fun c hc => ?_) n
  simp [Regex.Waiting.pass, contains_digit, (h c hc).1]

theorem contains_notQuote (c : Char) : Built.notQuote.contains c = decide (c ≠ '"') := by
  have hset : Built.notQuote = (CharSet.single '"').complement := by decide
  rw [hset, CharSet.complement, CharSet.contains_diff (by decide) (by decide),
    CharSet.contains_any, CharSet.contains_single]
  simp

theorem find?_string {s : List Char} (hs : '"' ∉ s) (after : List Char) :
    Built.string.find? ('"' :: (s ++ '"' :: after)) = some ⟨0, s.length + 2⟩ := by
  have hstart : Built.string.follow ⟨none, '"' :: (s ++ '"' :: after)⟩ [⟨0, 0⟩] =
      ⟨[(.single '"', ⟨2, 0⟩)], none⟩ := rfl
  have hw : Built.string.Waits [⟨2, 0⟩]
      ⟨[(Built.notQuote, ⟨2, 0⟩), (.single '"', ⟨5, 0⟩)], none⟩ := fun _ _ => rfl
  have hend : Built.string.Waits [⟨5, 0⟩] ⟨[], some 0⟩ := fun _ _ => rfl
  have hpass : ∀ c ∈ s, Regex.Waiting.pass
      ⟨[(Built.notQuote, ⟨2, 0⟩), (.single '"', ⟨5, 0⟩)], none⟩ c = [⟨2, 0⟩] := by
    intro c hc
    have hne : c ≠ '"' := by rintro rfl; exact hs hc
    simp [Regex.Waiting.pass, contains_notQuote, hne]
  obtain ⟨c, best', hrun, hbest⟩ := Regex.exists_runFrom_append rfl hw (by simp) hpass
  have hopen : Regex.Waiting.pass ⟨[(.single '"', ⟨2, 0⟩)], none⟩ '"' = [⟨2, 0⟩] := by decide
  have hclose : Regex.Waiting.pass
      ⟨[(Built.notQuote, ⟨2, 0⟩), (.single '"', ⟨5, 0⟩)], none⟩ '"' = [⟨5, 0⟩] := by decide
  rw [Regex.find?, Regex.runFrom_step rfl hstart hopen (by simp), hrun,
    Regex.runFrom_step rfl (hw _ _) hclose (by simp),
    Regex.runFrom_stop rfl (hend _ _) fun _ _ => rfl]
  simp [Regex.Waiting.best]
  omega

theorem find?_oneOrMore {s : CharSet} {after : List Char} (c : Char) (cs : List Char)
    (hcs : ∀ d ∈ c :: cs, s.contains d = true) (hafter : ∀ d ∈ after.head?, s.contains d = false) :
    (Built.oneOrMore s).find? (c :: (cs ++ after)) = some ⟨0, (c :: cs).length⟩ := by
  have hstart : (Built.oneOrMore s).follow ⟨none, c :: (cs ++ after)⟩ [⟨0, 0⟩] =
      ⟨[(s, ⟨2, 0⟩)], none⟩ := by cbv
  have hw : (Built.oneOrMore s).Waits [⟨2, 0⟩] ⟨[(s, ⟨2, 0⟩)], some 0⟩ := by
    intro _ _
    cbv
  have hpass : ∀ d ∈ c :: cs, ∀ complete?, Regex.Waiting.pass ⟨[(s, ⟨2, 0⟩)], complete?⟩ d =
      [⟨2, 0⟩] := by
    intro d hd complete?
    simp [Regex.Waiting.pass, hcs d hd]
  rw [Regex.find?, Regex.runFrom_step rfl hstart (hpass c (by simp) none) (by simp),
    Regex.runFrom_loop rfl hw (by simp) (fun d hd => hpass d (by simp [hd]) _) fun d hd => by
      simp [Regex.Waiting.pass, hafter d hd]]
  simp [Regex.Waiting.best, Nat.add_comm]

abbrev Scans : List Char → List Lexeme → Prop := Built.lexer.Scans

variable {after : List Char} {ls : List Lexeme}

theorem scans_definition {text : List Char} (hne : text ≠ []) (index : Nat)
    {d : TokenDefinition TokenType} {r : Regex}
    (hindex : Built.lexer.definitions[index]? = some (d, r))
    (hbefore : (Built.regexes.take index).all fun r => (r.find? (text ++ after)).isNone)
    (hfind : r.find? (text ++ after) = some ⟨0, text.length⟩) (h : Scans after ls) :
    Scans (text ++ after) (Segment.lexemes ⟨some d, text⟩ ++ ls) := by
  have hdefinitions : Built.lexer.definitions = Built.lexer.definitions.take index ++
      (d, r) :: Built.lexer.definitions.drop (index + 1) := by
    obtain ⟨hlt, hget⟩ := List.getElem?_eq_some_iff.1 hindex
    rw [← hget, ← List.drop_eq_getElem_cons, List.take_append_drop]
  have hnone : ∀ p ∈ Built.lexer.definitions.take index, ∀ n,
      ¬ p.2.EndsAfter (text ++ after) n := by
    rintro p hp n ⟨start, hsome, -⟩
    have hp' : p.2 ∈ Built.regexes.take index := by
      rw [Built.lexer, List.zip, List.take_zipWith] at hp
      exact (List.of_mem_zip hp).2
    simpa [hsome] using List.all_eq_true.1 hbefore p.2 hp'
  exact .definition rfl hne (Lexer.definition?_eq_some.2
    ⟨_, r, _, hdefinitions, hnone, 0, hfind, List.length_pos_iff.2 hne⟩) h

theorem scans_int (hafter : Ends after) (h : Scans after ls) (n : Int) :
    Scans ((toString n).toList ++ after) ((.int, toString n) :: ls) := by
  have hne : (toString n).toList ≠ [] := by
    rw [Text.toList_toString]
    exact List.append_ne_nil_of_right_ne_nil _ Nat.toDigits_ne_nil
  have hbefore : (Built.regexes.take 1).all fun r =>
      (r.find? ((toString n).toList ++ after)).isNone := by
    simp only [Built.regexes, List.take, List.all_cons, find?_decimal hafter]
    rfl
  have hscans := scans_definition hne 1 rfl hbefore (find?_int hafter n) h
  rwa [Segment.lexemes, String.ofList_toList] at hscans

theorem toList_inQuotes (s : String) : (inQuotes s).toList = '"' :: (s.toList ++ ['"']) := by
  simp [inQuotes]

theorem scans_string {s : String} (hs : '"' ∉ s.toList) (h : Scans after ls) :
    Scans ((inQuotes s).toList ++ after) ((.string, inQuotes s) :: ls) := by
  have hbefore : (Built.regexes.take 2).all fun r =>
      (r.find? ((inQuotes s).toList ++ after)).isNone := by
    rw [toList_inQuotes]
    rfl
  have hfind : Built.string.find? ((inQuotes s).toList ++ after) =
      some ⟨0, (inQuotes s).toList.length⟩ := by
    simpa [toList_inQuotes] using find?_string hs after
  have hscans := scans_definition (by simp [toList_inQuotes]) 2 rfl hbefore hfind h
  rwa [Segment.lexemes, String.ofList_toList] at hscans

def fixed : List (TokenDefinition TokenType × String) := [
  (.token .boolean "true|false", "true"),
  (.token .boolean "true|false", "false"),
  (.token .null "null", "null"),
  (.token .openBrace "\\\x7b", "\x7b"),
  (.token .closeBrace "\\\x7d", "\x7d"),
  (.token .openBracket "\\[", "["),
  (.token .closeBracket "\\]", "]"),
  (.token .colon ":", ":"),
  (.token .comma ",", ",")]

theorem definition?_fixed {p : TokenDefinition TokenType × String} (hp : p ∈ fixed)
    (after : List Char) :
    Built.lexer.definition? (p.2.toList ++ after) = some (p.1, p.2.toList.length) := by
  simp only [fixed, List.mem_cons, List.not_mem_nil, or_false] at hp
  rcases hp with rfl | rfl | rfl | rfl | rfl | rfl | rfl | rfl | rfl <;> cases after <;>
    dsimp only <;> cbv

theorem scans_fixed (k : TokenType) (pattern text : String) (hd : (.token k pattern, text) ∈ fixed)
    (h : Scans after ls) : Scans (text.toList ++ after) ((k, text) :: ls) := by
  have hne : ∀ p ∈ fixed, p.2.toList ≠ [] := by decide
  have hscans := Lexer.Scans.definition rfl (hne _ hd) (definition?_fixed hd after) h
  rwa [Segment.lexemes, String.ofList_toList] at hscans

def isSolid (c : Char) : Bool := !Built.blank.contains c && !Built.lineBreak.contains c

theorem isSolid_of_isDigit {c : Char} (h : c.isDigit = true) : isSolid c = true := by
  rw [← contains_digit] at h
  simp only [CharSet.contains, isSolid, Built.digit, Built.blank, Built.lineBreak,
    Unicode.inside] at *
  grind

theorem scans_blank (hafter : ∀ c ∈ after.head?, isSolid c = true) (h : Scans after ls) :
    Scans (' ' :: after) ls := by
  have hbefore : (Built.regexes.take 11).all fun r => (r.find? (' ' :: after)).isNone := by rfl
  have hfind : (Built.oneOrMore Built.blank).find? (' ' :: after) = some ⟨0, 1⟩ := by
    refine find?_oneOrMore ' ' [] (List.forall_mem_singleton.2 rfl) fun c hc => ?_
    simpa using (Bool.and_eq_true_iff.1 (hafter c hc)).1
  exact scans_definition (List.cons_ne_nil ' ' []) 11 rfl hbefore hfind h

theorem scans_lineEnd {cs : List Char} (hcs : ∀ c ∈ cs, c = '\n')
    (hafter : ∀ c ∈ after.head?, isSolid c = true) (h : Scans after ls) :
    Scans ('\n' :: cs ++ after) ls := by
  have hbefore : (Built.regexes.take 12).all fun r =>
      (r.find? ('\n' :: cs ++ after)).isNone := by rfl
  have hfind : (Built.oneOrMore Built.lineBreak).find? ('\n' :: cs ++ after) =
      some ⟨0, ('\n' :: cs).length⟩ := by
    refine find?_oneOrMore '\n' cs (List.forall_mem_cons.2 ⟨rfl, fun c hc => ?_⟩) fun c hc => ?_
    · rw [hcs c hc]
      rfl
    · simpa using (Bool.and_eq_true_iff.1 (hafter c hc)).2
  exact scans_definition (List.cons_ne_nil '\n' cs) 12 rfl hbefore hfind h

/-- A text that begins with a solid character and is cut into these lexemes, unless a number goes on
behind it. -/
structure Writes (text : String) (ls : List Lexeme) : Prop where
  head : text.toList.head?.any isSolid = true
  scans : ∀ {after more}, Ends after → Scans after more → Scans (text.toList ++ after) (ls ++ more)

theorem Writes.isSolid_head_append {text : String} (h : Writes text ls) (after : List Char) :
    ∀ c ∈ (text.toList ++ after).head?, isSolid c = true := by
  obtain ⟨c, hc, hsolid⟩ := (Option.any_eq_true _ _).1 h.head
  rw [List.head?_append, hc]
  rintro _ ⟨⟩
  exact hsolid

structure Separates (sep : String) : Prop where
  ends : ∀ after, Ends (sep.toList ++ after)
  scans : ∀ {after more}, (∀ c ∈ after.head?, isSolid c = true) → Scans after more →
    Scans (sep.toList ++ after) (comma :: more)

theorem scans_comma (h : Scans after ls) : Scans (',' :: after) (comma :: ls) :=
  scans_fixed .comma "," "," (by decide) h

theorem separates_blank : Separates ", " where
  ends after := by simp [Ends]
  scans hafter h := scans_comma (scans_blank hafter h)

theorem separates_lineEnd : Separates ",\n" where
  ends after := by simp [Ends]
  scans hafter h := scans_comma (scans_lineEnd (List.forall_mem_nil _) hafter h)

section

variable {α : Type} {sep : String} {text : α → String} {lexemes : α → List Lexeme}

theorem isSolid_head_intercalate {x : α} (hx : Writes (text x) (lexemes x)) (xs : List α)
    (after : List Char) :
    ∀ c ∈ ((sep.intercalate ((x :: xs).map text)).toList ++ after).head?, isSolid c = true := by
  cases xs with
  | nil => simpa only [List.map, String.intercalate_singleton] using hx.isSolid_head_append after
  | cons y ys =>
    rw [List.map_cons, List.map_cons, String.intercalate_cons_cons, String.toList_append,
      String.toList_append, List.append_assoc, List.append_assoc]
    exact hx.isSolid_head_append _

theorem scans_intercalate (hsep : Separates sep) {xs : List α}
    (hxs : ∀ x ∈ xs, Writes (text x) (lexemes x)) (hafter : Ends after) (h : Scans after ls) :
    Scans ((sep.intercalate (xs.map text)).toList ++ after)
      ([comma].intercalate (xs.map lexemes) ++ ls) := by
  induction xs with
  | nil => simpa using h
  | cons x xs ih =>
    obtain ⟨hx, hxs⟩ := List.forall_mem_cons.1 hxs
    cases xs with
    | nil => simpa using hx.scans hafter h
    | cons y ys =>
      have hrest := hsep.scans (isSolid_head_intercalate (hxs y (by simp)) ys after) (ih hxs)
      simpa [List.append_assoc] using hx.scans (hsep.ends _) hrest

end

namespace Writes

theorem fixed (k : TokenType) (pattern text : String)
    (hd : (.token k pattern, text) ∈ Json.fixed) : Writes text [(k, text)] := by
  have hhead : ∀ p ∈ Json.fixed, p.2.toList.head?.any isSolid = true := by decide
  exact ⟨hhead _ hd, fun _ h => scans_fixed k pattern text hd h⟩

theorem int (n : Int) : Writes (toString n) [(.int, toString n)] where
  head := by
    obtain ⟨c, cs, hdigits⟩ := List.exists_cons_of_ne_nil (@Nat.toDigits_ne_nil n.natAbs 10)
    have hc : c.isDigit = true :=
      Nat.isDigit_of_mem_toDigits (by decide) (Nat.le_refl 10) (hdigits ▸ List.mem_cons_self)
    rw [Text.toList_toString, hdigits]
    split
    · rfl
    · exact isSolid_of_isDigit hc
  scans hafter h := scans_int hafter h n

theorem string {s : String} (hs : '"' ∉ s.toList) :
    Writes (inQuotes s) [(.string, inQuotes s)] where
  head := by
    rw [toList_inQuotes]
    rfl
  scans _ h := scans_string hs h

theorem member {m : String × Json} (hk : '"' ∉ m.1.toList) (hv : Writes m.2.render m.2.lexemes) :
    Writes (renderMember m) (memberLexemes m) where
  head := by
    simpa [renderMember, toList_inQuotes] using (string hk).head
  scans hafter h := by
    have hvalue := scans_blank (hv.isSolid_head_append _) (hv.scans hafter h)
    have hcolon := scans_fixed .colon ":" ":" (by decide) hvalue
    simpa [renderMember, memberLexemes] using scans_string hk hcolon

theorem array {items : List Json} (h : ∀ v ∈ items, Writes v.render v.lexemes) :
    Writes (render (.array items)) (lexemes (.array items)) := by
  rw [render, lexemes, renderAll_eq, lexemesAll_eq]
  refine ⟨by simp; rfl, fun hafter hs => ?_⟩
  have hclose := scans_fixed .closeBracket "\\]" "]" (by decide) hs
  have hitems := scans_intercalate separates_blank h (by simp [Ends]) hclose
  simpa using scans_fixed .openBracket "\\[" "[" (by decide) hitems

theorem object {members : List (String × Json)}
    (h : ∀ m ∈ members, Writes (renderMember m) (memberLexemes m)) :
    Writes (render (.object members)) (lexemes (.object members)) := by
  rw [render, lexemes, renderMembers_eq, lexemesMembers_eq]
  refine ⟨by simp; rfl, fun {after more} hafter hs => ?_⟩
  have hclose : Scans ('\x7d' :: after) ((.closeBrace, "\x7d") :: more) :=
    scans_fixed .closeBrace "\\\x7d" "\x7d" (by decide) hs
  have hsolid : ∀ c ∈ ('\x7d' :: after).head?, isSolid c = true := by simp; rfl
  have hopen {text : List Char} {ls : List Lexeme} (h : Scans text ls) :=
    scans_fixed .openBrace "\\\x7b" "\x7b" (by decide) h
  cases members with
  | nil => simpa using hopen (scans_lineEnd (List.forall_mem_singleton.2 rfl) hsolid hclose)
  | cons m ms =>
    have hmembers := scans_intercalate separates_lineEnd h (by simp [Ends])
      (scans_lineEnd (List.forall_mem_nil _) hsolid hclose)
    have hall := scans_lineEnd (List.forall_mem_nil _)
      (isSolid_head_intercalate (h m (by simp)) ms _) hmembers
    simpa using hopen hall

end Writes

theorem Plain.writes {v : Json} (h : v.Plain) : Writes v.render v.lexemes := by
  induction h with
  | null => exact .fixed .null "null" "null" (by decide)
  | @bool b =>
    cases b with
    | false => exact .fixed .boolean "true|false" "false" (by decide)
    | true => exact .fixed .boolean "true|false" "true" (by decide)
  | @int n => exact .int n
  | string hs => exact .string hs
  | array _ ih => exact .array ih
  | object hkeys _ ih => exact .object fun m hm => .member (hkeys m hm) (ih m hm)

end Json

end Parsing
