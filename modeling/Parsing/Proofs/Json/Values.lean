import Mathlib.Data.List.Basic
import Parsing.Json.Language

namespace Parsing.Json

theorem renderAll_eq (items : List Json) : renderAll items = items.map render := by
  induction items with
  | nil => rfl
  | cons v vs ih => rw [renderAll, ih, List.map_cons]

def renderMember (m : String × Json) : String := inQuotes m.1 ++ ": " ++ m.2.render

theorem renderMembers_eq (members : List (String × Json)) :
    renderMembers members = members.map renderMember := by
  induction members with
  | nil => rfl
  | cons m ms ih => rw [renderMembers, ih, List.map_cons, renderMember]

/-- Values without decimals whose integers have 64 bits and whose strings and keys hold no quote. -/
inductive Plain : Json → Prop
  | null : Plain null
  | bool {b : Bool} : Plain (bool b)
  | int {n : Int} : Text.smallestInteger ≤ n → n ≤ Text.largestInteger → Plain (int n)
  | string {s : String} : '"' ∉ s.toList → Plain (string s)
  | array {items : List Json} : (∀ v ∈ items, Plain v) → Plain (array items)
  | object {members : List (String × Json)} : (∀ m ∈ members, '"' ∉ m.1.toList) →
    (∀ m ∈ members, Plain m.2) → Plain (object members)

inductive Ordered : Json → Prop
  | null : Ordered null
  | bool {b : Bool} : Ordered (bool b)
  | int {n : Int} : Ordered (int n)
  | decimal {text : String} : Ordered (decimal text)
  | string {s : String} : Ordered (string s)
  | array {items : List Json} : (∀ v ∈ items, Ordered v) → Ordered (array items)
  | object {members : List (String × Json)} : members.Pairwise (fun m m' => m.1 < m'.1) →
    (∀ m ∈ members, Ordered m.2) → Ordered (object members)

mutual

/-- The value with the members of every object in the order of their keys. Of members with the same
key the last one is left. -/
def canonical : Json → Json
  | null => null
  | bool b => bool b
  | int n => int n
  | decimal text => decimal text
  | string s => string s
  | array items => array (canonicalAll items)
  | object members => ofMembers (canonicalMembers members)

def canonicalAll : List Json → List Json
  | [] => []
  | v :: vs => v.canonical :: canonicalAll vs

def canonicalMembers : List (String × Json) → List (String × Json)
  | [] => []
  | (k, v) :: ms => (k, v.canonical) :: canonicalMembers ms

end

theorem canonicalAll_eq (items : List Json) : canonicalAll items = items.map canonical := by
  induction items with
  | nil => rfl
  | cons v vs ih => rw [canonicalAll, ih, List.map_cons]

theorem canonicalMembers_eq (members : List (String × Json)) :
    canonicalMembers members = members.map fun m => (m.1, m.2.canonical) := by
  induction members with
  | nil => rfl
  | cons m ms ih => rw [canonicalMembers, ih, List.map_cons]

theorem insertMember_of_lt {key : String} {ms : List (String × Json)} (h : ∀ m ∈ ms, m.1 < key)
    (v : Json) : insertMember key v ms = ms ++ [(key, v)] := by
  induction ms with
  | nil => rfl
  | cons m ms ih =>
    obtain ⟨hm, hms⟩ := List.forall_mem_cons.1 h
    have hne : key ≠ m.1 := by
      rintro rfl
      exact String.lt_irrefl _ hm
    rw [insertMember, if_neg (String.lt_asymm hm), if_neg hne, ih hms, List.cons_append]

theorem foldl_insertMember {before ms : List (String × Json)}
    (h : (before ++ ms).Pairwise fun m m' => m.1 < m'.1) :
    ms.foldl (fun ms m => insertMember m.1 m.2 ms) before = before ++ ms := by
  induction ms generalizing before with
  | nil => rw [List.foldl_nil, List.append_nil]
  | cons m ms ih =>
    have hlt : ∀ m' ∈ before, m'.1 < m.1 := fun m' hm' =>
      (List.pairwise_append.1 h).2.2 m' hm' m (by simp)
    rw [List.foldl_cons, insertMember_of_lt hlt, ih (by simpa using h), List.append_assoc,
      List.singleton_append]

theorem ofMembers_of_pairwise {ms : List (String × Json)}
    (h : ms.Pairwise fun m m' => m.1 < m'.1) : ofMembers ms = object ms :=
  congrArg object (foldl_insertMember h)

theorem Ordered.canonical_eq {v : Json} (h : v.Ordered) : v.canonical = v := by
  induction h with
  | null | bool | int | decimal | string => rfl
  | @array items _ ih =>
    have hitems : items.map canonical = items := (List.map_congr_left ih).trans items.map_id'
    rw [canonical, canonicalAll_eq, hitems]
  | @object members hkeys _ ih =>
    have hmember : ∀ m ∈ members, (m.1, m.2.canonical) = m := fun m hm => Prod.ext rfl (ih m hm)
    have hmembers : members.map (fun m => (m.1, m.2.canonical)) = members :=
      (List.map_congr_left hmember).trans members.map_id'
    rw [canonical, canonicalMembers_eq, hmembers, ofMembers_of_pairwise hkeys]

abbrev Lexeme := TokenType × String

def comma : Lexeme := (.comma, ",")

mutual

def lexemes : Json → List Lexeme
  | null => [(.null, "null")]
  | bool true => [(.boolean, "true")]
  | bool false => [(.boolean, "false")]
  | int n => [(.int, toString n)]
  | decimal text => [(.decimal, text)]
  | string s => [(.string, inQuotes s)]
  | array items =>
    (.openBracket, "[") :: [comma].intercalate (lexemesAll items) ++ [(.closeBracket, "]")]
  | object members =>
    (.openBrace, "\x7b") :: [comma].intercalate (lexemesMembers members) ++ [(.closeBrace, "\x7d")]

def lexemesAll : List Json → List (List Lexeme)
  | [] => []
  | v :: vs => v.lexemes :: lexemesAll vs

def lexemesMembers : List (String × Json) → List (List Lexeme)
  | [] => []
  | (k, v) :: ms => ((.string, inQuotes k) :: (.colon, ":") :: v.lexemes) :: lexemesMembers ms

end

theorem lexemesAll_eq (items : List Json) : lexemesAll items = items.map lexemes := by
  induction items with
  | nil => rfl
  | cons v vs ih => rw [lexemesAll, ih, List.map_cons]

def memberLexemes (m : String × Json) : List Lexeme :=
  (.string, inQuotes m.1) :: (.colon, ":") :: m.2.lexemes

theorem lexemesMembers_eq (members : List (String × Json)) :
    lexemesMembers members = members.map memberLexemes := by
  induction members with
  | nil => rfl
  | cons m ms ih => rw [lexemesMembers, ih, List.map_cons, memberLexemes]

end Parsing.Json
