import Parsing.Proofs.Lexer.Cutting
import Parsing.Text.Bytes

/-!
The bytes of a text in UTF-8. A character begins with a byte that stands nowhere else in a
character, so a word is found in the bytes of a text just where it stands in the text.
-/

namespace Parsing

theorem drop_utf8_cons {c : Char} {cs : List Char} {n : Nat} (h : c.utf8Size ≤ n) :
    (utf8 (c :: cs)).drop n = (utf8 cs).drop (n - c.utf8Size) := by
  rw [← String.length_utf8EncodeChar] at h
  rw [utf8_cons, List.drop_append, List.drop_eq_nil_of_le h, List.nil_append,
    String.length_utf8EncodeChar]

theorem isUTF8FirstByte_iff {c : Char} (cs : List Char) {n : Nat} (h : n < c.utf8Size) :
    ∃ b, (utf8 (c :: cs))[n]? = some b ∧ (b.IsUTF8FirstByte ↔ n = 0) := by
  have hn : n < (String.utf8EncodeChar c).length := by rwa [String.length_utf8EncodeChar]
  refine ⟨(String.utf8EncodeChar c)[n], ?_, UInt8.isUTF8FirstByte_getElem_utf8EncodeChar⟩
  rw [utf8_cons, List.getElem?_append_left hn, List.getElem?_eq_getElem hn]

theorem isPrefix_of_utf8 {word text : List Char} (h : utf8 word <+: utf8 text) :
    word <+: text := by
  obtain ⟨more, hmore⟩ := h
  refine List.isPrefix_of_utf8Encode_append_eq_utf8Encode more.toByteArray ?_
  change (utf8 word).toByteArray ++ more.toByteArray = (utf8 text).toByteArray
  rw [← hmore, List.toByteArray_append]

theorem utf8_prefix_iff {word text : List Char} : utf8 word <+: utf8 text ↔ word <+: text := by
  refine ⟨isPrefix_of_utf8, ?_⟩
  rintro ⟨more, rfl⟩
  exact utf8_append word more ▸ List.prefix_append _ _

theorem isPrefixOf_utf8 (word text : List Char) :
    (utf8 word).isPrefixOf (utf8 text) = word.isPrefixOf text := by
  rw [Bool.eq_iff_iff, List.isPrefixOf_iff_prefix, List.isPrefixOf_iff_prefix, utf8_prefix_iff]

theorem eq_zero_of_utf8_prefix_drop {c d : Char} {word more : List Char} {n : Nat}
    (hn : n < c.utf8Size) (h : utf8 (d :: word) <+: (utf8 (c :: more)).drop n) : n = 0 := by
  -- Whether a byte is the first of a character shows in the byte alone.
  obtain ⟨b, hb, hinside⟩ := isUTF8FirstByte_iff more hn
  obtain ⟨a, ha, hfirst⟩ := isUTF8FirstByte_iff word d.utf8Size_pos
  have hget : ((utf8 (c :: more)).drop n)[0]? = some a := by
    obtain ⟨rest, hrest⟩ := h
    rw [← hrest, List.getElem?_append_left (List.getElem?_eq_some_iff.1 ha).1, ha]
  rw [List.getElem?_drop, Nat.add_zero, hb] at hget
  obtain rfl := Option.some.inj hget
  exact hinside.1 (hfirst.2 rfl)

theorem exists_before_of_utf8_prefix_drop {word text : List Char} (hword : word ≠ []) {n : Nat}
    (h : utf8 word <+: (utf8 text).drop n) :
    ∃ before, before ++ word <+: text ∧ byteLength before = n := by
  obtain ⟨d, word, rfl⟩ := List.exists_cons_of_ne_nil hword
  induction text generalizing n with
  | nil => simp [String.utf8EncodeChar_ne_nil] at h
  | cons c cs ih =>
    by_cases hn : n < c.utf8Size
    · obtain rfl := eq_zero_of_utf8_prefix_drop hn h
      exact ⟨[], isPrefix_of_utf8 h, rfl⟩
    · rw [drop_utf8_cons (Nat.le_of_not_lt hn)] at h
      obtain ⟨before, hbefore, hlength⟩ := ih h
      refine ⟨c :: before, List.cons_prefix_cons.2 ⟨rfl, hbefore⟩, ?_⟩
      rw [byteLength_cons]
      omega

theorem utf8_prefix_drop_of_prefix {before word text : List Char} (h : before ++ word <+: text) :
    utf8 word <+: (utf8 text).drop (byteLength before) := by
  obtain ⟨after, rfl⟩ := h
  rw [← length_utf8, List.append_assoc, utf8_append, List.drop_left, utf8_append]
  exact List.prefix_append _ _

theorem bytesBefore?_eq_some {word bytes : List UInt8} {n : Nat} :
    bytesBefore? word bytes = some n ↔
      n ≤ bytes.length ∧ word <+: bytes.drop n ∧ ∀ m < n, ¬ word <+: bytes.drop m := by
  simp only [bytesBefore?, List.findIdx?_eq_some_iff_getElem, List.getElem_tails, List.length_tails,
    List.isPrefixOf_iff_prefix, Nat.lt_succ_iff, exists_prop]

theorem bytesBefore?_eq_none {word bytes : List UInt8} (h : ∀ m, ¬ word <+: bytes.drop m) :
    bytesBefore? word bytes = none := by
  refine List.findIdx?_eq_none_iff.2 fun tail htail => ?_
  rw [List.mem_tails, List.suffix_iff_eq_drop] at htail
  rw [htail, Bool.eq_false_iff, ne_eq, List.isPrefixOf_iff_prefix]
  exact h _

theorem bytesBefore?_utf8 {word : List Char} (hword : word ≠ []) (text : List Char) :
    bytesBefore? (utf8 word) (utf8 text) =
      (lengthBefore? word text).map fun n => byteLength (text.take n) := by
  cases hn : lengthBefore? word text with
  | none =>
    refine bytesBefore?_eq_none fun m hm => ?_
    obtain ⟨before, hbefore, -⟩ := exists_before_of_utf8_prefix_drop hword hm
    exact not_prefix_of_lengthBefore? hn before hbefore
  | some n =>
    obtain ⟨before, hgoes, rfl⟩ := goesUpTo_of_lengthBefore? hn
    have hfront : before <+: text := (List.prefix_append before word).trans hgoes.stands
    rw [Option.map_some, ← List.prefix_iff_eq_take.1 hfront]
    refine bytesBefore?_eq_some.2 ⟨?_, utf8_prefix_drop_of_prefix hgoes.stands, fun m hm h => ?_⟩
    · rw [← length_utf8]
      exact (utf8_prefix_iff.2 hfront).length_le
    · -- The word stands at an earlier place of the text as well.
      obtain ⟨earlier, hearlier, rfl⟩ := exists_before_of_utf8_prefix_drop hword h
      have hle : before <+: earlier := by
        refine List.prefix_of_prefix_length_le hfront ?_ (hgoes.first _ hearlier)
        exact (List.prefix_append earlier word).trans hearlier
      have hlength := (utf8_prefix_iff.2 hle).length_le
      rw [length_utf8, length_utf8] at hlength
      omega

theorem mem_utf8 {a : Char} {b : UInt8} (ha : String.utf8EncodeChar a = [b]) {cs : List Char} :
    b ∈ utf8 cs ↔ a ∈ cs := by
  constructor
  · intro hb
    obtain ⟨before, after, hcs⟩ := List.append_of_mem hb
    have hdrop : utf8 [a] <+: (utf8 cs).drop before.length := by
      rw [hcs, List.drop_left, utf8_cons, ha]
      exact List.prefix_append [b] after
    obtain ⟨front, hfront, -⟩ := exists_before_of_utf8_prefix_drop (List.cons_ne_nil a []) hdrop
    exact hfront.subset (by simp)
  · intro h
    exact List.mem_flatMap.2 ⟨a, h, ha ▸ List.mem_singleton_self b⟩

end Parsing
