import Mathlib.Data.List.DropRight
import Parsing.Proofs.Parser.Caret

namespace Parsing

section

variable {α : Type} [DecidableEq α] {a : α}

theorem length_splitOn (xs : List α) : (xs.splitOn a).length = xs.count a + 1 := by
  induction xs with
  | nil => rfl
  | cons x xs ih =>
    rw [List.splitOn_cons_eq_if_modifyHead, List.count_cons]
    split
    · rw [List.length_cons, ih]
    · rw [List.length_modifyHead, ih, Nat.add_zero]

theorem not_mem_append_takeWhile {line : List α} (hline : a ∉ line) (after : List α) :
    a ∉ line ++ after.takeWhile (· ≠ a) := by
  rw [List.mem_append, not_or]
  exact ⟨hline, fun h => by simpa using List.mem_takeWhile_imp h⟩

theorem getElem?_zero_splitOn {line : List α} (hline : a ∉ line) (after : List α) :
    ((line ++ after).splitOn a)[0]? = some (line ++ after.takeWhile (· ≠ a)) := by
  have hfirst := not_mem_append_takeWhile hline after
  by_cases h : a ∈ after
  · obtain ⟨front, rest, rfl, hfront⟩ := List.eq_append_cons_of_mem h
    have hne : ∀ b ∈ front, decide (b ≠ a) = true :=
      fun b hb => by simpa using ne_of_mem_of_not_mem hb hfront
    have hfront' : (front ++ a :: rest).takeWhile (· ≠ a) = front := by
      rw [List.takeWhile_append_of_pos hne]
      simp
    rw [hfront'] at hfirst ⊢
    rw [← List.append_assoc, List.splitOn_append_cons_self_of_not_mem hfirst,
      List.getElem?_cons_zero]
  · have hne : ∀ b ∈ after, decide (b ≠ a) = true :=
      fun b hb => by simpa using ne_of_mem_of_not_mem hb h
    rw [List.takeWhile_eq_self_iff.2 hne] at hfirst ⊢
    rw [List.splitOn_eq_singleton hfirst, List.getElem?_cons_zero]

end

def InsideCharacter (source : List Char) (offset : Nat) : Prop :=
  ∃ before c after, source = before ++ c :: after ∧ byteLength before < offset ∧
    offset < byteLength before + c.utf8Size

structure SplitsAt (before after source : List Char) (offset : Nat) : Prop where
  source_eq : source = before ++ after
  byteLength_eq : byteLength before = min offset (byteLength source)

variable {before after cs : List Char} {o : Nat}

theorem InsideCharacter.cons {c : Char} (h : InsideCharacter cs o) :
    InsideCharacter (c :: cs) (o + c.utf8Size) := by
  obtain ⟨before, d, after, rfl, hstart, hend⟩ := h
  refine ⟨c :: before, d, after, rfl, ?_, ?_⟩ <;> rw [byteLength_cons] <;> omega

theorem SplitsAt.not_inside (h : SplitsAt before after cs o) : ¬ InsideCharacter cs o := by
  rintro ⟨front, c, back, hcs, hstart, hend⟩
  have hlength := h.byteLength_eq
  have hbytes : byteLength cs = byteLength front + (c.utf8Size + byteLength back) := by
    rw [hcs, byteLength_append, byteLength_cons]
  rw [Nat.min_eq_left (by omega)] at hlength
  have hprefix : before <+: cs := ⟨after, h.source_eq.symm⟩
  rcases List.prefix_or_prefix_of_prefix hprefix ⟨c :: back, hcs.symm⟩ with hle | hle
  · obtain ⟨more, rfl⟩ := hle
    rw [byteLength_append] at hstart
    omega
  · -- The split is behind the character, as it is not in front of it.
    obtain ⟨more, rfl⟩ := hle
    have hrest : more ++ after = c :: back := by
      have := h.source_eq.symm.trans hcs
      rwa [List.append_assoc, List.append_cancel_left_eq] at this
    rw [byteLength_append] at hlength
    cases more with
    | nil => simp at hlength; omega
    | cons d more =>
      obtain ⟨rfl, -⟩ := List.cons_eq_cons.1 hrest
      rw [byteLength_cons] at hlength
      omega

theorem insideCharacter_min :
    InsideCharacter cs (min o (byteLength cs)) ↔ InsideCharacter cs o := by
  constructor <;> rintro ⟨before, c, after, rfl, hstart, hend⟩ <;>
    refine ⟨before, c, after, rfl, ?_, ?_⟩ <;>
    rw [byteLength_append, byteLength_cons] at * <;> omega

theorem splitAtOffset?_cases (o : Nat) (cs : List Char) :
    (∃ before after, splitAtOffset? o cs = some (before, after) ∧ SplitsAt before after cs o) ∨
      splitAtOffset? o cs = none ∧ InsideCharacter cs o := by
  fun_induction splitAtOffset? o cs with
  | case1 cs => exact .inl ⟨[], cs, rfl, rfl, by simp⟩
  | case2 o => exact .inl ⟨[], [], rfl, rfl, by simp⟩
  | case3 n c cs hle ih =>
    rcases ih with ⟨before, after, heq, hsplit⟩ | ⟨heq, hinside⟩
    · refine .inl ⟨c :: before, after, by rw [heq]; rfl, by rw [hsplit.source_eq]; rfl, ?_⟩
      rw [byteLength_cons, byteLength_cons, hsplit.byteLength_eq]
      omega
    · refine .inr ⟨by rw [heq]; rfl, ?_⟩
      have := hinside.cons (c := c)
      rwa [Nat.sub_add_cancel hle] at this
  | case4 n c cs hlt =>
    exact .inr ⟨rfl, [], c, cs, rfl, by simp, by simpa using hlt⟩

theorem splitAtOffset?_eq_none : splitAtOffset? o cs = none ↔ InsideCharacter cs o := by
  rcases splitAtOffset?_cases o cs with ⟨before, after, heq, hsplit⟩ | ⟨heq, hinside⟩
  · simp [heq, hsplit.not_inside]
  · simp [heq, hinside]

theorem splitsAt_of_splitAtOffset? (h : splitAtOffset? o cs = some (before, after)) :
    SplitsAt before after cs o := by
  rcases splitAtOffset?_cases o cs with ⟨_, _, heq, hsplit⟩ | ⟨heq, -⟩
  · rw [h] at heq
    cases heq
    exact hsplit
  · rw [h] at heq
    cases heq

theorem IsLastLine.getElem?_splitOn {line : List Char} (h : IsLastLine line before)
    (after : List Char) :
    ((before ++ after).splitOn '\n')[before.count '\n']? =
      some (line ++ after.takeWhile (· ≠ '\n')) := by
  have hfirst := getElem?_zero_splitOn h.newline_not_mem after
  obtain rfl | ⟨above, rfl⟩ := h.eq_append
  · rwa [List.count_eq_zero_of_not_mem h.newline_not_mem]
  · have hcount : (above ++ '\n' :: line).count '\n' = (above.splitOn '\n').length := by
      rw [length_splitOn, List.count_append, List.count_cons_self,
        List.count_eq_zero_of_not_mem h.newline_not_mem]
    rw [List.append_assoc, List.cons_append, List.splitOn_append_cons_self, hcount,
      List.getElem?_append_right (Nat.le_refl _), Nat.sub_self, hfirst]

/-- There is no line just inside of a character. Anywhere else the newlines before the offset give
the number of the line among the pieces between newlines, and what is shown is that piece without
the carriage returns at its end. On a newline it is the line that the newline ends. -/
theorem extractLine?_is_numbered_piece (source : String) (p : Position) :
    (extractLine? source p = none ↔
      InsideCharacter source.toList (min p.offset source.utf8ByteSize)) ∧
    ∀ shown, extractLine? source p = some shown → ∃ before after piece,
      source.toList = before ++ after ∧
      byteLength before = min p.offset source.utf8ByteSize ∧
      (source.toList.splitOn '\n')[before.count '\n']? = some piece ∧
      shown.toList = piece.rdropWhile (· = '\r') ∧
      '\n' ∉ shown.toList ∧
      (after.head? = some '\n' → IsLastLine piece before) := by
  have hsize : byteLength source.toList = source.utf8ByteSize := byteLength_toList source
  refine ⟨?_, fun shown h => ?_⟩
  · rw [extractLine?, lineAt?, Option.map_map, Option.map_eq_none_iff, splitAtOffset?_eq_none]
    exact hsize ▸ insideCharacter_min.symm
  · obtain ⟨_, hline, rfl⟩ := Option.map_eq_some_iff.1 h
    obtain ⟨⟨before, after⟩, hsplit, rfl⟩ := Option.map_eq_some_iff.1 hline
    have hsplits := splitsAt_of_splitAtOffset? hsplit
    have hlast := Position.isLastLine_lastLine before
    refine ⟨before, after, _, hsplits.source_eq, hsize ▸ hsplits.byteLength_eq, ?_,
      String.toList_ofList, ?_, fun hnewline => ?_⟩
    · rw [hsplits.source_eq]
      exact hlast.getElem?_splitOn after
    · rw [String.toList_ofList]
      exact fun hmem => not_mem_append_takeWhile hlast.newline_not_mem after
        ((List.rdropWhile_prefix (· = '\r') _).subset hmem)
    · obtain ⟨rest, rfl⟩ := List.head?_eq_some_iff.1 hnewline
      simpa using hlast

theorem lines_of_returns :
    extractLine? "a\né\r\n" ⟨0, 0, 3⟩ = none ∧
      extractLine? "a\né\r\n" ⟨0, 0, 5⟩ = some "é" ∧
      ("a\né\r\n".toList.splitOn '\n')[1]? = some ['é', '\r'] := by
  have hnone := (extractLine?_is_numbered_piece "a\né\r\n" ⟨0, 0, 3⟩).1
  have hshown : extractLine? "a\né\r\n" ⟨0, 0, 5⟩ = some "é" := by decide +kernel
  refine ⟨hnone.2 ⟨['a', '\n'], 'é', ['\r', '\n'], by decide⟩, hshown, ?_⟩
  obtain ⟨before, after, piece, hsource, hlength, hpiece, -, -, hends⟩ :=
    (extractLine?_is_numbered_piece "a\né\r\n" ⟨0, 0, 5⟩).2 _ hshown
  have hbefore : before = "a\né\r".toList :=
    eq_of_byteLength_eq ⟨after, hsource.symm⟩ ⟨['\n'], by decide⟩ hlength
  subst hbefore
  have hafter : after = ['\n'] := by simpa using hsource.symm
  rw [hafter] at hends
  exact hpiece.trans (by rw [← (hends rfl).lastLine_eq]; decide)

end Parsing
