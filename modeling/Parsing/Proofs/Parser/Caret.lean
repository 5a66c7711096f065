import Parsing.Parser.Diagnostics
import Parsing.Proofs.Lexer.Positions

/-!
The line shown for a position and the caret below it. The line is cut out of the source at newlines
alone, so the caret is off where the lexer has counted a line break without a newline on it.
-/

namespace Parsing

theorem extractLine?_eq_some {source : String} {p : Position} {before after line : List Char}
    (hsource : source.toList = before ++ after) (hoffset : byteLength before = p.offset)
    (hline : IsLastLine line before) :
    extractLine? source p =
      some (String.ofList (trimReturns (line ++ after.takeWhile (· ≠ '\n')))) := by
  rw [extractLine?, lineAt?, hsource, ← hoffset, splitAtOffset?_append, ← hline.lastLine_eq]
  rfl

theorem prefix_trimReturns {c : Char} (hc : c ≠ '\r') (front back : List Char) :
    front ++ [c] <+: trimReturns (front ++ c :: back) := by
  obtain ⟨rest, hrest⟩ : ∃ rest, (front ++ c :: back).reverse.dropWhile (· = '\r') =
      rest ++ c :: front.reverse := by
    rw [List.reverse_append, List.reverse_cons, List.append_assoc, List.dropWhile_append]
    split
    · exact ⟨[], by simp [hc]⟩
    · exact ⟨_, rfl⟩
  exact ⟨rest.reverse, by rw [trimReturns, hrest]; simp⟩

theorem getElem?_trimReturns {c : Char} {line after : List Char} (hc : isLineTerminator c = false)
    (hafter : after.head? = some c) :
    (trimReturns (line ++ after.takeWhile (· ≠ '\n')))[line.length]? = some c := by
  obtain ⟨hnewline, hreturn⟩ : c ≠ '\n' ∧ c ≠ '\r' := by simpa [isLineTerminator] using hc
  obtain ⟨back, rfl⟩ := List.head?_eq_some_iff.1 hafter
  rw [List.takeWhile_cons_of_pos (by simpa using hnewline)]
  obtain ⟨rest, hrest⟩ := prefix_trimReturns hreturn line (back.takeWhile (· ≠ '\n'))
  rw [← hrest]
  simp

theorem length_le_byteLength (cs : List Char) : cs.length ≤ byteLength cs := by
  induction cs with
  | nil => exact Nat.le_refl _
  | cons c cs ih =>
    have := c.utf8Size_pos
    rw [List.length_cons, byteLength_cons]
    omega

namespace Lexer

variable {K : Type} [TokenKind K] {L : Lexer K} {source : String} {p : Position}

def BreaksOnLine (L : Lexer K) (source : String) (p : Position) : Prop :=
  ∃ front, front <+: (L.cut source.toList).segments ∧ Segment.positionAfter .start front = p ∧
    Segment.BreaksLastLine front

theorem Reports.exists_append (h : L.Reports source p) :
    ∃ before after, source.toList = before ++ after ∧ byteLength before = p.offset := by
  obtain ⟨front, hfront, rfl⟩ := h.exists_front
  obtain ⟨after, hafter⟩ := front_of_segments hfront
  exact ⟨_, after, hafter.symm, (Segment.offset_after_start front).symm⟩

theorem Reports.column_eq_iff (h : L.Reports source p) (hsize : source.utf8ByteSize < 2 ^ 32)
    {before after line : List Char} (hsource : source.toList = before ++ after)
    (hoffset : byteLength before = p.offset) (hline : IsLastLine line before) :
    p.column = line.length ↔ ¬ L.BreaksOnLine source p := by
  have htexts : ∀ front, front <+: (L.cut source.toList).segments →
      Segment.positionAfter .start front = p → front.flatMap (·.text) = before := by
    intro front hfront hp
    refine eq_of_byteLength_eq (front_of_segments hfront) ⟨after, hsource.symm⟩ ?_
    rw [hoffset, ← hp, Segment.offset_after_start]
  constructor
  · rintro hcolumn ⟨front, hfront, hp, hbreaks⟩
    have hlt := Segment.column_lt_of_breaksLastLine hbreaks fun s hs =>
      text_ne_nil_of_mem_cut L _ s (hfront.subset hs)
    rw [htexts front hfront hp, hline.lastLine_eq, hp] at hlt
    omega
  · intro hbreaks
    obtain ⟨front, hfront, hp⟩ := h.exists_front
    have hle : line.length ≤ Position.limit := by
      have hlines := Position.length_lastLine_le before
      have hbytes := length_le_byteLength before
      rw [hline.lastLine_eq] at hlines
      rw [← byteLength_toList, hsource, byteLength_append] at hsize
      simp only [Position.limit]
      omega
    have hlast : ¬ Segment.BreaksLastLine front := fun hlast =>
      hbreaks ⟨front, hfront, hp.symm, hlast⟩
    have hcolumn := Segment.column_positionAfter hlast
    rw [htexts front hfront hp.symm, hline.lastLine_eq, ← hp] at hcolumn
    exact hcolumn.trans (Position.capped_of_le hle)

end Lexer

/-- Each reported position is shown on the line between the newlines around it. Its column is the
number of characters on that line before it, with the caret under the character there, unless the
lexer has counted a line break without a newline among them. -/
theorem caret_under_offset_iff {K : Type} [TokenKind K] {L : Lexer K} {source : String}
    (hsize : source.utf8ByteSize < 2 ^ 32) {p : Position} (h : L.Reports source p) :
    ∃ before after line shown, source.toList = before ++ after ∧ byteLength before = p.offset ∧
      IsLastLine line before ∧ extractLine? source p = some shown ∧
      shown.toList = trimReturns (line ++ after.takeWhile (· ≠ '\n')) ∧
      (∀ e : ParseError K, e.position? = some p →
        e.describeIn source = e.message ++ pointAt shown p) ∧
      (p.column = line.length ↔ ¬ L.BreaksOnLine source p) ∧
      (¬ L.BreaksOnLine source p → ∀ c ∈ after.head?, isLineTerminator c = false →
        shown.toList[p.column]? = some c) := by
  obtain ⟨before, after, hsource, hoffset⟩ := h.exists_append
  have hline := Position.isLastLine_lastLine before
  have hshown := extractLine?_eq_some hsource hoffset hline
  have hcolumn := h.column_eq_iff hsize hsource hoffset hline
  refine ⟨before, after, _, _, hsource, hoffset, hline, hshown, String.toList_ofList,
    fun e he => ?_, hcolumn, fun hbreaks c hafter hc => ?_⟩
  · simp only [ParseError.describeIn, he, hshown]
  · rw [hcolumn.2 hbreaks, String.toList_ofList]
    exact getElem?_trimReturns hc hafter

namespace Sheet

theorem reports_question : lexer.Reports "1\r2\n:?" ⟨2, 1, 5⟩ := by
  have herror : lexer.tokenize "1\r2\n:?" = .error ⟨⟨2, 1, 5⟩, .unexpectedChar '?'⟩ := by
    decide +kernel
  exact .error herror

theorem caret_under_question :
    "1\r2\n:?".utf8ByteSize < 2 ^ 32 ∧ lexer.Reports "1\r2\n:?" ⟨2, 1, 5⟩ ∧
      extractLine? "1\r2\n:?" ⟨2, 1, 5⟩ = some ":?" ∧
      ¬ lexer.BreaksOnLine "1\r2\n:?" ⟨2, 1, 5⟩ := by
  have hsize : "1\r2\n:?".utf8ByteSize < 2 ^ 32 := by decide
  have hshown : extractLine? "1\r2\n:?" ⟨2, 1, 5⟩ = some ":?" := by decide +kernel
  obtain ⟨before, after, line, shown, hsource, hoffset, hline, -, -, -, hcolumn, -⟩ :=
    caret_under_offset_iff hsize reports_question
  refine ⟨hsize, reports_question, hshown, hcolumn.1 ?_⟩
  have hbefore : before = "1\r2\n:".toList :=
    eq_of_byteLength_eq ⟨after, hsource.symm⟩ ⟨['?'], by decide⟩ hoffset
  rw [← hline.lastLine_eq, hbefore]
  decide

/-- The carriage return ends a line for the lexer, yet the line shown goes over it. -/
theorem caret_misses_question :
    Lexer.build vocabulary (some .cStyle) = .ok lexer ∧ "1\r?".utf8ByteSize < 2 ^ 32 ∧
      lexer.tokenize "1\r?" = .error ⟨⟨1, 0, 2⟩, .unexpectedChar '?'⟩ ∧
      extractLine? "1\r?" ⟨1, 0, 2⟩ = some "1\r?" ∧
      (ParseError.lexical ⟨⟨1, 0, 2⟩, .unexpectedChar '?'⟩ : ParseError Json.TokenType).describeIn
        "1\r?" = "unexpected character '?' at line 2, column 1\n  |\n2 | 1\r?\n  | ^" ∧
      lexer.BreaksOnLine "1\r?" ⟨1, 0, 2⟩ ∧
      ∀ before after line, "1\r?".toList = before ++ after → byteLength before = 2 →
        IsLastLine line before → (⟨1, 0, 2⟩ : Position).column ≠ line.length := by
  have htokens : lexer.tokenize "1\r?" = .error ⟨⟨1, 0, 2⟩, .unexpectedChar '?'⟩ := by
    decide +kernel
  have hcut : (lexer.cut "1\r?".toList).segments = [⟨some (.token .int "[0-9]"), ['1']⟩,
      ⟨some (.lineBreaking .lineEnd "[\r\n]"), ['\r']⟩] := by decide +kernel
  have hbreaks : lexer.BreaksOnLine "1\r?" ⟨1, 0, 2⟩ := by
    rw [Lexer.BreaksOnLine, hcut]
    exact ⟨_, List.prefix_rfl, by decide, [_], _, [], rfl, by decide, by decide⟩
  have hshown : extractLine? "1\r?" ⟨1, 0, 2⟩ = some "1\r?" := by decide +kernel
  refine ⟨build_vocabulary, by decide, htokens, hshown, ?_, hbreaks, ?_⟩
  · simp only [ParseError.describeIn, ParseError.position?, hshown]
    rfl
  · intro before after line hsource hoffset hline
    have hbefore : before = "1\r".toList :=
      eq_of_byteLength_eq ⟨after, hsource.symm⟩ ⟨['?'], by decide⟩ hoffset
    rw [← hline.lastLine_eq, hbefore]
    decide

end Sheet

end Parsing
