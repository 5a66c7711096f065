import Mathlib.Data.List.Induction
import Mathlib.Data.List.Infix
import Parsing.Proofs.Lexer.Tokens

namespace Parsing

structure IsLastLine (line before : List Char) : Prop where
  newline_not_mem : '\n' ∉ line
  eq_append : before = line ∨ ∃ above, before = above ++ '\n' :: line

namespace IsLastLine

variable {line before text : List Char}

theorem lastLine_eq (h : IsLastLine line before) : Position.lastLine before = line := by
  have hline : ∀ c ∈ line.reverse, decide (c ≠ '\n') = true := by
    intro c hc
    simpa using fun heq : c = '\n' => h.newline_not_mem (heq ▸ List.mem_reverse.1 hc)
  rw [Position.lastLine, List.reverse_eq_iff]
  obtain rfl | ⟨above, rfl⟩ := h.eq_append
  · exact List.takeWhile_eq_self_iff.2 hline
  · rw [List.reverse_append, List.reverse_cons, List.append_assoc,
      List.takeWhile_append_of_pos hline]
    simp

theorem append_of_mem (h : '\n' ∈ text) : ∃ line, ∀ before, IsLastLine line (before ++ text) := by
  -- The last newline is the first one from behind.
  obtain ⟨line, above, htext, hline⟩ := List.eq_append_cons_of_mem (List.mem_reverse.2 h)
  rw [List.reverse_eq_iff, List.reverse_append, List.reverse_cons, List.append_assoc] at htext
  refine ⟨line.reverse, fun before => ⟨by simpa using hline, .inr ⟨before ++ above.reverse, ?_⟩⟩⟩
  rw [htext, List.append_assoc]
  rfl

theorem append_of_not_mem (h : IsLastLine line before) (hnot : '\n' ∉ text) :
    IsLastLine (line ++ text) (before ++ text) := by
  refine ⟨by simp [h.newline_not_mem, hnot], ?_⟩
  obtain rfl | ⟨above, rfl⟩ := h.eq_append
  · exact .inl rfl
  · exact .inr ⟨above, by simp⟩

end IsLastLine

namespace Position

variable {before text : List Char}

theorem isLastLine_lastLine (before : List Char) : IsLastLine (lastLine before) before := by
  by_cases h : '\n' ∈ before
  · obtain ⟨line, hline⟩ := IsLastLine.append_of_mem h
    have := hline []
    rwa [List.nil_append, ← this.lastLine_eq] at this
  · have : IsLastLine before before := ⟨h, .inl rfl⟩
    rwa [this.lastLine_eq]

theorem lastLine_append_of_mem (h : '\n' ∈ text) : lastLine (before ++ text) = lastLine text := by
  obtain ⟨line, hline⟩ := IsLastLine.append_of_mem h
  rw [(hline before).lastLine_eq]
  exact (hline []).lastLine_eq.symm

theorem lastLine_append_of_not_mem (h : '\n' ∉ text) :
    lastLine (before ++ text) = lastLine before ++ text :=
  ((isLastLine_lastLine before).append_of_not_mem h).lastLine_eq

theorem capped_capped_add (m n : Nat) : capped (capped m + n) = capped (m + n) := by
  simp only [capped]
  omega

theorem capped_le (n : Nat) : capped n ≤ n := Nat.min_le_left _ _

theorem capped_of_le {n : Nat} (h : n ≤ limit) : capped n = n := Nat.min_eq_left h

theorem line_advance {p : Position} (hp : p.line ≤ limit) (text : List Char) (breaks : Bool) :
    (p.advance text breaks).line =
      capped (p.line + text.count '\n' + (breaks && '\n' ∉ text).toNat) := by
  simp only [advance]
  split
  · next h => simp [h]
  · next h =>
    rw [List.count_eq_zero.2 h]
    cases breaks
    · simpa [h] using (capped_of_le hp).symm
    · simp [h]

theorem line_advance_le {p : Position} (hp : p.line ≤ limit) (text : List Char) (breaks : Bool) :
    (p.advance text breaks).line ≤ limit := by
  rw [line_advance hp]
  exact Nat.min_le_right _ _

theorem column_advance_of_mem {p : Position} {breaks : Bool} (h : '\n' ∈ text) :
    (p.advance text breaks).column = capped (lastLine text).length := by
  simp [advance, h]

theorem column_advance_of_not_mem {p : Position} (h : '\n' ∉ text) :
    (p.advance text false).column = capped (p.column + text.length) := by
  simp [advance, h]

theorem column_advance_of_breaks {p : Position} (h : '\n' ∉ text) :
    (p.advance text true).column = 0 := by
  simp [advance, h]

theorem length_lastLine_le (text : List Char) : (lastLine text).length ≤ text.length := by
  rw [lastLine, List.length_reverse]
  exact (List.takeWhile_prefix _).length_le.trans_eq List.length_reverse

theorem column_advance_le (p : Position) (text : List Char) (breaks : Bool) :
    (p.advance text breaks).column ≤ p.column + text.length := by
  by_cases h : '\n' ∈ text
  · rw [column_advance_of_mem h]
    exact (capped_le _).trans ((length_lastLine_le text).trans (Nat.le_add_left _ _))
  · cases breaks with
    | false => exact column_advance_of_not_mem h ▸ capped_le _
    | true => exact column_advance_of_breaks h ▸ Nat.zero_le _

end Position

namespace Segment

variable {K : Type}

def isBareBreak (s : Segment K) : Bool := s.isLineBreak && '\n' ∉ s.text

def BreaksLastLine (ss : List (Segment K)) : Prop :=
  ∃ above s below, ss = above ++ s :: below ∧ s.isBareBreak = true ∧
    '\n' ∉ below.flatMap (·.text)

variable {s : Segment K} {ss : List (Segment K)}

theorem isBareBreak_iff : s.isBareBreak = true ↔ s.isLineBreak = true ∧ '\n' ∉ s.text := by
  simp [isBareBreak]

theorem positionAfter_cons (p : Position) (s : Segment K) (ss : List (Segment K)) :
    positionAfter p (s :: ss) = positionAfter (advance p s) ss := rfl

theorem positionAfter_append (p : Position) (ss more : List (Segment K)) :
    positionAfter p (ss ++ more) = positionAfter (positionAfter p ss) more :=
  List.foldl_append

theorem offset_after_start (ss : List (Segment K)) :
    (positionAfter .start ss).offset = byteLength (ss.flatMap (·.text)) := by
  rw [offset_positionAfter]
  exact Nat.zero_add _

theorem line_positionAfter {p : Position} (hp : p.line ≤ Position.limit) (ss : List (Segment K)) :
    (positionAfter p ss).line =
      Position.capped (p.line + (ss.flatMap (·.text)).count '\n' + ss.countP isBareBreak) := by
  induction ss generalizing p with
  | nil => exact (Position.capped_of_le hp).symm
  | cons s ss ih =>
    have hs : (advance p s).line ≤ Position.limit := Position.line_advance_le hp _ _
    calc (positionAfter p (s :: ss)).line
      _ = Position.capped ((advance p s).line + (ss.flatMap (·.text)).count '\n' +
          ss.countP isBareBreak) := by rw [positionAfter_cons, ih hs]
      _ = Position.capped (p.line + s.text.count '\n' + s.isBareBreak.toNat +
          ((ss.flatMap (·.text)).count '\n' + ss.countP isBareBreak)) := by
        rw [advance, Position.line_advance hp, Nat.add_assoc, Position.capped_capped_add]
        rfl
      _ = Position.capped (p.line + ((s :: ss).flatMap (·.text)).count '\n' +
          (s :: ss).countP isBareBreak) := by
        have hbare : (if s.isBareBreak = true then 1 else 0) = s.isBareBreak.toNat := by
          cases s.isBareBreak <;> rfl
        rw [List.flatMap_cons, List.count_append, List.countP_cons, hbare]
        congr 1
        omega

theorem column_positionAfter (h : ¬ BreaksLastLine ss) :
    (positionAfter .start ss).column =
      Position.capped (Position.lastLine (ss.flatMap (·.text))).length := by
  induction ss using List.reverseRecOn with
  | nil => rfl
  | append_singleton ss s ih =>
    have hcolumn : (positionAfter .start (ss ++ [s])).column =
        ((positionAfter .start ss).advance s.text s.isLineBreak).column := by
      rw [positionAfter_append, positionAfter_cons]
      rfl
    have htext : (ss ++ [s]).flatMap (·.text) = ss.flatMap (·.text) ++ s.text := by simp
    rw [hcolumn, htext]
    by_cases hs : '\n' ∈ s.text
    · rw [Position.column_advance_of_mem hs, Position.lastLine_append_of_mem hs]
    · have hbreak : s.isLineBreak = false := by
        by_contra hne
        exact h ⟨ss, s, [], rfl, isBareBreak_iff.2 ⟨by simpa using hne, hs⟩, by simp⟩
      have hss : ¬ BreaksLastLine ss := by
        rintro ⟨above, s', below, rfl, hs', hbelow⟩
        exact h ⟨above, s', below ++ [s], by simp, hs', by simpa using ⟨by simpa using hbelow, hs⟩⟩
      rw [hbreak, Position.column_advance_of_not_mem hs, ih hss, Position.capped_capped_add,
        Position.lastLine_append_of_not_mem hs, List.length_append]

theorem column_positionAfter_le (p : Position) (ss : List (Segment K)) :
    (positionAfter p ss).column ≤ p.column + (ss.flatMap (·.text)).length := by
  induction ss generalizing p with
  | nil => exact Nat.le_refl _
  | cons s ss ih =>
    have hs := Position.column_advance_le p s.text s.isLineBreak
    have hss := ih (advance p s)
    rw [positionAfter_cons, List.flatMap_cons, List.length_append]
    rw [advance] at hss ⊢
    omega

theorem column_lt_of_breaksLastLine (h : BreaksLastLine ss) (hne : ∀ s ∈ ss, s.text ≠ []) :
    (positionAfter .start ss).column < (Position.lastLine (ss.flatMap (·.text))).length := by
  obtain ⟨above, s, below, rfl, hs, hbelow⟩ := h
  obtain ⟨hbreak, hnot⟩ := isBareBreak_iff.1 hs
  have hpos : 0 < s.text.length := List.length_pos_iff.2 (hne s (by simp))
  have hstart : (advance (positionAfter .start above) s).column = 0 := by
    rw [advance, hbreak, Position.column_advance_of_breaks hnot]
  have hcolumn := column_positionAfter_le (advance (positionAfter .start above) s) below
  rw [positionAfter_append, positionAfter_cons, List.flatMap_append, List.flatMap_cons,
    ← List.append_assoc, Position.lastLine_append_of_not_mem hbelow,
    Position.lastLine_append_of_not_mem hnot, List.length_append, List.length_append]
  omega

theorem position_of_token? {p : Position} {t : Token K} (h : s.token? p = some t) :
    t.position = p := by
  rw [token?] at h
  split at h
  · split at h
    · cases h
    · cases h
      rfl
  · cases h

theorem mem_tokens {p : Position} {t : Token K} (h : t ∈ tokens p ss) :
    ∃ front, front <+: ss ∧ t.position = positionAfter p front := by
  induction ss generalizing p with
  | nil => cases h
  | cons s ss ih =>
    rcases List.mem_append.1 h with hs | hss
    · exact ⟨[], List.nil_prefix, position_of_token? (Option.mem_toList.1 hs)⟩
    · obtain ⟨front, hfront, hposition⟩ := ih hss
      exact ⟨s :: front, List.cons_prefix_cons.2 ⟨rfl, hfront⟩, hposition⟩

end Segment

theorem byteLength_eq_zero {cs : List Char} : byteLength cs = 0 ↔ cs = [] := by
  cases cs with
  | nil => simp
  | cons c cs =>
    have := c.utf8Size_pos
    simp
    omega

theorem eq_of_byteLength_eq {before before' source : List Char} (h : before <+: source)
    (h' : before' <+: source) (heq : byteLength before = byteLength before') :
    before = before' := by
  have hpre : ∀ {b b' : List Char}, b <+: b' → byteLength b = byteLength b' → b = b' := by
    rintro b _ ⟨more, rfl⟩ hb
    rw [byteLength_append] at hb
    rw [byteLength_eq_zero.1 (by omega : byteLength more = 0), List.append_nil]
  rcases List.prefix_or_prefix_of_prefix h h' with hle | hle
  · exact hpre hle heq
  · exact (hpre hle heq.symm).symm

/-- `p` is the place right after `before`, all counted in `before`. -/
structure Position.IsAfter (p : Position) (before : List Char) : Prop where
  offset_eq : p.offset = byteLength before
  line_eq : p.line = capped (before.count '\n')
  column_eq : ∃ line, IsLastLine line before ∧ p.column = capped line.length

theorem Position.IsAfter.unique {p p' : Position} {before : List Char} (h : p.IsAfter before)
    (h' : p'.IsAfter before) : p = p' := by
  obtain ⟨line, hline, hcolumn⟩ := h.column_eq
  obtain ⟨line', hline', hcolumn'⟩ := h'.column_eq
  have hcolumns : p.column = p'.column := by
    rw [hcolumn, hcolumn', ← hline.lastLine_eq, ← hline'.lastLine_eq]
  have hlines : p.line = p'.line := h.line_eq.trans h'.line_eq.symm
  have hoffsets : p.offset = p'.offset := h.offset_eq.trans h'.offset_eq.symm
  cases p
  cases p'
  rw [Position.mk.injEq]
  exact ⟨hlines, hcolumns, hoffsets⟩

namespace Lexer

def BreaksAtNewlines {K : Type} (L : Lexer K) (source : String) : Prop :=
  ∀ s ∈ (L.cut source.toList).segments, s.isLineBreak = true → '\n' ∈ s.text

theorem front_of_segments {K : Type} {L : Lexer K} {source : List Char}
    {front : List (Segment K)} (h : front <+: (L.cut source).segments) :
    front.flatMap (·.text) <+: source :=
  (h.flatMap _).trans (front_of_cut L source)

variable {K : Type} [TokenKind K] {L : Lexer K} {source : String} {p : Position}

/-- The places of the tokens of a source, its end marker among them, or of its error. -/
inductive Reports (L : Lexer K) (source : String) : Position → Prop
  | token {tokens : List (Token K)} {t : Token K} : L.tokenize source = .ok tokens → t ∈ tokens →
    Reports L source t.position
  | error {e : LexerError} : L.tokenize source = .error e → Reports L source e.position

theorem Reports.exists_front (h : L.Reports source p) :
    ∃ front, front <+: (L.cut source.toList).segments ∧ p = Segment.positionAfter .start front := by
  cases h with
  | token htokens ht =>
    cases hproblem : (L.cut source.toList).problem? with
    | some problem => simp [tokenize, tokenizeChars, hproblem] at htokens
    | none =>
      simp only [tokenize, tokenizeChars, hproblem, Except.ok.injEq] at htokens
      subst htokens
      rcases List.mem_append.1 ht with ht | ht
      · exact Segment.mem_tokens ht
      · obtain rfl := List.mem_singleton.1 ht
        exact ⟨_, List.prefix_rfl, rfl⟩
  | error he =>
    cases hproblem : (L.cut source.toList).problem? with
    | some problem =>
      simp only [tokenize, tokenizeChars, hproblem, Except.error.injEq] at he
      subst he
      exact ⟨_, List.prefix_rfl, rfl⟩
    | none => simp [tokenize, tokenizeChars, hproblem] at he

theorem Reports.isAfter (h : L.Reports source p) (hbreaks : L.BreaksAtNewlines source) :
    ∃ before, before <+: source.toList ∧ p.IsAfter before := by
  obtain ⟨front, hfront, rfl⟩ := h.exists_front
  have hbare : ∀ s ∈ front, ¬ s.isBareBreak = true := by
    intro s hs hbare
    obtain ⟨hbreak, hnot⟩ := Segment.isBareBreak_iff.1 hbare
    exact hnot (hbreaks s (hfront.subset hs) hbreak)
  have hlast : ¬ Segment.BreaksLastLine front := by
    rintro ⟨above, s, below, rfl, hs, -⟩
    exact hbare s (by simp) hs
  refine ⟨_, front_of_segments hfront, Segment.offset_after_start front, ?_, _,
    Position.isLastLine_lastLine _, Segment.column_positionAfter hlast⟩
  rw [Segment.line_positionAfter (Nat.zero_le _), List.countP_eq_zero.2 hbare]
  exact congrArg _ (Nat.zero_add _)

end Lexer

/-- Where each line break has a newline, every position is counted from the text before it, and so
two lexers that cut a source in different ways report the same position for an offset. -/
theorem positions_count_text {K : Type} [TokenKind K] {L : Lexer K} {source : String}
    (hbreaks : L.BreaksAtNewlines source) :
    (∀ p, L.Reports source p → ∃ before, before <+: source.toList ∧ p.IsAfter before) ∧
    ∀ {K' : Type} [TokenKind K'] (L' : Lexer K'), L'.BreaksAtNewlines source →
      ∀ p p', L.Reports source p → L'.Reports source p' → p.offset = p'.offset → p = p' := by
  refine ⟨fun p hp => hp.isAfter hbreaks, fun L' hbreaks' p p' hp hp' hoffset => ?_⟩
  obtain ⟨before, hpre, hafter⟩ := hp.isAfter hbreaks
  obtain ⟨before', hpre', hafter'⟩ := hp'.isAfter hbreaks'
  obtain rfl := eq_of_byteLength_eq hpre hpre'
    (hafter.offset_eq.symm.trans (hoffset.trans hafter'.offset_eq))
  exact hafter.unique hafter'

namespace Sheet

open Json (TokenType)

def characters : Lexer TokenType where
  definitions := [(.token .string "(?s:.)",
    ⟨#[.check .textStart 1, .pass ⟨[0, 55296, 57344, 1114112]⟩ 2], true⟩)]
  comments := none

theorem breaksAtNewlines_lexer : lexer.BreaksAtNewlines "1\n/*\né*/2" := by
  have hcut : (lexer.cut "1\n/*\né*/2".toList).segments = [
      ⟨some (.token .int "[0-9]"), ['1']⟩, ⟨some (.lineBreaking .lineEnd "[\r\n]"), ['\n']⟩,
      ⟨none, ['/', '*', '\n', 'é', '*', '/']⟩, ⟨some (.token .int "[0-9]"), ['2']⟩] := by
    decide +kernel
  rw [Lexer.BreaksAtNewlines, hcut]
  decide

theorem breaksAtNewlines_characters : characters.BreaksAtNewlines "1\n/*\né*/2" := by
  have hcut : (characters.cut "1\n/*\né*/2".toList).segments =
      "1\n/*\né*/2".toList.map fun c => ⟨some (.token .string "(?s:.)"), [c]⟩ := by decide +kernel
  rw [Lexer.BreaksAtNewlines, hcut]
  decide

theorem reports_after_remark : lexer.Reports "1\n/*\né*/2" ⟨2, 3, 9⟩ := by
  have htokens : lexer.tokenize "1\n/*\né*/2" =
      .ok [⟨.int, "1", ⟨0, 0, 0⟩⟩, ⟨.int, "2", ⟨2, 3, 9⟩⟩, ⟨.endMarker, "", ⟨2, 4, 10⟩⟩] := by
    decide +kernel
  exact .token htokens (List.mem_cons_of_mem _ List.mem_cons_self)

theorem remark_counts_text :
    lexer.BreaksAtNewlines "1\n/*\né*/2" ∧ characters.BreaksAtNewlines "1\n/*\né*/2" ∧
      lexer.Reports "1\n/*\né*/2" ⟨2, 3, 9⟩ ∧
      (∃ before, before <+: "1\n/*\né*/2".toList ∧ (⟨2, 3, 9⟩ : Position).IsAfter before) ∧
      ∀ p, characters.Reports "1\n/*\né*/2" p → p.offset = 9 → p = ⟨2, 3, 9⟩ := by
  obtain ⟨hcount, hsame⟩ := positions_count_text breaksAtNewlines_lexer
  refine ⟨breaksAtNewlines_lexer, breaksAtNewlines_characters, reports_after_remark,
    hcount _ reports_after_remark, fun p hp hoffset => ?_⟩
  exact (hsame characters breaksAtNewlines_characters _ _ reports_after_remark hp hoffset.symm).symm

end Sheet

end Parsing
