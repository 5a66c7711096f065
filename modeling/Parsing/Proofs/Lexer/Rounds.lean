import Parsing.Lexer.Scan
import Parsing.Proofs.Lexer.Restart
import Parsing.Proofs.Text.Bytes

namespace Parsing

variable {K : Type}

theorem isTerminatorByte_of_mem {c : Char} (hc : isLineTerminator c = false) {b : UInt8}
    (hb : b ∈ String.utf8EncodeChar c) : isTerminatorByte b = false := by
  have hmem : b ∈ utf8 [c] := by simpa using hb
  by_contra hne
  rw [Bool.not_eq_false, isTerminatorByte, Bool.or_eq_true, decide_eq_true_eq,
    decide_eq_true_eq] at hne
  obtain rfl | rfl := hne
  · obtain rfl := List.mem_singleton.1 ((mem_utf8 (a := '\n') rfl).1 hmem)
    cases hc
  · obtain rfl := List.mem_singleton.1 ((mem_utf8 (a := '\r') rfl).1 hmem)
    cases hc

theorem findIdx_isTerminatorByte (cs : List Char) :
    (utf8 cs).findIdx isTerminatorByte = byteLength (cs.takeWhile (!isLineTerminator ·)) := by
  induction cs with
  | nil => rfl
  | cons c cs ih =>
    cases hc : isLineTerminator c with
    | true =>
      obtain rfl | rfl : c = '\n' ∨ c = '\r' := by simpa [isLineTerminator] using hc
      · rfl
      · rfl
    | false =>
      have hskip := List.findIdx_eq_length.2 fun b hb => isTerminatorByte_of_mem hc hb
      rw [utf8_cons, List.findIdx_append, if_neg (Nat.not_lt.2 hskip.ge), ih,
        String.length_utf8EncodeChar, List.takeWhile_cons_of_pos (by simpa using hc),
        byteLength_cons, Nat.add_comm]

theorem byteLength_take_of_goesUpTo (opener : List Char) {before closer body : List Char}
    (h : GoesUpTo before closer body) :
    byteLength ((opener ++ body).take (opener.length + before.length + closer.length)) =
      byteLength opener + byteLength before + byteLength closer := by
  obtain ⟨after, rfl⟩ := h.stands
  have hfront : (opener ++ (before ++ closer ++ after)).take
      (opener.length + before.length + closer.length) = opener ++ before ++ closer := by
    rw [← List.append_assoc, ← List.append_assoc, List.take_left']
    simp [Nat.add_assoc]
  rw [hfront, byteLength_append, byteLength_append]

namespace CommentDelimiters

theorem byteLength?_utf8 {d : CommentDelimiters} (hd : ∀ s ∈ d.toList, s.toList ≠ [])
    (rest : List Char) :
    d.byteLength? (utf8 rest) =
      (d.length? rest).map (Option.map fun n => byteLength (rest.take n)) := by
  simp only [byteLength?, length?, isPrefixOf_utf8]
  cases hm : d.multiLine.filter fun p => p.1.toList.isPrefixOf rest with
  | none =>
    have hfront : rest.takeWhile (!isLineTerminator ·) <+: rest := List.takeWhile_prefix _
    have hline : byteLength (rest.take (lineLength rest)) =
        (utf8 rest).findIdx isTerminatorByte := by
      rw [findIdx_isTerminatorByte, lineLength, ← List.prefix_iff_eq_take.1 hfront]
    simp only [Except.map, Option.map_map, Function.comp_def, hline]
  | some p =>
    obtain ⟨opener, closer⟩ := p
    obtain ⟨hmulti, hopener⟩ := Option.filter_eq_some_iff.1 hm
    obtain ⟨body, rfl⟩ := List.isPrefixOf_iff_prefix.1 hopener
    have hcloser : closer.toList ≠ [] := hd closer (by simp [toList, hmulti])
    have hbytes : (utf8 (opener.toList ++ body)).drop opener.utf8ByteSize = utf8 body := by
      rw [utf8_append, ← byteLength_toList, ← length_utf8, List.drop_left]
    have hbody : (opener.toList ++ body).drop opener.length = body := by
      rw [← String.length_toList, List.drop_left]
    simp only [hbytes, bytesBefore?_utf8 hcloser, blockLength, hbody]
    cases hn : lengthBefore? closer.toList body with
    | none => rfl
    | some n =>
      obtain ⟨before, hgoes, rfl⟩ := goesUpTo_of_lengthBefore? hn
      have hfront : before <+: body := (List.prefix_append _ _).trans hgoes.stands
      have htake := byteLength_take_of_goesUpTo opener.toList hgoes
      simp only [String.length_toList, byteLength_toList] at htake
      rw [Option.map_some, ← List.prefix_iff_eq_take.1 hfront]
      simp only [Except.map, Functor.map, Option.map_some, htake]

end CommentDelimiters

theorem splitText_append (before after : List Char) :
    splitText (byteLength before) (before ++ after) = .ok (before, after) := by
  rw [splitText, splitAtOffset?_append]
  exact if_pos rfl

theorem splitText_take (n : Nat) (text : List Char) :
    splitText (byteLength (text.take n)) text = .ok (text.take n, text.drop n) := by
  have h := splitText_append (text.take n) (text.drop n)
  rwa [List.take_append_drop] at h

namespace Lexer

variable {L : Lexer K}

theorem commentByteLength?_utf8 (hL : ∀ d ∈ L.comments, ∀ s ∈ d.toList, s.toList ≠ [])
    (rest : List Char) : L.commentByteLength? (utf8 rest) =
      (L.commentLength? rest).map (Option.map fun n => byteLength (rest.take n)) := by
  rw [commentByteLength?, commentLength?]
  cases hd : L.comments with
  | none => rfl
  | some d => exact CommentDelimiters.byteLength?_utf8 (hL d hd) rest

theorem take_ne_nil_of_commentLength? (hL : L.Delimited) {rest : List Char} {n : Nat}
    (h : L.commentLength? rest = .ok (some n)) : rest.take n ≠ [] := by
  by_cases hblock : L.NoBlock rest
  · obtain ⟨hcomment, hnone⟩ := commentLength?_of_noBlock hblock
    by_cases hline : L.NoLine rest
    · rw [hnone hline] at h
      cases h
    · obtain ⟨opener, hopens⟩ := not_forall_not.1 hline
      rw [hcomment opener hopens] at h
      cases h
      obtain ⟨d, hd, hs, more, rfl⟩ := hopens
      have hopener := hL.ne_empty d hd opener (by simp [CommentDelimiters.toList, hs])
      obtain ⟨c, cs, hcs⟩ := List.exists_cons_of_ne_nil hopener
      have hc := hL.line d hd opener hs c (by simp [hcs])
      simp [CommentDelimiters.lineLength, hcs, hc]
  · obtain ⟨opener, hblock⟩ := not_forall.1 hblock
    obtain ⟨closer, hopens⟩ := not_forall_not.1 hblock
    rw [commentLength?_of_block hopens, CommentDelimiters.blockLength] at h
    split at h
    · next m hm =>
      cases h
      obtain ⟨d, hd, hs, more, rfl⟩ := hopens
      have hopener := hL.ne_empty d hd opener (by simp [CommentDelimiters.toList, hs])
      have hlength : 0 < opener.length := String.length_toList ▸ List.length_pos_iff.2 hopener
      rw [ne_eq, List.take_eq_nil_iff, not_or]
      exact ⟨by omega, List.append_ne_nil_of_left_ne_nil hopener more⟩
    · cases h

theorem segment_of_comment_problem {rest : List Char} {problem : LexerProblem}
    (h : L.commentLength? rest = .error problem) : L.segment rest = .error problem := by
  simp only [segment, h, bind, Except.bind]

section

variable {source before rest : List Char} {s : Scan K}

theorem round_eq (hL : L.Delimited) (hoffset : s.cursor.offset = byteLength before) :
    L.round (before ++ rest) s = match L.segment rest with
      | .ok segment => .ok (s.pass segment)
      | .error problem => .error (.problem ⟨s.cursor, problem⟩) := by
  rw [round, hoffset, splitText_append]
  simp only [bind, Except.bind, commentByteLength?_utf8 hL.ne_empty]
  cases hn : L.commentLength? rest with
  | error problem =>
    rw [segment_of_comment_problem hn]
    rfl
  | ok n? =>
    cases n? with
    | some n =>
      rw [segment_of_comment hn (take_ne_nil_of_commentLength? hL hn)]
      simp only [Except.map, Option.map_some, splitText_take]
      rfl
    | none =>
      rw [segment_of_no_comment hn]
      simp only [Except.map, Option.map_none, splitText_take]
      cases L.definition? rest <;> rfl

theorem offset_pass (hoffset : s.cursor.offset = byteLength before) (segment : Segment K) :
    (s.pass segment).cursor.offset = byteLength (before ++ segment.text) := by
  rw [byteLength_append, ← hoffset]
  exact Position.offset_advance _ _ _

section

variable [TokenKind K] {rounds : Nat}

theorem scan_of_le (h : byteLength source ≤ s.cursor.offset) :
    L.scan source rounds s = .ok (s.tokens ++ [Token.endAt s.cursor]) := by
  unfold scan
  exact if_pos h

theorem scan_of_lt (h : s.cursor.offset < byteLength source) :
    L.scan source (rounds + 1) s = L.round source s >>= L.scan source rounds := by
  rw [scan, if_neg (Nat.not_le.2 h)]

theorem scan_eq (hL : L.Delimited) (hoffset : s.cursor.offset = byteLength before)
    (hrounds : byteLength rest ≤ rounds) :
    L.scan (before ++ rest) rounds s = match (L.cut rest).problem? with
      | some problem =>
        .error (.problem ⟨Segment.positionAfter s.cursor (L.cut rest).segments, problem⟩)
      | none => .ok (s.tokens ++ Segment.tokens s.cursor (L.cut rest).segments ++
          [Token.endAt (Segment.positionAfter s.cursor (L.cut rest).segments)]) := by
  induction rest using cut_induction L generalizing before s rounds with
  | nil =>
    rw [scan_of_le (by simp [hoffset])]
    simp [Segment.tokens, Segment.positionAfter]
  | @error rest problem hrest h =>
    have hpos := byteLength_pos hrest
    obtain ⟨rounds, rfl⟩ := Nat.exists_eq_succ_of_ne_zero (hpos.trans_le hrounds).ne'
    rw [scan_of_lt (by simpa [hoffset] using hpos), round_eq hL hoffset, h,
      cut_of_segment_error hrest h]
    rfl
  | @ok segment after hne h ih =>
    have hpos := byteLength_pos hne
    rw [byteLength_append] at hrounds
    obtain ⟨rounds, rfl⟩ := Nat.exists_eq_succ_of_ne_zero (by omega : rounds ≠ 0)
    have hlt : s.cursor.offset < byteLength (before ++ (segment.text ++ after)) := by
      rw [byteLength_append, byteLength_append]
      omega
    have hmore : byteLength after ≤ rounds := by omega
    have hrest := ih (offset_pass hoffset segment) hmore
    rw [List.append_assoc] at hrest
    rw [scan_of_lt hlt, round_eq hL hoffset, h, cut_append hne h]
    refine hrest.trans ?_
    cases (L.cut after).problem? with
    | some problem => rfl
    | none => simp [Scan.pass, Segment.tokens, Segment.positionAfter_cons]

/-- A round does not get past a comment that is empty, so a scan that comes to one has no end. -/
theorem scan_of_empty_comment (hL : ∀ d ∈ L.comments, ∀ s ∈ d.toList, s.toList ≠ [])
    (hoffset : s.cursor.offset = byteLength before) (hrest : rest ≠ [])
    (hcomment : L.commentLength? rest = .ok (some 0)) :
    L.scan (before ++ rest) rounds s = .error .endless := by
  have hlt : s.cursor.offset < byteLength (before ++ rest) := by
    rw [hoffset, byteLength_append]
    exact Nat.lt_add_of_pos_right (byteLength_pos hrest)
  induction rounds generalizing s with
  | zero => rw [scan, if_neg (Nat.not_le.2 hlt)]
  | succ rounds ih =>
    have hround : L.round (before ++ rest) s = .ok (s.pass ⟨none, []⟩) := by
      rw [round, hoffset, splitText_append]
      simp only [bind, Except.bind, commentByteLength?_utf8 hL, hcomment, Except.map,
        Option.map_some, splitText_take]
      rfl
    have hpass : (s.pass ⟨none, []⟩).cursor.offset = byteLength before := by
      rw [offset_pass hoffset, List.append_nil]
    rw [scan_of_lt hlt, hround]
    exact ih hpass (by rwa [hpass, ← hoffset])

end

theorem round_cases (hL : L.Delimited) (hoffset : s.cursor.offset = byteLength before)
    (hrest : rest ≠ []) :
    (∃ e, L.round (before ++ rest) s = .error (.problem e)) ∨
      ∃ text after s', rest = text ++ after ∧ text ≠ [] ∧ L.round (before ++ rest) s = .ok s' ∧
        s'.cursor.offset = byteLength (before ++ text) := by
  rw [round_eq hL hoffset]
  cases hs : L.segment rest with
  | error problem => exact .inl ⟨_, rfl⟩
  | ok segment =>
    obtain ⟨after, hafter⟩ := text_prefix_of_segment hs
    have hne := (stands_of_segment hL hrest hs).text_ne_nil hL
    exact .inr ⟨segment.text, after, _, hafter.symm, hne, rfl, offset_pass hoffset segment⟩

end

end Lexer

theorem isValid_iff_exists_append {source : String} {n : Nat} :
    (⟨n⟩ : String.Pos.Raw).IsValid source ↔
      ∃ before rest, source.toList = before ++ rest ∧ n = byteLength before := by
  rw [String.Pos.Raw.isValid_iff_exists_append]
  constructor
  · rintro ⟨before, rest, rfl, hn⟩
    refine ⟨before.toList, rest.toList, String.toList_append, ?_⟩
    rw [byteLength_toList]
    exact congrArg String.Pos.Raw.byteIdx hn
  · rintro ⟨before, rest, hsource, rfl⟩
    refine ⟨String.ofList before, String.ofList rest, ?_, ?_⟩
    · rw [← String.ofList_append, ← hsource, String.ofList_toList]
    · rw [String.rawEndPos, ← byteLength_toList, String.toList_ofList]

/-- Where the cursor stands at a character, a round moves it on to a character or to the end of the
source, or comes to a problem in the source. A scan comes to what tokenizing comes to in no more
rounds than there are bytes. -/
theorem scanning_advances [TokenKind K] {definitions : List (TokenDefinition K)}
    {comments : Option CommentDelimiters} {L : Lexer K}
    (hbuild : Lexer.build definitions comments = .ok L)
    (hline : ∀ d ∈ comments, ∀ opener ∈ d.singleLine, ∀ c ∈ opener.toList.head?,
      isLineTerminator c = false) (source : String) :
    (∀ s : Scan K, (⟨s.cursor.offset⟩ : String.Pos.Raw).IsValid source →
      s.cursor.offset < source.utf8ByteSize →
      (∀ s', L.round source.toList s = .ok s' → s.cursor.offset < s'.cursor.offset ∧
        (⟨s'.cursor.offset⟩ : String.Pos.Raw).IsValid source) ∧
      ∀ fault, L.round source.toList s = .error fault → ∃ e, fault = .problem e) ∧
    L.scan source.toList source.utf8ByteSize .start = (L.tokenize source).mapError .problem := by
  have hL := Lexer.delimited_of_build hbuild hline
  refine ⟨fun s hs hlt => ?_, ?_⟩
  · obtain ⟨before, rest, hsource, hoffset⟩ := isValid_iff_exists_append.1 hs
    have hrest : rest ≠ [] := by
      rintro rfl
      rw [← byteLength_toList, hsource, List.append_nil, ← hoffset] at hlt
      exact Nat.lt_irrefl _ hlt
    rw [hsource]
    obtain ⟨e, he⟩ | ⟨text, after, s', rfl, hne, hs', hoffset'⟩ :=
      Lexer.round_cases hL hoffset hrest
    · refine ⟨fun s' hs' => ?_, fun fault hfault => ?_⟩
      · cases he.symm.trans hs'
      · exact ⟨e, Except.error.inj (hfault.symm.trans he)⟩
    · refine ⟨fun s'' hs'' => ?_, fun fault hfault => ?_⟩
      · obtain rfl := Except.ok.inj (hs'.symm.trans hs'')
        refine ⟨?_, isValid_iff_exists_append.2 ⟨before ++ text, after, ?_, hoffset'⟩⟩
        · have hpos := byteLength_pos hne
          rw [hoffset, hoffset', byteLength_append]
          omega
        · rw [hsource, List.append_assoc]
      · cases hs'.symm.trans hfault
  · have hrounds := (byteLength_toList source).le
    have hstart : (Scan.start : Scan K).cursor.offset = byteLength [] := rfl
    rw [← List.nil_append source.toList, Lexer.scan_eq hL hstart hrounds, Lexer.tokenize,
      Lexer.tokenizeChars]
    cases (L.cut source.toList).problem? <;> rfl

namespace Sheet

open Json (TokenType)

def arrows : CommentDelimiters := ⟨some "→→", some ("→", "←")⟩

def arrowLexer : Lexer TokenType := { lexer with comments := some arrows }

theorem build_arrows : Lexer.build vocabulary (some arrows) = .ok arrowLexer :=
  Lexer.build_eq_ok.2 ⟨(Lexer.build_eq_ok.1 build_vocabulary).1, rfl, by decide⟩

theorem line_arrows : ∀ d ∈ some arrows, ∀ opener ∈ d.singleLine, ∀ c ∈ opener.toList.head?,
    isLineTerminator c = false := by
  simp [arrows, isLineTerminator]

theorem arrows_are_scanned :
    Lexer.build vocabulary (some arrows) = .ok arrowLexer ∧
      (∀ d ∈ some arrows, ∀ opener ∈ d.singleLine, ∀ c ∈ opener.toList.head?,
        isLineTerminator c = false) ∧
      (∃ s', arrowLexer.round "1→↑←2".toList ⟨⟨0, 1, 1⟩, []⟩ = .ok s' ∧ 1 < s'.cursor.offset ∧
        (⟨s'.cursor.offset⟩ : String.Pos.Raw).IsValid "1→↑←2") ∧
      arrowLexer.scan "1→↑←2".toList 11 .start =
        (arrowLexer.tokenize "1→↑←2").mapError .problem := by
  obtain ⟨hround, hscan⟩ := scanning_advances build_arrows line_arrows "1→↑←2"
  have hvalid : (⟨1⟩ : String.Pos.Raw).IsValid "1→↑←2" :=
    isValid_iff_exists_append.2 ⟨['1'], "→↑←2".toList, rfl, rfl⟩
  have hpass : arrowLexer.round "1→↑←2".toList ⟨⟨0, 1, 1⟩, []⟩ = .ok ⟨⟨0, 4, 10⟩, []⟩ := by rfl
  exact ⟨build_arrows, line_arrows,
    ⟨_, hpass, (hround ⟨⟨0, 1, 1⟩, []⟩ hvalid (by decide)).1 _ hpass⟩, hscan⟩

end Sheet

end Parsing
