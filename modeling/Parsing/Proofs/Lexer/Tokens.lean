import Mathlib.Data.String.Basic
import Parsing.Proofs.Lexer.Cutting
import Parsing.Proofs.Matching.Run

namespace Parsing

variable {K : Type}

namespace Segment

/-- The tokens of segments that begin at an offset: one for each that is kept, with its text and
where it begins. -/
inductive Emits : (offset : Nat) → List (Segment K) → List (Token K) → Prop
  | nil {offset : Nat} : Emits offset [] []
  | comment {offset : Nat} {text : List Char} {ss : List (Segment K)} {ts : List (Token K)} :
    Emits (offset + byteLength text) ss ts → Emits offset (⟨none, text⟩ :: ss) ts
  | skipped {offset : Nat} {d : TokenDefinition K} {text : List Char} {ss : List (Segment K)}
      {ts : List (Token K)} : d.isSkipped = true → Emits (offset + byteLength text) ss ts →
    Emits offset (⟨some d, text⟩ :: ss) ts
  | kept {d : TokenDefinition K} {text : List Char} {p : Position} {ss : List (Segment K)}
      {ts : List (Token K)} : d.isSkipped = false → Emits (p.offset + byteLength text) ss ts →
    Emits p.offset (⟨some d, text⟩ :: ss) (⟨d.kind, String.ofList text, p⟩ :: ts)

theorem emits_tokens (p : Position) (ss : List (Segment K)) : Emits p.offset ss (tokens p ss) := by
  induction ss generalizing p with
  | nil => exact .nil
  | cons s ss ih =>
    obtain ⟨d?, text⟩ := s
    have hss : Emits (p.offset + byteLength text) ss (tokens (advance p ⟨d?, text⟩) ss) := by
      simpa [advance] using ih (advance p ⟨d?, text⟩)
    cases d? with
    | none => exact .comment hss
    | some d =>
      cases hskip : d.isSkipped with
      | true => simpa [tokens, token?, hskip] using Emits.skipped hskip hss
      | false => simpa [tokens, token?, hskip] using Emits.kept hskip hss

theorem Emits.exists_definition {offset : Nat} {ss : List (Segment K)} {ts : List (Token K)}
    (h : Emits offset ss ts) {t : Token K} (ht : t ∈ ts) :
    ∃ s ∈ ss, ∃ d, s.definition? = some d ∧ d.isSkipped = false ∧ t.kind = d.kind := by
  induction h with
  | nil => cases ht
  | comment _ ih | skipped _ _ ih =>
    obtain ⟨s, hs, hd⟩ := ih ht
    exact ⟨s, List.mem_cons_of_mem _ hs, hd⟩
  | kept hskip _ ih =>
    rcases List.mem_cons.1 ht with rfl | ht
    · exact ⟨_, List.mem_cons_self, _, rfl, hskip, rfl⟩
    · obtain ⟨s, hs, hd⟩ := ih ht
      exact ⟨s, List.mem_cons_of_mem _ hs, hd⟩

theorem offset_positionAfter (p : Position) (ss : List (Segment K)) :
    (positionAfter p ss).offset = p.offset + byteLength (ss.flatMap (·.text)) := by
  induction ss generalizing p with
  | nil => rfl
  | cons s ss ih =>
    calc (positionAfter p (s :: ss)).offset = (positionAfter (advance p s) ss).offset := rfl
      _ = p.offset + byteLength s.text + byteLength (ss.flatMap (·.text)) := by
        rw [ih, advance, Position.offset_advance]
      _ = p.offset + byteLength ((s :: ss).flatMap (·.text)) := by
        rw [List.flatMap_cons, byteLength_append, Nat.add_assoc]

end Segment

theorem byteLength_toList (s : String) : byteLength s.toList = s.utf8ByteSize := by
  have hlen : ∀ cs : List Char, byteLength cs = String.utf8Len cs := by
    intro cs
    induction cs with
    | nil => rfl
    | cons c cs ih => rw [byteLength_cons, ih, String.utf8Len_cons, Nat.add_comm]
  rw [hlen, ← String.utf8ByteSize_ofList, String.ofList_toList]

namespace Lexer

variable {L : Lexer K}

theorem compile_eq_ok {d : TokenDefinition K} {p : TokenDefinition K × Regex} :
    compile d = .ok p ↔ ∃ r, Regex.read (anchored d.pattern) = .ok r ∧ p = (d, r) := by
  -- Rewriting would run the reader of the pattern.
  delta compile
  generalize Regex.read (anchored d.pattern) = read
  cases read with
  | ok r => simp [eq_comm]
  | error e => simp

theorem mapM_compile_eq_ok {definitions : List (TokenDefinition K)}
    {ds : List (TokenDefinition K × Regex)} :
    definitions.mapM compile = .ok ds ↔ ds.map (·.1) = definitions ∧
      ∀ p ∈ ds, Regex.read (anchored p.1.pattern) = .ok p.2 := by
  induction definitions generalizing ds with
  | nil =>
    rw [List.mapM_nil, List.map_eq_nil_iff]
    constructor
    · intro h
      cases h
      simp
    · rintro ⟨rfl, -⟩
      rfl
  | cons d definitions ih =>
    simp only [List.mapM_cons, Except.bind_eq_ok, Except.pure_eq_ok, compile_eq_ok, ih]
    constructor
    · rintro ⟨_, ⟨r, hr, rfl⟩, rest, ⟨rfl, hrest⟩, rfl⟩
      exact ⟨rfl, List.forall_mem_cons.2 ⟨hr, hrest⟩⟩
    · rintro ⟨hds, hread⟩
      obtain ⟨⟨_, r⟩, rest, rfl, rfl, rfl⟩ := List.map_eq_cons_iff.1 hds
      obtain ⟨hr, hrest⟩ := List.forall_mem_cons.1 hread
      exact ⟨_, ⟨r, hr, rfl⟩, rest, ⟨rfl, hrest⟩, rfl⟩

theorem build_eq_ok {definitions : List (TokenDefinition K)} {comments : Option CommentDelimiters} :
    build definitions comments = .ok L ↔ (L.definitions.map (·.1) = definitions ∧
      ∀ p ∈ L.definitions, Regex.read (anchored p.1.pattern) = .ok p.2) ∧ L.comments = comments ∧
      ∀ d ∈ comments, "" ∉ d.toList := by
  have hempty : comments.any (·.toList.any String.isEmpty) = true ↔
      ¬ ∀ d ∈ comments, "" ∉ d.toList := by
    simp [Option.any_eq_true]
  rw [build, Except.bind_eq_ok]
  simp only [mapM_compile_eq_ok]
  constructor
  · rintro ⟨ds, hds, h⟩
    split at h
    · cases h
    · next hnot =>
      cases h
      exact ⟨hds, rfl, by simpa [hempty] using hnot⟩
  · rintro ⟨hds, rfl, hne⟩
    refine ⟨_, hds, ?_⟩
    rw [if_neg (by simpa [hempty] using hne)]
    rfl

theorem delimited_of_build {definitions : List (TokenDefinition K)}
    {comments : Option CommentDelimiters} (h : build definitions comments = .ok L)
    (hline : ∀ d ∈ comments, ∀ opener ∈ d.singleLine, ∀ c ∈ opener.toList.head?,
      isLineTerminator c = false) : L.Delimited := by
  obtain ⟨-, rfl, hne⟩ := build_eq_ok.1 h
  refine ⟨fun d hd s hs hnil => hne d hd ?_, hline⟩
  rwa [String.toList_eq_nil_iff.1 hnil] at hs

theorem Stands.mem_definitions {rest : List Char} {s : Segment K} (h : L.Stands rest s)
    {d : TokenDefinition K} (hd : s.definition? = some d) : d ∈ L.definitions.map (·.1) := by
  cases h with
  | block | line => cases hd
  | definition _ _ hdefs =>
    cases hd
    simp [hdefs]

theorem Cuts.mem_definitions {source rest : List Char} {ss : List (Segment K)}
    (h : L.Cuts source ss rest) {s : Segment K} (hs : s ∈ ss) {d : TokenDefinition K}
    (hd : s.definition? = some d) : d ∈ L.definitions.map (·.1) := by
  induction h with
  | nil => cases hs
  | cons _ hstands _ ih =>
    rcases List.mem_cons.1 hs with rfl | hs
    · exact hstands.mem_definitions hd
    · exact ih hs

variable [TokenKind K]

theorem tokenize_of_cuts (hL : L.Delimited) {source : String} {ss : List (Segment K)}
    (h : L.Cuts source.toList ss []) :
    L.tokenize source =
      .ok (Segment.tokens .start ss ++ [Token.endAt (Segment.positionAfter .start ss)]) := by
  simp [tokenize, tokenizeChars, cut_of_cuts hL h]

theorem tokenize_eq_ok (hL : L.Delimited) {source : String} {tokens : List (Token K)}
    (h : L.tokenize source = .ok tokens) : ∃ ss, L.Cuts source.toList ss [] := by
  obtain ⟨rest, hcuts, ⟨rfl, -⟩ | ⟨problem, hproblem, -⟩⟩ := cuts_cut hL source.toList
  · exact ⟨_, hcuts⟩
  · simp [tokenize, tokenizeChars, hproblem] at h

theorem tokenize_eq_error (hL : L.Delimited) {source : String} {e : LexerError}
    (h : L.tokenize source = .error e) : ∃ ss rest, L.Cuts source.toList ss rest ∧
      L.Stuck rest e.problem ∧ e.position = Segment.positionAfter .start ss := by
  obtain ⟨rest, hcuts, ⟨-, hnone⟩ | ⟨problem, hproblem, hstuck⟩⟩ := cuts_cut hL source.toList
  · simp [tokenize, tokenizeChars, hnone] at h
  · simp only [tokenize, tokenizeChars, hproblem, Except.error.injEq] at h
    subst h
    exact ⟨_, rest, hcuts, hstuck, rfl⟩

end Lexer

variable [TokenKind K]

/-- A source has tokens just when it can be cut to its end, and then they are those of its segments
and an end marker. The only end marker it is, unless a definition makes others. Otherwise the error
is where cutting gets stuck. -/
theorem tokenize_gives_cut_tokens {definitions : List (TokenDefinition K)}
    {comments : Option CommentDelimiters} {L : Lexer K}
    (hbuild : Lexer.build definitions comments = .ok L)
    (hline : ∀ d ∈ comments, ∀ opener ∈ d.singleLine, ∀ c ∈ opener.toList.head?,
      isLineTerminator c = false) (source : String) :
    ((∃ tokens, L.tokenize source = .ok tokens) ↔ ∃ ss, L.Cuts source.toList ss []) ∧
    (∀ tokens, L.tokenize source = .ok tokens → ∀ ss, L.Cuts source.toList ss [] →
      ∃ us e, tokens = us ++ [e] ∧ Segment.Emits 0 ss us ∧ e.kind = TokenKind.endMarker ∧
        e.text = "" ∧ e.position.offset = source.utf8ByteSize ∧
        ((∀ d ∈ definitions, d.isSkipped = false → d.kind ≠ TokenKind.endMarker) →
          ∀ t ∈ us, t.kind ≠ TokenKind.endMarker)) ∧
    ∀ e, L.tokenize source = .error e → ∃ ss rest, L.Cuts source.toList ss rest ∧
      L.Stuck rest e.problem ∧ e.position.offset + byteLength rest = source.utf8ByteSize := by
  have hL := Lexer.delimited_of_build hbuild hline
  refine ⟨⟨fun ⟨_, h⟩ => Lexer.tokenize_eq_ok hL h, fun ⟨_, h⟩ => ⟨_, Lexer.tokenize_of_cuts hL h⟩⟩,
    fun tokens htokens ss hcuts => ?_, fun e he => ?_⟩
  · rw [Lexer.tokenize_of_cuts hL hcuts] at htokens
    cases htokens
    have hemits := Segment.emits_tokens .start ss
    refine ⟨_, _, rfl, hemits, rfl, rfl, ?_, fun hkind t ht heq => ?_⟩
    · rw [Token.endAt, Segment.offset_positionAfter, ← byteLength_toList, hcuts.eq_append]
      simp [Position.start]
    · obtain ⟨s, hs, d, hd, hskip, hk⟩ := hemits.exists_definition ht
      have hmem := hcuts.mem_definitions hs hd
      rw [(Lexer.build_eq_ok.1 hbuild).1.1] at hmem
      exact hkind d hmem hskip (hk ▸ heq)
  · obtain ⟨ss, rest, hcuts, hstuck, hposition⟩ := Lexer.tokenize_eq_error hL he
    refine ⟨ss, rest, hcuts, hstuck, ?_⟩
    rw [hposition, Segment.offset_positionAfter, ← byteLength_toList, hcuts.eq_append]
    simp [Position.start]

namespace Sheet

open Json (TokenType)

def vocabulary : List (TokenDefinition TokenType) := [
  .token .int "[0-9]",
  .token .colon ":",
  .token .comma ",",
  .discarded .blank " ",
  .lineBreaking .lineEnd "[\r\n]"]

def lexer : Lexer TokenType where
  definitions := [
    (.token .int "[0-9]", ⟨#[.check .textStart 1, .pass ⟨[48, 58]⟩ 2], true⟩),
    (.token .colon ":", ⟨#[.check .textStart 1, .pass ⟨[58, 59]⟩ 2], true⟩),
    (.token .comma ",", ⟨#[.check .textStart 1, .pass ⟨[44, 45]⟩ 2], true⟩),
    (.discarded .blank " ", ⟨#[.check .textStart 1, .pass ⟨[32, 33]⟩ 2], true⟩),
    (.lineBreaking .lineEnd "[\r\n]",
      ⟨#[.check .textStart 1, .pass ⟨[10, 11, 13, 14]⟩ 2], true⟩)]
  comments := some .cStyle

theorem build_vocabulary : Lexer.build vocabulary (some .cStyle) = .ok lexer := by
  have hread : ∀ p ∈ lexer.definitions, Regex.read (Lexer.anchored p.1.pattern) = .ok p.2 := by
    decide +kernel
  exact Lexer.build_eq_ok.2 ⟨⟨rfl, hread⟩, rfl, by decide⟩

theorem line_comments : ∀ d ∈ some CommentDelimiters.cStyle, ∀ opener ∈ d.singleLine,
    ∀ c ∈ opener.toList.head?, isLineTerminator c = false := by
  simp [CommentDelimiters.cStyle, isLineTerminator]

theorem tokenize_remarks : lexer.tokenize "1/*/*/ ,//:" =
    .ok [⟨.int, "1", ⟨0, 0, 0⟩⟩, ⟨.comma, ",", ⟨0, 7, 7⟩⟩, ⟨.endMarker, "", ⟨0, 11, 11⟩⟩] := by
  decide +kernel

theorem remarks_are_cut :
    Lexer.build vocabulary (some .cStyle) = .ok lexer ∧
      (∀ d ∈ some CommentDelimiters.cStyle, ∀ opener ∈ d.singleLine, ∀ c ∈ opener.toList.head?,
        isLineTerminator c = false) ∧
      lexer.tokenize "1/*/*/ ,//:" =
        .ok [⟨.int, "1", ⟨0, 0, 0⟩⟩, ⟨.comma, ",", ⟨0, 7, 7⟩⟩, ⟨.endMarker, "", ⟨0, 11, 11⟩⟩] ∧
      ∃ ss, lexer.Cuts "1/*/*/ ,//:".toList ss [] ∧ ∃ us e,
        [⟨.int, "1", ⟨0, 0, 0⟩⟩, ⟨.comma, ",", ⟨0, 7, 7⟩⟩, ⟨.endMarker, "", ⟨0, 11, 11⟩⟩] =
          us ++ [e] ∧
        Segment.Emits 0 ss us ∧ ∀ t ∈ us, t.kind ≠ TokenKind.endMarker := by
  obtain ⟨hcuts, htokens, -⟩ :=
    tokenize_gives_cut_tokens build_vocabulary line_comments "1/*/*/ ,//:"
  obtain ⟨ss, hss⟩ := hcuts.1 ⟨_, tokenize_remarks⟩
  obtain ⟨us, e, heq, hemits, -, -, -, honly⟩ := htokens _ tokenize_remarks ss hss
  exact ⟨build_vocabulary, line_comments, tokenize_remarks, ss, hss, us, e, heq, hemits,
    honly (by decide)⟩

end Sheet

end Parsing
