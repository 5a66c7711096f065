import Parsing.Proofs.Lexer.Tokens
import Parsing.Proofs.Regex.Closing
import Parsing.Proofs.Regex.Search

/-!
Where the match of a definition begins. What a lexer writes around a pattern holds its matches to
the place where the lexer stands, as long as the pattern can be read by itself. A text such as
`a)|(?:b` cannot: it closes the group written around it, and of its two halves only the first is
held to that place.
-/

namespace Parsing

theorem Spot.eq_zero_of_textStart {text : List Char} {n : Nat} (htext : text ≠ [])
    (h : Look.textStart.holds (Spot.ofText text n) = true) : n = 0 := by
  have hnil : text.take n = [] := by simpa [Look.holds, Spot.ofText] using h
  exact (List.take_eq_nil_iff.1 hnil).resolve_right htext

theorem Lexer.anchored_eq (pattern : String) :
    anchored pattern = '\\' :: 'A' :: '(' :: '?' :: ':' :: (pattern.toList ++ [')']) := rfl

theorem Regex.begins_of_anchored {pattern : String} {p : Pattern} {r : Regex} {rest : List Char}
    {span : Span} (hp : readPattern pattern.toList = .ok p)
    (hr : read (Lexer.anchored pattern) = .ok r) (hfind : r.find? rest = some span)
    (hstop : 0 < span.stop) :
    span.start = 0 ∧ p.Passes (Spot.ofText rest 0) (Spot.ofText rest span.stop) := by
  obtain ⟨w, hw, hr⟩ := Except.bind_eq_ok.1 hr
  obtain rfl : w.toRegex = r := by
    cases hr
    rfl
  rw [Lexer.anchored_eq] at hw
  obtain rfl := readPattern_enclosed hp hw
  have hpasses := Pattern.passes_concat.1 (Pattern.passes_of_find? hfind)
  simp only [Pattern.passesAll_cons, Pattern.passesAll_nil] at hpasses
  obtain ⟨s, ⟨hholds, rfl⟩, t, hp, rfl⟩ := hpasses
  have hrest : rest ≠ [] := by
    rintro rfl
    have hle := stop_find hfind
    rw [List.length_nil] at hle
    omega
  have hstart := Spot.eq_zero_of_textStart hrest hholds
  rw [hstart] at hp
  exact ⟨hstart, hp⟩

namespace Lexer

variable {K : Type} {L : Lexer K}

theorem definition?_of_segment {rest : List Char} {s : Segment K} {d : TokenDefinition K}
    (h : L.segment rest = .ok s) (hd : s.definition? = some d) :
    ∃ n, L.definition? rest = some (d, n) ∧ s.text = rest.take n := by
  obtain ⟨n?, hcomment, h⟩ := Except.bind_eq_ok.1 h
  split at h
  · cases h
    cases hd
  · split at h
    · next d' n hn =>
      cases h
      cases hd
      exact ⟨n, hn, rfl⟩
    · cases h

theorem segment_of_cut (L : Lexer K) (source : List Char) :
    ∀ before s after, (L.cut source).segments = before ++ s :: after →
      ∃ rest, source = before.flatMap (·.text) ++ rest ∧ L.segment rest = .ok s := by
  induction source using cut_induction L with
  | nil => simp
  | error hrest h => simp [cut_of_segment_error hrest h]
  | @ok first rest hne h ih =>
    intro before s after hcut
    rw [cut_append hne h] at hcut
    cases before with
    | nil =>
      cases hcut
      exact ⟨_, rfl, h⟩
    | cons b before =>
      rw [List.cons_append, List.cons_eq_cons] at hcut
      obtain ⟨rfl, hcut⟩ := hcut
      obtain ⟨left, rfl, hs⟩ := ih before s after hcut
      exact ⟨left, by simp, hs⟩

end Lexer

/-- The match by which a definition wins begins where the lexer stands and passes the text of the
segment, if the pattern of the definition can be read by itself. -/
theorem match_begins_at_segment {K : Type} {definitions : List (TokenDefinition K)}
    {comments : Option CommentDelimiters} {L : Lexer K}
    (hL : Lexer.build definitions comments = .ok L) {source : List Char}
    {before after : List (Segment K)} {s : Segment K} {d : TokenDefinition K} {p : Pattern}
    (hcut : (L.cut source).segments = before ++ s :: after) (hd : s.definition? = some d)
    (hp : Regex.readPattern d.pattern.toList = .ok p) :
    ∃ rest r, source = before.flatMap (·.text) ++ rest ∧ s.text <+: rest ∧
      (d, r) ∈ L.definitions ∧ r.find? rest = some ⟨0, s.text.length⟩ ∧
      p.Passes (Spot.ofText rest 0) (Spot.ofText rest s.text.length) := by
  obtain ⟨rest, hsource, hs⟩ := L.segment_of_cut source before s after hcut
  obtain ⟨n, hn, htext⟩ := Lexer.definition?_of_segment hs hd
  obtain ⟨_, r, _, hdefs, -, start, hfind, hpos⟩ := Lexer.definition?_eq_some.1 hn
  have hmem : (d, r) ∈ L.definitions := by simp [hdefs]
  have hread : Regex.read (Lexer.anchored d.pattern) = .ok r :=
    (Lexer.build_eq_ok.1 hL).1.2 (d, r) hmem
  have hlength : s.text.length = n := by
    rw [htext, List.length_take]
    exact Nat.min_eq_left (Regex.stop_find hfind)
  obtain ⟨hstart, hpasses⟩ := Regex.begins_of_anchored hp hread hfind hpos
  obtain rfl : start = 0 := hstart
  rw [hlength]
  exact ⟨rest, r, hsource, Lexer.text_prefix_of_segment hs, hmem, hfind, hpasses⟩

namespace Sheet

open Json (TokenType)

theorem cut_ten : (lexer.cut "1 0".toList).segments =
    [⟨some (.token .int "[0-9]"), ['1']⟩, ⟨some (.discarded .blank " "), [' ']⟩] ++
      ⟨some (.token .int "[0-9]"), ['0']⟩ :: [] := by
  decide +kernel

theorem digit_begins_at_segment :
    Lexer.build vocabulary (some .cStyle) = .ok lexer ∧
      (lexer.cut "1 0".toList).segments =
        [⟨some (.token .int "[0-9]"), ['1']⟩, ⟨some (.discarded .blank " "), [' ']⟩] ++
          ⟨some (.token .int "[0-9]"), ['0']⟩ :: [] ∧
      Regex.readPattern "[0-9]".toList = .ok (.chars ⟨[48, 58]⟩) ∧
      ∃ rest r, "1 0".toList = ['1', ' '] ++ rest ∧ ['0'] <+: rest ∧
        (.token .int "[0-9]", r) ∈ lexer.definitions ∧ r.find? rest = some ⟨0, 1⟩ ∧
        (Pattern.chars ⟨[48, 58]⟩).Passes (Spot.ofText rest 0) (Spot.ofText rest 1) := by
  have hread : Regex.readPattern "[0-9]".toList = .ok (.chars ⟨[48, 58]⟩) := by decide +kernel
  exact ⟨build_vocabulary, cut_ten, hread,
    match_begins_at_segment build_vocabulary cut_ten rfl hread⟩

theorem match_begins_after_segment :
    let d : TokenDefinition TokenType := .token .int "a)|(?:b"
    let r : Regex :=
      ⟨#[.split 1 3, .check .textStart 2, .pass ⟨[97, 98]⟩ 4, .pass ⟨[98, 99]⟩ 4], false⟩
    let L : Lexer TokenType := ⟨[(d, r)], none⟩
    Lexer.build [d] none = .ok L ∧ Regex.readPattern d.pattern.toList = .error .groupUnopened ∧
      L.cut "xb".toList = ⟨[⟨some d, "xb".toList⟩], none⟩ ∧
      r.find? "xb".toList = some ⟨1, 2⟩ ∧
      L.tokenize "xb" = .ok [⟨.int, "xb", ⟨0, 0, 0⟩⟩, ⟨.endMarker, "", ⟨0, 2, 2⟩⟩] := by
  exact ⟨Lexer.build_eq_ok.2 ⟨⟨rfl, by decide +kernel⟩, rfl, by simp⟩, by decide +kernel,
    by decide +kernel, by decide +kernel, by decide +kernel⟩

end Sheet

end Parsing
