import Mathlib.Data.List.Forall2
import Parsing.Proofs.Lexer.Positions

namespace Parsing

namespace Position

/-- Where `p` comes to lie when the text in which it was counted stands at `o`. The columns of the
first line go on from `o`. -/
def movedBy (p o : Position) : Position where
  line := capped (o.line + p.line)
  column := if p.line = 0 then capped (o.column + p.column) else p.column
  offset := o.offset + p.offset

structure Counted (p : Position) : Prop where
  line_le : p.line ≤ limit
  column_le : p.column ≤ limit

theorem counted_start : start.Counted := ⟨Nat.zero_le _, Nat.zero_le _⟩

theorem Counted.advance {p : Position} (hp : p.Counted) (text : List Char) (breaks : Bool) :
    (p.advance text breaks).Counted := by
  refine ⟨line_advance_le hp.line_le text breaks, ?_⟩
  by_cases h : '\n' ∈ text
  · rw [column_advance_of_mem h]
    exact Nat.min_le_right _ _
  · cases breaks with
    | false =>
      rw [column_advance_of_not_mem h]
      exact Nat.min_le_right _ _
    | true =>
      rw [column_advance_of_breaks h]
      exact Nat.zero_le _

theorem start_movedBy {o : Position} (ho : o.Counted) : start.movedBy o = o := by
  simp [movedBy, start, capped_of_le ho.line_le, capped_of_le ho.column_le]

theorem capped_add_capped (m n : Nat) : capped (m + capped n) = capped (m + n) := by
  rw [Nat.add_comm, capped_capped_add, Nat.add_comm]

theorem advance_movedBy (p o : Position) (text : List Char) (breaks : Bool) :
    (p.movedBy o).advance text breaks = (p.advance text breaks).movedBy o := by
  by_cases h : '\n' ∈ text
  · have hline : capped (p.line + text.count '\n') ≠ 0 := by
      have hcount : 0 < text.count '\n' := List.count_pos_iff.2 h
      rw [capped, limit]
      omega
    simp only [advance, movedBy, h, hline, if_true, if_false, capped_capped_add, capped_add_capped,
      Nat.add_assoc]
  · cases breaks with
    | true =>
      have hline : capped (p.line + 1) ≠ 0 := by
        rw [capped, limit]
        omega
      simp only [advance, movedBy, h, hline, if_true, if_false, capped_capped_add,
        capped_add_capped, Nat.add_assoc]
    | false =>
      simp only [advance, movedBy, h, if_false, Bool.false_eq_true, Nat.add_assoc]
      split
      · rw [capped_capped_add, capped_add_capped, Nat.add_assoc]
      · rfl

/-- `p'` is `p` as it is counted from `o`: the offset, the line, and on the line of `o` the column
are smaller by those of `o`, as far as they are counted at all. -/
structure CountedFrom (o p p' : Position) : Prop where
  offset_eq : o.offset + p'.offset = p.offset
  line_eq : p.line < limit → o.line + p'.line = p.line
  column_eq : p.line < limit → p.column < limit → p.line = o.line → o.column + p'.column = p.column
  column_eq_of_lt : o.line < p.line → p'.column = p.column

theorem countedFrom_movedBy (p o : Position) : CountedFrom o (p.movedBy o) p where
  offset_eq := rfl
  line_eq h := by
    simp only [movedBy, capped] at h ⊢
    omega
  column_eq hline hcolumn heq := by
    have hzero : p.line = 0 := by
      simp only [movedBy, capped] at hline heq
      omega
    simp only [movedBy, capped, hzero, if_true] at hcolumn ⊢
    omega
  column_eq_of_lt h := by
    simp only [movedBy, capped] at h ⊢
    rw [if_neg (by omega)]

end Position

variable {K : Type}

def Token.movedBy (t : Token K) (o : Position) : Token K :=
  { t with position := t.position.movedBy o }

structure Token.CountedFrom (o : Position) (t t' : Token K) : Prop where
  kind_eq : t'.kind = t.kind
  text_eq : t'.text = t.text
  position : o.CountedFrom t.position t'.position

theorem Token.countedFrom_movedBy (t : Token K) (o : Position) :
    Token.CountedFrom o (t.movedBy o) t :=
  ⟨rfl, rfl, t.position.countedFrom_movedBy o⟩

theorem Token.forall₂_movedBy (ts : List (Token K)) (o : Position) :
    List.Forall₂ (Token.CountedFrom o) (ts.map (·.movedBy o)) ts :=
  List.forall₂_map_left_iff.2 (List.forall₂_same.2 fun t _ => t.countedFrom_movedBy o)

theorem byteLength_pos {cs : List Char} (h : cs ≠ []) : 0 < byteLength cs :=
  Nat.pos_of_ne_zero fun hzero => h (byteLength_eq_zero.1 hzero)

namespace Segment

variable {s : Segment K} {ss : List (Segment K)}

theorem advance_movedBy (p o : Position) (s : Segment K) :
    advance (p.movedBy o) s = (advance p s).movedBy o :=
  Position.advance_movedBy p o s.text s.isLineBreak

theorem positionAfter_movedBy (p o : Position) (ss : List (Segment K)) :
    positionAfter (p.movedBy o) ss = (positionAfter p ss).movedBy o := by
  induction ss generalizing p with
  | nil => rfl
  | cons s ss ih => rw [positionAfter_cons, advance_movedBy, ih, positionAfter_cons]

theorem token?_movedBy (p o : Position) (s : Segment K) :
    s.token? (p.movedBy o) = (s.token? p).map (·.movedBy o) := by
  unfold token?
  split
  · split <;> rfl
  · rfl

theorem tokens_movedBy (p o : Position) (ss : List (Segment K)) :
    tokens (p.movedBy o) ss = (tokens p ss).map (·.movedBy o) := by
  induction ss generalizing p with
  | nil => rfl
  | cons s ss ih =>
    rw [tokens, token?_movedBy, advance_movedBy, ih, tokens, List.map_append, Option.toList_map]

theorem tokens_append (p : Position) (ss more : List (Segment K)) :
    tokens p (ss ++ more) = tokens p ss ++ tokens (positionAfter p ss) more := by
  induction ss generalizing p with
  | nil => rfl
  | cons s ss ih => rw [List.cons_append, tokens, ih, tokens, List.append_assoc, positionAfter_cons]

theorem counted_positionAfter {p : Position} (hp : p.Counted) (ss : List (Segment K)) :
    (positionAfter p ss).Counted := by
  induction ss generalizing p with
  | nil => exact hp
  | cons s ss ih => exact ih (hp.advance s.text s.isLineBreak)

theorem offset_lt_of_mem_tokens {p : Position} (hne : ∀ s ∈ ss, s.text ≠ []) {t : Token K}
    (ht : t ∈ tokens p ss) : t.position.offset < (positionAfter p ss).offset := by
  induction ss generalizing p with
  | nil => cases ht
  | cons s ss ih =>
    rw [List.forall_mem_cons] at hne
    rcases List.mem_append.1 ht with hs | hss
    · have hpos := byteLength_pos hne.1
      rw [position_of_token? (Option.mem_toList.1 hs), offset_positionAfter, List.flatMap_cons,
        byteLength_append]
      omega
    · exact ih hne.2 hss

end Segment

namespace Lexer

variable {L : Lexer K}

theorem cut_rest (L : Lexer K) (source : List Char) :
    ∀ front after, (L.cut source).segments = front ++ after → ∃ rest,
      source = front.flatMap (·.text) ++ rest ∧ L.cut rest = ⟨after, (L.cut source).problem?⟩ := by
  induction source using cut_induction L with
  | nil =>
    intro front after hcut
    obtain ⟨rfl, rfl⟩ := List.append_eq_nil_iff.1 hcut.symm
    exact ⟨[], rfl, rfl⟩
  | @error rest problem hrest h =>
    intro front after hcut
    rw [cut_of_segment_error hrest h] at hcut ⊢
    obtain ⟨rfl, rfl⟩ := List.append_eq_nil_iff.1 hcut.symm
    exact ⟨rest, rfl, cut_of_segment_error hrest h⟩
  | @ok s rest hne h ih =>
    intro front after hcut
    cases front with
    | nil =>
      obtain rfl : _ = after := hcut
      exact ⟨_, rfl, rfl⟩
    | cons first front =>
      rw [cut_append hne h] at hcut ⊢
      obtain ⟨rfl, hmore⟩ := List.cons_eq_cons.1 hcut
      obtain ⟨left, rfl, hleft⟩ := ih front after hmore
      exact ⟨left, by simp, hleft⟩

def Boundary (L : Lexer K) (source : String) (o : Position) : Prop :=
  ∃ front, front <+: (L.cut source.toList).segments ∧ o = Segment.positionAfter .start front

inductive Resumes (o : Position) :
    Except LexerError (List (Token K)) → Except LexerError (List (Token K)) → Prop
  | ok {before after tokens : List (Token K)} : (∀ t ∈ before, t.position.offset < o.offset) →
    List.Forall₂ (Token.CountedFrom o) after tokens → Resumes o (.ok (before ++ after)) (.ok tokens)
  | error {p p' : Position} {problem : LexerProblem} : o.CountedFrom p p' →
    Resumes o (.error ⟨p, problem⟩) (.error ⟨p', problem⟩)

section

variable {source rest : List Char} {front after : List (Segment K)} {o : Position}

theorem behind_eq_movedBy (after : List (Segment K))
    (h : Segment.positionAfter .start front = o) :
    Segment.positionAfter o after = (Segment.positionAfter .start after).movedBy o ∧
      Segment.tokens o after = (Segment.tokens .start after).map (·.movedBy o) := by
  have hcounted : o.Counted := h ▸ Segment.counted_positionAfter Position.counted_start front
  rw [← Segment.positionAfter_movedBy, ← Segment.tokens_movedBy, Position.start_movedBy hcounted]
  exact ⟨rfl, rfl⟩

theorem resumes_of_cut [TokenKind K] {problem? : Option LexerProblem}
    (hsource : L.cut source = ⟨front ++ after, problem?⟩) (hrest : L.cut rest = ⟨after, problem?⟩)
    (ho : Segment.positionAfter .start front = o) :
    Resumes o (L.tokenizeChars source) (L.tokenizeChars rest) := by
  obtain ⟨hstop, htokens⟩ := behind_eq_movedBy after ho
  simp only [tokenizeChars, hsource, hrest, Segment.positionAfter_append, Segment.tokens_append, ho,
    hstop, htokens]
  cases problem? with
  | some problem => exact .error (Position.countedFrom_movedBy _ o)
  | none =>
    rw [List.append_assoc]
    refine .ok (fun t ht => ?_) ?_
    · have hne := text_ne_nil_of_mem_cut L source
      rw [hsource] at hne
      rw [← ho]
      exact Segment.offset_lt_of_mem_tokens (fun s hs => hne s (List.mem_append_left _ hs)) ht
    · have hmoved := Token.forall₂_movedBy
        (Segment.tokens .start after ++ [Token.endAt (Segment.positionAfter .start after)]) o
      rwa [List.map_append] at hmoved

end

end Lexer

/-- Tokenizing what is left of a source at a boundary goes on as it did in the source: with the same
kinds and texts, or the same problem, at positions that are counted from the boundary. -/
theorem tokenize_resumes [TokenKind K] {L : Lexer K} {source : String} {o : Position}
    (ho : L.Boundary source o) : ∃ before rest, source = before ++ rest ∧
      before.utf8ByteSize = o.offset ∧ Lexer.Resumes o (L.tokenize source) (L.tokenize rest) := by
  obtain ⟨front, ⟨after, hcut⟩, rfl⟩ := ho
  obtain ⟨rest, hsource, hrest⟩ := L.cut_rest source.toList front after hcut.symm
  have hcut : L.cut source.toList = ⟨front ++ after, (L.cut source.toList).problem?⟩ := by rw [hcut]
  refine ⟨String.ofList (front.flatMap (·.text)), String.ofList rest, ?_, ?_, ?_⟩
  · rw [← String.ofList_append, ← hsource, String.ofList_toList]
  · rw [Segment.offset_after_start, ← byteLength_toList, String.toList_ofList]
  · rw [Lexer.tokenize, Lexer.tokenize, String.toList_ofList]
    exact Lexer.resumes_of_cut hcut hrest rfl

namespace Sheet

open Json (TokenType)

def remarked : String := "1\r2:/*é*/3\n4"

theorem boundary_remark : lexer.Boundary remarked ⟨1, 2, 4⟩ := by
  have hcut : (lexer.cut remarked.toList).segments =
      [⟨some (.token .int "[0-9]"), ['1']⟩, ⟨some (.lineBreaking .lineEnd "[\r\n]"), ['\r']⟩,
        ⟨some (.token .int "[0-9]"), ['2']⟩, ⟨some (.token .colon ":"), [':']⟩] ++
      [⟨none, ['/', '*', 'é', '*', '/']⟩, ⟨some (.token .int "[0-9]"), ['3']⟩,
        ⟨some (.lineBreaking .lineEnd "[\r\n]"), ['\n']⟩, ⟨some (.token .int "[0-9]"), ['4']⟩] := by
    decide +kernel
  exact ⟨_, ⟨_, hcut.symm⟩, rfl⟩

theorem remark_resumes :
    lexer.Boundary remarked ⟨1, 2, 4⟩ ∧ ∃ before rest, remarked = before ++ rest ∧
      before.utf8ByteSize = 4 ∧
      Lexer.Resumes ⟨1, 2, 4⟩ (lexer.tokenize remarked) (lexer.tokenize rest) :=
  ⟨boundary_remark, tokenize_resumes boundary_remark⟩

example : lexer.tokenize "/*é*/3\n4" =
    .ok [⟨.int, "3", ⟨0, 5, 6⟩⟩, ⟨.int, "4", ⟨1, 0, 8⟩⟩, ⟨.endMarker, "", ⟨1, 1, 9⟩⟩] := by
  decide +kernel

end Sheet

end Parsing
