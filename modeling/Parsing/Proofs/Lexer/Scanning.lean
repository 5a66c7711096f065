import Parsing.Proofs.Lexer.Tokens

namespace Parsing

namespace Regex

def Waits (r : Regex) (threads : List Thread) (w : Waiting) : Prop :=
  ∀ c rest, r.follow ⟨some c, rest⟩ threads = w

def Waiting.best (w : Waiting) (passed : Nat) (best? : Option Span) : Option Span :=
  (w.complete?.map fun start => ⟨start, passed⟩).or best?

variable {r : Regex} {threads next : List Thread} {w : Waiting} {before : Option Char}
  {passed : Nat} {best? : Option Span} {c : Char} {cs rest : List Char}

theorem runFrom_step (hr : r.fromStart = true) (hw : r.follow ⟨before, c :: cs⟩ threads = w)
    (hpass : w.pass c = next) (hnext : next ≠ []) :
    r.runFrom before passed best? threads (c :: cs) =
      r.runFrom (some c) (passed + 1) (w.best passed best?) next cs := by
  obtain ⟨t, ts, rfl⟩ := List.exists_cons_of_ne_nil hnext
  simp only [runFrom, hw, hpass, hr, Bool.true_or, if_true, List.append_nil]
  rfl

theorem runFrom_stop (hr : r.fromStart = true) (hw : r.follow ⟨before, rest⟩ threads = w)
    (hstop : ∀ c ∈ rest.head?, w.pass c = []) :
    r.runFrom before passed best? threads rest = w.best passed best? := by
  cases rest with
  | nil =>
    simp only [runFrom, hw]
    rfl
  | cons c cs =>
    simp only [runFrom, hw, hstop c rfl, hr, Bool.true_or, if_true, List.append_nil]
    rfl

theorem exists_runFrom_append (hr : r.fromStart = true) (hw : r.Waits threads w)
    (hne : threads ≠ []) (hcs : ∀ c ∈ cs, w.pass c = threads) :
    ∃ c' best', r.runFrom (some c) passed best? threads (cs ++ rest) =
        r.runFrom (some c') (passed + cs.length) best' threads rest ∧
      (w.complete? = none → best' = best?) := by
  induction cs generalizing c passed best? with
  | nil => exact ⟨c, best?, rfl, fun _ => rfl⟩
  | cons d cs ih =>
    obtain ⟨c', best', hrun, hbest⟩ := ih fun c hc => hcs c (by simp [hc])
    refine ⟨c', best', ?_, fun hnone => ?_⟩
    · rw [List.cons_append, runFrom_step hr (hw _ _) (hcs d (by simp)) hne, hrun, List.length_cons,
        Nat.add_assoc, Nat.add_comm 1]
    · rw [hbest hnone, Waiting.best, hnone]
      rfl

theorem runFrom_loop (hr : r.fromStart = true) (hw : r.Waits threads w) (hne : threads ≠ [])
    (hcs : ∀ c ∈ cs, w.pass c = threads) (hstop : ∀ c ∈ rest.head?, w.pass c = []) :
    r.runFrom (some c) passed best? threads (cs ++ rest) = w.best (passed + cs.length) best? := by
  obtain ⟨c', best', hrun, hbest⟩ := exists_runFrom_append hr hw hne hcs
  rw [hrun, runFrom_stop hr (hw _ _) hstop, Waiting.best, Waiting.best]
  cases hcomplete : w.complete? with
  | none => rw [hbest hcomplete]
  | some start => rfl

end Regex

variable {K : Type}

def Token.lexeme (t : Token K) : K × String := (t.kind, t.text)

def Segment.lexemes (s : Segment K) : List (K × String) :=
  match s.definition? with
  | some d => if d.isSkipped then [] else [(d.kind, String.ofList s.text)]
  | none => []

theorem Segment.map_lexeme_token? (s : Segment K) (p : Position) :
    (s.token? p).toList.map Token.lexeme = s.lexemes := by
  obtain ⟨d?, text⟩ := s
  cases d? with
  | none => rfl
  | some d => cases hskip : d.isSkipped <;> simp [token?, lexemes, Token.lexeme, hskip]

namespace Lexer

variable {L : Lexer K} {text after : List Char} {ls : List (K × String)}

inductive Scans (L : Lexer K) : List Char → List (K × String) → Prop
  | nil : Scans L [] []
  | segment {s : Segment K} {after : List Char} {ls : List (K × String)} :
    s.text ≠ [] → L.segment (s.text ++ after) = .ok s → Scans L after ls →
    Scans L (s.text ++ after) (s.lexemes ++ ls)

theorem Scans.definition (hL : L.comments = none) {d : TokenDefinition K} (hne : text ≠ [])
    (hd : L.definition? (text ++ after) = some (d, text.length)) (h : L.Scans after ls) :
    L.Scans (text ++ after) (Segment.lexemes ⟨some d, text⟩ ++ ls) := by
  refine .segment (s := ⟨some d, text⟩) hne ?_ h
  rw [segment_of_no_comment (by rw [commentLength?, hL]), hd]
  simp only [List.take_left]

theorem Scans.tokens (h : L.Scans text ls) (p : Position) :
    (L.cut text).problem? = none ∧
      (Segment.tokens p (L.cut text).segments).map Token.lexeme = ls := by
  induction h generalizing p with
  | nil => exact ⟨rfl, rfl⟩
  | @segment s _ _ hne hseg _ ih =>
    obtain ⟨hproblem, hlexemes⟩ := ih (s.advance p)
    rw [cut_append hne hseg]
    refine ⟨hproblem, ?_⟩
    rw [Segment.tokens, List.map_append, s.map_lexeme_token?, hlexemes]

theorem Scans.tokenize [TokenKind K] {source : String} (h : L.Scans source.toList ls) :
    ∃ us p, L.tokenize source = .ok (us ++ [Token.endAt p]) ∧ us.map Token.lexeme = ls := by
  obtain ⟨hproblem, hlexemes⟩ := h.tokens .start
  refine ⟨_, Segment.positionAfter .start (L.cut source.toList).segments, ?_, hlexemes⟩
  simp only [Lexer.tokenize, tokenizeChars, hproblem]

end Lexer

end Parsing
