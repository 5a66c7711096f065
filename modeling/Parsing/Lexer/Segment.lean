import Parsing.Lexer.Vocabulary

namespace Parsing

/-- A piece of text with the definition it matched, or with none if it is a comment. -/
structure Segment (K : Type) where
  definition? : Option (TokenDefinition K)
  text : List Char
  deriving DecidableEq, Repr

def lengthBefore? (word : List Char) : List Char → Option Nat
  | [] => if word.isEmpty then some 0 else none
  | c :: cs =>
    if word.isPrefixOf (c :: cs) then some 0 else (lengthBefore? word cs).map (· + 1)

def isLineTerminator (c : Char) : Bool := c = '\n' || c = '\r'

namespace CommentDelimiters

def blockLength (opener closer : String) (rest : List Char) : Except LexerProblem Nat :=
  match lengthBefore? closer.toList (rest.drop opener.length) with
  | some n => .ok (opener.length + n + closer.length)
  | none => .error (.unterminatedComment closer)

/-- A line comment leaves its line terminator. -/
def lineLength (rest : List Char) : Nat := (rest.takeWhile (!isLineTerminator ·)).length

def length? (d : CommentDelimiters) (rest : List Char) : Except LexerProblem (Option Nat) :=
  match d.multiLine.filter (·.1.toList.isPrefixOf rest) with
  | some (opener, closer) => some <$> blockLength opener closer rest
  | none => .ok ((d.singleLine.filter (·.toList.isPrefixOf rest)).map fun _ => lineLength rest)

end CommentDelimiters

namespace Lexer

variable {K : Type}

def commentLength? (L : Lexer K) (rest : List Char) : Except LexerProblem (Option Nat) :=
  match L.comments with
  | some d => d.length? rest
  | none => .ok none

def matchLength? (r : Regex) (rest : List Char) : Option Nat :=
  ((r.find? rest).map (·.stop)).filter (0 < ·)

def definition? (L : Lexer K) (rest : List Char) : Option (TokenDefinition K × Nat) :=
  L.definitions.findSome? fun (d, r) => (matchLength? r rest).map (d, ·)

/-- The segment in front of `rest`. A line comment whose opener begins with a line terminator would
be empty, and cutting it off would have no end; it is passed over here. -/
def segment (L : Lexer K) (rest : List Char) : Except LexerProblem (Segment K) := do
  match (← L.commentLength? rest).filter (0 < ·) with
  | some n => return ⟨none, rest.take n⟩
  | none =>
    match L.definition? rest with
    | some (d, n) => return ⟨some d, rest.take n⟩
    | none => throw (.unexpectedChar (rest.headD default))

structure Cutting (K : Type) where
  segments : List (Segment K)
  problem? : Option LexerProblem
  deriving DecidableEq, Repr

theorem pos_of_definition {L : Lexer K} {rest : List Char} {d : TokenDefinition K} {n : Nat}
    (h : L.definition? rest = some (d, n)) : 0 < n := by
  obtain ⟨x, -, hx⟩ := List.exists_of_findSome?_eq_some h
  obtain ⟨m, hm, e⟩ := Option.map_eq_some_iff.1 hx
  obtain rfl : m = n := congrArg Prod.snd e
  simpa using (Option.filter_eq_some_iff.1 hm).2

theorem length_pos_of_segment {L : Lexer K} {c : Char} {cs : List Char} {s : Segment K}
    (h : L.segment (c :: cs) = .ok s) : 0 < s.text.length := by
  unfold segment at h
  cases hc : L.commentLength? (c :: cs) with
  | error e => simp [hc, bind, Except.bind] at h
  | ok n? =>
    simp only [hc, bind, Except.bind] at h
    split at h
    · next n hn =>
      have := (Option.filter_eq_some_iff.1 hn).2
      simp only [pure, Except.pure, Except.ok.injEq] at h
      simp only [← h, List.length_take, List.length_cons]
      simp at this
      omega
    · split at h
      · next d n hd =>
        have := pos_of_definition hd
        simp only [pure, Except.pure, Except.ok.injEq] at h
        simp only [← h, List.length_take, List.length_cons]
        omega
      · simp [throw, throwThe, MonadExceptOf.throw] at h

/-- The cutting of what is left of a text after `n` more characters of the last segment. -/
def cutAfter (L : Lexer K) : Nat → List Char → Cutting K
  | _, [] => ⟨[], none⟩
  | n + 1, _ :: cs => L.cutAfter n cs
  | 0, c :: cs =>
    match L.segment (c :: cs) with
    | .error problem => ⟨[], some problem⟩
    | .ok s =>
      let more := L.cutAfter (s.text.length - 1) cs
      ⟨s :: more.segments, more.problem?⟩

def cut (L : Lexer K) (text : List Char) : Cutting K := L.cutAfter 0 text

theorem cutAfter_eq (L : Lexer K) (n : Nat) (text : List Char) :
    L.cutAfter n text = L.cut (text.drop n) := by
  induction text generalizing n with
  | nil => cases n <;> simp [cut, cutAfter]
  | cons c cs ih =>
    cases n with
    | zero => rfl
    | succ n => simpa [cutAfter] using ih n

@[simp] theorem cut_nil (L : Lexer K) : L.cut [] = ⟨[], none⟩ := rfl

theorem cut_of_error {L : Lexer K} {c : Char} {cs : List Char} {problem : LexerProblem}
    (h : L.segment (c :: cs) = .error problem) : L.cut (c :: cs) = ⟨[], some problem⟩ := by
  simp [cut, cutAfter, h]

theorem cut_of_segment {L : Lexer K} {c : Char} {cs : List Char} {s : Segment K}
    (h : L.segment (c :: cs) = .ok s) :
    L.cut (c :: cs) =
      ⟨s :: (L.cut ((c :: cs).drop s.text.length)).segments,
        (L.cut ((c :: cs).drop s.text.length)).problem?⟩ := by
  have hs : (c :: cs).drop s.text.length = cs.drop (s.text.length - 1) := by
    have hpos := Nat.pos_iff_ne_zero.1 (length_pos_of_segment h)
    obtain ⟨n, hn⟩ := Nat.exists_eq_succ_of_ne_zero hpos
    simp [hn]
  rw [hs, ← cutAfter_eq]
  simp [cut, cutAfter, h]

end Lexer

namespace Segment

variable {K : Type}

def isLineBreak (s : Segment K) : Bool := s.definition?.any (·.lineBreak)

def advance (p : Position) (s : Segment K) : Position := p.advance s.text s.isLineBreak

def token? (p : Position) (s : Segment K) : Option (Token K) :=
  match s.definition? with
  | some d => if d.isSkipped then none else some ⟨d.kind, String.ofList s.text, p⟩
  | none => none

def tokens (p : Position) : List (Segment K) → List (Token K)
  | [] => []
  | s :: ss => (s.token? p).toList ++ tokens (s.advance p) ss

def positionAfter (p : Position) (ss : List (Segment K)) : Position := ss.foldl advance p

end Segment

namespace Lexer

variable {K : Type} [TokenKind K]

def tokenizeChars (L : Lexer K) (source : List Char) : Except LexerError (List (Token K)) :=
  let cutting := L.cut source
  let stop := Segment.positionAfter .start cutting.segments
  match cutting.problem? with
  | some problem => .error ⟨stop, problem⟩
  | none => .ok (Segment.tokens .start cutting.segments ++ [Token.endAt stop])

def tokenize (L : Lexer K) (source : String) : Except LexerError (List (Token K)) :=
  L.tokenizeChars source.toList

end Lexer

end Parsing
