import Mathlib.Data.List.TakeWhile
import Mathlib.Data.Nat.Init
import Parsing.Json.Language
import Parsing.Lexer.Segment

namespace Parsing

structure GoesUpTo (before word text : List Char) : Prop where
  stands : before ++ word <+: text
  first : ∀ b, b ++ word <+: text → before.length ≤ b.length

theorem goesUpTo_of_lengthBefore? {word text : List Char} {n : Nat}
    (h : lengthBefore? word text = some n) :
    ∃ before, GoesUpTo before word text ∧ before.length = n := by
  induction text generalizing n with
  | nil =>
    rw [lengthBefore?] at h
    split at h
    · next hword =>
      cases h
      exact ⟨[], ⟨by simp [List.isEmpty_iff.1 hword], by simp⟩, rfl⟩
    · cases h
  | cons c cs ih =>
    rw [lengthBefore?] at h
    split at h
    · next hword =>
      cases h
      exact ⟨[], ⟨List.isPrefixOf_iff_prefix.1 hword, by simp⟩, rfl⟩
    · next hword =>
      obtain ⟨m, hm, rfl⟩ := Option.map_eq_some_iff.1 h
      obtain ⟨before, hbefore, rfl⟩ := ih hm
      refine ⟨c :: before, ⟨?_, fun b hb => ?_⟩, rfl⟩
      · exact List.cons_prefix_cons.2 ⟨rfl, hbefore.stands⟩
      · cases b with
        | nil => exact absurd (List.isPrefixOf_iff_prefix.2 hb) hword
        | cons d b =>
          exact Nat.succ_le_succ (hbefore.first b (List.cons_prefix_cons.1 hb).2)

theorem not_prefix_of_lengthBefore? {word text : List Char} (h : lengthBefore? word text = none)
    (before : List Char) : ¬ before ++ word <+: text := by
  induction text generalizing before with
  | nil =>
    rw [lengthBefore?] at h
    split at h
    · cases h
    · next hword =>
      intro hpre
      have hnil := List.append_eq_nil_iff.1 (List.prefix_nil.1 hpre)
      exact hword (List.isEmpty_iff.2 hnil.2)
  | cons c cs ih =>
    rw [lengthBefore?] at h
    split at h
    · cases h
    · next hword =>
      intro hpre
      cases before with
      | nil => exact hword (List.isPrefixOf_iff_prefix.2 hpre)
      | cons d before =>
        exact ih (Option.map_eq_none_iff.1 h) before (List.cons_prefix_cons.1 hpre).2

theorem lengthBefore?_of_goesUpTo {before word text : List Char} (h : GoesUpTo before word text) :
    lengthBefore? word text = some before.length := by
  cases hn : lengthBefore? word text with
  | none => exact absurd h.stands (not_prefix_of_lengthBefore? hn before)
  | some n =>
    obtain ⟨before', h', rfl⟩ := goesUpTo_of_lengthBefore? hn
    exact congrArg some (Nat.le_antisymm (h'.first _ h.stands) (h.first _ h'.stands))

/-- A match of `r` in `rest` takes `n` characters, at least one. What is before its start belongs to
it. -/
def Regex.EndsAfter (r : Regex) (rest : List Char) (n : Nat) : Prop :=
  ∃ start, r.find? rest = some ⟨start, n⟩ ∧ 0 < n

namespace Lexer

variable {K : Type} {L : Lexer K} {rest : List Char}

def OpensBlock (L : Lexer K) (opener closer : String) (rest : List Char) : Prop :=
  ∃ d, L.comments = some d ∧ d.multiLine = some (opener, closer) ∧ opener.toList <+: rest

def OpensLine (L : Lexer K) (opener : String) (rest : List Char) : Prop :=
  ∃ d, L.comments = some d ∧ d.singleLine = some opener ∧ opener.toList <+: rest

def NoBlock (L : Lexer K) (rest : List Char) : Prop :=
  ∀ opener closer, ¬ L.OpensBlock opener closer rest

def NoLine (L : Lexer K) (rest : List Char) : Prop := ∀ opener, ¬ L.OpensLine opener rest

/-- The segment at the front of a text: a block comment through its first closer, a line comment up
to the first line terminator, or what the first definition takes that takes anything. -/
inductive Stands (L : Lexer K) (rest : List Char) : Segment K → Prop
  | block {opener closer : String} {body : List Char} : L.OpensBlock opener closer rest →
    GoesUpTo body closer.toList (rest.drop opener.length) →
    Stands L rest ⟨none, opener.toList ++ body ++ closer.toList⟩
  | line {opener : String} {text after : List Char} : L.NoBlock rest → L.OpensLine opener rest →
    rest = text ++ after → (∀ c ∈ text, isLineTerminator c = false) →
    (∀ c ∈ after.head?, isLineTerminator c = true) → Stands L rest ⟨none, text⟩
  | definition {before after : List (TokenDefinition K × Regex)} {d : TokenDefinition K} {r : Regex}
      {n : Nat} : L.NoBlock rest → L.NoLine rest → L.definitions = before ++ (d, r) :: after →
    (∀ p ∈ before, ∀ m, ¬ p.2.EndsAfter rest m) → r.EndsAfter rest n →
    Stands L rest ⟨some d, rest.take n⟩

inductive Stuck (L : Lexer K) (rest : List Char) : LexerProblem → Prop
  | unterminated {opener closer : String} : L.OpensBlock opener closer rest →
    (∀ body, ¬ body ++ closer.toList <+: rest.drop opener.length) →
    Stuck L rest (.unterminatedComment closer)
  | unexpected {c : Char} : L.NoBlock rest → L.NoLine rest →
    (∀ p ∈ L.definitions, ∀ m, ¬ p.2.EndsAfter rest m) → rest.head? = some c →
    Stuck L rest (.unexpectedChar c)

structure Delimited (L : Lexer K) : Prop where
  ne_empty : ∀ d ∈ L.comments, ∀ s ∈ d.toList, s.toList ≠ []
  line : ∀ d ∈ L.comments, ∀ opener ∈ d.singleLine, ∀ c ∈ opener.toList.head?,
    isLineTerminator c = false

theorem commentLength?_of_block {opener closer : String} (h : L.OpensBlock opener closer rest) :
    L.commentLength? rest = some <$> CommentDelimiters.blockLength opener closer rest := by
  obtain ⟨d, hd, hm, hpre⟩ := h
  have hfilter : d.multiLine.filter (·.1.toList.isPrefixOf rest) = some (opener, closer) := by
    simpa [hm, Option.filter_some] using hpre
  simp only [commentLength?, hd, CommentDelimiters.length?, hfilter]

theorem commentLength?_of_noBlock (h : L.NoBlock rest) :
    (∀ opener, L.OpensLine opener rest →
      L.commentLength? rest = .ok (some (CommentDelimiters.lineLength rest))) ∧
    (L.NoLine rest → L.commentLength? rest = .ok none) := by
  cases hd : L.comments with
  | none =>
    refine ⟨fun opener hline => ?_, fun _ => by rw [commentLength?, hd]⟩
    obtain ⟨d, hd', -⟩ := hline
    cases hd.symm.trans hd'
  | some d =>
    have hfilter : d.multiLine.filter (·.1.toList.isPrefixOf rest) = none := by
      rw [Option.filter_eq_none_iff]
      rintro ⟨opener, closer⟩ hm hpre
      exact h opener closer ⟨d, hd, hm, List.isPrefixOf_iff_prefix.1 hpre⟩
    simp only [commentLength?, hd, CommentDelimiters.length?, hfilter]
    constructor
    · rintro opener ⟨d', hd', hline, hpre⟩
      cases hd.symm.trans hd'
      rw [hline, Option.filter_some, if_pos (List.isPrefixOf_iff_prefix.2 hpre)]
      rfl
    · intro hline
      suffices hnone : d.singleLine.filter (·.toList.isPrefixOf rest) = none by rw [hnone]; rfl
      rw [Option.filter_eq_none_iff]
      intro opener hs hpre
      exact hline opener ⟨d, hd, hs, List.isPrefixOf_iff_prefix.1 hpre⟩

theorem matchLength?_eq_some {r : Regex} {n : Nat} :
    matchLength? r rest = some n ↔ r.EndsAfter rest n := by
  simp only [matchLength?, Regex.EndsAfter, Option.filter_eq_some_iff, Option.map_eq_some_iff,
    decide_eq_true_eq]
  constructor
  · rintro ⟨⟨⟨start, stop⟩, hfind, rfl⟩, hpos⟩
    exact ⟨start, hfind, hpos⟩
  · rintro ⟨start, hfind, hpos⟩
    exact ⟨⟨_, hfind, rfl⟩, hpos⟩

theorem matchLength?_eq_none {r : Regex} :
    matchLength? r rest = none ↔ ∀ n, ¬ r.EndsAfter rest n := by
  simp only [Option.eq_none_iff_forall_ne_some, ne_eq, matchLength?_eq_some]

theorem definition?_eq_some {d : TokenDefinition K} {n : Nat} :
    L.definition? rest = some (d, n) ↔ ∃ before r after, L.definitions = before ++ (d, r) :: after ∧
      (∀ p ∈ before, ∀ m, ¬ p.2.EndsAfter rest m) ∧ r.EndsAfter rest n := by
  simp only [definition?, List.findSome?_eq_some_iff, Option.map_eq_some_iff,
    Option.map_eq_none_iff, matchLength?_eq_none, Prod.exists]
  constructor
  · rintro ⟨before, d', r, after, hdefs, ⟨m, hm, heq⟩, hbefore⟩
    cases heq
    exact ⟨before, r, after, hdefs, hbefore, matchLength?_eq_some.1 hm⟩
  · rintro ⟨before, r, after, hdefs, hbefore, hends⟩
    exact ⟨before, d, r, after, hdefs, ⟨n, matchLength?_eq_some.2 hends, rfl⟩, hbefore⟩

theorem definition?_eq_none :
    L.definition? rest = none ↔ ∀ p ∈ L.definitions, ∀ m, ¬ p.2.EndsAfter rest m := by
  simp only [definition?, List.findSome?_eq_none_iff, Option.map_eq_none_iff, matchLength?_eq_none]

theorem Stands.text_front {s : Segment K} (h : L.Stands rest s) : s.text <+: rest := by
  cases h with
  | block hopens hbody =>
    obtain ⟨d, -, -, after, rfl⟩ := hopens
    rw [← String.length_toList, List.drop_left] at hbody
    rw [List.append_assoc]
    exact (List.prefix_append_right_inj _).2 hbody.stands
  | line _ _ hrest => exact hrest ▸ List.prefix_append _ _
  | definition => exact List.take_prefix _ _

theorem Stands.text_ne_nil (hL : L.Delimited) {s : Segment K} (h : L.Stands rest s) :
    s.text ≠ [] := by
  cases h with
  | @block opener _ _ hopens _ =>
    obtain ⟨d, hd, hm, -⟩ := hopens
    have hopener := hL.ne_empty d hd opener (by simp [CommentDelimiters.toList, hm])
    simp [hopener]
  | @line opener _ _ _ hopens hrest _ hafter =>
    obtain ⟨d, hd, hs, hpre⟩ := hopens
    have hopener := hL.ne_empty d hd opener (by simp [CommentDelimiters.toList, hs])
    obtain ⟨c, cs, hcs⟩ := List.exists_cons_of_ne_nil hopener
    -- An empty comment would have the first character of its opener for the line terminator.
    rintro rfl
    obtain rfl : rest = _ := hrest
    obtain ⟨tail, rfl⟩ := hpre
    have hc := hL.line d hd _ hs c (by simp [hcs])
    rw [hafter c (by simp [hcs])] at hc
    cases hc
  | definition _ _ _ _ hends =>
    obtain ⟨start, hfind, hpos⟩ := hends
    have hstop := Regex.stop_find hfind
    rw [← List.length_pos_iff, List.length_take]
    dsimp only at hstop
    omega

theorem segment_of_comment {n : Nat} (h : L.commentLength? rest = .ok (some n))
    (hne : rest.take n ≠ []) : L.segment rest = .ok ⟨none, rest.take n⟩ := by
  have hpos : 0 < n := Nat.pos_of_ne_zero fun hn => hne (by rw [hn, List.take_zero])
  simp only [segment, h, bind, Except.bind, Option.filter_some, decide_eq_true hpos, if_true]
  rfl

theorem segment_of_no_comment (h : L.commentLength? rest = .ok none) :
    L.segment rest = match L.definition? rest with
      | some (d, n) => .ok ⟨some d, rest.take n⟩
      | none => .error (.unexpectedChar (rest.headD default)) := by
  simp only [segment, h, bind, Except.bind, Option.filter_none]
  rfl

theorem segment_of_stands (hL : L.Delimited) {s : Segment K} (h : L.Stands rest s) :
    L.segment rest = .ok s := by
  have hne := h.text_ne_nil hL
  have hpre := h.text_front
  cases h with
  | @block opener closer body hopens hbody =>
    have htake : rest.take (opener.length + body.length + closer.length) =
        opener.toList ++ body ++ closer.toList := by
      have hlength : (opener.toList ++ body ++ closer.toList).length =
          opener.length + body.length + closer.length := by
        simp only [List.length_append, String.length_toList]
      rw [← hlength, ← List.prefix_iff_eq_take.1 hpre]
    rw [← htake] at hne ⊢
    refine segment_of_comment ?_ hne
    rw [commentLength?_of_block hopens, CommentDelimiters.blockLength,
      lengthBefore?_of_goesUpTo hbody]
    rfl
  | @line opener text after hblock hopens hrest htext hafter =>
    have hline : rest.takeWhile (!isLineTerminator ·) = text := by
      rw [hrest, List.takeWhile_append_of_pos (by simpa using htext)]
      cases after with
      | nil => simp
      | cons c cs => simp [hafter c rfl]
    have htake : rest.take (CommentDelimiters.lineLength rest) = text := by
      rw [CommentDelimiters.lineLength, hline, hrest, List.take_left]
    rw [← htake] at hne ⊢
    exact segment_of_comment ((commentLength?_of_noBlock hblock).1 _ hopens) hne
  | definition hblock hline hdefs hbefore hends =>
    rw [segment_of_no_comment ((commentLength?_of_noBlock hblock).2 hline),
      definition?_eq_some.2 ⟨_, _, _, hdefs, hbefore, hends⟩]

theorem segment_of_stuck {problem : LexerProblem} (h : L.Stuck rest problem) :
    L.segment rest = .error problem := by
  cases h with
  | @unterminated opener closer hopens hbody =>
    have hnone : lengthBefore? closer.toList (rest.drop opener.length) = none := by
      rw [Option.eq_none_iff_forall_ne_some]
      intro n hn
      obtain ⟨body, hgoes, -⟩ := goesUpTo_of_lengthBefore? hn
      exact hbody body hgoes.stands
    simp only [segment, commentLength?_of_block hopens, CommentDelimiters.blockLength, hnone]
    rfl
  | unexpected hblock hline hdefs hhead =>
    rw [segment_of_no_comment ((commentLength?_of_noBlock hblock).2 hline),
      definition?_eq_none.2 hdefs, List.headD_eq_head?_getD, hhead]
    rfl

theorem stands_or_stuck (hrest : rest ≠ []) :
    (∃ s, L.Stands rest s) ∨ ∃ problem, L.Stuck rest problem := by
  by_cases hblock : L.NoBlock rest
  · by_cases hline : L.NoLine rest
    · cases hdef : L.definition? rest with
      | some p =>
        obtain ⟨before, r, after, hdefs, hbefore, hends⟩ := definition?_eq_some.1 hdef
        exact .inl ⟨_, .definition hblock hline hdefs hbefore hends⟩
      | none =>
        obtain ⟨c, cs, rfl⟩ := List.exists_cons_of_ne_nil hrest
        exact .inr ⟨_, .unexpected hblock hline (definition?_eq_none.1 hdef) rfl⟩
    · obtain ⟨opener, hopens⟩ := not_forall_not.1 hline
      have hrest : rest.takeWhile (!isLineTerminator ·) ++ rest.dropWhile (!isLineTerminator ·) =
        rest := List.takeWhile_append_dropWhile
      refine .inl ⟨_, .line hblock hopens hrest.symm (fun c hc => ?_) fun c hc => ?_⟩
      · simpa using List.mem_takeWhile_imp hc
      · have hnot := List.head?_dropWhile_not (!isLineTerminator ·) rest
        rw [Option.mem_def.1 hc] at hnot
        simpa using hnot
  · obtain ⟨opener, hblock⟩ := not_forall.1 hblock
    obtain ⟨closer, hopens⟩ := not_forall_not.1 hblock
    cases hn : lengthBefore? closer.toList (rest.drop opener.length) with
    | some n =>
      obtain ⟨body, hbody, -⟩ := goesUpTo_of_lengthBefore? hn
      exact .inl ⟨_, .block hopens hbody⟩
    | none => exact .inr ⟨_, .unterminated hopens (not_prefix_of_lengthBefore? hn)⟩

theorem stands_of_segment (hL : L.Delimited) (hrest : rest ≠ []) {s : Segment K}
    (h : L.segment rest = .ok s) : L.Stands rest s := by
  obtain ⟨s', hs'⟩ | ⟨problem, hstuck⟩ := stands_or_stuck (L := L) hrest
  · cases h.symm.trans (segment_of_stands hL hs')
    exact hs'
  · cases h.symm.trans (segment_of_stuck hstuck)

theorem stuck_of_segment (hL : L.Delimited) (hrest : rest ≠ []) {problem : LexerProblem}
    (h : L.segment rest = .error problem) : L.Stuck rest problem := by
  obtain ⟨s, hs⟩ | ⟨problem', hstuck⟩ := stands_or_stuck (L := L) hrest
  · cases h.symm.trans (segment_of_stands hL hs)
  · cases h.symm.trans (segment_of_stuck hstuck)
    exact hstuck

inductive Cuts (L : Lexer K) : List Char → List (Segment K) → List Char → Prop
  | nil {rest : List Char} : Cuts L rest [] rest
  | cons {s : Segment K} {ss : List (Segment K)} {after rest : List Char} :
    s.text ≠ [] → L.Stands (s.text ++ after) s → Cuts L after ss rest →
    Cuts L (s.text ++ after) (s :: ss) rest

variable {source : List Char} {ss : List (Segment K)}

theorem Cuts.eq_append (h : L.Cuts source ss rest) : source = ss.flatMap (·.text) ++ rest := by
  induction h with
  | nil => rfl
  | cons _ _ _ ih => rw [List.flatMap_cons, List.append_assoc, ← ih]

theorem cut_append {s : Segment K} {after : List Char} (hne : s.text ≠ [])
    (h : L.segment (s.text ++ after) = .ok s) :
    L.cut (s.text ++ after) = ⟨s :: (L.cut after).segments, (L.cut after).problem?⟩ := by
  have hcut : ∀ text, text = s.text ++ after →
      L.cut text = ⟨s :: (L.cut after).segments, (L.cut after).problem?⟩ := by
    intro text htext
    cases text with
    | nil => exact absurd (List.append_eq_nil_iff.1 htext.symm).1 hne
    | cons c cs => rw [cut_of_segment (htext ▸ h), htext, List.drop_left]
  exact hcut _ rfl

theorem cut_of_cuts (hL : L.Delimited) (h : L.Cuts source ss rest) :
    L.cut source = ⟨ss ++ (L.cut rest).segments, (L.cut rest).problem?⟩ := by
  induction h with
  | nil => rfl
  | cons hne hstands _ ih =>
    rw [cut_append hne (segment_of_stands hL hstands), ih, List.cons_append]

theorem text_prefix_of_segment {s : Segment K} (h : L.segment rest = .ok s) : s.text <+: rest := by
  cases hc : L.commentLength? rest with
  | error e => simp [segment, hc, bind, Except.bind] at h
  | ok n? =>
    simp only [segment, hc, bind, Except.bind] at h
    split at h
    · cases h
      exact List.take_prefix _ _
    · split at h
      · cases h
        exact List.take_prefix _ _
      · cases h

@[elab_as_elim]
theorem cut_induction (L : Lexer K) {motive : List Char → Prop} (nil : motive [])
    (error : ∀ {rest : List Char} {problem : LexerProblem}, rest ≠ [] →
      L.segment rest = .error problem → motive rest)
    (ok : ∀ {s : Segment K} {after : List Char}, s.text ≠ [] →
      L.segment (s.text ++ after) = .ok s → motive after → motive (s.text ++ after))
    (source : List Char) : motive source := by
  induction hlength : source.length using Nat.strong_induction_on generalizing source with
  | _ n ih =>
    subst hlength
    cases source with
    | nil => exact nil
    | cons c cs =>
      cases hs : L.segment (c :: cs) with
      | error problem => exact error (List.cons_ne_nil _ _) hs
      | ok s =>
        have hpos := length_pos_of_segment hs
        obtain ⟨after, hafter⟩ := text_prefix_of_segment hs
        rw [← hafter] at hs ih ⊢
        exact ok (List.ne_nil_of_length_pos hpos) hs (ih _ (by simpa using hpos) after rfl)

theorem cut_of_segment_error {problem : LexerProblem} (hrest : rest ≠ [])
    (h : L.segment rest = .error problem) : L.cut rest = ⟨[], some problem⟩ := by
  obtain ⟨c, cs, rfl⟩ := List.exists_cons_of_ne_nil hrest
  exact cut_of_error h

theorem front_of_cut (L : Lexer K) (source : List Char) :
    (L.cut source).segments.flatMap (·.text) <+: source := by
  induction source using cut_induction L with
  | nil => simp
  | error hrest h => simp [cut_of_segment_error hrest h]
  | ok hne h ih =>
    rw [cut_append hne h, List.flatMap_cons]
    exact (List.prefix_append_right_inj _).2 ih

theorem text_ne_nil_of_mem_cut (L : Lexer K) (source : List Char) :
    ∀ s ∈ (L.cut source).segments, s.text ≠ [] := by
  induction source using cut_induction L with
  | nil => simp
  | error hrest h => simp [cut_of_segment_error hrest h]
  | ok hne h ih =>
    rw [cut_append hne h]
    exact List.forall_mem_cons.2 ⟨hne, ih⟩

theorem cuts_cut (hL : L.Delimited) (source : List Char) :
    ∃ rest, L.Cuts source (L.cut source).segments rest ∧
      ((rest = [] ∧ (L.cut source).problem? = none) ∨
        ∃ problem, (L.cut source).problem? = some problem ∧ L.Stuck rest problem) := by
  induction source using cut_induction L with
  | nil => exact ⟨[], .nil, .inl ⟨rfl, rfl⟩⟩
  | error hrest h =>
    rw [cut_of_segment_error hrest h]
    exact ⟨_, .nil, .inr ⟨_, rfl, stuck_of_segment hL hrest h⟩⟩
  | ok hne h ih =>
    obtain ⟨rest, hcuts, hend⟩ := ih
    rw [cut_append hne h]
    exact ⟨rest, .cons hne (stands_of_segment hL (by simp [hne]) h) hcuts, hend⟩

end Lexer

end Parsing
