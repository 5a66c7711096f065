import Parsing.Proofs.Lexer.Anchors
import Parsing.Proofs.Lexer.Positions

namespace Parsing

variable {K K' : Type}

def Segment.map (f : TokenDefinition K → TokenDefinition K') (s : Segment K) : Segment K' :=
  ⟨s.definition?.map f, s.text⟩

namespace Lexer

variable {L L' : Lexer K} {rest : List Char}

def map (f : TokenDefinition K → TokenDefinition K') (L : Lexer K) : Lexer K' :=
  ⟨L.definitions.map fun (d, r) => (f d, r), L.comments⟩

section

variable (f : TokenDefinition K → TokenDefinition K')

theorem definition?_map (L : Lexer K) (rest : List Char) :
    (L.map f).definition? rest = (L.definition? rest).map fun (d, n) => (f d, n) := by
  simp only [definition?, map, List.findSome?_map, List.map_findSome?]
  congr 1
  funext p
  simp [Function.comp_def]

theorem segment_map (L : Lexer K) (rest : List Char) :
    (L.map f).segment rest = (L.segment rest).map (Segment.map f) := by
  have hcomment : (L.map f).commentLength? rest = L.commentLength? rest := rfl
  simp only [segment, hcomment, definition?_map]
  cases L.commentLength? rest with
  | error problem => rfl
  | ok n? =>
    simp only [bind, Except.bind]
    cases n?.filter (0 < ·) with
    | some n => rfl
    | none =>
      cases L.definition? rest with
      | none => rfl
      | some p => rfl

theorem cut_map (L : Lexer K) (source : List Char) :
    (L.map f).cut source =
      ⟨(L.cut source).segments.map (Segment.map f), (L.cut source).problem?⟩ := by
  induction source using cut_induction L with
  | nil => rfl
  | error hrest h =>
    rw [cut_of_segment_error hrest h, cut_of_segment_error hrest (by rw [segment_map, h]; rfl)]
    rfl
  | @ok s after hne h ih =>
    have hmap : (L.map f).segment ((s.map f).text ++ after) = .ok (s.map f) := by
      rw [Segment.map, segment_map, h]
      rfl
    have hcut := cut_append (s := s.map f) hne hmap
    rw [ih] at hcut
    rw [cut_append hne h]
    exact hcut

end

structure Extends (L L' : Lexer K) : Prop where
  comments_eq : L'.comments = L.comments
  definitions_prefix : L.definitions <+: L'.definitions

namespace Extends

theorem commentLength?_eq (h : Extends L L') : L'.commentLength? rest = L.commentLength? rest := by
  rw [commentLength?, commentLength?, h.comments_eq]

theorem definition?_eq_some (h : Extends L L') {p : TokenDefinition K × Nat}
    (hp : L.definition? rest = some p) : L'.definition? rest = some p := by
  obtain ⟨more, hmore⟩ := h.definitions_prefix
  rw [definition?, ← hmore, List.findSome?_append, ← definition?, hp]
  rfl

theorem segment_of_ok (h : Extends L L') {s : Segment K} (hs : L.segment rest = .ok s) :
    L'.segment rest = .ok s := by
  obtain ⟨n?, hn, hs⟩ := Except.bind_eq_ok.1 hs
  rw [segment, h.commentLength?_eq, hn]
  split at hs
  · next n hpos => simpa [bind, Except.bind, hpos] using hs
  · next hnone =>
    split at hs
    · next d n hdef => simpa [bind, Except.bind, hnone, h.definition?_eq_some hdef] using hs
    · cases hs

theorem segment_of_error (h : Extends L L') {problem : LexerProblem}
    (hproblem : L.segment rest = .error problem) :
    L'.segment rest = .error problem ∨ ∃ c, problem = .unexpectedChar c := by
  cases hn : L.commentLength? rest with
  | error e =>
    refine .inl (Eq.trans ?_ hproblem)
    simp [segment, h.commentLength?_eq, hn, bind, Except.bind]
  | ok n? =>
    simp only [segment, hn, bind, Except.bind] at hproblem
    split at hproblem
    · cases hproblem
    · split at hproblem
      · cases hproblem
      · cases hproblem
        exact .inr ⟨_, rfl⟩

theorem cut (h : Extends L L') (source : List Char) :
    L'.cut source = L.cut source ∨ (∃ c, (L.cut source).problem? = some (.unexpectedChar c)) ∧
      (L.cut source).segments <+: (L'.cut source).segments := by
  induction source using cut_induction L with
  | nil => exact .inl rfl
  | error hrest hproblem =>
    rw [cut_of_segment_error hrest hproblem]
    rcases h.segment_of_error hproblem with hsame | ⟨c, rfl⟩
    · exact .inl (cut_of_segment_error hrest hsame)
    · exact .inr ⟨⟨c, rfl⟩, List.nil_prefix⟩
  | ok hne hs ih =>
    rw [cut_append hne hs, cut_append hne (h.segment_of_ok hs)]
    rcases ih with hsame | ⟨hstops, hfront⟩
    · exact .inl (by rw [hsame])
    · exact .inr ⟨hstops, List.cons_prefix_cons.2 ⟨rfl, hfront⟩⟩

theorem cut_prefix (h : Extends L L') (source : List Char) :
    (L.cut source).segments <+: (L'.cut source).segments := by
  rcases h.cut source with hsame | ⟨-, hfront⟩
  · rw [hsame]
  · exact hfront

theorem tokenize [TokenKind K] (h : Extends L L') (source : String) :
    L'.tokenize source = L.tokenize source ∨
      ∃ p c, L.tokenize source = .error ⟨p, .unexpectedChar c⟩ := by
  rcases h.cut source.toList with hsame | ⟨⟨c, hstops⟩, -⟩
  · exact .inl (by rw [Lexer.tokenize, tokenizeChars, hsame]; rfl)
  · exact .inr ⟨_, c, by rw [Lexer.tokenize, tokenizeChars, hstops]⟩

end Extends

end Lexer

namespace TokenDefinition

def numbered (i : Nat) (d : TokenDefinition K) : TokenDefinition (Nat × K) :=
  ⟨(i, d.kind), d.pattern, d.discard, d.lineBreak⟩

def unnumbered (d : TokenDefinition (Nat × K)) : TokenDefinition K :=
  ⟨d.kind.2, d.pattern, d.discard, d.lineBreak⟩

@[simp] theorem unnumbered_numbered (i : Nat) (d : TokenDefinition K) :
    (d.numbered i).unnumbered = d := rfl

theorem lineBreak_unnumbered (d : TokenDefinition (Nat × K)) :
    d.unnumbered.lineBreak = d.lineBreak := rfl

def toggled (d : TokenDefinition K) : TokenDefinition K := { d with discard := !d.discard }

def toggleAll (chosen : Nat → Bool) (definitions : List (TokenDefinition K)) :
    List (TokenDefinition K) :=
  definitions.mapIdx fun i d => if chosen i then d.toggled else d

end TokenDefinition

namespace Lexer

def numbered (L : Lexer K) : Lexer (Nat × K) :=
  ⟨L.definitions.mapIdx fun i (d, r) => (d.numbered i, r), L.comments⟩

variable {L L' : Lexer K}

theorem map_unnumbered (L : Lexer K) : L.numbered.map TokenDefinition.unnumbered = L := by
  have hdefinitions : (L.numbered.map TokenDefinition.unnumbered).definitions = L.definitions := by
    refine List.ext_getElem? fun i => ?_
    simp [numbered, map, Function.comp_def]
  exact congrArg (Lexer.mk · L.comments) hdefinitions

theorem Extends.numbered (h : Extends L L') : Extends L.numbered L'.numbered := by
  refine ⟨h.comments_eq, ?_⟩
  obtain ⟨more, hmore⟩ := h.definitions_prefix
  simp only [Lexer.numbered, ← hmore, List.mapIdx_append]
  exact List.prefix_append _ _

def toggleAll (chosen : Nat → Bool) (L : Lexer K) : Lexer K :=
  ⟨L.definitions.mapIdx fun i (d, r) => (if chosen i then d.toggled else d, r), L.comments⟩

theorem numbered_toggleAll (chosen : Nat → Bool) (L : Lexer K) :
    (L.toggleAll chosen).numbered =
      L.numbered.map fun d => if chosen d.kind.1 then d.toggled else d := by
  have hdefinitions : (L.toggleAll chosen).numbered.definitions =
      (L.numbered.map fun d => if chosen d.kind.1 then d.toggled else d).definitions := by
    refine List.ext_getElem? fun i => ?_
    simp only [numbered, toggleAll, map, List.getElem?_map, List.getElem?_mapIdx, Option.map_map]
    congr 1
    funext p
    simp only [Function.comp_apply, TokenDefinition.numbered]
    split <;> rfl
  exact congrArg (Lexer.mk · L.comments) hdefinitions

variable {definitions more : List (TokenDefinition K)} {comments : Option CommentDelimiters}

theorem extends_of_build (h : build definitions comments = .ok L)
    (h' : build (definitions ++ more) comments = .ok L') : Extends L L' := by
  obtain ⟨ds, hds, h⟩ := Except.bind_eq_ok.1 h
  obtain ⟨ds', hds', h'⟩ := Except.bind_eq_ok.1 h'
  rw [List.mapM_append, hds] at hds'
  obtain ⟨_, hds, hds'⟩ := Except.bind_eq_ok.1 hds'
  cases hds
  obtain ⟨_, -, hds'⟩ := Except.bind_eq_ok.1 hds'
  cases hds'
  split at h
  · cases h
  · next hempty =>
    rw [if_neg hempty] at h'
    cases h
    cases h'
    exact ⟨rfl, List.prefix_append _ _⟩

theorem build_toggleAll (chosen : Nat → Bool) (h : build definitions comments = .ok L) :
    build (TokenDefinition.toggleAll chosen definitions) comments = .ok (L.toggleAll chosen) := by
  obtain ⟨⟨rfl, hread⟩, hcomments, hne⟩ := build_eq_ok.1 h
  refine build_eq_ok.2 ⟨⟨List.ext_getElem? fun i => ?_, fun p hp => ?_⟩, hcomments, hne⟩
  · simp [toggleAll, TokenDefinition.toggleAll, Function.comp_def]
  · obtain ⟨i, hi, rfl⟩ := List.mem_mapIdx.1 hp
    have hpattern : (if chosen i then L.definitions[i].1.toggled else L.definitions[i].1).pattern =
        L.definitions[i].1.pattern := by
      split <;> rfl
    -- A rewrite would run the reader of the pattern.
    exact (congrArg (fun pattern => Regex.read (anchored pattern)) hpattern).trans
      (hread _ (List.getElem_mem hi))

end Lexer

namespace Segment

def recognized (p : Position) : List (Segment (Nat × K)) → List (Nat × Token K)
  | [] => []
  | s :: ss =>
    (s.definition?.map fun d => (d.kind.1, ⟨d.kind.2, String.ofList s.text, p⟩)).toList ++
      recognized (s.advance p) ss

variable {f : TokenDefinition K → TokenDefinition K'}

theorem advance_map (hbreak : ∀ d, (f d).lineBreak = d.lineBreak) (p : Position) (s : Segment K) :
    (s.map f).advance p = s.advance p := by
  have hline : (s.map f).isLineBreak = s.isLineBreak := by
    simp only [isLineBreak, map, Option.any_map, hbreak]
  rw [advance, advance, hline]
  rfl

theorem positionAfter_map (hbreak : ∀ d, (f d).lineBreak = d.lineBreak) (p : Position)
    (ss : List (Segment K)) : positionAfter p (ss.map (map f)) = positionAfter p ss := by
  simp only [positionAfter, List.foldl_map, advance_map hbreak]

theorem recognized_map {f : TokenDefinition (Nat × K) → TokenDefinition (Nat × K)}
    (hkind : ∀ d, (f d).kind = d.kind) (hbreak : ∀ d, (f d).lineBreak = d.lineBreak) (p : Position)
    (ss : List (Segment (Nat × K))) : recognized p (ss.map (map f)) = recognized p ss := by
  induction ss generalizing p with
  | nil => rfl
  | cons s ss ih =>
    rw [List.map_cons, recognized, recognized, advance_map hbreak, ih]
    simp only [map, Option.map_map, Function.comp_def, hkind]

theorem tokens_eq_recognized {skips : Nat → Bool} {ss : List (Segment (Nat × K))}
    (hskips : ∀ s ∈ ss, ∀ d ∈ s.definition?, d.isSkipped = skips d.kind.1) (p : Position) :
    tokens p (ss.map (map TokenDefinition.unnumbered)) =
      ((recognized p ss).filter fun r => !skips r.1).map (·.2) := by
  induction ss generalizing p with
  | nil => rfl
  | cons s ss ih =>
    rw [List.forall_mem_cons] at hskips
    rw [List.map_cons, tokens, advance_map TokenDefinition.lineBreak_unnumbered, ih hskips.2, recognized,
      List.filter_append, List.map_append]
    congr 1
    obtain ⟨d?, text⟩ := s
    cases d? with
    | none => rfl
    | some d =>
      have hd : d.unnumbered.isSkipped = skips d.kind.1 := hskips.1 d rfl
      cases hskip : skips d.kind.1 with
      | true => simp [token?, map, hd, hskip]
      | false =>
        simp [token?, map, hd, hskip]
        rfl

theorem mem_recognized {ss : List (Segment (Nat × K))} {p : Position} {r : Nat × Token K}
    (hr : r ∈ recognized p ss) : ∃ s ∈ ss, ∃ d, s.definition? = some d ∧ d.kind.1 = r.1 := by
  induction ss generalizing p with
  | nil => cases hr
  | cons s ss ih =>
    rcases List.mem_append.1 hr with hs | hss
    · obtain ⟨d, hd, rfl⟩ := Option.map_eq_some_iff.1 (Option.mem_toList.1 hs)
      exact ⟨s, List.mem_cons_self, d, hd, rfl⟩
    · obtain ⟨s', hs', hd⟩ := ih hss
      exact ⟨s', List.mem_cons_of_mem _ hs', hd⟩

end Segment

namespace TokenDefinition

def skips (definitions : List (TokenDefinition K)) (i : Nat) : Bool :=
  definitions[i]?.any (·.isSkipped)

theorem skips_toggleAll {definitions : List (TokenDefinition K)} {chosen : Nat → Bool}
    (hchosen : ∀ i d, definitions[i]? = some d → chosen i = true → d.lineBreak = false) {i : Nat}
    (hi : i < definitions.length) :
    skips (toggleAll chosen definitions) i =
      if chosen i then !skips definitions i else skips definitions i := by
  have hline := hchosen i _ (List.getElem?_eq_getElem hi)
  simp only [skips, toggleAll, List.getElem?_mapIdx, List.getElem?_eq_getElem hi]
  by_cases h : chosen i = true
  · simp [h, toggled, isSkipped, hline h]
  · simp [h]

end TokenDefinition

namespace Lexer

def recognized (L : Lexer K) (source : String) : List (Nat × Token K) :=
  Segment.recognized .start (L.numbered.cut source.toList).segments

def select (wanted : Nat → Bool) (L : Lexer K) (source : String) : List (Token K) :=
  ((L.recognized source).filter fun r => wanted r.1).map (·.2)

def stop (L : Lexer K) (source : String) : Except LexerError Position :=
  let cutting := L.cut source.toList
  let stop := Segment.positionAfter .start cutting.segments
  match cutting.problem? with
  | some problem => .error ⟨stop, problem⟩
  | none => .ok stop

variable {L L' : Lexer K} {source : String}

theorem position_of_stop {e : LexerError} (h : L.stop source = .error e) :
    e.position = Segment.positionAfter .start (L.cut source.toList).segments := by
  dsimp only [stop] at h
  split at h
  · cases h
    rfl
  · cases h

theorem tokenize_eq_map_stop [TokenKind K] (L : Lexer K) (source : String) :
    L.tokenize source = (L.stop source).map fun stop =>
      Segment.tokens .start (L.cut source.toList).segments ++ [Token.endAt stop] := by
  dsimp only [tokenize, tokenizeChars, stop]
  cases (L.cut source.toList).problem? <;> rfl

theorem stop_numbered (L : Lexer K) (source : String) : L.numbered.stop source = L.stop source := by
  conv_rhs => rw [← L.map_unnumbered]
  simp only [stop, cut_map, Segment.positionAfter_map TokenDefinition.lineBreak_unnumbered]

theorem definition_of_mem_cut {source : List Char} {s : Segment K}
    (hs : s ∈ (L.cut source).segments) {d : TokenDefinition K} (hd : s.definition? = some d) :
    ∃ r, (d, r) ∈ L.definitions := by
  obtain ⟨before, after, hcut⟩ := List.append_of_mem hs
  obtain ⟨rest, -, hsegment⟩ := L.segment_of_cut source before s after hcut
  obtain ⟨n, hn, -⟩ := definition?_of_segment hsegment hd
  obtain ⟨front, r, back, hdefinitions, -, -⟩ := definition?_eq_some.1 hn
  exact ⟨r, by simp [hdefinitions]⟩

theorem numbered_of_mem_cut {source : List Char} {s : Segment (Nat × K)}
    (hs : s ∈ (L.numbered.cut source).segments) {d : TokenDefinition (Nat × K)}
    (hd : s.definition? = some d) :
    ∃ d', (L.definitions.map (·.1))[d.kind.1]? = some d' ∧ d = d'.numbered d.kind.1 := by
  obtain ⟨r, hmem⟩ := definition_of_mem_cut hs hd
  obtain ⟨i, hi, heq⟩ := List.mem_mapIdx.1 hmem
  cases heq
  exact ⟨_, by simp [TokenDefinition.numbered, hi], rfl⟩

theorem isSkipped_of_mem_cut {source : List Char} {s : Segment (Nat × K)}
    (hs : s ∈ (L.numbered.cut source).segments) {d : TokenDefinition (Nat × K)}
    (hd : s.definition? = some d) :
    d.isSkipped = TokenDefinition.skips (L.definitions.map (·.1)) d.kind.1 := by
  obtain ⟨d', hd', heq⟩ := numbered_of_mem_cut hs hd
  rw [TokenDefinition.skips, hd', heq]
  rfl

theorem lt_of_mem_recognized {r : Nat × Token K} (hr : r ∈ L.recognized source) :
    r.1 < (L.definitions.map (·.1)).length := by
  obtain ⟨s, hs, d, hd, hkind⟩ := Segment.mem_recognized hr
  obtain ⟨d', hd', -⟩ := numbered_of_mem_cut hs hd
  rw [hkind] at hd'
  exact (List.getElem?_eq_some_iff.1 hd').1

theorem recognized_toggleAll (chosen : Nat → Bool) (L : Lexer K) (source : String) :
    (L.toggleAll chosen).recognized source = L.recognized source := by
  rw [recognized, numbered_toggleAll, cut_map]
  refine Segment.recognized_map (fun d => ?_) (fun d => ?_) _ _ <;> split <;> rfl

theorem stop_toggleAll (chosen : Nat → Bool) (L : Lexer K) (source : String) :
    (L.toggleAll chosen).stop source = L.stop source := by
  have hbreak (d : TokenDefinition (Nat × K)) :
      (if chosen d.kind.1 then d.toggled else d).lineBreak = d.lineBreak := by
    split <;> rfl
  rw [← stop_numbered, ← L.stop_numbered, numbered_toggleAll]
  simp only [stop, cut_map, Segment.positionAfter_map hbreak]

theorem select_congr {wanted wanted' : Nat → Bool}
    (h : ∀ i < (L.definitions.map (·.1)).length, wanted i = wanted' i) :
    L.select wanted source = L.select wanted' source := by
  rw [select, select, List.filter_congr fun r hr => h _ (lt_of_mem_recognized hr)]

variable [TokenKind K] {definitions : List (TokenDefinition K)}
  {comments : Option CommentDelimiters}

theorem tokenize_eq (h : build definitions comments = .ok L) (source : String) :
    L.tokenize source = (L.stop source).map fun stop =>
      L.select (!TokenDefinition.skips definitions ·) source ++ [Token.endAt stop] := by
  obtain ⟨⟨rfl, -⟩, -, -⟩ := build_eq_ok.1 h
  have htokens : Segment.tokens .start (L.cut source.toList).segments =
      L.select (!TokenDefinition.skips (L.definitions.map (·.1)) ·) source := by
    conv_lhs => rw [← L.map_unnumbered, cut_map]
    exact Segment.tokens_eq_recognized (fun s hs d hd => isSkipped_of_mem_cut hs hd) .start
  rw [tokenize_eq_map_stop, htokens]

theorem tokenize_toggleAll {chosen : Nat → Bool} (h : build definitions comments = .ok L)
    (hchosen : ∀ i d, definitions[i]? = some d → chosen i = true → d.lineBreak = false)
    (source : String) :
    (L.toggleAll chosen).tokenize source = (L.stop source).map fun stop =>
      L.select (fun i => if chosen i then TokenDefinition.skips definitions i
        else !TokenDefinition.skips definitions i) source ++ [Token.endAt stop] := by
  have hselect : (L.toggleAll chosen).select
      (!TokenDefinition.skips (TokenDefinition.toggleAll chosen definitions) ·) source =
      L.select (!TokenDefinition.skips (TokenDefinition.toggleAll chosen definitions) ·) source := by
    rw [select, recognized_toggleAll, select]
  rw [tokenize_eq (build_toggleAll chosen h), stop_toggleAll, hselect]
  congr
  funext stop
  congr 1
  refine select_congr fun i hi => ?_
  rw [(build_eq_ok.1 h).1.1] at hi
  rw [TokenDefinition.skips_toggleAll hchosen hi]
  split
  · rw [Bool.not_not]
  · rfl

end Lexer

variable [TokenKind K]

/-- Definitions that are put behind the others change nothing but what comes of a character that no
definition begins with, and nothing before it. Definitions that are toggled, none of which breaks
lines, are recognized as before, and their tokens are left out or put in where they are. -/
theorem vocabulary_changes_are_local {definitions : List (TokenDefinition K)}
    {comments : Option CommentDelimiters} {L : Lexer K}
    (hL : Lexer.build definitions comments = .ok L) :
    (∀ more L', Lexer.build (definitions ++ more) comments = .ok L' → ∀ source : String,
      (∀ ts, L.tokenize source = .ok ts → L'.tokenize source = .ok ts) ∧
      (∀ p closer, L.tokenize source = .error ⟨p, .unterminatedComment closer⟩ →
        L'.tokenize source = .error ⟨p, .unterminatedComment closer⟩) ∧
      ∀ p c, L.tokenize source = .error ⟨p, .unexpectedChar c⟩ → ∃ front rest,
        front = (L.numbered.cut source.toList).segments ∧
        source.toList = front.flatMap (·.text) ++ rest ∧
        p = Segment.positionAfter .start front ∧
        front <+: (L'.numbered.cut source.toList).segments) ∧
    ∀ chosen : Nat → Bool,
      (∀ i d, definitions[i]? = some d → chosen i = true → d.lineBreak = false) → ∃ L',
      Lexer.build (TokenDefinition.toggleAll chosen definitions) comments = .ok L' ∧
      ∀ source : String, L'.recognized source = L.recognized source ∧
        (∀ e, L.tokenize source = .error e ↔ L'.tokenize source = .error e) ∧
        ∀ ts, L.tokenize source = .ok ts → ∃ last,
          ts = L.select (fun i => !TokenDefinition.skips definitions i) source ++ [last] ∧
          L'.tokenize source = .ok (L.select (fun i =>
            if chosen i then TokenDefinition.skips definitions i
            else !TokenDefinition.skips definitions i) source ++ [last]) := by
  refine ⟨fun more L' hL' source => ?_, fun chosen hchosen =>
    ⟨L.toggleAll chosen, Lexer.build_toggleAll chosen hL, fun source => ?_⟩⟩
  · have hextends := Lexer.extends_of_build hL hL'
    refine ⟨fun ts hts => ?_, fun p closer he => ?_, fun p c he => ?_⟩
    · rcases hextends.tokenize source with hsame | ⟨p, c, he⟩
      · rw [hsame, hts]
      · cases hts.symm.trans he
    · rcases hextends.tokenize source with hsame | ⟨p', c, he'⟩
      · rw [hsame, he]
      · cases he.symm.trans he'
    · obtain ⟨rest, hrest⟩ := Lexer.front_of_cut L.numbered source.toList
      refine ⟨_, rest, rfl, hrest.symm, ?_, hextends.numbered.cut_prefix _⟩
      rw [Lexer.tokenize_eq_map_stop] at he
      cases hstop : L.stop source with
      | error e =>
        rw [hstop] at he
        cases he
        exact Lexer.position_of_stop (L.stop_numbered source ▸ hstop)
      | ok stop =>
        rw [hstop] at he
        cases he
  · have hrecognized := Lexer.recognized_toggleAll chosen L source
    refine ⟨hrecognized, ?_⟩
    rw [Lexer.tokenize_eq hL, Lexer.tokenize_toggleAll hL hchosen]
    cases L.stop source with
    | error e => exact ⟨fun e => Iff.rfl, fun ts hts => by cases hts⟩
    | ok stop =>
      refine ⟨fun e => ⟨fun he => (by cases he), fun he => (by cases he)⟩, fun ts hts => ?_⟩
      cases hts
      exact ⟨_, rfl, rfl⟩

namespace Sheet

def plain : Lexer Json.TokenType := { lexer with comments := none }

def marks : Lexer Json.TokenType := { plain with definitions := lexer.definitions.take 3 }

theorem build_plain : Lexer.build vocabulary none = .ok plain :=
  Lexer.build_eq_ok.2 ⟨(Lexer.build_eq_ok.1 build_vocabulary).1, rfl, by simp⟩

theorem build_marks : Lexer.build (vocabulary.take 3) none = .ok marks := by
  refine Lexer.build_eq_ok.2 ⟨⟨rfl, fun p hp => ?_⟩, rfl, by simp⟩
  exact (Lexer.build_eq_ok.1 build_vocabulary).1.2 p (List.mem_of_mem_take hp)

theorem recognized_plain : plain.recognized "1: 2" =
    [(0, ⟨.int, "1", ⟨0, 0, 0⟩⟩), (1, ⟨.colon, ":", ⟨0, 1, 1⟩⟩), (3, ⟨.blank, " ", ⟨0, 2, 2⟩⟩),
      (0, ⟨.int, "2", ⟨0, 3, 3⟩⟩)] := by
  decide +kernel

theorem changed_marks :
    Lexer.build (vocabulary.take 3) none = .ok marks ∧ Lexer.build vocabulary none = .ok plain ∧
      marks.tokenize "1: 2" = .error ⟨⟨0, 2, 2⟩, .unexpectedChar ' '⟩ ∧
      (marks.numbered.cut "1: 2".toList).segments <+:
        (plain.numbered.cut "1: 2".toList).segments ∧
      ∃ toggled, Lexer.build (TokenDefinition.toggleAll (fun i => i = 1 || i = 3) vocabulary) none =
          .ok toggled ∧
        toggled.tokenize "1: 2" = .ok [⟨.int, "1", ⟨0, 0, 0⟩⟩, ⟨.blank, " ", ⟨0, 2, 2⟩⟩,
          ⟨.int, "2", ⟨0, 3, 3⟩⟩, ⟨.endMarker, "", ⟨0, 4, 4⟩⟩] := by
  have herror : marks.tokenize "1: 2" = .error ⟨⟨0, 2, 2⟩, .unexpectedChar ' '⟩ := by decide +kernel
  refine ⟨build_marks, build_plain, herror, ?_, ?_⟩
  · obtain ⟨_, _, rfl, -, -, hfront⟩ := ((vocabulary_changes_are_local build_marks).1
      (vocabulary.drop 3) plain build_plain "1: 2").2.2 _ _ herror
    exact hfront
  · have hchosen : ∀ i d, vocabulary[i]? = some d → (i = 1 || i = 3 : Bool) = true →
        d.lineBreak = false := by
      intro i d hd hi
      rcases (by simpa using hi : i = 1 ∨ i = 3) with rfl | rfl <;> cases hd <;> rfl
    have htokens : plain.tokenize "1: 2" = .ok [⟨.int, "1", ⟨0, 0, 0⟩⟩, ⟨.colon, ":", ⟨0, 1, 1⟩⟩,
        ⟨.int, "2", ⟨0, 3, 3⟩⟩, ⟨.endMarker, "", ⟨0, 4, 4⟩⟩] := by decide +kernel
    obtain ⟨toggled, hbuild, htoggled⟩ :=
      (vocabulary_changes_are_local build_plain).2 (fun i => i = 1 || i = 3) hchosen
    obtain ⟨last, hlast, hother⟩ := (htoggled "1: 2").2.2 _ htokens
    refine ⟨toggled, hbuild, ?_⟩
    rw [hother]
    rw [Lexer.select, recognized_plain] at hlast ⊢
    have hend := congrArg List.getLast? hlast
    rw [List.getLast?_concat] at hend
    obtain rfl : _ = last := Option.some.inj hend
    rfl

end Sheet

end Parsing
