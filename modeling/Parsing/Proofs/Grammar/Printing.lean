import Parsing.Proofs.Grammar.Notation

/-!
Rules put into writing. What has been read from a text is read again from the text that it is
written as, if its token kinds are written as names that they answer to. Not every rule is: a clause
that is repeated twice is written like one that is repeated once, with a mark behind it that repeats
nothing.
-/

namespace Parsing.RuleText

variable {K : Type}

inductive IsName : List Char → Prop
  | mk {c : Char} {ds : List Char} : isNameStart c → (∀ d ∈ ds, isNameChar d) → IsName (c :: ds)

theorem Spells.isName {cs : List Char} {ss : List Sign} (h : Spells cs ss) {n : List Char}
    (hn : .name n ∈ ss) : IsName n := by
  induction h with
  | nil => cases hn
  | blank _ _ ih => exact ih hn
  | name hc hds _ _ ih =>
    obtain heq | hn := List.mem_cons.1 hn
    · cases heq
      exact ⟨hc, hds⟩
    · exact ih hn
  | mark _ _ _ ih =>
    obtain heq | hn := List.mem_cons.1 hn
    · cases heq
    · exact ih hn

/-- Whether the text spells the signs in front of any text that cannot prolong a name. -/
def Spelled (text : List Char) (ss : List Sign) : Prop :=
  ∀ cs ss', (∀ d ∈ cs.head?, ¬ isNameChar d) → Spells cs ss' → Spells (text ++ cs) (ss ++ ss')

def marks : List Char := [':', '(', ')', '*', '+', '?']

theorem not_isNameChar_of_mem_marks {c : Char} (h : c ∈ marks) : ¬ isNameChar c := by
  have hall : marks.all (fun c => !isNameChar c) = true := by decide +kernel
  simpa using List.all_eq_true.1 hall c h

theorem not_isWhiteSpace_of_mem_marks {c : Char} (h : c ∈ marks) : ¬ Unicode.isWhiteSpace c := by
  have hall : marks.all (fun c => !Unicode.isWhiteSpace c) = true := by decide +kernel
  simpa using List.all_eq_true.1 hall c h

theorem isWhiteSpace_space : Unicode.isWhiteSpace ' ' = true := by decide

theorem not_isNameChar_space : ¬ isNameChar ' ' := by decide +kernel

namespace Spelled

variable {text text' : List Char} {ss ss' : List Sign}

theorem nil : Spelled [] [] := fun _ _ _ h => h

theorem name {n : List Char} (h : IsName n) : Spelled n [.name n] := by
  intro cs ss' hcs hspells
  cases h with
  | mk hc hds => exact .name hc hds hcs hspells

theorem mark_cons {c : Char} (hc : c ∈ marks) (h : Spelled text ss) :
    Spelled (c :: text) (.mark c :: ss) := fun cs ss' hcs hspells =>
  .mark (fun hstart => not_isNameChar_of_mem_marks hc (isNameChar_of_isNameStart hstart))
    (not_isWhiteSpace_of_mem_marks hc) (h cs ss' hcs hspells)

theorem space_cons (h : Spelled text ss) : Spelled (' ' :: text) ss :=
  fun cs ss' hcs hspells => .blank isWhiteSpace_space (h cs ss' hcs hspells)

theorem append (h : Spelled text ss) (h' : Spelled text' ss')
    (hhead : ∀ d ∈ text'.head?, ¬ isNameChar d) : Spelled (text ++ text') (ss ++ ss') := by
  intro cs ss'' hcs hspells
  rw [List.append_assoc, List.append_assoc]
  refine h _ _ (fun d hd => ?_) (h' cs ss'' hcs hspells)
  rw [List.head?_append, Option.mem_def, Option.or_eq_some_iff] at hd
  obtain hd | ⟨-, hd⟩ := hd
  · exact hhead d hd
  · exact hcs d hd

theorem append_mark (h : Spelled text ss) {c : Char} (hc : c ∈ marks) :
    Spelled (text ++ [c]) (ss ++ [.mark c]) :=
  h.append (nil.mark_cons hc) fun _ hd => Option.some.inj hd ▸ not_isNameChar_of_mem_marks hc

theorem append_space (h : Spelled text ss) (h' : Spelled text' ss') :
    Spelled (text ++ ' ' :: text') (ss ++ ss') :=
  h.append h'.space_cons fun _ hd => Option.some.inj hd ▸ not_isNameChar_space

theorem spells (h : Spelled text ss) : Spells text ss := by
  simpa using h [] [] (by simp) .nil

end Spelled

def Phrase.walk : Phrase K → List (Clause K)
  | .atom c | .clause c => c.walk
  | .clauses cs => Clause.walkAll cs
  | .rule r => Clause.walkAll r.clauses

variable [TokenKind K]

structure NamedByLabel (k : K) : Prop where
  isName : IsName (TokenKind.label k).toList
  resolves : TokenKind.ofName? (TokenKind.label k) = some k

def Reading.text (r : Reading K) : String :=
  r.nonTerminal ++ " : " ++ " ".intercalate (Clause.describeAll r.clauses)

namespace Phrase

def text : Phrase K → String
  | .atom c | .clause c => c.describe
  | .clauses cs => " ".intercalate (Clause.describeAll cs)
  | .rule r => r.text

structure WrittenAs (p : Phrase K) (ss : List Sign) : Prop where
  derives : Derives p ss
  spelled : Spelled p.text.toList ss

namespace WrittenAs

variable {c : Clause K} {cs : List (Clause K)} {ss ss' : List Sign}

theorem terminal {k : K} (h : NamedByLabel k) :
    (atom (.terminal k)).WrittenAs [.name (TokenKind.label k).toList] where
  derives := .terminal (by rw [String.ofList_toList, h.resolves])
  spelled := .name h.isName

theorem nonTerminal {n : List Char} (hn : IsName n)
    (hnone : (TokenKind.ofName? (String.ofList n) : Option K) = none) :
    (atom (.nonTerminal (String.ofList n)) : Phrase K).WrittenAs [.name n] where
  derives := .nonTerminal hnone
  spelled := by
    rw [text, Clause.describe, String.toList_ofList]
    exact .name hn

theorem group (hne : cs ≠ []) (h : (clauses cs).WrittenAs ss) :
    (atom (.group cs)).WrittenAs (.mark '(' :: ss ++ [.mark ')']) where
  derives := .group hne h.derives
  spelled := by
    have hspelled := (h.spelled.append_mark (c := ')') (by decide)).mark_cons (c := '(') (by decide)
    simpa [text, Clause.describe] using hspelled

theorem once (h : (atom c).WrittenAs ss) : (clause c).WrittenAs ss where
  derives := .once h.derives
  spelled := h.spelled

theorem repeated (h : (atom c).WrittenAs ss) {m : Char} {f : Clause K → Clause K}
    (hm : repeats? m = some f) : (clause (f c)).WrittenAs (ss ++ [.mark m]) where
  derives := h.derives.repeated hm
  spelled := by
    unfold repeats? at hm
    split at hm <;> cases hm <;>
      simpa [text, Clause.describe] using h.spelled.append_mark (by decide)

theorem nil : (clauses ([] : List (Clause K))).WrittenAs [] where
  derives := .nil
  spelled := .nil

theorem cons (h : (clause c).WrittenAs ss) (hs : (clauses cs).WrittenAs ss') :
    (clauses (c :: cs)).WrittenAs (ss ++ ss') where
  derives := .cons h.derives hs.derives
  spelled := by
    cases cs with
    | nil =>
      obtain rfl : ss' = [] := by
        cases hs.derives
        rfl
      simpa [text, Clause.describeAll] using h.spelled
    | cons d ds => simpa [text, Clause.describeAll] using h.spelled.append_space hs.spelled

theorem rule {n : List Char} (hn : IsName n)
    (hnone : (TokenKind.ofName? (String.ofList n) : Option K) = none)
    (h : (clauses cs).WrittenAs ss) :
    (rule ⟨String.ofList n, cs⟩).WrittenAs (.name n :: .mark ':' :: ss) where
  derives := .rule hnone h.derives
  spelled := by
    have hcolon := (Spelled.space_cons h.spelled).mark_cons (c := ':') (by decide)
    simpa [text, Reading.text] using (Spelled.name hn).append_space hcolon

end WrittenAs

end Phrase

structure Phrase.Writable (p : Phrase K) (ss : List Sign) : Prop where
  isName : ∀ n, .name n ∈ ss → IsName n
  namedByLabel : ∀ k, .terminal k ∈ p.walk → NamedByLabel k

theorem Phrase.Writable.mono {p q : Phrase K} {ss ss' : List Sign} (h : p.Writable ss)
    (hsigns : ss' ⊆ ss) (hwalk : q.walk ⊆ p.walk) : q.Writable ss' :=
  ⟨fun n hn => h.isName n (hsigns hn), fun k hk => h.namedByLabel k (hwalk hk)⟩

theorem Derives.exists_writtenAs {p : Phrase K} {ss : List Sign} (h : Derives p ss)
    (hp : p.Writable ss) : ∃ ss', p.WrittenAs ss' := by
  induction h with
  | terminal => exact ⟨_, .terminal (hp.namedByLabel _ (by simp [Phrase.walk, Clause.walk]))⟩
  | nonTerminal hnone => exact ⟨_, .nonTerminal (hp.isName _ List.mem_cons_self) hnone⟩
  | group hne _ ih =>
    obtain ⟨ss', h'⟩ := ih (hp.mono (fun s hs => by simp [hs]) (List.subset_cons_self _ _))
    exact ⟨_, h'.group hne⟩
  | once _ ih =>
    obtain ⟨ss', h'⟩ := ih (hp.mono (List.Subset.refl _) (List.Subset.refl _))
    exact ⟨_, h'.once⟩
  | zeroOrMore _ ih =>
    obtain ⟨ss', h'⟩ := ih (hp.mono (List.subset_append_left _ _) (List.subset_cons_self _ _))
    exact ⟨_, h'.repeated (m := '*') rfl⟩
  | oneOrMore _ ih =>
    obtain ⟨ss', h'⟩ := ih (hp.mono (List.subset_append_left _ _) (List.subset_cons_self _ _))
    exact ⟨_, h'.repeated (m := '+') rfl⟩
  | optional _ ih =>
    obtain ⟨ss', h'⟩ := ih (hp.mono (List.subset_append_left _ _) (List.subset_cons_self _ _))
    exact ⟨_, h'.repeated (m := '?') rfl⟩
  | nil => exact ⟨_, .nil⟩
  | cons _ _ ih ihs =>
    obtain ⟨ss', h'⟩ := ih (hp.mono (List.subset_append_left _ _) (List.subset_append_left _ _))
    obtain ⟨ss'', h''⟩ :=
      ihs (hp.mono (List.subset_append_right _ _) (List.subset_append_right _ _))
    exact ⟨_, h'.cons h''⟩
  | rule hnone _ ih =>
    obtain ⟨ss', h'⟩ := ih (hp.mono (fun s hs => by simp [hs]) (List.Subset.refl _))
    exact ⟨_, h'.rule (hp.isName _ List.mem_cons_self) hnone⟩

theorem read_eq_ok {source : String} {r : Reading K} :
    read source = .ok r ↔ ofSigns (signs source.toList) = .ok r := by
  rw [read]
  split <;> simp_all

/-- What has been read from any text is read again from the text that it is written as, if each of
its token kinds is written as a name that it answers to. -/
theorem read_text {source : String} {r : Reading K} (h : read source = .ok r)
    (hkinds : ∀ k, .terminal k ∈ Clause.walkAll r.clauses → NamedByLabel k) :
    read r.text = .ok r := by
  have hderives := ofSigns_eq_ok_iff.1 (read_eq_ok.1 h)
  have hnames (n : List Char) (hn : .name n ∈ unplaced (signs source.toList)) : IsName n :=
    (spells_iff.2 rfl).isName hn
  obtain ⟨ss, hwritten⟩ := hderives.exists_writtenAs ⟨hnames, hkinds⟩
  have hsigns : ss = unplaced (signs r.text.toList) := spells_iff.1 hwritten.spelled.spells
  rw [read_eq_ok, ofSigns_eq_ok_iff, ← hsigns]
  exact hwritten.derives

namespace Letters

inductive Letter
  | x
  | y
  | endMarker
  deriving DecidableEq

def Letter.label : Letter → String
  | .x => "X"
  | .y => "Y"
  | .endMarker => "Eof"

def Letter.ofName? (name : String) : Option Letter :=
  match name with
  | "X" => some .x
  | "Y" => some .y
  | _ => none

instance : TokenKind Letter where
  decEq := inferInstance
  endMarker := .endMarker
  label := Letter.label
  ofName? := Letter.ofName?

theorem namedByLabel_x : NamedByLabel Letter.x :=
  ⟨.mk (c := 'X') (by decide +kernel) (by simp), rfl⟩

theorem namedByLabel_y : NamedByLabel Letter.y :=
  ⟨.mk (c := 'Y') (by decide +kernel) (by simp), rfl⟩

def nested : Reading Letter where
  nonTerminal := "s"
  clauses := [.zeroOrMore (.group [.terminal .x, .optional (.group [.nonTerminal "t"])]),
    .oneOrMore (.terminal .y)]

theorem text_nested : nested.text = "s : (X (t)?)* Y+" := by rfl

theorem nested_is_read_again :
    read "s:(X(t)?)*Y +" = .ok nested ∧
      (∀ k, .terminal k ∈ Clause.walkAll nested.clauses → NamedByLabel k) ∧
      read "s : (X (t)?)* Y+" = .ok nested := by
  have hread : read "s:(X(t)?)*Y +" = .ok nested := by rfl
  have hkinds (k : Letter) (hk : .terminal k ∈ Clause.walkAll nested.clauses) : NamedByLabel k := by
    obtain rfl | rfl : k = .x ∨ k = .y := by
      simpa [nested, Clause.walkAll, Clause.walk] using hk
    · exact namedByLabel_x
    · exact namedByLabel_y
  refine ⟨hread, hkinds, ?_⟩
  rw [← text_nested]
  exact read_text hread hkinds

example : read (Reading.text ⟨"s", [.optional (.zeroOrMore (.terminal Letter.x))]⟩) =
    (.error (.invalidRule "s : X*?" (.unexpected '?') 6) : Except _ (Reading Letter)) := by
  rfl

end Letters

end Parsing.RuleText
