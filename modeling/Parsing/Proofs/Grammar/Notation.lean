import Parsing.Grammar.Basic

/-!
The texts of rules. A text spells signs: its names, each as long as it can be, and the characters
between them that are not white space. Signs are derived from

    rule   := NAME ':' clause*
    clause := atom ('*' | '+' | '?')?
    atom   := NAME | '(' clause+ ')'

and a text is read as the rule that its signs are derived from.
-/

namespace Parsing.RuleText

variable {K : Type}

inductive Spells : List Char → List Sign → Prop
  | nil : Spells [] []
  | blank {c : Char} {cs : List Char} {ss : List Sign} :
    Unicode.isWhiteSpace c → Spells cs ss → Spells (c :: cs) ss
  | name {c : Char} {ds cs : List Char} {ss : List Sign} :
    isNameStart c → (∀ d ∈ ds, isNameChar d) → (∀ d ∈ cs.head?, ¬ isNameChar d) → Spells cs ss →
    Spells (c :: ds ++ cs) (.name (c :: ds) :: ss)
  | mark {c : Char} {cs : List Char} {ss : List Sign} :
    ¬ isNameStart c → ¬ Unicode.isWhiteSpace c → Spells cs ss → Spells (c :: cs) (.mark c :: ss)

def blanks : List Nat := [9, 10, 11, 12, 13, 32, 133, 160, 5760, 8192, 8193, 8194, 8195, 8196, 8197,
  8198, 8199, 8200, 8201, 8202, 8232, 8233, 8239, 8287, 12288]

theorem toNat_mem_blanks {c : Char} (h : Unicode.isWhiteSpace c = true) : c.toNat ∈ blanks := by
  simp only [Unicode.isWhiteSpace, Unicode.whiteSpaceBounds, Unicode.inside_cons,
    Unicode.inside_nil, Bool.and_eq_true, Bool.not_eq_true', decide_eq_true_eq,
    Bool.and_eq_false_iff, decide_eq_false_iff_not, Bool.not_eq_false', Bool.not_false,
    Bool.true_eq_false, or_false] at h
  simp only [blanks, List.mem_cons, List.not_mem_nil, or_false]
  omega

theorem isNameStart_of_isWhiteSpace {c : Char} (h : Unicode.isWhiteSpace c = true) :
    isNameStart c = false := by
  have hall : ∀ n ∈ blanks, isNameStart (Char.ofNat n) = false := by decide +kernel
  simpa using hall _ (toNat_mem_blanks h)

theorem isNameChar_of_isNameStart {c : Char} (h : isNameStart c = true) : isNameChar c = true := by
  simp only [isNameStart, isNameChar, Unicode.isAlphanumeric, Bool.or_eq_true] at h ⊢
  exact h.imp_right .inl

def unplaced (ps : List Placed) : List Sign := ps.map (·.sign)

@[simp] theorem unplaced_append (ps qs : List Placed) :
    unplaced (ps ++ qs) = unplaced ps ++ unplaced qs := List.map_append

theorem unplaced_pendingName {before : List Char} (h : before ≠ []) (offset : Nat) :
    unplaced (pendingName offset before) = [.name before.reverse] := by
  simp [pendingName, unplaced, h]

theorem unplaced_signsFrom {cs : List Char} {ss : List Sign}
    (hnext : ∀ d ∈ cs.head?, ¬ isNameChar d)
    (hcs : ∀ offset, unplaced (signsFrom offset [] cs) = ss) {ds before : List Char}
    (hds : ∀ d ∈ ds, isNameChar d) (hbefore : before ≠ []) (offset : Nat) :
    unplaced (signsFrom offset before (ds ++ cs)) = .name (before.reverse ++ ds) :: ss := by
  induction ds generalizing before offset with
  | nil =>
    rw [List.nil_append, List.append_nil, ← List.singleton_append,
      ← unplaced_pendingName hbefore offset, ← hcs offset, ← unplaced_append]
    cases cs with
    | nil => simp [signsFrom, pendingName]
    | cons c cs =>
      have hc : isNameChar c = false := by simpa using hnext c rfl
      have hstart : isNameStart c = false :=
        Bool.eq_false_iff.2 fun h => by simp [isNameChar_of_isNameStart h] at hc
      simp [signsFrom, hbefore, hc, hstart, pendingName]
  | cons d ds ih =>
    have hd : isNameChar d = true := hds d List.mem_cons_self
    rw [List.cons_append, signsFrom]
    simp only [List.isEmpty_iff, hbefore, if_false, hd, if_true]
    rw [ih (fun e he => hds e (List.mem_cons_of_mem _ he)) (List.cons_ne_nil _ _)]
    simp

theorem Spells.unplaced_signsFrom {cs : List Char} {ss : List Sign} (h : Spells cs ss)
    (offset : Nat) : unplaced (signsFrom offset [] cs) = ss := by
  induction h generalizing offset with
  | nil => rfl
  | blank hc _ ih => simpa [signsFrom, isNameStart_of_isWhiteSpace hc, hc, pendingName] using ih _
  | name hc hds hnext _ ih =>
    rw [List.cons_append, signsFrom]
    simp only [List.isEmpty_nil, if_true, hc]
    exact RuleText.unplaced_signsFrom hnext ih hds (List.cons_ne_nil _ _) _
  | mark hname hblank _ ih =>
    simpa [signsFrom, hname, hblank, pendingName, unplaced] using ih _

theorem exists_spells (cs : List Char) : ∃ ss, Spells cs ss := by
  induction hn : cs.length using Nat.strongRecOn generalizing cs with
  | _ n ih =>
    subst hn
    match cs with
    | [] => exact ⟨[], .nil⟩
    | c :: cs =>
      by_cases hblank : Unicode.isWhiteSpace c
      · obtain ⟨ss, hss⟩ := ih cs.length (by simp) cs rfl
        exact ⟨ss, .blank hblank hss⟩
      by_cases hname : isNameStart c
      · have hlen : (cs.dropWhile isNameChar).length < (c :: cs).length := by
          have := (List.dropWhile_suffix isNameChar (l := cs)).length_le
          simp only [List.length_cons]
          omega
        obtain ⟨ss, hss⟩ := ih _ hlen _ rfl
        have hds : ∀ d ∈ cs.takeWhile isNameChar, isNameChar d :=
          fun d hd => List.all_eq_true.1 List.all_takeWhile d hd
        have hnext : ∀ d ∈ (cs.dropWhile isNameChar).head?, ¬ isNameChar d := by
          intro d hd
          have hnot := List.head?_dropWhile_not isNameChar cs
          rw [hd] at hnot
          simpa using hnot
        have hspells := Spells.name hname hds hnext hss
        rw [List.cons_append, List.takeWhile_append_dropWhile] at hspells
        exact ⟨_, hspells⟩
      · obtain ⟨ss, hss⟩ := ih cs.length (by simp) cs rfl
        exact ⟨_, .mark hname hblank hss⟩

theorem spells_iff {cs : List Char} {ss : List Sign} : Spells cs ss ↔ ss = unplaced (signs cs) := by
  constructor
  · intro h
    exact (h.unplaced_signsFrom 0).symm
  · rintro rfl
    obtain ⟨ss, h⟩ := exists_spells cs
    rwa [signs, h.unplaced_signsFrom 0]

inductive Phrase (K : Type)
  | atom (c : Clause K)
  | clause (c : Clause K)
  | clauses (cs : List (Clause K))
  | rule (r : Reading K)

variable [TokenKind K]

inductive Derives : Phrase K → List Sign → Prop
  | terminal {n : List Char} {k : K} :
    TokenKind.ofName? (String.ofList n) = some k → Derives (.atom (.terminal k)) [.name n]
  | nonTerminal {n : List Char} :
    (TokenKind.ofName? (String.ofList n) : Option K) = none →
    Derives (.atom (.nonTerminal (String.ofList n))) [.name n]
  | group {cs : List (Clause K)} {ss : List Sign} :
    cs ≠ [] → Derives (.clauses cs) ss →
    Derives (.atom (.group cs)) (.mark '(' :: ss ++ [.mark ')'])
  | once {c : Clause K} {ss : List Sign} : Derives (.atom c) ss → Derives (.clause c) ss
  | zeroOrMore {c : Clause K} {ss : List Sign} :
    Derives (.atom c) ss → Derives (.clause (.zeroOrMore c)) (ss ++ [.mark '*'])
  | oneOrMore {c : Clause K} {ss : List Sign} :
    Derives (.atom c) ss → Derives (.clause (.oneOrMore c)) (ss ++ [.mark '+'])
  | optional {c : Clause K} {ss : List Sign} :
    Derives (.atom c) ss → Derives (.clause (.optional c)) (ss ++ [.mark '?'])
  | nil : Derives (.clauses []) []
  | cons {c : Clause K} {cs : List (Clause K)} {ss ss' : List Sign} :
    Derives (.clause c) ss → Derives (.clauses cs) ss' → Derives (.clauses (c :: cs)) (ss ++ ss')
  | rule {n : List Char} {cs : List (Clause K)} {ss : List Sign} :
    (TokenKind.ofName? (String.ofList n) : Option K) = none → Derives (.clauses cs) ss →
    Derives (.rule ⟨String.ofList n, cs⟩) (.name n :: .mark ':' :: ss)

def Phrase.IsReadFrom (ps : List Placed) : Phrase K → Prop
  | .atom c => ∀ outer current a rest,
    RuleText.clauses outer current a (ps ++ rest) = RuleText.clauses outer (c :: current) true rest
  | .clause c => ∀ outer current a rest, ∃ b,
    RuleText.clauses outer current a (ps ++ rest) = RuleText.clauses outer (c :: current) b rest
  | .clauses cs => ∀ outer current a rest, ∃ b,
    RuleText.clauses outer current a (ps ++ rest) =
      RuleText.clauses outer (cs.reverse ++ current) b rest
  | .rule r => ofSigns ps = .ok r

theorem ofName_of_some {n : List Char} {k : K} (h : TokenKind.ofName? (String.ofList n) = some k) :
    ofName n = Clause.terminal k := by
  simp [ofName, h]

theorem ofName_of_none {n : List Char}
    (h : (TokenKind.ofName? (String.ofList n) : Option K) = none) :
    ofName n = (.nonTerminal (String.ofList n) : Clause K) := by
  simp [ofName, h]

theorem unplaced_eq_cons {ps : List Placed} {s : Sign} {ss : List Sign} :
    unplaced ps = s :: ss ↔ ∃ o qs, ps = ⟨o, s⟩ :: qs ∧ unplaced qs = ss := by
  rw [unplaced, List.map_eq_cons_iff]
  constructor
  · rintro ⟨⟨o, s⟩, qs, rfl, rfl, rfl⟩
    exact ⟨o, qs, rfl, rfl⟩
  · rintro ⟨o, qs, rfl, rfl⟩
    exact ⟨⟨o, s⟩, qs, rfl, rfl, rfl⟩

theorem unplaced_eq_append {ps : List Placed} {ss ss' : List Sign} :
    unplaced ps = ss ++ ss' ↔ ∃ qs qs', ps = qs ++ qs' ∧ unplaced qs = ss ∧ unplaced qs' = ss' :=
  List.map_eq_append_iff

theorem unplaced_eq_nil {ps : List Placed} : unplaced ps = [] ↔ ps = [] := List.map_eq_nil_iff

theorem isReadFrom_name {ps : List Placed} {n : List Char} (hps : unplaced ps = [.name n]) :
    (Phrase.atom (ofName n) : Phrase K).IsReadFrom ps := by
  obtain ⟨o, qs, rfl, hqs⟩ := unplaced_eq_cons.1 hps
  obtain rfl := unplaced_eq_nil.1 hqs
  intro outer current a rest
  rfl

theorem isReadFrom_repeated {ps : List Placed} {ss : List Sign} {c : Clause K} {m : Char}
    {f : Clause K → Clause K} (hm : repeats? m = some f)
    (h : ∀ {ps}, unplaced ps = ss → (Phrase.atom c).IsReadFrom ps)
    (hps : unplaced ps = ss ++ [.mark m]) : (Phrase.clause (f c)).IsReadFrom ps := by
  obtain ⟨qs, qs', rfl, hqs, hqs'⟩ := unplaced_eq_append.1 hps
  obtain ⟨o, _, rfl, hnil⟩ := unplaced_eq_cons.1 hqs'
  obtain rfl := unplaced_eq_nil.1 hnil
  intro outer current a rest
  refine ⟨false, ?_⟩
  rw [List.append_assoc, h hqs, List.singleton_append]
  unfold repeats? at hm
  split at hm <;> cases hm <;> rfl

theorem Derives.isReadFrom {p : Phrase K} {ss : List Sign} (h : Derives p ss) {ps : List Placed}
    (hps : unplaced ps = ss) : p.IsReadFrom ps := by
  induction h generalizing ps with
  | terminal hk =>
    rw [← ofName_of_some hk]
    exact isReadFrom_name hps
  | nonTerminal hk =>
    rw [← ofName_of_none hk]
    exact isReadFrom_name hps
  | group hne _ ih =>
    rw [List.cons_append, unplaced_eq_cons] at hps
    obtain ⟨o, _, rfl, hps⟩ := hps
    obtain ⟨qs, _, rfl, hqs, hclose⟩ := unplaced_eq_append.1 hps
    obtain ⟨o', _, rfl, hnil⟩ := unplaced_eq_cons.1 hclose
    obtain rfl := unplaced_eq_nil.1 hnil
    intro outer current a rest
    obtain ⟨b, hb⟩ := ih hqs (current :: outer) [] false (⟨o', .mark ')'⟩ :: rest)
    rw [List.cons_append, clauses, List.append_assoc, List.singleton_append, hb, clauses]
    simp [hne]
  | once _ ih =>
    intro outer current a rest
    exact ⟨true, ih hps outer current a rest⟩
  | zeroOrMore _ ih => exact isReadFrom_repeated (m := '*') rfl ih hps
  | oneOrMore _ ih => exact isReadFrom_repeated (m := '+') rfl ih hps
  | optional _ ih => exact isReadFrom_repeated (m := '?') rfl ih hps
  | nil =>
    obtain rfl := unplaced_eq_nil.1 hps
    exact fun outer current a rest => ⟨a, rfl⟩
  | cons _ _ ih ihs =>
    obtain ⟨qs, qs', rfl, hqs, hqs'⟩ := unplaced_eq_append.1 hps
    intro outer current a rest
    obtain ⟨b, hb⟩ := ih hqs outer current a (qs' ++ rest)
    obtain ⟨b', hb'⟩ := ihs hqs' outer _ b rest
    exact ⟨b', by rw [List.append_assoc, hb, hb']; simp⟩
  | rule hk _ ih =>
    obtain ⟨o, _, rfl, hcolon⟩ := unplaced_eq_cons.1 hps
    obtain ⟨o', qs, rfl, hqs⟩ := unplaced_eq_cons.1 hcolon
    obtain ⟨b, hb⟩ := ih hqs [] [] false []
    rw [List.append_nil] at hb
    simp [Phrase.IsReadFrom, ofSigns, hk, hb, clauses, Except.map]

/-- The signs that have been read when `clauses` stands before the rest: an unclosed bracket follows
the clauses before each open group, and `atom` tells that the last clause is a bare atom. -/
inductive Open : (outer : List (List (Clause K))) → (current : List (Clause K)) → (atom : Bool) →
    List Sign → Prop
  | start : Open [] [] false []
  | bracket {outer : List (List (Clause K))} {current : List (Clause K)} {a : Bool}
    {ss : List Sign} : Open outer current a ss →
    Open (current :: outer) [] false (ss ++ [.mark '('])
  | atom {outer : List (List (Clause K))} {current : List (Clause K)} {a : Bool}
    {c : Clause K} {ss ss' : List Sign} : Open outer current a ss → Derives (.atom c) ss' →
    Open outer (c :: current) true (ss ++ ss')
  | clause {outer : List (List (Clause K))} {current : List (Clause K)} {a : Bool}
    {c : Clause K} {ss ss' : List Sign} : Open outer current a ss → Derives (.clause c) ss' →
    Open outer (c :: current) false (ss ++ ss')

theorem Derives.append {cs ds : List (Clause K)} {ss ss' : List Sign}
    (hc : Derives (.clauses cs) ss) (hd : Derives (.clauses ds) ss') :
    Derives (.clauses (cs ++ ds)) (ss ++ ss') := by
  induction cs generalizing ss with
  | nil =>
    cases hc
    exact hd
  | cons c cs ih =>
    cases hc with
    | cons h hs =>
      rw [List.append_assoc]
      exact .cons h (ih hs)

theorem Derives.snoc {c : Clause K} {cs : List (Clause K)} {ss ss' : List Sign}
    (hcs : Derives (.clauses cs.reverse) ss) (hc : Derives (.clause c) ss') :
    Derives (.clauses (c :: cs).reverse) (ss ++ ss') := by
  rw [List.reverse_cons]
  simpa using hcs.append (.cons hc .nil)

def Encloses : List (List (Clause K)) → List Sign → Prop
  | [], ss => ss = []
  | current :: outer, ss => ∃ a before, ss = before ++ [.mark '('] ∧ Open outer current a before

theorem Open.innermost {outer : List (List (Clause K))} {current : List (Clause K)} {a : Bool}
    {ss : List Sign} (h : Open outer current a ss) :
    ∃ before inner, ss = before ++ inner ∧ Encloses outer before ∧
      Derives (.clauses current.reverse) inner := by
  induction h with
  | start => exact ⟨[], [], rfl, rfl, .nil⟩
  | bracket h => exact ⟨_, [], (List.append_nil _).symm, ⟨_, _, rfl, h⟩, .nil⟩
  | atom h hc ih =>
    obtain ⟨before, inner, rfl, houter, hinner⟩ := ih
    exact ⟨before, _, List.append_assoc _ _ _, houter, hinner.snoc (.once hc)⟩
  | clause h hc ih =>
    obtain ⟨before, inner, rfl, houter, hinner⟩ := ih
    exact ⟨before, _, List.append_assoc _ _ _, houter, hinner.snoc hc⟩

theorem derives_ofName (n : List Char) : Derives (.atom (ofName n : Clause K)) [.name n] := by
  cases hn : (TokenKind.ofName? (String.ofList n) : Option K) with
  | some k =>
    rw [ofName_of_some hn]
    exact .terminal hn
  | none =>
    rw [ofName_of_none hn]
    exact .nonTerminal hn

theorem Derives.repeated {c : Clause K} {ss : List Sign} (h : Derives (.atom c) ss) {m : Char}
    {f : Clause K → Clause K} (hm : repeats? m = some f) :
    Derives (.clause (f c)) (ss ++ [.mark m]) := by
  unfold repeats? at hm
  split at hm <;> cases hm
  · exact .zeroOrMore h
  · exact .oneOrMore h
  · exact .optional h

theorem derives_of_clauses {outer : List (List (Clause K))} {current : List (Clause K)} {a : Bool}
    {ps : List Placed} {cs : List (Clause K)} (h : clauses outer current a ps = .ok cs)
    {ss : List Sign} (hopen : Open outer current a ss) :
    Derives (.clauses cs) (ss ++ unplaced ps) := by
  fun_induction clauses outer current a ps generalizing ss with
  | case1 outer current a houter =>
    cases h
    obtain rfl := List.isEmpty_iff.1 houter
    obtain ⟨before, inner, rfl, rfl, hinner⟩ := hopen.innermost
    simpa [unplaced] using hinner
  | case3 outer current a o n rest ih =>
    simpa [unplaced] using ih h (hopen.atom (derives_ofName n))
  | case4 outer current a o rest ih =>
    simpa [unplaced] using ih h hopen.bracket
  | case7 current a o rest before outer hne ih =>
    obtain ⟨_, inner, rfl, ⟨b, ss', rfl, hbefore⟩, hinner⟩ := hopen.innermost
    have hgroup := Derives.group (by simpa using hne) hinner
    simpa [unplaced] using ih h (hbefore.atom hgroup)
  | case8 outer o c rest _ _ last before f hm ih =>
    cases hopen with
    | atom hbefore hlast => simpa [unplaced] using ih h (hbefore.clause (hlast.repeated hm))
  | case2 | case5 | case6 | case9 => cases h

theorem ofSigns_eq_ok {ps : List Placed} {r : Reading K} (h : ofSigns ps = .ok r) :
    Derives (.rule r) (unplaced ps) := by
  unfold ofSigns at h
  split at h
  · next o n rest =>
    simp only at h
    split at h
    · cases h
    · next hn =>
      split at h
      · next o' rest =>
        cases hcs : clauses (K := K) [] [] false rest with
        | error f => simp [hcs, Except.map] at h
        | ok cs =>
          simp only [hcs, Except.map] at h
          cases h
          exact .rule (by simpa using hn) (derives_of_clauses hcs .start)
      · cases h
  · cases h

theorem ofSigns_eq_ok_iff {ps : List Placed} {r : Reading K} :
    ofSigns ps = .ok r ↔ Derives (.rule r) (unplaced ps) :=
  ⟨ofSigns_eq_ok, fun h => h.isReadFrom rfl⟩

/-- A text is read as the rule that its signs are derived from, and a text whose signs are derived
from no rule is invalid. -/
theorem read_iff_derives (source : String) :
    (∀ r : Reading K, read source = .ok r ↔
      ∃ ss, Spells source.toList ss ∧ Derives (.rule r) ss) ∧
    ((∃ problem offset,
        read source = (.error (.invalidRule source problem offset) : Except _ (Reading K))) ↔
      ¬ ∃ ss, Spells source.toList ss ∧ ∃ r : Reading K, Derives (.rule r) ss) := by
  simp only [spells_iff, exists_eq_left]
  have hread (r : Reading K) :
      read source = .ok r ↔ Derives (.rule r) (unplaced (signs source.toList)) := by
    rw [← ofSigns_eq_ok_iff, read]
    split <;> simp_all
  refine ⟨hread, ?_⟩
  simp only [← hread]
  rw [read]
  split <;> simp

end Parsing.RuleText
