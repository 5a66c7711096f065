import Parsing.Proofs.Regex.Beside

namespace Parsing

namespace Regex.Reader

variable {α : Type}

theorem classAtom_follows : Follows classAtom classAtom := by
  refine .bind (expect_follows _) fun c => ?_
  split
  · exact escape_follows
  · exact .bind bump_follows fun _ => .pure _

theorem classChar_follows (c : Char) : Follows (classChar c) (classChar c) :=
  .bind flags_follows fun _ => .ite (fun _ => .throw_bind _) fun _ => .pure c

theorem toSet_follows (a : Atom) : Follows (Atom.toSet a) (Atom.toSet a) := by
  cases a with
  | literal c => exact .bind (classChar_follows c) fun c => .pure _
  | set s => exact .pure s
  | look => exact .throw _

theorem toChar_follows (a : Atom) : Follows (Atom.toChar a) (Atom.toChar a) := by
  cases a with
  | literal c => exact classChar_follows c
  | set | look => exact .throw _

theorem afterBlanks_cons {c : Char} (hsign : c ≠ '#') (hc : Unicode.isWhiteSpace c = false)
    (cs : List Char) : afterBlanks false (c :: cs) = c :: cs := by
  rw [afterBlanks, if_neg Bool.false_ne_true, if_neg hsign, if_neg (by simp [hc])]

theorem afterBlanks_dropWhile (cs : List Char) :
    afterBlanks false (cs.dropWhile Unicode.isWhiteSpace) = afterBlanks false cs := by
  induction cs with
  | nil => rfl
  | cons c cs ih =>
    cases hc : Unicode.isWhiteSpace c with
    | false => rw [List.dropWhile_cons_of_neg (by simp [hc])]
    | true =>
      have hsign : c ≠ '#' := by
        rintro rfl
        exact absurd hc (by decide)
      rw [List.dropWhile_cons_of_pos hc, ih, afterBlanks, if_neg Bool.false_ne_true, if_neg hsign,
        if_pos hc]

theorem afterBlanks_eq_nil {cs : List Char} (h : cs.dropWhile Unicode.isWhiteSpace = [])
    (comment : Bool) : afterBlanks comment cs = [] := by
  induction cs generalizing comment with
  | nil => rfl
  | cons c cs ih =>
    rw [List.dropWhile_cons] at h
    split at h
    · next hc =>
      have hsign : c ≠ '#' := by
        rintro rfl
        exact absurd hc (by decide)
      rw [afterBlanks, if_neg hsign, if_pos hc, ih h, ih h, ite_self]
    · cases h

theorem afterHyphen_closed (f : Flags) (cs : List Char) :
    afterHyphen f (cs ++ [')']) = afterHyphen f cs ∨
      ((if f.blanks then afterBlanks false cs else cs) = [] ∧ afterHyphen f cs = cs.head?) := by
  cases hblanks : f.blanks with
  | false =>
    cases cs with
    | nil => exact .inr (by simp [afterHyphen, hblanks])
    | cons c cs => exact .inl (by simp [afterHyphen, hblanks])
  | true =>
    simp only [afterHyphen, hblanks, Bool.not_true, Bool.false_eq_true, if_false, if_true,
      dropWhile_closed isWhiteSpace_bracket]
    cases hrest : cs.dropWhile Unicode.isWhiteSpace with
    | nil => exact .inr ⟨afterBlanks_eq_nil hrest false, by simp⟩
    | cons c rest =>
      by_cases hsign : c = '#'
      · subst hsign
        simp only [List.cons_append, dropWhile_closed isWhiteSpace_bracket]
        cases hcomment : rest.dropWhile Unicode.isWhiteSpace with
        | nil =>
          refine .inr ⟨?_, by simp⟩
          rw [← afterBlanks_dropWhile, hrest, afterBlanks, if_neg Bool.false_ne_true, if_pos rfl]
          exact afterBlanks_eq_nil hcomment true
        | cons d => exact .inl (by simp)
      · refine .inl ?_
        rw [List.cons_append]
        split
        · next heq =>
          cases heq
          exact absurd rfl hsign
        · split
          · next heq =>
            cases heq
            exact absurd rfl hsign
          · simp

theorem run_bumpSkip (r : Reading) :
    bumpSkip.run r = .ok (⟨⟩, { r with
      rest := if r.flags.blanks then afterBlanks false r.rest.tail else r.rest.tail }) := by
  change Except.ok (_, if r.flags.blanks then _ else _) = _
  split <;> rfl

theorem classAtom_of_nil {r : Reading} (h : r.rest = []) :
    classAtom.run r = .error .classUnclosed := by
  rw [classAtom, expect, bind_assoc, run_peek_bind, h]
  rfl

theorem classRange_follows : Follows classRange classRange := by
  refine .bind classAtom_follows fun first => .bind skip_follows fun _ => ?_
  refine .bind (expect_follows _).discard fun _ => .get fun r r' hr => ?_
  by_cases hhyphen : r.rest.head? = some '-'
  · obtain ⟨cs, hrest⟩ := List.head?_eq_some_iff.1 hhyphen
    obtain rfl := hr.cons hrest
    have hrest' : r.closed.rest = '-' :: (cs ++ [')']) := by simp [Reading.closed, hrest]
    simp only [hrest, hrest', List.tail_cons, hr.flags_eq]
    obtain heq | ⟨hnil, hhead⟩ := afterHyphen_closed r.flags cs
    · rw [heq]
      refine Follows.ite (fun _ => ?_) (fun _ => toSet_follows first) r r.closed hr
      refine .bind bumpSkip_follows fun _ => .bind classAtom_follows fun last => ?_
      refine .bind (toChar_follows first) fun a => .bind (toChar_follows last) fun b => ?_
      exact .ite (fun _ => .pure _) fun _ => .throw _
    · rw [hhead]
      intro a s h
      -- Nothing but blanks is behind the hyphen, so the end of the range it asks for is missing.
      split at h
      · obtain ⟨_, t, hskip, h⟩ := run_bind_eq_ok.1 h
        rw [run_bumpSkip, hrest, List.tail_cons, hnil] at hskip
        cases hskip
        obtain ⟨last, t, hatom, -⟩ := run_bind_eq_ok.1 h
        rw [classAtom_of_nil rfl] at hatom
        cases hatom
      · next hkeep =>
        cases cs with
        | nil => simp at hkeep
        | cons c cs =>
          obtain rfl | rfl : c = ']' ∨ c = '-' := by
            by_contra hne
            simp_all
          · rw [afterBlanks_cons (by decide) (by decide), ite_self] at hnil
            cases hnil
          · rw [afterBlanks_cons (by decide) (by decide), ite_self] at hnil
            cases hnil
  · have hhyphen' : r'.rest.head? ≠ some '-' := by
      obtain heq | ⟨-, heq⟩ := hr.head?_eq <;> simp [heq, hhyphen]
    simp only [hhyphen, hhyphen', decide_false, Bool.false_and, Bool.false_eq_true, if_false]
    exact toSet_follows first r r' hr

theorem run_expect_bind_of_cons {e : RegexProblem} {r : Reading} {c : Char} {cs : List Char}
    (h : r.rest = c :: cs) (k : Char → Reader α) : (expect e >>= k).run r = (k c).run r := by
  rw [expect, bind_assoc, run_peek_bind, h]
  rfl

theorem leadingHyphens_congr {m n : Nat} {r : Reading} (hm : r.rest.length < m)
    (hn : r.rest.length < n) : (leadingHyphens m).run r = (leadingHyphens n).run r := by
  induction m generalizing n r with
  | zero => exact absurd hm (Nat.not_lt_zero _)
  | succ m ih =>
    obtain _ | n := n
    · exact absurd hn (Nat.not_lt_zero _)
    · cases hr : r.rest with
      | nil =>
        simp only [leadingHyphens, expect, bind_assoc, run_peek_bind, hr, List.head?_nil]
        rfl
      | cons c cs =>
        rw [leadingHyphens, leadingHyphens, run_expect_bind_of_cons hr, run_expect_bind_of_cons hr]
        obtain ⟨s, hskip, hle⟩ := exists_bumpSkip r
        rw [hr, List.tail_cons] at hle
        rw [hr, List.length_cons] at hm hn
        have hrest : (leadingHyphens m).run s = (leadingHyphens n).run s := ih (by omega) (by omega)
        split
        · rw [run_bind_of_eq_ok hskip, run_bind_of_eq_ok hskip]
          exact run_bind_congr hrest
        · rfl

theorem leadingHyphens_follows (n : Nat) : Follows (leadingHyphens n) (leadingHyphens n) := by
  induction n with
  | zero => exact .pure _
  | succ n ih =>
    refine .bind (expect_follows _) fun c => .ite (fun _ => ?_) fun _ => .pure _
    exact .bind bumpSkip_follows fun _ => .bind ih fun hyphens => .pure _

theorem classOpen_follows : Follows classOpen classOpen := by
  refine .bind bumpSkip_follows fun _ => .bind (expect_follows _) fun c => ?_
  refine .optionally bumpSkip_follows (.get fun r r' hr a s h => ?_)
  have hle : r.rest.length < r'.rest.length + 1 := Nat.lt_succ_of_le hr.length_le
  rw [run_bind_congr (leadingHyphens_congr (Nat.lt_succ_self _) hle)] at h
  refine Follows.bind (leadingHyphens_follows _) (fun hyphens => ?_) r r' hr a s h
  refine .bind (expect_follows _) fun d => .ite (fun _ => ?_) fun _ => .pure _
  exact .bind bumpSkip_follows fun _ => .bind (expect_follows _).discard fun _ => .pure _

theorem takeWhile_closed {p : Char → Bool} {cs : List Char} (h : cs.dropWhile p ≠ []) :
    (cs ++ [')']).takeWhile p = cs.takeWhile p := by
  rw [List.takeWhile_append, if_neg]
  intro hlength
  refine h ?_
  have happend : cs.takeWhile p ++ cs.dropWhile p = cs := List.takeWhile_append_dropWhile
  have hsum := congrArg List.length happend
  rw [List.length_append, hlength] at hsum
  exact List.eq_nil_of_length_eq_zero (by omega)

theorem className?_closed (negated : Bool) (cs : List Char) :
    className? negated (cs ++ [')']) =
      (className? negated cs).map fun (negated, s, rest) => (negated, s, rest ++ [')']) := by
  rw [className?, className?]
  cases hrest : cs.dropWhile (· ≠ ':') with
  | nil =>
    rw [List.dropWhile_append, hrest]
    rfl
  | cons c rest =>
    rw [takeWhile_closed (hrest ▸ List.cons_ne_nil c rest), List.dropWhile_append, hrest,
      List.isEmpty_cons, if_neg Bool.false_ne_true, List.cons_append]
    generalize cs.takeWhile (· ≠ ':') = name
    by_cases hend : ∃ rest', c :: rest = [':', ']'] ++ rest'
    · obtain ⟨rest', heq⟩ := hend
      cases heq
      exact Eq.trans (by rfl) (Option.map_map _ _ _).symm
    · have hend' := not_begins_closed [':', ']'] (by decide) (not_exists.1 hend)
      split
      · next rest' heq => exact absurd heq (hend' rest')
      · split
        · next rest' heq => exact absurd ⟨rest', heq⟩ hend
        · rfl

theorem namedClass?_closed (cs : List Char) :
    namedClass? (cs ++ [')']) =
      (namedClass? cs).map fun (negated, s, rest) => (negated, s, rest ++ [')']) := by
  fun_cases namedClass? cs with
  | case1 cs => exact className?_closed true cs
  | case2 cs hcaret =>
    have hcaret' := not_begins_closed ['^'] (by decide) hcaret
    rw [← className?_closed]
    exact namedClass?.eq_2 _ hcaret'
  | case3 cs hnegated hopen =>
    exact namedClass?.eq_3 _ (not_begins_closed ['[', ':', '^'] (by decide) hnegated)
      (not_begins_closed ['[', ':'] (by decide) hopen)

theorem SetOperator.next?_closed (cs : List Char) :
    next? (cs ++ [')']) = (next? cs).map fun (op, rest) => (op, rest ++ [')']) := by
  fun_cases next? cs with
  | case1 | case2 | case3 => rfl
  | case4 cs hinter hdiff hsymm =>
    exact next?.eq_4 _ (not_begins_closed ['&', '&'] (by decide) hinter)
      (not_begins_closed ['-', '-'] (by decide) hdiff)
      (not_begins_closed ['~', '~'] (by decide) hsymm)

theorem classes_follow {n n' : Nat} (hle : n ≤ n') : Follows (classSet n) (classSet n') ∧
    ∀ pending items, Follows (classItems n pending items) (classItems n' pending items) := by
  induction n generalizing n' with
  | zero => exact ⟨.throw _, fun _ _ => .throw _⟩
  | succ n ih =>
    obtain ⟨n', rfl⟩ := Nat.exists_eq_succ_of_ne_zero (Nat.ne_zero_of_lt hle)
    obtain ⟨hset, hitems⟩ := ih (Nat.le_of_succ_le_succ hle)
    refine ⟨?_, fun pending items => ?_⟩
    · rw [classSet, classSet]
      refine .bind classOpen_follows fun opened => .bind (hitems _ _) fun s => ?_
      exact .bind flags_follows fun f => .bind (negateIf_follows _ _) fun _ => .pure _
    · rw [classItems, classItems]
      refine .bind skip_follows fun _ => .get fun r r' hr => ?_
      cases hrest : r.rest with
      | nil => exact Follows.throw _ r r' hr
      | cons c cs =>
        obtain rfl := hr.cons hrest
        have hrest' : r.closed.rest = c :: cs ++ [')'] := congrArg (· ++ [')']) hrest
        have hbeside (rest : List Char) :
            Beside { r with rest } { r.closed with rest := rest ++ [')'] } := .closed
        rw [hrest', List.cons_append]
        by_cases hend : c = ']'
        · subst hend
          exact Follows.bind bump_follows (fun _ => .pure _) r r.closed hr
        · simp only
          rw [← List.cons_append, SetOperator.next?_closed, namedClass?_closed]
          cases SetOperator.next? (c :: cs) with
          | some next =>
            exact Follows.bind (.set (hbeside next.2)) (fun _ => hitems _ _) r r.closed hr
          | none =>
            refine Follows.ite (fun _ => ?_) (fun _ => ?_) r r.closed hr
            · exact .bind classRange_follows fun s => hitems _ _
            · cases namedClass? (c :: cs) with
              | some named =>
                refine .bind (.set (hbeside named.2.2)) fun _ => ?_
                exact .bind (negateIf_follows _ _) fun s => hitems _ _
              | none => exact .bind hset fun s => hitems _ _

theorem drop_length_takeWhile (p : Char → Bool) (cs : List Char) :
    cs.drop (cs.takeWhile p).length = cs.dropWhile p := by
  induction cs with
  | nil => rfl
  | cons c cs ih => cases hc : p c <;> simp [hc, ih]

theorem groupName_follows : Follows groupName groupName := by
  refine .get fun r r' hr => ?_
  cases hangle : r.rest.dropWhile (· ≠ '>') with
  | nil =>
    intro a s h
    simp only [drop_length_takeWhile, hangle] at h
    split at h
    · next heq => cases heq
    · cases h
  | cons c rest =>
    have hdrop : r.rest.drop (r.rest.takeWhile (· ≠ '>')).length = c :: rest := by
      rw [drop_length_takeWhile, hangle]
    obtain ⟨d, cs, hcons⟩ : ∃ d cs, r.rest = d :: cs := List.exists_cons_of_ne_nil fun hnil => by
      rw [hnil] at hangle
      cases hangle
    obtain rfl := hr.cons hcons
    have hname : r.closed.rest.takeWhile (· ≠ '>') = r.rest.takeWhile (· ≠ '>') :=
      takeWhile_closed (hangle ▸ List.cons_ne_nil c rest)
    have hdrop' : r.closed.rest.drop (r.rest.takeWhile (· ≠ '>')).length = c :: rest ++ [')'] := by
      rw [← hdrop]
      exact List.drop_append_of_le_length (List.takeWhile_prefix _).length_le
    simp only [hname, hdrop, hdrop']
    cases r.rest.takeWhile (· ≠ '>') with
    | nil => exact Follows.throw _ r r.closed hr
    | cons e es =>
      exact Follows.ite (fun _ => .throw_bind _) (fun _ => .set .closed) r r.closed hr

theorem flagItems_follows {n n' : Nat} (hle : n ≤ n') (negated : Bool) (seen : List Char)
    (f : Flags) : Follows (flagItems n negated seen f) (flagItems n' negated seen f) := by
  induction n generalizing n' negated seen f with
  | zero => exact .throw _
  | succ n ih =>
    obtain ⟨n', rfl⟩ := Nat.exists_eq_succ_of_ne_zero (Nat.ne_zero_of_lt hle)
    have hle : n ≤ n' := Nat.le_of_succ_le_succ hle
    refine .bind (next_follows _) fun c => .ite (fun _ => ?_) fun _ => ?_
    · exact .ite (fun _ => .throw_bind _) fun _ => .pure _
    · refine .ite (fun _ => .throw_bind _) fun _ => .ite (fun _ => ih hle _ _ _) fun _ => ?_
      split
      · exact ih hle _ _ _
      · exact .throw _

theorem nextGroup_follows : Follows nextGroup nextGroup := by
  refine .bind (.modify fun r r' hr => ?_) fun _ => .get fun r r' hr => ?_
  · cases hr with
    | closed => exact .closed
    | lost hnil => exact .lost hnil
  · rw [hr.groups_eq]
    exact Follows.pure _ r r' hr

theorem groupOpen_follows : Follows groupOpen groupOpen := by
  have hlooks : ∀ look ∈ [['?', '='], ['?', '!'], ['?', '<', '='], ['?', '<', '!']],
      ')' ∉ look := by
    decide
  refine .bind bumpSkip_follows fun _ => .bind (.forIn (fun look hlook _ => ?_) _) fun _ => ?_
  · refine .bind (eat_follows (hlooks look hlook)) fun _ => ?_
    exact .ite (fun _ => .throw_bind _) fun _ => .pure _
  · refine .bind (.bind (eat_follows (by decide)) fun named => ?_) fun named => ?_
    · cases named with
      | true => exact .pure true
      | false => exact eat_follows (by decide)
    · refine .ite (fun _ => .bind groupName_follows fun _ => nextGroup_follows) fun _ => ?_
      refine .bind (eat_follows (by decide)) fun flagged => ?_
      refine .ite (fun _ => ?_) fun _ => nextGroup_follows
      refine .get fun r r' hr => ?_
      cases hrest : r.rest with
      | nil => exact Follows.throw_bind _ r r' hr
      | cons c cs =>
        have hitems := flagItems_follows (Nat.succ_le_succ hr.length_le) false [] r.flags
        rw [hrest] at hitems
        obtain rfl := hr.cons hrest
        have hrest' : r.closed.rest.isEmpty = false := by simp [Reading.closed, hrest]
        rw [hrest', hr.flags_eq]
        refine Follows.bind hitems (fun found => .ite (fun _ => ?_) fun _ => ?_) r r.closed hr
        · exact .ite (fun _ => .throw_bind _) fun _ => .pure _
        · exact .bind (.modify fun _ _ hr => hr.setFlags _) fun _ => .pure _

theorem repetition_follows (least : Nat) (most : Option Nat) (p : NestedPattern) :
    Follows (repetition least most p) (repetition least most p) := by
  refine peek_follows (fun c => .optionally bump_follows ?_) ?_ ?_
  · exact .bind flags_follows fun _ => .pure _
  · exact .bind flags_follows fun _ => .pure _
  · exact .bind flags_follows fun _ => .pure _

theorem counted_follows (p : NestedPattern) : Follows (counted p) (counted p) := by
  refine .bind bumpSkip_follows fun _ => .bind (expect_follows _).discard fun _ => ?_
  refine .bind decimal_follows fun least => .bind (expect_follows _) fun c => ?_
  have hclose (most : Option Nat) :
      let close : Reader NestedPattern := do
        if (← peek) ≠ some '}' then throw .repetitionCount
        bumpSkip
        let p ← repetition least most p
        if most.any (· < least) then throw .repetitionCount
        return p
      Follows close close := by
    refine peek_follows (fun d => ?_) (.throw_bind _) (.throw_bind _)
    refine .ite (fun _ => .throw_bind _) fun _ => .bind bumpSkip_follows fun _ => ?_
    refine .bind (repetition_follows _ _ _) fun p => .ite (fun _ => .throw_bind _) fun _ => .pure p
  refine .ite (fun _ => .bind (.pure _) hclose) fun _ => .bind bumpSkip_follows fun _ => ?_
  refine .bind (expect_follows _) fun d => .ite (fun _ => ?_) fun _ => .bind (.pure _) hclose
  exact .bind (decimal_follows.map _) hclose

theorem repeated_follows {n n' : Nat} (hle : n ≤ n') (p : NestedPattern) :
    Follows (repeated n p) (repeated n' p) := by
  induction n generalizing n' p with
  | zero => exact .throw _
  | succ n ih =>
    obtain ⟨n', rfl⟩ := Nat.exists_eq_succ_of_ne_zero (Nat.ne_zero_of_lt hle)
    have hle : n ≤ n' := Nat.le_of_succ_le_succ hle
    have hrepetition (least : Nat) (most : Option Nat) :
        Follows (do bump; repeated n (← repetition least most p))
          (do bump; repeated n' (← repetition least most p)) :=
      .bind bump_follows fun _ => .bind (repetition_follows _ _ _) fun p => ih hle p
    refine .bind skip_follows fun _ => peek_follows (fun c => ?_) (.pure p) (.pure p)
    split
    · exact hrepetition _ _
    · exact hrepetition _ _
    · exact hrepetition _ _
    · exact .bind (counted_follows p) fun p => ih hle p
    · exact .pure p

theorem primitive_follows : Follows primitive primitive := by
  refine .bind flags_follows fun f => .bind (expect_follows _) fun c => ?_
  split
  · refine .bind escape_follows fun a => ?_
    split <;> exact .pure _
  · refine .bind bump_follows fun _ => .ite (fun _ => .throw_bind _) fun _ => ?_
    exact .ite (fun _ => .pure _) fun _ => .ite (fun _ => .pure _) fun _ => .pure _
  · exact .bind bump_follows fun _ => .pure _
  · exact .bind bump_follows fun _ => .pure _
  · exact .bind bump_follows fun _ => .pure _

theorem branches_follow {n n' : Nat} (hle : n ≤ n') : Follows (branches n) (branches n') ∧
    Follows (items n) (items n') ∧ Follows (group n) (group n') := by
  induction n generalizing n' with
  | zero => exact ⟨.throw _, .throw _, .throw _⟩
  | succ n ih =>
    obtain ⟨n', rfl⟩ := Nat.exists_eq_succ_of_ne_zero (Nat.ne_zero_of_lt hle)
    have hle : n ≤ n' := Nat.le_of_succ_le_succ hle
    obtain ⟨hbranches, hitems, hgroup⟩ := ih hle
    refine ⟨?_, ?_, ?_⟩
    · rw [branches, branches]
      refine .bind hitems fun ps => peek_follows (fun c => ?_) (.pure _) (.pure _)
      refine .ite (fun _ => ?_) fun _ => .pure _
      exact .bind bump_follows fun _ => .bind hbranches fun _ => .pure _
    · rw [items, items]
      have hrepeated (p : NestedPattern) :
          Follows (do let p ← repeated n p; return p :: (← items n))
            (do let p ← repeated n' p; return p :: (← items n')) :=
        .bind (repeated_follows hle p) fun _ => .bind hitems fun _ => .pure _
      refine .bind skip_follows fun _ => peek_follows (fun c => ?_) (.pure _) (.pure _)
      split
      · exact .pure _
      · exact .pure _
      · exact .pure _
      · exact .throw _
      · exact .throw _
      · exact .throw _
      · exact .throw _
      · refine .bind hgroup fun p => ?_
        split
        · exact .bind hitems fun _ => .pure _
        · exact hrepeated _
      · exact .bind (classes_follow hle).1 fun s => hrepeated _
      · exact .bind primitive_follows fun p => hrepeated _
    · rw [group, group]
      refine .bind flags_follows fun outer => .bind groupOpen_follows fun kind => ?_
      split
      · exact .bind (.modify fun _ _ hr => hr.setFlags _) fun _ => .pure _
      · refine .bind hbranches fun ps => peek_follows (fun c => ?_) (.throw_bind _) (.throw_bind _)
        refine .ite (fun _ => .throw_bind _) fun _ => .bind bump_follows fun _ => ?_
        exact .bind (.modify fun _ _ hr => hr.setFlags _) fun _ => .pure _

section Around

variable {f : Flags} {cs : List Char} {groups n : Nat} {names : List (List Char)}
variable {p : NestedPattern} {ps : List NestedPattern} {s : Reading}

theorem run_skip {r : Reading} (hblanks : r.flags.blanks = false) : skip.run r = .ok (⟨⟩, r) := by
  change Except.ok (_, if r.flags.blanks then _ else _) = _
  rw [hblanks, if_neg Bool.false_ne_true]

theorem run_flags (r : Reading) : flags.run r = .ok (r.flags, r) := rfl

theorem run_primitive_textStart :
    primitive.run ⟨'\\' :: 'A' :: cs, f, groups, names⟩ =
      .ok (.look .textStart, ⟨cs, f, groups, names⟩) := rfl

theorem run_groupOpen_pattern :
    groupOpen.run ⟨'(' :: '?' :: ':' :: cs, .initial, groups, names⟩ =
      .ok (.pattern none, ⟨cs, .initial, groups, names⟩) := rfl

theorem run_repeated_of_group (hblanks : f.blanks = false) :
    (repeated (n + 1) p).run ⟨'(' :: cs, f, groups, names⟩ =
      .ok (p, ⟨'(' :: cs, f, groups, names⟩) := by
  rw [repeated, run_bind_of_eq_ok (run_skip hblanks)]
  rfl

theorem run_repeated_of_nil (hblanks : f.blanks = false) :
    (repeated (n + 1) p).run ⟨[], f, groups, names⟩ = .ok (p, ⟨[], f, groups, names⟩) := by
  rw [repeated, run_bind_of_eq_ok (run_skip hblanks)]
  rfl

theorem run_items_of_nil (hblanks : f.blanks = false) :
    (items (n + 1)).run ⟨[], f, groups, names⟩ = .ok ([], ⟨[], f, groups, names⟩) := by
  rw [items, run_bind_of_eq_ok (run_skip hblanks)]
  rfl

theorem run_group (h : (branches n).run ⟨cs, .initial, groups, names⟩ = .ok (ps, s)) :
    (group (n + 1)).run ⟨'(' :: '?' :: ':' :: cs, .initial, groups, names⟩ =
      if s.rest.head? = some ')' then
        .ok (some ((Nested.gather Pattern.oneOf ps).within id),
          ⟨s.rest.tail, .initial, s.groups, s.names⟩)
      else .error .groupUnclosed := by
  rw [group, run_bind_of_eq_ok (run_flags _), run_bind_of_eq_ok run_groupOpen_pattern]
  dsimp only
  rw [run_bind_of_eq_ok h, run_peek_bind]
  by_cases hs : s.rest.head? = some ')'
  · rw [if_pos hs, if_neg (not_not.2 hs)]
    rfl
  · rw [if_neg hs, if_pos hs]
    rfl

theorem run_items_of_group :
    (items (n + 1)).run ⟨'(' :: cs, .initial, groups, names⟩ = StateT.run (do
      match ← group n with
      | none =>
        let empty : NestedPattern := ⟨.empty, 0⟩
        return empty :: (← items n)
      | some p =>
        let p ← repeated n p
        return p :: (← items n)) ⟨'(' :: cs, .initial, groups, names⟩ := by
  rw [items, run_bind_of_eq_ok (run_skip rfl), run_peek_bind]
  rfl

theorem run_items_of_textStart :
    (items (n + 2)).run ⟨'\\' :: 'A' :: '(' :: cs, .initial, groups, names⟩ =
      StateT.run (items (n + 1) >>= fun ps => pure (⟨.look .textStart, 0⟩ :: ps))
        ⟨'(' :: cs, .initial, groups, names⟩ := by
  rw [items, run_bind_of_eq_ok (run_skip rfl), run_peek_bind]
  change (primitive >>= _).run _ = _
  rw [run_bind_of_eq_ok run_primitive_textStart, run_bind_of_eq_ok (run_repeated_of_group rfl)]

theorem run_branches_of_group {q : NestedPattern}
    (h : (group (n + 1)).run ⟨'(' :: cs, .initial, groups, names⟩ =
      .ok (some q, ⟨[], .initial, s.groups, s.names⟩)) :
    (branches (n + 4)).run ⟨'\\' :: 'A' :: '(' :: cs, .initial, groups, names⟩ =
      .ok ([Nested.gather Pattern.concat [⟨.look .textStart, 0⟩, q]],
        ⟨[], .initial, s.groups, s.names⟩) := by
  have hgroup : (items (n + 2)).run ⟨'(' :: cs, .initial, groups, names⟩ =
      .ok ([q], ⟨[], .initial, s.groups, s.names⟩) := by
    rw [run_items_of_group, run_bind_of_eq_ok h]
    dsimp only
    rw [run_bind_of_eq_ok (run_repeated_of_nil rfl), run_bind_of_eq_ok (run_items_of_nil rfl)]
    rfl
  have hitems : (items (n + 3)).run ⟨'\\' :: 'A' :: '(' :: cs, .initial, groups, names⟩ =
      .ok ([⟨.look .textStart, 0⟩, q], ⟨[], .initial, s.groups, s.names⟩) := by
    rw [run_items_of_textStart, run_bind_of_eq_ok hgroup]
    rfl
  rw [branches, run_bind_of_eq_ok hitems]
  rfl

theorem exists_group {ws : List NestedPattern}
    (h : (branches (n + 4)).run ⟨'\\' :: 'A' :: '(' :: cs, .initial, groups, names⟩ = .ok (ws, s)) :
    ∃ q t, (group (n + 1)).run ⟨'(' :: cs, .initial, groups, names⟩ = .ok (q, t) := by
  rw [branches] at h
  obtain ⟨ps, t, hitems, -⟩ := run_bind_eq_ok.1 h
  rw [run_items_of_textStart] at hitems
  obtain ⟨qs, u, hitems, -⟩ := run_bind_eq_ok.1 hitems
  rw [run_items_of_group] at hitems
  obtain ⟨q, v, hgroup, -⟩ := run_bind_eq_ok.1 hitems
  exact ⟨q, v, hgroup⟩

end Around

end Regex.Reader

namespace Regex

theorem exists_branches {cs : List Char} {p : Pattern} (h : readPattern cs = .ok p) :
    ∃ ps s, (Reader.branches (readingSteps cs.length)).run ⟨cs, .initial, 0, []⟩ = .ok (ps, s) ∧
      s.rest = [] ∧ (Nested.gather Pattern.oneOf ps).value = p := by
  obtain ⟨⟨ps, s⟩, hrun, h⟩ := Except.bind_eq_ok.1 h
  refine ⟨ps, s, hrun, ?_⟩
  cases hrest : s.rest with
  | cons => simp [hrest, bind, Except.bind, throw, throwThe, MonadExceptOf.throw] at h
  | nil =>
    refine ⟨rfl, ?_⟩
    simp only [hrest, List.isEmpty_nil, Bool.not_true, Bool.false_eq_true, if_false] at h
    split at h
    · cases h
    · split at h
      · cases h
      · cases h
        rfl

end Regex

theorem Pattern.branches_concat_look (l : Look) (ps : List Pattern) :
    (concat (look l :: ps)).branches = [concat (look l :: ps)] := by
  have hconcat : concat (look l :: ps) =
    ofParts (look l :: (ps.flatMap parts).foldr consPart []) := rfl
  rw [hconcat]
  cases (ps.flatMap parts).foldr consPart [] <;> rfl

theorem Pattern.oneOf_singleton {p : Pattern} (h : p.branches = [p]) : oneOf [p] = p := by
  have hps : [p].flatMap branches = [p] := by rw [List.flatMap_singleton, h]
  simp only [oneOf, hps]
  rfl

namespace Regex

theorem readPattern_enclosed {cs : List Char} {p w : Pattern} (hp : readPattern cs = .ok p)
    (hw : readPattern ('\\' :: 'A' :: '(' :: '?' :: ':' :: (cs ++ [')'])) = .ok w) :
    w = .concat [.look .textStart, p] := by
  obtain ⟨ps, s, hps, hs, rfl⟩ := exists_branches hp
  obtain ⟨ws, t, hws, -, rfl⟩ := exists_branches hw
  have hsteps : readingSteps ('\\' :: 'A' :: '(' :: '?' :: ':' :: (cs ++ [')'])).length =
      3 * cs.length + 18 + 4 := by
    simp only [readingSteps, List.length_cons, List.length_append, List.length_nil]
    omega
  have hle : readingSteps cs.length ≤ 3 * cs.length + 18 := by
    unfold readingSteps
    omega
  obtain ⟨s', hps', hbeside⟩ :=
    (Reader.branches_follow hle).1 ⟨cs, .initial, 0, []⟩ _ .closed ps s hps
  have hgroup := Reader.run_group hps'
  rw [hsteps] at hws
  cases hbeside with
  | closed =>
    have htail : s.closed.rest.tail = [] := by simp [Reading.closed, hs]
    rw [if_pos (by simp [Reading.closed, hs]), htail] at hgroup
    cases hws.symm.trans (Reader.run_branches_of_group hgroup)
    exact Pattern.oneOf_singleton (Pattern.branches_concat_look _ _)
  | lost =>
    obtain ⟨q, u, hq⟩ := Reader.exists_group hws
    rw [hgroup, if_neg (by simp [hs])] at hq
    cases hq

end Regex

end Parsing
