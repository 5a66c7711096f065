import Parsing.Regex.Reader
import Parsing.Proofs.Matching.Run

/-!
Reading a text with a closing bracket behind it. A reader that comes to a result without the bracket
comes to the same with it and leaves the bracket unread; only a comment that is still open takes the
bracket with it. Here are the single characters, numbers and escapes.
-/

namespace Parsing.Regex

def Reading.closed (r : Reading) : Reading := { r with rest := r.rest ++ [')'] }

/-- A reading and the one that is beside it in the closed text: the bracket is yet to come, or it is
lost at the end. -/
inductive Beside : Reading → Reading → Prop
  | closed {r : Reading} : Beside r r.closed
  | lost {r : Reading} : r.rest = [] → Beside r r

def FollowsAt {α : Type} (r r' : Reading) (m m' : Reader α) : Prop :=
  ∀ a s, m.run r = .ok (a, s) → ∃ s', m'.run r' = .ok (a, s') ∧ Beside s s'

def Follows {α : Type} (m m' : Reader α) : Prop := ∀ r r', Beside r r' → FollowsAt r r' m m'

namespace Beside

variable {r r' : Reading}

theorem flags_eq (h : Beside r r') : r'.flags = r.flags := by
  cases h <;> rfl

theorem groups_eq (h : Beside r r') : r'.groups = r.groups := by
  cases h <;> rfl

theorem cons {c : Char} {cs : List Char} (h : Beside r r') (hr : r.rest = c :: cs) :
    r' = r.closed := by
  cases h with
  | closed => rfl
  | lost hnil =>
    rw [hr] at hnil
    cases hnil

theorem length_le (h : Beside r r') : r.rest.length ≤ r'.rest.length := by
  cases h with
  | closed => simp [Reading.closed]
  | lost => exact Nat.le_refl _

theorem setFlags (h : Beside r r') (f : Flags) :
    Beside { r with flags := f } { r' with flags := f } := by
  cases h with
  | closed => exact .closed
  | lost hnil => exact .lost hnil

theorem head?_eq (h : Beside r r') :
    r'.rest.head? = r.rest.head? ∨ (r.rest.head? = none ∧ r'.rest.head? = some ')') := by
  cases h with
  | closed =>
    cases hr : r.rest with
    | nil => exact .inr ⟨rfl, by simp [Reading.closed, hr]⟩
    | cons c cs => exact .inl (by simp [Reading.closed, hr])
  | lost => exact .inl rfl

end Beside

theorem run_bind_eq_ok {α β : Type} {m : Reader α} {k : α → Reader β} {r t : Reading} {b : β} :
    (m >>= k).run r = .ok (b, t) ↔
      ∃ a s, m.run r = .ok (a, s) ∧ (k a).run s = .ok (b, t) := by
  rw [StateT.run_bind, Except.bind_eq_ok, Prod.exists]

theorem run_bind_of_eq_ok {α β : Type} {m : Reader α} {k : α → Reader β} {r s : Reading} {a : α}
    (h : m.run r = .ok (a, s)) : (m >>= k).run r = (k a).run s := by
  rw [StateT.run_bind, h]
  rfl

theorem run_bind_congr {α β : Type} {m m' : Reader α} {k : α → Reader β} {r : Reading}
    (h : m.run r = m'.run r) : (m >>= k).run r = (m' >>= k).run r := by
  rw [StateT.run_bind, StateT.run_bind, h]

theorem FollowsAt.bind {α β : Type} {r r' : Reading} {m m' : Reader α} {k k' : α → Reader β}
    (h : FollowsAt r r' m m') (hk : ∀ a, Follows (k a) (k' a)) :
    FollowsAt r r' (m >>= k) (m' >>= k') := by
  intro b t hrun
  obtain ⟨a, s, hm, hrun⟩ := run_bind_eq_ok.1 hrun
  obtain ⟨s', hm', hs⟩ := h a s hm
  obtain ⟨t', hrun', ht⟩ := hk a s s' hs b t hrun
  exact ⟨t', run_bind_eq_ok.2 ⟨a, s', hm', hrun'⟩, ht⟩

namespace Follows

variable {α β : Type} {m m' : Reader α} {k k' : α → Reader β}

theorem bind (h : Follows m m') (hk : ∀ a, Follows (k a) (k' a)) : Follows (m >>= k) (m' >>= k') :=
  fun r r' hr => (h r r' hr).bind hk

protected theorem pure (a : α) : Follows (pure a : Reader α) (pure a) := by
  intro r r' hr b s h
  cases h
  exact ⟨r', rfl, hr⟩

protected theorem throw (e : RegexProblem) : Follows (throw e : Reader α) m' := by
  intro r r' _ a s h
  cases h

protected theorem throw_bind (e : RegexProblem) {k : β → Reader α} :
    Follows ((throw e : Reader β) >>= k) m' := by
  intro r r' _ a s h
  cases h

theorem ite {c : Prop} [Decidable c] {n n' : Reader α} (h : c → Follows m m')
    (h' : ¬ c → Follows n n') : Follows (if c then m else n) (if c then m' else n') := by
  split
  · next hc => exact h hc
  · next hc => exact h' hc

theorem optionally {c : Prop} [Decidable c] {m m' : Reader PUnit} {k k' : PUnit → Reader β}
    (h : Follows m m') (hk : Follows (k ⟨⟩) (k' ⟨⟩)) :
    Follows (if c then m >>= k else k ⟨⟩) (if c then m' >>= k' else k' ⟨⟩) :=
  .ite (fun _ => h.bind fun _ => hk) fun _ => hk

theorem map (f : α → β) (h : Follows m m') : Follows (f <$> m) (f <$> m') := by
  rw [map_eq_pure_bind, map_eq_pure_bind]
  exact h.bind fun a => .pure (f a)

theorem discard (h : Follows m m') : Follows (discard m) (discard m') := h.map _

theorem get {k k' : Reading → Reader β} (h : ∀ r r', Beside r r' → FollowsAt r r' (k r) (k' r')) :
    Follows (MonadState.get >>= k) (MonadState.get >>= k') := by
  intro r r' hr b t hrun
  exact h r r' hr b t hrun

theorem modify {f f' : Reading → Reading} (h : ∀ r r', Beside r r' → Beside (f r) (f' r')) :
    Follows (modify f : Reader PUnit) (modify f') := by
  intro r r' hr a s hrun
  obtain rfl : f r = s := by
    cases hrun
    rfl
  exact ⟨f' r', rfl, h r r' hr⟩

theorem set {s s' : Reading} (h : Beside s s') :
    Follows (MonadStateOf.set s : Reader PUnit) (MonadStateOf.set s') := by
  intro r r' _ a t hrun
  cases hrun
  exact ⟨s', rfl, h⟩

protected theorem forIn {γ : Type} {xs : List γ} {f f' : γ → β → Reader (ForInStep β)}
    (h : ∀ x ∈ xs, ∀ b, Follows (f x b) (f' x b)) (b : β) :
    Follows (forIn xs b f) (forIn xs b f') := by
  induction xs generalizing b with
  | nil => exact .pure b
  | cons x xs ih =>
    rw [List.forIn_cons, List.forIn_cons]
    refine .bind (h x List.mem_cons_self b) fun step => ?_
    cases step with
    | done b => exact .pure b
    | yield b => exact ih (fun y hy => h y (List.mem_cons_of_mem x hy)) b

end Follows

namespace Reader

variable {α : Type}

theorem flags_follows : Follows flags flags := by
  refine .get fun r r' hr => ?_
  rw [hr.flags_eq]
  exact Follows.pure _ r r' hr

theorem peek_follows {k k' : Option Char → Reader α}
    (hsome : ∀ c, Follows (k (some c)) (k' (some c))) (hnone : Follows (k none) (k' none))
    (hclosed : Follows (k none) (k' (some ')'))) :
    Follows (peek >>= k) (peek >>= k') := by
  intro r r' hr b t hrun
  change (k r.rest.head?).run r = _ at hrun
  change ∃ t', (k' r'.rest.head?).run r' = _ ∧ _
  obtain heq | ⟨hnil, hhead⟩ := hr.head?_eq
  · rw [heq]
    cases hc : r.rest.head? with
    | none =>
      rw [hc] at hrun
      exact hnone r r' hr b t hrun
    | some c =>
      rw [hc] at hrun
      exact hsome c r r' hr b t hrun
  · rw [hnil] at hrun
    rw [hhead]
    exact hclosed r r' hr b t hrun

theorem expect_follows (e : RegexProblem) : Follows (expect e) (expect e) :=
  peek_follows (fun c => .pure c) (.throw e) (.throw e)

theorem bump_follows : Follows bump bump := by
  refine .modify fun r r' hr => ?_
  cases hr with
  | lost hnil => exact .lost (by simp [hnil])
  | closed =>
    cases hr : r.rest with
    | nil =>
      have h : Beside { r with rest := [] } { r with rest := [] } := .lost rfl
      simpa [Reading.closed, hr] using h
    | cons c cs =>
      have h : Beside { r with rest := cs } { r with rest := cs ++ [')'] } := .closed
      simpa [Reading.closed, hr] using h

theorem next_follows (e : RegexProblem) : Follows (next e) (next e) :=
  peek_follows (fun c => bump_follows.bind fun _ => .pure c) (.throw e) (.throw e)

theorem isWhiteSpace_bracket : Unicode.isWhiteSpace ')' = false := by decide

theorem afterBlanks_closed (comment : Bool) (cs : List Char) :
    afterBlanks comment (cs ++ [')']) = afterBlanks comment cs ++ [')'] ∨
      (afterBlanks comment cs = [] ∧ afterBlanks comment (cs ++ [')']) = []) := by
  induction cs generalizing comment with
  | nil => cases comment <;> simp [afterBlanks, isWhiteSpace_bracket]
  | cons c cs ih =>
    simp only [List.cons_append, afterBlanks]
    split
    · exact ih _
    · split
      · exact ih _
      · split
        · exact ih _
        · exact .inl rfl

theorem skip_follows : Follows skip skip := by
  refine .modify fun r r' hr => ?_
  cases hr with
  | lost hnil =>
    rw [hnil, afterBlanks]
    split
    · exact .lost rfl
    · exact .lost hnil
  | closed =>
    change Beside _ (if r.flags.blanks then
      { r.closed with rest := afterBlanks false (r.rest ++ [')']) } else r.closed)
    split
    · obtain heq | ⟨hnil, hnil'⟩ := afterBlanks_closed false r.rest
      · rw [heq]
        exact .closed
      · rw [hnil, hnil']
        exact .lost rfl
    · exact .closed

theorem bumpSkip_follows : Follows bumpSkip bumpSkip := bump_follows.bind fun _ => skip_follows

theorem isPrefixOf_closed {text : List Char} (h : ')' ∉ text) (cs : List Char) :
    text.isPrefixOf (cs ++ [')']) = text.isPrefixOf cs := by
  induction text generalizing cs with
  | nil => simp
  | cons t text ih =>
    rw [List.mem_cons, not_or] at h
    cases cs with
    | nil => simp [List.isPrefixOf, Ne.symm h.1]
    | cons c cs => simp [List.isPrefixOf, ih h.2]

theorem not_begins_closed (text : List Char) {cs : List Char} (h : ')' ∉ text)
    (hcs : ∀ rest, cs ≠ text ++ rest) (rest : List Char) : cs ++ [')'] ≠ text ++ rest := by
  intro heq
  have hprefix : text.isPrefixOf (cs ++ [')']) := List.isPrefixOf_iff_prefix.2 ⟨rest, heq.symm⟩
  rw [isPrefixOf_closed h] at hprefix
  obtain ⟨rest', hrest'⟩ := List.isPrefixOf_iff_prefix.1 hprefix
  exact hcs rest' hrest'.symm

theorem eat_follows {text : List Char} (h : ')' ∉ text) : Follows (eat text) (eat text) := by
  refine .get fun r r' hr => ?_
  have heq : text.isPrefixOf r'.rest = text.isPrefixOf r.rest := by
    cases hr with
    | closed => exact isPrefixOf_closed h r.rest
    | lost => rfl
  rw [heq]
  refine Follows.ite (fun hprefix => .bind (.set ?_) fun _ => .pure true)
    (fun _ => .pure false) r r' hr
  cases hr with
  | lost hnil => exact .lost (by simp [hnil])
  | closed =>
    have hle : text.length ≤ r.rest.length := (List.isPrefixOf_iff_prefix.1 hprefix).length_le
    have hdrop : r.closed.rest.drop text.length = r.rest.drop text.length ++ [')'] :=
      List.drop_append_of_le_length hle
    rw [hdrop]
    exact .closed

theorem run_peek_bind (k : Option Char → Reader α) (r : Reading) :
    (peek >>= k).run r = (k r.rest.head?).run r := rfl

theorem exists_collect {p : Char → Bool} {n : Nat} {r r' s : Reading} {cs : List Char}
    (hr : Beside r r') (h : (collect p n).run r = .ok (cs, s)) (hs : p ')' = false ∨ s.rest ≠ []) :
    ∃ s', (collect p n).run r' = .ok (cs, s') ∧ Beside s s' := by
  induction n generalizing r r' cs with
  | zero =>
    cases h
    exact ⟨r', rfl, hr⟩
  | succ n ih =>
    rw [collect, run_peek_bind] at h ⊢
    obtain heq | ⟨hnil, hhead⟩ := hr.head?_eq
    · rw [heq]
      cases hc : r.rest.head? with
      | none =>
        rw [hc] at h
        cases h
        exact ⟨r', rfl, hr⟩
      | some c =>
        rw [hc] at h
        dsimp only at h ⊢
        split at h
        · next hp =>
          rw [if_pos hp]
          obtain ⟨_, t, hskip, h⟩ := run_bind_eq_ok.1 h
          obtain ⟨ds, u, hcollect, h⟩ := run_bind_eq_ok.1 h
          cases h
          obtain ⟨t', hskip', ht⟩ := bumpSkip_follows r r' hr _ t hskip
          obtain ⟨u', hcollect', hu⟩ := ih ht hcollect
          refine ⟨u', ?_, hu⟩
          rw [run_bind_of_eq_ok hskip', run_bind_of_eq_ok hcollect']
          rfl
        · next hp =>
          rw [if_neg hp]
          cases h
          exact ⟨r', rfl, hr⟩
    · rw [hnil] at h
      cases h
      rw [hhead]
      dsimp only
      have hp : p ')' = false := by
        refine hs.resolve_right fun hne => hne ?_
        simpa using hnil
      rw [if_neg (by simp [hp])]
      exact ⟨r', rfl, hr⟩

theorem length_afterBlanks_le (comment : Bool) (cs : List Char) :
    (afterBlanks comment cs).length ≤ cs.length := by
  induction cs generalizing comment with
  | nil => exact Nat.le_refl _
  | cons c cs ih =>
    rw [afterBlanks]
    have hle (comment : Bool) : (afterBlanks comment cs).length ≤ (c :: cs).length :=
      Nat.le_succ_of_le (ih comment)
    split
    · exact hle _
    · split
      · exact hle _
      · split
        · exact hle _
        · exact Nat.le_refl _

theorem exists_bumpSkip (r : Reading) :
    ∃ s, bumpSkip.run r = .ok (⟨⟩, s) ∧ s.rest.length ≤ r.rest.tail.length := by
  refine ⟨_, rfl, ?_⟩
  dsimp only
  split
  · exact length_afterBlanks_le false r.rest.tail
  · exact Nat.le_refl _

theorem collect_congr {p : Char → Bool} {m n : Nat} {r : Reading} (hm : r.rest.length ≤ m)
    (hn : r.rest.length ≤ n) : (collect p m).run r = (collect p n).run r := by
  induction m generalizing n r with
  | zero =>
    have hnil : r.rest = [] := List.eq_nil_of_length_eq_zero (Nat.le_zero.1 hm)
    cases n with
    | zero => rfl
    | succ n => simp only [collect, run_peek_bind, hnil, List.head?_nil]
  | succ m ih =>
    cases n with
    | zero =>
      have hnil : r.rest = [] := List.eq_nil_of_length_eq_zero (Nat.le_zero.1 hn)
      simp only [collect, run_peek_bind, hnil, List.head?_nil]
    | succ n =>
      simp only [collect, run_peek_bind]
      cases hc : r.rest with
      | nil => rfl
      | cons c cs =>
        obtain ⟨s, hskip, hle⟩ := exists_bumpSkip r
        rw [hc, List.tail_cons] at hle
        rw [hc, List.length_cons] at hm hn
        have hrest : (collect p m).run s = (collect p n).run s := ih (by omega) (by omega)
        simp only [List.head?_cons]
        split
        · rw [run_bind_of_eq_ok hskip, run_bind_of_eq_ok hskip]
          exact run_bind_congr hrest
        · rfl

theorem collect_follows {p : Char → Bool} (hp : p ')' = false) (n : Nat) :
    Follows (collect p n) (collect p n) :=
  fun _ _ hr _ _ h => exists_collect hr h (.inl hp)

theorem collectAll_follows {p : Char → Bool} (hp : p ')' = false) :
    Follows (collectAll p) (collectAll p) := by
  refine .get fun r r' hr cs s h => ?_
  rw [collect_congr (Nat.le_refl _) hr.length_le] at h
  exact exists_collect hr h (.inl hp)

theorem dropWhile_closed {p : Char → Bool} (hp : p ')' = false) (cs : List Char) :
    (cs ++ [')']).dropWhile p = cs.dropWhile p ++ [')'] := by
  rw [List.dropWhile_append]
  split
  · next hnil =>
    rw [List.isEmpty_iff.1 hnil]
    simp [hp]
  · rfl

theorem decimal_follows : Follows decimal decimal := by
  refine .bind (.modify fun r r' hr => ?_) fun _ => ?_
  · cases hr with
    | lost hnil => exact .lost (by simp [hnil])
    | closed =>
      simp only [Reading.closed, dropWhile_closed isWhiteSpace_bracket]
      exact .closed
  · refine .bind (collectAll_follows (by decide)) fun digits => ?_
    refine .bind (.discard (collectAll_follows isWhiteSpace_bracket)) fun _ => ?_
    exact .ite (fun _ => .throw_bind _) fun _ => .pure _

theorem codePoint_follows (digits : List Char) : Follows (codePoint digits) (codePoint digits) :=
  .ite (fun _ => .throw_bind _) fun _ => .ite (fun _ => .pure _) fun _ => .throw _

theorem hex_follows (width : Nat) : Follows (hex width) (hex width) := by
  refine .bind bumpSkip_follows fun _ => .bind (expect_follows _) fun c => ?_
  refine .ite (fun _ => ?_) fun _ => ?_
  · refine .bind bumpSkip_follows fun _ => .bind (collectAll_follows (by decide)) fun digits => ?_
    refine .bind (expect_follows _) fun d => .ite (fun _ => .throw_bind _) fun _ => ?_
    exact .bind bumpSkip_follows fun _ => codePoint_follows digits
  · refine .bind (collect_follows (by decide) width) fun digits => ?_
    refine .ite (fun _ => .throw_bind _) fun _ => .bind (codePoint_follows digits) fun c => ?_
    exact .bind flags_follows fun _ => .ite (fun _ => .throw_bind _) fun _ => .pure c

theorem negateIf_follows (negated : Bool) (s : CharSet) :
    Follows (negateIf negated s) (negateIf negated s) :=
  .ite (fun _ => .pure _) fun _ =>
    .bind flags_follows fun _ => .ite (fun _ => .pure _) fun _ => .throw _

theorem ne_nil_of_expect {e : RegexProblem} {r s : Reading} {u : PUnit}
    (h : (discard (expect e)).run r = .ok (u, s)) : r.rest ≠ [] := by
  intro hnil
  have hexpect : (expect e).run r = .error e := by
    rw [expect, run_peek_bind, hnil]
    rfl
  change ((Function.const Char PUnit.unit) <$> expect e).run r = _ at h
  rw [StateT.run_map, hexpect] at h
  cases h

theorem bracedName_follows {k : List Char → PUnit → Reader α}
    (hk : ∀ name u, Follows (k name u) (k name u)) :
    Follows (collectAll (· ≠ '}') >>= fun name => discard (expect .escape) >>= k name)
      (collectAll (· ≠ '}') >>= fun name => discard (expect .escape) >>= k name) := by
  intro r r' hr a t h
  obtain ⟨name, s, hname, h⟩ := run_bind_eq_ok.1 h
  obtain ⟨u, v, hexpect, hrest⟩ := run_bind_eq_ok.1 h
  change (collect _ r.rest.length).run r = _ at hname
  rw [collect_congr (Nat.le_refl _) hr.length_le] at hname
  obtain ⟨s', hname', hs⟩ := exists_collect hr hname (.inr (ne_nil_of_expect hexpect))
  obtain ⟨t', h', ht⟩ := Follows.bind (expect_follows .escape).discard (hk name) s s' hs a t h
  exact ⟨t', run_bind_eq_ok.2 ⟨name, s', hname', h'⟩, ht⟩

theorem propertyOf_follows (negated : Bool) (name : List Char) :
    Follows (propertyOf negated name) (propertyOf negated name) := by
  refine .bind flags_follows fun f => .ite (fun _ => .throw_bind _) fun _ => ?_
  split
  · exact negateIf_follows _ _
  · exact .throw _

theorem propertySet_follows : Follows propertySet propertySet := by
  refine .bind (next_follows _) fun c => .bind skip_follows fun _ => ?_
  refine .bind (expect_follows _) fun d => .ite (fun _ => ?_) fun _ => ?_
  · refine .bind bumpSkip_follows fun _ => bracedName_follows fun name _ => ?_
    exact .bind bump_follows fun _ => propertyOf_follows _ name
  · refine .bind (next_follows _) fun e => .ite (fun _ => .throw_bind _) fun _ => ?_
    exact .bind skip_follows fun _ => propertyOf_follows _ [e]

theorem wordBoundary_follows (word : CharSet) :
    Follows (wordBoundary word) (wordBoundary word) := by
  refine .get fun r r' hr => ?_
  have hbrace : r'.rest.head? ≠ some '{' ↔ r.rest.head? ≠ some '{' := by
    obtain heq | ⟨hnil, hhead⟩ := hr.head?_eq
    · rw [heq]
    · simp [hnil, hhead]
  simp only [hbrace]
  refine Follows.ite (fun _ => .pure _) (fun _ => ?_) r r' hr
  refine .bind bumpSkip_follows fun _ => .bind (expect_follows _) fun c => ?_
  refine .ite (fun _ => ?_) fun _ => ?_
  · exact .bind (.set hr) fun _ => .pure _
  · refine .bind (collectAll_follows (by decide)) fun name => peek_follows (fun d => ?_) ?_ ?_
    · refine .ite (fun _ => .throw_bind _) fun _ => .bind bump_follows fun _ => ?_
      split
      · exact .pure _
      · exact .pure _
      · exact .pure _
      · exact .pure _
      · exact .throw _
    · rw [if_pos (by simp)]
      exact .throw_bind _
    · rw [if_pos (by simp)]
      exact .throw_bind _

theorem escape_follows : Follows escape escape := by
  refine .bind bump_follows fun _ => .bind flags_follows fun f => ?_
  refine .bind (expect_follows _) fun c => ?_
  have hbump (a : Atom) : Follows (bump >>= fun _ => pure a) (bump >>= fun _ => pure a) :=
    .bind bump_follows fun _ => .pure a
  have hnegate (s : CharSet) :
      Follows (bump >>= fun _ => negateIf true s >>= fun s => pure (Atom.set s))
      (bump >>= fun _ => negateIf true s >>= fun s => pure (Atom.set s)) :=
    .bind bump_follows fun _ => .bind (negateIf_follows true s) fun s => .pure _
  refine .ite (fun _ => .throw_bind _) fun _ => ?_
  split
  · exact .bind (hex_follows 2) fun c => .pure _
  · exact .bind (hex_follows 4) fun c => .pure _
  · exact .bind (hex_follows 8) fun c => .pure _
  · exact .bind propertySet_follows fun s => .pure _
  · exact .bind propertySet_follows fun s => .pure _
  · exact hbump _
  · exact hnegate _
  · exact hbump _
  · exact hnegate _
  · exact hbump _
  · exact hnegate _
  · exact hbump _
  · exact hbump _
  · exact hbump _
  · exact hbump _
  · exact hbump _
  · exact hbump _
  · exact hbump _
  · exact hbump _
  · exact .bind bump_follows fun _ => .bind (wordBoundary_follows _) fun l => .pure _
  · exact hbump _
  · exact hbump _
  · exact hbump _
  · exact .ite (fun _ => hbump _) fun _ => .throw _

end Reader

end Parsing.Regex
