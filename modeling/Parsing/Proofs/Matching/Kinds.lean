import Parsing.Proofs.Matching.Lockstep

namespace Parsing

variable {K V : Type}

def Token.bare (t : Token K) : Token K := ⟨t.kind, "", .start⟩

def Tree.bare (tree : Tree K) : Tree K := tree.mapTokens Token.bare

theorem Token.bare_eq_iff {t u : Token K} : t.bare = u.bare ↔ t.kind = u.kind := by
  simp [bare]

theorem find?_forall₂ {α β : Type} {R : α → β → Prop} {p : α → Bool} {p' : β → Bool} {l : List α}
    {l' : List β} (h : List.Forall₂ R l l') (hp : ∀ a b, R a b → p' b = p a) :
    Option.Rel R (l.find? p) (l'.find? p') := by
  induction h with
  | nil => exact .none
  | @cons a b l l' hab _ ih =>
    rw [List.find?_cons, List.find?_cons, hp a b hab]
    cases p a with
    | true => exact .some hab
    | false => exact ih

theorem map_eq_of_forall₂ {α β γ : Type} {R : α → β → Prop} {f : α → γ} {f' : β → γ} {l : List α}
    {l' : List β} (h : List.Forall₂ R l l') (hf : ∀ a b, R a b → f' b = f a) :
    l'.map f' = l.map f := by
  induction h with
  | nil => rfl
  | cons hab _ ih => rw [List.map_cons, List.map_cons, hf _ _ hab, ih]

variable [TokenKind K]

section

variable {ts us : List (Token K)}

omit [TokenKind K] in
theorem seenAlike_of_map_kind (h : ts.map (·.kind) = us.map (·.kind)) :
    SeenAlike Token.bare 0 ts us where
  length_eq := by
    rw [Nat.zero_add, ← List.length_map, ← h, List.length_map]
  map_eq i := by
    have hkind : (us.map (·.kind))[i]? = (ts.map (·.kind))[i]? := by rw [h]
    rw [List.getElem?_map, List.getElem?_map] at hkind
    rw [Nat.zero_add]
    revert hkind
    cases us[i]? <;> cases ts[i]? <;> simp [Token.bare_eq_iff]

theorem Grammar.map_kind_withEndMarker (ts : List (Token K)) :
    (withEndMarker ts).map (·.kind) =
      match (ts.map (·.kind)).getLast? with
      | none => [TokenKind.endMarker]
      | some k =>
        if k = TokenKind.endMarker then ts.map (·.kind)
        else ts.map (·.kind) ++ [TokenKind.endMarker] := by
  rw [withEndMarker, List.getLast?_map]
  cases ts.getLast? with
  | none => rfl
  | some t =>
    simp only [Option.map_some, Token.isEnd, decide_eq_true_eq]
    split
    · rfl
    · simp [Token.endAt]

theorem Grammar.seenAlike_withEndMarker (h : ts.map (·.kind) = us.map (·.kind)) :
    SeenAlike Token.bare 0 (withEndMarker ts) (withEndMarker us) := by
  apply seenAlike_of_map_kind
  rw [map_kind_withEndMarker, map_kind_withEndMarker, h]

end

namespace Grammar

variable {g : Grammar K V} {f : Token K → Token K} {ts us : List (Token K)} {q : Nat} {e : Token K}

omit [TokenKind K] in
theorem failed_alike {stop : Nat} {errors errors' : List (Unexpected K)} :
    (Outcome.failed errors stop).Alike f 0 (.failed errors' stop) := by
  have h : (Outcome.failed errors stop).Alike f 0 (.failed errors' (0 + stop)) := .failed
  rwa [Nat.zero_add] at h

omit [TokenKind K] in
theorem tokenAt_inStep_zero (hts : SeenAlike f 0 ts us) {i : Nat} (hi : i < ts.length) :
    (tokenAt ts i).InStep (fun t u => f t = f u) (tokenAt us i) := by
  have h := (tokenAt_inStep hts hi).imp fun _ _ h => h.2.2
  rwa [Nat.zero_add] at h

theorem report_inStep (hts : SeenAlike f 0 ts us) (hlt : q < ts.length)
    {attempts attempts' : List (Outcome K)}
    (h : List.Forall₂ (Outcome.Alike f 0) attempts attempts') (hstop : ∀ o ∈ attempts, o.stop ≤ q) :
    (report ts attempts).InStep (Outcome.Alike f 0) (report us attempts') := by
  have hstops : attempts'.map Outcome.stop = attempts.map Outcome.stop :=
    map_eq_of_forall₂ h fun o o' ho => ho.stop_eq.trans (Nat.zero_add _)
  have hle : (attempts.map Outcome.stop).foldl max 0 ≤ q :=
    foldl_max_le (Nat.zero_le q) (by simpa using hstop)
  rw [report, report, hstops]
  exact (tokenAt_inStep_zero hts (hle.trans_lt hlt)).bind fun _ _ _ => .ok failed_alike

variable (hf : ∀ t, (f t).kind = t.kind) (hts : SeenAlike f 0 ts us) (hq : ts[q]? = some e)
  (he : e.isEnd = true)

include hf hts hq he

theorem matchStart_inStep (n : NonTerminal K V) :
    (g.matchStart ts n).InStep (Outcome.Alike f 0) (g.matchStart us n) := by
  have hlt : q < ts.length := (List.getElem?_eq_some_iff.1 hq).1
  have hlength : us.length = ts.length := hts.length_eq.trans (Nat.zero_add _)
  refine (tokenAt_inStep_zero hts (Nat.zero_lt_of_lt hlt)).bind fun t u htu => ?_
  simp only [kind_eq_of_alike hf htu]
  have hrule (p : Nat × Rule K V) : (g.matchRule ts n.name p.1 p.2 0).InStep (Outcome.Alike f 0)
      (g.matchRule us n.name p.1 p.2 0) := by
    rw [matchRule, matchRule, depth, depth, hlength]
    exact matchRuleAt_inStep hf hts hq he _ n.name p.1 p.2 0 (Nat.zero_le q)
  have hsafe (p : Nat × Rule K V) : (g.matchRule ts n.name p.1 p.2 0).Safe fun o => o.stop ≤ q :=
    (matchRule_safe hq he (Nat.zero_le q)).imp fun o ho => ho.2
  refine ((Match.InStep.mapM fun p _ => hrule p).left (Match.Safe.mapM fun p _ => hsafe p)).bind
    fun attempts attempts' hattempts => ?_
  obtain ⟨h, hstop⟩ := hattempts
  have hended (o o' : Outcome K) (ho : o.Alike f 0 o') :
      (o'.isEnded && o'.isMatch) = (o.isEnded && o.isMatch) := by
    rw [ho.isEnded_eq, ho.isMatch_eq]
  have hempty : attempts.isEmpty = attempts'.isEmpty := by
    cases h <;> rfl
  rw [hempty]
  split
  · exact .ok failed_alike
  · have hfind := find?_forall₂ h hended
    revert hfind
    generalize attempts.find? (fun o => o.isEnded && o.isMatch) = first
    generalize attempts'.find? (fun o => o.isEnded && o.isMatch) = first'
    intro hfind
    cases hfind with
    | some ho => exact .ok ho
    | none => exact report_inStep hts hlt h hstop

end Grammar

theorem Grammar.parse_inStep {g : Grammar K V} {ts us : List (Token K)}
    (h : ts.map (·.kind) = us.map (·.kind)) (start : String) :
    (g.parse ts start).InStep (Outcome.Alike Token.bare 0) (g.parse us start) := by
  have hts := seenAlike_withEndMarker h
  obtain ⟨e, hq, he⟩ := getElem?_last_withEndMarker ts
  have hlt := (List.getElem?_eq_some_iff.1 hq).1
  rw [parse, parse]
  cases g.nonTerminal? start with
  | some n => exact matchStart_inStep (f := Token.bare) (fun _ => rfl) hts hq he n
  | none =>
    exact (tokenAt_inStep_zero hts (Nat.zero_lt_of_lt hlt)).bind fun _ _ _ => .ok failed_alike

/-- Parses of tokens of the same kinds, whatever they say and wherever they stand, are the same:
without an outcome for the same fault, or with outcomes of one kind that end at one place. Their
trees differ only in the tokens themselves, which are in both those at the front of the list. -/
theorem parse_sees_only_kinds (g : Grammar K V) {ts us : List (Token K)}
    (h : ts.map (·.kind) = us.map (·.kind)) (start : String) :
    (∀ fault, g.parse ts start = .error fault ↔ g.parse us start = .error fault) ∧
    ∀ o, g.parse ts start = .ok o → ∃ o', g.parse us start = .ok o' ∧
      o'.isMatch = o.isMatch ∧ o'.isError = o.isError ∧ o'.isEnded = o.isEnded ∧
      o'.stop = o.stop ∧
      ∀ tree, o.tree? = some tree → ∃ tree', o'.tree? = some tree' ∧ tree'.bare = tree.bare ∧
        tree.tokens = ts.extract 0 o.stop ∧ tree'.tokens = us.extract 0 o.stop := by
  have hstep : (g.parse ts start).InStep (Outcome.Alike Token.bare 0) (g.parse us start) :=
    Grammar.parse_inStep h start
  refine ⟨hstep.error_iff, fun o ho => ?_⟩
  obtain ⟨o', ho', halike⟩ := hstep.exists_of_ok ho
  refine ⟨o', ho', halike.isMatch_eq, halike.isError_eq, halike.isEnded_eq,
    halike.stop_eq.trans (Nat.zero_add _), fun tree htree => ?_⟩
  cases halike with
  | failed => cases htree
  | inapplicable => cases htree
  | matched hbare =>
    cases htree
    have hcov := (Grammar.parse_sound ho).2.eq_extract
    have hcov' := (Grammar.parse_sound ho').2.eq_extract
    rw [Nat.zero_add] at hcov'
    exact ⟨_, rfl, hbare.symm, hcov, hcov'⟩

namespace Brackets

def written : List (Token Json.TokenType) := [
  ⟨.openBracket, "[", ⟨2, 0, 7⟩⟩, ⟨.int, "42", ⟨2, 1, 8⟩⟩, ⟨.openBracket, "[", ⟨3, 0, 11⟩⟩,
  ⟨.closeBracket, "]", ⟨3, 1, 12⟩⟩, ⟨.closeBracket, "]", ⟨3, 2, 13⟩⟩]

theorem parse_written : written ≠ tokens ∧ ∃ o', grammar.parse written "list" = .ok o' ∧
    o'.isEnded = true ∧ o'.stop = 5 ∧
    ∃ tree', o'.tree? = some tree' ∧ tree'.bare = tree.bare ∧ tree'.tokens = written := by
  have hkinds : tokens.map (·.kind) = written.map (·.kind) := by decide
  obtain ⟨o', ho', -, -, hended, hstop, htree⟩ :=
    (parse_sees_only_kinds grammar hkinds "list").2 _ parse_tokens
  obtain ⟨tree', htree', hbare, -, htokens⟩ := htree tree rfl
  exact ⟨by decide, o', ho', hended, hstop, tree', htree', hbare, htokens⟩

end Brackets

end Parsing
