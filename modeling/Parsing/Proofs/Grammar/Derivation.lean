import Parsing.Proofs.Grammar.Build

namespace Parsing

variable {K V : Type}

inductive Derives (A : Alternatives K) : Clause K → List K → Prop
  | terminal {k : K} : Derives A (.terminal k) [k]
  | nonTerminal {name : String} {cs : List (Clause K)} {w : List K} :
    A name cs → Derives A (.group cs) w → Derives A (.nonTerminal name) w
  | zeroOrMore {c : Clause K} {vs : List (List K)} :
    (∀ v ∈ vs, Derives A c v) → Derives A (.zeroOrMore c) vs.flatten
  | oneOrMore {c : Clause K} {vs : List (List K)} :
    vs ≠ [] → (∀ v ∈ vs, Derives A c v) → Derives A (.oneOrMore c) vs.flatten
  | absent {c : Clause K} : Derives A (.optional c) []
  | present {c : Clause K} {w : List K} : Derives A c w → Derives A (.optional c) w
  | group_nil : Derives A (.group []) []
  | group_cons {c : Clause K} {cs : List (Clause K)} {v w : List K} :
    Derives A c v → Derives A (.group cs) w → Derives A (.group (c :: cs)) (v ++ w)

/-- Whether a clause occurs in a derivation from `start`, where `rest` is what comes behind it. -/
inductive Occurs (A : Alternatives K) (start : String) : Clause K → List K → Prop
  | start : Occurs A start (.nonTerminal start) []
  | rule {name : String} {cs : List (Clause K)} {rest : List K} :
    Occurs A start (.nonTerminal name) rest → A name cs → Occurs A start (.group cs) rest
  | head {c : Clause K} {cs : List (Clause K)} {rest w : List K} :
    Occurs A start (.group (c :: cs)) rest → Derives A (.group cs) w → Occurs A start c (w ++ rest)
  | tail {c : Clause K} {cs : List (Clause K)} {rest v : List K} :
    Occurs A start (.group (c :: cs)) rest → Derives A c v → Occurs A start (.group cs) rest
  | zeroOrMore {c : Clause K} {rest w : List K} :
    Occurs A start (.zeroOrMore c) rest → Derives A (.zeroOrMore c) w → Occurs A start c (w ++ rest)
  | oneOrMore {c : Clause K} {rest w : List K} :
    Occurs A start (.oneOrMore c) rest → Derives A (.zeroOrMore c) w → Occurs A start c (w ++ rest)
  | optional {c : Clause K} {rest : List K} :
    Occurs A start (.optional c) rest → Occurs A start c rest

def RepeatsNonEmpty (A : Alternatives K) (c : Clause K) : Prop :=
  ∀ d, .zeroOrMore d ∈ c.walk ∨ .oneOrMore d ∈ c.walk → ¬ Derives A d []

/-- One token of look-ahead decides between rules, and whether to go on with an option or a
repetition. -/
structure LL1 (g : Grammar K V) (start : String) : Prop where
  nonEmpty : ∀ name, ¬ Derives g.alternatives (.nonTerminal name) []
  noLeftRecursion : NoLeftRecursion g.alternatives
  repeatsNonEmpty : ∀ name cs, g.alternatives name cs → RepeatsNonEmpty g.alternatives (.group cs)
  disjoint : ∀ n ∈ g.nonTerminals,
    n.rules.Pairwise fun r s => r.leading.toList.Disjoint s.leading.toList
  follow : ∀ c d, d = .optional c ∨ d = .zeroOrMore c ∨ d = .oneOrMore c →
    ∀ k v, Occurs g.alternatives start d (k :: v) → ∀ w, ¬ Derives g.alternatives c (k :: w)

variable {A : Alternatives K} {start : String}

theorem MatchesEmpty.derives {c : Clause K} (h : MatchesEmpty A c) : Derives A c [] := by
  induction h with
  | nonTerminal ha _ ih => exact .nonTerminal ha ih
  | @zeroOrMore c => exact @Derives.zeroOrMore K A c [] (by simp)
  | optional => exact .absent
  | group_nil => exact .group_nil
  | group_cons _ _ ih ihs => exact .group_cons ih ihs

namespace Derives

variable {c : Clause K} {cs : List (Clause K)} {u : List K}

@[simp] theorem terminal_iff {k : K} : Derives A (.terminal k) u ↔ u = [k] := by
  constructor
  · intro h
    cases h
    rfl
  · rintro rfl
    exact .terminal

theorem nonTerminal_iff {name : String} :
    Derives A (.nonTerminal name) u ↔ ∃ cs, A name cs ∧ Derives A (.group cs) u := by
  constructor
  · intro h
    cases h with
    | nonTerminal ha h => exact ⟨_, ha, h⟩
  · rintro ⟨cs, ha, h⟩
    exact .nonTerminal ha h

@[simp] theorem group_nil_iff : Derives A (.group []) u ↔ u = [] := by
  constructor
  · intro h
    cases h
    rfl
  · rintro rfl
    exact .group_nil

@[simp] theorem group_cons_iff :
    Derives A (.group (c :: cs)) u ↔
      ∃ v w, Derives A c v ∧ Derives A (.group cs) w ∧ u = v ++ w := by
  constructor
  · intro h
    cases h with
    | group_cons hv hw => exact ⟨_, _, hv, hw, rfl⟩
  · rintro ⟨v, w, hv, hw, rfl⟩
    exact .group_cons hv hw

end Derives

theorem LeadsTo.mem_walk {skips : Clause K → Prop} {c : Clause K} {name : String}
    (h : LeadsTo skips c name) : .nonTerminal name ∈ c.walk := by
  induction h with
  | nonTerminal => exact Clause.mem_walk_self _
  | zeroOrMore _ ih | oneOrMore _ ih | optional _ ih => exact List.mem_cons_of_mem _ ih
  | group_head _ ih => simp [Clause.walk, Clause.walkAll, ih]
  | group_tail _ _ ih =>
    simp only [Clause.walk, List.mem_cons, reduceCtorEq, false_or] at ih
    simp [Clause.walk, Clause.walkAll, ih]

theorem LeadsTo.mem_walkAll {skips : Clause K → Prop} {cs : List (Clause K)} {name : String}
    (h : LeadsTo skips (.group cs) name) : .nonTerminal name ∈ Clause.walkAll cs := by
  simpa [Clause.walk] using h.mem_walk

namespace RepeatsNonEmpty

variable {c : Clause K} {cs : List (Clause K)}

theorem zeroOrMore (h : RepeatsNonEmpty A (.zeroOrMore c)) : RepeatsNonEmpty A c := by
  intro d hd
  apply h
  simpa [Clause.walk] using hd.imp .inr id

theorem oneOrMore (h : RepeatsNonEmpty A (.oneOrMore c)) : RepeatsNonEmpty A c := by
  intro d hd
  apply h
  simpa [Clause.walk] using hd.imp id .inr

theorem optional (h : RepeatsNonEmpty A (.optional c)) : RepeatsNonEmpty A c := by
  intro d hd
  apply h
  simpa [Clause.walk] using hd

theorem head (h : RepeatsNonEmpty A (.group (c :: cs))) : RepeatsNonEmpty A c := by
  intro d hd
  apply h
  simpa [Clause.walk, Clause.walkAll] using hd.imp .inl .inl

theorem tail (h : RepeatsNonEmpty A (.group (c :: cs))) : RepeatsNonEmpty A (.group cs) := by
  intro d hd
  apply h
  simp only [Clause.walk, Clause.walkAll, List.mem_cons, List.mem_append] at hd ⊢
  simp only [reduceCtorEq, false_or] at hd ⊢
  exact hd.imp .inr .inr

theorem body_of_zeroOrMore (h : RepeatsNonEmpty A (.zeroOrMore c)) : ¬ Derives A c [] :=
  h c (.inl (Clause.mem_walk_self _))

theorem body_of_oneOrMore (h : RepeatsNonEmpty A (.oneOrMore c)) : ¬ Derives A c [] :=
  h c (.inr (Clause.mem_walk_self _))

end RepeatsNonEmpty

theorem Derives.isOptional {c : Clause K} {w : List K} (h : Derives A c w)
    (hn : ∀ name, ¬ Derives A (.nonTerminal name) []) (hc : RepeatsNonEmpty A c) (hw : w = []) :
    c.isOptional = true := by
  induction h with
  | terminal => cases hw
  | nonTerminal ha h =>
    subst hw
    exact absurd (.nonTerminal ha h) (hn _)
  | zeroOrMore => rfl
  | @oneOrMore c vs hne hvs =>
    obtain ⟨v, hv⟩ := List.exists_mem_of_ne_nil vs hne
    rw [List.flatten_eq_nil_iff] at hw
    exact absurd (hw v hv ▸ hvs v hv) hc.body_of_oneOrMore
  | absent => rfl
  | present => rfl
  | group_nil => rfl
  | group_cons _ _ ih ihs =>
    obtain ⟨hv, hw⟩ := List.append_eq_nil_iff.1 hw
    exact Clause.isOptional_group_cons.2 ⟨ih hc.head hv, ihs hc.tail hw⟩

theorem flatten_eq_cons {vs : List (List K)} {k : K} {w : List K} (hne : ∀ v ∈ vs, v ≠ [])
    (h : vs.flatten = k :: w) : ∃ v vs', (k :: v) :: vs' = vs := by
  cases vs with
  | nil => cases h
  | cons v vs =>
    cases v with
    | nil => exact absurd rfl (hne [] (by simp))
    | cons l v =>
      cases h
      exact ⟨v, vs, rfl⟩

theorem Derives.begins {c : Clause K} {u : List K} (h : Derives A c u)
    (hn : ∀ name, ¬ Derives A (.nonTerminal name) [])
    (hA : ∀ name cs, A name cs → RepeatsNonEmpty A (.group cs)) (hc : RepeatsNonEmpty A c) {k : K}
    {w : List K} (hu : u = k :: w) : Begins A c k := by
  induction h generalizing w with
  | terminal =>
    cases hu
    exact .terminal
  | nonTerminal ha _ ih => exact .nonTerminal ha (ih (hA _ _ ha) hu)
  | @zeroOrMore c vs hvs ih =>
    have hne : ∀ v ∈ vs, v ≠ [] := fun v hv hnil => hc.body_of_zeroOrMore (hnil ▸ hvs v hv)
    obtain ⟨v, vs, rfl⟩ := flatten_eq_cons hne hu
    exact .zeroOrMore (ih (k :: v) (by simp) hc.zeroOrMore rfl)
  | @oneOrMore c vs _ hvs ih =>
    have hne : ∀ v ∈ vs, v ≠ [] := fun v hv hnil => hc.body_of_oneOrMore (hnil ▸ hvs v hv)
    obtain ⟨v, vs, rfl⟩ := flatten_eq_cons hne hu
    exact .oneOrMore (ih (k :: v) (by simp) hc.oneOrMore rfl)
  | absent => cases hu
  | present _ ih => exact .optional (ih hc.optional hu)
  | group_nil => cases hu
  | @group_cons c cs v w' hv _ ih ihs =>
    cases v with
    | nil => exact .group_tail (hv.isOptional hn hc.head rfl) (ihs hc.tail hu)
    | cons l v =>
      cases hu
      exact .group_head (ih hc.head rfl)

theorem Occurs.repeatsNonEmpty (hA : ∀ name cs, A name cs → RepeatsNonEmpty A (.group cs))
    {c : Clause K} {rest : List K} (h : Occurs A start c rest) : RepeatsNonEmpty A c := by
  induction h with
  | start => simp [RepeatsNonEmpty, Clause.walk]
  | rule _ ha => exact hA _ _ ha
  | head _ _ ih => exact ih.head
  | tail _ _ ih => exact ih.tail
  | zeroOrMore _ _ ih => exact ih.zeroOrMore
  | oneOrMore _ _ ih => exact ih.oneOrMore
  | optional _ ih => exact ih.optional

variable [TokenKind K]

theorem Derives.endMarker_not_mem {c : Clause K} {w : List K} (h : Derives A c w)
    (hA : ∀ name cs, A name cs → .terminal TokenKind.endMarker ∉ Clause.walkAll cs)
    (hc : .terminal TokenKind.endMarker ∉ c.walk) : TokenKind.endMarker ∉ w := by
  induction h with
  | terminal =>
    rw [List.mem_singleton]
    rintro rfl
    exact hc (Clause.mem_walk_self _)
  | nonTerminal ha _ ih =>
    apply ih
    simpa [Clause.walk] using hA _ _ ha
  | zeroOrMore _ ih =>
    rw [List.mem_flatten]
    rintro ⟨v, hv, hmem⟩
    exact ih v hv (fun hw => hc (by simp [Clause.walk, hw])) hmem
  | oneOrMore _ _ ih =>
    rw [List.mem_flatten]
    rintro ⟨v, hv, hmem⟩
    exact ih v hv (fun hw => hc (by simp [Clause.walk, hw])) hmem
  | absent => simp
  | present _ ih => exact ih fun hw => hc (by simp [Clause.walk, hw])
  | group_nil => simp
  | group_cons _ _ ih ihs =>
    simp only [Clause.walk, Clause.walkAll, List.mem_cons, List.mem_append, reduceCtorEq, false_or,
      not_or] at hc
    rw [List.mem_append, not_or]
    exact ⟨ih hc.1, ihs (by simpa [Clause.walk] using hc.2)⟩

theorem Grammar.endMarker_not_mem {ps : List (Production K V)} {g : Grammar K V}
    (hg : build start ps = .ok g) {name : String} {cs : List (Clause K)}
    (h : g.alternatives name cs) : .terminal TokenKind.endMarker ∉ Clause.walkAll cs := by
  obtain ⟨rules, -, -, herror, rfl⟩ := of_build_eq_ok hg
  rw [alternatives, Leading.alternatives_fill] at h
  obtain ⟨n, hn, r, hr, rfl⟩ := h
  have hrule := List.findSome?_eq_none_iff.1
    (List.findSome?_eq_none_iff.1 herror n (NonTerminal.mem_of_find? hn)) r hr
  intro hmem
  have hclause := List.findSome?_eq_none_iff.1 (Option.or_eq_none_iff.1 hrule).1 _ hmem
  simp [NonTerminal.clauseError?] at hclause

def Clause.frontNames : List (Clause K) → List String
  | [] => []
  | terminal _ :: _ => []
  | c :: cs =>
    c.walk.filterMap (fun | nonTerminal name => some name | _ => none) ++ frontNames cs

omit [TokenKind K] in
theorem LeadsTo.mem_frontNames {A : Alternatives K} {cs : List (Clause K)} {name : String}
    (h : LeadsTo (MatchesEmpty A) (.group cs) name) : name ∈ Clause.frontNames cs := by
  induction cs with
  | nil => exact absurd h not_group_nil
  | cons c cs ih =>
    have hfront : ∀ {d : Clause K}, LeadsTo (MatchesEmpty A) d name → name ∈ d.walk.filterMap
        fun | .nonTerminal a => some a | _ => none :=
      fun hd => List.mem_filterMap.2 ⟨_, hd.mem_walk, rfl⟩
    rcases group_cons_iff.1 h with hc | ⟨hempty, hcs⟩
    · cases c with
      | terminal k => cases hc
      | nonTerminal | zeroOrMore | oneOrMore | optional | group =>
        exact List.mem_append_left _ (hfront hc)
    · cases c with
      | terminal k => cases hempty
      | nonTerminal | zeroOrMore | oneOrMore | optional | group =>
        exact List.mem_append_right _ (ih hcs)

omit [TokenKind K] in
theorem Grammar.noLeftRecursion_of_level {g : Grammar K V} (level : String → Nat)
    (h : ∀ n ∈ g.nonTerminals, ∀ r ∈ n.rules, ∀ name ∈ Clause.frontNames r.clauses,
      level name < level n.name) : NoLeftRecursion g.alternatives := by
  refine not_transGen_self_of_lt level fun a b hab => ?_
  obtain ⟨_, ⟨n, hn, r, hr, rfl⟩, hb⟩ := hab
  have hlt := h n (NonTerminal.mem_of_find? hn) r hr b hb.mem_frontNames
  rwa [NonTerminal.name_of_find? hn] at hlt

end Parsing
