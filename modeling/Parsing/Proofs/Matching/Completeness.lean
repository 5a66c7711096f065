import Parsing.Proofs.Matching.Filter

namespace Parsing

variable {K V : Type} {us : List (Token K)} {i : Nat} {v w : List K}

structure Remains (us : List (Token K)) (i : Nat) (w : List K) : Prop where
  le_length : i ≤ us.length
  kinds_eq : (us.drop i).map (·.kind) = w

namespace Remains

theorem append (h : Remains us i (v ++ w)) : Remains us (i + v.length) w := by
  have hlen := congrArg List.length h.kinds_eq
  rw [List.length_map, List.length_drop, List.length_append] at hlen
  constructor
  · have hle := h.le_length
    omega
  · rw [← List.drop_drop, List.map_drop, h.kinds_eq, List.drop_left]

theorem exists_token {k : K} (h : Remains us i (k :: w)) : ∃ t, us[i]? = some t ∧ t.kind = k := by
  have hhead : (us.map (·.kind))[i]? = some k := by
    rw [← Nat.add_zero i, ← List.getElem?_drop, ← List.map_drop, h.kinds_eq]
    rfl
  rw [List.getElem?_map, Option.map_eq_some_iff] at hhead
  exact hhead

theorem eq_nil (h : Remains us us.length w) : w = [] := by
  rw [← h.kinds_eq, List.drop_length, List.map_nil]

end Remains

variable [TokenKind K] {g : Grammar K V} {e : Token K} {start : String}

theorem Fits.derives {c : Clause K} {tree : Tree K} (h : Fits g c tree) :
    Derives g.alternatives c (tree.tokens.map (·.kind)) := by
  induction h with
  | leaf hk =>
    subst hk
    exact .terminal
  | node hr _ ih => exact .nonTerminal (Grammar.alternatives_of_rule? hr) ih
  | @zeroOrMore c trees _ _ ih =>
    rw [Tree.tokens, Tree.tokensAll_eq, List.map_flatMap, List.flatMap_def]
    apply Derives.zeroOrMore
    intro v hv
    obtain ⟨tree, htree, rfl⟩ := List.mem_map.1 hv
    exact ih tree htree
  | @oneOrMore c trees hne _ _ ih =>
    rw [Tree.tokens, Tree.tokensAll_eq, List.map_flatMap, List.flatMap_def]
    apply Derives.oneOrMore
    · simpa using hne
    · intro v hv
      obtain ⟨tree, htree, rfl⟩ := List.mem_map.1 hv
      exact ih tree htree
  | absent => exact .absent
  | present _ ih => exact .present ih
  | group_nil => exact .group_nil
  | group_cons _ _ ih ihs =>
    rw [Tree.tokens, Tree.tokensAll, List.map_append]
    exact .group_cons ih ihs

namespace LL1

variable (hl : LL1 g start) {name : String} {n : NonTerminal K V}
  (hn : g.nonTerminal? name = some n)

include hl hn

omit [TokenKind K] in
theorem mayBeEmpty_eq_false {r : Rule K V} (hr : r ∈ n.rules) : r.mayBeEmpty = false := by
  rw [← Bool.not_eq_true]
  intro h
  have hempty : MatchesEmpty g.alternatives (.group r.clauses) := .of_isOptional h
  exact hl.nonEmpty name (.nonTerminal ⟨n, hn, r, hr, rfl⟩ hempty.derives)

theorem filter_admits {index : Nat} {r : Rule K V} (hr : n.rules[index]? = some r) {k : K}
    (hk : r.admits k = true) : (n.numbered.filter fun p => p.2.admits k) = [(index, r)] := by
  have hmem : (index, r) ∈ n.numbered.filter fun p => p.2.admits k :=
    List.mem_filter.2 ⟨NonTerminal.mem_numbered.2 hr, hk⟩
  have hadmits : ∀ p ∈ n.numbered.filter fun p => p.2.admits k, p.2.admits k = true :=
    fun p hp => (List.mem_filter.1 hp).2
  have hdisjoint := hl.disjoint n (NonTerminal.mem_of_find? hn)
  rw [← n.map_snd_numbered, List.pairwise_map] at hdisjoint
  replace hdisjoint := hdisjoint.filter fun p => p.2.admits k
  generalize n.numbered.filter (fun p => p.2.admits k) = l at hmem hadmits hdisjoint
  cases l with
  | nil => cases hmem
  | cons p l =>
    cases l with
    | nil =>
      rw [List.mem_singleton] at hmem
      rw [hmem]
    | cons q l =>
      have hp := LeadingTokens.contains_iff.1 (hadmits p (by simp))
      have hq := LeadingTokens.contains_iff.1 (hadmits q (by simp))
      exact absurd hq ((List.pairwise_cons.1 hdisjoint).1 q (by simp) hp)

theorem filter_leading {index : Nat} {r : Rule K V} (hr : n.rules[index]? = some r) {k : K}
    (hk : r.admits k = true) : (n.numbered.filter fun p => Choice.leading p.2 k) = [(index, r)] := by
  rw [← hl.filter_admits hn hr hk]
  apply List.filter_congr
  intro p hp
  have hmem := List.mem_of_getElem? (NonTerminal.mem_numbered.1 hp)
  rw [Choice.leading, hl.mayBeEmpty_eq_false hn hmem, Bool.or_false]

theorem admits_of_derives (hadmits : g.AdmitsBegins) {index : Nat} {r : Rule K V}
    (hr : n.rules[index]? = some r) {k : K}
    (hw : Derives g.alternatives (.group r.clauses) (k :: w)) : r.admits k = true := by
  have ha : g.alternatives name r.clauses := ⟨n, hn, r, List.mem_of_getElem? hr, rfl⟩
  have hbegins := hw.begins hl.nonEmpty hl.repeatsNonEmpty (hl.repeatsNonEmpty name _ ha) rfl
  exact hadmits name index r (Grammar.rule?_eq_some.2 ⟨n, hn, hr⟩) k hbegins

end LL1

section

variable {ts : List (Token K)} {call : String → Nat → Match (Outcome K)} {t : Token K}
  {name : String} {n : NonTerminal K V} {index : Nat} {r : Rule K V} {stop : Nat} {tree : Tree K}
  {ended : Bool} {errors : List (Unexpected K)}

theorem Rule.exists_matchAt_of_group (ht : ts[i]? = some t) (hk : r.admits t.kind = true)
    (h : Clause.matchAt ts call (.group r.clauses) i = .ok (.matched tree stop ended errors)) :
    ∃ tree errors, r.matchAt ts call name index i = .ok (.matchedAt ts tree stop errors) := by
  obtain ⟨ms, hms, heq⟩ := Clause.matchAt_group.1 h
  cases ms with
  | failed => cases heq
  | matched trees stop errors =>
    cases heq
    rw [← Rule.matchBy_leading]
    refine ⟨.node (r.head name index trees) trees, errors, Rule.matchBy_eq_ok.2 ⟨t, ht, ?_⟩⟩
    rw [Choice.leading, hk, Bool.true_or, if_pos rfl]
    exact ⟨_, hms, rfl⟩

theorem NonTerminal.exists_matchAt_of_filter (ht : ts[i]? = some t)
    (hfilter : (n.numbered.filter fun p => Choice.leading p.2 t.kind) = [(index, r)])
    (h : r.matchAt ts call n.name index i = .ok (.matched tree stop ended errors)) :
    ∃ errors, n.matchAt ts call i = .ok (.matched tree stop ended errors) := by
  rw [← Rule.matchBy_leading] at h
  simp only [← NonTerminal.matchBy_leading, matchBy_eq_ok, ht, hfilter, Option.some.injEq,
    exists_eq_left', List.cons_ne_nil, if_false, firstMatch, h]
  exact ⟨_, rfl⟩

theorem Grammar.matchStart_of_filter {o : Outcome K} (ht : ts[0]? = some t)
    (hfilter : (n.numbered.filter fun p => p.2.admits t.kind) = [(index, r)])
    (h : g.matchRule ts n.name index r 0 = .ok o) (hended : (o.isEnded && o.isMatch) = true) :
    g.matchStart ts n = .ok o := by
  rw [matchStart, Except.bind_eq_ok]
  refine ⟨t, tokenAt_eq_ok.2 ht, ?_⟩
  rw [hfilter, Except.bind_eq_ok]
  refine ⟨[o], ?_, ?_⟩
  · simp only [List.mapM_cons, h]
    rfl
  · simp only [List.isEmpty_cons, Bool.false_eq_true, if_false, List.find?_cons, hended]
    rfl

end

def Recognizes (us : List (Token K)) (e : Token K) (start : String) (g : Grammar K V) (c : Clause K)
    (w : List K) : Prop :=
  ∀ i rest, Occurs g.alternatives start c rest → Remains us i (w ++ rest) →
    ∃ tree ended errors,
      g.matchClause (us ++ [e]) c i = .ok (.matched tree (i + w.length) ended errors)

omit [TokenKind K] in
theorem getElem?_end : (us ++ [e])[us.length]? = some e := by simp

theorem isEndedAt_end : isEndedAt (us ++ [e]) us.length = true := by
  simp [isEndedAt]

theorem Remains.token_or_end (hus : ∀ t ∈ us, t.isEnd = false) (h : Remains us i w) :
    (∃ t, (us ++ [e])[i]? = some t ∧ t.isEnd = false) ∨ ((us ++ [e])[i]? = some e ∧ w = []) := by
  obtain rfl | hlt := Nat.eq_or_lt_of_le h.le_length
  · exact .inr ⟨getElem?_end, h.eq_nil⟩
  · refine .inl ⟨us[i], ?_, hus _ (List.getElem_mem hlt)⟩
    rw [List.getElem?_append_left hlt, List.getElem?_eq_getElem hlt]

theorem Repetition.exists_outcome {r : Repetition K} (hi : Remains us r.stop w) :
    ∃ errors, r.outcome (us ++ [e]) = .ok (.matchedAt (us ++ [e]) (.many r.trees) r.stop errors) := by
  have hlt : r.stop < (us ++ [e]).length := by
    rw [List.length_append]
    exact Nat.lt_succ_of_le hi.le_length
  exact ⟨_, Repetition.outcome_eq_ok.2 ⟨_, List.getElem?_eq_getElem hlt, rfl⟩⟩

namespace Recognizes

variable {c : Clause K} {cs : List (Clause K)}

theorem terminal (hus : ∀ t ∈ us, t.isEnd = false) {k : K} :
    Recognizes us e start g (.terminal k) [k] := by
  intro i rest _ hi
  obtain ⟨t, ht, hk⟩ := hi.exists_token
  obtain ⟨hlt, rfl⟩ := List.getElem?_eq_some_iff.1 ht
  have hmatch : g.matchClause (us ++ [e]) (.terminal k) i =
      .ok (.matchedAt (us ++ [e]) (.leaf us[i]) (i + 1) []) := by
    refine Clause.matchAt_terminal.2 ⟨us[i], ?_, ?_⟩
    · rw [List.getElem?_append_left hlt, ht]
    · rw [if_pos ⟨hk, hus _ (List.getElem_mem hlt)⟩]
  exact ⟨_, _, _, hmatch⟩

theorem present (h : Recognizes us e start g c w) : Recognizes us e start g (.optional c) w := by
  intro i rest hoccurs hi
  obtain ⟨tree, ended, errors, hmatch⟩ := h i rest hoccurs.optional hi
  exact ⟨_, _, _, Clause.matchAt_optional.2 ⟨_, hmatch, rfl⟩⟩

theorem group_nil : Recognizes us e start g (.group []) [] := by
  intro i rest _ _
  exact ⟨_, _, _, Clause.matchAt_group.2 ⟨_, Clause.matchAll_nil.2 rfl, rfl⟩⟩

theorem group_cons (hv : Derives g.alternatives c v) (hw : Derives g.alternatives (.group cs) w)
    (h : Recognizes us e start g c v) (hs : Recognizes us e start g (.group cs) w) :
    Recognizes us e start g (.group (c :: cs)) (v ++ w) := by
  intro i rest hoccurs hi
  rw [List.append_assoc] at hi
  obtain ⟨tree, ended, errors, hmatch⟩ := h i (w ++ rest) (hoccurs.head hw) hi
  obtain ⟨tree', ended', errors', hgroup⟩ := hs (i + v.length) rest (hoccurs.tail hv) hi.append
  obtain ⟨ms, hms, heq⟩ := Clause.matchAt_group.1 hgroup
  cases ms with
  | failed => cases heq
  | matched trees stop errors =>
    cases heq
    rw [List.length_append, ← Nat.add_assoc]
    exact ⟨_, _, _, Clause.matchAt_group.2
      ⟨_, Clause.matchAll_cons.2 (.inl ⟨_, _, _, _, _, hmatch, hms, rfl⟩), rfl⟩⟩

end Recognizes

section

variable (hl : LL1 g start) (he : e.isEnd = true)

include hl he

theorem exists_matchClause_stop_le {c : Clause K} {rest : List K} (hi : Remains us i rest)
    (hfollow : ∀ k v, rest = k :: v → ∀ w, ¬ Derives g.alternatives c (k :: w)) :
    ∃ o, g.matchClause (us ++ [e]) c i = .ok o ∧ (o.isMatch = true → o.stop ≤ i) := by
  obtain ⟨o, ho⟩ := Grammar.exists_matchClause hl.noLeftRecursion getElem?_end he c hi.le_length
  refine ⟨o, ho, ?_⟩
  cases o with
  | failed => exact nofun
  | inapplicable => exact nofun
  | matched tree stop ended errors =>
    intro _
    by_contra hlt
    obtain ⟨hfit, hcov⟩ := Grammar.matchClause_sound ho
    have hle : stop ≤ us.length := hcov.le_of_isEnd hi.le_length getElem?_end he
    have hdrop := hcov.drop_eq
    rw [List.drop_append_of_le_length hi.le_length, List.drop_append_of_le_length hle,
      ← List.append_assoc] at hdrop
    have hkinds := hi.kinds_eq
    rw [List.append_cancel_right hdrop, List.map_append] at hkinds
    obtain ⟨t, ts, ht⟩ := List.exists_cons_of_ne_nil (hcov.ne_nil (Nat.lt_of_not_le hlt))
    have hderives := hfit.derives
    rw [ht] at hkinds hderives
    exact hfollow t.kind _ hkinds.symm _ hderives

theorem Recognizes.absent {c : Clause K} : Recognizes us e start g (.optional c) [] := by
  intro i rest hoccurs hi
  obtain ⟨o, ho, hstop⟩ := exists_matchClause_stop_le hl he hi
    fun k v hrest => hl.follow c _ (.inl rfl) k v (hrest ▸ hoccurs)
  have hmatch := Clause.matchAt_optional.2 ⟨o, ho, rfl⟩
  cases o with
  | matched tree stop ended errors =>
    have hle : i ≤ stop := (Grammar.matchClause_sound ho).2.le
    obtain rfl : stop = i := Nat.le_antisymm (hstop rfl) hle
    exact ⟨_, _, _, hmatch⟩
  | failed => exact ⟨_, _, _, hmatch⟩
  | inapplicable => exact ⟨_, _, _, hmatch⟩

variable (hus : ∀ t ∈ us, t.isEnd = false)

include hus

theorem exists_takes {c : Clause K} {rest : List K}
    (hfollow : ∀ k v, rest = k :: v → ∀ w, ¬ Derives g.alternatives c (k :: w)) {vs : List (List K)}
    (hne : ∀ v ∈ vs, v ≠ []) (hderives : ∀ v ∈ vs, Derives g.alternatives c v)
    (hvs : ∀ v ∈ vs, Recognizes us e start g c v)
    (hoccurs : ∀ w, Derives g.alternatives (.zeroOrMore c) w →
      Occurs g.alternatives start c (w ++ rest))
    (hi : Remains us i (vs.flatten ++ rest)) :
    ∃ r, Takes (us ++ [e]) (g.matchClause (us ++ [e]) c) i r ∧ r.stop = i + vs.flatten.length ∧
      (vs ≠ [] → r.trees ≠ []) := by
  induction vs generalizing i with
  | nil =>
    obtain ⟨o, ho, hstop⟩ := exists_matchClause_stop_le hl he hi hfollow
    exact ⟨_, .done ho hstop, rfl, fun h => absurd rfl h⟩
  | cons v vs ih =>
    rw [List.forall_mem_cons] at hne hderives hvs
    rw [List.flatten_cons, List.append_assoc] at hi
    obtain ⟨tree, ended, errors, hmatch⟩ :=
      hvs.1 i (vs.flatten ++ rest) (hoccurs _ (.zeroOrMore hderives.2)) hi
    have hlt : i < i + v.length := Nat.lt_add_of_pos_right (List.length_pos_of_ne_nil hne.1)
    have hnext : Remains us (i + v.length) (vs.flatten ++ rest) := hi.append
    obtain ⟨t, ht, hend⟩ | ⟨ht, hnil⟩ := hnext.token_or_end hus
    · obtain ⟨r, hr, hstop, -⟩ := ih hne.2 hderives.2 hvs.2 hnext
      refine ⟨_, .more hmatch hlt ht hend hr, ?_, fun _ => by simp⟩
      rw [List.flatten_cons, List.length_append, ← Nat.add_assoc]
      exact hstop
    · -- Before the end marker the repetition stops at once: no word is left.
      refine ⟨_, .last hmatch hlt ht he, ?_, fun _ => by simp⟩
      rw [List.flatten_cons, (List.append_eq_nil_iff.1 hnil).1, List.append_nil]

namespace Recognizes

variable {c : Clause K} {vs : List (List K)} (hderives : ∀ v ∈ vs, Derives g.alternatives c v)
  (hvs : ∀ v ∈ vs, Recognizes us e start g c v)

include hderives hvs

theorem exists_repetition (hbody : ¬ Derives g.alternatives c []) {rest : List K}
    (hfollow : ∀ k v, rest = k :: v → ∀ w, ¬ Derives g.alternatives c (k :: w))
    (hoccurs : ∀ w, Derives g.alternatives (.zeroOrMore c) w →
      Occurs g.alternatives start c (w ++ rest))
    (hi : Remains us i (vs.flatten ++ rest)) :
    ∃ r errors, Takes (us ++ [e]) (g.matchClause (us ++ [e]) c) i r ∧ (vs ≠ [] → r.trees ≠ []) ∧
      r.outcome (us ++ [e]) =
        .ok (.matchedAt (us ++ [e]) (.many r.trees) (i + vs.flatten.length) errors) := by
  obtain ⟨r, hr, hstop, htrees⟩ := exists_takes hl he hus hfollow
    (fun v hv hnil => hbody (hnil ▸ hderives v hv)) hderives hvs hoccurs hi
  have hend : Remains us r.stop rest := hstop ▸ hi.append
  obtain ⟨errors, ho⟩ := Repetition.exists_outcome hend
  exact ⟨r, errors, hr, htrees, hstop ▸ ho⟩

theorem zeroOrMore : Recognizes us e start g (.zeroOrMore c) vs.flatten := by
  intro i rest hoccurs hi
  have hbody := (hoccurs.repeatsNonEmpty hl.repeatsNonEmpty).body_of_zeroOrMore
  obtain ⟨r, errors, hr, -, ho⟩ := exists_repetition hl he hus hderives hvs hbody
    (fun k v hrest => hl.follow c _ (.inr (.inl rfl)) k v (hrest ▸ hoccurs))
    (fun w => hoccurs.zeroOrMore) hi
  exact ⟨_, _, _, Clause.matchAt_zeroOrMore.2 ⟨r, hr, ho⟩⟩

theorem oneOrMore (hne : vs ≠ []) : Recognizes us e start g (.oneOrMore c) vs.flatten := by
  intro i rest hoccurs hi
  have hbody := (hoccurs.repeatsNonEmpty hl.repeatsNonEmpty).body_of_oneOrMore
  obtain ⟨r, errors, hr, htrees, ho⟩ := exists_repetition hl he hus hderives hvs hbody
    (fun k v hrest => hl.follow c _ (.inr (.inr rfl)) k v (hrest ▸ hoccurs))
    (fun w => hoccurs.oneOrMore) hi
  exact ⟨_, _, _, Clause.matchAt_oneOrMore_of_ne_nil hr (htrees hne) ho⟩

end Recognizes

variable (hadmits : g.AdmitsBegins)

include hadmits

omit he hus in
theorem LL1.exists_matchRule {name : String} {n : NonTerminal K V}
    (hn : g.nonTerminal? name = some n) {index : Nat} {r : Rule K V} (hr : n.rules[index]? = some r)
    (hw : Derives g.alternatives (.group r.clauses) w)
    (hrule : Recognizes us e start g (.group r.clauses) w) {rest : List K}
    (hoccurs : Occurs g.alternatives start (.nonTerminal name) rest)
    (hi : Remains us i (w ++ rest)) :
    ∃ t, (us ++ [e])[i]? = some t ∧ r.admits t.kind = true ∧ ∃ tree errors,
      g.matchRule (us ++ [e]) n.name index r i =
        .ok (.matchedAt (us ++ [e]) tree (i + w.length) errors) := by
  have ha : g.alternatives name r.clauses := ⟨n, hn, r, List.mem_of_getElem? hr, rfl⟩
  have hne : w ≠ [] := fun hnil => hl.nonEmpty name (hnil ▸ .nonTerminal ha hw)
  obtain ⟨tree, ended, errors, hgroup⟩ := hrule i rest (.rule hoccurs ha) hi
  obtain ⟨k, w', rfl⟩ := List.exists_cons_of_ne_nil hne
  obtain ⟨t, ht, rfl⟩ := hi.exists_token
  have ht' : (us ++ [e])[i]? = some t :=
    (List.getElem?_append_left (List.getElem?_eq_some_iff.1 ht).1).trans ht
  have hk : r.admits t.kind = true := hl.admits_of_derives hn hadmits hr hw
  exact ⟨t, ht', hk, Rule.exists_matchAt_of_group ht' hk hgroup⟩

omit hus in
theorem Recognizes.nonTerminal {name : String} {cs : List (Clause K)} (ha : g.alternatives name cs)
    (hw : Derives g.alternatives (.group cs) w) (h : Recognizes us e start g (.group cs) w) :
    Recognizes us e start g (.nonTerminal name) w := by
  intro i rest hoccurs hi
  obtain ⟨n, hn, r, hr, rfl⟩ := ha
  obtain ⟨index, hindex⟩ := List.mem_iff_getElem?.1 hr
  obtain ⟨t, ht, hk, tree, errors, hrule⟩ := hl.exists_matchRule hadmits hn hindex hw h hoccurs hi
  obtain ⟨errors, hmatch⟩ :=
    NonTerminal.exists_matchAt_of_filter ht (hl.filter_leading hn hindex hk) hrule
  rw [← Grammar.matchClause_nonTerminal hl.noLeftRecursion getElem?_end he hn hi.le_length]
    at hmatch
  exact ⟨_, _, _, hmatch⟩

theorem Derives.recognizes {c : Clause K} (h : Derives g.alternatives c w) :
    Recognizes us e start g c w := by
  induction h with
  | terminal => exact .terminal hus
  | nonTerminal ha hw ih => exact .nonTerminal hl he hadmits ha hw ih
  | zeroOrMore hvs ih => exact .zeroOrMore hl he hus hvs ih
  | oneOrMore hne hvs ih => exact .oneOrMore hl he hus hvs ih hne
  | absent => exact .absent hl he
  | present _ ih => exact ih.present
  | group_nil => exact .group_nil
  | group_cons hv hw ih ihs => exact .group_cons hv hw ih ihs

theorem LL1.parse_eq_matched (hw : Derives g.alternatives (.nonTerminal start) (us.map (·.kind)))
    {ts : List (Token K)} (hts : Grammar.withEndMarker ts = us ++ [e]) :
    ∃ tree errors, g.parse ts start = .ok (.matched tree us.length true errors) ∧
      tree.tokens = us := by
  obtain ⟨cs, ⟨n, hn, r, hr, rfl⟩, hgroup⟩ := Derives.nonTerminal_iff.1 hw
  obtain ⟨index, hindex⟩ := List.mem_iff_getElem?.1 hr
  obtain ⟨t, ht, hk, tree, errors, hrule⟩ := hl.exists_matchRule hadmits hn hindex hgroup
    (hgroup.recognizes hl he hus hadmits) .start ⟨Nat.zero_le _, (List.append_nil _).symm⟩
  rw [List.length_map, Nat.zero_add, Outcome.matchedAt, isEndedAt_end] at hrule
  have hparse : g.parse ts start = .ok (.matched tree us.length true errors) := by
    rw [Grammar.parse, hts]
    simp only [Grammar.nonTerminal?, hn]
    exact Grammar.matchStart_of_filter ht (hl.filter_admits hn hindex hk) hrule rfl
  obtain ⟨-, -, hcov⟩ := Grammar.matchRule_sound (Grammar.rule?_eq_some.2 ⟨n, hn, hindex⟩)
    (NonTerminal.name_of_find? hn ▸ hrule)
  refine ⟨tree, errors, hparse, ?_⟩
  rw [hcov.eq_extract, List.extract_eq_take_drop, List.drop_zero, Nat.sub_zero, List.take_left]

end

/-- What the start derives is parsed to its end, if one token of look-ahead decides. -/
theorem parse_of_derives {first start : String} {ps : List (Production K V)} {g : Grammar K V}
    (hg : Grammar.build first ps = .ok g) (hl : LL1 g start) (ts : List (Token K))
    (hw : Derives g.alternatives (.nonTerminal start)
      ((Grammar.withEndMarker ts).dropLast.map (·.kind))) :
    ∃ tree errors,
      g.parse ts start =
          .ok (.matched tree (Grammar.withEndMarker ts).dropLast.length true errors) ∧
        tree.tokens = (Grammar.withEndMarker ts).dropLast := by
  obtain ⟨us, e, he, hts, -⟩ := Grammar.exists_withEndMarker_eq ts
  rw [hts, List.dropLast_concat] at hw ⊢
  have hadmits : g.AdmitsBegins := Grammar.admitsBegins_of_build hg hl.noLeftRecursion
  have hmarker : TokenKind.endMarker ∉ us.map (·.kind) :=
    hw.endMarker_not_mem (fun name cs => Grammar.endMarker_not_mem hg) (by simp [Clause.walk])
  have hus : ∀ t ∈ us, t.isEnd = false := by
    intro t ht
    rw [Token.isEnd, decide_eq_false_iff_not]
    intro hkind
    exact hmarker (hkind ▸ List.mem_map_of_mem ht)
  exact hl.parse_eq_matched he hus hadmits hw hts

namespace Brackets

open Json (TokenType)

inductive Site : Clause TokenType → List TokenType → Prop
  | terminal {k : TokenType} {rest : List TokenType} : Site (.terminal k) rest
  | nonTerminal {name : String} {rest : List TokenType} : Site (.nonTerminal name) rest
  | items {rest : List TokenType} :
    Site (.zeroOrMore (.nonTerminal "item")) (.closeBracket :: rest)
  | group {cs : List (Clause TokenType)} {rest : List TokenType} :
    cs ∈ [
      [.terminal .openBracket, .zeroOrMore (.nonTerminal "item"), .terminal .closeBracket],
      [.zeroOrMore (.nonTerminal "item"), .terminal .closeBracket], [.terminal .closeBracket], [],
      [.terminal .int], [.nonTerminal "list"]] →
    Site (.group cs) rest

theorem site_of_occurs {c : Clause TokenType} {rest : List TokenType}
    (h : Occurs grammar.alternatives "list" c rest) : Site c rest := by
  induction h with
  | start => exact .nonTerminal
  | rule _ ha _ =>
    apply Site.group
    obtain ⟨-, rfl⟩ | ⟨-, rfl | rfl⟩ := alternatives_cases ha
    · simp
    · simp
    · simp
  | head _ hw ih =>
    cases ih with
    | group hmem =>
      simp only [List.mem_cons, List.cons.injEq, List.not_mem_nil, or_false, reduceCtorEq,
        false_or] at hmem
      obtain ⟨rfl, -⟩ | ⟨rfl, rfl⟩ | ⟨rfl, -⟩ | ⟨rfl, -⟩ | ⟨rfl, -⟩ := hmem
      · exact .terminal
      · simp only [Derives.group_cons_iff, Derives.terminal_iff, Derives.group_nil_iff] at hw
        obtain ⟨v, w, rfl, rfl, rfl⟩ := hw
        exact .items
      · exact .terminal
      · exact .terminal
      · exact .nonTerminal
  | tail _ _ ih =>
    cases ih with
    | group hmem =>
      apply Site.group
      simp only [List.mem_cons, List.cons.injEq, List.not_mem_nil, or_false, reduceCtorEq,
        false_or] at hmem
      obtain ⟨-, rfl⟩ | ⟨-, rfl⟩ | ⟨-, rfl⟩ | ⟨-, rfl⟩ | ⟨-, rfl⟩ := hmem
      all_goals simp
  | zeroOrMore _ _ ih =>
    cases ih
    exact .nonTerminal
  | oneOrMore _ _ ih => cases ih
  | optional _ ih => cases ih

theorem not_item_of_closeBracket {w : List TokenType} :
    ¬ Derives grammar.alternatives (.nonTerminal "item") (.closeBracket :: w) := by
  rw [Derives.nonTerminal_iff]
  rintro ⟨cs, ha, h⟩
  obtain ⟨hname, -⟩ | ⟨-, rfl | rfl⟩ := alternatives_cases ha
  · simp at hname
  · simp at h
  · simp only [Derives.group_cons_iff, Derives.group_nil_iff] at h
    obtain ⟨v, _, hlist, rfl, hv⟩ := h
    rw [List.append_nil] at hv
    subst hv
    rw [Derives.nonTerminal_iff] at hlist
    obtain ⟨cs, ha, h⟩ := hlist
    obtain ⟨-, rfl⟩ | ⟨hname, -⟩ := alternatives_cases ha
    · simp at h
    · simp at hname

theorem ll1 : LL1 grammar "list" where
  nonEmpty := not_derives_nil
  noLeftRecursion := noLeftRecursion
  repeatsNonEmpty := by
    intro name cs ha d hd
    obtain ⟨-, rfl⟩ | ⟨-, rfl | rfl⟩ := alternatives_cases ha
    · obtain rfl : d = .nonTerminal "item" := by simpa [Clause.walk, Clause.walkAll] using hd
      exact not_derives_nil "item"
    · simp [Clause.walk, Clause.walkAll] at hd
    · simp [Clause.walk, Clause.walkAll] at hd
  disjoint := by simp [grammar]
  follow := by
    intro c d hd k v hoccurs w
    have hsite := site_of_occurs hoccurs
    obtain rfl | rfl | rfl := hd
    · cases hsite
    · cases hsite
      exact not_item_of_closeBracket
    · cases hsite

theorem derives_list (vs : List (List TokenType))
    (h : ∀ v ∈ vs, Derives grammar.alternatives (.nonTerminal "item") v) :
    Derives grammar.alternatives (.nonTerminal "list")
      (.openBracket :: (vs.flatten ++ [.closeBracket])) :=
  .nonTerminal ⟨_, rfl, _, .head _, rfl⟩
    (.group_cons .terminal (.group_cons (.zeroOrMore h) (.group_cons .terminal .group_nil)))

theorem derives_int : Derives grammar.alternatives (.nonTerminal "item") [.int] :=
  .nonTerminal ⟨_, rfl, _, .head _, rfl⟩ (.group_cons .terminal .group_nil)

theorem derives_item {w : List TokenType}
    (h : Derives grammar.alternatives (.nonTerminal "list") w) :
    Derives grammar.alternatives (.nonTerminal "item") w := by
  rw [← List.append_nil w]
  exact .nonTerminal ⟨_, rfl, _, .tail _ (.head _), rfl⟩ (.group_cons h .group_nil)

theorem derives_tokens :
    Derives grammar.alternatives (.nonTerminal "list") (tokens.map (·.kind)) := by
  have hempty : Derives grammar.alternatives (.nonTerminal "list") [.openBracket, .closeBracket] :=
    derives_list [] (by simp)
  exact derives_list [[.int], [.openBracket, .closeBracket]]
    (by simpa using ⟨derives_int, derives_item hempty⟩)

theorem parse_tokens_of_derives :
    ∃ tree errors, grammar.parse tokens "list" = .ok (.matched tree 5 true errors) ∧
      tree.tokens = tokens :=
  parse_of_derives build_productions ll1 tokens derives_tokens

end Brackets

end Parsing
