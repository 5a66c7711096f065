import Parsing.Proofs.Matching.Depth
import Parsing.Proofs.Matching.Lockstep

namespace Parsing

variable {K V : Type}

inductive Outcome.Shifted (n : Nat) : Outcome K → Outcome K → Prop
  | matched {tree : Tree K} {stop : Nat} {ended : Bool} {errors errors' : List (Unexpected K)} :
    Shifted n (.matched tree stop ended errors) (.matched tree (n + stop) ended errors')
  | failed {stop : Nat} {errors errors' : List (Unexpected K)} :
    Shifted n (.failed errors stop) (.failed errors' (n + stop))
  | inapplicable {stop : Nat} : Shifted n (.inapplicable stop) (.inapplicable (n + stop))

theorem Outcome.Alike.shifted {n : Nat} {o o' : Outcome K} (h : o.Alike id n o') :
    o.Shifted n o' := by
  cases h with
  | matched htree =>
    rw [Tree.mapTokens_id, Tree.mapTokens_id] at htree
    subst htree
    exact .matched
  | failed => exact .failed
  | inapplicable => exact .inapplicable

theorem seenAlike_append (before ts : List (Token K)) :
    SeenAlike id before.length ts (before ++ ts) where
  length_eq := List.length_append
  map_eq i := by
    rw [List.getElem?_append_right (Nat.le_add_right _ i), Nat.add_sub_cancel_left]

theorem Match.InStep.of_depths {α β : Type} {R : α → β → Prop} {P : α → Prop} {Q : β → Prop}
    {x : Match α} {y : Match β} {xs : Nat → Match α} {ys : Nat → Match β}
    (hx : ∀ a, x = .ok a ↔ ∃ depth, xs depth = .ok a)
    (hy : ∀ b, y = .ok b ↔ ∃ depth, ys depth = .ok b)
    (h : ∀ depth, (xs depth).InStep R (ys depth)) (hxP : x.Safe P) (hyQ : y.Safe Q) :
    x.InStep R y := by
  cases hxa : x with
  | ok a =>
    obtain ⟨depth, ha⟩ := (hx a).1 hxa
    obtain ⟨b, hb, hab⟩ := (h depth).exists_of_ok ha
    rw [(hy b).2 ⟨depth, hb⟩]
    exact .ok hab
  | error fault =>
    cases hyb : y with
    | ok b =>
      obtain ⟨depth, hb⟩ := (hy b).1 hyb
      obtain ⟨a, ha, -⟩ := (h depth).exists_of_ok_right hb
      rw [(hx a).2 ⟨depth, ha⟩] at hxa
      cases hxa
    | error fault' =>
      rw [hxP.eq_endless hxa, hyQ.eq_endless hyb]
      exact .endless

variable [TokenKind K]

namespace Grammar

variable {g : Grammar K V} {ts us : List (Token K)} {f : Token K → Token K} {n q : Nat} {e : Token K}
  (hf : ∀ t, (f t).kind = t.kind) (hts : SeenAlike f n ts us) (hq : ts[q]? = some e)
  (he : e.isEnd = true)

include hf hts hq he

theorem matchClause_inStep (c : Clause K) :
    StepsAlike f n q (g.matchClause ts c) (g.matchClause us c) := by
  obtain ⟨e', hq', he'⟩ := exists_isEnd_of_alike hf hts hq he
  intro i hi
  exact .of_depths (fun _ => matchClause_eq_ok) (fun _ => matchClause_eq_ok)
    (fun depth => matchAt_inStep hf hts hq he depth c i hi) (matchAt_safe hq he c hi)
    (matchAt_safe hq' he' c (Nat.add_le_add_left hi n))

theorem matchRule_inStep (name : String) (index : Nat) (r : Rule K V) :
    StepsAlike f n q (g.matchRule ts name index r) (g.matchRule us name index r) := by
  obtain ⟨e', hq', he'⟩ := exists_isEnd_of_alike hf hts hq he
  intro i hi
  exact .of_depths (fun _ => matchRule_eq_ok) (fun _ => matchRule_eq_ok)
    (fun depth => matchRuleAt_inStep hf hts hq he depth name index r i hi) (matchRule_safe hq he hi)
    (matchRule_safe hq' he' (Nat.add_le_add_left hi n))

end Grammar

/-- Behind any tokens, every clause and every rule matches as it does without them, up to the errors
and the places. Matching ends behind them just where it does without them. -/
theorem matching_ignores_before (g : Grammar K V) {ts : List (Token K)} {e : Token K}
    (hlast : ts.getLast? = some e) (he : e.isEnd = true) (before : List (Token K)) {p : Nat}
    (hp : p < ts.length) :
    (∀ c, (g.matchClause ts c p).InStep (Outcome.Shifted before.length)
      (g.matchClause (before ++ ts) c (before.length + p))) ∧
    ∀ name index r, (g.matchRule ts name index r p).InStep (Outcome.Shifted before.length)
      (g.matchRule (before ++ ts) name index r (before.length + p)) := by
  rw [List.getLast?_eq_getElem?] at hlast
  have hle : p ≤ ts.length - 1 := Nat.le_sub_one_of_lt hp
  have hts := seenAlike_append before ts
  refine ⟨fun c => ?_, fun name index r => ?_⟩
  · exact (Grammar.matchClause_inStep (fun _ => rfl) hts hlast he c p hle).imp fun _ _ h => h.shifted
  · exact (Grammar.matchRule_inStep (fun _ => rfl) hts hlast he name index r p hle).imp
      fun _ _ h => h.shifted

namespace Brackets

theorem item_ignores_before :
    grammar.matchClause (Grammar.withEndMarker tokens) (.nonTerminal "item") 1 =
        .ok (.matched (.node ⟨"item", 0, "Int", none⟩ [.leaf (token .int)]) 2 false []) ∧
      ∃ errors, grammar.matchClause ([.int, .endMarker].map token ++ Grammar.withEndMarker tokens)
          (.nonTerminal "item") 3 =
        .ok (.matched (.node ⟨"item", 0, "Int", none⟩ [.leaf (token .int)]) 4 false errors) := by
  have hmatch : grammar.matchClause (Grammar.withEndMarker tokens) (.nonTerminal "item") 1 =
      .ok (.matched (.node ⟨"item", 0, "Int", none⟩ [.leaf (token .int)]) 2 false []) := by
    rfl
  have hlast : (Grammar.withEndMarker tokens).getLast? = some (token .endMarker) := rfl
  have hp : 1 < (Grammar.withEndMarker tokens).length := by decide
  have hitem := (matching_ignores_before grammar hlast rfl ([.int, .endMarker].map token) hp).1
  obtain ⟨o, ho, hshift⟩ := (hitem (.nonTerminal "item")).exists_of_ok hmatch
  cases hshift with
  | @matched _ _ _ _ errors => exact ⟨hmatch, errors, ho⟩

end Brackets

end Parsing
