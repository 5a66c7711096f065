import Mathlib.Data.Finset.Prod
import Mathlib.Order.Monotone.Basic
import Parsing.Proofs.Matching.Termination

/-!
How deep matching need go. Of the calls for a name at a place, those that come to an outcome grow in
number with the depth until a depth more brings no new one; from there on no depth does. So a call
that has an outcome at any depth has it at the depth the matcher is given, whatever the grammar.
-/

namespace Parsing

variable {K V : Type} [TokenKind K] {g : Grammar K V} {ts : List (Token K)} {choice : Choice K V}

namespace Grammar

def sites (g : Grammar K V) (ts : List (Token K)) : Finset (String × Nat) :=
  (g.nonTerminals.map (·.name)).toFinset ×ˢ Finset.range ts.length

open Classical in
noncomputable def settled (choice : Choice K V) (g : Grammar K V) (ts : List (Token K))
    (depth : Nat) : Finset (String × Nat) :=
  (g.sites ts).filter fun p => ∃ o, g.callBy choice ts depth p.1 p.2 = .ok o

omit [TokenKind K] in
theorem card_sites_le : (g.sites ts).card ≤ g.size * ts.length := by
  rw [sites, Finset.card_product, Finset.card_range, size]
  refine Nat.mul_le_mul_right _ ((List.toFinset_card_le _).trans ?_)
  rw [List.length_map]

theorem mem_settled {depth : Nat} {name : String} {i : Nat} :
    (name, i) ∈ g.settled choice ts depth ↔
      (name, i) ∈ g.sites ts ∧ ∃ o, g.callBy choice ts depth name i = .ok o := by
  classical
  simp only [settled, Finset.mem_filter]

theorem settled_subset_sites {depth : Nat} : g.settled choice ts depth ⊆ g.sites ts :=
  fun _ hp => (mem_settled.1 hp).1

theorem settled_mono : Monotone (g.settled choice ts) := by
  refine monotone_nat_of_le_succ fun depth p hp => ?_
  obtain ⟨hsite, o, ho⟩ := mem_settled.1 hp
  exact mem_settled.2 ⟨hsite, o, callBy_mono_succ _ _ _ ho⟩

theorem callBy_mono {depth depth' : Nat} (h : depth ≤ depth') (name : String) :
    Refines (g.callBy choice ts depth name) (g.callBy choice ts depth' name) := by
  induction depth', h using Nat.le_induction with
  | base => exact fun _ _ ho => ho
  | succ depth' _ ih => exact fun i o ho => callBy_mono_succ name i o (ih i o ho)

theorem callBy_of_not_mem_sites {depth depth' : Nat} {name : String} {i : Nat}
    (h : (name, i) ∉ g.sites ts) {o : Outcome K} (ho : g.callBy choice ts (depth + 1) name i = .ok o) :
    g.callBy choice ts (depth' + 1) name i = .ok o := by
  rw [callBy_succ] at ho ⊢
  obtain ⟨t, ht, ho⟩ := ho
  refine ⟨t, ht, ?_⟩
  cases hn : g.nonTerminal? name with
  | none =>
    rw [hn] at ho
    exact ho
  | some n =>
    have hname : name ∈ g.nonTerminals.map (·.name) := by
      rw [← NonTerminal.name_of_find? hn]
      exact List.mem_map_of_mem (NonTerminal.mem_of_find? hn)
    have hi : i < ts.length := (List.getElem?_eq_some_iff.1 ht).1
    refine absurd ?_ h
    rw [sites, Finset.mem_product, List.mem_toFinset, Finset.mem_range]
    exact ⟨hname, hi⟩

theorem callBy_refines_of_settled_eq {depth depth' : Nat} (hle : depth ≤ depth')
    (h : g.settled choice ts (depth + 1) = g.settled choice ts (depth' + 1)) (name : String) :
    Refines (g.callBy choice ts (depth' + 1) name) (g.callBy choice ts (depth + 1) name) := by
  intro i o ho
  by_cases hsite : (name, i) ∈ g.sites ts
  · have hmem : (name, i) ∈ g.settled choice ts (depth + 1) := h ▸ mem_settled.2 ⟨hsite, o, ho⟩
    obtain ⟨-, o', ho'⟩ := mem_settled.1 hmem
    rw [callBy_mono (Nat.succ_le_succ hle) name i o' ho'] at ho
    rw [ho', ho]
  · exact callBy_of_not_mem_sites hsite ho

theorem settled_succ_eq {depth : Nat}
    (h : g.settled choice ts (depth + 1) = g.settled choice ts (depth + 2)) :
    g.settled choice ts (depth + 2) = g.settled choice ts (depth + 3) := by
  refine le_antisymm (settled_mono (Nat.le_succ _)) fun p hp => ?_
  obtain ⟨hsite, o, ho⟩ := mem_settled.1 hp
  obtain ⟨t, ht, ho⟩ := callBy_succ.1 ho
  refine mem_settled.2 ⟨hsite, o, callBy_succ.2 ⟨t, ht, ?_⟩⟩
  cases hn : g.nonTerminal? p.1 with
  | none =>
    rw [hn] at ho
    exact ho
  | some n =>
    rw [hn] at ho
    exact NonTerminal.matchBy_mono (callBy_refines_of_settled_eq (Nat.le_succ depth) h) _ _ ho

theorem settled_eq_of_depth_le {depth : Nat} (h : g.depth ts ≤ depth + 1) :
    g.settled choice ts (depth + 1) = g.settled choice ts (g.depth ts) := by
  have hmono : Monotone fun depth => (g.settled choice ts (depth + 1)).card := fun a b hab =>
    Finset.card_le_card (settled_mono (Nat.succ_le_succ hab))
  have hbound (depth : Nat) : (g.settled choice ts (depth + 1)).card ≤ g.size * (ts.length + 1) :=
    (Finset.card_le_card settled_subset_sites).trans
      (card_sites_le.trans (Nat.mul_le_mul_left _ (Nat.le_succ _)))
  have heq {a b : Nat} (hab : a ≤ b)
      (hcard : (g.settled choice ts a).card = (g.settled choice ts b).card) :
      g.settled choice ts a = g.settled choice ts b :=
    Finset.eq_of_subset_of_card_le (settled_mono hab) hcard.ge
  have hstable := Nat.stabilises_of_monotone hmono hbound
    (fun m hm => congrArg Finset.card (settled_succ_eq (heq (Nat.le_succ _) hm)))
    (Nat.succ_le_succ_iff.1 h)
  exact (heq h hstable.symm).symm

theorem callBy_depth (depth : Nat) (name : String) :
    Refines (g.callBy choice ts depth name) (g.callBy choice ts (g.depth ts) name) := by
  intro i o ho
  obtain hle | hle := Nat.le_total depth (g.depth ts)
  · exact callBy_mono hle name i o ho
  · obtain ⟨depth, rfl⟩ := Nat.exists_eq_add_one_of_ne_zero
      (Nat.ne_zero_of_lt (Nat.lt_of_lt_of_le (Nat.succ_pos _) hle))
    exact callBy_refines_of_settled_eq (Nat.succ_le_succ_iff.1 hle) (settled_eq_of_depth_le hle).symm
      name i o ho

theorem matchClause_eq_ok {c : Clause K} {i : Nat} {o : Outcome K} :
    g.matchClause ts c i = .ok o ↔ ∃ depth, c.matchAt ts (g.call ts depth) i = .ok o := by
  refine ⟨fun h => ⟨_, h⟩, fun ⟨depth, h⟩ => ?_⟩
  rw [← callBy_leading] at h
  rw [matchClause, ← callBy_leading]
  exact Clause.matchAt_mono (callBy_depth depth) c i o h

theorem matchRule_eq_ok {name : String} {index : Nat} {r : Rule K V} {i : Nat} {o : Outcome K} :
    g.matchRule ts name index r i = .ok o ↔
      ∃ depth, r.matchAt ts (g.call ts depth) name index i = .ok o := by
  refine ⟨fun h => ⟨_, h⟩, fun ⟨depth, h⟩ => ?_⟩
  rw [← callBy_leading, ← Rule.matchBy_leading] at h
  rw [matchRule, ← callBy_leading, ← Rule.matchBy_leading]
  exact Rule.matchBy_mono (callBy_depth depth) i o h

end Grammar

end Parsing
