import Mathlib.Data.List.Induction
import Mathlib.Data.List.Perm.Basic
import Mathlib.Logic.Function.Basic
import Parsing.Grammar.Basic
import Parsing.Json.Language

namespace Parsing

structure FirstOccurrences {K : Type} [DecidableEq K] (ks l : List K) : Prop where
  nodup : l.Nodup
  mem_iff {k : K} : k ∈ l ↔ k ∈ ks
  ordered : l.Pairwise fun a b => ks.idxOf a < ks.idxOf b

namespace FirstOccurrences

variable {K : Type} [DecidableEq K] {ks l l' : List K} {k : K}

theorem nil : FirstOccurrences ([] : List K) [] := ⟨.nil, .rfl, .nil⟩

theorem ordered_append (h : FirstOccurrences ks l) (ls : List K) :
    l.Pairwise fun a b => (ks ++ ls).idxOf a < (ks ++ ls).idxOf b := by
  apply h.ordered.imp_of_mem
  intro a b ha hb hab
  rwa [List.idxOf_append_of_mem (h.mem_iff.1 ha), List.idxOf_append_of_mem (h.mem_iff.1 hb)]

theorem again (h : FirstOccurrences ks l) (hk : k ∈ l) : FirstOccurrences (ks ++ [k]) l where
  nodup := h.nodup
  mem_iff := by
    intro a
    rw [List.mem_append, List.mem_singleton, h.mem_iff]
    exact ⟨.inl, fun ha => ha.elim id fun e => e ▸ h.mem_iff.1 hk⟩
  ordered := h.ordered_append [k]

theorem concat (h : FirstOccurrences ks l) (hk : k ∉ l) :
    FirstOccurrences (ks ++ [k]) (l ++ [k]) where
  nodup := List.nodup_append.2 ⟨h.nodup, by simp, by
    rintro a ha b hb rfl
    exact hk (List.mem_singleton.1 hb ▸ ha)⟩
  mem_iff := by simp [h.mem_iff]
  ordered := by
    refine List.pairwise_append.2 ⟨h.ordered_append [k], List.pairwise_singleton _ k, ?_⟩
    intro a ha b hb
    obtain rfl := List.mem_singleton.1 hb
    -- The members have their places in `ks`, and the new kind has its place behind it.
    have hks : b ∉ ks := fun hmem => hk (h.mem_iff.2 hmem)
    have hlt := List.idxOf_lt_length_of_mem (h.mem_iff.1 ha)
    rw [List.idxOf_append_of_mem (h.mem_iff.1 ha), List.idxOf_append_of_notMem hks]
    exact Nat.lt_add_right _ hlt

theorem unique (h : FirstOccurrences ks l) (h' : FirstOccurrences ks l') : l = l' := by
  have hperm : l.Perm l' :=
    (List.perm_ext_iff_of_nodup h.nodup h'.nodup).2 fun k => h.mem_iff.trans h'.mem_iff.symm
  exact hperm.eq_of_pairwise (fun a b _ _ hab hba => absurd hba (Nat.lt_asymm hab))
    h.ordered h'.ordered

end FirstOccurrences

namespace LeadingTokens

section

variable {K : Type} [TokenKind K] {s : LeadingTokens K} {ks ls l : List K} {k : K}

theorem firstOccurrences_add (h : FirstOccurrences ks s.toList) :
    FirstOccurrences (ks ++ [k]) (s.add k).toList := by
  by_cases hk : k ∈ s.toList
  · rw [add_of_mem hk]
    exact h.again hk
  · rw [toList_add_of_not_mem hk]
    exact h.concat hk

theorem firstOccurrences_extend (h : FirstOccurrences ks s.toList) :
    FirstOccurrences (ks ++ ls) (s.extend ls).toList := by
  induction ls generalizing s ks with
  | nil => rwa [List.append_nil]
  | cons k ls ih =>
    have hrest := ih (firstOccurrences_add (k := k) h)
    rwa [List.append_assoc] at hrest

theorem toList_ofList_eq_iff : (ofList ks).toList = l ↔ FirstOccurrences ks l := by
  have h : FirstOccurrences ks (ofList ks).toList := firstOccurrences_extend .nil
  exact ⟨fun e => e ▸ h, h.unique⟩

theorem contains_ofList : (ofList ks).contains k = decide (k ∈ ks) := by
  rw [Bool.eq_iff_iff, contains_iff, mem_ofList, decide_eq_true_eq]

theorem extend_eq_self_iff : s.extend ks = s ↔ ks ⊆ s.toList := by
  constructor
  · intro h k hk
    rw [← h]
    exact mem_extend.2 (.inr hk)
  · intro h
    induction ks with
    | nil => rfl
    | cons k ks ih =>
      rw [List.cons_subset] at h
      rw [extend_cons, add_of_mem h.1, ih h.2]

theorem extend_toList_add (s t : LeadingTokens K) (k : K) :
    s.extend (t.add k).toList = (s.extend t.toList).add k := by
  by_cases hk : k ∈ t.toList
  · rw [add_of_mem hk, add_of_mem (mem_extend.2 (.inr hk))]
  · rw [toList_add_of_not_mem hk, extend_append]
    rfl

theorem extend_toList_extend (s t : LeadingTokens K) (ks : List K) :
    s.extend (t.extend ks).toList = (s.extend t.toList).extend ks := by
  induction ks generalizing t with
  | nil => rfl
  | cons k ks ih => rw [extend_cons, ih, extend_toList_add, extend_cons]

theorem extend_toList_ofList (s : LeadingTokens K) (ks : List K) :
    s.extend (ofList ks).toList = s.extend ks :=
  extend_toList_extend s .empty ks

end

inductive Source (N K : Type)
  | kind (k : K)
  | members (x : N)

def Source.read {N K : Type} (members : N → List K) (sources : List (Source N K)) : List K :=
  sources.flatMap fun
    | .kind k => [k]
    | .members x => members x

theorem Source.extend_read {N K : Type} [TokenKind K] (s : LeadingTokens K)
    (added : N → List K) (sources : List (Source N K)) :
    s.extend (read (fun x => (ofList (added x)).toList) sources) =
      s.extend (read added sources) := by
  induction sources generalizing s with
  | nil => rfl
  | cons source sources ih =>
    simp only [read, List.flatMap_cons, extend_append] at ih ⊢
    rw [ih]
    cases source with
    | kind k => rfl
    | members x => rw [extend_toList_ofList]

inductive Operation (N K : Type)
  | insert (x : N) (k : K)
  | extend (x : N) (sources : List (Source N K))
  | collect (x : N) (sources : List (Source N K))

namespace Operation

variable {N K : Type} [DecidableEq N]

open Function (update)

/-- What has been added to each set, one operation later. The members of a set stand for all that
was added to it, with repetitions. -/
def record (added : N → List K) : Operation N K → N → List K
  | insert x k => update added x (added x ++ [k])
  | extend x sources => update added x (added x ++ Source.read added sources)
  | collect x sources => update added x (Source.read added sources)

def added (ops : List (Operation N K)) : N → List K := ops.foldl record fun _ => []

theorem added_concat (ops : List (Operation N K)) (op : Operation N K) :
    added (ops ++ [op]) = op.record (added ops) :=
  List.foldl_concat ..

variable [TokenKind K]

def perform (sets : N → LeadingTokens K) :
    Operation N K → Option Bool × (N → LeadingTokens K)
  | insert x k =>
    let (answer, s) := (sets x).insert k
    (some answer, update sets x s)
  | extend x sources =>
    (none, update sets x ((sets x).extend (Source.read (fun y => (sets y).toList) sources)))
  | collect x sources =>
    (none, update sets x (.ofList (Source.read (fun y => (sets y).toList) sources)))

def after (ops : List (Operation N K)) : N → LeadingTokens K :=
  ops.foldl (fun sets op => (op.perform sets).2) fun _ => .empty

theorem after_concat (ops : List (Operation N K)) (op : Operation N K) :
    after (ops ++ [op]) = (op.perform (after ops)).2 :=
  List.foldl_concat ..

theorem perform_ofList (added : N → List K) (op : Operation N K) :
    (op.perform (ofList ∘ added)).2 = ofList ∘ op.record added := by
  cases op with
  | insert x k =>
    rw [record, Function.comp_update, ofList, extend_append]
    rfl
  | extend x sources =>
    rw [record, Function.comp_update, ofList, extend_append, ← Source.extend_read]
    rfl
  | collect x sources =>
    rw [record, Function.comp_update, ofList, ← Source.extend_read]
    rfl

theorem after_eq (ops : List (Operation N K)) : after ops = ofList ∘ added ops := by
  induction ops using List.reverseRecOn with
  | nil => rfl
  | append_singleton ops op ih => rw [after_concat, ih, perform_ofList, added_concat]

end Operation

open Operation (perform after added)

/-- After any operations each set lists the first occurrences of what was added to it, so that sets
to which the same was added are equal. An insertion tells whether its kind is a new one, and an
extension changes nothing just when it adds members only, as the members of an included set are. A
non-terminal starts with the first occurrences of what its rules start with, one after another. -/
theorem sets_keep_order_of_addition {N K V : Type} [DecidableEq N] [TokenKind K]
    (ops : List (Operation N K)) :
    (∀ (x : N) (l : List K), (after ops x).toList = l ↔ FirstOccurrences (added ops x) l) ∧
      (∀ (ops' : List (Operation N K)) (x x' : N),
        added ops x = added ops' x' → after ops x = after ops' x') ∧
      (∀ x k, (perform (after ops) (.insert x k)).1 = some (decide (k ∉ added ops x))) ∧
      (∀ x sources, (perform (after ops) (.extend x sources)).2 = after ops ↔
        Source.read (fun y => (after ops y).toList) sources ⊆ (after ops x).toList) ∧
      ∀ (n : NonTerminal K V) (l : List K),
        n.leading.toList = l ↔ FirstOccurrences (n.rules.flatMap (·.leading.toList)) l := by
  refine ⟨fun x l => ?_, fun ops' x x' h => ?_, fun x k => ?_, fun x sources => ?_, fun n l => ?_⟩
  · rw [Operation.after_eq]
    exact toList_ofList_eq_iff
  · rw [Operation.after_eq, Operation.after_eq, Function.comp_apply, h, Function.comp_apply]
  · rw [perform, insert, Operation.after_eq, Function.comp_apply, contains_ofList, decide_not]
  · rw [perform, Function.update_eq_self_iff]
    exact extend_eq_self_iff
  · exact toList_ofList_eq_iff

theorem items_keep_order_of_addition :
    let ops : List (Operation String Json.TokenType) :=
      [.insert "values" .string, .insert "values" .int, .insert "values" .string,
        .collect "items" [.kind .null, .members "values", .kind .null],
        .extend "items" [.kind .comma, .members "values"]]
    let atOnce : List (Operation String Json.TokenType) :=
      [.collect "items" [.kind .null, .kind .string, .kind .int, .kind .string, .kind .null,
        .kind .comma, .kind .string, .kind .int, .kind .string]]
    (after ops "items").toList = [.null, .string, .int, .comma] ∧
      after ops "items" = after atOnce "items" ∧
      (perform (after ops) (.insert "items" .int)).1 = some false ∧
      (perform (after ops) (.insert "values" .null)).1 = some true ∧
      (perform (after ops) (.extend "items" [.members "values", .kind .comma])).2 = after ops := by
  intro ops atOnce
  obtain ⟨hlists, hgrouping, hinsert, hextend, -⟩ := sets_keep_order_of_addition (V := Unit) ops
  refine ⟨?_, ?_, ?_, ?_, ?_⟩
  · refine (hlists _ _).2 ⟨by decide, ?_, by decide⟩
    intro k
    cases k <;> decide
  · exact hgrouping atOnce _ _ (by decide)
  · exact (hinsert _ _).trans (by decide)
  · exact (hinsert _ _).trans (by decide)
  · exact (hextend _ _).2 (by decide)

end LeadingTokens

end Parsing
