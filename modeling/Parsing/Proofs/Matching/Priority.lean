import Parsing.Matching.Unexpected
import Mathlib.Data.List.Basic

namespace Parsing

theorem takeWhile_append_cons {c : Char} {a : List Char} (ha : c ∉ a) (x : List Char) :
    (a ++ c :: x).takeWhile (· ≠ c) = a := by
  have hall : ∀ d ∈ a, decide (d ≠ c) = true := by
    rintro d hd
    rw [decide_eq_true_iff]
    rintro rfl
    exact ha hd
  rw [List.takeWhile_append_of_pos hall]
  simp

theorem eq_of_append_cons {c : Char} {a b x y : List Char} (ha : c ∉ a) (hb : c ∉ b)
    (h : a ++ c :: x = b ++ c :: y) : a = b ∧ x = y := by
  have hab := congrArg (List.takeWhile (· ≠ c)) h
  rw [takeWhile_append_cons ha, takeWhile_append_cons hb] at hab
  subst hab
  exact ⟨rfl, by simpa using h⟩

theorem eq_of_intercalate_append {l l' : List (List Char)} (hlen : l.length = l'.length)
    (hne : l ≠ []) (hl : ∀ a ∈ l, ',' ∉ a) (hl' : ∀ a ∈ l', ',' ∉ a) {r r' : List Char}
    (h : [',', ' '].intercalate l ++ ',' :: r = [',', ' '].intercalate l' ++ ',' :: r') :
    l = l' ∧ r = r' := by
  induction l generalizing l' with
  | nil => exact absurd rfl hne
  | cons a l ih =>
    match l, l', hlen with
    | [], [a'], _ =>
      obtain ⟨rfl, rfl⟩ := eq_of_append_cons (hl a (by simp)) (hl' a' (by simp)) (by simpa using h)
      exact ⟨rfl, rfl⟩
    | b :: l, a' :: b' :: l', hlen =>
      rw [List.forall_mem_cons] at hl hl'
      simp only [List.intercalate_cons_cons, List.append_assoc, List.cons_append,
        List.nil_append] at h
      obtain ⟨rfl, hrest⟩ := eq_of_append_cons hl.1 hl'.1 h
      obtain ⟨heq, rfl⟩ := ih (by simpa using hlen) (List.cons_ne_nil _ _) hl.2 hl'.2
        (List.tail_eq_of_cons_eq hrest)
      rw [heq]
      exact ⟨rfl, rfl⟩

theorem formatExpected_two (a b : String) :
    (formatExpected [a, b]).toList = a.toList ++ ' ' :: (['o', 'r', ' '] ++ b.toList) := by
  have hshape : formatExpected [a, b] = a ++ " or " ++ b := rfl
  simp [hshape, String.toList_append]

theorem formatExpected_snoc {l : List String} (hl : 2 ≤ l.length) (a : String) :
    (formatExpected (l ++ [a])).toList =
      "one of ".toList ++ ([',', ' '].intercalate (l.map String.toList) ++
        ',' :: ([' ', 'o', 'r', ' '] ++ a.toList)) := by
  have hshape : formatExpected (l ++ [a]) =
      "one of " ++ ", ".intercalate (l ++ [a]).dropLast ++ ", or " ++ (l ++ [a]).getLastD "" := by
    match l, hl with
    | [b, c], _ => rfl
    | b :: c :: d :: l, _ => rfl
  rw [hshape, List.dropLast_concat, List.getLastD_concat]
  simp [String.toList_append, String.toList_intercalate]

theorem eq_of_formatExpected_snoc {l l' : List String} {a a' : String}
    (hlen : l.length = l'.length) (htwo : 2 ≤ l.length) (hl : ∀ b ∈ l, ',' ∉ b.toList)
    (hl' : ∀ b ∈ l', ',' ∉ b.toList)
    (h : formatExpected (l ++ [a]) = formatExpected (l' ++ [a'])) : l ++ [a] = l' ++ [a'] := by
  have htext := congrArg String.toList h
  rw [formatExpected_snoc htwo, formatExpected_snoc (hlen ▸ htwo)] at htext
  have hne : l.map String.toList ≠ [] := List.ne_nil_of_length_pos (by simpa using by omega)
  obtain ⟨hmap, hlast⟩ := eq_of_intercalate_append (by simpa using hlen) hne
    (List.forall_mem_map.2 hl) (List.forall_mem_map.2 hl') (List.append_cancel_left htext)
  rw [String.toList_inj.1 (List.append_cancel_left hlast),
    List.map_injective_iff.2 (fun _ _ => String.toList_inj.1) hmap]

theorem eq_of_formatExpected {l l' : List String} (hlen : l.length = l'.length)
    (hl : ∀ a ∈ l, ' ' ∉ a.toList ∧ ',' ∉ a.toList)
    (hl' : ∀ a ∈ l', ' ' ∉ a.toList ∧ ',' ∉ a.toList)
    (h : formatExpected l = formatExpected l') : l = l' := by
  rcases List.eq_nil_or_concat' l with rfl | ⟨l, a, rfl⟩
  · exact (List.eq_nil_of_length_eq_zero hlen.symm).symm
  rcases List.eq_nil_or_concat' l' with rfl | ⟨l', a', rfl⟩
  · simp at hlen
  replace hlen : l.length = l'.length := by simpa using hlen
  match l, l', hlen with
  | [], [], _ => exact congrArg (fun a => [a]) h
  | [b], [b'], _ =>
    have htext := congrArg String.toList h
    rw [List.singleton_append, List.singleton_append, formatExpected_two,
      formatExpected_two] at htext
    obtain ⟨hb, ha⟩ := eq_of_append_cons (hl b (by simp)).1 (hl' b' (by simp)).1 htext
    rw [String.toList_inj.1 hb, String.toList_inj.1 (List.append_cancel_left ha)]
  | b :: c :: l, l', hlen =>
    exact eq_of_formatExpected_snoc hlen (by simp)
      (fun d hd => (hl d (List.mem_append_left _ hd)).2)
      (fun d hd => (hl' d (List.mem_append_left _ hd)).2) h

/-- Kinds differ in their labels, and no label has a character of those between the labels in a
list. Identifiers have neither of them. -/
structure LegibleLabels (K : Type) [TokenKind K] : Prop where
  injective : Function.Injective (TokenKind.label : K → String)
  no_blank : ∀ k : K, ' ' ∉ (TokenKind.label k).toList
  no_comma : ∀ k : K, ',' ∉ (TokenKind.label k).toList

namespace Unexpected

variable {K : Type} [TokenKind K]

theorem priority_eq_compareLex : priority (K := K) =
    compareLex (compareLex (compareOn offset) (compareOn rank)) (compareOn expectedText) := by
  rfl

instance : Std.TransCmp (priority (K := K)) := by
  rw [priority_eq_compareLex]
  infer_instance

theorem priority_eq_iff {a b : Unexpected K} : a.priority b = .eq ↔
    a.offset = b.offset ∧ a.rank = b.rank ∧ a.expectedText = b.expectedText := by
  simp only [priority, Ordering.then_eq_eq, Std.LawfulEqCmp.compare_eq_iff_eq, and_assoc]

theorem offset_le_of_isLE {a b : Unexpected K} (h : (a.priority b).isLE = true) :
    a.offset ≤ b.offset := by
  rw [priority, Ordering.isLE_then_iff_and, Ordering.isLE_then_iff_and] at h
  exact Nat.isLE_compare.1 h.1.1

theorem isLE_total (a b : Unexpected K) : ((a.priority b).isLE || (b.priority a).isLE) = true := by
  have hswap : b.priority a = (a.priority b).swap := Std.OrientedCmp.eq_swap
  rw [hswap]
  cases a.priority b <;> rfl

theorem greatest_of_getLast?_sort {es : List (Unexpected K)} {e : Unexpected K}
    (h : (sort es).getLast? = some e) : e ∈ es ∧ ∀ x ∈ es, (x.priority e).isLE = true := by
  have hmem {x : Unexpected K} : x ∈ sort es ↔ x ∈ es := List.mem_mergeSort
  have hsorted : (sort es).Pairwise fun a b => (a.priority b).isLE = true :=
    List.pairwise_mergeSort (fun _ _ _ => Std.TransCmp.isLE_trans) isLE_total es
  obtain ⟨front, hfront⟩ := List.getLast?_eq_some_iff.1 h
  refine ⟨hmem.1 (List.mem_of_getLast? h), fun x hx => ?_⟩
  rw [hfront] at hsorted
  rw [← hmem, hfront, List.mem_append, List.mem_singleton] at hx
  obtain hx | rfl := hx
  · exact (List.pairwise_append.1 hsorted).2.2 x hx e (by simp)
  · simpa using isLE_total x x

theorem eq_of_priority_eq (hlabels : LegibleLabels K) {a b : Unexpected K}
    (htoken : a.token = b.token) (h : a.priority b = .eq) : a = b := by
  obtain ⟨-, hrank, htext⟩ := priority_eq_iff.1 h
  obtain ⟨t, expected⟩ := a
  obtain ⟨t', expected'⟩ := b
  obtain rfl : t = t' := htoken
  cases expected <;> cases expected' <;> simp only [rank] at hrank
  · rfl
  · omega
  · omega
  · next ks ks' =>
    have hfree (l : List K) :
        ∀ a ∈ l.map TokenKind.label, ' ' ∉ a.toList ∧ ',' ∉ a.toList :=
      List.forall_mem_map.2 fun k _ => ⟨hlabels.no_blank k, hlabels.no_comma k⟩
    have hks : ks.map TokenKind.label = ks'.map TokenKind.label :=
      eq_of_formatExpected (by simpa using hrank) (hfree ks) (hfree ks') htext
    rw [List.map_injective_iff.2 hlabels.injective hks]

end Unexpected

end Parsing
