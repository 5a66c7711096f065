import Mathlib.Order.Basic
import Parsing.Text.Integer

namespace Parsing.Text

theorem readDigits_append {sign m n : Int} {cs : List Char} (h : readDigits sign m cs = .ok n)
    (ds : List Char) : readDigits sign m (cs ++ ds) = readDigits sign n ds := by
  fun_induction readDigits sign m cs with
  | case1 =>
    cases h
    rfl
  | case2 | case3 | case5 => cases h
  | case4 m c cs hc m' hlarge hsmall ih =>
    rw [← ih h, List.cons_append, readDigits, if_pos hc, if_neg hlarge, if_neg hsmall]

theorem readDigits_digitChar {sign m : Int} {d : Nat} (hd : d < 10)
    (hmin : smallestInteger ≤ m * 10 + sign * d) (hmax : m * 10 + sign * d ≤ largestInteger) :
    readDigits sign m [d.digitChar] = .ok (m * 10 + sign * d) := by
  have hdigit : d.digitChar.toNat - '0'.toNat = d := Nat.toNat_digitChar_sub_48_of_lt_ten hd
  rw [readDigits, if_pos (Nat.isDigit_digitChar.trans (decide_eq_true hd)), hdigit,
    if_neg (Int.not_lt.2 hmax), if_neg (Int.not_lt.2 hmin), readDigits]

theorem readDigits_toDigits {sign : Int} (hsign : sign = 1 ∨ sign = -1) {n : Nat}
    (hmin : smallestInteger ≤ sign * n) (hmax : sign * n ≤ largestInteger) :
    readDigits sign 0 (Nat.toDigits 10 n) = .ok (sign * n) := by
  induction n using Nat.strongRecOn with
  | _ n ih =>
    rcases Nat.lt_or_ge n 10 with hn | hn
    · rw [Nat.toDigits_of_lt_base hn, readDigits_digitChar hn (by simpa) (by simpa)]
      simp
    · have hsum : sign * ↑(n / 10) * 10 + sign * ↑(n % 10) = sign * (n : Int) := by
        rcases hsign with rfl | rfl <;> omega
      -- The digits before the last are those of a number that lies between zero and this one.
      have hread := ih (n / 10) (by omega)
        (by simp only [smallestInteger] at *; rcases hsign with rfl | rfl <;> omega)
        (by simp only [largestInteger] at *; rcases hsign with rfl | rfl <;> omega)
      rw [Nat.toDigits_of_base_le (by decide) hn, readDigits_append hread,
        readDigits_digitChar (Nat.mod_lt n (by decide)) (hsum ▸ hmin) (hsum ▸ hmax), hsum]

theorem toList_toString (n : Int) :
    (toString n).toList = (if n < 0 then ['-'] else []) ++ Nat.toDigits 10 n.natAbs := by
  have hrepr : toString n = n.repr := rfl
  rw [hrepr, Int.repr_eq_if]
  rcases Int.lt_or_le n 0 with hn | hn
  · have habs : (-n).toNat = n.natAbs := by omega
    simp [hn, Int.not_le.2 hn, Nat.repr_eq_ofList_toDigits, habs]
  · have habs : n.toNat = n.natAbs := by omega
    simp [hn, Int.not_lt.2 hn, Nat.repr_eq_ofList_toDigits, habs]

theorem readIntegerChars_of_isDigit {c : Char} (hc : c.isDigit = true) (cs : List Char) :
    readIntegerChars (c :: cs) = readDigits 1 0 (c :: cs) := by
  have hplus : c ≠ '+' := by rintro rfl; cases hc
  have hminus : c ≠ '-' := by rintro rfl; cases hc
  rw [readIntegerChars]
  all_goals grind

theorem readInteger_toString {n : Int} (hmin : smallestInteger ≤ n) (hmax : n ≤ largestInteger) :
    readInteger (toString n) = .ok n := by
  obtain ⟨c, cs, hdigits⟩ := List.exists_cons_of_ne_nil (@Nat.toDigits_ne_nil n.natAbs 10)
  rw [readInteger, toList_toString]
  rcases Int.lt_or_le n 0 with hn | hn
  · have hneg : -1 * (n.natAbs : Int) = n := by omega
    have hread := readDigits_toDigits (.inr rfl) (hmin.trans_eq hneg.symm) (hneg.trans_le hmax)
    rw [hneg, hdigits] at hread
    rw [if_pos hn, hdigits]
    exact hread
  · have hpos : 1 * (n.natAbs : Int) = n := by omega
    have hread := readDigits_toDigits (.inl rfl) (hmin.trans_eq hpos.symm) (hpos.trans_le hmax)
    have hc : c.isDigit = true :=
      Nat.isDigit_of_mem_toDigits (by decide) (Nat.le_refl 10) (hdigits ▸ List.mem_cons_self)
    rw [hpos, hdigits] at hread
    rw [if_neg (Int.not_lt.2 hn), hdigits, List.nil_append, readIntegerChars_of_isDigit hc, hread]

end Parsing.Text
