/-!
Sets of code points as increasing lists of boundaries: membership changes at each boundary, and
nothing below the first is in the set.
-/

namespace Parsing.Unicode

def inside : List Nat → Nat → Bool
  | [], _ => false
  | b :: bs, n => if n < b then false else !inside bs n

@[simp] theorem inside_nil (n : Nat) : inside [] n = false := rfl

theorem inside_of_lt {b n : Nat} (h : n < b) (bs : List Nat) : inside (b :: bs) n = false := by
  simp [inside, h]

theorem inside_cons_of_le {b n : Nat} (h : b ≤ n) (bs : List Nat) :
    inside (b :: bs) n = !inside bs n := by
  simp [inside, Nat.not_lt.2 h]

theorem inside_cons {b n : Nat} {bs : List Nat} :
    inside (b :: bs) n = (decide (b ≤ n) && !inside bs n) := by
  rcases Nat.lt_or_ge n b with hn | hn
  · simp [inside_of_lt hn, Nat.not_le.2 hn]
  · simp [inside_cons_of_le hn, hn]

theorem inside_eq_false {bs : List Nat} {n : Nat} (h : ∀ b ∈ bs, n < b) : inside bs n = false := by
  cases bs with
  | nil => rfl
  | cons b bs => exact inside_of_lt (h b List.mem_cons_self) bs

theorem inside_range {a b n : Nat} : inside [a, b] n = true ↔ a ≤ n ∧ n < b := by
  simp only [inside]
  split <;> simp <;> omega

/-- The boundaries, among those that are left of two sets, at which `f` of the two memberships
changes; `p` and `q` are the memberships so far. -/
def combineFrom (f : Bool → Bool → Bool) : Nat → Bool → Bool → List Nat → List Nat → List Nat
  | 0, _, _, _, _ => []
  | n + 1, p, q, xs, ys =>
    match xs, ys with
    | [], [] => []
    | x :: xs, [] =>
      let rest := combineFrom f n (!p) q xs []
      if f (!p) q = f p q then rest else x :: rest
    | [], y :: ys =>
      let rest := combineFrom f n p (!q) [] ys
      if f p (!q) = f p q then rest else y :: rest
    | x :: xs, y :: ys =>
      if x < y then
        let rest := combineFrom f n (!p) q xs (y :: ys)
        if f (!p) q = f p q then rest else x :: rest
      else if y < x then
        let rest := combineFrom f n p (!q) (x :: xs) ys
        if f p (!q) = f p q then rest else y :: rest
      else
        let rest := combineFrom f n (!p) (!q) xs ys
        if f (!p) (!q) = f p q then rest else x :: rest

/-- The set of what `f` takes by its membership in two sets; `f` must refuse what is in neither. -/
def combine (f : Bool → Bool → Bool) (xs ys : List Nat) : List Nat :=
  combineFrom f (xs.length + ys.length) false false xs ys

theorem mem_of_mem_combineFrom {f : Bool → Bool → Bool} {m : Nat} {p q : Bool} {xs ys : List Nat}
    {b : Nat} (h : b ∈ combineFrom f m p q xs ys) : b ∈ xs ∨ b ∈ ys := by
  fun_induction combineFrom f m p q xs ys <;> grind

theorem inside_ite_cons {v v' w : Bool} {b n : Nat} {rest : List Nat} (hrest : ∀ c ∈ rest, b < c)
    (h : inside rest n = (v' ^^ w)) :
    inside (if v' = v then rest else b :: rest) n = (decide (b ≤ n) && (v ^^ w)) := by
  rcases Nat.lt_or_ge n b with hn | hn
  · have hfalse : inside rest n = false := inside_eq_false fun c hc => Nat.lt_trans hn (hrest c hc)
    rw [decide_eq_false (Nat.not_le.2 hn), Bool.false_and]
    split
    · exact hfalse
    · exact inside_of_lt hn rest
  · rw [decide_eq_true hn, Bool.true_and]
    split
    · next hv => rw [h, hv]
    · next hv =>
      rw [inside_cons_of_le hn, h]
      cases v <;> cases v' <;> simp_all

theorem xor_inside_cons {p : Bool} {b n : Nat} {bs : List Nat} :
    (p ^^ inside (b :: bs) n) = if b ≤ n then (!p) ^^ inside bs n else p := by
  rw [inside_cons]
  by_cases h : b ≤ n <;> simp [h]

theorem xor_inside_of_lt {p : Bool} {b n : Nat} {bs : List Nat} (h : ∀ c ∈ bs, b < c) :
    (p ^^ inside bs n) = if b ≤ n then p ^^ inside bs n else p := by
  split
  · rfl
  · next hn =>
    rw [inside_eq_false fun c hc => Nat.lt_trans (Nat.lt_of_not_le hn) (h c hc), Bool.xor_false]

/-- One step of a combination: the memberships `p` and `q` hold below `b`, and those in what is left
of the sets, which start from `p'` and `q'`, from `b` on. -/
theorem inside_step {f : Bool → Bool → Bool} {p q p' q' v w v' w' : Bool} {b n : Nat}
    {rest : List Nat} (hrest : ∀ c ∈ rest, b < c) (hv : v = if b ≤ n then v' else p)
    (hw : w = if b ≤ n then w' else q) (h : inside rest n = (f p' q' ^^ f v' w')) :
    inside (if f p' q' = f p q then rest else b :: rest) n = (f p q ^^ f v w) := by
  rw [inside_ite_cons hrest h, hv, hw]
  by_cases hn : b ≤ n <;> simp [hn]

theorem inside_combineFrom {f : Bool → Bool → Bool} {m : Nat} {p q : Bool} {xs ys : List Nat}
    (hm : xs.length + ys.length ≤ m) (hx : xs.Pairwise (· < ·)) (hy : ys.Pairwise (· < ·))
    (n : Nat) :
    inside (combineFrom f m p q xs ys) n =
      (f p q ^^ f (p ^^ inside xs n) (q ^^ inside ys n)) := by
  induction m generalizing p q xs ys with
  | zero =>
    obtain rfl := List.eq_nil_of_length_eq_zero (l := xs) (by omega)
    obtain rfl := List.eq_nil_of_length_eq_zero (l := ys) (by omega)
    simp [combineFrom]
  | succ m ih =>
    match xs, ys with
    | [], [] => simp [combineFrom]
    | x :: xs, [] =>
      have hx' := List.pairwise_cons.1 hx
      rw [combineFrom]
      exact inside_step (fun c hc => (mem_of_mem_combineFrom hc).elim (hx'.1 c) nofun)
        xor_inside_cons (xor_inside_of_lt nofun) (ih (by simpa using hm) hx'.2 hy)
    | [], y :: ys =>
      have hy' := List.pairwise_cons.1 hy
      rw [combineFrom]
      exact inside_step (fun c hc => (mem_of_mem_combineFrom hc).elim nofun (hy'.1 c))
        (xor_inside_of_lt nofun) xor_inside_cons (ih (by simpa using hm) hx hy'.2)
    | x :: xs, y :: ys =>
      have hx' := List.pairwise_cons.1 hx
      have hy' := List.pairwise_cons.1 hy
      simp only [List.length_cons] at hm
      rw [combineFrom]
      split
      · next hxy =>
        have hys : ∀ c ∈ y :: ys, x < c :=
          List.forall_mem_cons.2 ⟨hxy, fun c hc => Nat.lt_trans hxy (hy'.1 c hc)⟩
        exact inside_step (fun c hc => (mem_of_mem_combineFrom hc).elim (hx'.1 c) (hys c))
          xor_inside_cons (xor_inside_of_lt hys)
          (ih (by simp only [List.length_cons]; omega) hx'.2 hy)
      · split
        · next hyx =>
          have hxs : ∀ c ∈ x :: xs, y < c :=
            List.forall_mem_cons.2 ⟨hyx, fun c hc => Nat.lt_trans hyx (hx'.1 c hc)⟩
          exact inside_step (fun c hc => (mem_of_mem_combineFrom hc).elim (hxs c) (hy'.1 c))
            (xor_inside_of_lt hxs) xor_inside_cons
            (ih (by simp only [List.length_cons]; omega) hx hy'.2)
        · obtain rfl : x = y := by omega
          exact inside_step (fun c hc => (mem_of_mem_combineFrom hc).elim (hx'.1 c) (hy'.1 c))
            xor_inside_cons xor_inside_cons (ih (by omega) hx'.2 hy'.2)

theorem inside_combine {f : Bool → Bool → Bool} (hf : f false false = false) {xs ys : List Nat}
    (hx : xs.Pairwise (· < ·)) (hy : ys.Pairwise (· < ·)) (n : Nat) :
    inside (combine f xs ys) n = f (inside xs n) (inside ys n) := by
  rw [combine, inside_combineFrom (Nat.le_refl _) hx hy]
  simp [hf]

def hexDigitValue (c : Char) : Nat := if c.isDigit then c.toNat - 48 else c.toNat - 87

/-- Adds up hexadecimal distances with blanks between; `sum` is the boundary before, `n` the part of
the next distance that has been read. -/
def sumDistances (sum n : Nat) : List Char → List Nat
  | [] => [sum + n]
  | c :: cs =>
    if c = ' ' then (sum + n) :: sumDistances (sum + n) 0 cs
    else sumDistances sum (16 * n + hexDigitValue c) cs

def boundsOfText (text : String) : List Nat :=
  if text.isEmpty then [] else sumDistances 0 0 text.toList

example : sumDistances 0 0 ['4', '1', ' ', '1', 'a'] = [65, 91] := by decide

end Parsing.Unicode
