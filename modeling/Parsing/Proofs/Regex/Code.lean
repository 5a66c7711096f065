import Mathlib.Tactic.Ring
import Parsing.Proofs.Regex.Passes

namespace Parsing

inductive Instruction.Goes : Instruction → Spot → Nat → Spot → Prop
  | pass {set : CharSet} {next : Nat} {c : Char} {s t : Spot} :
    set.contains c = true → s.Takes [c] t → Goes (.pass set next) s next t
  | check {l : Look} {next : Nat} {s : Spot} : l.holds s = true → Goes (.check l next) s next s
  | jump {next : Nat} {s : Spot} : Goes (.jump next) s next s
  | first {a b : Nat} {s : Spot} : Goes (.split a b) s a s
  | second {a b : Nat} {s : Spot} : Goes (.split a b) s b s

theorem Instruction.Goes.of_choose {greedy : Bool} {more leave a : Nat} {s t : Spot}
    (h : (choose greedy more leave).Goes s a t) : (a = more ∨ a = leave) ∧ t = s := by
  cases greedy with
  | true =>
    cases h with
    | first => exact ⟨.inl rfl, rfl⟩
    | second => exact ⟨.inr rfl, rfl⟩
  | false =>
    cases h with
    | first => exact ⟨.inr rfl, rfl⟩
    | second => exact ⟨.inl rfl, rfl⟩

/-- `Runs program n a s b t`: in `n` steps from address `a` and spot `s` to `b` and `t`. -/
inductive Runs (program : Array Instruction) : Nat → Nat → Spot → Nat → Spot → Prop
  | refl {a : Nat} {s : Spot} : Runs program 0 a s a s
  | step {n a b c : Nat} {s t u : Spot} {i : Instruction} :
    program[a]? = some i → i.Goes s b t → Runs program n b t c u → Runs program (n + 1) a s c u

def Stored (program : Array Instruction) (start : Nat) (code : List Instruction) : Prop :=
  ∀ i < code.length, program[start + i]? = code[i]?

def Outside (start size a : Nat) : Prop := a < start ∨ start + size ≤ a

theorem Outside.ne_start {start size a : Nat} (h : Outside start size a) (hpos : 0 < size) :
    a ≠ start := by
  rw [Outside] at h
  omega

variable {program : Array Instruction} {n a b start exit : Nat} {s t u : Spot} {i : Instruction}

namespace Runs

theorem snoc {c : Nat} (h : Runs program n a s b t) (hi : program[b]? = some i)
    (hgoes : i.Goes t c u) : Runs program (n + 1) a s c u := by
  induction h with
  | refl => exact .step hi hgoes .refl
  | step hj hgoes' _ ih => exact .step hj hgoes' (ih hi hgoes)

theorem first (h : Runs program n a s b t) (hi : program[a]? = some i) (hne : b ≠ a) :
    ∃ m c u, n = m + 1 ∧ i.Goes s c u ∧ Runs program m c u b t := by
  cases h with
  | refl => exact absurd rfl hne
  | step hj hgoes hrun =>
    rw [hi] at hj
    cases hj
    exact ⟨_, _, _, rfl, hgoes, hrun⟩

theorem eq_of_none (h : Runs program n a s b t) (ha : program[a]? = none) : b = a ∧ t = s := by
  cases h with
  | refl => exact ⟨rfl, rfl⟩
  | step hj =>
    rw [ha] at hj
    cases hj

end Runs

theorem length_flatMap_range {α : Type} {f : Nat → List α} {size : Nat}
    (hf : ∀ i, (f i).length = size) (n : Nat) : ((List.range n).flatMap f).length = n * size := by
  simp [List.length_flatMap, hf, List.map_const']

namespace Stored

variable {xs ys : List Instruction}

theorem head (h : Stored program start (i :: xs)) : program[start]? = some i :=
  h 0 (Nat.succ_pos _)

theorem tail (h : Stored program start (i :: xs)) : Stored program (start + 1) xs := by
  intro j hj
  rw [Nat.add_assoc, Nat.add_comm 1 j]
  exact h (j + 1) (Nat.succ_lt_succ hj)

theorem left (h : Stored program start (xs ++ ys)) : Stored program start xs := by
  intro j hj
  rw [h j (by rw [List.length_append]; omega), List.getElem?_append_left hj]

theorem right (h : Stored program start (xs ++ ys)) : Stored program (start + xs.length) ys := by
  intro j hj
  rw [Nat.add_assoc, h (xs.length + j) (by rw [List.length_append]; omega),
    List.getElem?_append_right (Nat.le_add_right _ _), Nat.add_sub_cancel_left]

theorem block {f : Nat → List Instruction} {n size : Nat} (hf : ∀ i, (f i).length = size)
    (h : Stored program start ((List.range n).flatMap f)) {i : Nat} (hi : i < n) :
    Stored program (start + i * size) (f i) := by
  induction n with
  | zero => exact absurd hi (Nat.not_lt_zero i)
  | succ n ih =>
    rw [List.range_succ, List.flatMap_append] at h
    obtain hi | rfl := Nat.lt_succ_iff_lt_or_eq.1 hi
    · exact ih h.left hi
    · have hlast := h.right
      rwa [length_flatMap_range hf, List.flatMap_singleton] at hlast

end Stored

namespace Pattern

theorem length_literalCode (start exit : Nat) (c : Char) (cs : List Char) :
    (literalCode start exit c cs).length = cs.length + 1 := by
  induction cs generalizing start c with
  | nil => rfl
  | cons d ds ih => simp [literalCode, ih]

def afterCopy (stop exit address : Nat) : Nat := if address = stop then exit else address

def stopOf (p : Pattern) (least most start : Nat) : Nat :=
  start + least * p.size + (most - least) * (p.size + 1)

theorem code_rep_some (greedy : Bool) {least most : Nat} (h : least = 0 → most ≠ 0) (p : Pattern)
    (start exit : Nat) : (rep greedy least (some most) p).code start exit =
      ((List.range least).flatMap fun i => p.code (start + i * p.size)
        (afterCopy (stopOf p least most start) exit (start + (i + 1) * p.size))) ++
      (List.range (most - least)).flatMap fun i =>
        Instruction.choose greedy (start + least * p.size + i * (p.size + 1) + 1) exit ::
          p.code (start + least * p.size + i * (p.size + 1) + 1)
            (afterCopy (stopOf p least most start) exit
              (start + least * p.size + i * (p.size + 1) + 1 + p.size)) := by
  rw [code]
  · rfl
  · exact h

theorem size_rep_some (greedy : Bool) {least most : Nat} (h : least = 0 → most ≠ 0) (p : Pattern) :
    (rep greedy least (some most) p).size = least * p.size + (most - least) * (p.size + 1) := by
  rw [size]
  exact h

theorem length_code (p : Pattern) (start exit : Nat) : (p.code start exit).length = p.size := by
  induction p generalizing start exit with
  | empty | chars | look => rfl
  | literal c cs => exact length_literalCode start exit c cs
  | group _ p ih => exact ih start exit
  | seq p q ihp ihq => simp [code, size, ihp, ihq]
  | alt p q ihp ihq => simp [code, size, ihp, ihq]
  | rep greedy least most p ih =>
    cases most with
    | some most =>
      by_cases h : least = 0 → most ≠ 0
      · rw [code_rep_some greedy h, size_rep_some greedy h]
        simp [List.length_flatMap, ih, List.map_const']
      · obtain ⟨rfl, rfl⟩ : least = 0 ∧ most = 0 := by omega
        rfl
    | none =>
      cases least with
      | zero =>
        rw [code, size]
        split <;> simp [ih]
      | succ least =>
        rw [code, size]
        simp [List.length_flatMap, ih, List.map_const']

theorem size_pos (p : Pattern) : 0 < p.size := by
  induction p with
  | empty | chars | look => exact Nat.succ_pos _
  | literal => exact Nat.succ_pos _
  | group _ _ ih => exact ih
  | seq _ _ ih _ => exact Nat.add_pos_left ih _
  | alt => exact Nat.succ_pos _
  | rep greedy least most p ih =>
    cases most with
    | some most =>
      by_cases h : least = 0 → most ≠ 0
      · rw [size_rep_some greedy h]
        by_cases hleast : least = 0
        · subst hleast
          exact Nat.add_pos_right _
            (Nat.mul_pos (Nat.pos_of_ne_zero (h rfl)) (Nat.succ_pos _))
        · exact Nat.add_pos_left (Nat.mul_pos (Nat.pos_of_ne_zero hleast) ih) _
      · obtain ⟨rfl, rfl⟩ : least = 0 ∧ most = 0 := by omega
        exact Nat.succ_pos _
    | none =>
      cases least with
      | zero => exact Nat.add_pos_left ih _
      | succ least => exact Nat.succ_pos _

def Crossed (program : Array Instruction) (p : Pattern) (start exit : Nat) : Prop :=
  ∀ n s b t, Outside start p.size b → Runs program n start s b t →
    ∃ m u, m ≤ n ∧ p.Passes s u ∧ Runs program m exit u b t

section

variable {p : Pattern}

theorem times_of_copies (next : Nat → Nat) {count : Nat}
    (hcross : ∀ i < count, Crossed program p (next i) (next (i + 1)))
    (hout : ∀ i < count, Outside (next i) p.size b) {i k : Nat} (hk : i + k = count)
    (h : Runs program n (next i) s b t) :
    ∃ m u, m ≤ n ∧ Times p.Passes k s u ∧ Runs program m (next count) u b t := by
  induction k generalizing i n s with
  | zero =>
    obtain rfl : i = count := hk
    exact ⟨n, s, Nat.le_refl n, .zero, h⟩
  | succ k ih =>
    have hi : i < count := by omega
    obtain ⟨m, u, hm, hpass, h⟩ := hcross i hi n s b t (hout i hi) h
    obtain ⟨m', u', hm', htimes, h⟩ := ih (by omega) h
    exact ⟨m', u', hm'.trans hm, .succ hpass htimes, h⟩

theorem times_of_choices (greedy : Bool) (next : Nat → Nat) {count : Nat}
    (hchoose : ∀ i < count, program[next i]? = some (.choose greedy (next i + 1) (next count)))
    (hcross : ∀ i < count, Crossed program p (next i + 1) (next (i + 1)))
    (hout : ∀ i < count, Outside (next i) (p.size + 1) b) {i k : Nat} (hk : i + k = count)
    (h : Runs program n (next i) s b t) :
    ∃ m u l, m ≤ n ∧ l ≤ k ∧ Times p.Passes l s u ∧ Runs program m (next count) u b t := by
  induction k generalizing i n s with
  | zero =>
    obtain rfl : i = count := hk
    exact ⟨n, s, 0, Nat.le_refl n, Nat.le_refl 0, .zero, h⟩
  | succ k ih =>
    have hi : i < count := by omega
    have hb := hout i hi
    rw [Outside] at hb
    obtain ⟨m, c, u, rfl, hgoes, hrest⟩ := h.first (hchoose i hi) (by omega)
    obtain ⟨rfl | rfl, rfl⟩ := hgoes.of_choose
    · obtain ⟨m', u', hm', hpass, hrest⟩ := hcross i hi m u b t (by rw [Outside]; omega) hrest
      obtain ⟨m'', u'', l, hm'', hl, htimes, hrest⟩ := ih (by omega) hrest
      exact ⟨m'', u'', l + 1, by omega, by omega, .succ hpass htimes, hrest⟩
    · exact ⟨m, u, 0, Nat.le_succ m, Nat.zero_le _, .zero, hrest⟩

theorem times_of_loop {greedy : Bool} {body : Nat}
    (hchoose : program[a]? = some (.choose greedy body exit))
    (hcross : Crossed program p body a) (hne : b ≠ a) (hout : Outside body p.size b)
    (h : Runs program n a s b t) :
    ∃ m u l, m ≤ n ∧ Times p.Passes l s u ∧ Runs program m exit u b t := by
  -- Each time through the body begins with the step at the choice, so less of the run is left.
  induction n using Nat.strong_induction_on generalizing s with
  | _ n ih =>
    obtain ⟨m, c, u, rfl, hgoes, hrest⟩ := h.first hchoose hne
    obtain ⟨rfl | rfl, rfl⟩ := hgoes.of_choose
    · obtain ⟨m', u', hm', hpass, hrest⟩ := hcross m u b t hout hrest
      obtain ⟨m'', u'', l, hm'', htimes, hrest⟩ := ih m' (by omega) hrest
      exact ⟨m'', u'', l + 1, by omega, .succ hpass htimes, hrest⟩
    · exact ⟨m, u, 0, Nat.le_succ m, .zero, hrest⟩

end

theorem crossed_literal {c : Char} {cs : List Char}
    (h : Stored program start (literalCode start exit c cs)) :
    Crossed program (literal c cs) start exit := by
  intro n s b t hb hrun
  rw [Outside, size] at hb
  induction cs generalizing start c n s with
  | nil =>
    obtain ⟨m, a, u, rfl, hgoes, hrest⟩ := hrun.first h.head (by omega)
    cases hgoes with
    | @pass _ _ d _ _ hd htakes =>
      obtain rfl : d = c := by simpa using hd
      exact ⟨m, u, Nat.le_succ m, htakes, hrest⟩
  | cons d ds ih =>
    rw [literalCode] at h
    rw [List.length_cons] at hb
    obtain ⟨m, a, u, rfl, hgoes, hrest⟩ := hrun.first h.head (by omega)
    cases hgoes with
    | @pass _ _ e _ _ he htakes =>
      obtain rfl : e = c := by simpa using he
      obtain ⟨m', u', hm', hpass, hrest⟩ := ih h.tail m u (by omega) hrest
      exact ⟨m', u', by omega, htakes.append hpass, hrest⟩

theorem afterCopy_of_lt (exit : Nat) {stop address : Nat} (h : address < stop) :
    afterCopy stop exit address = address := if_neg (Nat.ne_of_lt h)

@[simp] theorem afterCopy_self (stop exit : Nat) : afterCopy stop exit stop = exit := if_pos rfl

section

variable {p : Pattern} {greedy : Bool} {count stop : Nat}
  (hcross : ∀ start exit, Stored program start (p.code start exit) → Crossed program p start exit)

include hcross

theorem times_of_needed (hstop : start + count * p.size ≤ stop) (hb : b < start ∨ stop ≤ b)
    (h : Stored program start ((List.range count).flatMap fun i =>
      p.code (start + i * p.size) (afterCopy stop exit (start + (i + 1) * p.size))))
    (hrun : Runs program n (afterCopy stop exit start) s b t) :
    ∃ m u, m ≤ n ∧ Times p.Passes count s u ∧
      Runs program m (afterCopy stop exit (start + count * p.size)) u b t := by
  have hle (i : Nat) (hi : i < count) : i * p.size + p.size ≤ count * p.size := by
    rw [← Nat.succ_mul]
    exact Nat.mul_le_mul_right _ hi
  have hnext (i : Nat) (hi : i < count) :
      afterCopy stop exit (start + i * p.size) = start + i * p.size := by
    have := hle i hi
    have := p.size_pos
    exact afterCopy_of_lt exit (by omega)
  refine times_of_copies (fun i => afterCopy stop exit (start + i * p.size)) (fun i hi => ?_)
    (fun i hi => ?_) (Nat.zero_add count) ?_
  · rw [hnext i hi]
    exact hcross _ _ (h.block (fun i => length_code _ _ _) hi)
  · have := hle i hi
    rw [hnext i hi, Outside]
    omega
  · rwa [Nat.zero_mul, Nat.add_zero]

theorem times_of_optional (hstop : stop = start + count * (p.size + 1)) (hb : b < start ∨ stop ≤ b)
    (h : Stored program start ((List.range count).flatMap fun i =>
      Instruction.choose greedy (start + i * (p.size + 1) + 1) exit ::
        p.code (start + i * (p.size + 1) + 1)
          (afterCopy stop exit (start + i * (p.size + 1) + 1 + p.size))))
    (hrun : Runs program n (afterCopy stop exit start) s b t) :
    ∃ m u l, m ≤ n ∧ l ≤ count ∧ Times p.Passes l s u ∧ Runs program m exit u b t := by
  have hle (i : Nat) (hi : i < count) : i * (p.size + 1) + (p.size + 1) ≤ count * (p.size + 1) := by
    rw [← Nat.succ_mul]
    exact Nat.mul_le_mul_right _ hi
  have hnext (i : Nat) (hi : i < count) :
      afterCopy stop exit (start + i * (p.size + 1)) = start + i * (p.size + 1) := by
    have := hle i hi
    exact afterCopy_of_lt exit (by omega)
  have hlast : afterCopy stop exit (start + count * (p.size + 1)) = exit := by
    rw [← hstop, afterCopy_self]
  have hblock (i : Nat) (hi : i < count) :=
    h.block (fun i => by rw [List.length_cons, length_code]) hi
  rw [← hlast]
  refine times_of_choices greedy (fun i => afterCopy stop exit (start + i * (p.size + 1)))
    (fun i hi => ?_) (fun i hi => ?_) (fun i hi => ?_) (Nat.zero_add count) ?_
  · rw [hlast, hnext i hi]
    exact (hblock i hi).head
  · rw [hnext i hi]
    have hcopy := hcross _ _ (hblock i hi).tail
    rwa [show start + i * (p.size + 1) + 1 + p.size = start + (i + 1) * (p.size + 1) by ring] at hcopy
  · have := hle i hi
    rw [hnext i hi, Outside]
    omega
  · rwa [Nat.zero_mul, Nat.add_zero]

theorem crossed_rep_some {least most : Nat} (hmost : least = 0 → most ≠ 0)
    (h : Stored program start ((rep greedy least (some most) p).code start exit)) :
    Crossed program (rep greedy least (some most) p) start exit := by
  intro n s b t hb hrun
  rw [code_rep_some greedy hmost] at h
  rw [Outside, size_rep_some greedy hmost] at hb
  have hstop : stopOf p least most start =
      start + least * p.size + (most - least) * (p.size + 1) := rfl
  have hstart : start < stopOf p least most start := by
    rw [hstop]
    by_cases hleast : least = 0
    · subst hleast
      have hpos : 0 < (most - 0) * (p.size + 1) :=
        Nat.mul_pos (Nat.pos_of_ne_zero (hmost rfl)) (Nat.succ_pos _)
      omega
    · have := Nat.mul_pos (Nat.pos_of_ne_zero hleast) p.size_pos
      omega
  have hright := h.right
  rw [length_flatMap_range fun i => length_code _ _ _] at hright
  rw [← afterCopy_of_lt exit hstart] at hrun
  obtain ⟨m, u, hm, hneeded, hrun⟩ := times_of_needed hcross (by omega) (by omega) h.left hrun
  obtain ⟨m', v, l, hm', hl, hoptional, hrun⟩ :=
    times_of_optional hcross hstop (by omega) hright hrun
  refine ⟨m', v, hm'.trans hm, ⟨l + least, by omega, ?_, hneeded.add hoptional⟩, hrun⟩
  simp only [Option.mem_def, Option.some.injEq, forall_eq']
  omega

theorem crossed_rep_succ {least : Nat}
    (h : Stored program start ((rep greedy (least + 1) none p).code start exit)) :
    Crossed program (rep greedy (least + 1) none p) start exit := by
  intro n s b t hb hrun
  rw [code] at h
  rw [Outside, size] at hb
  have hle (i : Nat) (hi : i < least + 1) : i * p.size + p.size ≤ (least + 1) * p.size := by
    rw [← Nat.succ_mul]
    exact Nat.mul_le_mul_right _ hi
  have hcopy (i : Nat) (hi : i < least + 1) :
      Crossed program p (start + i * p.size) (start + (i + 1) * p.size) :=
    hcross _ _ (h.left.block (fun i => length_code _ _ _) hi)
  have hloop := h.right
  rw [length_flatMap_range fun i => length_code _ _ _] at hloop
  obtain ⟨m, u, hm, hneeded, hrun⟩ : ∃ m u, m ≤ n ∧ Times p.Passes (least + 1) s u ∧
      Runs program m (start + (least + 1) * p.size) u b t := by
    refine times_of_copies (fun i => start + i * p.size) hcopy (fun i hi => ?_)
      (Nat.zero_add (least + 1)) ?_
    · have := hle i hi
      rw [Outside]
      omega
    · rwa [Nat.zero_mul, Nat.add_zero]
  have := hle least (Nat.lt_succ_self least)
  obtain ⟨m', v, l, hm', hmore, hrun⟩ := times_of_loop hloop.head
    (hcopy least (Nat.lt_succ_self least)) (by omega) (by rw [Outside]; omega) hrun
  exact ⟨m', v, hm'.trans hm, ⟨l + (least + 1), by omega, by simp, hneeded.add hmore⟩, hrun⟩

theorem crossed_rep_zero (h : Stored program start ((rep greedy 0 none p).code start exit)) :
    Crossed program (rep greedy 0 none p) start exit := by
  intro n s b t hb hrun
  rw [code] at h
  rw [Outside, size] at hb
  split at h
  · next hadvances =>
    rw [if_pos hadvances] at hb
    obtain ⟨m, u, l, hm, htimes, hrun⟩ := times_of_loop h.head (hcross _ _ h.tail) (by omega)
      (by rw [Outside]; omega) hrun
    exact ⟨m, u, hm, ⟨l, Nat.zero_le l, by simp, htimes⟩, hrun⟩
  · next hadvances =>
    -- A part that may pass nothing comes back to a choice of its own.
    rw [if_neg hadvances] at hb
    have hagain := h.tail.right.head
    rw [length_code] at hagain
    have hbody := hcross _ _ h.tail.left
    obtain ⟨m, a, u, rfl, hgoes, hrest⟩ := hrun.first h.head (by omega)
    obtain ⟨rfl | rfl, rfl⟩ := hgoes.of_choose
    · obtain ⟨m', v, hm', hpass, hrest⟩ := hbody m u b t (by rw [Outside]; omega) hrest
      obtain ⟨m'', w, l, hm'', htimes, hrest⟩ := times_of_loop hagain hbody (by omega)
        (by rw [Outside]; omega) hrest
      exact ⟨m'', w, by omega, ⟨l + 1, Nat.zero_le _, by simp, .succ hpass htimes⟩, hrest⟩
    · exact ⟨m, u, Nat.le_succ m, ⟨0, Nat.le_refl 0, by simp, .zero⟩, hrest⟩

theorem crossed_rep {least : Nat} {most : Option Nat}
    (h : Stored program start ((rep greedy least most p).code start exit)) :
    Crossed program (rep greedy least most p) start exit := by
  cases most with
  | none =>
    cases least with
    | zero => exact crossed_rep_zero hcross h
    | succ least => exact crossed_rep_succ hcross h
  | some most =>
    by_cases hmost : least = 0 → most ≠ 0
    · exact crossed_rep_some hcross hmost h
    · obtain ⟨rfl, rfl⟩ : least = 0 ∧ most = 0 := by omega
      intro n s b t hb hrun
      obtain ⟨m, _, u, rfl, hgoes, hrest⟩ := hrun.first h.head (hb.ne_start (size_pos _))
      cases hgoes
      exact ⟨m, _, Nat.le_succ m, ⟨0, Nat.le_refl 0, by simp, .zero⟩, hrest⟩

end

theorem crossed_seq {p q : Pattern} (h : Stored program start ((seq p q).code start exit))
    (hp : ∀ exit, Stored program start (p.code start exit) → Crossed program p start exit)
    (hq : ∀ start, Stored program start (q.code start exit) → Crossed program q start exit) :
    Crossed program (seq p q) start exit := by
  intro n s b t hb hrun
  rw [Outside, size] at hb
  have hright := h.right
  rw [length_code] at hright
  obtain ⟨m, u, hm, hpass, hrun⟩ := hp _ h.left n s b t (by rw [Outside]; omega) hrun
  obtain ⟨m', v, hm', hpass', hrun⟩ := hq _ hright m u b t (by rw [Outside]; omega) hrun
  exact ⟨m', v, hm'.trans hm, ⟨u, hpass, hpass'⟩, hrun⟩

theorem crossed_alt {p q : Pattern} (h : Stored program start ((alt p q).code start exit))
    (hp : ∀ start, Stored program start (p.code start exit) → Crossed program p start exit)
    (hq : ∀ start, Stored program start (q.code start exit) → Crossed program q start exit) :
    Crossed program (alt p q) start exit := by
  intro n s b t hb hrun
  rw [Outside, size] at hb
  have hright := h.tail.right
  rw [length_code] at hright
  obtain ⟨m, a, u, rfl, hgoes, hrest⟩ := hrun.first h.head (by omega)
  cases hgoes with
  | first =>
    obtain ⟨m', v, hm', hpass, hrest⟩ := hp _ h.tail.left m s b t (by rw [Outside]; omega) hrest
    exact ⟨m', v, by omega, .inl hpass, hrest⟩
  | second =>
    obtain ⟨m', v, hm', hpass, hrest⟩ := hq _ hright m s b t (by rw [Outside]; omega) hrest
    exact ⟨m', v, by omega, .inr hpass, hrest⟩

theorem crossed_of_stored (p : Pattern) (h : Stored program start (p.code start exit)) :
    Crossed program p start exit := by
  induction p generalizing start exit with
  | literal c cs => exact crossed_literal h
  | group _ p ih => exact ih h
  | rep greedy least most p ih => exact crossed_rep (fun _ _ h => ih h) h
  | seq p q ihp ihq => exact crossed_seq h (fun _ h => ihp h) fun _ h => ihq h
  | alt p q ihp ihq => exact crossed_alt h (fun _ h => ihp h) fun _ h => ihq h
  | empty =>
    intro n s b t hb hrun
    obtain ⟨m, _, u, rfl, hgoes, hrest⟩ := hrun.first h.head (hb.ne_start (size_pos _))
    cases hgoes
    exact ⟨m, _, Nat.le_succ m, rfl, hrest⟩
  | look l =>
    intro n s b t hb hrun
    obtain ⟨m, _, u, rfl, hgoes, hrest⟩ := hrun.first h.head (hb.ne_start (size_pos _))
    cases hgoes with
    | check hl => exact ⟨m, _, Nat.le_succ m, ⟨hl, rfl⟩, hrest⟩
  | chars set =>
    intro n s b t hb hrun
    obtain ⟨m, _, u, rfl, hgoes, hrest⟩ := hrun.first h.head (hb.ne_start (size_pos _))
    cases hgoes with
    | pass hc htakes => exact ⟨m, _, Nat.le_succ m, ⟨_, hc, htakes⟩, hrest⟩

end Pattern

end Parsing
