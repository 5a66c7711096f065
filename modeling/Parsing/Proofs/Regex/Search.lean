import Parsing.Proofs.Regex.Code

namespace Parsing

def Spot.ofText (text : List Char) (n : Nat) : Spot := ⟨(text.take n).getLast?, text.drop n⟩

theorem Spot.ofText_zero (text : List Char) : Spot.ofText text 0 = ⟨none, text⟩ := by
  simp [Spot.ofText]

theorem Spot.ofText_succ {text : List Char} {n : Nat} {c : Char} {rest : List Char}
    (h : text.drop n = c :: rest) : Spot.ofText text (n + 1) = ⟨some c, rest⟩ := by
  have hc : text[n]? = some c := by
    rw [← Nat.add_zero n, ← List.getElem?_drop, h]
    rfl
  have hrest : text.drop (n + 1) = rest := by
    rw [← List.drop_drop, h]
    rfl
  rw [Spot.ofText, List.take_add_one, hc, hrest]
  simp

namespace Regex

def Reaches (r : Regex) (text : List Char) (start : Nat) (a : Nat) (s : Spot) : Prop :=
  ∃ n, Runs r.program n 0 (Spot.ofText text start) a s

def Completes (r : Regex) (text : List Char) (span : Span) : Prop :=
  ∃ a, r.Reaches text span.start a (Spot.ofText text span.stop) ∧ r.program[a]? = none

variable {r : Regex} {text : List Char} {s : Spot}

theorem Reaches.snoc {start a b : Nat} {i : Instruction} {t : Spot} (h : r.Reaches text start a s)
    (hi : r.program[a]? = some i) (hgoes : i.Goes s b t) : r.Reaches text start b t := by
  obtain ⟨n, hrun⟩ := h
  exact ⟨n + 1, hrun.snoc hi hgoes⟩

def Awaits (r : Regex) (text : List Char) (s : Spot) (x : CharSet × Thread) : Prop :=
  ∃ a, r.Reaches text x.2.start a s ∧ r.program[a]? = some (.pass x.1 x.2.address)

theorem reaches_followFrom {n : Nat} {stack : List Thread} {visited : Visited}
    {steps : List (CharSet × Thread)}
    (hstack : ∀ t ∈ stack, r.Reaches text t.start t.address s)
    (hsteps : ∀ x ∈ steps, r.Awaits text s x) :
    (∀ x ∈ (r.followFrom s n stack visited steps).steps, r.Awaits text s x) ∧
      ∀ start ∈ (r.followFrom s n stack visited steps).complete?,
        ∃ a, r.Reaches text start a s ∧ r.program[a]? = none := by
  fun_induction followFrom r s n stack visited steps <;>
    simp only [List.forall_mem_cons, List.mem_reverse] at hstack hsteps ⊢
  case case1 => exact ⟨hsteps, by simp⟩
  case case2 => exact ⟨hsteps, by simp⟩
  case case3 ih => exact ih hstack.2 hsteps
  case case4 hi =>
    refine ⟨hsteps, ?_⟩
    rintro _ ⟨⟩
    exact ⟨_, hstack.1, hi⟩
  case case5 hi ih => exact ih hstack.2 (List.forall_mem_cons.2 ⟨⟨_, hstack.1, hi⟩, hsteps⟩)
  case case6 hi ih =>
    refine ih ?_ hsteps
    split
    · next hl => exact List.forall_mem_cons.2 ⟨hstack.1.snoc hi (.check hl), hstack.2⟩
    · exact hstack.2
  case case7 hi ih => exact ih (List.forall_mem_cons.2 ⟨hstack.1.snoc hi .jump, hstack.2⟩) hsteps
  case case8 hi ih =>
    refine ih (List.forall_mem_cons.2 ⟨hstack.1.snoc hi .first, ?_⟩) hsteps
    exact List.forall_mem_cons.2 ⟨hstack.1.snoc hi .second, hstack.2⟩

theorem reaches_follow {threads : List Thread}
    (h : ∀ t ∈ threads, r.Reaches text t.start t.address s) :
    (∀ x ∈ (r.follow s threads).steps, r.Awaits text s x) ∧
      ∀ start ∈ (r.follow s threads).complete?,
        ∃ a, r.Reaches text start a s ∧ r.program[a]? = none :=
  reaches_followFrom h (by simp)

theorem reaches_pass {w : Waiting} {c : Char} {t : Spot} (hw : ∀ x ∈ w.steps, r.Awaits text s x)
    (htakes : s.Takes [c] t) : ∀ th ∈ w.pass c, r.Reaches text th.start th.address t := by
  intro th hth
  simp only [Waiting.pass, List.mem_filterMap, Option.ite_none_right_eq_some, Option.some.injEq,
    Prod.exists] at hth
  obtain ⟨set, th, hmem, hc, rfl⟩ := hth
  obtain ⟨a, hreach, hi⟩ := hw _ hmem
  exact hreach.snoc hi (.pass hc htakes)

theorem completes_best {passed : Nat} {best? : Option Span} {threads : List Thread}
    (hbest : ∀ b ∈ best?, r.Completes text b)
    (hthreads : ∀ t ∈ threads, r.Reaches text t.start t.address (Spot.ofText text passed)) :
    ∀ b ∈ ((r.follow (Spot.ofText text passed) threads).complete?.map
      fun start => (⟨start, passed⟩ : Span)).or best?, r.Completes text b := by
  intro b hb
  obtain hb | ⟨-, hb⟩ := Option.or_eq_some_iff.1 hb
  · obtain ⟨start, hstart, rfl⟩ := Option.map_eq_some_iff.1 hb
    exact (reaches_follow hthreads).2 start hstart
  · exact hbest b hb

theorem completes_runFrom {before : Option Char} {passed : Nat} {best? : Option Span}
    {threads : List Thread} {rest : List Char} {span : Span}
    (hspot : Spot.ofText text passed = ⟨before, rest⟩) (hbest : ∀ b ∈ best?, r.Completes text b)
    (hthreads : ∀ t ∈ threads, r.Reaches text t.start t.address (Spot.ofText text passed))
    (h : r.runFrom before passed best? threads rest = some span) : r.Completes text span := by
  induction rest generalizing before passed best? threads with
  | nil =>
    rw [runFrom, ← hspot] at h
    exact completes_best hbest hthreads span h
  | cons c rest ih =>
    have hnext : Spot.ofText text (passed + 1) = ⟨some c, rest⟩ :=
      Spot.ofText_succ (congrArg Spot.rest hspot)
    have htakes : (Spot.ofText text passed).Takes [c] (Spot.ofText text (passed + 1)) := by
      rw [hspot, hnext]
      exact .single
    have hbest' := completes_best hbest hthreads
    have hpass := reaches_pass (reaches_follow hthreads).1 htakes
    simp only [runFrom, ← hspot] at h
    split at h
    · exact hbest' span h
    · refine ih hnext hbest' (fun t ht => ?_) h
      rcases List.mem_append.1 ht with ht | ht
      · exact hpass t ht
      · split at ht
        · cases ht
        · -- A thread that begins here.
          rw [List.mem_singleton] at ht
          subst ht
          exact ⟨0, .refl⟩

theorem completes_find? {span : Span} (h : r.find? text = some span) : r.Completes text span := by
  refine completes_runFrom (Spot.ofText_zero text) (by simp) ?_ h
  simp only [List.forall_mem_singleton]
  exact ⟨0, .refl⟩

end Regex

theorem Pattern.passes_of_find? {p : Pattern} {text : List Char} {span : Regex.Span}
    (h : p.toRegex.find? text = some span) :
    p.Passes (Spot.ofText text span.start) (Spot.ofText text span.stop) := by
  obtain ⟨a, ⟨n, hrun⟩, ha⟩ := Regex.completes_find? h
  have hstored : Stored p.toRegex.program 0 (p.code 0 p.size) := by
    intro i _
    simp [toRegex]
  have hnone (b : Nat) (hb : p.size ≤ b) : p.toRegex.program[b]? = none := by
    simp [toRegex, length_code, hb]
  have hout : Outside 0 p.size a := by
    refine .inr ?_
    simpa [toRegex, length_code] using ha
  obtain ⟨m, u, -, hpass, hrest⟩ := crossed_of_stored p hstored n _ a _ hout hrun
  obtain ⟨-, rfl⟩ := hrest.eq_of_none (hnone _ (Nat.le_refl _))
  exact hpass

end Parsing
