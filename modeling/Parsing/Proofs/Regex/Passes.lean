import Parsing.Regex.Search

namespace Parsing

structure Spot.Takes (s : Spot) (cs : List Char) (t : Spot) : Prop where
  rest : s.rest = cs ++ t.rest
  before : t.before = cs.getLast?.or s.before

namespace Spot.Takes

variable {s t u : Spot} {cs ds : List Char} {c : Char}

theorem nil : s.Takes [] s := ⟨rfl, rfl⟩

theorem single {before : Option Char} {rest : List Char} :
    Takes ⟨before, c :: rest⟩ [c] ⟨some c, rest⟩ := ⟨rfl, rfl⟩

theorem append (h : s.Takes cs t) (h' : t.Takes ds u) : s.Takes (cs ++ ds) u where
  rest := by rw [h.rest, h'.rest, List.append_assoc]
  before := by rw [h'.before, h.before, List.getLast?_append, Option.or_assoc]

theorem split (h : s.Takes (cs ++ ds) u) : ∃ t, s.Takes cs t ∧ t.Takes ds u := by
  refine ⟨⟨cs.getLast?.or s.before, ds ++ u.rest⟩, ⟨?_, rfl⟩, ⟨rfl, ?_⟩⟩
  · rw [h.rest, List.append_assoc]
  · rw [h.before, List.getLast?_append, Option.or_assoc]

end Spot.Takes

inductive Times (R : Spot → Spot → Prop) : Nat → Spot → Spot → Prop
  | zero {s : Spot} : Times R 0 s s
  | succ {n : Nat} {s t u : Spot} : R s t → Times R n t u → Times R (n + 1) s u

theorem Times.add {R : Spot → Spot → Prop} {m n : Nat} {s t u : Spot} (h : Times R m s t)
    (h' : Times R n t u) : Times R (n + m) s u := by
  induction h with
  | zero => exact h'
  | succ hr _ ih => exact .succ hr (ih h')

namespace Pattern

/-- Whether a pattern gets from one spot to another. A part that may be repeated less often than it
has to be is repeated just as often as it has to. -/
def Passes : Pattern → Spot → Spot → Prop
  | empty, s, t => s = t
  | literal c cs, s, t => s.Takes (c :: cs) t
  | chars set, s, t => ∃ c, set.contains c = true ∧ s.Takes [c] t
  | look l, s, t => l.holds s = true ∧ s = t
  | group _ p, s, t => p.Passes s t
  | rep _ least most p, s, t =>
    ∃ n, least ≤ n ∧ (∀ m ∈ most, n ≤ max least m) ∧ Times p.Passes n s t
  | seq p q, s, t => ∃ u, p.Passes s u ∧ q.Passes u t
  | alt p q, s, t => p.Passes s t ∨ q.Passes s t

inductive PassesAll : List Pattern → Spot → Spot → Prop
  | nil {s : Spot} : PassesAll [] s s
  | cons {p : Pattern} {ps : List Pattern} {s t u : Spot} :
    p.Passes s t → PassesAll ps t u → PassesAll (p :: ps) s u

variable {p : Pattern} {ps qs : List Pattern} {s t u : Spot}

@[simp] theorem passesAll_nil : PassesAll [] s t ↔ s = t := by
  constructor
  · rintro ⟨⟩
    rfl
  · rintro rfl
    exact .nil

@[simp] theorem passesAll_cons :
    PassesAll (p :: ps) s t ↔ ∃ u, p.Passes s u ∧ PassesAll ps u t := by
  constructor
  · rintro (_ | ⟨hp, hps⟩)
    exact ⟨_, hp, hps⟩
  · rintro ⟨u, hp, hps⟩
    exact .cons hp hps

theorem passesAll_append :
    PassesAll (ps ++ qs) s t ↔ ∃ u, PassesAll ps s u ∧ PassesAll qs u t := by
  induction ps generalizing s with
  | nil => simp
  | cons p ps ih =>
    simp only [List.cons_append, passesAll_cons, ih]
    constructor
    · rintro ⟨u, hp, v, hps, hqs⟩
      exact ⟨v, ⟨u, hp, hps⟩, hqs⟩
    · rintro ⟨v, ⟨u, hp, hps⟩, hqs⟩
      exact ⟨u, hp, v, hps, hqs⟩

theorem passesAll_parts : PassesAll p.parts s t ↔ p.Passes s t := by
  induction p generalizing s t with
  | seq p q _ ih => simp [parts, Passes, ih]
  | empty => simp [parts, Passes]
  | _ => simp [parts]

theorem passes_ofParts : (ofParts ps).Passes s t ↔ PassesAll ps s t := by
  induction ps generalizing s with
  | nil => simp [ofParts, Passes]
  | cons p ps ih =>
    cases ps with
    | nil => simp [ofParts]
    | cons q qs => simp only [ofParts, Passes, passesAll_cons, ih]

theorem passesAll_consPart : PassesAll (consPart p ps) s t ↔ PassesAll (p :: ps) s t := by
  unfold consPart
  split
  · next c cs d ds ps =>
    simp only [passesAll_cons, Passes]
    constructor
    · rintro ⟨u, hu, hps⟩
      obtain ⟨v, hv, hu⟩ := Spot.Takes.split (show s.Takes ((c :: cs) ++ d :: ds) u from hu)
      exact ⟨v, hv, u, hu, hps⟩
    · rintro ⟨v, hv, u, hu, hps⟩
      exact ⟨u, hv.append hu, hps⟩
  · rfl

theorem passesAll_foldr_consPart :
    PassesAll (ps.foldr consPart []) s t ↔ PassesAll ps s t := by
  induction ps generalizing s with
  | nil => rfl
  | cons p ps ih =>
    rw [List.foldr_cons, passesAll_consPart]
    simp only [passesAll_cons, ih]

theorem passes_concat : (concat ps).Passes s t ↔ PassesAll ps s t := by
  rw [concat, passes_ofParts, passesAll_foldr_consPart]
  induction ps generalizing s with
  | nil => rfl
  | cons p ps ih =>
    rw [List.flatMap_cons, passesAll_append, passesAll_cons]
    simp only [passesAll_parts, ih]

end Pattern

end Parsing
