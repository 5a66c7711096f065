import Parsing.Token

namespace Parsing

structure LeadingTokens (K : Type) where
  toList : List K
  deriving DecidableEq, Repr

namespace LeadingTokens

variable {K : Type}

def empty : LeadingTokens K := ⟨[]⟩

def size (s : LeadingTokens K) : Nat := s.toList.length

def isEmpty (s : LeadingTokens K) : Bool := s.toList.isEmpty

@[simp] theorem toList_empty : (empty : LeadingTokens K).toList = [] := rfl

variable [TokenKind K]

def contains (s : LeadingTokens K) (k : K) : Bool := s.toList.contains k

def add (s : LeadingTokens K) (k : K) : LeadingTokens K :=
  if s.contains k then s else ⟨s.toList ++ [k]⟩

def insert (s : LeadingTokens K) (k : K) : Bool × LeadingTokens K := (!s.contains k, s.add k)

def extend (s : LeadingTokens K) (ks : List K) : LeadingTokens K := ks.foldl add s

def ofList (ks : List K) : LeadingTokens K := empty.extend ks

@[simp] theorem extend_nil (s : LeadingTokens K) : s.extend [] = s := rfl

@[simp] theorem extend_cons (s : LeadingTokens K) (k : K) (ks : List K) :
    s.extend (k :: ks) = (s.add k).extend ks := rfl

theorem extend_append (s : LeadingTokens K) (ks ls : List K) :
    s.extend (ks ++ ls) = (s.extend ks).extend ls :=
  List.foldl_append

theorem contains_iff {s : LeadingTokens K} {k : K} : s.contains k = true ↔ k ∈ s.toList := by
  simp [contains]

theorem add_of_mem {s : LeadingTokens K} {k : K} (h : k ∈ s.toList) : s.add k = s :=
  if_pos (contains_iff.2 h)

theorem toList_add_of_not_mem {s : LeadingTokens K} {k : K} (h : k ∉ s.toList) :
    (s.add k).toList = s.toList ++ [k] := by
  rw [add, if_neg (mt contains_iff.1 h)]

theorem mem_add {s : LeadingTokens K} {k l : K} :
    l ∈ (s.add k).toList ↔ l ∈ s.toList ∨ l = k := by
  unfold add
  split
  · next h => exact ⟨.inl, fun hl => hl.elim id fun e => e ▸ contains_iff.1 h⟩
  · simp

theorem mem_extend {s : LeadingTokens K} {ks : List K} {l : K} :
    l ∈ (s.extend ks).toList ↔ l ∈ s.toList ∨ l ∈ ks := by
  induction ks generalizing s with
  | nil => simp
  | cons k ks ih => simp [ih, mem_add, or_assoc]

@[simp] theorem mem_ofList {ks : List K} {k : K} : k ∈ (ofList ks).toList ↔ k ∈ ks := by
  simp [ofList, mem_extend]

theorem nodup_add {s : LeadingTokens K} {k : K} (h : s.toList.Nodup) : (s.add k).toList.Nodup := by
  unfold add
  split
  · exact h
  · next hk =>
    rw [contains_iff] at hk
    exact List.nodup_append.2 ⟨h, by simp, fun a ha b hb => by
      rintro rfl
      exact hk (List.mem_singleton.1 hb ▸ ha)⟩

theorem nodup_extend {s : LeadingTokens K} {ks : List K} (h : s.toList.Nodup) :
    (s.extend ks).toList.Nodup := by
  induction ks generalizing s with
  | nil => exact h
  | cons k ks ih => exact ih (nodup_add h)

theorem nodup_ofList (ks : List K) : (ofList ks).toList.Nodup := nodup_extend .nil

end LeadingTokens

end Parsing
