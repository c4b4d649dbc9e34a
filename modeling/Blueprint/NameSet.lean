/-!
# Sorted sets of names

A set of names is kept as a strictly increasing list, in the order of code points.
-/

namespace Blueprint.NameSet

/-- Adds a name to a sorted set. -/
def insert (x : String) : List String → List String
  | [] => [x]
  | y :: ys => if x < y then x :: y :: ys else if x = y then y :: ys else y :: insert x ys

/-- The sorted set of the listed names. -/
def ofList (names : List String) : List String :=
  names.foldr insert []

@[simp] theorem mem_insert {x y : String} {s : List String} : y ∈ insert x s ↔ y = x ∨ y ∈ s := by
  induction s with
  | nil => simp [insert]
  | cons z zs ih =>
    rw [insert]
    split
    · simp
    · split
      · simp_all
      · simp only [List.mem_cons, ih]
        constructor
        · rintro (h | h | h) <;> simp [h]
        · rintro (h | h | h) <;> simp [h]

@[simp] theorem mem_ofList {y : String} {names : List String} : y ∈ ofList names ↔ y ∈ names := by
  induction names with
  | nil => simp [ofList]
  | cons x xs ih => simpa [ofList] using or_congr_right (a := y = x) ih

/-! The lists stay strictly increasing, so a name occurs at most once. -/

theorem pairwise_insert {x : String} {s : List String} (h : s.Pairwise (· < ·)) :
    (insert x s).Pairwise (· < ·) := by
  induction s with
  | nil => simp [insert]
  | cons y ys ih =>
    have hys := List.pairwise_cons.1 h
    rw [insert]
    split <;> rename_i hxy
    · refine List.pairwise_cons.2 ⟨?_, h⟩
      intro z hz
      rcases List.mem_cons.1 hz with rfl | hz
      · exact hxy
      · exact String.lt_trans hxy (hys.1 z hz)
    · split <;> rename_i hne
      · exact h
      · refine List.pairwise_cons.2 ⟨?_, ih hys.2⟩
        intro z hz
        rcases mem_insert.1 hz with rfl | hz
        · exact String.not_le.1 fun hle => hne (String.le_antisymm hle (String.not_lt.1 hxy))
        · exact hys.1 z hz

theorem pairwise_ofList (names : List String) : (ofList names).Pairwise (· < ·) := by
  induction names with
  | nil => exact List.Pairwise.nil
  | cons x xs ih => exact pairwise_insert ih

theorem nodup_ofList (names : List String) : (ofList names).Nodup :=
  (pairwise_ofList names).imp fun h => String.ne_of_lt h

end Blueprint.NameSet
