/-!
# Repeated names

Which entries of a list repeat an earlier one.
-/

namespace Blueprint

variable {α : Type} [DecidableEq α]

/-- For each entry, whether it was seen before, given those seen so far. -/
def repeatFlagsFrom (seen : List α) : List α → List Bool
  | [] => []
  | a :: as => decide (a ∈ seen) :: repeatFlagsFrom (a :: seen) as

/-- For each entry, whether an earlier one equals it. -/
def repeatFlags (as : List α) : List Bool :=
  repeatFlagsFrom [] as

/-- The first entry that repeats an earlier one. -/
def firstRepeat (as : List α) : Option α :=
  ((as.zip (repeatFlags as)).find? (·.2)).map (·.1)

@[simp] theorem length_repeatFlagsFrom (seen as : List α) :
    (repeatFlagsFrom seen as).length = as.length := by
  induction as generalizing seen with
  | nil => rfl
  | cons a as ih => simp [repeatFlagsFrom, ih]

@[simp] theorem length_repeatFlags (as : List α) : (repeatFlags as).length = as.length :=
  length_repeatFlagsFrom [] as

/-! A list has no repeated entry exactly when its entries are pairwise different. -/

theorem forall_zip_repeatFlagsFrom (seen as : List α) :
    (∀ entry ∈ as.zip (repeatFlagsFrom seen as), entry.2 = false) ↔
      (∀ a ∈ as, a ∉ seen) ∧ as.Nodup := by
  induction as generalizing seen with
  | nil => simp
  | cons a as ih =>
    -- The entries after `a` repeat neither `a` nor what was seen before it.
    rw [repeatFlagsFrom, List.zip_cons_cons, List.forall_mem_cons, ih, List.forall_mem_cons,
      List.nodup_cons]
    constructor
    · rintro ⟨ha, hnew, hnodup⟩
      refine ⟨⟨of_decide_eq_false ha, fun b hb hmem => ?_⟩, fun hmem => ?_, hnodup⟩
      · exact hnew b hb (List.mem_cons_of_mem a hmem)
      · exact hnew a hmem List.mem_cons_self
    · rintro ⟨⟨ha, hnew⟩, hmem, hnodup⟩
      refine ⟨decide_eq_false ha, fun b hb hseen => ?_, hnodup⟩
      rcases List.mem_cons.1 hseen with rfl | hseen
      · exact hmem hb
      · exact hnew b hb hseen

theorem forall_zip_repeatFlags (as : List α) :
    (∀ entry ∈ as.zip (repeatFlags as), entry.2 = false) ↔ as.Nodup := by
  rw [repeatFlags, forall_zip_repeatFlagsFrom]
  simp

theorem firstRepeat_eq_none_iff (as : List α) : firstRepeat as = none ↔ as.Nodup := by
  rw [firstRepeat, Option.map_eq_none_iff, List.find?_eq_none, ← forall_zip_repeatFlags]
  simp only [Bool.not_eq_true]

end Blueprint
