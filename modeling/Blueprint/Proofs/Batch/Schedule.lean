import Blueprint.Batch.Run
import Blueprint.Proofs.FileTree.Interference

/-!
# Schedules that make no difference

Scripts run side by side on one tree, and a schedule picks whose operation comes next.  Here every
script has a territory of its own that is clear of those of the others, and is undisturbed there.

The proof runs each script a second time, alone on the tree that all of them started from.  While
the schedule goes on, the shared tree is the *overlay* of these trees: at every place it holds what
some script made of it, or else what was there at the start.  An operation of one script keeps this
so and has the same answer on both sides (`Overlay.perform`), hence so does a turn of the schedule
(`OnCourse.turn`) and the whole run (`runScheduled_eq`).  An overlay says of every place what it
holds, so the schedule does not matter in the end.
-/

namespace Blueprint

open FileTree (Place Territory Extends Mirrors Confined)

/-- Nothing that the worker of `a` works at or looks at lies at or above a place of `b`. -/
def FileTree.Territory.ClearOf (a b : Territory) : Prop :=
  ∀ x ∈ a.own ++ a.watched, ∀ y ∈ b.own, ¬ x <+: y

instance : DecidableRel Territory.ClearOf := fun a b =>
  inferInstanceAs (Decidable (∀ x ∈ a.own ++ a.watched, ∀ y ∈ b.own, ¬ x <+: y))

namespace Batch

variable {t T T' : FileTree} {land : Nat → Territory} {solo : Nat → FileTree}

/-! ## Overlays -/

/-- The territories are clear of each other. -/
def MutuallyClear (land : Nat → Territory) : Prop :=
  ∀ i j, i ≠ j → (land i).ClearOf (land j)

lemma MutuallyClear.not_prefix (hclear : MutuallyClear land) {i j : Nat} {x y : Place} (hne : i ≠ j)
    (hx : x ∈ (land i).own) (hy : y ∈ (land j).own) : ¬ x <+: y :=
  hclear i j hne x (List.mem_append_left _ hx) y hy

/-- The tree `T` holds what each owner made of `t` alone, and what was in `t` elsewhere. -/
structure Overlay (t : FileTree) (land : Nat → Territory) (solo : Nat → FileTree)
    (T : FileTree) : Prop where
  confined : ∀ i, Confined (land i).own t (solo i)
  changed : ∀ i x, (solo i).get? x ≠ t.get? x → T.get? x = (solo i).get? x
  unchanged : ∀ x, (∀ i, (solo i).get? x = t.get? x) → T.get? x = t.get? x

lemma Overlay.refl (t : FileTree) (land : Nat → Territory) : Overlay t land (fun _ => t) t :=
  ⟨fun i => .refl (land i).own t, fun _ _ h => absurd rfl h, fun _ _ => rfl⟩

/-- An overlay is determined at every place. -/
lemma Overlay.get?_eq (h : Overlay t land solo T) (h' : Overlay t land solo T') (x : Place) :
    T.get? x = T'.get? x := by
  by_cases hx : ∀ i, (solo i).get? x = t.get? x
  · rw [h.unchanged x hx, h'.unchanged x hx]
  · obtain ⟨i, hi⟩ := not_forall.1 hx
    rw [h.changed i x hi, h'.changed i x hi]

/-- What an owner does not find as it left it is the work of another. -/
lemma Overlay.get?_cases (h : Overlay t land solo T) (i : Nat) (x : Place) :
    T.get? x = (solo i).get? x ∨
      ∃ j, j ≠ i ∧ (solo i).get? x = t.get? x ∧ T.get? x = (solo j).get? x ∧
        (x ∈ (land j).own ∨
          (t.get? x = none ∧ (solo j).get? x = some .directory ∧ ∃ o ∈ (land j).own, x <+: o)) := by
  by_cases hi : (solo i).get? x = t.get? x
  · by_cases hall : ∀ j, (solo j).get? x = t.get? x
    · exact Or.inl ((h.unchanged x hall).trans hi.symm)
    · obtain ⟨j, hj⟩ := not_forall.1 hall
      have hne : j ≠ i := fun heq => hj (heq ▸ hi)
      have hwork := ((h.confined j).outside x).resolve_left hj
      exact Or.inr ⟨j, hne, hi, h.changed j x hj, hwork⟩
  · exact Or.inl (h.changed i x hi)

section MutuallyClear

variable (hclear : MutuallyClear land)

include hclear

/-- Two owners change the same place only if both create a directory there. -/
lemma MutuallyClear.get?_eq {i j : Nat} {s s' t' : FileTree} {x : Place} (hne : i ≠ j)
    (hi : Confined (land i).own s s') (hxi : s'.get? x ≠ s.get? x)
    (hj : Confined (land j).own t t') (hxj : t'.get? x ≠ t.get? x) : s'.get? x = t'.get? x := by
  rcases (hi.outside x).resolve_left hxi with hown | ⟨-, hmade, o, ho, hlead⟩ <;>
    rcases (hj.outside x).resolve_left hxj with hown' | ⟨-, hmade', o', ho', hlead'⟩
  · exact absurd List.prefix_rfl (hclear.not_prefix hne hown hown')
  · exact absurd hlead' (hclear.not_prefix hne hown ho')
  · exact absurd hlead (hclear.not_prefix hne.symm hown' ho)
  · exact hmade.trans hmade'.symm

/-- What an owner works at or looks at is as it would be if the owner were alone. -/
lemma Overlay.get?_territory (h : Overlay t land solo T) {i : Nat} {x : Place}
    (hx : x ∈ (land i).own ++ (land i).watched) : T.get? x = (solo i).get? x := by
  rcases h.get?_cases i x with heq | ⟨j, hne, -, -, hown | ⟨-, -, o, ho, hlead⟩⟩
  · exact heq
  · exact absurd List.prefix_rfl (hclear i j hne.symm x hx x hown)
  · exact absurd hlead (hclear i j hne.symm x hx o ho)

/-- To each owner the overlay looks like the tree that it made alone. -/
lemma Overlay.extends (h : Overlay t land solo T) (i : Nat) : Extends (land i) (solo i) T := by
  refine ⟨fun o ho => h.get?_territory hclear (List.mem_append_left _ ho),
    fun w hw => h.get?_territory hclear (List.mem_append_right _ hw), fun o ho x hx => ?_,
    fun x hx => ?_⟩
  · rcases h.get?_cases i x with heq | ⟨j, hne, hi, hj, hown | ⟨hnone, hmade, -⟩⟩
    · exact Or.inl heq
    · exact absurd hx (hclear.not_prefix hne hown ho)
    · exact Or.inr ⟨hi.trans hnone, hj.trans hmade⟩
  · rcases h.get?_cases i x with heq | ⟨j, -, hi, hj, -⟩
    · exact heq.trans hx
    · exact hj.trans ((h.confined j).kept x (hi ▸ hx))

/-- An operation of one owner has the same answer alone and in the overlay, and leaves an
overlay. -/
lemma Overlay.perform (h : Overlay t land solo T) {i : Nat} {op : FileOp}
    (hop : FileTree.Undisturbed (land i) op (solo i)) :
    (T.perform op).1 = ((solo i).perform op).1 ∧
      Overlay t land (Function.update solo i ((solo i).perform op).2) (T.perform op).2 := by
  have hlike := h.extends hclear i
  have hmirrors := hop.mirrors T hlike
  refine ⟨hop.answer T hlike, fun j => ?_, fun j x hx => ?_, fun x hx => ?_⟩
  · by_cases hj : j = i
    · subst hj
      rw [Function.update_self]
      exact (h.confined j).trans hop.confined
    · rw [Function.update_of_ne hj]
      exact h.confined j
  · by_cases hkeeps : ((solo i).perform op).2.get? x = (solo i).get? x
    · -- the operation leaves the place alone
      have hkeeps' : (Function.update solo i ((solo i).perform op).2 j).get? x =
          (solo j).get? x := by
        by_cases hj : j = i
        · rw [hj, Function.update_self, hkeeps]
        · rw [Function.update_of_ne hj]
      rw [hkeeps'] at hx ⊢
      exact (hmirrors.unchanged x hkeeps).trans (h.changed j x hx)
    · rw [hmirrors.changed x hkeeps]
      by_cases hj : j = i
      · rw [hj, Function.update_self]
      · rw [Function.update_of_ne hj] at hx ⊢
        exact hclear.get?_eq (Ne.symm hj) hop.confined hkeeps (h.confined j) hx
  · have hi := hx i
    rw [Function.update_self] at hi
    by_cases hkeeps : ((solo i).perform op).2.get? x = (solo i).get? x
    · refine (hmirrors.unchanged x hkeeps).trans (h.unchanged x fun j => ?_)
      by_cases hj : j = i
      · rw [hj, ← hkeeps, hi]
      · rw [← hx j, Function.update_of_ne hj]
    · exact (hmirrors.changed x hkeeps).trans hi

/-- So does a whole script of one owner. -/
lemma Overlay.run (h : Overlay t land solo T) {i : Nat} {script : Script α}
    (hscript : script.Undisturbed (land i) (solo i)) :
    (script.run T).1 = (script.run (solo i)).1 ∧
      Overlay t land (Function.update solo i (script.run (solo i)).2) (script.run T).2 := by
  induction script generalizing solo T with
  | done result =>
    refine ⟨rfl, ?_⟩
    change Overlay t land (Function.update solo i (solo i)) T
    rwa [Function.update_eq_self]
  | step op next ih =>
    obtain ⟨hanswer, hoverlay⟩ := h.perform hclear hscript.1
    have hrest := ih ((solo i).perform op).1 hoverlay (by
      rw [Function.update_self]
      exact hscript.2)
    rw [Function.update_self, Function.update_idem] at hrest
    rw [Script.run_step, Script.run_step, hanswer]
    exact hrest

end MutuallyClear

/-! ## Tasks -/

/-- How far tasks have come: what is left of each of them, done on the tree that it made alone,
leads to where its script leads alone. -/
structure OnCourse (t : FileTree) (land : Nat → Territory) (scripts : List (Script α))
    (tasks : List (Task α)) (solo : Nat → FileTree) (T : FileTree) : Prop where
  overlay : Overlay t land solo T
  undisturbed : ∀ (i : Nat) (task : Task α), tasks[i]? = some task →
    task.script.Undisturbed (land i) (solo i)
  run_eq : ∀ i : Nat, tasks[i]?.map (fun task => task.script.run (solo i)) =
    scripts[i]?.map fun script => script.run t
  idle : ∀ i : Nat, tasks[i]? = none → solo i = t

variable {scripts : List (Script α)} {tasks : List (Task α)}

/-- A turn of the schedule does nothing, starts a task or performs an operation of a task. -/
lemma turn_cases (limit : Nat) (tasks : List (Task α)) (index : Nat) :
    turn limit tasks index = pure tasks ∨
      (∃ script, tasks[index]? = some (.waiting script) ∧
        turn limit tasks index = pure (tasks.set index (.running script))) ∨
      ∃ op next, tasks[index]? = some (.running (.step op next)) ∧
        turn limit tasks index =
          Script.perform op >>= fun answer => pure (tasks.set index (.running (next answer))) := by
  unfold turn
  cases htask : tasks[index]? with
  | none => exact Or.inl rfl
  | some task =>
    cases task with
    | waiting script =>
      dsimp only
      by_cases hfree : tasks.countP Task.isActive < max limit 1
      · rw [if_pos hfree]
        exact Or.inr (Or.inl ⟨script, rfl, rfl⟩)
      · rw [if_neg hfree]
        exact Or.inl rfl
    | running script =>
      cases script with
      | done result => exact Or.inl rfl
      | step op next => exact Or.inr (Or.inr ⟨op, next, rfl, rfl⟩)

/-- One task goes on, and the others stay where they are. -/
lemma OnCourse.set (h : OnCourse t land scripts tasks solo T) {index : Nat} {task task' : Task α}
    {s : FileTree} (htask : tasks[index]? = some task)
    (hoverlay : Overlay t land (Function.update solo index s) T')
    (hundisturbed : task'.script.Undisturbed (land index) s)
    (hrun : task'.script.run s = task.script.run (solo index)) :
    OnCourse t land scripts (tasks.set index task') (Function.update solo index s) T' := by
  have hlt : index < tasks.length := (List.getElem?_eq_some_iff.1 htask).1
  refine ⟨hoverlay, fun i other hi => ?_, fun i => ?_, fun i hi => ?_⟩
  · by_cases heq : i = index
    · subst heq
      rw [List.getElem?_set_self hlt, Option.some.injEq] at hi
      subst hi
      rwa [Function.update_self]
    · rw [List.getElem?_set_ne (Ne.symm heq)] at hi
      rw [Function.update_of_ne heq]
      exact h.undisturbed i other hi
  · by_cases heq : i = index
    · subst heq
      rw [← h.run_eq i, List.getElem?_set_self hlt, htask, Function.update_self, Option.map_some,
        Option.map_some, hrun]
    · rw [List.getElem?_set_ne (Ne.symm heq), Function.update_of_ne heq]
      exact h.run_eq i
  · have heq : i ≠ index := by
      rintro rfl
      simp [hlt] at hi
    rw [List.getElem?_set_ne (Ne.symm heq)] at hi
    rw [Function.update_of_ne heq]
    exact h.idle i hi

lemma onCourse_waiting (h : ∀ (i : Nat) (script : Script α), scripts[i]? = some script →
    script.Undisturbed (land i) t) :
    OnCourse t land scripts (scripts.map Task.waiting) (fun _ => t) t := by
  refine ⟨.refl t land, fun i task hi => ?_, fun i => ?_, fun _ _ => rfl⟩
  · rw [List.getElem?_map, Option.map_eq_some_iff] at hi
    obtain ⟨script, hscript, rfl⟩ := hi
    exact h i script hscript
  · rw [List.getElem?_map, Option.map_map]
    rfl

section Run

variable (hclear : MutuallyClear land)

include hclear

/-- A turn of the schedule keeps all tasks on course. -/
lemma OnCourse.turn (h : OnCourse t land scripts tasks solo T) (limit index : Nat) :
    ∃ tasks' solo' T', (turn limit tasks index).run T = (tasks', T') ∧
      OnCourse t land scripts tasks' solo' T' := by
  rcases turn_cases limit tasks index with heq | ⟨script, htask, heq⟩ | ⟨op, next, htask, heq⟩
  · rw [heq]
    exact ⟨tasks, solo, T, rfl, h⟩
  · rw [heq]
    have hself : Function.update solo index (solo index) = solo := Function.update_eq_self ..
    have hscript : script.Undisturbed (land index) (solo index) := h.undisturbed index _ htask
    exact ⟨_, _, T, rfl, h.set htask (hself.symm ▸ h.overlay) hscript rfl⟩
  · rw [heq, Script.run_bind, Script.run_perform]
    have hscript := h.undisturbed index _ htask
    obtain ⟨hanswer, hoverlay⟩ := h.overlay.perform hclear hscript.1
    rw [hanswer]
    exact ⟨_, _, _, rfl, h.set htask hoverlay hscript.2 rfl⟩

lemma OnCourse.schedule (h : OnCourse t land scripts tasks solo T) (limit : Nat)
    (schedule : List Nat) :
    ∃ tasks' solo' T', (schedule.foldlM (Batch.turn limit) tasks).run T = (tasks', T') ∧
      OnCourse t land scripts tasks' solo' T' := by
  induction schedule generalizing tasks solo T with
  | nil => exact ⟨tasks, solo, T, rfl, h⟩
  | cons index rest ih =>
    obtain ⟨tasks', solo', T', hturn, h'⟩ := h.turn hclear limit index
    rw [List.foldlM_cons, Script.run_bind, hturn]
    exact ih h'

/-- Tasks that are run to their ends, the first of them that of the owner `start`. -/
lemma Overlay.finish (h : Overlay t land solo T) (start : Nat)
    (hundisturbed : ∀ (i : Nat) (task : Task α), tasks[i]? = some task →
      task.script.Undisturbed (land (start + i)) (solo (start + i))) :
    ∃ results solo' T', (tasks.mapM Task.script).run T = (results, T') ∧
      Overlay t land solo' T' ∧ (∀ i, i < start → solo' i = solo i) ∧
      ∀ i : Nat, results[i]? =
          tasks[i]?.map (fun task => (task.script.run (solo (start + i))).1) ∧
        solo' (start + i) =
          (tasks[i]?.map fun task => (task.script.run (solo (start + i))).2).getD
            (solo (start + i)) := by
  induction tasks generalizing start solo T with
  | nil => exact ⟨[], solo, T, rfl, h, fun _ _ => rfl, fun i => by simp⟩
  | cons task rest ih =>
    obtain ⟨hresult, hoverlay⟩ := h.run hclear (hundisturbed 0 task rfl)
    rw [Nat.add_zero] at hresult hoverlay
    have hlater : ∀ i, Function.update solo start (task.script.run (solo start)).2
        (start + 1 + i) = solo (start + (i + 1)) := by
      intro i
      rw [Function.update_of_ne (by omega), Nat.add_assoc, Nat.add_comm 1 i]
    obtain ⟨results, solo', T', hrun, hrest, hearlier, hresults⟩ := ih hoverlay (start + 1)
      fun i other hi => by
        rw [hlater, Nat.add_assoc, Nat.add_comm 1 i]
        exact hundisturbed (i + 1) other hi
    refine ⟨(task.script.run T).1 :: results, solo', T', ?_, hrest, fun i hi => ?_, fun i => ?_⟩
    · simp only [List.mapM_cons, Script.run_bind, Script.run_pure, hrun]
    · rw [hearlier i (by omega), Function.update_of_ne (by omega)]
    · cases i with
      | zero =>
        refine ⟨congrArg some hresult, ?_⟩
        rw [Nat.add_zero, hearlier start (by omega), Function.update_self]
        rfl
      | succ i =>
        have hi := hresults i
        rwa [hlater, Nat.add_assoc, Nat.add_comm 1 i] at hi

/-- Each script has the result that it has alone, and the shared tree is the overlay of the trees
that they leave alone: nothing is left of the schedule. -/
lemma runScheduled_eq (hscripts : ∀ (i : Nat) (script : Script α), scripts[i]? = some script →
      script.Undisturbed (land i) t) (limit : Nat) (schedule : List Nat) :
    (runScheduled limit schedule scripts t).1 = scripts.map (fun script => (script.run t).1) ∧
      Overlay t land (fun i => (scripts[i]?.map fun script => (script.run t).2).getD t)
        (runScheduled limit schedule scripts t).2 := by
  obtain ⟨tasks, solo, T, hschedule, hcourse⟩ :=
    (onCourse_waiting hscripts).schedule hclear limit schedule
  obtain ⟨results, solo', T', hfinish, hoverlay, -, hends⟩ :=
    hcourse.overlay.finish hclear 0 fun i task hi => by
      rw [Nat.zero_add]
      exact hcourse.undisturbed i task hi
  have hrun : runScheduled limit schedule scripts t = (results, T') := by
    rw [runScheduled, sideBySide, Script.run_bind, hschedule, hfinish]
  simp only [Nat.zero_add] at hends
  rw [hrun]
  constructor
  · refine List.ext_getElem? fun i => ?_
    have hi := congrArg (Option.map Prod.fst) (hcourse.run_eq i)
    rw [Option.map_map, Option.map_map] at hi
    rw [List.getElem?_map]
    exact (hends i).1.trans hi
  · have hsolo : solo' = fun i => (scripts[i]?.map fun script => (script.run t).2).getD t := by
      funext i
      have hi := congrArg (Option.map Prod.snd) (hcourse.run_eq i)
      rw [Option.map_map, Option.map_map] at hi
      rw [(hends i).2]
      refine Eq.trans ?_ (congrArg (Option.getD · t) hi)
      cases htask : tasks[i]? with
      | none => exact hcourse.idle i htask
      | some task => rfl
    rw [← hsolo]
    exact hoverlay

end Run

end Batch

end Blueprint
