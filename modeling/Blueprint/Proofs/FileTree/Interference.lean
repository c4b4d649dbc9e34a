import Blueprint.FileTree.Script
import Blueprint.Proofs.FileTree.Directories

/-!
# Work that does not interfere

Several workers share a tree.  Each of them has a territory, and this file says when a file
operation of one worker does the same in the shared tree as in the tree that the worker would have
for itself.

The shared tree `T` *extends* the worker's own tree `s`: they agree at the places it owns or
watches, and above the places it owns others may at most have created directories.  An operation is
*undisturbed* at `s` if in each such `T` it has the same answer and makes the same changes.  And the
operation is *confined*: it changes nothing but owned places and missing directories above them,
which is what lets other workers see an extension of their own trees in turn.

A path that goes up again from a missing directory looks at places that are not above its end.
Whoever reads by such a path has to watch these detours; whoever creates its directories has to own
them.
-/

namespace Blueprint.FileTree

/-- The places that a worker works at, and those that it only looks at. -/
structure Territory where
  own : List Place
  watched : List Place

variable {land : Territory} {own : List Place} {s s' s'' t T T' T'' : FileTree} {x : Place}
  {p q : Path}

/-! ## Trees of workers -/

/-- The tree `T` looks like `s` to the worker of a territory. -/
structure Extends (land : Territory) (s T : FileTree) : Prop where
  same : ∀ o ∈ land.own, T.get? o = s.get? o
  watched : ∀ w ∈ land.watched, T.get? w = s.get? w
  grown : ∀ o ∈ land.own, ∀ x, x <+: o →
    T.get? x = s.get? x ∨ (s.get? x = none ∧ T.get? x = some .directory)
  kept : ∀ x, s.get? x = some .directory → T.get? x = some .directory

/-- What changes from `s` to `s'` changes in the same way from `T` to `T'`, and nothing else. -/
structure Mirrors (s s' T T' : FileTree) : Prop where
  changed : ∀ x, s'.get? x ≠ s.get? x → T'.get? x = s'.get? x
  unchanged : ∀ x, s'.get? x = s.get? x → T'.get? x = T.get? x

lemma Extends.refl (land : Territory) (s : FileTree) : Extends land s s :=
  ⟨fun _ _ => rfl, fun _ _ => rfl, fun _ _ _ _ => Or.inl rfl, fun _ h => h⟩

/-- Directories and owned places are the same in both trees. -/
lemma Extends.get?_eq (h : Extends land s T)
    (hx : s.get? x = some .directory ∨ x ∈ land.own) : T.get? x = s.get? x := by
  rcases hx with hdirectory | hown
  · exact (h.kept x hdirectory).trans hdirectory.symm
  · exact h.same x hown

lemma Mirrors.refl (s T : FileTree) : Mirrors s s T T :=
  ⟨fun _ h => absurd rfl h, fun _ _ => rfl⟩

/-- The owner of some places turned `s` into `s'`. -/
structure Confined (own : List Place) (s s' : FileTree) : Prop where
  outside : ∀ x, s'.get? x = s.get? x ∨ x ∈ own ∨
    (s.get? x = none ∧ s'.get? x = some .directory ∧ ∃ o ∈ own, x <+: o)
  kept : ∀ x, s.get? x = some .directory → s'.get? x = some .directory

lemma Confined.refl (own : List Place) (s : FileTree) : Confined own s s :=
  ⟨fun _ => Or.inl rfl, fun _ h => h⟩

lemma Confined.trans (h : Confined own s s') (h' : Confined own s' s'') : Confined own s s'' := by
  refine ⟨fun x => ?_, fun x hx => h'.kept x (h.kept x hx)⟩
  rcases h.outside x with heq | hown | ⟨hnone, hmade, habove⟩
  · rw [← heq]
    exact h'.outside x
  · exact Or.inr (Or.inl hown)
  · exact Or.inr (Or.inr ⟨hnone, h'.kept x hmade, habove⟩)

/-- What two trees have in common is left in common by changes that mirror each other. -/
lemma Mirrors.get?_eq (h : Mirrors s s' T T') (hx : T.get? x = s.get? x) :
    T'.get? x = s'.get? x := by
  by_cases hkeeps : s'.get? x = s.get? x
  · rw [h.unchanged x hkeeps, hx, hkeeps]
  · exact h.changed x hkeeps

/-- Who sees an extension still does so after changes that are mirrored there. -/
lemma Extends.step (h : Extends land s T) (hmirrors : Mirrors s s' T T') : Extends land s' T' := by
  refine ⟨fun o ho => hmirrors.get?_eq (h.same o ho), fun w hw => hmirrors.get?_eq (h.watched w hw),
    fun o ho x hx => ?_, fun x hx => ?_⟩
  · by_cases hkeeps : s'.get? x = s.get? x
    · rw [hmirrors.unchanged x hkeeps, hkeeps]
      exact h.grown o ho x hx
    · exact Or.inl (hmirrors.changed x hkeeps)
  · by_cases hkeeps : s'.get? x = s.get? x
    · rw [hmirrors.unchanged x hkeeps]
      exact h.kept x (hkeeps ▸ hx)
    · rw [hmirrors.changed x hkeeps, hx]

/-- Changes of owned places and new directories can follow one another. -/
lemma Mirrors.trans (hsame : ∀ o ∈ own, T.get? o = s.get? o) (hconfined : Confined own s s')
    (hconfined' : Confined own s' s'') (h : Mirrors s s' T T') (h' : Mirrors s' s'' T' T'') :
    Mirrors s s'' T T'' := by
  refine ⟨fun x hx => ?_, fun x hx => ?_⟩
  · by_cases hkeeps : s''.get? x = s'.get? x
    · rw [h'.unchanged x hkeeps, hkeeps]
      exact h.changed x (hkeeps ▸ hx)
    · exact h'.changed x hkeeps
  · by_cases hkeeps : s'.get? x = s.get? x
    · rw [h'.unchanged x (hx.trans hkeeps.symm), h.unchanged x hkeeps]
    · -- the place was changed and changed back, so it is an owned one
      rcases (hconfined.outside x).resolve_left hkeeps with hown | ⟨hnone, hmade, -⟩
      · rw [h'.get?_eq (h.changed x hkeeps), hx, hsame x hown]
      · have hstands := hconfined'.kept x hmade
        simp [hx, hnone] at hstands

/-- The operation has the same answer and makes the same changes in every tree that looks like `s`
to its worker, and changes only what the worker may change. -/
structure Undisturbed (land : Territory) (op : FileOp) (s : FileTree) : Prop where
  confined : Confined land.own s (s.perform op).2
  answer : ∀ T, Extends land s T → (T.perform op).1 = (s.perform op).1
  mirrors : ∀ T, Extends land s T → Mirrors s (s.perform op).2 T (T.perform op).2

/-- An operation that changes nothing is undisturbed if its answer is. -/
lemma undisturbed_of_unchanged {op : FileOp}
    (h : ∀ T, Extends land s T →
      (T.perform op).1 = (s.perform op).1 ∧ (T.perform op).2 = T) : Undisturbed land op s := by
  have hself : (s.perform op).2 = s := (h s (.refl land s)).2
  refine ⟨?_, fun T hT => (h T hT).1, fun T hT => ?_⟩
  · rw [hself]
    exact .refl land.own s
  · rw [hself, (h T hT).2]
    exact .refl s T

/-! ## Reading -/

/-- A piece that makes a walk depend on places that are not above its end. -/
def goesAstray (piece : String) : Bool :=
  goesUp piece || tooLong piece

/-- Among missing places and directories, a path of proper names is not found or leads on. -/
lemma walk_of_clear {here : Place} {pieces : List String}
    (hshort : ∀ piece ∈ pieces, tooLong piece = false)
    (hclear : ∀ x ∈ trail here pieces, T.get? x = none ∨ T.get? x = some .directory) :
    T.walk here pieces = .error .notFound ∨ T.walk here pieces = .ok (followAll here pieces) := by
  induction pieces generalizing here with
  | nil => exact Or.inr rfl
  | cons piece rest ih =>
    rw [walk_cons, hshort piece List.mem_cons_self]
    rcases hclear here List.mem_cons_self with hnone | hdirectory
    · exact Or.inl (by rw [hnone])
    · simpa [hdirectory] using ih (fun p hp => hshort p (List.mem_cons_of_mem piece hp))
        fun x hx => hclear x (List.mem_cons_of_mem here hx)

/-- A walk in a tree with more directories ends as before, unless something was missing; then it
may get to the end, where nothing stands. -/
lemma walk_of_grown {here : Place} {pieces : List String} (hwell : s.WellFormed)
    (hsame : ∀ x ∈ s.detours goesAstray here pieces, T.get? x = s.get? x)
    (hgrown : ∀ x ∈ trail here pieces,
      T.get? x = s.get? x ∨ (s.get? x = none ∧ T.get? x = some .directory)) :
    T.walk here pieces = s.walk here pieces ∨
      (s.walk here pieces = .error .notFound ∧ T.walk here pieces = .ok (followAll here pieces) ∧
        s.get? (followAll here pieces) = none) := by
  induction pieces generalizing here with
  | nil => exact Or.inl rfl
  | cons piece rest ih =>
    have hrest : ∀ x ∈ s.detours goesAstray (follow here piece) rest, T.get? x = s.get? x :=
      fun x hx => hsame x (mem_detours_cons.2 (Or.inr hx))
    cases hget : s.get? here with
    | none =>
      have hnotFound : s.walk here (piece :: rest) = .error .notFound := by rw [walk_cons, hget]
      by_cases hastray : ∃ p ∈ piece :: rest, goesAstray p = true
      · -- a detour, which is missing in both trees
        have hhere : T.get? here = none :=
          (hsame here (mem_detours_cons.2 (Or.inl ⟨hastray, by simp [hget], rfl⟩))).trans hget
        exact Or.inl (by rw [hnotFound, walk_cons, hhere])
      -- no piece goes astray from here on, so the walk stays below a place where nothing stands
      have hcalm : ∀ p ∈ piece :: rest, goesAstray p = false := fun p hp =>
        Bool.eq_false_iff.2 fun hp' => hastray ⟨p, hp, hp'⟩
      have hshort : ∀ p ∈ piece :: rest, tooLong p = false := fun p hp =>
        (Bool.or_eq_false_iff.1 (hcalm p hp)).2
      have hup : ∀ p ∈ piece :: rest, p ≠ ".." := by
        rintro p hp rfl
        simpa [goesAstray, goesUp] using hcalm ".." hp
      have hnone : ∀ x, here <+: x → s.get? x = none := fun x hx => hwell.none_of_prefix hx hget
      have hclear : ∀ x ∈ trail here (piece :: rest),
          T.get? x = none ∨ T.get? x = some .directory := by
        intro x hx
        have hx' := hnone x (prefix_of_mem_trail hup hx)
        rcases hgrown x hx with heq | ⟨-, hdirectory⟩
        · exact Or.inl (heq.trans hx')
        · exact Or.inr hdirectory
      rcases walk_of_clear hshort hclear with hwalk | hwalk
      · exact Or.inl (hwalk.trans hnotFound.symm)
      · exact Or.inr ⟨hnotFound, hwalk, hnone _ (prefix_followAll hup)⟩
    | some node =>
      have hT : T.get? here = some node := by
        rcases hgrown here List.mem_cons_self with heq | ⟨hnone, -⟩
        · exact heq.trans hget
        · simp [hget] at hnone
      cases node with
      | file data => exact Or.inl (by rw [walk_cons, walk_cons, hget, hT])
      | directory =>
        rw [walk_cons, walk_cons, hget, hT]
        by_cases hlong : tooLong piece = true
        · simp [hlong]
        · simpa [hlong] using ih hrest fun x hx => hgrown x (List.mem_cons_of_mem here hx)

lemma undisturbed_read (hwell : s.WellFormed) (hown : placeOf p ∈ land.own)
    (hdetours : ∀ x ∈ s.detours goesAstray [] p.pieces, x ∈ land.watched) :
    Undisturbed land (.read p) s := by
  refine undisturbed_of_unchanged fun T hT => ⟨?_, rfl⟩
  change T.read p = s.read p
  have hend : T.get? (placeOf p) = s.get? (placeOf p) := hT.same _ hown
  have hsame : ∀ x ∈ s.detours goesAstray [] p.pieces, T.get? x = s.get? x := fun x hx =>
    hT.watched x (hdetours x hx)
  have hgrown : ∀ x ∈ trail [] p.pieces,
      T.get? x = s.get? x ∨ (s.get? x = none ∧ T.get? x = some .directory) := by
    intro x hx
    rcases mem_trail_cases (t := s) hx with hdirectory | hdetour | hlead
    · exact Or.inl (hT.get?_eq (Or.inl hdirectory))
    · exact Or.inl (hsame x (mem_detours_mono (fun p hp => by simp [goesAstray, hp]) hdetour))
    · exact hT.grown _ hown x hlead
  rw [read_eq, read_eq]
  cases checkPath p with
  | error fault => rfl
  | ok _ =>
    rcases walk_of_grown hwell hsame hgrown with hwalk | ⟨hnotFound, hwalk, hnone⟩
    · rw [hwalk]
      cases hthere : s.walk [] p.pieces with
      | error fault => rfl
      | ok there =>
        obtain rfl := eq_followAll_of_walk hthere
        rw [placeOf] at hend
        simp only [hend]
    · rw [placeOf] at hend
      simp only [hwalk, hnotFound, hend, hnone]

/-! ## Operations on owned files -/

/-- An operation on `s` and on `T` that has the same fault in both or changes owned places in the
same way. -/
inductive StepsAlike (own : List Place) (s T : FileTree) :
    Except OsFault FileTree → Except OsFault FileTree → Prop
  | fault (fault : OsFault) : StepsAlike own s T (.error fault) (.error fault)
  | done {s' T' : FileTree} (hs : ∀ x, x ∉ own → s'.get? x = s.get? x)
      (hT : ∀ x, x ∉ own → T'.get? x = T.get? x) (hown : ∀ o ∈ own, T'.get? o = s'.get? o)
      (hkept : ∀ x, s.get? x = some .directory → s'.get? x = some .directory) :
      StepsAlike own s T (.ok s') (.ok T')

/-- Steps that are alike are confined to owned places and mirror each other. -/
lemma StepsAlike.confined_mirrors (h : StepsAlike own s T (.ok s') (.ok T'))
    (hsame : ∀ o ∈ own, T.get? o = s.get? o) : Confined own s s' ∧ Mirrors s s' T T' := by
  cases h with
  | done hs hT hown hkept =>
    refine ⟨⟨fun x => ?_, hkept⟩, fun x hx => ?_, fun x hx => ?_⟩
    · by_cases hmem : x ∈ own
      · exact Or.inr (Or.inl hmem)
      · exact Or.inl (hs x hmem)
    · by_cases hmem : x ∈ own
      · exact hown x hmem
      · exact absurd (hs x hmem) hx
    · by_cases hmem : x ∈ own
      · exact (hown x hmem).trans (hx.trans (hsame x hmem).symm)
      · exact hT x hmem

/-- Operations that step alike in all trees that look alike are undisturbed. -/
lemma after_undisturbed {f : FileTree → Except OsFault FileTree}
    (h : ∀ T, Extends land s T → StepsAlike land.own s T (f s) (f T)) :
    Confined land.own s (s.after (f s)).2 ∧
      (∀ T, Extends land s T → (T.after (f T)).1 = (s.after (f s)).1) ∧
      ∀ T, Extends land s T → Mirrors s (s.after (f s)).2 T (T.after (f T)).2 := by
  refine ⟨?_, fun T hT => ?_, fun T hT => ?_⟩
  · have hself := h s (.refl land s)
    cases hstep : f s with
    | error fault => exact .refl land.own s
    | ok s' =>
      rw [hstep] at hself
      exact (hself.confined_mirrors fun _ _ => rfl).1
  · have hstep := h T hT
    generalize f s = result, f T = result' at hstep ⊢
    cases hstep <;> rfl
  · have hstep := h T hT
    generalize f s = result, f T = result' at hstep ⊢
    cases hstep with
    | fault fault => exact .refl s T
    | done hs hT' hown hkept =>
      exact ((StepsAlike.done hs hT' hown hkept).confined_mirrors hT.same).2

/-- A path that passes only directories and owned places ends for others as it does for its
worker. -/
lemma Extends.locateEnd_eq (h : Extends land s T)
    (htrail : ∀ x ∈ trail [] p.pieces, s.get? x = some .directory ∨ x ∈ land.own) :
    T.locateEnd p = s.locateEnd p :=
  locateEnd_congr fun x hx => h.get?_eq (htrail x hx)

lemma Extends.hasDirectory_eq (h : Extends land s T) (hx : x ∈ land.own) :
    T.hasDirectory x = s.hasDirectory x := by
  rw [hasDirectory, hasDirectory, h.same x hx]

section Changes

variable {place : Place} (hsame : ∀ o ∈ own, T.get? o = s.get? o) (hplace : place ≠ [])
  (hown : place ∈ own) (hfree : ¬ s.hasDirectory place = true)

include hsame hplace hown hfree

/-- Something is put where no directory stands. -/
lemma stepsAlike_put (node : Node) :
    StepsAlike own s T (.ok (s.put place node)) (.ok (T.put place node)) := by
  have hne : ∀ x, x ∉ own → x ≠ place := fun x hx heq => hx (heq ▸ hown)
  refine .done (fun x hx => ?_) (fun x hx => ?_) (fun o ho => ?_) fun x hx => ?_
  · rw [get?_put s hplace, if_neg (hne x hx)]
  · rw [get?_put T hplace, if_neg (hne x hx)]
  · rw [get?_put s hplace, get?_put T hplace, hsame o ho]
  · have hxne : x ≠ place := fun heq => hfree (hasDirectory_iff.2 (heq ▸ hx))
    rw [get?_put s hplace, if_neg hxne, hx]

/-- Something other than a directory is taken away. -/
lemma stepsAlike_erase : StepsAlike own s T (.ok (s.erase place)) (.ok (T.erase place)) := by
  have hne : ∀ x, x ∉ own → x ≠ place := fun x hx heq => hx (heq ▸ hown)
  refine .done (fun x hx => ?_) (fun x hx => ?_) (fun o ho => ?_) fun x hx => ?_
  · rw [get?_erase s hplace, if_neg (hne x hx)]
  · rw [get?_erase T hplace, if_neg (hne x hx)]
  · rw [get?_erase s hplace, get?_erase T hplace, hsame o ho]
  · have hxne : x ≠ place := fun heq => hfree (hasDirectory_iff.2 (heq ▸ hx))
    rw [get?_erase s hplace, if_neg hxne, hx]

end Changes

/-- Steps that are alike can follow one another. -/
lemma StepsAlike.trans {result result' : Except OsFault FileTree}
    (h : StepsAlike own s T (.ok s') (.ok T'))
    (hnext : (∀ o ∈ own, T'.get? o = s'.get? o) → StepsAlike own s' T' result result') :
    StepsAlike own s T result result' := by
  cases h with
  | done hs hT hown hkept =>
    cases hnext hown with
    | fault fault => exact .fault fault
    | done hs' hT' hown' hkept' =>
      exact .done (fun x hx => (hs' x hx).trans (hs x hx)) (fun x hx => (hT' x hx).trans (hT x hx))
        hown' fun x hx => hkept' x (hkept x hx)

/-- Steps that start from the end of the same path are alike if they are so for each end. -/
lemma StepsAlike.bind {located : Except OsFault PathEnd} {f g : PathEnd → Except OsFault FileTree}
    (h : ∀ pathEnd, located = .ok pathEnd → StepsAlike own s T (f pathEnd) (g pathEnd)) :
    StepsAlike own s T (located >>= f) (located >>= g) := by
  cases located with
  | error fault => exact .fault fault
  | ok pathEnd => exact h pathEnd rfl

lemma undisturbed_write (data : ByteArray) (hown : placeOf p ∈ land.own)
    (htrail : ∀ x ∈ trail [] p.pieces, s.get? x = some .directory ∨ x ∈ land.own) :
    Undisturbed land (.write p data) s := by
  have hstep : ∀ T, Extends land s T →
      StepsAlike land.own s T (s.write p data) (T.write p data) := by
    intro T hT
    unfold write
    rw [hT.locateEnd_eq htrail]
    refine .bind fun pathEnd hend => ?_
    cases pathEnd with
    | dots => exact .fault .isDirectory
    | name directory name slashed =>
      rw [placeOf_of_locateEnd hend] at hown
      dsimp only
      rw [hT.hasDirectory_eq hown]
      by_cases hrefused : (slashed || s.hasDirectory (directory ++ [name])) = true
      · rw [if_pos hrefused, if_pos hrefused]
        exact .fault .isDirectory
      · rw [if_neg hrefused, if_neg hrefused]
        rw [Bool.or_eq_true, not_or] at hrefused
        exact stepsAlike_put hT.same (by simp) hown hrefused.2 _
  obtain ⟨hconfined, hanswer, hmirrors⟩ := after_undisturbed (f := fun t => t.write p data) hstep
  exact ⟨hconfined, hanswer, hmirrors⟩

lemma undisturbed_remove (hown : placeOf p ∈ land.own)
    (htrail : ∀ x ∈ trail [] p.pieces, s.get? x = some .directory ∨ x ∈ land.own) :
    Undisturbed land (.remove p) s := by
  have hstep : ∀ T, Extends land s T → StepsAlike land.own s T (s.remove p) (T.remove p) := by
    intro T hT
    unfold remove
    rw [hT.locateEnd_eq htrail]
    refine .bind fun pathEnd hend => ?_
    cases pathEnd with
    | dots => exact .fault .isDirectory
    | name directory name slashed =>
      rw [placeOf_of_locateEnd hend] at hown
      dsimp only
      rw [hT.same _ hown]
      cases hget : s.get? (directory ++ [name]) with
      | none => exact .fault .notFound
      | some node =>
        cases node with
        | directory => exact .fault .isDirectory
        | file data =>
          cases slashed with
          | true => exact .fault .notDirectory
          | false =>
            exact stepsAlike_erase hT.same (by simp) hown (by simp [hasDirectory_iff, hget])
  obtain ⟨hconfined, hanswer, hmirrors⟩ := after_undisturbed (f := fun t => t.remove p) hstep
  exact ⟨hconfined, hanswer, hmirrors⟩

lemma undisturbed_rename (hpown : placeOf p ∈ land.own) (hqown : placeOf q ∈ land.own)
    (hptrail : ∀ x ∈ trail [] p.pieces, s.get? x = some .directory ∨ x ∈ land.own)
    (hqtrail : ∀ x ∈ trail [] q.pieces, s.get? x = some .directory ∨ x ∈ land.own) :
    Undisturbed land (.rename p q) s := by
  have hstep : ∀ T, Extends land s T →
      StepsAlike land.own s T (s.rename p q) (T.rename p q) := by
    intro T hT
    unfold rename
    rw [hT.locateEnd_eq hptrail, hT.locateEnd_eq hqtrail]
    refine .bind fun old hp => .bind fun new hq => ?_
    cases old with
    | dots => exact .fault .busy
    | name directory name slashed =>
      cases new with
      | dots => exact .fault .busy
      | name directory' name' slashed' =>
        rw [placeOf_of_locateEnd hp] at hpown
        rw [placeOf_of_locateEnd hq] at hqown
        dsimp only
        rw [hT.same _ hpown, hT.hasDirectory_eq hqown]
        cases hget : s.get? (directory ++ [name]) with
        | none => exact .fault .notFound
        | some node =>
          cases node with
          | directory => exact .fault .exists
          | file data =>
            dsimp only
            by_cases hslashed : (slashed || slashed') = true
            · rw [if_pos hslashed, if_pos hslashed]
              exact .fault .notDirectory
            · rw [if_neg hslashed, if_neg hslashed]
              by_cases hdirectory : s.hasDirectory (directory' ++ [name']) = true
              · rw [if_pos hdirectory, if_pos hdirectory]
                exact .fault .isDirectory
              · rw [if_neg hdirectory, if_neg hdirectory]
                -- the old name is taken away first, then the new one is put in place
                refine (stepsAlike_erase hT.same (by simp) hpown
                  (by simp [hasDirectory_iff, hget])).trans fun hsame => ?_
                refine stepsAlike_put hsame (by simp) hqown ?_ _
                rw [hasDirectory_iff] at hdirectory ⊢
                rw [get?_erase s (by simp)]
                by_cases heq : directory' ++ [name'] = directory ++ [name]
                · simp [heq]
                · rwa [if_neg heq]
  obtain ⟨hconfined, hanswer, hmirrors⟩ := after_undisturbed (f := fun t => t.rename p q) hstep
  exact ⟨hconfined, hanswer, hmirrors⟩

/-! ## Creating directories -/

/-- Names that are created below a directory, in a tree and in one with more directories.  Below the
first name that is missing in `s` nothing stands there, so no file is in the way in either tree. -/
lemma makeAll_of_grown {here : Place} {names : List String} (created : Bool) (hwell : s.WellFormed)
    (hgrown : ∀ x, x <+: here ++ names →
      T.get? x = s.get? x ∨ (s.get? x = none ∧ T.get? x = some .directory)) :
    (T.makeAll created here names).2 = (s.makeAll created here names).2 ∧
      Mirrors s (s.makeAll created here names).1 T (T.makeAll created here names).1 := by
  induction names generalizing here with
  | nil => exact ⟨rfl, .refl s T⟩
  | cons name rest ih =>
    have hnames : here ++ name :: rest = here ++ [name] ++ rest := by simp
    have hfirst := hgrown (here ++ [name]) (hnames ▸ List.prefix_append _ _)
    by_cases hlong : tooLong name = true
    · rw [makeAll_cons_of_long hlong, makeAll_cons_of_long hlong]
      exact ⟨rfl, .refl s T⟩
    · cases hget : s.get? (here ++ [name]) with
      | none =>
        have hnone : ∀ x ∈ made here (name :: rest), s.get? x = none := by
          intro x hx
          rw [made_cons_of_short hlong, List.mem_cons] at hx
          rcases hx with rfl | hx
          · exact hget
          · exact hwell.none_of_prefix (mem_made hx).1 hget
        have hclear : ∀ x ∈ made here (name :: rest), ∀ data, s.get? x ≠ some (.file data) := by
          intro x hx data
          simp [hnone x hx]
        have hclear' : ∀ x ∈ made here (name :: rest), ∀ data, T.get? x ≠ some (.file data) := by
          intro x hx data
          rcases hgrown x (mem_made hx).2 with heq | ⟨-, hdirectory⟩
          · simp [heq, hnone x hx]
          · simp [hdirectory]
        obtain ⟨hanswer, htree⟩ := makeAll_of_clear created hclear
        obtain ⟨hanswer', htree'⟩ := makeAll_of_clear created hclear'
        refine ⟨hanswer'.trans hanswer.symm, fun x hx => ?_, fun x hx => ?_⟩
        · rw [htree] at hx ⊢
          rw [htree']
          by_cases hmem : x ∈ made here (name :: rest)
          · rw [if_pos hmem, if_pos hmem]
          · exact absurd (if_neg hmem) hx
        · rw [htree] at hx
          have hmem : x ∉ made here (name :: rest) := by
            intro hmem
            rw [if_pos hmem, hnone x hmem] at hx
            cases hx
          rw [htree', if_neg hmem]
      | some node =>
        have hT : T.get? (here ++ [name]) = some node := by
          rcases hfirst with heq | ⟨hnone, -⟩
          · exact heq.trans hget
          · simp [hget] at hnone
        cases node with
        | file data =>
          rw [makeAll_cons_of_file hlong hget, makeAll_cons_of_file hlong hT]
          exact ⟨rfl, .refl s T⟩
        | directory =>
          rw [makeAll_cons_of_directory hlong hget, makeAll_cons_of_directory hlong hT]
          exact ih (hnames ▸ hgrown)

/-- What is done to `s` is done to `T` as well: the answers are the same, only what a worker may
change changes, and the changes mirror each other. -/
structure ActsAlike (own : List Place) (s T : FileTree)
    (r r' : FileTree × Except OsFault Unit) : Prop where
  answer : r'.2 = r.2
  confined : Confined own s r.1
  mirrors : Mirrors s r.1 T r'.1

lemma ActsAlike.refl (own : List Place) (s T : FileTree) (answer : Except OsFault Unit) :
    ActsAlike own s T (s, answer) (T, answer) :=
  ⟨rfl, .refl own s, .refl s T⟩

/-- What is done next to both trees is only of interest if nothing has failed. -/
lemma ActsAlike.onSuccess {next : FileTree → FileTree × Except OsFault Unit}
    {r r' : FileTree × Except OsFault Unit} (hsame : ∀ o ∈ own, T.get? o = s.get? o)
    (h : ActsAlike own s T r r')
    (hnext : r.2 = .ok () → ActsAlike own r.1 r'.1 (next r.1) (next r'.1)) :
    ActsAlike own s T (onSuccess next r) (onSuccess next r') := by
  obtain ⟨s', answer⟩ := r
  obtain ⟨T', answer'⟩ := r'
  obtain rfl : answer' = answer := h.answer
  cases answer' with
  | error fault => exact h
  | ok _ =>
    have hrest := hnext rfl
    exact ⟨hrest.answer, h.confined.trans hrest.confined,
      h.mirrors.trans hsame h.confined hrest.confined hrest.mirrors⟩

lemma makeAll_alike {here : Place} {names : List String} (hT : Extends land s T)
    (hwell : s.WellFormed)
    (habove : (∃ o ∈ land.own, here ++ names <+: o) ∨
      ∀ x, x <+: here ++ names → s.get? x = some .directory) (created : Bool) :
    ActsAlike land.own s T (s.makeAll created here names) (T.makeAll created here names) := by
  have hgrown : ∀ x, x <+: here ++ names →
      T.get? x = s.get? x ∨ (s.get? x = none ∧ T.get? x = some .directory) := by
    intro x hx
    rcases habove with ⟨o, ho, hbelow⟩ | hdirectory
    · exact hT.grown o ho x (hx.trans hbelow)
    · exact Or.inl (hT.get?_eq (Or.inl (hdirectory x hx)))
  obtain ⟨hanswer, hmirrors⟩ := makeAll_of_grown created hwell hgrown
  refine ⟨hanswer, ⟨fun x => ?_, fun x hx => directory_makeAll created here names hx⟩, hmirrors⟩
  rcases get?_makeAll created here names x with heq | ⟨hnone, hmade, hlead⟩
  · exact Or.inl heq
  · rcases habove with ⟨o, ho, hbelow⟩ | hdirectory
    · exact Or.inr (Or.inr ⟨hnone, hmade, o, ho, hlead.trans hbelow⟩)
    · simp [hdirectory x hlead] at hnone

section Settled

/-! Where all places of a path are directories or owned, the path is the same for others as for its
worker, and so are the paths above it. -/

variable {pieces : List String} {paths : List Path} (hT : Extends land s T)
  (hsettled : ∀ lead, lead <+: pieces →
    s.get? (followAll [] lead) = some .directory ∨ followAll [] lead ∈ land.own)

include hT hsettled

lemma Extends.get?_trail (hp : p.pieces <+: pieces) (hx : x ∈ trail [] p.pieces) :
    T.get? x = s.get? x := by
  obtain ⟨lead, rest, heq, rfl⟩ := exists_lead_of_mem_trail hx
  exact hT.get?_eq (hsettled lead ((heq ▸ List.prefix_append lead rest).trans hp))

lemma Extends.enter_eq (hp : p.pieces <+: pieces) : T.enter p.pieces = s.enter p.pieces := by
  refine walk_congr fun x hx => ?_
  rw [trail_append, List.mem_append] at hx
  rcases hx with hx | hx
  · exact hT.get?_trail hsettled hp hx
  · rw [List.mem_singleton.1 hx]
    exact hT.get?_eq (hsettled p.pieces hp)

lemma Extends.isDirectory_eq (hp : p.pieces <+: pieces) : T.isDirectory p = s.isDirectory p := by
  cases hcheck : checkPath p with
  | error fault => simp [isDirectory, locate, hcheck, bind, Except.bind]
  | ok _ =>
    rw [FileTree.isDirectory_eq hcheck, FileTree.isDirectory_eq hcheck, hT.enter_eq hsettled hp]

lemma stepsAlike_createDir (hp : p.pieces <+: pieces) :
    StepsAlike land.own s T (s.createDir p) (T.createDir p) := by
  unfold createDir
  rw [locateEnd_congr fun x hx => hT.get?_trail hsettled hp hx]
  refine .bind fun pathEnd hend => ?_
  cases pathEnd with
  | dots => exact .fault .exists
  | name directory name slashed =>
    have hplace : followAll [] p.pieces = directory ++ [name] := placeOf_of_locateEnd hend
    have hown := hsettled p.pieces hp
    rw [hplace] at hown
    dsimp only
    rw [hT.get?_eq hown]
    by_cases hsome : (s.get? (directory ++ [name])).isSome = true
    · rw [if_pos hsome, if_pos hsome]
      exact .fault .exists
    · rw [if_neg hsome, if_neg hsome]
      have hfree : ¬ s.get? (directory ++ [name]) = some .directory := fun heq =>
        hsome (by simp [heq])
      exact stepsAlike_put hT.same (by simp) (hown.resolve_left hfree)
        (fun hdirectory => hfree (hasDirectory_iff.1 hdirectory)) _

lemma createDir_notFound_iff (hp : p.pieces <+: pieces) :
    T.createDir p = .error .notFound ↔ s.createDir p = .error .notFound := by
  have hstep := stepsAlike_createDir hT hsettled hp
  generalize s.createDir p = result, T.createDir p = result' at hstep ⊢
  cases hstep <;> simp

lemma createEach_singleton_alike (hp : p.pieces <+: pieces) :
    ActsAlike land.own s T (s.createEach [p]) (T.createEach [p]) := by
  have hstep := stepsAlike_createDir hT hsettled hp
  unfold createEach
  rw [hT.isDirectory_eq hsettled hp]
  generalize s.createDir p = result, T.createDir p = result' at hstep ⊢
  cases hstep with
  | fault fault =>
    dsimp only
    by_cases hthere : (fault = .exists && s.isDirectory p) = true
    · rw [if_pos hthere, if_pos hthere]
      exact .refl land.own s T (.ok ())
    · rw [if_neg hthere, if_neg hthere]
      exact .refl land.own s T (.error fault)
  | done hs hT' hown hkept =>
    obtain ⟨hconfined, hmirrors⟩ :=
      (StepsAlike.done hs hT' hown hkept).confined_mirrors hT.same
    exact ⟨rfl, hconfined, hmirrors⟩

/-- Directories that a path goes through on its way are created for others as for its worker. -/
lemma createFrom_alike (hpaths : ∀ p ∈ paths, p.pieces <+: pieces) :
    ActsAlike land.own s T (s.createFrom paths) (T.createFrom paths) := by
  induction paths with
  | nil => exact .refl land.own s T (.ok ())
  | cons p above ih =>
    obtain ⟨hp, habove⟩ := List.forall_mem_cons.1 hpaths
    by_cases htried : IsTried p
    · by_cases hmissing : s.createDir p = .error .notFound
      · rw [createFrom_cons_of_notFound htried hmissing, createFrom_cons_of_notFound htried
          ((createDir_notFound_iff hT hsettled hp).2 hmissing)]
        have hrest := ih habove
        refine hrest.onSuccess hT.same fun _ => ?_
        refine createEach_singleton_alike (hT.step hrest.mirrors) (fun lead hlead => ?_) hp
        exact (hsettled lead hlead).imp_left (hrest.confined.kept _)
      · rw [createFrom_cons_of_ne htried hmissing, createFrom_cons_of_ne htried
          (fun heq => hmissing ((createDir_notFound_iff hT hsettled hp).1 heq))]
        exact createEach_singleton_alike hT hsettled hp
    · have htop : (p.text = "" || p.parent?.isNone) = true := Bool.not_eq_false _ ▸ htried
      rw [createFrom, createFrom, createHighest, createHighest, if_pos htop, if_pos htop]
      exact .refl land.own s T (.ok ())

end Settled

lemma descend_alike {base : Path} {above : List Path} {names : List String} (hT : Extends land s T)
    (hwell : s.WellFormed)
    (hsettled : ∀ lead, lead <+: base.pieces →
      s.get? (followAll [] lead) = some .directory ∨ followAll [] lead ∈ land.own)
    (hpaths : ∀ r ∈ base :: above, r.pieces <+: base.pieces)
    (habove : (∃ o ∈ land.own, placeOf base ++ names <+: o) ∨
      ∀ x, x <+: placeOf base ++ names → s.get? x = some .directory) :
    ActsAlike land.own s T (s.descend base above names) (T.descend base above names) := by
  rw [descend, descend, hT.enter_eq hsettled List.prefix_rfl]
  cases henter : s.enter base.pieces with
  | ok here =>
    obtain rfl := eq_placeOf_of_enter henter
    exact makeAll_alike hT hwell habove false
  | error fault =>
    dsimp only
    by_cases hbarred : names ≠ [] ∧ fault ≠ .notFound
    · rw [if_pos hbarred, if_pos hbarred]
      exact .refl land.own s T (.error fault)
    · rw [if_neg hbarred, if_neg hbarred]
      have hbase := createFrom_alike hT hsettled hpaths
      refine hbase.onSuccess hT.same fun _ => ?_
      refine makeAll_alike (hT.step hbase.mirrors) (wellFormed_createFrom hwell _) ?_ true
      exact habove.imp_right fun hdirectory x hx => hbase.confined.kept x (hdirectory x hx)

/-- Creating the directories of a path whose detours are owned and whose end lies above owned
places, or is there already. -/
lemma undisturbed_createDirs (hwell : s.WellFormed) (htrimmed : q.trimmed = q)
    (hdetours : ∀ x ∈ s.detours goesUp [] q.pieces, x ∈ land.own)
    (habove : (∃ o ∈ land.own, placeOf q <+: o) ∨
      ∀ x, x <+: placeOf q → s.get? x = some .directory) :
    Undisturbed land (.createDirs q) s := by
  have halike : ∀ T, Extends land s T →
      ActsAlike land.own s T (s.createDirs q) (T.createDirs q) := by
    intro T hT
    rcases createDirs_cases htrimmed with
      ⟨fault, hfault⟩ | ⟨base, above, names, hbase, hpieces, hplace, hpaths, hcreate⟩
    · rw [hfault s, hfault T]
      exact .refl land.own s T (.error fault)
    · rw [hcreate s, hcreate T]
      rw [hplace] at habove
      refine descend_alike hT hwell (fun lead hlead => ?_) hpaths habove
      refine (hbase.settled hlead).imp_right fun hdetour => hdetours _ ?_
      obtain ⟨rest, hrest⟩ := hpieces
      rw [← hrest]
      exact mem_detours_append hdetour
  refine ⟨(halike s (.refl land s)).confined, fun T hT => ?_, fun T hT => (halike T hT).mirrors⟩
  simp only [perform, (halike T hT).answer]

end Blueprint.FileTree

/-! ## Scripts -/

namespace Blueprint.Script

/-- Every operation that a script comes to on a tree is undisturbed there. -/
def Undisturbed (land : FileTree.Territory) : Script α → FileTree → Prop
  | .done _, _ => True
  | .step op next, s =>
    FileTree.Undisturbed land op s ∧ (next (s.perform op).1).Undisturbed land (s.perform op).2

variable {land : FileTree.Territory} {s : FileTree}

lemma undisturbed_perform {op : FileOp} (h : FileTree.Undisturbed land op s) :
    (perform op).Undisturbed land s :=
  ⟨h, trivial⟩

lemma Undisturbed.bind {script : Script α} {f : α → Script β} (h : script.Undisturbed land s)
    (hf : (f (script.run s).1).Undisturbed land (script.run s).2) :
    (script >>= f).Undisturbed land s := by
  induction script generalizing s with
  | done result => exact hf
  | step op next ih => exact ⟨h.1, ih (s.perform op).1 h.2 hf⟩

end Blueprint.Script
