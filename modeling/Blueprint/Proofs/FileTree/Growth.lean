import Blueprint.Proofs.FileTree.Walk
import Blueprint.Proofs.Path.Combine

/-!
# Trees that grow

Creating directories adds missing ones on the way to a path and changes nothing else (`Grows`),
whether or not it gets to the end.  The tree stays well-formed (`wellFormed_createEach`), and if
nothing fails every path that was to be created leads to a directory (`isDirectory_createEach`).
-/

namespace Blueprint.FileTree

open Blueprint.Path (IsPlain)

variable {s t t' : FileTree} {here x : Place} {way way' : List Place} {pieces : List String}
  {p q : Path}

/-- What a walk passes are directories. -/
lemma directory_of_walk (h : t.walk here pieces = .ok x) :
    ∀ y ∈ trail here pieces, t.get? y = some .directory := by
  induction pieces generalizing here with
  | nil => simp
  | cons piece rest ih =>
    rw [walk_cons] at h
    cases hget : t.get? here with
    | none => simp [hget] at h
    | some node =>
      cases node with
      | file data => simp [hget] at h
      | directory =>
        by_cases hlong : tooLong piece = true
        · simp [hget, hlong] at h
        · simp only [hget, hlong] at h
          exact List.forall_mem_cons.2 ⟨hget, ih h⟩

/-! ## Missing directories -/

/-- From `s` to `t` missing directories were created at some of the listed places, and nothing else
happened. -/
def Grows (way : List Place) (s t : FileTree) : Prop :=
  ∀ x, t.get? x = s.get? x ∨ (s.get? x = none ∧ t.get? x = some .directory ∧ x ∈ way)

lemma Grows.refl (way : List Place) (t : FileTree) : Grows way t t := fun _ => Or.inl rfl

lemma Grows.mono (h : Grows way s t) (hway : ∀ x ∈ way, x ∈ way') : Grows way' s t := by
  intro x
  rcases h x with heq | ⟨hnone, hmade, hx⟩
  · exact Or.inl heq
  · exact Or.inr ⟨hnone, hmade, hway x hx⟩

lemma Grows.trans (h : Grows way s t) (h' : Grows way t t') : Grows way s t' := by
  intro x
  rcases h' x with heq | ⟨hnone, hmade, hx⟩
  · rw [heq]
    exact h x
  · rcases h x with heq | ⟨-, hmade', -⟩
    · exact Or.inr ⟨heq ▸ hnone, hmade, hx⟩
    · simp [hmade'] at hnone

lemma Grows.file_iff (h : Grows way s t) {data : ByteArray} :
    t.get? x = some (.file data) ↔ s.get? x = some (.file data) := by
  rcases h x with heq | ⟨hnone, hmade, -⟩
  · rw [heq]
  · simp [hnone, hmade]

lemma Grows.directory (h : Grows way s t) (hx : s.get? x = some .directory) :
    t.get? x = some .directory := by
  rcases h x with heq | ⟨-, hmade, -⟩
  · exact heq.trans hx
  · exact hmade

lemma Grows.mem_of_new (h : Grows way s t) (hx : t.get? x = some .directory) :
    s.get? x = some .directory ∨ x ∈ way := by
  rcases h x with heq | ⟨-, -, hmem⟩
  · exact Or.inl (heq ▸ hx)
  · exact Or.inr hmem

/-- A name that a path ends in lies in a directory. -/
lemma directory_of_locateEnd_name {directory : Place} {name : String} {slashed : Bool}
    (h : t.locateEnd p = .ok (.name directory name slashed)) :
    t.get? directory = some .directory := by
  obtain ⟨init, -, -, -, hwalk, rfl, -⟩ := locateEnd_eq_name h
  refine directory_of_walk hwalk _ ?_
  rw [trail_append]
  exact List.mem_append_right _ List.mem_cons_self

/-- A directory is created at the end of its path, in a directory. -/
lemma createDir_eq_ok (h : t.createDir p = .ok t') :
    ∃ directory name slashed, t.locateEnd p = .ok (.name directory name slashed) ∧
      t.get? (directory ++ [name]) = none ∧ t' = t.put (directory ++ [name]) .directory := by
  unfold createDir at h
  cases hend : t.locateEnd p with
  | error fault => simp [hend, bind, Except.bind] at h
  | ok pathEnd =>
    cases pathEnd with
    | dots => simp [hend, bind, Except.bind] at h
    | name directory name slashed =>
      simp only [hend, bind, Except.bind] at h
      by_cases hsome : (t.get? (directory ++ [name])).isSome = true
      · rw [if_pos hsome] at h
        cases h
      · rw [if_neg hsome] at h
        exact ⟨directory, name, slashed, rfl, by simpa using hsome, (Except.ok.inj h).symm⟩

lemma grows_createDir (h : t.createDir p = .ok t') : Grows [placeOf p] t t' := by
  obtain ⟨directory, name, slashed, hend, hnone, rfl⟩ := createDir_eq_ok h
  rw [placeOf_of_locateEnd hend]
  intro y
  rw [get?_put t (by simp)]
  by_cases hy : y = directory ++ [name]
  · subst hy
    exact Or.inr ⟨hnone, if_pos rfl, by simp⟩
  · exact Or.inl (if_neg hy)

/-- Going up, a path is passed, created or put aside. -/
lemma createHighest_cons_cases {missing above missing' : List Path}
    (h : t.createHighest missing (p :: above) = .ok (t', missing')) :
    (t' = t ∧ missing' = missing) ∨ (t.createDir p = .ok t' ∧ missing' = missing) ∨
      t.createHighest (p :: missing) above = .ok (t', missing') := by
  rw [createHighest] at h
  by_cases htop : (p.text = "" || p.parent?.isNone) = true
  · rw [if_pos htop] at h
    obtain ⟨rfl, rfl⟩ := Prod.mk.inj (Except.ok.inj h)
    exact Or.inl ⟨rfl, rfl⟩
  · rw [if_neg htop] at h
    cases hcreate : t.createDir p with
    | ok made =>
      rw [hcreate] at h
      obtain ⟨rfl, rfl⟩ := Prod.mk.inj (Except.ok.inj h)
      exact Or.inr (Or.inl ⟨rfl, rfl⟩)
    | error fault =>
      by_cases hfault : fault = .notFound
      · rw [hcreate, hfault] at h
        exact Or.inr (Or.inr h)
      · have hfound : (if (fault = .exists && t.isDirectory p) = true then .ok (t, missing)
            else .error fault) = Except.ok (t', missing') := by
          rw [hcreate] at h
          cases fault <;> first | exact h | exact absurd rfl hfault
        by_cases hthere : (fault = .exists && t.isDirectory p) = true
        · rw [if_pos hthere] at hfound
          obtain ⟨rfl, rfl⟩ := Prod.mk.inj (Except.ok.inj hfound)
          exact Or.inl ⟨rfl, rfl⟩
        · rw [if_neg hthere] at hfound
          cases hfound

lemma grows_createHighest {missing paths missing' : List Path}
    (h : t.createHighest missing paths = .ok (t', missing')) :
    Grows (paths.map placeOf) t t' ∧ ∀ q ∈ missing', q ∈ missing ∨ q ∈ paths := by
  induction paths generalizing missing with
  | nil =>
    obtain ⟨rfl, rfl⟩ := Prod.mk.inj (Except.ok.inj h)
    exact ⟨.refl _ t, fun q hq => Or.inl hq⟩
  | cons p above ih =>
    rcases createHighest_cons_cases h with ⟨rfl, rfl⟩ | ⟨hcreate, rfl⟩ | hrest
    · exact ⟨.refl _ t', fun q hq => Or.inl hq⟩
    · exact ⟨(grows_createDir hcreate).mono (by simp), fun q hq => Or.inl hq⟩
    · obtain ⟨hgrows, hmissing⟩ := ih hrest
      refine ⟨hgrows.mono fun x hx => List.mem_cons_of_mem _ hx, fun q hq => ?_⟩
      rcases hmissing q hq with hmem | hmem
      · rcases List.mem_cons.1 hmem with rfl | hmem
        · exact Or.inr List.mem_cons_self
        · exact Or.inl hmem
      · exact Or.inr (List.mem_cons_of_mem p hmem)

/-- Going down, a path is created or stands already, or everything stops. -/
lemma createEach_cons_cases (t : FileTree) (p : Path) (rest : List Path) :
    (∃ made, t.createDir p = .ok made ∧ t.createEach (p :: rest) = made.createEach rest) ∨
      (t.isDirectory p = true ∧ t.createEach (p :: rest) = t.createEach rest) ∨
      ∃ fault, t.createEach (p :: rest) = (t, .error fault) := by
  rw [createEach]
  cases t.createDir p with
  | ok made => exact Or.inl ⟨made, rfl, rfl⟩
  | error fault =>
    dsimp only
    by_cases hthere : (fault = .exists && t.isDirectory p) = true
    · rw [if_pos hthere]
      exact Or.inr (Or.inl ⟨(Bool.and_eq_true_iff.1 hthere).2, rfl⟩)
    · rw [if_neg hthere]
      exact Or.inr (Or.inr ⟨fault, rfl⟩)

lemma grows_createEach (paths : List Path) :
    Grows (paths.map placeOf) t (t.createEach paths).1 := by
  induction paths generalizing t with
  | nil => exact .refl _ t
  | cons p rest ih =>
    have hrest : ∀ s : FileTree, Grows ((p :: rest).map placeOf) s (s.createEach rest).1 :=
      fun s => (ih (t := s)).mono fun x hx => List.mem_cons_of_mem _ hx
    rcases createEach_cons_cases t p rest with ⟨made, hcreate, heq⟩ | ⟨-, heq⟩ | ⟨fault, heq⟩
    · rw [heq]
      exact ((grows_createDir hcreate).mono (by simp)).trans (hrest made)
    · rw [heq]
      exact hrest t
    · rw [heq]
      exact .refl _ t

lemma grows_createDirs (p : Path) : Grows (p.ancestors.map placeOf) t (t.createDirs p).1 := by
  rw [createDirs]
  cases hhighest : t.createHighest [] p.ancestors with
  | error fault => exact .refl _ t
  | ok made =>
    obtain ⟨t', missing⟩ := made
    obtain ⟨hgrows, hmissing⟩ := grows_createHighest hhighest
    refine hgrows.trans ((grows_createEach missing).mono fun x hx => ?_)
    obtain ⟨q, hq, rfl⟩ := List.mem_map.1 hx
    exact List.mem_map_of_mem ((hmissing q hq).resolve_left (by simp))

/-! ## The way to a target -/

lemma pieces_of_parent? (h : p.parent? = some q) :
    ∃ piece rest, p.pieces = q.pieces ++ piece :: rest := by
  rcases p.ends with ⟨-, hnone, -⟩ | ⟨init, last, hconcat, hsome, -⟩
  · simp [h] at hnone
  · obtain rfl := Option.some.inj (h.symm.trans hsome)
    obtain ⟨gap, blanks, hpieces, -, -⟩ := Path.pieces_of_trimmed hconcat
    obtain ⟨piece, rest, hrest⟩ : ∃ piece rest, gap ++ last :: blanks = piece :: rest :=
      List.exists_cons_of_ne_nil (by simp)
    exact ⟨piece, rest, hrest ▸ hpieces⟩

lemma prefix_of_mem_ancestorsFrom {fuel : Nat} (h : q ∈ p.ancestorsFrom fuel) :
    q.pieces <+: p.pieces := by
  induction fuel generalizing p with
  | zero => simp [Path.ancestorsFrom] at h
  | succ fuel ih =>
    rw [Path.ancestorsFrom, List.mem_cons] at h
    rcases h with rfl | h
    · exact List.prefix_rfl
    · cases hparent : p.parent? with
      | none => simp [hparent] at h
      | some parent =>
        rw [hparent] at h
        obtain ⟨piece, rest, hpieces⟩ := pieces_of_parent? hparent
        rw [hpieces]
        exact (ih h).trans (List.prefix_append _ _)

/-- The directories of a parent are passed on the way to a path. -/
lemma mem_trail_of_ancestor {parent : Path} (hparent : p.parent? = some parent)
    (h : q ∈ parent.ancestors) : placeOf q ∈ trail [] p.pieces := by
  obtain ⟨piece, rest, hpieces⟩ := pieces_of_parent? hparent
  obtain ⟨between, hbetween⟩ := prefix_of_mem_ancestorsFrom h
  obtain ⟨next, others, hnext⟩ : ∃ next others, between ++ piece :: rest = next :: others :=
    List.exists_cons_of_ne_nil (by simp)
  rw [hpieces, ← hbetween, List.append_assoc, hnext, trail_append, trail_cons]
  exact List.mem_append_right _ List.mem_cons_self

/-- A path that ends in a name, without slashes after it, leads through directories. -/
lemma directory_of_locateEnd {directory : Place} {name : String}
    (h : t.locateEnd p = .ok (.name directory name false)) :
    ∀ y ∈ trail [] p.pieces, t.get? y = some .directory := by
  obtain ⟨init, hunslashed, -, -, hwalk, -, hslashed⟩ := locateEnd_eq_name h
  obtain ⟨blanks, hpieces, -⟩ := exists_unslashed_append p.pieces
  have hlength := congrArg List.length hpieces
  rw [List.length_append] at hlength
  have hnone : blanks = [] := by
    have hle := decide_eq_false_iff_not.1 hslashed.symm
    exact List.eq_nil_of_length_eq_zero (by omega)
  rw [hpieces, hnone, List.append_nil, hunslashed]
  exact directory_of_walk hwalk

/-! ## What is created stands -/

lemma put_directory_mono {place : Place} (hplace : place ≠ []) (h : s.get? x = some .directory) :
    (s.put place .directory).get? x = some .directory := by
  rw [get?_put s hplace]
  split
  · rfl
  · exact h

lemma wellFormed_createDir (hwell : t.WellFormed) (h : t.createDir p = .ok t') :
    t'.WellFormed := by
  obtain ⟨directory, name, slashed, hend, -, rfl⟩ := createDir_eq_ok h
  have hnonempty : directory ++ [name] ≠ [] := by simp
  intro place name' hget
  refine put_directory_mono hnonempty ?_
  rw [get?_put t hnonempty] at hget
  by_cases heq : place ++ [name'] = directory ++ [name]
  · obtain ⟨rfl, -⟩ := List.append_inj' heq rfl
    exact directory_of_locateEnd_name hend
  · rw [if_neg heq] at hget
    exact hwell place name' hget

lemma wellFormed_createHighest {missing paths missing' : List Path} (hwell : t.WellFormed)
    (h : t.createHighest missing paths = .ok (t', missing')) : t'.WellFormed := by
  induction paths generalizing missing with
  | nil =>
    obtain ⟨rfl, rfl⟩ := Prod.mk.inj (Except.ok.inj h)
    exact hwell
  | cons p above ih =>
    rcases createHighest_cons_cases h with ⟨rfl, rfl⟩ | ⟨hcreate, rfl⟩ | hrest
    · exact hwell
    · exact wellFormed_createDir hwell hcreate
    · exact ih hrest

/-- A path leads to a directory once that is created. -/
lemma isDirectory_createDir (h : t.createDir p = .ok t') : t'.isDirectory p = true := by
  obtain ⟨directory, name, slashed, hend, -, rfl⟩ := createDir_eq_ok h
  obtain ⟨init, hunslashed, -, hcheck, hwalk, -⟩ := locateEnd_eq_name hend
  obtain ⟨blanks, hpieces, hblanks⟩ := exists_unslashed_append p.pieces
  have hnonempty : directory ++ [name] ≠ [] := by simp
  have hthere : (t.put (directory ++ [name]) .directory).get? (directory ++ [name]) =
      some .directory := by rw [get?_put t hnonempty, if_pos rfl]
  have hlong : blanks.any tooLong = false := by
    refine List.any_eq_false.2 fun blank hblank => ?_
    rcases hblanks blank hblank with rfl | rfl <;> decide
  have hlocate : (t.put (directory ++ [name]) .directory).locate p = .ok (directory ++ [name]) := by
    rw [locate, hcheck, hpieces, hunslashed]
    change walk _ [] (init ++ [name] ++ blanks) = _
    rw [walk_append, walk_mono (fun y => put_directory_mono hnonempty) hwalk]
    dsimp only
    rw [walk_of_directories, hlong, followAll_blanks hblanks]
    · rfl
    · intro x hx
      rw [eq_of_mem_trail_blanks hblanks hx, hthere]
  rw [isDirectory, hlocate]
  exact hasDirectory_iff.2 hthere

/-- A path that leads to a directory still does so once there are more directories. -/
lemma isDirectory_mono (hkept : ∀ y, s.get? y = some .directory → t.get? y = some .directory)
    (h : s.isDirectory p = true) : t.isDirectory p = true := by
  unfold isDirectory locate at h ⊢
  cases hcheck : checkPath p with
  | error fault => simp [hcheck, bind, Except.bind] at h
  | ok _ =>
    simp only [hcheck, bind, Except.bind] at h ⊢
    cases hwalk : s.walk [] p.pieces with
    | error fault => simp [hwalk] at h
    | ok there =>
      simp only [hwalk] at h
      simp only [walk_mono hkept hwalk]
      exact hasDirectory_iff.2 (hkept there (hasDirectory_iff.1 h))

/-- A path that leads to a directory leads through directories. -/
lemma directories_of_isDirectory (h : t.isDirectory p = true) :
    (∀ x ∈ trail [] p.pieces, t.get? x = some .directory) ∧
      t.get? (placeOf p) = some .directory := by
  unfold isDirectory locate at h
  cases hcheck : checkPath p with
  | error fault => simp [hcheck, bind, Except.bind] at h
  | ok _ =>
    simp only [hcheck, bind, Except.bind] at h
    cases hwalk : t.walk [] p.pieces with
    | error fault => simp [hwalk] at h
    | ok there =>
      simp only [hwalk] at h
      obtain rfl := eq_followAll_of_walk hwalk
      exact ⟨directory_of_walk hwalk, hasDirectory_iff.1 h⟩

/-- If no directory fails, all of them stand. -/
lemma isDirectory_createEach {paths : List Path} (hok : (t.createEach paths).2 = .ok ()) :
    ∀ q ∈ paths, (t.createEach paths).1.isDirectory q = true := by
  induction paths generalizing t with
  | nil => simp
  | cons p rest ih =>
    rcases createEach_cons_cases t p rest with ⟨made, hcreate, heq⟩ | ⟨hthere, heq⟩ | ⟨fault, heq⟩
    · rw [heq] at hok ⊢
      refine List.forall_mem_cons.2 ⟨?_, ih hok⟩
      exact isDirectory_mono (fun y => (grows_createEach rest).directory)
        (isDirectory_createDir hcreate)
    · rw [heq] at hok ⊢
      refine List.forall_mem_cons.2 ⟨?_, ih hok⟩
      exact isDirectory_mono (fun y => (grows_createEach rest).directory) hthere
    · rw [heq] at hok
      cases hok

lemma wellFormed_createEach {paths : List Path} (hwell : t.WellFormed) :
    (t.createEach paths).1.WellFormed := by
  induction paths generalizing t with
  | nil => exact hwell
  | cons p rest ih =>
    rcases createEach_cons_cases t p rest with ⟨made, hcreate, heq⟩ | ⟨-, heq⟩ | ⟨fault, heq⟩
    · rw [heq]
      exact ih (wellFormed_createDir hwell hcreate)
    · rw [heq]
      exact ih hwell
    · rw [heq]
      exact hwell

end Blueprint.FileTree
