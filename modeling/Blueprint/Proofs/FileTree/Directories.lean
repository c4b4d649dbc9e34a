import Blueprint.Proofs.FileTree.Growth

/-!
# Creating directories

`createDirs` works from the lowest directory upwards until it finds one that it can create, and then
down again.  Seen from the place that it starts at, this is one walk down: `makeAll` creates what is
missing, passes what is there, and stops at a file.  Which fault a file causes depends on whether
something was created above it.

The paths that `createDirs` tries form a chain, each the parent of the next (`Nested`).  The chain
starts at a base, a path without a name at its end.  If the base can be entered, nothing above it
matters.  If something is missing on the way to it, `createDirs` first sees to the base and then
goes down from there (`descend`).
-/

namespace Blueprint.FileTree

open Blueprint.Path (IsBlank IsPlain)

variable {s t : FileTree} {here x : Place} {name : String} {pieces : List String} {p q r : Path}

/-! ## One directory -/

/-- The directory that pieces of a path lead to. -/
def enter (t : FileTree) (pieces : List String) : Except OsFault Place :=
  t.walk [] (pieces ++ [""])

/-- A path that adds a name to another, apart from slashes and dots in between. -/
structure IsChild (r : Path) (name : String) (q : Path) : Prop where
  parent : q.parent? = some r
  plain : IsPlain name
  pieces : ∃ blanks, q.pieces = r.pieces ++ (blanks ++ [name]) ∧ ∀ blank ∈ blanks, IsBlank blank
  valid : checkPath q = .ok ()

lemma tooLong_blank {blank : String} (h : IsBlank blank) : tooLong blank = false := by
  rcases h with rfl | rfl <;> decide

lemma walk_plain (hplain : IsPlain name) :
    t.walk here [name] =
      match t.get? here with
      | none => .error .notFound
      | some (.file _) => .error .notDirectory
      | some .directory => if tooLong name then .error .nameTooLong else .ok (here ++ [name]) := by
  rw [walk_cons, follow_plain hplain]
  rfl

/-- Blank pieces before a name change nothing. -/
lemma walk_blanks {blanks : List String} (hblanks : ∀ blank ∈ blanks, IsBlank blank)
    (piece : String) : t.walk here (blanks ++ [piece]) = t.walk here [piece] := by
  induction blanks with
  | nil => rfl
  | cons blank rest ih =>
    have hblank := hblanks blank List.mem_cons_self
    rw [List.cons_append, walk_cons, follow_blank hblank, tooLong_blank hblank,
      ih fun b hb => hblanks b (List.mem_cons_of_mem blank hb)]
    cases hget : t.get? here with
    | none => simp [walk_cons, hget]
    | some node => cases node <;> simp [walk_cons, hget]

lemma enter_eq (pieces : List String) :
    t.enter pieces =
      match t.walk [] pieces with
      | .error fault => .error fault
      | .ok there =>
        match t.get? there with
        | none => .error .notFound
        | some (.file _) => .error .notDirectory
        | some .directory => .ok there := by
  rw [enter, walk_append]
  cases t.walk [] pieces with
  | error fault => rfl
  | ok there =>
    have hshort : tooLong "" = false := by decide
    simp only [walk_cons, hshort]
    rfl

/-- The walk to a child, from the directory that it lies in. -/
lemma IsChild.walk_eq (h : IsChild r name q) :
    t.walk [] q.pieces =
      match t.enter r.pieces with
      | .error fault => .error fault
      | .ok there => if tooLong name then .error .nameTooLong else .ok (there ++ [name]) := by
  obtain ⟨blanks, hpieces, hblanks⟩ := h.pieces
  rw [hpieces, walk_append, enter_eq]
  cases t.walk [] r.pieces with
  | error fault => rfl
  | ok there =>
    simp only [walk_blanks hblanks, walk_plain h.plain]
    cases hget : t.get? there with
    | none => rfl
    | some node => cases node <;> rfl

lemma IsChild.enter_eq (h : IsChild r name q) :
    t.enter q.pieces =
      match t.enter r.pieces with
      | .error fault => .error fault
      | .ok there =>
        if tooLong name then .error .nameTooLong
        else
          match t.get? (there ++ [name]) with
          | none => .error .notFound
          | some (.file _) => .error .notDirectory
          | some .directory => .ok (there ++ [name]) := by
  rw [FileTree.enter_eq, h.walk_eq]
  cases t.enter r.pieces with
  | error fault => rfl
  | ok there =>
    by_cases hlong : tooLong name = true
    · simp [hlong]
    · simp [hlong]

lemma unslashed_concat (hname : name ≠ "") (init : List String) :
    unslashed (init ++ [name]) = init ++ [name] := by
  simp [unslashed, hname]

lemma IsChild.createDir_eq (h : IsChild r name q) :
    t.createDir q =
      match t.enter r.pieces with
      | .error fault => .error fault
      | .ok there =>
        if tooLong name then .error .nameTooLong
        else if (t.get? (there ++ [name])).isSome then .error .exists
        else .ok (t.put (there ++ [name]) .directory) := by
  obtain ⟨blanks, hpieces, hblanks⟩ := h.pieces
  have hunslashed : unslashed q.pieces = q.pieces := by
    rw [hpieces, ← List.append_assoc, unslashed_concat h.plain.ne_empty]
  have hlast : q.pieces.getLast? = some name := by
    rw [hpieces, ← List.append_assoc, List.getLast?_concat]
  have hdots : (name = "." || name = "..") = false := by
    simp [h.plain.ne_dot, h.plain.ne_up]
  unfold createDir
  rw [locateEnd_eq, h.valid, hunslashed, hlast, h.walk_eq]
  cases t.enter r.pieces with
  | error fault => rfl
  | ok there =>
    by_cases hlong : tooLong name = true
    · simp only [hlong]
      rfl
    · simp only [if_neg hlong, hdots, Bool.false_eq_true, if_false, List.dropLast_concat]
      rfl

lemma isDirectory_eq (hvalid : checkPath q = .ok ()) :
    t.isDirectory q = (t.enter q.pieces).toBool := by
  rw [isDirectory, locate, hvalid, enter_eq]
  cases t.walk [] q.pieces with
  | error fault => rfl
  | ok there =>
    change t.hasDirectory there = _
    simp only [hasDirectory]
    cases t.get? there with
    | none => rfl
    | some node => cases node <;> rfl

/-! ## Nested directories -/

/-- Creates nested directories from the top down.  A fault at a file depends on whether a directory
was created before, and on whether the file is the last of the names. -/
def makeAll (t : FileTree) (created : Bool) (here : Place) :
    List String → FileTree × Except OsFault Unit
  | [] => (t, .ok ())
  | name :: rest =>
    if tooLong name then (t, .error .nameTooLong)
    else
      match t.get? (here ++ [name]) with
      | none => (t.put (here ++ [name]) .directory).makeAll true (here ++ [name]) rest
      | some .directory => t.makeAll created (here ++ [name]) rest
      | some (.file _) => (t, .error (if created || rest.isEmpty then .exists else .notDirectory))

section MakeAll

variable {created : Bool} {rest : List String}

lemma makeAll_cons_of_long (hlong : tooLong name = true) :
    t.makeAll created here (name :: rest) = (t, .error .nameTooLong) := by
  rw [makeAll, if_pos hlong]

lemma makeAll_cons_of_none (hshort : ¬ tooLong name = true)
    (hget : t.get? (here ++ [name]) = none) :
    t.makeAll created here (name :: rest) =
      (t.put (here ++ [name]) .directory).makeAll true (here ++ [name]) rest := by
  rw [makeAll, if_neg hshort, hget]

lemma makeAll_cons_of_directory (hshort : ¬ tooLong name = true)
    (hget : t.get? (here ++ [name]) = some .directory) :
    t.makeAll created here (name :: rest) = t.makeAll created (here ++ [name]) rest := by
  rw [makeAll, if_neg hshort, hget]

lemma makeAll_cons_of_file {data : ByteArray} (hshort : ¬ tooLong name = true)
    (hget : t.get? (here ++ [name]) = some (.file data)) :
    t.makeAll created here (name :: rest) =
      (t, .error (if created || rest.isEmpty then .exists else .notDirectory)) := by
  rw [makeAll, if_neg hshort, hget]

/-- The first name stops everything, or a directory of that name stands afterwards. -/
lemma makeAll_cons_cases (t : FileTree) (created : Bool) (here : Place) (name : String)
    (rest : List String) :
    (∃ fault, t.makeAll created here (name :: rest) = (t, .error fault)) ∨
      ∃ (t' : FileTree) (created' : Bool),
        t.makeAll created here (name :: rest) = t'.makeAll created' (here ++ [name]) rest ∧
        t'.get? (here ++ [name]) = some .directory ∧
        (t.get? (here ++ [name]) = none ∨ t.get? (here ++ [name]) = some .directory) ∧
        ∀ x, x ≠ here ++ [name] → t'.get? x = t.get? x := by
  by_cases hlong : tooLong name = true
  · exact Or.inl ⟨_, makeAll_cons_of_long hlong⟩
  · cases hget : t.get? (here ++ [name]) with
    | none =>
      have hput := get?_put t (show here ++ [name] ≠ [] by simp) .directory
      refine Or.inr ⟨_, true, makeAll_cons_of_none hlong hget, ?_, Or.inl rfl, fun x hx => ?_⟩
      · rw [hput, if_pos rfl]
      · rw [hput, if_neg hx]
    | some node =>
      cases node with
      | file data => exact Or.inl ⟨_, makeAll_cons_of_file hlong hget⟩
      | directory =>
        exact Or.inr ⟨t, created, makeAll_cons_of_directory hlong hget, hget, Or.inr rfl,
          fun _ _ => rfl⟩

end MakeAll

/-- Paths below a path, each adding a name to the one before it, down to a last one. -/
inductive Nested : Path → List (String × Path) → Path → Prop
  | nil (r : Path) : Nested r [] r
  | cons {r q p : Path} {name : String} {chain : List (String × Path)} (hchild : IsChild r name q)
      (hchain : Nested q chain p) : Nested r ((name, q) :: chain) p

variable {chain : List (String × Path)}

lemma Nested.concat (hchain : Nested r chain q) (hchild : IsChild q name p) :
    Nested r (chain ++ [(name, p)]) p := by
  induction hchain with
  | nil r => exact .cons hchild (.nil p)
  | cons hfirst _ ih => exact .cons hfirst (ih hchild)

/-- A child can be entered once it is created. -/
lemma IsChild.enter_put (h : IsChild r name q) (henter : t.enter r.pieces = .ok here)
    (hshort : ¬ tooLong name = true) :
    (t.put (here ++ [name]) .directory).enter q.pieces = .ok (here ++ [name]) := by
  have hnonempty : here ++ [name] ≠ [] := by simp
  have hmono := walk_mono (fun y => put_directory_mono hnonempty) henter
  rw [h.enter_eq, enter, hmono]
  simp [hshort, get?_put]

/-- Going down, directories are created one after the other. -/
lemma createEach_nested (hchain : Nested r chain q) (henter : t.enter r.pieces = .ok here) :
    t.createEach (chain.map Prod.snd) = t.makeAll true here (chain.map Prod.fst) := by
  induction hchain generalizing t here with
  | nil r => rfl
  | @cons r q _ name chain hchild hchain ih =>
    have hcreate := hchild.createDir_eq (t := t)
    have hnext := hchild.enter_eq (t := t)
    rw [henter] at hcreate hnext
    simp only [List.map_cons, createEach, makeAll]
    by_cases hlong : tooLong name = true
    · simp [hcreate, hlong]
    · cases hget : t.get? (here ++ [name]) with
      | none =>
        simp only [hlong, hget] at hcreate
        simpa [hcreate, hlong, hget] using ih (hchild.enter_put henter hlong)
      | some node =>
        have hdir := isDirectory_eq (t := t) hchild.valid
        cases node with
        | directory =>
          simp only [hlong, hget] at hcreate hnext
          simpa [hcreate, hlong, hget, hdir, hnext, Except.toBool] using ih hnext
        | file data =>
          simp only [hlong, hget] at hcreate hnext
          simp [hcreate, hlong, hdir, hnext, Except.toBool]

/-- A path that `createHighest` tries to create. -/
def IsTried (p : Path) : Prop :=
  (p.text = "" || p.parent?.isNone) = false

lemma IsChild.isTried (h : IsChild r name q) : IsTried q := by
  have htext : q.text ≠ "" := by
    intro htext
    have hvalid := h.valid
    simp [checkPath, htext] at hvalid
  simp [IsTried, htext, h.parent]

lemma createHighest_cons (htried : IsTried p) (missing above : List Path) :
    t.createHighest missing (p :: above) =
      match t.createDir p with
      | .ok t => .ok (t, missing)
      | .error .notFound => t.createHighest (p :: missing) above
      | .error fault =>
        if fault = .exists && t.isDirectory p then .ok (t, missing) else .error fault := by
  rw [createHighest, htried]
  rfl

/-- What `createDirs` makes of some paths, the lowest first. -/
def createFrom (t : FileTree) (paths : List Path) : FileTree × Except OsFault Unit :=
  match t.createHighest [] paths with
  | .error fault => (t, .error fault)
  | .ok (t, missing) => t.createEach missing

lemma createFrom_cons_fault {fault : OsFault} (htried : IsTried p)
    (hcreate : t.createDir p = .error fault) (hne : fault ≠ .notFound)
    (hexists : fault = .exists → t.isDirectory p = false) (above : List Path) :
    t.createFrom (p :: above) = (t, .error fault) := by
  rw [createFrom, createHighest_cons htried, hcreate]
  cases fault <;> simp_all

/-- What cannot be entered stops everything below it. -/
lemma createDir_nested_fault {fault : OsFault} (hchain : Nested r chain q)
    (henter : t.enter r.pieces = .error fault) :
    ∀ entry ∈ chain, t.createDir entry.2 = .error fault ∧ IsTried entry.2 := by
  induction hchain with
  | nil r => simp
  | @cons r q _ name chain hchild hchain ih =>
    have hcreate := hchild.createDir_eq (t := t)
    have hnext := hchild.enter_eq (t := t)
    rw [henter] at hcreate hnext
    exact List.forall_mem_cons.2 ⟨⟨hcreate, hchild.isTried⟩, ih hnext⟩

lemma createFrom_nested_fault {fault : OsFault} (hchain : Nested r chain q) (hnonempty : chain ≠ [])
    (henter : t.enter r.pieces = .error fault) (hne : fault ≠ .notFound) (hexists : fault ≠ .exists)
    (above : List Path) :
    t.createFrom ((chain.map Prod.snd).reverse ++ above) = (t, .error fault) := by
  obtain ⟨upper, lowest, rfl⟩ := (List.eq_nil_or_concat' chain).resolve_left hnonempty
  obtain ⟨hcreate, htried⟩ := createDir_nested_fault hchain henter lowest (by simp)
  rw [List.map_append, List.reverse_append]
  exact createFrom_cons_fault htried hcreate hne (fun h => absurd h hexists) _

/-- Going up, paths whose parent is missing are put aside. -/
lemma createHighest_notFound {paths : List Path}
    (h : ∀ p ∈ paths, t.createDir p = .error .notFound ∧ IsTried p) (missing above : List Path) :
    t.createHighest missing (paths ++ above) =
      t.createHighest (paths.reverse ++ missing) above := by
  induction paths generalizing missing with
  | nil => rfl
  | cons p rest ih =>
    obtain ⟨hcreate, htried⟩ := h p List.mem_cons_self
    rw [List.cons_append, createHighest_cons htried, hcreate]
    simpa using ih (fun q hq => h q (List.mem_cons_of_mem p hq)) (p :: missing)

/-- Below a directory that can be entered, going up and down again is one way down. -/
lemma createFrom_nested {above : List Path} (hchain : Nested r chain q)
    (henter : t.enter r.pieces = .ok here)
    (habove : ∀ missing, t.createHighest missing above = .ok (t, missing)) :
    t.createFrom ((chain.map Prod.snd).reverse ++ above) =
      t.makeAll false here (chain.map Prod.fst) := by
  induction hchain generalizing here above with
  | nil r =>
    simp only [List.map_nil, List.reverse_nil, List.nil_append, createFrom, habove]
    rfl
  | @cons r q _ name chain hchild hchain ih =>
    have hcreate := hchild.createDir_eq (t := t)
    have hnext := hchild.enter_eq (t := t)
    have hdir := isDirectory_eq (t := t) hchild.valid
    rw [henter] at hcreate hnext
    have hpaths : (((name, q) :: chain).map Prod.snd).reverse ++ above =
        (chain.map Prod.snd).reverse ++ q :: above := by simp
    rw [hpaths, List.map_cons, makeAll]
    by_cases hlong : tooLong name = true
    · simp only [hlong, if_true] at hcreate hnext ⊢
      by_cases hlowest : chain = []
      · subst hlowest
        exact createFrom_cons_fault hchild.isTried hcreate (by simp) (by simp) above
      · exact createFrom_nested_fault hchain hlowest hnext (by simp) (by simp) _
    · simp only [hlong] at hcreate hnext ⊢
      cases hget : t.get? (here ++ [name]) with
      | none =>
        simp only [hget] at hcreate hnext ⊢
        have hbelow : ∀ p ∈ (chain.map Prod.snd).reverse,
            t.createDir p = .error .notFound ∧ IsTried p := by
          intro p hp
          obtain ⟨entry, hentry, rfl⟩ := List.mem_map.1 (List.mem_reverse.1 hp)
          exact createDir_nested_fault hchain hnext entry hentry
        rw [createFrom, createHighest_notFound hbelow, createHighest_cons hchild.isTried, hcreate]
        simpa using createEach_nested hchain (hchild.enter_put henter hlong)
      | some node =>
        cases node with
        | directory =>
          simp only [hget] at hcreate hnext ⊢
          refine ih hnext fun missing => ?_
          rw [createHighest_cons hchild.isTried, hcreate]
          simp [hdir, hnext, Except.toBool]
        | file data =>
          simp only [hget] at hcreate hnext ⊢
          by_cases hlowest : chain = []
          · subst hlowest
            exact createFrom_cons_fault hchild.isTried hcreate (by simp)
              (by simp [hdir, hnext, Except.toBool]) above
          · rw [createFrom_nested_fault hchain hlowest hnext (by simp) (by simp)]
            simp [hlowest]

/-! ## The chain of a path -/

lemma checkPath_eq_ok_iff :
    checkPath p = .ok () ↔ '\x00' ∉ p.text.toList ∧ p.text ≠ "" ∧
      Text.byteLength p.text.toList ≤ maxPathLength := by
  unfold checkPath
  by_cases hnul : '\x00' ∈ p.text.toList
  · simp [hnul]
  · by_cases htext : p.text = ""
    · simp [htext]
    · by_cases hlong : maxPathLength < Text.byteLength p.text.toList
      · simp [hnul, htext, hlong]
      · simp [hnul, htext, hlong, Nat.le_of_not_lt hlong]

lemma checkPath_of_prefix (habsolute : r.absolute = q.absolute) (hpieces : r.pieces <+: q.pieces)
    (htext : r.text ≠ "") (hvalid : checkPath q = .ok ()) : checkPath r = .ok () := by
  obtain ⟨rest, hrest⟩ := Path.prefix_text habsolute hpieces
  have hvalid' := checkPath_eq_ok_iff.1 hvalid
  rw [← hrest, Text.byteLength_append] at hvalid'
  refine checkPath_eq_ok_iff.2 ⟨fun hnul => hvalid'.1 (List.mem_append_left rest hnul), htext, ?_⟩
  omega

/-- A path that does not end in a name. -/
def IsBase (p : Path) : Prop :=
  p.pieces = [] ∨ p.pieces = ["."] ∨ ∃ lead, p.pieces = lead ++ [".."]

/-- The names that lead down to a path from a base above it. -/
structure ChainTo (q base : Path) (chain : List (String × Path)) : Prop where
  nested : Nested base chain q
  isBase : IsBase base
  pieces : base.pieces <+: q.pieces
  valid : base.pieces ≠ [] → checkPath base = .ok ()
  place : placeOf q = placeOf base ++ chain.map Prod.fst
  ancestors : ∀ fuel, q.pieces.length < fuel →
    ∃ above, q.ancestorsFrom fuel = (chain.map Prod.snd).reverse ++ base :: above ∧
      ∀ r ∈ base :: above, r.pieces <+: base.pieces

/-- A path that does not end in a name is its own base. -/
lemma ChainTo.refl (hbase : IsBase q) (hvalid : q.pieces ≠ [] → checkPath q = .ok ()) :
    ChainTo q q [] := by
  refine ⟨.nil q, hbase, List.prefix_rfl, hvalid, by simp, fun fuel hfuel => ?_⟩
  obtain ⟨fuel, rfl⟩ := Nat.exists_eq_succ_of_ne_zero (Nat.ne_zero_of_lt hfuel)
  exact ⟨_, rfl, fun r (hr : r ∈ q.ancestorsFrom (fuel + 1)) => prefix_of_mem_ancestorsFrom hr⟩

lemma ChainTo.concat {base : Path} (h : ChainTo r base chain) (hchild : IsChild r name q) :
    ChainTo q base (chain ++ [(name, q)]) := by
  obtain ⟨blanks, hpieces, hblanks⟩ := hchild.pieces
  refine ⟨h.nested.concat hchild, h.isBase, ?_, h.valid, ?_, fun fuel hfuel => ?_⟩
  · rw [hpieces]
    exact h.pieces.trans (List.prefix_append _ _)
  · rw [placeOf, hpieces, followAll_append, followAll_append, followAll_blanks hblanks,
      followAll_cons, followAll_nil, follow_plain hchild.plain, ← placeOf, h.place]
    simp
  · rw [hpieces] at hfuel
    obtain ⟨fuel, rfl⟩ := Nat.exists_eq_succ_of_ne_zero (Nat.ne_zero_of_lt hfuel)
    obtain ⟨above, habove, hpieces⟩ := h.ancestors fuel (by simp at hfuel; omega)
    exact ⟨above, by simp [Path.ancestorsFrom, hchild.parent, habove], hpieces⟩

/-- Above each path there is a base. -/
lemma exists_chainTo (htrimmed : q.trimmed = q) (hvalid : q.pieces ≠ [] → checkPath q = .ok ()) :
    ∃ base chain, ChainTo q base chain := by
  induction hlength : q.pieces.length using Nat.strongRecOn generalizing q with
  | ind length ih =>
    rcases q.ends with ⟨hpieces, -, -⟩ | ⟨init, last, hpieces, hparent, hlast⟩
    · rw [htrimmed] at hpieces
      exact ⟨q, [], .refl (Or.inl hpieces) hvalid⟩
    · rw [htrimmed] at hpieces
      rcases hlast with ⟨hplain, -⟩ | ⟨rfl, -⟩ | ⟨rfl, rfl, -⟩
      · let r : Path := { q with pieces := Path.trimPieces (!q.absolute) init }
        obtain ⟨blanks, hinit, hblanks⟩ := Path.exists_trimPieces_append (!q.absolute) init
        have hqvalid : checkPath q = .ok () := hvalid (by simp [hpieces])
        have hqpieces : q.pieces = r.pieces ++ (blanks ++ [last]) := by
          rw [hpieces, ← List.append_assoc, ← hinit]
        have hchild : IsChild r last q := ⟨hparent, hplain, ⟨blanks, hqpieces, hblanks⟩, hqvalid⟩
        have hrtrimmed : r.trimmed = r := by simp [r, Path.trimmed, Path.trimPieces_trimPieces]
        have habsolute : r.absolute = q.absolute := rfl
        have hrvalid : r.pieces ≠ [] → checkPath r = .ok () := fun hne =>
          checkPath_of_prefix habsolute ⟨_, hqpieces.symm⟩ (Path.text_ne_empty hrtrimmed hne)
            hqvalid
        have hshorter : r.pieces.length < length := by
          rw [← hlength, hqpieces]
          simp
        obtain ⟨base, chain, hchain⟩ := ih _ hshorter hrtrimmed hrvalid rfl
        exact ⟨base, chain ++ [(last, q)], hchain.concat hchild⟩
      · exact ⟨q, [], .refl (Or.inr (Or.inr ⟨init, hpieces⟩)) hvalid⟩
      · exact ⟨q, [], .refl (Or.inr (Or.inl hpieces)) hvalid⟩

/-- A path that leads through directories to a directory has nothing but directories above its
end. -/
lemma directory_of_prefix_followAll {pieces : List String}
    (htrail : ∀ x ∈ trail [] pieces, t.get? x = some .directory)
    (hend : t.get? (followAll [] pieces) = some .directory) {x : Place}
    (hx : x <+: followAll [] pieces) : t.get? x = some .directory := by
  by_cases heq : x = followAll [] pieces
  · rwa [heq]
  · rcases mem_trail_of_prefix hx heq with ⟨hnil, hne⟩ | hmem
    · exact absurd (List.prefix_nil.1 hnil) hne
    · exact htrail x hmem

/-- What the path of a base leads to is a directory or a detour, at each of its pieces. -/
lemma IsBase.settled (hbase : IsBase p) {lead : List String} (hlead : lead <+: p.pieces) :
    t.get? (followAll [] lead) = some .directory ∨
      followAll [] lead ∈ t.detours goesUp [] p.pieces := by
  rcases hbase with hpieces | hpieces | ⟨init, hpieces⟩
  · obtain rfl : lead = [] := List.prefix_nil.1 (hpieces ▸ hlead)
    exact Or.inl rfl
  · rw [hpieces, List.prefix_cons_iff] at hlead
    rcases hlead with rfl | ⟨rest, rfl, hrest⟩
    · exact Or.inl rfl
    · rw [List.prefix_nil.1 hrest]
      exact Or.inl rfl
  · have hbefore : ∀ lead, lead <+: init → t.get? (followAll [] lead) = some .directory ∨
        followAll [] lead ∈ t.detours goesUp [] p.pieces := by
      rintro lead ⟨rest, rfl⟩
      rw [hpieces, List.append_assoc]
      exact mem_detours_of_lead ⟨"..", by simp, rfl⟩
    rw [hpieces, List.prefix_concat_iff] at hlead
    rcases hlead with rfl | hlead
    · -- the place above the last one was passed before, or the path is at the top
      have hplace : followAll [] (init ++ [".."]) = (followAll [] init).dropLast := by
        rw [followAll_append, followAll_cons, followAll_nil, follow_up]
      rw [hplace]
      by_cases htop : followAll [] init = []
      · exact Or.inl (by rw [htop]; rfl)
      · have hne : (followAll [] init).dropLast ≠ followAll [] init := by
          intro heq
          have hlength := congrArg List.length heq
          have hpos := List.length_pos_of_ne_nil htop
          rw [List.length_dropLast] at hlength
          omega
        rcases mem_trail_of_prefix (List.dropLast_prefix _) hne with ⟨hnil, hne⟩ | hmem
        · exact absurd (List.prefix_nil.1 hnil) hne
        · obtain ⟨before, rest, rfl, heq⟩ := exists_lead_of_mem_trail hmem
          rw [heq]
          exact hbefore before (List.prefix_append _ _)
    · exact hbefore lead hlead

/-- A base is never created: it ends in dots, or it is the top. -/
lemma IsBase.createDir_eq (hbase : IsBase p) (htried : IsTried p)
    (hvalid : p.pieces ≠ [] → checkPath p = .ok ()) :
    checkPath p = .ok () ∧ t.createDir p =
      match t.walk [] p.pieces with
      | .error fault => .error fault
      | .ok _ => .error .exists := by
  have hends : ∃ init dots, p.pieces = init ++ [dots] ∧ (dots = "." ∨ dots = "..") := by
    rcases hbase with hpieces | hpieces | ⟨lead, hpieces⟩
    · rcases p.ends with ⟨-, hparent, -⟩ | ⟨init, last, hconcat, -⟩
      · simp [IsTried, hparent] at htried
      · simp [Path.trimmed, hpieces, Path.trimPieces] at hconcat
    · exact ⟨[], ".", hpieces, Or.inl rfl⟩
    · exact ⟨lead, "..", hpieces, Or.inr rfl⟩
  obtain ⟨init, dots, hpieces, hdots⟩ := hends
  have hne : dots ≠ "" := by rcases hdots with rfl | rfl <;> decide
  have hchecked : checkPath p = .ok () := hvalid (by simp [hpieces])
  refine ⟨hchecked, ?_⟩
  unfold createDir
  rw [locateEnd_eq, hchecked, hpieces, unslashed_concat hne, List.getLast?_concat]
  cases t.walk [] (init ++ [dots]) with
  | error fault => rfl
  | ok there => rcases hdots with rfl | rfl <;> rfl

lemma IsBase.createHighest_eq (hbase : IsBase p) (hvalid : p.pieces ≠ [] → checkPath p = .ok ())
    (henter : t.enter p.pieces = .ok here) (missing above : List Path) :
    t.createHighest missing (p :: above) = .ok (t, missing) := by
  by_cases htried : IsTried p
  · obtain ⟨hchecked, hcreate⟩ := hbase.createDir_eq (t := t) htried hvalid
    have hwalk : ∃ there, t.walk [] p.pieces = .ok there := by
      cases hwalk : t.walk [] p.pieces with
      | error fault => simp [FileTree.enter_eq, hwalk] at henter
      | ok there => exact ⟨there, rfl⟩
    obtain ⟨there, hwalk⟩ := hwalk
    rw [createHighest_cons htried, hcreate, hwalk]
    simp [isDirectory_eq hchecked, henter, Except.toBool]
  · rw [createHighest, if_pos (Bool.not_eq_false _ ▸ htried)]

lemma checkPath_fault {fault : OsFault} (h : checkPath p = .error fault) (htext : p.text ≠ "") :
    fault = .nulInPath ∨ fault = .nameTooLong := by
  unfold checkPath at h
  by_cases hnul : p.text.toList.contains '\x00' = true
  · rw [if_pos hnul] at h
    exact Or.inl (Except.error.inj h).symm
  · rw [if_neg hnul, if_neg htext] at h
    by_cases hlong : maxPathLength < Text.byteLength p.text.toList
    · rw [if_pos hlong] at h
      exact Or.inr (Except.error.inj h).symm
    · rw [if_neg hlong] at h
      cases h

lemma isTried_of_trimmed (htrimmed : q.trimmed = q) (hne : q.pieces ≠ []) : IsTried q := by
  have htext := Path.text_ne_empty htrimmed hne
  rcases q.ends with ⟨hnil, -, -⟩ | ⟨init, last, -, hparent, -⟩
  · rw [htrimmed] at hnil
    exact absurd hnil hne
  · simp [IsTried, htext, hparent]

/-- What is wrong with the text of a path stops everything. -/
lemma createDirs_of_invalid {fault : OsFault} (htrimmed : q.trimmed = q) (hne : q.pieces ≠ [])
    (hfault : checkPath q = .error fault) : t.createDirs q = (t, .error fault) := by
  have hkind := checkPath_fault hfault (Path.text_ne_empty htrimmed hne)
  have hcreate : t.createDir q = .error fault := by
    unfold createDir
    rw [locateEnd_eq, hfault]
    rfl
  refine createFrom_cons_fault (isTried_of_trimmed htrimmed hne) hcreate ?_ ?_ _
  · rcases hkind with rfl | rfl <;> simp
  · rcases hkind with rfl | rfl <;> simp

/-! ## Going down from a base -/

/-- Goes on with a tree unless something has failed. -/
def onSuccess (next : FileTree → FileTree × Except OsFault Unit) :
    FileTree × Except OsFault Unit → FileTree × Except OsFault Unit
  | (t, .ok ()) => next t
  | (t, .error fault) => (t, .error fault)

lemma createEach_append (paths rest : List Path) :
    t.createEach (paths ++ rest) = onSuccess (·.createEach rest) (t.createEach paths) := by
  induction paths generalizing t with
  | nil => rfl
  | cons p paths ih =>
    rw [List.cons_append, createEach, createEach]
    cases t.createDir p with
    | ok made => exact ih
    | error fault =>
      dsimp only
      by_cases hthere : (fault = .exists && t.isDirectory p) = true
      · rw [if_pos hthere, if_pos hthere]
        exact ih
      · rw [if_neg hthere, if_neg hthere]
        rfl

/-- What was put aside before is left over in the end. -/
lemma createHighest_eq_map (missing paths : List Path) :
    t.createHighest missing paths =
      (t.createHighest [] paths).map fun (t, left) => (t, left ++ missing) := by
  induction paths generalizing missing with
  | nil => rfl
  | cons p above ih =>
    rw [createHighest, createHighest]
    by_cases htop : (p.text = "" || p.parent?.isNone) = true
    · rw [if_pos htop, if_pos htop]
      rfl
    · rw [if_neg htop, if_neg htop]
      cases t.createDir p with
      | ok made => rfl
      | error fault =>
        by_cases hfault : fault = .notFound
        · subst hfault
          simp only
          rw [ih (p :: missing), ih [p]]
          cases t.createHighest [] above with
          | error fault => rfl
          | ok made => simp [Except.map]
        · cases fault <;> first | contradiction | (dsimp only; split <;> rfl)

/-- Paths whose parents are missing are created once what is above them stands. -/
lemma createFrom_of_notFound {paths : List Path}
    (h : ∀ p ∈ paths, t.createDir p = .error .notFound ∧ IsTried p) (above : List Path) :
    t.createFrom (paths ++ above) =
      onSuccess (·.createEach paths.reverse) (t.createFrom above) := by
  rw [createFrom, createHighest_notFound h, List.append_nil, createHighest_eq_map, createFrom]
  cases t.createHighest [] above with
  | error fault => rfl
  | ok made => exact createEach_append ..

/-- A path whose parent is not missing is created or stands already, or it stops everything. -/
lemma createFrom_cons_of_ne (htried : IsTried p) (h : t.createDir p ≠ .error .notFound)
    (above : List Path) : t.createFrom (p :: above) = t.createEach [p] := by
  rw [createFrom, createHighest_cons htried, createEach]
  cases hcreate : t.createDir p with
  | ok made => rfl
  | error fault =>
    have hfault : fault ≠ .notFound := fun heq => h (heq ▸ hcreate)
    cases t.isDirectory p <;> cases fault <;> first | contradiction | rfl

lemma createFrom_cons_of_notFound (htried : IsTried p) (h : t.createDir p = .error .notFound)
    (above : List Path) :
    t.createFrom (p :: above) = onSuccess (·.createEach [p]) (t.createFrom above) := by
  have hall : ∀ r ∈ [p], t.createDir r = .error .notFound ∧ IsTried r := by simp [h, htried]
  exact createFrom_of_notFound hall above

/-- If nothing fails, the lowest path leads to a directory. -/
lemma isDirectory_createFrom (htried : IsTried p) {above : List Path}
    (hok : (t.createFrom (p :: above)).2 = .ok ()) :
    (t.createFrom (p :: above)).1.isDirectory p = true := by
  by_cases hmissing : t.createDir p = .error .notFound
  · rw [createFrom_cons_of_notFound htried hmissing] at hok ⊢
    generalize t.createFrom above = upper at hok ⊢
    obtain ⟨made, _ | _⟩ := upper
    · cases hok
    · exact isDirectory_createEach hok p List.mem_cons_self
  · rw [createFrom_cons_of_ne htried hmissing] at hok ⊢
    exact isDirectory_createEach hok p List.mem_cons_self

lemma wellFormed_createFrom (hwell : t.WellFormed) (paths : List Path) :
    (t.createFrom paths).1.WellFormed := by
  rw [createFrom]
  cases hhighest : t.createHighest [] paths with
  | error fault => exact hwell
  | ok made => exact wellFormed_createEach (wellFormed_createHighest hwell hhighest)

/-- Creates names below a base.  If the base cannot be entered because something is missing, the
base is created first, along with what is above it; any other fault stays. -/
def descend (t : FileTree) (base : Path) (above : List Path) (names : List String) :
    FileTree × Except OsFault Unit :=
  match t.enter base.pieces with
  | .ok here => t.makeAll false here names
  | .error fault =>
    if names ≠ [] ∧ fault ≠ .notFound then (t, .error fault)
    else onSuccess (·.makeAll true (placeOf base) names) (t.createFrom (base :: above))

lemma walk_ne_exists (t : FileTree) (here : Place) (pieces : List String) :
    t.walk here pieces ≠ .error .exists := by
  induction pieces generalizing here with
  | nil => simp [walk]
  | cons piece rest ih =>
    rw [walk_cons]
    cases t.get? here with
    | none => simp
    | some node =>
      cases node with
      | file data => simp
      | directory =>
        by_cases hlong : tooLong piece = true
        · simp [hlong]
        · simpa [hlong] using ih (follow here piece)

lemma eq_placeOf_of_enter (h : t.enter p.pieces = .ok here) : here = placeOf p := by
  have hblank : ∀ blank ∈ [""], IsBlank blank := by simp [IsBlank]
  rw [eq_followAll_of_walk h, followAll_append, followAll_blanks hblank, placeOf]

section Chain

variable {base : Path}

lemma ChainTo.createDirs_eq (h : ChainTo q base chain) :
    ∃ above, (∀ t : FileTree,
        t.createDirs q = t.createFrom ((chain.map Prod.snd).reverse ++ base :: above)) ∧
      ∀ r ∈ base :: above, r.pieces <+: base.pieces := by
  obtain ⟨above, habove, hpieces⟩ := h.ancestors (q.pieces.length + 1) (Nat.lt_succ_self _)
  refine ⟨above, fun t => ?_, hpieces⟩
  rw [← habove]
  rfl

/-- A base that cannot be entered because something is missing ends in dots. -/
lemma ChainTo.isTried (h : ChainTo q base chain) {fault : OsFault}
    (henter : t.enter base.pieces = .error fault) : checkPath base = .ok () ∧ IsTried base := by
  rcases h.isBase with hpieces | hpieces | ⟨lead, hpieces⟩
  · rw [hpieces] at henter
    cases henter
  · rw [hpieces] at henter
    cases henter
  · have hvalid := h.valid (by simp [hpieces])
    have htrimmed : base.trimmed = base := by
      rw [Path.trimmed, hpieces, Path.trimPieces_concat, if_pos (by simp [Path.component?]),
        ← hpieces]
    exact ⟨hvalid, isTried_of_trimmed htrimmed (by simp [hpieces])⟩

lemma ChainTo.createFrom_eq_descend (h : ChainTo q base chain) (above : List Path) :
    t.createFrom ((chain.map Prod.snd).reverse ++ base :: above) =
      t.descend base above (chain.map Prod.fst) := by
  rw [descend]
  cases henter : t.enter base.pieces with
  | ok here =>
    exact createFrom_nested h.nested henter fun missing =>
      h.isBase.createHighest_eq h.valid henter missing above
  | error fault =>
    dsimp only
    by_cases hbarred : chain.map Prod.fst ≠ [] ∧ fault ≠ .notFound
    · rw [if_pos hbarred]
      exact createFrom_nested_fault h.nested (by simpa using hbarred.1) henter hbarred.2
        (fun hexists => walk_ne_exists t [] _ (hexists ▸ henter)) _
    · rw [if_neg hbarred]
      obtain ⟨hvalid, htried⟩ := h.isTried henter
      have hbelow : ∀ p ∈ (chain.map Prod.snd).reverse,
          t.createDir p = .error .notFound ∧ IsTried p := by
        intro p hp
        obtain ⟨entry, hentry, rfl⟩ := List.mem_map.1 (List.mem_reverse.1 hp)
        obtain rfl : fault = .notFound := by
          by_contra hfault
          exact hbarred ⟨by simpa using List.ne_nil_of_mem hentry, hfault⟩
        exact createDir_nested_fault h.nested henter entry hentry
      rw [createFrom_of_notFound hbelow, List.reverse_reverse]
      cases hcreate : t.createFrom (base :: above) with
      | mk made result =>
        cases result with
        | error fault => rfl
        | ok _ =>
          have hdirectory : made.isDirectory base = true := by
            have hok := isDirectory_createFrom htried (by rw [hcreate])
            rwa [hcreate] at hok
          have hentered : ∃ here, made.enter base.pieces = .ok here := by
            rw [isDirectory_eq hvalid] at hdirectory
            cases hmade : made.enter base.pieces with
            | ok here => exact ⟨here, rfl⟩
            | error fault => simp [hmade, Except.toBool] at hdirectory
          obtain ⟨here, hhere⟩ := hentered
          obtain rfl := eq_placeOf_of_enter hhere
          exact createEach_nested h.nested hhere

end Chain

/-- In every tree, creating the directories of a path fails in one way that has nothing to do with
the tree, or it goes down from a base. -/
lemma createDirs_cases (htrimmed : q.trimmed = q) :
    (∃ fault, ∀ t : FileTree, t.createDirs q = (t, .error fault)) ∨
      ∃ base above names, IsBase base ∧ base.pieces <+: q.pieces ∧
        placeOf q = placeOf base ++ names ∧ (∀ r ∈ base :: above, r.pieces <+: base.pieces) ∧
        ∀ t : FileTree, t.createDirs q = t.descend base above names := by
  by_cases hinvalid : q.pieces ≠ [] ∧ ∃ fault, checkPath q = .error fault
  · obtain ⟨hne, fault, hfault⟩ := hinvalid
    exact Or.inl ⟨fault, fun t => createDirs_of_invalid htrimmed hne hfault⟩
  · have hvalid : q.pieces ≠ [] → checkPath q = .ok () := by
      intro hne
      cases hcheck : checkPath q with
      | error fault => exact absurd ⟨hne, fault, hcheck⟩ hinvalid
      | ok _ => rfl
    obtain ⟨base, chain, hchain⟩ := exists_chainTo htrimmed hvalid
    obtain ⟨above, hcreate, hpieces⟩ := hchain.createDirs_eq
    refine Or.inr ⟨base, above, chain.map Prod.fst, hchain.isBase, hchain.pieces, hchain.place,
      hpieces, fun t => ?_⟩
    rw [hcreate, hchain.createFrom_eq_descend]

/-- If nothing fails, the path leads through directories to a directory. -/
lemma directories_of_createDirs (htrimmed : q.trimmed = q) (hok : (t.createDirs q).2 = .ok ()) :
    (∀ x ∈ trail [] q.pieces, (t.createDirs q).1.get? x = some .directory) ∧
      (t.createDirs q).1.get? (placeOf q) = some .directory := by
  by_cases hne : q.pieces = []
  · simp [placeOf, hne]
  · exact directories_of_isDirectory (isDirectory_createFrom (isTried_of_trimmed htrimmed hne) hok)

/-! ## What is created -/

/-- The directories that stand below a place once names are created, up to one that is too long. -/
def made (here : Place) : List String → List Place
  | [] => []
  | name :: rest => if tooLong name then [] else (here ++ [name]) :: made (here ++ [name]) rest

lemma made_cons_of_short {rest : List String} (h : ¬ tooLong name = true) :
    made here (name :: rest) = (here ++ [name]) :: made (here ++ [name]) rest :=
  if_neg h

lemma mem_made {names : List String} (h : x ∈ made here names) :
    here <+: x ∧ x <+: here ++ names := by
  induction names generalizing here with
  | nil => simp [made] at h
  | cons name rest ih =>
    have hhere : here ++ name :: rest = here ++ [name] ++ rest := by simp
    by_cases hlong : tooLong name = true
    · simp [made, hlong] at h
    · rw [made_cons_of_short hlong, List.mem_cons] at h
      rcases h with rfl | h
      · exact ⟨List.prefix_append _ _, hhere ▸ List.prefix_append _ _⟩
      · obtain ⟨hbelow, hlead⟩ := ih h
        exact ⟨(List.prefix_append _ _).trans hbelow, hhere ▸ hlead⟩

/-- Where no file is in the way, everything up to a long name is created. -/
lemma makeAll_of_clear {names : List String} (created : Bool)
    (hclear : ∀ x ∈ made here names, ∀ data, t.get? x ≠ some (.file data)) :
    (t.makeAll created here names).2 =
        (if names.any tooLong then .error .nameTooLong else .ok ()) ∧
      ∀ x, (t.makeAll created here names).1.get? x =
        if x ∈ made here names then some .directory else t.get? x := by
  induction names generalizing t here created with
  | nil => simp [makeAll, made]
  | cons name rest ih =>
    by_cases hlong : tooLong name = true
    · simp [makeAll_cons_of_long hlong, made, hlong]
    · rw [made_cons_of_short hlong] at hclear ⊢
      rw [List.forall_mem_cons] at hclear
      simp only [List.any_cons, hlong, Bool.false_or, List.mem_cons]
      cases hget : t.get? (here ++ [name]) with
      | none =>
        have hnonempty : here ++ [name] ≠ [] := by simp
        have hput := get?_put t hnonempty .directory
        have hclear' : ∀ x ∈ made (here ++ [name]) rest, ∀ data,
            (t.put (here ++ [name]) .directory).get? x ≠ some (.file data) := by
          intro x hx data
          rw [hput]
          by_cases heq : x = here ++ [name]
          · simp [heq]
          · simpa [heq] using hclear.2 x hx data
        obtain ⟨hanswer, htree⟩ := ih true hclear'
        rw [makeAll_cons_of_none hlong hget]
        refine ⟨hanswer, fun x => ?_⟩
        rw [htree, hput]
        by_cases heq : x = here ++ [name] <;> simp [heq]
      | some node =>
        cases node with
        | file data => exact absurd hget (hclear.1 data)
        | directory =>
          obtain ⟨hanswer, htree⟩ := ih created hclear.2
          rw [makeAll_cons_of_directory hlong hget]
          refine ⟨hanswer, fun x => ?_⟩
          rw [htree]
          by_cases heq : x = here ++ [name]
          · simp [heq, hget]
          · simp [heq]

/-- Nothing but missing directories is created. -/
lemma get?_makeAll (created : Bool) (here : Place) (names : List String) (x : Place) :
    (t.makeAll created here names).1.get? x = t.get? x ∨
      (t.get? x = none ∧ (t.makeAll created here names).1.get? x = some .directory ∧
        x <+: here ++ names) := by
  induction names generalizing t here created with
  | nil => exact Or.inl rfl
  | cons name rest ih =>
    have hnames : here ++ name :: rest = here ++ [name] ++ rest := by simp
    rcases makeAll_cons_cases t created here name rest with
      ⟨fault, hfault⟩ | ⟨t', created', hmake, hthere, hbefore, hother⟩
    · exact Or.inl (by rw [hfault])
    · have hrest := ih (t := t') created' (here ++ [name])
      rw [hmake, hnames]
      by_cases heq : x = here ++ [name]
      · subst heq
        have hstands : (t'.makeAll created' (here ++ [name]) rest).1.get? (here ++ [name]) =
            some .directory := by
          rcases hrest with hsame | ⟨hnone, -⟩
          · exact hsame.trans hthere
          · simp [hthere] at hnone
        rcases hbefore with hnone | hdirectory
        · exact Or.inr ⟨hnone, hstands, List.prefix_append _ _⟩
        · exact Or.inl (hstands.trans hdirectory.symm)
      · rwa [hother x heq] at hrest

lemma directory_makeAll (created : Bool) (here : Place) (names : List String)
    (hget : t.get? x = some .directory) :
    (t.makeAll created here names).1.get? x = some .directory := by
  rcases get?_makeAll created here names x with hsame | ⟨hnone, -⟩
  · exact hsame.trans hget
  · simp [hget] at hnone

end Blueprint.FileTree
