import Blueprint.FileTree.Basic
import Blueprint.Proofs.Path
import Mathlib.Data.List.TakeWhile

/-!
# Walking through a file tree

Where a path leads is a matter of its spelling alone: `followAll` says where, and `trail` lists the
places that are left on the way.  The tree only decides whether a walk gets there, and it is asked
about nothing but the trail (`walk_congr`).

A path can look at places that have nothing to do with its end: `a/../b` passes through `a`.  Pieces
that make it do so are called risky.  Its detours in a tree are the places that it leaves before a
risky piece and that are no directories there; all other places on its trail are directories or lie
above its end (`mem_trail_cases`).  A path without detours is steady.
-/

namespace Blueprint.FileTree

open Blueprint.Path (IsBlank IsPlain piece_cases)

/-! ## Where a path leads -/

/-- Where a piece of a path leads from a place, whatever stands there. -/
def follow (here : Place) (piece : String) : Place :=
  match Path.component? false piece with
  | some .parent => here.dropLast
  | some (.normal name) => here ++ [name]
  | _ => here

/-- Where pieces of a path lead from a place. -/
def followAll (here : Place) (pieces : List String) : Place :=
  pieces.foldl follow here

/-- The places that pieces of a path leave again. -/
def trail : Place → List String → List Place
  | _, [] => []
  | here, piece :: rest => here :: trail (follow here piece) rest

/-- Whether a piece of a path is longer than a name may be. -/
def tooLong (piece : String) : Bool :=
  maxNameLength < Text.byteLength piece.toList

variable {here x : Place} {piece : String} {pieces : List String} {s t : FileTree}

lemma follow_blank (h : IsBlank piece) : follow here piece = here := by
  rcases h with rfl | rfl <;> rfl

@[simp] lemma follow_up : follow here ".." = here.dropLast := rfl

lemma follow_plain (h : IsPlain piece) : follow here piece = here ++ [piece] := by
  rw [follow, h.component?]

@[simp] lemma followAll_nil : followAll here [] = here := rfl

@[simp] lemma followAll_cons (rest : List String) :
    followAll here (piece :: rest) = followAll (follow here piece) rest := rfl

lemma followAll_append (lead rest : List String) :
    followAll here (lead ++ rest) = followAll (followAll here lead) rest :=
  List.foldl_append

lemma followAll_blanks {blanks : List String} (h : ∀ blank ∈ blanks, IsBlank blank) :
    followAll here blanks = here := by
  induction blanks with
  | nil => rfl
  | cons blank rest ih =>
    rw [followAll_cons, follow_blank (h blank List.mem_cons_self)]
    exact ih fun b hb => h b (List.mem_cons_of_mem blank hb)

@[simp] lemma trail_nil : trail here [] = [] := rfl

@[simp] lemma trail_cons (rest : List String) :
    trail here (piece :: rest) = here :: trail (follow here piece) rest := rfl

lemma trail_append (lead rest : List String) :
    trail here (lead ++ rest) = trail here lead ++ trail (followAll here lead) rest := by
  induction lead generalizing here with
  | nil => rfl
  | cons piece lead ih => simp [ih]

lemma eq_of_mem_trail_blanks {blanks : List String} (h : ∀ blank ∈ blanks, IsBlank blank)
    (hx : x ∈ trail here blanks) : x = here := by
  induction blanks with
  | nil => simp at hx
  | cons blank rest ih =>
    rw [trail_cons, follow_blank (h blank List.mem_cons_self), List.mem_cons] at hx
    rcases hx with heq | hx
    · exact heq
    · exact ih (fun b hb => h b (List.mem_cons_of_mem blank hb)) hx

/-- A path that does not go up leads to a place below its start. -/
lemma prefix_followAll (h : ∀ piece ∈ pieces, piece ≠ "..") : here <+: followAll here pieces := by
  induction pieces generalizing here with
  | nil => exact List.prefix_rfl
  | cons piece rest ih =>
    have hrest : follow here piece <+: followAll (follow here piece) rest :=
      ih fun p hp => h p (List.mem_cons_of_mem piece hp)
    have hfirst : here <+: follow here piece := by
      rcases piece_cases piece with hblank | hup | hplain
      · exact (follow_blank hblank).symm ▸ List.prefix_rfl
      · exact absurd hup (h piece List.mem_cons_self)
      · rw [follow_plain hplain]
        exact List.prefix_append _ _
    exact hfirst.trans hrest

/-- A path that does not go up stays below its start. -/
lemma prefix_of_mem_trail (h : ∀ piece ∈ pieces, piece ≠ "..") (hx : x ∈ trail here pieces) :
    here <+: x := by
  induction pieces generalizing here with
  | nil => simp at hx
  | cons piece rest ih =>
    rcases List.mem_cons.1 hx with rfl | hx
    · exact List.prefix_rfl
    · have hfirst : here <+: followAll here [piece] := prefix_followAll fun p hp =>
        h p (List.mem_singleton.1 hp ▸ List.mem_cons_self)
      exact hfirst.trans (ih (fun p hp => h p (List.mem_cons_of_mem piece hp)) hx)

lemma exists_lead_of_mem_trail (hx : x ∈ trail here pieces) :
    ∃ lead rest, pieces = lead ++ rest ∧ x = followAll here lead := by
  induction pieces generalizing here with
  | nil => simp at hx
  | cons piece rest ih =>
    rcases List.mem_cons.1 hx with rfl | hx
    · exact ⟨[], _, rfl, rfl⟩
    · obtain ⟨lead, rest, rfl, rfl⟩ := ih hx
      exact ⟨piece :: lead, rest, rfl, rfl⟩

/-- All places above the end of a path lie above its start or on its trail. -/
lemma mem_trail_of_prefix (hlead : x <+: followAll here pieces)
    (hne : x ≠ followAll here pieces) : (x <+: here ∧ x ≠ here) ∨ x ∈ trail here pieces := by
  induction pieces generalizing here with
  | nil => exact Or.inl ⟨hlead, hne⟩
  | cons piece rest ih =>
    rcases ih hlead hne with ⟨hx, hxne⟩ | hx
    · rcases piece_cases piece with hblank | rfl | hplain
      · rw [follow_blank hblank] at hx hxne
        exact Or.inl ⟨hx, hxne⟩
      · have hlonger : x <+: here := hx.trans (List.dropLast_prefix here)
        refine Or.inl ⟨hlonger, ?_⟩
        rintro rfl
        exact hxne (hx.eq_of_length_le (by simp))
      · rw [follow_plain hplain] at hx hxne
        rcases List.prefix_concat_iff.1 hx with heq | hx
        · exact absurd heq hxne
        · by_cases heq : x = here
          · exact Or.inr (heq ▸ List.mem_cons_self)
          · exact Or.inl ⟨hx, heq⟩
    · exact Or.inr (List.mem_cons_of_mem here hx)

/-! ## What a walk depends on -/

lemma walk_cons (rest : List String) :
    t.walk here (piece :: rest) =
      match t.get? here with
      | none => .error .notFound
      | some (.file _) => .error .notDirectory
      | some .directory =>
        if tooLong piece then .error .nameTooLong else t.walk (follow here piece) rest := by
  have hshort : tooLong "" = false ∧ tooLong "." = false ∧ tooLong ".." = false := by decide
  rw [walk]
  cases t.get? here with
  | none => rfl
  | some node =>
    cases node with
    | file data => rfl
    | directory =>
      rcases piece_cases piece with (rfl | rfl) | rfl | hplain
      · simp [hshort, Path.component?, follow]
      · simp [hshort, Path.component?, follow]
      · simp [hshort, Path.component?]
      · simp [hplain.component?, follow_plain hplain, tooLong]

lemma walk_append (lead rest : List String) :
    t.walk here (lead ++ rest) =
      match t.walk here lead with
      | .error fault => .error fault
      | .ok there => t.walk there rest := by
  induction lead generalizing here with
  | nil => rfl
  | cons piece lead ih =>
    rw [List.cons_append, walk_cons, walk_cons]
    cases t.get? here with
    | none => rfl
    | some node =>
      cases node with
      | file data => rfl
      | directory =>
        by_cases hlong : tooLong piece = true
        · simp [hlong]
        · simp [hlong, ih]

/-- A walk that gets anywhere gets where its path leads. -/
lemma eq_followAll_of_walk (h : t.walk here pieces = .ok x) : x = followAll here pieces := by
  induction pieces generalizing here with
  | nil => exact (Except.ok.inj h).symm
  | cons piece rest ih =>
    rw [walk_cons] at h
    cases hget : t.get? here with
    | none => simp [hget] at h
    | some node =>
      cases node with
      | file data => simp [hget] at h
      | directory =>
        by_cases hlong : tooLong piece = true
        · simp [hget, hlong] at h
        · simp only [hget, hlong] at h
          exact ih h

/-- A walk depends on the trail only. -/
lemma walk_congr (h : ∀ x ∈ trail here pieces, s.get? x = t.get? x) :
    s.walk here pieces = t.walk here pieces := by
  induction pieces generalizing here with
  | nil => rfl
  | cons piece rest ih =>
    have hhere : s.get? here = t.get? here := h here List.mem_cons_self
    have hrest := ih fun x hx => h x (List.mem_cons_of_mem here hx)
    rw [walk_cons, walk_cons, hhere, hrest]

/-- A walk that gets somewhere still does so once there are more directories. -/
lemma walk_mono (h : ∀ y, s.get? y = some .directory → t.get? y = some .directory)
    (hwalk : s.walk here pieces = .ok x) : t.walk here pieces = .ok x := by
  induction pieces generalizing here with
  | nil => exact hwalk
  | cons piece rest ih =>
    rw [walk_cons] at hwalk ⊢
    cases hget : s.get? here with
    | none => simp [hget] at hwalk
    | some node =>
      cases node with
      | file data => simp [hget] at hwalk
      | directory =>
        rw [h here hget]
        by_cases hlong : tooLong piece = true
        · simp [hget, hlong] at hwalk
        · simp only [hget, hlong] at hwalk ⊢
          exact ih hwalk

/-- Among directories only a long name stops a walk. -/
lemma walk_of_directories (h : ∀ x ∈ trail here pieces, t.get? x = some .directory) :
    t.walk here pieces =
      if pieces.any tooLong then .error .nameTooLong else .ok (followAll here pieces) := by
  induction pieces generalizing here with
  | nil => rfl
  | cons piece rest ih =>
    have hrest := ih fun x hx => h x (List.mem_cons_of_mem here hx)
    rw [walk_cons, h here List.mem_cons_self, List.any_cons]
    by_cases hlong : tooLong piece = true
    · simp [hlong]
    · simp [hlong, hrest]

lemma read_eq (p : Path) :
    t.read p =
      match checkPath p, t.walk [] p.pieces with
      | .error fault, _ => .error fault
      | .ok (), .error fault => .error fault
      | .ok (), .ok there =>
        match t.get? there with
        | none => .error .notFound
        | some .directory => .error .isDirectory
        | some (.file data) => .ok data := by
  unfold read locate
  cases checkPath p with
  | error fault => rfl
  | ok _ => cases t.walk [] p.pieces <;> rfl

/-! ## How a path ends -/

/-- The place that a path leads to. -/
def placeOf (p : Path) : Place :=
  followAll [] p.pieces

/-- The pieces of a path without the empty ones at its end. -/
def unslashed (pieces : List String) : List String :=
  (pieces.reverse.dropWhile (· = "")).reverse

lemma exists_unslashed_append (pieces : List String) :
    ∃ blanks, pieces = unslashed pieces ++ blanks ∧ ∀ blank ∈ blanks, IsBlank blank := by
  refine ⟨(pieces.reverse.takeWhile (· = "")).reverse, ?_, fun blank hblank => Or.inl ?_⟩
  · rw [unslashed, ← List.reverse_append, List.takeWhile_append_dropWhile, List.reverse_reverse]
  · simpa using List.mem_takeWhile_imp (List.mem_reverse.1 hblank)

lemma ne_empty_of_getLast?_unslashed (h : (unslashed pieces).getLast? = some piece) :
    piece ≠ "" := by
  rw [unslashed, List.getLast?_reverse] at h
  have hhead := List.head?_dropWhile_not (· = "") pieces.reverse
  rw [h] at hhead
  simpa using hhead

lemma placeOf_eq_unslashed (p : Path) : placeOf p = followAll [] (unslashed p.pieces) := by
  obtain ⟨blanks, hpieces, hblanks⟩ := exists_unslashed_append p.pieces
  calc placeOf p = followAll [] (unslashed p.pieces ++ blanks) := congrArg (followAll []) hpieces
    _ = followAll [] (unslashed p.pieces) := by rw [followAll_append, followAll_blanks hblanks]

/-- The end of a path is found by one walk along its pieces. -/
lemma locateEnd_eq (p : Path) :
    t.locateEnd p =
      match checkPath p, (unslashed p.pieces).getLast? with
      | .error fault, _ => .error fault
      | .ok (), none => .ok .dots
      | .ok (), some piece =>
        match t.walk [] (unslashed p.pieces) with
        | .error fault => .error fault
        | .ok there =>
          if piece = "." || piece = ".." then .ok .dots
          else .ok (.name there.dropLast piece
            (decide ((unslashed p.pieces).length < p.pieces.length))) := by
  unfold locateEnd
  cases checkPath p with
  | error fault => rfl
  | ok _ =>
    cases hlast : (unslashed p.pieces).getLast? with
    | none =>
      rw [unslashed] at hlast
      simp only [hlast]
      rfl
    | some piece =>
      have hsplit : unslashed p.pieces = (unslashed p.pieces).dropLast ++ [piece] :=
        (List.dropLast_append_getLast? piece hlast).symm
      have hwalk : t.walk [] (unslashed p.pieces) =
          match t.walk [] (unslashed p.pieces).dropLast with
          | .error fault => .error fault
          | .ok there => t.walk there [piece] := by
        rw [← walk_append, ← hsplit]
      rw [hwalk]
      rw [unslashed] at hlast
      simp only [hlast]
      change (t.walk [] (unslashed p.pieces).dropLast >>= _) = _
      cases t.walk [] (unslashed p.pieces).dropLast with
      | error fault => rfl
      | ok directory =>
        change (t.walk directory [piece] >>= _) = _
        dsimp only
        cases t.walk directory [piece] with
        | error fault => rfl
        | ok there =>
          by_cases hdots : (piece = "." || piece = "..") = true
          · simp [hdots]
          · simp [hdots, unslashed]

/-- The end of a path depends on its trail only. -/
lemma locateEnd_congr {p : Path} (h : ∀ x ∈ trail [] p.pieces, s.get? x = t.get? x) :
    s.locateEnd p = t.locateEnd p := by
  obtain ⟨blanks, hpieces, -⟩ := exists_unslashed_append p.pieces
  have hwalk : s.walk [] (unslashed p.pieces) = t.walk [] (unslashed p.pieces) := by
    refine walk_congr fun x hx => h x ?_
    rw [hpieces, trail_append]
    exact List.mem_append_left _ hx
  rw [locateEnd_eq, locateEnd_eq, hwalk]

/-- A path that ends in a name has the name as its last piece that is not empty, and a walk along it
gets to the name. -/
lemma locateEnd_eq_name {p : Path} {directory : Place} {name : String} {slashed : Bool}
    (h : t.locateEnd p = .ok (.name directory name slashed)) :
    ∃ init, unslashed p.pieces = init ++ [name] ∧ IsPlain name ∧ checkPath p = .ok () ∧
      t.walk [] (init ++ [name]) = .ok (directory ++ [name]) ∧ followAll [] init = directory ∧
      slashed = decide ((unslashed p.pieces).length < p.pieces.length) := by
  rw [locateEnd_eq] at h
  cases hcheck : checkPath p with
  | error fault => simp [hcheck] at h
  | ok _ =>
    cases hlast : (unslashed p.pieces).getLast? with
    | none => simp [hcheck, hlast] at h
    | some piece =>
      cases hwalk : t.walk [] (unslashed p.pieces) with
      | error fault => simp [hcheck, hlast, hwalk] at h
      | ok there =>
        by_cases hdots : (piece = "." || piece = "..") = true
        · simp [hcheck, hlast, hwalk, hdots] at h
        · simp only [hcheck, hlast, hwalk, hdots] at h
          obtain ⟨rfl, rfl, hslashed⟩ := PathEnd.name.inj (Except.ok.inj h)
          rw [Bool.or_eq_true, decide_eq_true_eq, decide_eq_true_eq, not_or] at hdots
          have hplain : IsPlain piece :=
            ⟨ne_empty_of_getLast?_unslashed hlast, hdots.1, hdots.2⟩
          have hsplit := (List.dropLast_append_getLast? piece hlast).symm
          have hthere : there = followAll [] (unslashed p.pieces).dropLast ++ [piece] := by
            calc there = followAll [] (unslashed p.pieces) := eq_followAll_of_walk hwalk
              _ = followAll [] ((unslashed p.pieces).dropLast ++ [piece]) := by rw [← hsplit]
              _ = followAll [] (unslashed p.pieces).dropLast ++ [piece] := by
                rw [followAll_append, followAll_cons, followAll_nil, follow_plain hplain]
          refine ⟨_, hsplit, hplain, rfl, ?_, ?_, hslashed.symm⟩
          · rw [← hsplit, hwalk, hthere, List.dropLast_concat]
          · rw [hthere, List.dropLast_concat]

/-- A path that ends in a name leads to what that name stands for. -/
lemma placeOf_of_locateEnd {p : Path} {directory : Place} {name : String} {slashed : Bool}
    (h : t.locateEnd p = .ok (.name directory name slashed)) :
    placeOf p = directory ++ [name] := by
  obtain ⟨init, hpieces, -, -, hwalk, -⟩ := locateEnd_eq_name h
  rw [placeOf_eq_unslashed, hpieces, ← eq_followAll_of_walk hwalk]

/-! ## Well-formed trees -/

/-- Above everything that stands in the tree there are directories. -/
def WellFormed (t : FileTree) : Prop :=
  ∀ place name, t.get? (place ++ [name]) ≠ none → t.get? place = some .directory

lemma hasDirectory_iff : t.hasDirectory x = true ↔ t.get? x = some .directory := by
  unfold hasDirectory
  cases t.get? x with
  | none => simp
  | some node => cases node <;> simp [Node.isDirectory]

lemma WellFormed.directory_of_prefix (h : t.WellFormed) {y : Place} (hlead : x <+: y)
    (hne : x ≠ y) (hy : t.get? y ≠ none) : t.get? x = some .directory := by
  obtain ⟨names, rfl⟩ := hlead
  induction names using List.reverseRecOn with
  | nil => simp at hne
  | append_singleton names name ih =>
    rw [← List.append_assoc] at hy
    have habove : t.get? (x ++ names) = some .directory := h _ name hy
    by_cases hnames : names = []
    · simpa [hnames] using habove
    · exact ih (by simpa using hnames) (by simp [habove])

/-- Below a place where nothing stands there is nothing. -/
lemma WellFormed.none_of_prefix (h : t.WellFormed) {y : Place} (hlead : x <+: y)
    (hnone : t.get? x = none) : t.get? y = none := by
  by_contra hy
  by_cases heq : x = y
  · exact hy (heq ▸ hnone)
  · simp [h.directory_of_prefix hlead heq hy] at hnone

/-- In terms of the entries of a tree. -/
lemma wellFormed_of_nodes (h : ∀ entry ∈ t.nodes, t.hasDirectory entry.1.dropLast = true) :
    t.WellFormed := by
  intro place name hget
  obtain ⟨node, hnode⟩ := Option.ne_none_iff_exists'.1 hget
  rw [get?, if_neg (by simp), Option.map_eq_some_iff] at hnode
  obtain ⟨entry, hentry, -⟩ := hnode
  have hplace : entry.1 = place ++ [name] := by simpa using List.find?_some hentry
  have hdirectory := h entry (List.mem_of_find?_eq_some hentry)
  rwa [hplace, List.dropLast_concat, hasDirectory_iff] at hdirectory

/-! ## Steady paths -/

/-- Whether each place that pieces of a path leave before a risky piece is a directory. -/
def steady (t : FileTree) (risky : String → Bool) : Place → List String → Bool
  | _, [] => true
  | here, piece :: rest =>
    (!(piece :: rest).any risky || t.hasDirectory here) && t.steady risky (follow here piece) rest

/-- Whether a piece leads to the directory above. -/
def goesUp (piece : String) : Bool :=
  piece = ".."

variable {risky : String → Bool}

lemma steady_cons_iff {rest : List String} :
    t.steady risky here (piece :: rest) = true ↔
      ((∃ p ∈ piece :: rest, risky p = true) → t.get? here = some .directory) ∧
        t.steady risky (follow here piece) rest = true := by
  rw [steady, Bool.and_eq_true, Bool.or_eq_true, Bool.not_eq_true', ← Bool.not_eq_true,
    List.any_eq_true, hasDirectory_iff, imp_iff_not_or]

lemma steady_of_append {lead rest : List String}
    (h : t.steady risky here (lead ++ rest) = true) : t.steady risky here lead = true := by
  induction lead generalizing here with
  | nil => rfl
  | cons piece lead ih =>
    rw [List.cons_append, steady_cons_iff] at h
    refine steady_cons_iff.2 ⟨fun hrisky => h.1 ?_, ih h.2⟩
    obtain ⟨p, hp, hrisky⟩ := hrisky
    exact ⟨p, List.mem_append_left rest hp, hrisky⟩

/-! ## Detours -/

/-- The places, other than directories, that pieces of a path leave before a risky piece. -/
def detours (t : FileTree) (risky : String → Bool) : Place → List String → List Place
  | _, [] => []
  | here, piece :: rest =>
    (if (piece :: rest).any risky && !t.hasDirectory here then [here] else []) ++
      t.detours risky (follow here piece) rest

@[simp] lemma detours_nil : t.detours risky here [] = [] := rfl

lemma mem_detours_cons {rest : List String} :
    x ∈ t.detours risky here (piece :: rest) ↔
      ((∃ p ∈ piece :: rest, risky p = true) ∧ t.get? here ≠ some .directory ∧ x = here) ∨
        x ∈ t.detours risky (follow here piece) rest := by
  have hhere : ((piece :: rest).any risky && !t.hasDirectory here) = true ↔
      (∃ p ∈ piece :: rest, risky p = true) ∧ t.get? here ≠ some .directory := by
    rw [Bool.and_eq_true, List.any_eq_true, Bool.not_eq_true', ← Bool.not_eq_true,
      hasDirectory_iff]
  rw [detours, List.mem_append]
  by_cases h : ((piece :: rest).any risky && !t.hasDirectory here) = true
  · rw [if_pos h, List.mem_singleton]
    simp only [hhere.1 h, true_and, ne_eq, not_false_eq_true]
  · rw [if_neg h]
    rw [hhere, not_and, not_not] at h
    simp only [List.not_mem_nil, false_or]
    refine ⟨Or.inr, fun hx => hx.resolve_left ?_⟩
    rintro ⟨hrisky, hne, -⟩
    exact hne (h hrisky)

lemma detours_eq_nil_of_steady (h : t.steady risky here pieces = true) :
    t.detours risky here pieces = [] := by
  refine List.eq_nil_iff_forall_not_mem.2 fun x hx => ?_
  induction pieces generalizing here with
  | nil => simp at hx
  | cons piece rest ih =>
    rw [steady_cons_iff] at h
    rcases mem_detours_cons.1 hx with ⟨hrisky, hne, -⟩ | hx
    · exact hne (h.1 hrisky)
    · exact ih h.2 hx

/-- What pieces leave before a risky piece is a directory or a detour. -/
lemma mem_detours_of_lead {lead rest : List String} (hrisky : ∃ p ∈ rest, risky p = true) :
    t.get? (followAll here lead) = some .directory ∨
      followAll here lead ∈ t.detours risky here (lead ++ rest) := by
  induction lead generalizing here with
  | nil =>
    by_cases hdirectory : t.get? here = some .directory
    · exact Or.inl hdirectory
    · obtain ⟨piece, rest, rfl⟩ : ∃ piece others, rest = piece :: others :=
        List.exists_cons_of_ne_nil (by rintro rfl; simp at hrisky)
      exact Or.inr (mem_detours_cons.2 (Or.inl ⟨hrisky, hdirectory, rfl⟩))
  | cons piece lead ih => exact ih.imp_right fun hmem => mem_detours_cons.2 (Or.inr hmem)

/-- Pieces that are added to a path add to its detours. -/
lemma mem_detours_append {lead rest : List String} (hx : x ∈ t.detours risky here lead) :
    x ∈ t.detours risky here (lead ++ rest) := by
  induction lead generalizing here with
  | nil => simp at hx
  | cons piece lead ih =>
    rw [List.cons_append, mem_detours_cons]
    rcases mem_detours_cons.1 hx with ⟨⟨p, hp, hrisky⟩, hne, rfl⟩ | hx
    · exact Or.inl ⟨⟨p, by simpa using Or.imp_right Or.inl (List.mem_cons.1 hp), hrisky⟩, hne, rfl⟩
    · exact Or.inr (ih hx)

lemma mem_detours_mono {safer : String → Bool} (hsafer : ∀ p, safer p = true → risky p = true)
    (hx : x ∈ t.detours safer here pieces) : x ∈ t.detours risky here pieces := by
  induction pieces generalizing here with
  | nil => simp at hx
  | cons piece rest ih =>
    rw [mem_detours_cons] at hx ⊢
    rcases hx with ⟨⟨p, hp, hrisky⟩, hne, rfl⟩ | hx
    · exact Or.inl ⟨⟨p, hp, hsafer p hrisky⟩, hne, rfl⟩
    · exact Or.inr (ih hx)

/-- What a path passes is a directory, or a detour, or it lies above the end of the path. -/
lemma mem_trail_cases (hx : x ∈ trail here pieces) :
    t.get? x = some .directory ∨ x ∈ t.detours goesUp here pieces ∨
      x <+: followAll here pieces := by
  induction pieces generalizing here with
  | nil => simp at hx
  | cons piece rest ih =>
    rcases List.mem_cons.1 hx with rfl | hx
    · by_cases hup : ∃ p ∈ piece :: rest, goesUp p = true
      · have hlead : t.get? (followAll x []) = some .directory ∨
            followAll x [] ∈ t.detours goesUp x ([] ++ piece :: rest) := mem_detours_of_lead hup
        exact hlead.imp_right Or.inl
      · refine Or.inr (Or.inr (prefix_followAll fun p hp heq => hup ⟨p, hp, ?_⟩))
        simp [goesUp, heq]
    · exact (ih hx).imp_right (Or.imp_left fun hmem => mem_detours_cons.2 (Or.inr hmem))

end Blueprint.FileTree
