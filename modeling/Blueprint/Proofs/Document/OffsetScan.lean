import Blueprint.Proofs.Document.Place
import Mathlib.Order.Monotone.Defs

/-!
# Scanning any text for an offset

`valueOffset` is asked about raw strings of a document, but it gives an answer for every text: for
an escape that is cut off, for a backslash before a character of several bytes, for a text without
quotes.  This file says that the answer always lies inside of the text, and never moves back when
the column grows.

The walk over a text recurses on its characters, so it ends by definition.  Here it is compared with
a loop that does not: a `Cursor` holds a byte offset and moves on by the size of the step that
begins there, whether or not a character ends where the step does.  Each round moves the cursor on
and leaves it inside of the text (`Cursor.offset_lt_of_next?`), so the loop is over after at most as
many rounds as the text has bytes, and then it has found what the walk finds (`Cursor.run_eq`).

The main statement is `valueOffset_scan`.
-/

namespace Blueprint.Document

open Text

/-! ## The walk over any text -/

lemma utf8Size_le_size (literal : Bool) (c : Char) (rest : List Char) :
    c.utf8Size ≤ (stepAt literal c rest).size := by
  rw [stepAt]
  split
  next hslash =>
    obtain rfl : c = '\\' := by simp_all
    have hone : '\\'.utf8Size = 1 := rfl
    rw [hone]
    split
    · decide
    · split_ifs
      · decide
      · decide
      · exact Nat.le_add_right 1 _
      · decide
  next => exact Nat.le_refl _

/-- A step of the walk passes its bytes, the first character among them. -/
lemma walk_step (literal : Bool) (target : Nat) (c : Char) (rest : List Char) :
    walk literal (target + 1) 0 (c :: rest) =
      walk literal (if (stepAt literal c rest).produces then target else target + 1)
        (stepAt literal c rest).size (c :: rest) := by
  have hpos := c.utf8Size_pos
  have hle := utf8Size_le_size literal c rest
  obtain ⟨n, hn⟩ : ∃ n, (stepAt literal c rest).size = n + 1 := Nat.exists_eq_add_one.2 (by omega)
  rw [walk, hn, walk, if_pos (show c.utf8Size ≤ n + 1 by omega)]

/-- A step that ends inside of a character, or behind the text, leads to the end. -/
lemma walk_of_dropBytes?_eq_none {literal : Bool} {target skip : Nat} {s : List Char}
    (h : dropBytes? skip s = none) : walk literal target skip s = byteLength s := by
  induction s generalizing skip with
  | nil => rw [walk, byteLength_nil]
  | cons c s ih =>
    cases skip with
    | zero => cases h
    | succ skip =>
      rw [dropBytes?] at h
      rw [walk]
      by_cases hsize : c.utf8Size ≤ skip + 1
      · rw [if_pos hsize] at h
        rw [if_pos hsize, ih h, byteLength_cons]
      · rw [if_neg hsize]

lemma walk_of_dropBytes? {literal : Bool} {target skip : Nat} {s rest : List Char}
    (h : dropBytes? skip s = some rest) :
    walk literal target skip s = skip + walk literal target 0 rest := by
  obtain ⟨front, rfl, rfl⟩ := exists_front_of_dropBytes? h
  exact walk_skip literal target front rest

lemma walk_le_byteLength (literal : Bool) (target skip : Nat) (s : List Char) :
    walk literal target skip s ≤ byteLength s := by
  fun_induction walk literal target skip s with
  | case1 => exact Nat.le_refl _
  | case2 target skip c rest hsize ih =>
    rw [byteLength_cons]
    omega
  | case3 => exact Nat.le_refl _
  | case4 => exact Nat.zero_le _
  | case5 target c rest step ih =>
    rw [byteLength_cons]
    omega

/-- A walk over more characters goes at least as far. -/
lemma walk_le_walk (literal : Bool) {target further : Nat} (h : target ≤ further) (skip : Nat)
    (s : List Char) : walk literal target skip s ≤ walk literal further skip s := by
  induction s generalizing target further skip with
  | nil => exact Nat.le_refl _
  | cons c s ih =>
    cases skip with
    | succ skip =>
      rw [walk, walk]
      split
      · exact Nat.add_le_add_left (ih h _) _
      · exact Nat.le_refl _
    | zero =>
      cases target with
      | zero =>
        rw [walk]
        exact Nat.zero_le _
      | succ target =>
        obtain ⟨further, rfl⟩ := Nat.exists_eq_add_one.2 (Nat.zero_lt_of_lt h)
        rw [walk, walk]
        refine Nat.add_le_add_left (ih ?_ _) _
        split
        · exact Nat.le_of_succ_le_succ h
        · exact h

/-! ## The loop -/

/-- Where a scan of a text stands: the bytes behind it, and how many characters of the string it has
passed with them. -/
structure Cursor where
  offset : Nat
  passed : Nat
deriving DecidableEq

namespace Cursor

/-- The cursor after a step, which does not lead beyond the bytes that are left. -/
def advance (s : Cursor) (step : Step) (left : Nat) : Cursor where
  offset := s.offset + min step.size left
  passed := if step.produces then s.passed + 1 else s.passed

lemma offset_advance (s : Cursor) (step : Step) (left : Nat) :
    (s.advance step left).offset = s.offset + min step.size left :=
  rfl

/-- One round: the cursor moves on by the step that begins at it.  There is no round where no
character begins. -/
def next? (literal : Bool) (body : List Char) (s : Cursor) : Option Cursor :=
  match dropBytes? s.offset body with
  | some (c :: rest) => some (s.advance (stepAt literal c rest) (byteLength (c :: rest)))
  | _ => none

/-- The offset that a scan for `target` characters ends with where it stands, if it ends there: that
of the cursor if all of them are passed, or that of the end if there is no further round. -/
def ends? (literal : Bool) (body : List Char) (target : Nat) (s : Cursor) : Option Nat :=
  if (s.next? literal body).isNone then some (byteLength body)
  else if s.passed = target then some s.offset
  else none

/-- The scan for `target` characters; none if it is not over after so many rounds. -/
def run (literal : Bool) (body : List Char) (target : Nat) : Nat → Cursor → Option Nat
  | 0, s => s.ends? literal body target
  | rounds + 1, s =>
    (s.ends? literal body target).or ((s.next? literal body).bind (run literal body target rounds))

section Rounds

variable {literal : Bool} {body : List Char} {target : Nat} {s t : Cursor}

lemma next?_of_dropBytes? {c : Char} {rest : List Char}
    (h : dropBytes? s.offset body = some (c :: rest)) :
    s.next? literal body = some (s.advance (stepAt literal c rest) (byteLength (c :: rest))) := by
  rw [next?, h]

lemma next?_eq_none (h : dropBytes? s.offset body = none ∨ dropBytes? s.offset body = some []) :
    s.next? literal body = none := by
  rcases h with h | h
  · rw [next?, h]
  · rw [next?, h]

/-- A round moves the cursor on, and not beyond the end. -/
lemma offset_lt_of_next? (h : s.next? literal body = some t) :
    s.offset < t.offset ∧ t.offset ≤ byteLength body := by
  cases hrest : dropBytes? s.offset body with
  | none =>
    rw [next?_eq_none (.inl hrest)] at h
    cases h
  | some rest =>
    cases rest with
    | nil =>
      rw [next?_eq_none (.inr hrest)] at h
      cases h
    | cons c rest =>
      rw [next?_of_dropBytes? hrest] at h
      cases h
      have hpos := c.utf8Size_pos
      have hsize := utf8Size_le_size literal c rest
      have hlength := byteLength_of_dropBytes? hrest
      rw [byteLength_cons] at hlength
      rw [offset_advance, byteLength_cons]
      omega

lemma run_of_ends? {offset : Nat} (h : s.ends? literal body target = some offset) (rounds : Nat) :
    run literal body target rounds s = some offset := by
  cases rounds with
  | zero => exact h
  | succ rounds => rw [run, h, Option.some_or]

lemma run_of_next?_eq_none (h : s.next? literal body = none) (rounds : Nat) :
    run literal body target rounds s = some (byteLength body) := by
  refine run_of_ends? ?_ rounds
  rw [ends?, h]
  rfl

lemma run_succ (hnext : s.next? literal body = some t) (htarget : s.passed ≠ target)
    (rounds : Nat) :
    run literal body target (rounds + 1) s = run literal body target rounds t := by
  have hgoes : s.ends? literal body target = none := by
    rw [ends?, hnext, if_neg (by simp), if_neg htarget]
  rw [run, hgoes, Option.none_or, hnext, Option.bind_some]

/-- After a step that ends inside of a character, or behind the text, the scan is over. -/
lemma run_advance_of_none {rest : List Char} (hrest : dropBytes? s.offset body = some rest)
    {step : Step} (hstep : dropBytes? step.size rest = none) (rounds : Nat) :
    run literal body target rounds (s.advance step (byteLength rest)) = some (byteLength body) := by
  apply run_of_next?_eq_none
  apply next?_eq_none
  rw [offset_advance, dropBytes?_add hrest]
  by_cases hsize : step.size ≤ byteLength rest
  · rw [Nat.min_eq_left hsize]
    exact .inl hstep
  · rw [Nat.min_eq_right (by omega)]
    exact .inr (dropBytes?_byteLength rest)

lemma dropBytes?_advance {rest behind : List Char} (hrest : dropBytes? s.offset body = some rest)
    {step : Step} (hstep : dropBytes? step.size rest = some behind) :
    (s.advance step (byteLength rest)).offset = s.offset + step.size ∧
      dropBytes? (s.advance step (byteLength rest)).offset body = some behind := by
  have hbytes := byteLength_of_dropBytes? hstep
  have hoffset : (s.advance step (byteLength rest)).offset = s.offset + step.size := by
    rw [offset_advance, Nat.min_eq_left (by omega)]
  exact ⟨hoffset, by rw [hoffset, dropBytes?_add hrest, hstep]⟩

lemma passed_advance {remaining : Nat} (h : target - s.passed = remaining + 1) (step : Step)
    (left : Nat) :
    (s.advance step left).passed ≤ target ∧
      target - (s.advance step left).passed =
        if step.produces then remaining else remaining + 1 := by
  simp only [advance]
  by_cases hproduces : step.produces = true
  · rw [if_pos hproduces, if_pos hproduces]
    omega
  · rw [if_neg hproduces, if_neg hproduces]
    omega

/-- From where a character begins, the loop is over after as many rounds as there are bytes left,
and it ends where the walk does. -/
lemma run_eq {rest : List Char} (hrest : dropBytes? s.offset body = some rest)
    (hpassed : s.passed ≤ target) {rounds : Nat} (hrounds : byteLength rest ≤ rounds) :
    run literal body target rounds s =
      some (s.offset + walk literal (target - s.passed) 0 rest) := by
  have hlength := byteLength_of_dropBytes? hrest
  induction rounds generalizing s rest with
  | zero =>
    cases rest with
    | nil => rw [run_of_next?_eq_none (next?_eq_none (.inr hrest)), hlength, walk, byteLength_nil]
    | cons c rest =>
      have hpos := c.utf8Size_pos
      rw [byteLength_cons] at hrounds
      omega
  | succ rounds ih =>
    cases rest with
    | nil => rw [run_of_next?_eq_none (next?_eq_none (.inr hrest)), hlength, walk, byteLength_nil]
    | cons c rest =>
      have hnext : s.next? literal body = some _ := next?_of_dropBytes? hrest
      by_cases htarget : s.passed = target
      · have hends : s.ends? literal body target = some s.offset := by
          rw [ends?, hnext, if_neg (by simp), if_pos htarget]
        rw [run_of_ends? hends, htarget, Nat.sub_self, walk_zero, Nat.add_zero]
      · obtain ⟨remaining, hremaining⟩ : ∃ remaining, target - s.passed = remaining + 1 :=
          Nat.exists_eq_add_one.2 (by omega)
        rw [run_succ hnext htarget, hremaining, walk_step]
        cases hstep : dropBytes? (stepAt literal c rest).size (c :: rest) with
        | none => rw [run_advance_of_none hrest hstep, walk_of_dropBytes?_eq_none hstep, hlength]
        | some behind =>
          have hpos := c.utf8Size_pos
          have hsize := utf8Size_le_size literal c rest
          have hbytes := byteLength_of_dropBytes? hstep
          obtain ⟨hoffset, hbehind⟩ := dropBytes?_advance hrest hstep
          obtain ⟨hle, hleft⟩ := passed_advance hremaining (stepAt literal c rest)
            (byteLength (c :: rest))
          rw [ih hbehind hle (by omega) (byteLength_of_dropBytes? hbehind), hleft, hoffset,
            walk_of_dropBytes? hstep, Nat.add_assoc]

end Rounds

end Cursor

/-! ## The whole text -/

/-- The body of a raw string, behind what opens it. -/
def bodyOf (raw : List Char) : List Char :=
  (dropBytes? (bodyStart raw) raw).getD []

/-- Whether a raw string is one without escapes. -/
def opensLiteral (raw : List Char) : Bool :=
  raw.head? = some '\x27'

lemma valueOffset_eq (raw : List Char) (column : Nat) :
    valueOffset raw column =
      bodyStart raw + walk (opensLiteral raw) (column - 1) 0 (bodyOf raw) :=
  rfl

lemma lineEndSize_le (s : List Char) : lineEndSize s ≤ byteLength s := by
  fun_cases lineEndSize s with
  | case1 s =>
    rw [byteLength_cons, byteLength_cons, show '\r'.utf8Size = 1 from rfl,
      show '\n'.utf8Size = 1 from rfl]
    omega
  | case2 s =>
    rw [byteLength_cons, show '\n'.utf8Size = 1 from rfl]
    omega
  | case3 => exact Nat.zero_le _

lemma bodyStart_le (raw : List Char) : bodyStart raw ≤ byteLength raw := by
  rw [bodyStart]
  split
  next hlong =>
    rcases raw with _ | ⟨a, _ | ⟨b, _ | ⟨c, rest⟩⟩⟩
    · cases hlong
    · cases hlong
    · cases hlong
    · have hend := lineEndSize_le rest
      have ha := a.utf8Size_pos
      have hb := b.utf8Size_pos
      have hc := c.utf8Size_pos
      simp only [List.drop_succ_cons, List.drop_zero, byteLength_cons]
      omega
  next => exact Nat.min_le_right _ _

lemma byteLength_bodyOf_le (raw : List Char) :
    bodyStart raw + byteLength (bodyOf raw) ≤ byteLength raw := by
  rw [bodyOf]
  cases hbody : dropBytes? (bodyStart raw) raw with
  | none => exact bodyStart_le raw
  | some body => exact (byteLength_of_dropBytes? hbody).ge

/-- **The scan is safe on every text.**  For any raw text and any column, the loop is over after at
most as many rounds as the text has bytes, and `valueOffset` is what it ends with.  The offset lies
inside of the text or at its end, so it is 0 for the empty text, and it does not decrease when the
column grows. -/
theorem valueOffset_scan (raw : List Char) :
    (∀ column rounds, byteLength raw ≤ rounds →
      (Cursor.run (opensLiteral raw) (bodyOf raw) (column - 1) rounds ⟨0, 0⟩).map
        (bodyStart raw + ·) = some (valueOffset raw column)) ∧
    (∀ s t, Cursor.next? (opensLiteral raw) (bodyOf raw) s = some t →
      s.offset < t.offset ∧ t.offset ≤ byteLength (bodyOf raw)) ∧
    (∀ column, valueOffset raw column ≤ byteLength raw ∧
      (raw = [] → valueOffset raw column = 0)) ∧
    Monotone (valueOffset raw) := by
  have hbody := byteLength_bodyOf_le raw
  have hle : ∀ column, valueOffset raw column ≤ byteLength raw := by
    intro column
    have hwalk := walk_le_byteLength (opensLiteral raw) (column - 1) 0 (bodyOf raw)
    rw [valueOffset_eq]
    omega
  refine ⟨?_, fun s t => Cursor.offset_lt_of_next?, fun column => ⟨hle column, ?_⟩, ?_⟩
  · intro column rounds hrounds
    have hstart : dropBytes? (Cursor.mk 0 0).offset (bodyOf raw) = some (bodyOf raw) := by
      rw [dropBytes?]
    rw [Cursor.run_eq hstart (Nat.zero_le _) (by omega), Option.map_some, Nat.zero_add,
      Nat.sub_zero, valueOffset_eq]
  · rintro rfl
    exact Nat.le_zero.1 (hle column)
  · intro column further hcolumns
    rw [valueOffset_eq, valueOffset_eq]
    exact Nat.add_le_add_left (walk_le_walk _ (by omega) 0 _) _

/-- The step at the backslash ends inside of the `é`, and so the scan ends behind the text. -/
theorem valueOffset_scan_accent :
    let raw := ['\x22', '\\', 'é', 'x']
    byteLength raw ≤ 5 ∧
      (Cursor.run (opensLiteral raw) (bodyOf raw) 1 5 ⟨0, 0⟩).map (bodyStart raw + ·) =
        some (valueOffset raw 2) ∧
      valueOffset raw 2 = 5 := by
  intro raw
  have hrounds : byteLength raw ≤ 5 := by decide
  exact ⟨hrounds, (valueOffset_scan raw).1 2 5 hrounds, by decide⟩

end Blueprint.Document
