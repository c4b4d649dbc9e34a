import Blueprint.Kotlin.Layout
import Mathlib.Data.List.Basic

/-!
# Lines and blocks as text

What the text of some lines is, taken apart: line by line, and block by block where empty lines
separate them.  Blocks are put together from the left, so what matters about the blocks that stand
already is whether there are any; `following` is what further blocks add to them.
-/

namespace Blueprint.Kotlin

/-! ## Lines -/

@[simp] lemma linesText_nil (width : Nat) : linesText width [] = "" := rfl

@[simp] lemma linesText_cons (width : Nat) (l : Line) (ls : List Line) :
    linesText width (l :: ls) = l.render width ++ linesText width ls :=
  String.join_cons

@[simp] lemma linesText_append (width : Nat) (ls ms : List Line) :
    linesText width (ls ++ ms) = linesText width ls ++ linesText width ms := by
  simp only [linesText, List.map_append, String.join_append]

/-! ## Blocks -/

/-- What blocks add to a file that has some already: each of them comes after an empty line. -/
def following (blocks : List (List Line)) : List Line :=
  blocks.flatMap (blankLine :: ·)

@[simp] lemma following_nil : following [] = [] := rfl

@[simp] lemma following_cons (block : List Line) (blocks : List (List Line)) :
    following (block :: blocks) = blankLine :: block ++ following blocks := rfl

lemma following_append (blocks others : List (List Line)) :
    following (blocks ++ others) = following blocks ++ following others :=
  List.flatMap_append

@[simp] lemma separated_nil : separated [] = [] := rfl

lemma separated_cons (block : List Line) (blocks : List (List Line)) :
    separated (block :: blocks) = block ++ following blocks := by
  induction blocks generalizing block with
  | nil => simp [separated]
  | cons next rest ih =>
    have hrest : separated (next :: rest) = next ++ following rest := ih next
    rw [separated, List.intercalate_cons_cons]
    rw [separated] at hrest
    simp only [hrest, following_cons, List.append_assoc, List.cons_append, List.nil_append]

/-- What blocks add to a file, given whether it is still empty. -/
def placed (first : Bool) (blocks : List (List Line)) : List Line :=
  if first then separated blocks else following blocks

lemma placed_append (first : Bool) (blocks others : List (List Line)) :
    placed first (blocks ++ others) =
      placed first blocks ++ placed (first && blocks.isEmpty) others := by
  cases first with
  | false => exact following_append blocks others
  | true =>
    cases blocks with
    | nil => rfl
    | cons block blocks =>
      have hblocks : placed true (block :: blocks) = block ++ following blocks :=
        separated_cons block blocks
      have hall : placed true (block :: blocks ++ others) = block ++ following (blocks ++ others) :=
        separated_cons block (blocks ++ others)
      rw [hall, hblocks, following_append, List.append_assoc]
      rfl

end Blueprint.Kotlin
