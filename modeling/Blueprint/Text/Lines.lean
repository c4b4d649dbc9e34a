/-!
# Lines of a text

A line ends at a line feed, and a carriage return directly before the line feed belongs to the line
ending.  The last line needs no ending, so an empty text has no line at all.
-/

namespace Blueprint.Text

/-- The lines of a text, without their endings. -/
def lines : List Char → List (List Char)
  | [] => []
  | '\n' :: rest => [] :: lines rest
  | '\r' :: '\n' :: rest => [] :: lines rest
  | c :: rest =>
    match lines rest with
    | [] => [[c]]
    | line :: others => (c :: line) :: others

theorem lines_eq_nil_iff {s : List Char} : lines s = [] ↔ s = [] := by
  constructor
  · intro h
    unfold lines at h
    split at h
    · rfl
    · simp at h
    · simp at h
    · split at h <;> simp at h
  · rintro rfl
    rfl

end Blueprint.Text
