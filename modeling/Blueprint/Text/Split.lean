/-!
# Splitting and replacing

Texts are cut at a character or at a fixed piece of text, always from the left and without overlap.
-/

namespace Blueprint.Text

/-- The pieces of a text between the occurrences of a character.  There is always at least one. -/
def splitOn (sep : Char) : List Char → List (List Char)
  | [] => [[]]
  | c :: rest =>
    if c = sep then [] :: splitOn sep rest
    else
      match splitOn sep rest with
      | [] => [[c]]
      | piece :: pieces => (c :: piece) :: pieces

theorem splitOn_ne_nil (sep : Char) (s : List Char) : splitOn sep s ≠ [] := by
  cases s with
  | nil => simp [splitOn]
  | cons c rest =>
    rw [splitOn]
    split
    · simp
    · split <;> simp

/-- What follows the last occurrence of a character; the whole text if there is none. -/
def afterLast (sep : Char) (s : List Char) : List Char :=
  (s.reverse.takeWhile (· != sep)).reverse

/-- What precedes the last occurrence of a character. -/
def beforeLast? (sep : Char) (s : List Char) : Option (List Char) :=
  if sep ∈ s then some ((s.reverse.dropWhile (· != sep)).drop 1).reverse else none

/-- The two parts of a text around the first occurrence of `sep`. -/
def splitOnce (sep : List Char) : List Char → Option (List Char × List Char)
  | [] => if sep.isEmpty then some ([], []) else none
  | c :: rest =>
    if sep.isPrefixOf (c :: rest) then some ([], (c :: rest).drop sep.length)
    else (splitOnce sep rest).map fun (before, after) => (c :: before, after)

/-- The pieces of a text between the occurrences of a non-empty `sep`, the first `skip` characters
being the rest of an occurrence that was already counted. -/
def piecesFrom (sep : List Char) : Nat → List Char → List (List Char)
  | _, [] => [[]]
  | skip + 1, _ :: rest => piecesFrom sep skip rest
  | 0, c :: rest =>
    if sep.isPrefixOf (c :: rest) then [] :: piecesFrom sep (sep.length - 1) rest
    else
      match piecesFrom sep 0 rest with
      | [] => [[c]]
      | piece :: pieces => (c :: piece) :: pieces

/-- The pieces of a text between the occurrences of a non-empty `sep`. -/
def pieces (sep : List Char) (s : List Char) : List (List Char) :=
  piecesFrom sep 0 s

/-- The text with every occurrence of the pair `a b` replaced. -/
def replacePair (a b : Char) (replacement : List Char) : List Char → List Char
  | [] => []
  | [c] => [c]
  | c :: d :: rest =>
    if c = a ∧ d = b then replacement ++ replacePair a b replacement rest
    else c :: replacePair a b replacement (d :: rest)

end Blueprint.Text
