import Blueprint.Text.Blank
import Blueprint.Text.Word

/-!
# Patterns

Regular expressions over characters, with edges such as the start of the text or the start of a
word.  A pattern is matched by derivatives: `deriv before c` is what has to match after the
character `c`.  Both `deriv` and `matchesEmpty` are told the character before the place where they
stand, for the sake of the edges.
-/

namespace Blueprint

open Blueprint.Text

/-- A set of characters. -/
inductive CharSet where
  | nothing
  | range (first last : Char)
  | word
  | decimal
  | blank
  | complement (a : CharSet)
  | union (a b : CharSet)
  | intersection (a b : CharSet)
  | difference (a b : CharSet)
  | symmetricDifference (a b : CharSet)
deriving DecidableEq, Repr, Inhabited

namespace CharSet

/-- Whether a set holds a character. -/
def contains (c : Char) : CharSet → Bool
  | .nothing => false
  | .range first last => first ≤ c && c ≤ last
  | .word => isWordChar c
  | .decimal => isDecimal c
  | .blank => isBlank c
  | .complement a => !a.contains c
  | .union a b => a.contains c || b.contains c
  | .intersection a b => a.contains c && b.contains c
  | .difference a b => a.contains c && !b.contains c
  | .symmetricDifference a b => a.contains c != b.contains c

/-- The set of one character. -/
def single (c : Char) : CharSet :=
  .range c c

/-- Everything but the line feed. -/
def anyOnLine : CharSet :=
  .complement (.single '\n')

/-- The union of some sets. -/
def unionOf : List CharSet → CharSet
  | [] => .nothing
  | [a] => a
  | a :: rest => .union a (unionOf rest)

end CharSet

/-- A kind of place between two characters. -/
inductive Edge where
  | textStart
  | textStop
  | wordEdge
  | noWordEdge
  | wordStart
  | wordStop
deriving DecidableEq, Repr, Inhabited

/-- Whether a place between two characters is of a kind; at an end of the text one of them is not
there. -/
def Edge.holds (before after : Option Char) : Edge → Bool
  | .textStart => before.isNone
  | .textStop => after.isNone
  | .wordEdge => before.any isWordChar != after.any isWordChar
  | .noWordEdge => before.any isWordChar == after.any isWordChar
  | .wordStart => !before.any isWordChar && after.any isWordChar
  | .wordStop => before.any isWordChar && !after.any isWordChar

/-- A pattern. -/
inductive Pattern where
  /-- Matches nothing. -/
  | never
  /-- Matches the empty text. -/
  | empty
  | one (k : CharSet)
  /-- Matches the empty text at an edge. -/
  | edge (e : Edge)
  | seq (p q : Pattern)
  | alt (p q : Pattern)
  | star (p : Pattern)
deriving DecidableEq, Repr, Inhabited

namespace Pattern

/-- One pattern after another, without pieces that cannot matter. -/
def andThen : Pattern → Pattern → Pattern
  | .never, _ => .never
  | .empty, q => q
  | p, q => .seq p q

/-- Either of two patterns, without pieces that cannot matter. -/
def orElse (p q : Pattern) : Pattern :=
  if p = .never then q else if q = .never ∨ p = q then p else .alt p q

/-- Whether the pattern matches the empty text between two characters. -/
def matchesEmpty (before after : Option Char) : Pattern → Bool
  | .never => false
  | .empty => true
  | .one _ => false
  | .edge e => e.holds before after
  | .seq p q => matchesEmpty before after p && matchesEmpty before after q
  | .alt p q => matchesEmpty before after p || matchesEmpty before after q
  | .star _ => true

/-- What has to match after the character `c`. -/
def deriv (before : Option Char) (c : Char) : Pattern → Pattern
  | .never => .never
  | .empty => .never
  | .one k => if k.contains c then .empty else .never
  | .edge _ => .never
  | .seq p q =>
    orElse ((deriv before c p).andThen q)
      (if matchesEmpty before (some c) p then deriv before c q else .never)
  | .alt p q => orElse (deriv before c p) (deriv before c q)
  | .star p => (deriv before c p).andThen (.star p)

/-- Whether some start of the text matches, after a character. -/
def matchesStart (before : Option Char) (p : Pattern) : List Char → Bool
  | [] => p.matchesEmpty before none
  | c :: rest =>
    p.matchesEmpty before (some c) || matchesStart (some c) (p.deriv before c) rest

/-- Whether some piece of the text matches, after a character. -/
def matchesSomewhere (before : Option Char) (p : Pattern) : List Char → Bool
  | [] => matchesStart before p []
  | c :: rest => matchesStart before p (c :: rest) || matchesSomewhere (some c) p rest

/-- Whether the pattern is found in the text. -/
def isMatch (p : Pattern) (text : String) : Bool :=
  matchesSomewhere none p text.toList

/-- The pattern `n` times. -/
def times (p : Pattern) : Nat → Pattern
  | 0 => .empty
  | n + 1 => p.andThen (times p n)

/-- The pattern at most `n` times. -/
def upTo (p : Pattern) : Nat → Pattern
  | 0 => .empty
  | n + 1 => .alt .empty (p.andThen (upTo p n))

/-- The pattern at least `least` times, and at most `most?` times if that is given. -/
def between (p : Pattern) (least : Nat) : Option Nat → Pattern
  | none => (p.times least).andThen (.star p)
  | some most => (p.times least).andThen (p.upTo (most - least))

end Pattern

end Blueprint
