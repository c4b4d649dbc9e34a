import Blueprint.Text.Blank
import Blueprint.Text.Split
import Blueprint.Text.Word

/-!
# Tokens of type expressions

A type expression is written with names, brackets, parentheses, commas and `=>`, with blanks
anywhere between them.  A name is a run of alphanumeric characters, `_`, `$` and dots in which no
dot stands first, last or beside another.  Each token keeps the column it starts at, counted in
characters from 1.
-/

namespace Blueprint.TypeExpr

open Blueprint.Text

/-- A token of a type expression. -/
inductive Token where
  | name (text : String)
  | openBracket
  | closeBracket
  | openParen
  | closeParen
  | comma
  | arrow
deriving DecidableEq, Repr, Inhabited

/-- The characters a token is written with. -/
def Token.spelling : Token → String
  | .name text => text
  | .openBracket => "["
  | .closeBracket => "]"
  | .openParen => "("
  | .closeParen => ")"
  | .comma => ","
  | .arrow => "=>"

/-- A token and the column of its first character. -/
structure Lexeme where
  token : Token
  column : Nat
deriving DecidableEq, Repr, Inhabited

/-- Why a text is no type expression.  A missing token stands for the end of the text. -/
inductive Cause where
  | malformedName (name : String)
  | unexpectedChar (c : Char)
  | expected (wanted found : Option Token)
  | expectedTypeName (found : Option Token)
  | emptyParentheses
  | tuple
  | arity (name : String) (wanted found : Nat)
  | expectedParameterName
deriving DecidableEq, Repr, Inhabited

/-- How messages name a token. -/
def describe : Option Token → String
  | some token => "'" ++ token.spelling ++ "'"
  | none => "end of input"

/-- The cause in words. -/
def Cause.message : Cause → String
  | .malformedName name => "malformed name '" ++ name ++ "'"
  | .unexpectedChar c => "unexpected character '" ++ String.singleton c ++ "'"
  | .expected wanted found => "expected " ++ describe wanted ++ ", found " ++ describe found
  | .expectedTypeName found => "expected a type name, found " ++ describe found
  | .emptyParentheses => "empty parentheses must be followed by '=>'"
  | .tuple => "tuple types are not supported"
  | .arity name wanted found =>
    "'" ++ name ++ "' takes " ++ toString wanted ++ " type argument(s), found " ++ toString found
  | .expectedParameterName => "expected a type parameter name"

/-- A cause and the column it is reported at. -/
structure Fault where
  cause : Cause
  column : Nat
deriving DecidableEq, Repr, Inhabited

/-- Whether a character can be part of a name. -/
def isNameChar (c : Char) : Bool :=
  isAlphanumeric c || c == '_' || c == '.' || c == '$'

/-- Whether some segment of a name is empty: a dot stands first, last or beside another. -/
def hasStrayDot (name : List Char) : Bool :=
  (splitOn '.' name).any List.isEmpty

/-- The token that a single character makes. -/
def Token.ofChar? : Char → Option Token
  | '[' => some .openBracket
  | ']' => some .closeBracket
  | '(' => some .openParen
  | ')' => some .closeParen
  | ',' => some .comma
  | _ => none

/-- The tokens of a text whose first character stands at `column`; the first `skip` characters
belong to a token that was already read. -/
def tokensFrom (column : Nat) : Nat → List Char → Except Fault (List Lexeme)
  | _, [] => .ok []
  | skip + 1, _ :: rest => tokensFrom (column + 1) skip rest
  | 0, c :: rest =>
    if isBlank c then tokensFrom (column + 1) 0 rest
    else
      match Token.ofChar? c with
      | some token => (tokensFrom (column + 1) 0 rest).map (⟨token, column⟩ :: ·)
      | none =>
        if c = '=' ∧ rest.head? = some '>' then
          (tokensFrom (column + 1) 1 rest).map (⟨.arrow, column⟩ :: ·)
        else if isNameChar c then
          let name := (c :: rest).takeWhile isNameChar
          if hasStrayDot name then .error ⟨.malformedName (String.ofList name), column⟩
          else
            (tokensFrom (column + 1) (name.length - 1) rest).map
              (⟨.name (String.ofList name), column⟩ :: ·)
        else .error ⟨.unexpectedChar c, column⟩

/-- The tokens of a text, or the first place that belongs to none. -/
def tokenize (input : List Char) : Except Fault (List Lexeme) :=
  tokensFrom 1 0 input

end Blueprint.TypeExpr
