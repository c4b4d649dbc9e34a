import Blueprint.Pattern.Basic
import Blueprint.Text.Hex

/-!
# Reading patterns

    Alternation ::= Sequence {'|' Sequence}
    Sequence    ::= {Atom {Repetition}}
    Atom        ::= character | '.' | '^' | '$' | escape | Class | '(' Head Alternation ')'
    Repetition  ::= ('*' | '+' | '?' | '{' count [',' [count]] '}') ['?']
    Class       ::= '[' ['^'] Union {('&&' | '--' | '~~') Union} ']'
    Union       ::= {member | member '-' member | '[:' ['^'] name ':]' | Class}
    Head        ::= ['?:' | ('?<' | '?P<') name '>']

Left out are flags, classes of Unicode properties and the boundaries that are written with braces: a
pattern that has one is refused as not covered.  The name of a group is passed over.

A fault names the characters of the pattern that it concerns, by index.  The readers spend one unit
of an allowance with each call; three calls in a row pass at least one character, and
`Pattern.parse` grants three units for each.
-/

namespace Blueprint

/-- Why a text is no pattern. -/
inductive PatternCause where
  | unclosedGroup
  | unopenedGroup
  | unclosedName
  | unclosedClass
  | nothingToRepeat
  | unclosedCount
  | emptyCount
  | invalidCount
  | reversedCount
  | reversedRange
  | rangeBoundary
  | classEscape
  | unknownEscape
  | unfinishedEscape
  | backreference
  | emptyHex
  | hexDigit
  | invalidHex
  | lookAround
  | unknownFlag
  /-- The pattern may be one, but it has something that is left out here. -/
  | notCovered
deriving DecidableEq, Repr, Inhabited

/-- The cause in words. -/
def PatternCause.message : PatternCause → String
  | .unclosedGroup => "unclosed group"
  | .unopenedGroup => "unopened group"
  | .unclosedName => "unclosed capture group name"
  | .unclosedClass => "unclosed character class"
  | .nothingToRepeat => "repetition operator missing expression"
  | .unclosedCount => "unclosed counted repetition"
  | .emptyCount => "repetition quantifier expects a valid decimal"
  | .invalidCount => "decimal literal invalid"
  | .reversedCount => "invalid repetition count range, the start must be <= the end"
  | .reversedRange => "invalid character class range, the start must be <= the end"
  | .rangeBoundary => "invalid range boundary, must be a literal"
  | .classEscape => "invalid escape sequence found in character class"
  | .unknownEscape => "unrecognized escape sequence"
  | .unfinishedEscape => "incomplete escape sequence, reached end of pattern prematurely"
  | .backreference => "backreferences are not supported"
  | .emptyHex => "hexadecimal literal empty"
  | .hexDigit => "invalid hexadecimal digit"
  | .invalidHex => "hexadecimal literal is not a Unicode scalar value"
  | .lookAround => "look-around, including look-ahead and look-behind, is not supported"
  | .unknownFlag => "unrecognized flag"
  | .notCovered => "not covered"

/-- A cause with the first index it concerns and the one after the last. -/
structure PatternFault where
  cause : PatternCause
  first : Nat
  stop : Nat
deriving DecidableEq, Repr, Inhabited

namespace PatternFault

/-- The fault in words, with the pattern and a mark under the characters concerned. -/
def message (pattern : String) (e : PatternFault) : String :=
  "regex parse error:\n    " ++ pattern ++ "\n    " ++
    String.ofList (List.replicate e.first ' ' ++ List.replicate (max 1 (e.stop - e.first)) '^') ++
    "\nerror: " ++ e.cause.message

end PatternFault

namespace Pattern

/-- What is left of a pattern, with the index of its first character. -/
structure Rest where
  index : Nat
  chars : List Char

/-- The rest after `n` more characters. -/
def Rest.skip (r : Rest) (n : Nat) : Rest :=
  ⟨r.index + n, r.chars.drop n⟩

/-- The rest after the characters at its start that a test holds for. -/
def Rest.skipWhile (r : Rest) (test : Char → Bool) : Rest :=
  r.skip (r.chars.takeWhile test).length

/-! ## Escapes -/

/-- What an escape stands for. -/
inductive Escaped where
  | char (c : Char)
  | set (k : CharSet)
  | edge (e : Edge)

/-- Whether a backslash makes a character an ordinary one. -/
def isEscapable (c : Char) : Bool :=
  c.toNat < 0x80 && !c.isAlphanum && c ≠ '<' && c ≠ '>'

/-- What the letter or sign of an escape stands for. -/
def escaped? (c : Char) : Option Escaped :=
  match c with
  | 'w' => some (.set .word)
  | 'W' => some (.set (.complement .word))
  | 'd' => some (.set .decimal)
  | 'D' => some (.set (.complement .decimal))
  | 's' => some (.set .blank)
  | 'S' => some (.set (.complement .blank))
  | 'n' => some (.char '\n')
  | 't' => some (.char '\t')
  | 'r' => some (.char '\r')
  | 'a' => some (.char '\x07')
  | 'f' => some (.char '\x0c')
  | 'v' => some (.char '\x0b')
  | 'A' => some (.edge .textStart)
  | 'z' => some (.edge .textStop)
  | 'b' => some (.edge .wordEdge)
  | 'B' => some (.edge .noWordEdge)
  | '<' => some (.edge .wordStart)
  | '>' => some (.edge .wordStop)
  | c => if isEscapable c then some (.char c) else none

/-- Refuses digits, the first of which stands at an index, if one of them is not hexadecimal. -/
def checkDigits (first : Nat) (digits : List Char) : Except PatternFault Unit :=
  match digits.findIdx? fun c => (Text.hexDigit? c).isNone with
  | some i => .error ⟨.hexDigit, first + i, first + i + 1⟩
  | none => .ok ()

/-- The character of hexadecimal digits, the first of which stands at an index. -/
def hexChar (first : Nat) (digits : List Char) : Except PatternFault Char :=
  match Text.codePoint? digits with
  | some c => .ok c
  | none => .error ⟨.invalidHex, first, first + digits.length⟩

/-- The number of hexadecimal digits after a letter. -/
def hexWidth (letter : Char) : Nat :=
  if letter = 'x' then 2 else if letter = 'u' then 4 else 8

/-- Reads the number after `\x`, `\u` or `\U`: the character, and the number of characters read. -/
def readHex (letter : Char) (r : Rest) : Except PatternFault (Char × Nat) := do
  match r.chars with
  | '\x7b' :: rest =>
    let digits := rest.takeWhile (· ≠ '\x7d')
    checkDigits (r.index + 1) digits
    if digits.length = rest.length then
      throw ⟨.unfinishedEscape, r.index, r.index + 1 + digits.length⟩
    if digits.isEmpty then throw ⟨.emptyHex, r.index, r.index + 2⟩
    return (← hexChar (r.index + 1) digits, digits.length + 2)
  | rest =>
    let digits := rest.take (hexWidth letter)
    let stop := r.index + digits.length
    checkDigits r.index digits
    if digits.length < hexWidth letter then throw ⟨.unfinishedEscape, stop, stop⟩
    return (← hexChar r.index digits, digits.length)

/-- Reads an escape whose backslash stands at the front. -/
def readEscape (r : Rest) : Except PatternFault (Escaped × Rest) :=
  match r.chars.drop 1 with
  | [] => .error ⟨.unfinishedEscape, r.index, r.index + 1⟩
  | c :: rest =>
    if c.isDigit then .error ⟨.backreference, r.index, r.index + 2⟩
    else if c = 'p' ∨ c = 'P' then .error ⟨.notCovered, r.index, r.index + 2⟩
    else if c = 'b' ∧ rest.head? = some '\x7b' ∧ ((rest.drop 1).head?.any Char.isAlpha) then
      .error ⟨.notCovered, r.index, r.index + 2⟩
    else if c = 'x' ∨ c = 'u' ∨ c = 'U' then
      (readHex c (r.skip 2)).map fun (d, n) => (.char d, r.skip (2 + n))
    else
      match escaped? c with
      | some e => .ok (e, r.skip 2)
      | none => .error ⟨.unknownEscape, r.index, r.index + 2⟩

/-! ## Classes -/

/-- The set that the name of a class stands for. -/
def named? (name : List Char) : Option CharSet :=
  let digits := CharSet.range '0' '9'
  let lower := CharSet.range 'a' 'z'
  let upper := CharSet.range 'A' 'Z'
  match String.ofList name with
  | "alnum" => some (.unionOf [digits, upper, lower])
  | "alpha" => some (.union upper lower)
  | "ascii" => some (.range '\x00' '\x7f')
  | "blank" => some (.union (.single '\t') (.single ' '))
  | "cntrl" => some (.union (.range '\x00' '\x1f') (.single '\x7f'))
  | "digit" => some digits
  | "graph" => some (.range '!' '~')
  | "lower" => some lower
  | "print" => some (.range ' ' '~')
  | "punct" =>
    some (.unionOf [.range '!' '/', .range ':' '@', .range '[' '\x60', .range '\x7b' '~'])
  | "space" => some (.union (.range '\t' '\r') (.single ' '))
  | "upper" => some upper
  | "word" => some (.unionOf [digits, upper, .single '_', lower])
  | "xdigit" => some (.unionOf [digits, .range 'A' 'F', .range 'a' 'f'])
  | _ => none

/-- Reads a class that is written by its name, such as `[:alpha:]`, if one stands at the front. -/
def readNamed? (r : Rest) : Option (CharSet × Rest) :=
  match r.chars with
  | '[' :: ':' :: _ =>
    let negated := (r.skip 2).chars.head? = some '^'
    let start := r.skip (if negated then 3 else 2)
    let stop := start.skipWhile (· ≠ ':')
    match stop.chars with
    | ':' :: ']' :: _ =>
      (named? (start.chars.takeWhile (· ≠ ':'))).map fun k =>
        (if negated then .complement k else k, stop.skip 2)
    | _ => none
  | _ => none

/-- Reads one member of a class, at a front that is not empty. -/
def readMember (r : Rest) : Except PatternFault (Escaped × Rest) :=
  match r.chars with
  | '\\' :: _ => readEscape r
  | c :: _ => .ok (.char c, r.skip 1)
  | [] => .ok (.set .nothing, r)

/-- The set of one member of a class; `first` and `stop` are the indices around it. -/
def memberSet (first stop : Nat) : Escaped → Except PatternFault CharSet
  | .char c => .ok (.single c)
  | .set k => .ok k
  | .edge _ => .error ⟨.classEscape, first, stop⟩

/-- The set from one member of a class to another, which stand between three indices and the dash
after the second of them. -/
def rangeSet (first dash stop : Nat) : Escaped → Escaped → Except PatternFault CharSet
  | .char a, .char b => if b < a then .error ⟨.reversedRange, first, stop⟩ else .ok (.range a b)
  | .char _, _ => .error ⟨.rangeBoundary, dash + 1, stop⟩
  | _, _ => .error ⟨.rangeBoundary, first, dash⟩

/-- Reads a member of a class or a range of them.  `unclosed` is the fault of a class that does not
end. -/
def readRange (unclosed : PatternFault) (r : Rest) : Except PatternFault (CharSet × Rest) := do
  let (first, afterFirst) ← readMember r
  match afterFirst.chars with
  | [] | ['-'] => .error unclosed
  | '-' :: next :: _ =>
    if next = ']' ∨ next = '-' then return (← memberSet r.index afterFirst.index first, afterFirst)
    else
      let (last, afterLast) ← readMember (afterFirst.skip 1)
      return (← rangeSet r.index afterFirst.index afterLast.index first last, afterLast)
  | _ => return (← memberSet r.index afterFirst.index first, afterFirst)

/-- An operation between two sets. -/
abbrev SetOp := CharSet → CharSet → CharSet

/-- The operation whose sign, a character written twice, stands at the front. -/
def setOp? : List Char → Option SetOp
  | '&' :: '&' :: _ => some .intersection
  | '-' :: '-' :: _ => some .difference
  | '~' :: '~' :: _ => some .symmetricDifference
  | _ => none

/-- What stands before an operation, joined to what stands after it. -/
def closeOp (pending : Option (SetOp × CharSet)) (members : List CharSet) : CharSet :=
  match pending with
  | none => .unionOf members
  | some (op, left) => op left (.unionOf members)

/-- What opens a class: whether it is negated, its members that have to come first, and the rest.
Leading dashes, and a closing bracket that comes first, are ordinary characters. -/
def readOpening (r : Rest) : Bool × List CharSet × Rest :=
  let negated := (r.skip 1).chars.head? = some '^'
  let body := r.skip (if negated then 2 else 1)
  let dashes := body.chars.takeWhile (· = '-')
  if dashes.isEmpty && body.chars.head? = some ']' then (negated, [.single ']'], body.skip 1)
  else (negated, dashes.map CharSet.single, body.skip dashes.length)

/-- The fault of a class that does not end.  A class of dashes alone is reported at its start. -/
def unclosedAt (r body : Rest) : PatternFault :=
  if body.chars.isEmpty ∧ r.chars.getLast? = some '-' then ⟨.unclosedClass, r.index, r.index⟩
  else ⟨.unclosedClass, r.index, body.index⟩

mutual

/-- Reads a class whose opening bracket stands at the front. -/
def readClass : Nat → Rest → Except PatternFault (CharSet × Rest)
  | 0, r => .ok (.nothing, r)
  | fuel + 1, r =>
    let (negated, members, body) := readOpening r
    match readMembers (unclosedAt r body) fuel none members body with
    | .error e => .error e
    | .ok (k, rest) => .ok (if negated then .complement k else k, rest)

/-- Reads the members of a class up to its closing bracket. -/
def readMembers (unclosed : PatternFault) :
    Nat → Option (SetOp × CharSet) → List CharSet → Rest → Except PatternFault (CharSet × Rest)
  | 0, _, _, _ => .error unclosed
  | fuel + 1, pending, members, r =>
    match setOp? r.chars with
    | some op => readMembers unclosed fuel (some (op, closeOp pending members)) [] (r.skip 2)
    | none =>
      match readNamed? r with
      | some (k, r) => readMembers unclosed fuel pending (members ++ [k]) r
      | none =>
        match r.chars with
        | [] => .error unclosed
        | ']' :: _ => .ok (closeOp pending members, r.skip 1)
        | '[' :: _ =>
          match readClass fuel r with
          | .error e => .error e
          | .ok (k, r) => readMembers unclosed fuel pending (members ++ [k]) r
        | _ =>
          match readRange unclosed r with
          | .error e => .error e
          | .ok (k, r) => readMembers unclosed fuel pending (members ++ [k]) r

end

/-! ## Repetitions -/

/-- The greatest count of a repetition. -/
def maxRepetitions : Nat := 4294967295

/-- Reads a count, with blanks around it. -/
def readNumber (r : Rest) : Except PatternFault Nat × Rest :=
  let start := r.skipWhile Text.isBlank
  let digits := start.chars.takeWhile Char.isDigit
  let stop := start.skip digits.length
  let n := digits.foldl (fun n c => n * 10 + (c.toNat - 0x30)) 0
  let number : Except PatternFault Nat :=
    if digits.isEmpty then .error ⟨.emptyCount, start.index, start.index⟩
    else if maxRepetitions < n then .error ⟨.invalidCount, start.index, stop.index⟩
    else .ok n
  (number, stop.skipWhile Text.isBlank)

/-- Passes the question mark that makes a repetition lazy, which does not change what matches. -/
def skipLazy (r : Rest) : Rest :=
  match r.chars with
  | '?' :: _ => r.skip 1
  | _ => r

/-- Passes the brace after a counted repetition that starts at an index. -/
def closeCount (start : Nat) (r : Rest) : Except PatternFault Rest :=
  match r.chars with
  | '\x7d' :: _ => .ok (skipLazy (r.skip 1))
  | _ => .error ⟨.unclosedCount, start, r.index⟩

/-- Reads a counted repetition whose opening brace stands at the front: the least count, the
greatest if there is one, and the rest. -/
def readCount (r : Rest) : Except PatternFault (Nat × Option Nat × Rest) := do
  let body := r.skip 1
  if body.chars.isEmpty then throw ⟨.unclosedCount, r.index, body.index⟩
  let (least, afterLeast) := readNumber body
  match afterLeast.chars with
  | [] => throw ⟨.unclosedCount, r.index, afterLeast.index⟩
  | [','] => throw ⟨.unclosedCount, r.index, afterLeast.index + 1⟩
  | ',' :: '\x7d' :: _ => return (← least, none, ← closeCount r.index (afterLeast.skip 1))
  | ',' :: _ =>
    let least ← least
    let (most, afterMost) := readNumber (afterLeast.skip 1)
    let most ← most
    let rest ← closeCount r.index afterMost
    if most < least then throw ⟨.reversedCount, r.index, rest.index⟩
    return (least, some most, rest)
  | _ =>
    let least ← least
    return (least, some least, ← closeCount r.index afterLeast)

/-- Reads the repetitions after an atom. -/
def readRepetitions : Nat → Pattern → Rest → Except PatternFault (Pattern × Rest)
  | 0, p, r => .ok (p, r)
  | fuel + 1, p, r =>
    match r.chars with
    | '*' :: _ => readRepetitions fuel (.star p) (skipLazy (r.skip 1))
    | '+' :: _ => readRepetitions fuel (p.andThen (.star p)) (skipLazy (r.skip 1))
    | '?' :: _ => readRepetitions fuel (.alt .empty p) (skipLazy (r.skip 1))
    | '\x7b' :: _ =>
      match readCount r with
      | .error e => .error e
      | .ok (least, most?, r) => readRepetitions fuel (p.between least most?) r
    | _ => .ok (p, r)

/-! ## Groups and sequences -/

/-- Passes the name of a group, which starts at the front. -/
def skipName (r : Rest) : Except PatternFault Rest :=
  let stop := r.skipWhile (· ≠ '>')
  if stop.chars.isEmpty then .error ⟨.unclosedName, stop.index, stop.index⟩ else .ok (stop.skip 1)

/-- Passes what may follow the opening parenthesis, which stands at an index: `?:`, or a name for
the group. -/
def skipGroupHead (opening : Nat) (r : Rest) : Except PatternFault Rest :=
  match r.chars with
  | '?' :: '=' :: _ | '?' :: '!' :: _ => .error ⟨.lookAround, opening, r.index + 2⟩
  | '?' :: '<' :: '=' :: _ | '?' :: '<' :: '!' :: _ => .error ⟨.lookAround, opening, r.index + 3⟩
  | '?' :: 'P' :: '<' :: _ => skipName (r.skip 3)
  | '?' :: '<' :: _ => skipName (r.skip 2)
  | '?' :: ':' :: _ => .ok (r.skip 2)
  | ['?'] => .error ⟨.unclosedGroup, opening, opening + 1⟩
  | '?' :: ')' :: _ => .error ⟨.nothingToRepeat, r.index, r.index⟩
  | '?' :: c :: _ =>
    if c ∈ ['i', 'm', 's', 'U', 'u', 'R', 'x', '-'] then
      .error ⟨.notCovered, r.index + 1, r.index + 2⟩
    else .error ⟨.unknownFlag, r.index + 1, r.index + 2⟩
  | _ => .ok r

/-- The pattern of an escape. -/
def Escaped.pattern : Escaped → Pattern
  | .char c => .one (.single c)
  | .set k => .one k
  | .edge e => .edge e

mutual

/-- Reads alternatives up to the end or an unmatched closing parenthesis. -/
def readAlternation : Nat → Rest → Except PatternFault (Pattern × Rest)
  | 0, r => .ok (.empty, r)
  | fuel + 1, r =>
    match readSequence fuel r with
    | .error e => .error e
    | .ok (p, ⟨i, '|' :: rest⟩) =>
      match readAlternation fuel ⟨i + 1, rest⟩ with
      | .error e => .error e
      | .ok (q, r) => .ok (.alt p q, r)
    | .ok (p, r) => .ok (p, r)

/-- Reads atoms with their repetitions, one after the other. -/
def readSequence : Nat → Rest → Except PatternFault (Pattern × Rest)
  | 0, r => .ok (.empty, r)
  | fuel + 1, r =>
    match r.chars with
    | [] => .ok (.empty, r)
    | '|' :: _ => .ok (.empty, r)
    | ')' :: _ => .ok (.empty, r)
    | _ =>
      match readAtom fuel r with
      | .error e => .error e
      | .ok (p, r) =>
        match readRepetitions r.chars.length p r with
        | .error e => .error e
        | .ok (p, r) =>
          match readSequence fuel r with
          | .error e => .error e
          | .ok (q, r) => .ok (p.andThen q, r)

/-- Reads one atom. -/
def readAtom : Nat → Rest → Except PatternFault (Pattern × Rest)
  | 0, r => .ok (.empty, r)
  | fuel + 1, r =>
    match r.chars with
    | [] => .ok (.empty, r)
    | '.' :: _ => .ok (.one .anyOnLine, r.skip 1)
    | '^' :: _ => .ok (.edge .textStart, r.skip 1)
    | '$' :: _ => .ok (.edge .textStop, r.skip 1)
    | '[' :: _ => (readClass (2 * r.chars.length) r).map fun (k, r) => (.one k, r)
    | '(' :: _ =>
      match skipGroupHead r.index (r.skip 1) with
      | .error e => .error e
      | .ok body =>
        match readAlternation fuel body with
        | .error e => .error e
        | .ok (p, ⟨i, ')' :: rest⟩) => .ok (p, ⟨i + 1, rest⟩)
        | .ok _ => .error ⟨.unclosedGroup, r.index, r.index + 1⟩
    | '*' :: _ => .error ⟨.nothingToRepeat, r.index, r.index + 1⟩
    | '+' :: _ => .error ⟨.nothingToRepeat, r.index, r.index + 1⟩
    | '?' :: _ => .error ⟨.nothingToRepeat, r.index, r.index + 1⟩
    | '\x7b' :: _ => .error ⟨.nothingToRepeat, r.index, r.index + 1⟩
    | '\\' :: _ => (readEscape r).map fun (e, r) => (e.pattern, r)
    | c :: _ => .ok (.one (.single c), r.skip 1)

end

/-- The pattern that a text spells. -/
def parse (text : String) : Except PatternFault Pattern :=
  let chars := text.toList
  match readAlternation (3 * chars.length + 3) ⟨0, chars⟩ with
  | .error e => .error e
  | .ok (p, ⟨_, []⟩) => .ok p
  | .ok (_, ⟨i, _ :: _⟩) => .error ⟨.unopenedGroup, i, i + 1⟩

end Pattern

end Blueprint
