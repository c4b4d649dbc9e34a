import Blueprint.Decimal.Shortest
import Blueprint.Text.Quoted
import Blueprint.Toml.Value

/-!
# The shape of TOML values

A reader of settings or documents asks a value for the shape it needs: a string, a truth value, a
count, a list, one of some words, or a record of named fields.  The first value of another shape is
the fault that is reported, with its place.

The entries of a table are looked at in the order of their keys, and a missing field is found only
after all of them.  A record may also be written as an array of its fields in their order.
-/

namespace Blueprint.Toml

/-- What is wrong with a value. -/
inductive ShapeCause where
  | wrongType (found wanted : String)
  | wrongValue (found wanted : String)
  | unknownField (name : String) (known : List String)
  | missingField (name : String)
  | unknownWord (word : String) (known : List String)
  /-- An array ends before all fields of a record. -/
  | tooShort (length : Nat) (label : String) (fieldCount : Nat)
  /-- A value that is neither a word nor a table with one. -/
  | noWord
  /-- A table that should hold one word and holds none, or more than one. -/
  | wordCount (more : Bool)
  /-- Something stands after a word that takes nothing. -/
  | wordContent (complaint : String)
deriving DecidableEq, Repr, Inhabited

/-- A name between backticks. -/
def ticked (name : String) : String :=
  "\x60" ++ name ++ "\x60"

/-- The names that would have been right. -/
def oneOf : List String → String
  | [] => ""
  | [a] => ticked a
  | [a, b] => ticked a ++ " or " ++ ticked b
  | names => "one of " ++ String.intercalate ", " (names.map ticked)

/-- The cause in words. -/
def ShapeCause.message : ShapeCause → String
  | .wrongType found wanted => "invalid type: " ++ found ++ ", expected " ++ wanted
  | .wrongValue found wanted => "invalid value: " ++ found ++ ", expected " ++ wanted
  | .unknownField name known =>
    "unknown field " ++ ticked name ++ ", expected " ++ oneOf known
  | .missingField name => "missing field " ++ ticked name
  | .unknownWord word known => "unknown variant " ++ ticked word ++ ", expected " ++ oneOf known
  | .tooShort length label fieldCount =>
    "invalid length " ++ toString length ++ ", expected struct " ++ label ++ " with " ++
      toString fieldCount ++ " elements"
  | .noWord => "wanted string or table"
  | .wordCount more =>
    "wanted exactly 1 element, " ++ if more then "more than 1 element" else "found 0 elements"
  | .wordContent complaint => complaint

/-- A value of the wrong shape. -/
structure ShapeFault where
  cause : ShapeCause
  span : Span
deriving DecidableEq, Repr, Inhabited

namespace Value

/-- What messages call a value that is not of the wanted type. -/
def found : Value → String
  | .string _ text => "string " ++ Text.quoted text
  | .integer _ n => "integer " ++ ticked (toString n)
  | .float _ x => "floating point " ++ ticked x.display
  | .boolean _ b => "boolean " ++ ticked (if b then "true" else "false")
  | .moment _ | .table .. => "map"
  | .array .. => "sequence"

/-- What messages call the type of a value. -/
def typeLabel : Value → String
  | .string .. => "string"
  | .integer .. => "integer"
  | .float .. => "float"
  | .boolean .. => "boolean"
  | .moment _ => "datetime"
  | .array .. => "array"
  | .table .. => "table"

/-- The fault of a value that is not of the wanted type. -/
def mismatch (v : Value) (wanted : String) : ShapeFault :=
  ⟨.wrongType v.found wanted, v.span⟩

/-- The string that a value is. -/
def asString (v : Value) : Except ShapeFault String :=
  match v with
  | .string _ text => .ok text
  | _ => .error (v.mismatch "a string")

/-- The truth value that a value is. -/
def asBoolean (v : Value) : Except ShapeFault Bool :=
  match v with
  | .boolean _ b => .ok b
  | _ => .error (v.mismatch "a boolean")

/-- The greatest count, one less than the power `2 ^ 64`. -/
def maxCount : Int := 18446744073709551615

/-- The count that a value is. -/
def asCount (v : Value) : Except ShapeFault Nat :=
  match v with
  | .integer span n =>
    if 0 ≤ n ∧ n ≤ maxCount then .ok n.toNat
    else .error ⟨.wrongValue v.found "usize", span⟩
  | _ => .error (v.mismatch "usize")

/-- The list that a value is. -/
def asList (item : Value → Except ShapeFault α) (v : Value) : Except ShapeFault (List α) :=
  match v with
  | .array _ _ items => items.mapM item
  | _ => .error (v.mismatch "a sequence")

/-- Why nothing may stand after a word, if something does. -/
def contentComplaint? : Value → Option String
  | .array _ _ items => if items.isEmpty then none else some "expected empty array"
  | .table _ _ entries => if entries.isEmpty then none else some "expected empty table"
  | v => some ("expected table, found " ++ v.typeLabel)

/-- The meaning of a word that stands at `span`. -/
def wordMeaning (words : List (String × α)) (word : String) (span : Span) : Except ShapeFault α :=
  match words.find? (·.1 == word) with
  | some (_, meaning) => .ok meaning
  | none => .error ⟨.unknownWord word (words.map Prod.fst), span⟩

/-- The meaning of the word that a value is: a string, or a table with the word as its only key and
nothing behind it. -/
def asWord (words : List (String × α)) (v : Value) : Except ShapeFault α :=
  match v with
  | .string span word => wordMeaning words word span
  | .table span _ entries =>
    match entries with
    | [] => .error ⟨.wordCount false, span⟩
    | [(key, content)] => do
      let meaning ← wordMeaning words key.text key.span
      match content.contentComplaint? with
      | none => .ok meaning
      | some complaint => .error ⟨.wordContent complaint, content.span⟩
    | _ => .error ⟨.wordCount true, span⟩
  | _ => .error ⟨.noWord, v.span⟩

end Value

/-! ## Records -/

/-- A string that remembers its place. -/
structure PlacedText where
  text : String
  span : Span
deriving DecidableEq, Repr, Inhabited

/-- The string that a value is, with its place. -/
def Value.asPlacedText (v : Value) : Except ShapeFault PlacedText := do
  return ⟨← v.asString, v.span⟩

/-- A field of a record. -/
structure Field where
  name : String
  /-- Whether a value has the shape of the field. -/
  check : Value → Except ShapeFault Unit
  /-- Whether an array that stands for the record may end before the field. -/
  mayEndBefore : Bool

/-- A field that an array must reach. -/
def field (name : String) (shape : Value → Except ShapeFault α) : Field :=
  ⟨name, fun v => (shape v).map fun _ => (), false⟩

/-- A field with a default. -/
def defaulted (name : String) (shape : Value → Except ShapeFault α) : Field :=
  ⟨name, fun v => (shape v).map fun _ => (), true⟩

/-- What a record accepts. -/
structure RecordShape where
  label : String
  fields : List Field
  /-- Whether other keys are refused rather than passed over. -/
  strict : Bool

/-- The values of the fields of a record. -/
structure Fields where
  span : Span
  values : List (String × Value)
deriving Repr, Inhabited

/-- Sorted entries with one more. -/
def Entries.insertSorted (entry : Key × Value) : Entries → Entries
  | [] => [entry]
  | other :: rest =>
    if other.1.text < entry.1.text then other :: insertSorted entry rest
    else entry :: other :: rest

/-- The entries in the order of their keys. -/
def Entries.sorted (entries : Entries) : Entries :=
  entries.foldr insertSorted []

namespace RecordShape

/-- Looks at one entry of a table. -/
def checkEntry (shape : RecordShape) (entry : Key × Value) : Except ShapeFault Unit :=
  match shape.fields.find? (·.name == entry.1.text) with
  | some f => f.check entry.2
  | none =>
    if shape.strict then
      .error ⟨.unknownField entry.1.text (shape.fields.map Field.name), entry.1.span⟩
    else .ok ()

/-- Looks at the items of an array that stands for a record, the fields before `index` done. -/
def checkItems (shape : RecordShape) (span : Span) (index : Nat) :
    List Field → List Value → Except ShapeFault Unit
  | [], _ => .ok ()
  | f :: fields, v :: items => do
    f.check v
    shape.checkItems span (index + 1) fields items
  | f :: fields, [] =>
    if f.mayEndBefore then shape.checkItems span (index + 1) fields []
    else .error ⟨.tooShort index shape.label shape.fields.length, span⟩

/-- The key under which a date or time offers itself to a record. -/
def momentKey : String := "$__toml_private_datetime"

/-- The fields of the record that a value is. -/
def read (shape : RecordShape) (v : Value) : Except ShapeFault Fields :=
  match v with
  | .table span _ entries => do
    (Entries.sorted entries).forM shape.checkEntry
    return ⟨span, entries.map fun entry => (entry.1.text, entry.2)⟩
  | .array span _ items => do
    shape.checkItems span 0 shape.fields items
    return ⟨span, (shape.fields.map Field.name).zip items⟩
  | .moment span => do
    shape.checkEntry (⟨momentKey, span⟩, v)
    return ⟨span, []⟩
  | _ => .error (v.mismatch ("struct " ++ shape.label))

end RecordShape

namespace Fields

/-- The value of a field that may be missing. -/
def optional (fields : Fields) (name : String) (shape : Value → Except ShapeFault α) :
    Except ShapeFault (Option α) :=
  match fields.values.find? (·.1 == name) with
  | some (_, v) => (shape v).map some
  | none => .ok none

/-- The value of a field, or its default. -/
def withDefault (fields : Fields) (name : String) (shape : Value → Except ShapeFault α)
    (default : α) : Except ShapeFault α := do
  return (← fields.optional name shape).getD default

/-- The value of a field that must be there. -/
def required (fields : Fields) (name : String) (shape : Value → Except ShapeFault α) :
    Except ShapeFault α := do
  match ← fields.optional name shape with
  | some value => .ok value
  | none => .error ⟨.missingField name, fields.span⟩

end Fields

end Blueprint.Toml
