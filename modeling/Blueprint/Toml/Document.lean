import Blueprint.Toml.Reader

/-!
# TOML documents

The statements of a text become one table.  A header opens a table, and the assignments up to the
next header go into it.  A header may fill in a table that longer headers passed through, but opens
no table twice.
-/

namespace Blueprint.Toml

/-- The entries with the table that a header opens, filled by `fill` from the entries it has. -/
def openTable (span : Span) (isArray : Bool) (fill : Entries → Except Stuck Entries)
    (refused : Stuck) : List Key → Key → Entries → Except Stuck Entries
  | [], key, entries =>
    match entries.find? key.text with
    | none => do
      let table := Value.table span .header (← fill [])
      return entries ++ [(key, if isArray then .array span .headers [table] else table)]
    | some (_, .array first .headers items) =>
      if isArray then do
        let table := Value.table span .header (← fill [])
        return entries.replace key.text (.array first .headers (items ++ [table]))
      else .error refused
    | some (_, .table _ .implied inner) =>
      if isArray then .error refused
      else do
        return entries.erase key.text ++ [(key, .table span .header (← fill inner))]
    | some _ => .error refused
  | part :: path, key, entries =>
    match entries.find? part.text with
    | none => do
      let inner ← openTable span isArray fill refused path key []
      return entries ++ [(part, .table part.span .implied inner)]
    | some (_, .table outer origin inner) =>
      if origin = .inline then .error refused
      else do
        let inner ← openTable span isArray fill refused path key inner
        return entries.replace part.text (.table outer origin inner)
    | some (_, .array first .headers items) =>
      match items.getLast? with
      | some (.table outer origin inner) => do
        let inner ← openTable span isArray fill refused path key inner
        return entries.replace part.text
          (.array first .headers (items.dropLast ++ [.table outer origin inner]))
      | _ => .error refused
    | some _ => .error refused

/-- The assignments up to the next header, added to some entries. -/
def fillTable : List (List Char × Statement) → Entries → Except Stuck Entries
  | (s, .assignment path value) :: rest, entries =>
    match assign path.parents path.last value entries with
    | some entries => fillTable rest entries
    | none => .error ⟨s⟩
  | _, entries => .ok entries

/-- The headers of the statements, each with its assignments, added to some entries. -/
def addTables : List (List Char × Statement) → Entries → Except Stuck Entries
  | [], entries => .ok entries
  | (s, .header header) :: rest, entries => do
    let entries ← openTable header.span header.isArray (fillTable rest) ⟨s⟩ header.path.parents
      header.path.last entries
    addTables rest entries
  | (_, .assignment ..) :: rest, entries => addTables rest entries

/-- Why a text is no TOML: the byte at which reading stops. -/
structure SyntaxFault where
  offset : Nat
deriving DecidableEq, Repr, Inhabited

/-- The table that a text spells.  A byte order mark at the start is not part of it. -/
def parse (text : List Char) : Except SyntaxFault Value :=
  let size := Text.byteLength text
  let body :=
    match text with
    | '\ufeff' :: rest => rest
    | _ => text
  let result := do
    let statements ← readStatements size (body.length + 1) body
    addTables statements (← fillTable statements [])
  match result with
  | .ok entries => .ok (.table ⟨0, size⟩ .header entries)
  | .error stuck => .error ⟨size - Text.byteLength stuck.rest⟩

/-- Whether a text is TOML with numbers of at most 64 bits. -/
def isValid (text : List Char) : Bool :=
  match parse text with
  | .ok value => value.fits
  | .error _ => false

end Blueprint.Toml
