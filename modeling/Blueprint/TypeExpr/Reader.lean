import Blueprint.TypeExpr.Basic
import Blueprint.TypeExpr.Token

/-!
# Reading type expressions

    Type   ::= Simple | Simple '=>' Type | '(' Type ')' | '(' [Type {',' Type}] ')' '=>' Type
    Simple ::= Name ['[' Type {',' Type} ']']

A name is looked up as a scalar, then as a type variable in scope, then as one of the built-in
constructors `Option`, `Set`, `Map` and the spellings of a list; any other name is a named type.

The reader is recursive descent over the token list.  Each call spends one unit of an allowance that
`read` sets to twice the number of tokens and one.  Two calls in a row pass at least one token, so
the allowance never runs out before the tokens do.
-/

namespace Blueprint.TypeExpr

open Blueprint.Text

/-- The names that all denote a list. -/
def listNames : List String :=
  ["Array", "IndexedSeq", "Iterable", "List", "Seq", "Vector"]

/-- The type that a name with arguments denotes, given the type variables in scope. -/
def resolve (scope : List String) (name : String) (args : List TypeExpr) :
    Except Cause TypeExpr :=
  match Primitive.ofName? name with
  | some p => if args.isEmpty then .ok (.primitive p) else .error (.arity name 0 args.length)
  | none =>
    if name ∈ scope then
      if args.isEmpty then .ok (.parameter name []) else .error (.arity name 0 args.length)
    else if name = "Option" then
      match args with
      | [t] => .ok t.makeNullable
      | _ => .error (.arity name 1 args.length)
    else if name = "Set" then
      match args with
      | [t] => .ok (.set t)
      | _ => .error (.arity name 1 args.length)
    else if name = "Map" then
      match args with
      | [k, v] => .ok (.map k v)
      | _ => .error (.arity name 2 args.length)
    else if name ∈ listNames then
      match args with
      | [t] => .ok (.list t)
      | _ => .error (.arity name 1 args.length)
    else .ok (.named name args)

/-- What the reader knows besides the tokens: the type variables in scope, and the column just past
the text. -/
structure Context where
  scope : List String
  stop : Nat

/-- The context of a whole text: its end stands in the column after its last character. -/
abbrev Context.ofText (scope : List String) (input : List Char) : Context :=
  ⟨scope, input.length + 1⟩

/-- The column of the next token. -/
def Context.column (ctx : Context) : List Lexeme → Nat
  | [] => ctx.stop
  | l :: _ => l.column

/-- The next token, if there is one. -/
def next? : List Lexeme → Option Token
  | [] => none
  | l :: _ => some l.token

/-- Passes the wanted token. -/
def expect (ctx : Context) (wanted : Token) : List Lexeme → Except Fault (List Lexeme)
  | [] => .error ⟨.expected (some wanted) none, ctx.stop⟩
  | l :: rest =>
    if l.token = wanted then .ok rest
    else .error ⟨.expected (some wanted) (some l.token), l.column⟩

/-- `resolve`, with a fault reported at the next token. -/
def resolveAt (ctx : Context) (name : String) (args : List TypeExpr) (rest : List Lexeme) :
    Except Fault TypeExpr :=
  (resolve ctx.scope name args).mapError (⟨·, ctx.column rest⟩)

mutual

/-- Reads one type and returns the tokens after it.  `before` is the column of the token before the
type; a type that is missing at the end of the text is reported there. -/
def readType (ctx : Context) : Nat → Option Nat → List Lexeme →
    Except Fault (TypeExpr × List Lexeme)
  | 0, before, _ => .error ⟨.expectedTypeName none, before.getD ctx.stop⟩
  | fuel + 1, before, tokens =>
    match tokens with
    | [] => .error ⟨.expectedTypeName none, before.getD ctx.stop⟩
    | ⟨.openParen, column⟩ :: rest =>
      match next? rest with
      | some .closeParen => readAfterParens ctx fuel [] (rest.drop 1)
      | _ =>
        match readTypes ctx fuel (some column) rest with
        | .error e => .error e
        | .ok (items, rest) =>
          match expect ctx .closeParen rest with
          | .error e => .error e
          | .ok rest => readAfterParens ctx fuel items rest
    | ⟨.name name, _⟩ :: ⟨.openBracket, column⟩ :: rest =>
      match readTypes ctx fuel (some column) rest with
      | .error e => .error e
      | .ok (args, rest) =>
        match expect ctx .closeBracket rest with
        | .error e => .error e
        | .ok rest =>
          match resolveAt ctx name args rest with
          | .error e => .error e
          | .ok t => readAfterSimple ctx fuel t rest
    | ⟨.name name, _⟩ :: rest =>
      match resolveAt ctx name [] rest with
      | .error e => .error e
      | .ok t => readAfterSimple ctx fuel t rest
    | ⟨token, column⟩ :: _ => .error ⟨.expectedTypeName (some token), column⟩

/-- Reads one or more types with commas between them. -/
def readTypes (ctx : Context) : Nat → Option Nat → List Lexeme →
    Except Fault (List TypeExpr × List Lexeme)
  | 0, before, _ => .error ⟨.expectedTypeName none, before.getD ctx.stop⟩
  | fuel + 1, before, tokens =>
    match readType ctx fuel before tokens with
    | .error e => .error e
    | .ok (t, ⟨.comma, column⟩ :: rest) =>
      match readTypes ctx fuel (some column) rest with
      | .error e => .error e
      | .ok (ts, rest) => .ok (t :: ts, rest)
    | .ok (t, rest) => .ok ([t], rest)

/-- Goes on after a parenthesised list: the parameters of a function, or one type in parentheses. -/
def readAfterParens (ctx : Context) : Nat → List TypeExpr → List Lexeme →
    Except Fault (TypeExpr × List Lexeme)
  | fuel + 1, items, ⟨.arrow, column⟩ :: rest =>
    match readType ctx fuel (some column) rest with
    | .error e => .error e
    | .ok (result, rest) => .ok (.function items result, rest)
  | _, [t], rest => .ok (t, rest)
  | _, [], rest => .error ⟨.emptyParentheses, ctx.column rest⟩
  | _, _, rest => .error ⟨.tuple, ctx.column rest⟩

/-- Goes on after a simple type: it may be the only parameter of a function. -/
def readAfterSimple (ctx : Context) : Nat → TypeExpr → List Lexeme →
    Except Fault (TypeExpr × List Lexeme)
  | fuel + 1, t, ⟨.arrow, column⟩ :: rest =>
    match readType ctx fuel (some column) rest with
    | .error e => .error e
    | .ok (result, rest) => .ok (.function [t] result, rest)
  | _, t, rest => .ok (t, rest)

end

/-- Reads a text as one type, with the faults located in the text. -/
def read (scope : List String) (input : List Char) : Except Fault TypeExpr :=
  match tokenize input with
  | .error e => .error e
  | .ok tokens =>
    match readType (.ofText scope input) (2 * tokens.length + 1) none tokens with
    | .error e => .error e
    | .ok (t, []) => .ok t
    | .ok (_, l :: _) => .error ⟨.expected none (some l.token), l.column⟩

/-- A text that is no type expression, with the fault found in it. -/
structure SyntaxError where
  fault : Fault
  input : String
deriving DecidableEq, Repr, Inhabited

namespace SyntaxError

/-- What is wrong, without the place. -/
def detail (e : SyntaxError) : String :=
  e.fault.cause.message

/-- The column that the fault is reported at. -/
def column (e : SyntaxError) : Nat :=
  e.fault.column

/-- The whole message. -/
def message (e : SyntaxError) : String :=
  e.detail ++ " at column " ++ toString e.column ++ " of '" ++ e.input ++ "'"

end SyntaxError

/-- The type that a text spells, with `scope` the names that denote type variables. -/
def parse (input : String) (scope : List String) : Except SyntaxError TypeExpr :=
  (read scope input.toList).mapError (⟨·, input⟩)

end Blueprint.TypeExpr
