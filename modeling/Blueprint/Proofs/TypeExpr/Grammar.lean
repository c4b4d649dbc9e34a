import Blueprint.TypeExpr.Reader
import Mathlib.Data.List.Basic

/-!
# The grammar of type expressions

    Type   ::= Simple | Simple '=>' Type | '(' Type ')' | '(' [Type {',' Type}] ')' '=>' Type
    Simple ::= Name ['[' Type {',' Type} ']']

`DerivesType`, `DerivesTypes` and `DerivesSimple` say which token lists derive which types, one
constructor a production, with no mention of the reader.  `Denotes` says the same of a name with its
arguments.  The main result `parse_eq_ok_iff_derivesType` is that reading a text succeeds with a
type exactly when the tokens of the text derive it, and that a token list derives one type at most.

Soundness follows the reader.  `SoundAt` holds what each of the four mutual functions promises at
one allowance: the tokens passed derive what is returned.  Each function keeps its promise at one
more if all keep theirs (`readType_sound` and its companions), so all hold at every allowance
(`soundAt`).  The allowance need not be large enough: a reader that runs out returns a shorter type
and leaves the arrow it did not follow.

Completeness follows the derivation.  A derivation of `n` tokens is read with an allowance of
`2 * n`, whatever comes after it, as long as the next token does not go on with the type (`Stops`).
The decision between a parenthesised type and a parameter list, which the reader takes only after
the closing parenthesis, needs no look-ahead here: both productions begin with the same list of
types.
-/

namespace Blueprint.TypeExpr

/-! ## What a name denotes -/

/-- The names of the built-in constructors. -/
def constructorNames : List String :=
  "Option" :: "Set" :: "Map" :: listNames

/-- A name with no meaning of its own: it is no scalar, no variable in scope and no constructor. -/
structure IsOrdinary (scope : List String) (name : String) : Prop where
  not_primitive : ∀ p : Primitive, p.name ≠ name
  not_mem_scope : name ∉ scope
  not_builtin : name ∉ constructorNames

/-- What a name with arguments denotes, given the type variables in scope.  A scalar comes before a
variable of the same name, and both before a constructor. -/
inductive Denotes (scope : List String) : String → List TypeExpr → TypeExpr → Prop
  | primitive (p : Primitive) : Denotes scope p.name [] (.primitive p)
  | parameter {name : String} (hname : ∀ p : Primitive, p.name ≠ name) (hscope : name ∈ scope) :
      Denotes scope name [] (.parameter name [])
  | option {t : TypeExpr} (hscope : "Option" ∉ scope) (ht : t.isNullable = false) :
      Denotes scope "Option" [t] (.nullable t)
  /-- `Option` of a nullable type adds nothing. -/
  | optionNullable {t : TypeExpr} (hscope : "Option" ∉ scope) :
      Denotes scope "Option" [.nullable t] (.nullable t)
  | set {t : TypeExpr} (hscope : "Set" ∉ scope) : Denotes scope "Set" [t] (.set t)
  | map {k v : TypeExpr} (hscope : "Map" ∉ scope) : Denotes scope "Map" [k, v] (.map k v)
  | list {name : String} {t : TypeExpr} (hname : name ∈ listNames) (hscope : name ∉ scope) :
      Denotes scope name [t] (.list t)
  | named {name : String} {args : List TypeExpr} (hname : IsOrdinary scope name) :
      Denotes scope name args (.named name args)

lemma ofName?_eq_none_iff {name : String} :
    Primitive.ofName? name = none ↔ ∀ p : Primitive, p.name ≠ name := by
  constructor
  · rintro h p rfl
    rw [Primitive.ofName?_name] at h
    cases h
  · intro h
    cases hp : Primitive.ofName? name with
    | none => rfl
    | some p => exact absurd (Primitive.name_of_ofName? hp) (h p)

lemma denotes_of_resolve {scope : List String} {name : String} {args : List TypeExpr}
    {t : TypeExpr} (h : resolve scope name args = .ok t) : Denotes scope name args t := by
  unfold resolve at h
  split at h
  · next p hp =>
    obtain rfl := Primitive.name_of_ofName? hp
    cases args with
    | nil =>
      cases h
      exact .primitive p
    | cons => cases h
  · next hp =>
    have hprim := ofName?_eq_none_iff.1 hp
    split at h
    · next hscope =>
      cases args with
      | nil =>
        cases h
        exact .parameter hprim hscope
      | cons => cases h
    · next hscope =>
      split at h
      · next hoption =>
        subst hoption
        split at h
        · next u =>
          cases h
          cases u with
          | nullable => exact .optionNullable hscope
          | _ => exact .option hscope rfl
        · cases h
      · next hoption =>
        split at h
        · next hset =>
          subst hset
          split at h
          · cases h
            exact .set hscope
          · cases h
        · next hset =>
          split at h
          · next hmap =>
            subst hmap
            split at h
            · cases h
              exact .map hscope
            · cases h
          · next hmap =>
            split at h
            · next hlist =>
              split at h
              · cases h
                exact .list hlist hscope
              · cases h
            · next hlist =>
              cases h
              refine .named ⟨hprim, hscope, ?_⟩
              simp [constructorNames, hoption, hset, hmap, hlist]

lemma resolve_of_denotes {scope : List String} {name : String} {args : List TypeExpr}
    {t : TypeExpr} (h : Denotes scope name args t) : resolve scope name args = .ok t := by
  have hbuiltin : ∀ n ∈ constructorNames, Primitive.ofName? n = none := by decide
  cases h with
  | primitive p => simp [resolve, Primitive.ofName?_name]
  | parameter hname hscope => simp [resolve, ofName?_eq_none_iff.2 hname, hscope]
  | option hscope ht =>
    simp [resolve, hbuiltin "Option" (by decide), hscope, makeNullable, ht]
  | optionNullable hscope =>
    simp [resolve, hbuiltin "Option" (by decide), hscope, makeNullable, isNullable]
  | set hscope => simp [resolve, hbuiltin "Set" (by decide), hscope]
  | map hscope => simp [resolve, hbuiltin "Map" (by decide), hscope]
  | list hname hscope =>
    have hother : ∀ n ∈ listNames, n ≠ "Option" ∧ n ≠ "Set" ∧ n ≠ "Map" := by decide
    obtain ⟨hoption, hset, hmap⟩ := hother name hname
    have hnone := hbuiltin name (by simp [constructorNames, hname])
    simp [resolve, hnone, hscope, hoption, hset, hmap, hname]
  | named hname =>
    have hnot := hname.not_builtin
    simp only [constructorNames, List.mem_cons, not_or] at hnot
    simp [resolve, ofName?_eq_none_iff.2 hname.not_primitive, hname.not_mem_scope, hnot]

/-- `Denotes` is what `resolve` computes. -/
lemma resolve_eq_ok_iff {scope : List String} {name : String} {args : List TypeExpr}
    {t : TypeExpr} : resolve scope name args = .ok t ↔ Denotes scope name args t :=
  ⟨denotes_of_resolve, resolve_of_denotes⟩

/-! ## Productions -/

mutual

/-- The tokens derive a type.  The arrow associates to the right: only a simple type or a
parenthesised list stands before it. -/
inductive DerivesType (scope : List String) : List Token → TypeExpr → Prop
  | simple {ts : List Token} {t : TypeExpr} (h : DerivesSimple scope ts t) : DerivesType scope ts t
  | arrow {ts us : List Token} {a b : TypeExpr} (ha : DerivesSimple scope ts a)
      (hb : DerivesType scope us b) : DerivesType scope (ts ++ .arrow :: us) (.function [a] b)
  | parens {ts : List Token} {t : TypeExpr} (h : DerivesType scope ts t) :
      DerivesType scope (.openParen :: (ts ++ [.closeParen])) t
  | thunk {us : List Token} {b : TypeExpr} (hb : DerivesType scope us b) :
      DerivesType scope (.openParen :: .closeParen :: .arrow :: us) (.function [] b)
  | function {ts us : List Token} {params : List TypeExpr} {b : TypeExpr}
      (hparams : DerivesTypes scope ts params) (hb : DerivesType scope us b) :
      DerivesType scope (.openParen :: (ts ++ .closeParen :: .arrow :: us)) (.function params b)

/-- The tokens derive one or more types with commas between them. -/
inductive DerivesTypes (scope : List String) : List Token → List TypeExpr → Prop
  | one {ts : List Token} {t : TypeExpr} (h : DerivesType scope ts t) : DerivesTypes scope ts [t]
  | cons {ts us : List Token} {t : TypeExpr} {rest : List TypeExpr} (h : DerivesType scope ts t)
      (hrest : DerivesTypes scope us rest) : DerivesTypes scope (ts ++ .comma :: us) (t :: rest)

/-- The tokens derive a name, with arguments or without. -/
inductive DerivesSimple (scope : List String) : List Token → TypeExpr → Prop
  | bare {name : String} {t : TypeExpr} (h : Denotes scope name [] t) :
      DerivesSimple scope [.name name] t
  | applied {name : String} {ts : List Token} {args : List TypeExpr} {t : TypeExpr}
      (hargs : DerivesTypes scope ts args) (h : Denotes scope name args t) :
      DerivesSimple scope (.name name :: .openBracket :: (ts ++ [.closeBracket])) t

end

lemma DerivesTypes.ne_nil {scope : List String} {ts : List Token} {args : List TypeExpr}
    (h : DerivesTypes scope ts args) : args ≠ [] := by
  cases h <;> simp

lemma DerivesTypes.singleton {scope : List String} {ts : List Token} {t : TypeExpr}
    (h : DerivesTypes scope ts [t]) : DerivesType scope ts t := by
  cases h with
  | one h => exact h
  | cons _ hrest => exact absurd rfl hrest.ne_nil

lemma DerivesSimple.exists_name {scope : List String} {ts : List Token} {t : TypeExpr}
    (h : DerivesSimple scope ts t) : ∃ name tail, ts = .name name :: tail := by
  cases h with
  | bare => exact ⟨_, _, rfl⟩
  | applied => exact ⟨_, _, rfl⟩

lemma DerivesType.exists_head {scope : List String} {ts : List Token} {t : TypeExpr}
    (h : DerivesType scope ts t) : ∃ token tail, ts = token :: tail ∧ token ≠ .closeParen := by
  cases h with
  | simple h =>
    obtain ⟨name, tail, rfl⟩ := h.exists_name
    exact ⟨_, _, rfl, by simp⟩
  | arrow h =>
    obtain ⟨name, tail, rfl⟩ := h.exists_name
    exact ⟨_, _, rfl, by simp⟩
  | parens => exact ⟨_, _, rfl, by simp⟩
  | thunk => exact ⟨_, _, rfl, by simp⟩
  | function => exact ⟨_, _, rfl, by simp⟩

/-! ## Soundness -/

/-- The tokens go on with an arrow and a result, which makes a function of the types before them. -/
def GoesOn (scope : List String) (params : List TypeExpr) (tokens rest : List Lexeme)
    (t : TypeExpr) : Prop :=
  ∃ column used result, tokens = ⟨.arrow, column⟩ :: (used ++ rest) ∧
    DerivesType scope (used.map Lexeme.token) result ∧ t = .function params result

/-- What the reader promises at one allowance: the tokens it passes derive what it returns.  The two
functions that read on after a type either stop where they are or go on. -/
structure SoundAt (ctx : Context) (fuel : Nat) : Prop where
  type {before : Option Nat} {tokens rest : List Lexeme} {t : TypeExpr} :
    readType ctx fuel before tokens = .ok (t, rest) →
      ∃ used, tokens = used ++ rest ∧ DerivesType ctx.scope (used.map Lexeme.token) t
  types {before : Option Nat} {tokens rest : List Lexeme} {ts : List TypeExpr} :
    readTypes ctx fuel before tokens = .ok (ts, rest) →
      ∃ used, tokens = used ++ rest ∧ DerivesTypes ctx.scope (used.map Lexeme.token) ts
  afterParens {items : List TypeExpr} {tokens rest : List Lexeme} {t : TypeExpr} :
    readAfterParens ctx fuel items tokens = .ok (t, rest) →
      (items = [t] ∧ tokens = rest) ∨ GoesOn ctx.scope items tokens rest t
  afterSimple {first : TypeExpr} {tokens rest : List Lexeme} {t : TypeExpr} :
    readAfterSimple ctx fuel first tokens = .ok (t, rest) →
      (first = t ∧ tokens = rest) ∨ GoesOn ctx.scope [first] tokens rest t

lemma expect_eq_ok {ctx : Context} {wanted : Token} {tokens rest : List Lexeme}
    (h : expect ctx wanted tokens = .ok rest) : ∃ column, tokens = ⟨wanted, column⟩ :: rest := by
  cases tokens with
  | nil => cases h
  | cons l tail =>
    rw [expect] at h
    split at h
    · next hl =>
      cases h
      exact ⟨l.column, by rw [← hl]⟩
    · cases h

lemma denotes_of_resolveAt {ctx : Context} {name : String} {args : List TypeExpr}
    {rest : List Lexeme} {t : TypeExpr} (h : resolveAt ctx name args rest = .ok t) :
    Denotes ctx.scope name args t := by
  rw [resolveAt] at h
  cases hr : resolve ctx.scope name args with
  | error e =>
    rw [hr] at h
    cases h
  | ok u =>
    rw [hr] at h
    cases h
    exact resolve_eq_ok_iff.1 hr

/-- With nothing left to spend, a function that goes on after a type can only stop. -/
lemma soundAt_zero (ctx : Context) : SoundAt ctx 0 where
  type h := by cases h
  types h := by cases h
  afterParens {items tokens rest t} h := by
    left
    match items, h with
    | [_], h =>
      cases h
      exact ⟨rfl, rfl⟩
  afterSimple h := by
    left
    cases h
    exact ⟨rfl, rfl⟩

section Sound

variable {ctx : Context} {fuel : Nat}

lemma readTypes_sound (ih : SoundAt ctx fuel) {before : Option Nat} {tokens rest : List Lexeme}
    {ts : List TypeExpr} (h : readTypes ctx (fuel + 1) before tokens = .ok (ts, rest)) :
    ∃ used, tokens = used ++ rest ∧ DerivesTypes ctx.scope (used.map Lexeme.token) ts := by
  rw [readTypes] at h
  split at h
  · cases h
  · next t column tail htype =>
    obtain ⟨used, rfl, hused⟩ := ih.type htype
    split at h
    · cases h
    · next us rest' htypes =>
      cases h
      obtain ⟨others, rfl, hothers⟩ := ih.types htypes
      refine ⟨used ++ ⟨.comma, column⟩ :: others, by simp, ?_⟩
      simpa using DerivesTypes.cons hused hothers
  · next t rest' _ htype =>
    cases h
    obtain ⟨used, rfl, hused⟩ := ih.type htype
    exact ⟨used, rfl, .one hused⟩

lemma readAfterParens_sound (ih : SoundAt ctx fuel) {items : List TypeExpr}
    {tokens rest : List Lexeme} {t : TypeExpr}
    (h : readAfterParens ctx (fuel + 1) items tokens = .ok (t, rest)) :
    (items = [t] ∧ tokens = rest) ∨ GoesOn ctx.scope items tokens rest t := by
  unfold readAfterParens at h
  split at h
  · next column tail hfuel =>
    cases hfuel
    split at h
    · cases h
    · next result rest' hresult =>
      cases h
      obtain ⟨used, rfl, hused⟩ := ih.type hresult
      exact Or.inr ⟨column, used, result, rfl, hused, rfl⟩
  · cases h
    exact Or.inl ⟨rfl, rfl⟩
  · cases h
  · cases h

lemma readAfterSimple_sound (ih : SoundAt ctx fuel) {first : TypeExpr}
    {tokens rest : List Lexeme} {t : TypeExpr}
    (h : readAfterSimple ctx (fuel + 1) first tokens = .ok (t, rest)) :
    (first = t ∧ tokens = rest) ∨ GoesOn ctx.scope [first] tokens rest t := by
  unfold readAfterSimple at h
  split at h
  · next column tail hfuel =>
    cases hfuel
    split at h
    · cases h
    · next result rest' hresult =>
      cases h
      obtain ⟨used, rfl, hused⟩ := ih.type hresult
      exact Or.inr ⟨column, used, result, rfl, hused, rfl⟩
  · cases h
    exact Or.inl ⟨rfl, rfl⟩

/-- A simple type goes on to a type. -/
lemma derivesType_of_readAfterSimple (ih : SoundAt ctx fuel) {front tail rest : List Lexeme}
    {first t : TypeExpr} (hfront : DerivesSimple ctx.scope (front.map Lexeme.token) first)
    (h : readAfterSimple ctx fuel first tail = .ok (t, rest)) :
    ∃ used, front ++ tail = used ++ rest ∧ DerivesType ctx.scope (used.map Lexeme.token) t := by
  rcases ih.afterSimple h with ⟨rfl, rfl⟩ | ⟨column, used, result, rfl, hresult, rfl⟩
  · exact ⟨front, rfl, .simple hfront⟩
  · refine ⟨front ++ ⟨.arrow, column⟩ :: used, by simp, ?_⟩
    simpa using DerivesType.arrow hfront hresult

/-- A parenthesised list goes on to a type: the list is empty or derived, and only a list of one
type may stand without an arrow. -/
lemma derivesType_of_readAfterParens (ih : SoundAt ctx fuel) {front tail rest : List Lexeme}
    {items : List TypeExpr} {t : TypeExpr} (opened closed : Nat)
    (hfront : (front = [] ∧ items = []) ∨ DerivesTypes ctx.scope (front.map Lexeme.token) items)
    (h : readAfterParens ctx fuel items tail = .ok (t, rest)) :
    ∃ used, ⟨.openParen, opened⟩ :: (front ++ ⟨.closeParen, closed⟩ :: tail) = used ++ rest ∧
      DerivesType ctx.scope (used.map Lexeme.token) t := by
  rcases ih.afterParens h with ⟨rfl, rfl⟩ | ⟨column, used, result, rfl, hresult, rfl⟩
  · refine ⟨⟨.openParen, opened⟩ :: (front ++ [⟨.closeParen, closed⟩]), by simp, ?_⟩
    rcases hfront with ⟨-, hitems⟩ | hfront
    · cases hitems
    · simpa using DerivesType.parens hfront.singleton
  · refine ⟨⟨.openParen, opened⟩ :: (front ++ ⟨.closeParen, closed⟩ :: ⟨.arrow, column⟩ :: used),
      by simp, ?_⟩
    rcases hfront with ⟨rfl, rfl⟩ | hfront
    · simpa using DerivesType.thunk hresult
    · simpa using DerivesType.function hfront hresult

lemma next?_eq_some {tokens : List Lexeme} {token : Token} (h : next? tokens = some token) :
    ∃ column, tokens = ⟨token, column⟩ :: tokens.drop 1 := by
  cases tokens with
  | nil => cases h
  | cons l tail =>
    cases h
    exact ⟨l.column, rfl⟩

lemma readType_sound (ih : SoundAt ctx fuel) {before : Option Nat} {tokens rest : List Lexeme}
    {t : TypeExpr} (h : readType ctx (fuel + 1) before tokens = .ok (t, rest)) :
    ∃ used, tokens = used ++ rest ∧ DerivesType ctx.scope (used.map Lexeme.token) t := by
  unfold readType at h
  split at h
  · cases h
  -- an opening parenthesis
  · next opened tail =>
    split at h
    · next hclose =>
      obtain ⟨closed, htail⟩ := next?_eq_some hclose
      rw [htail]
      exact derivesType_of_readAfterParens ih opened closed (.inl ⟨rfl, rfl⟩) h
    · split at h
      · cases h
      · next items tail' hitems =>
        split at h
        · cases h
        · next tail'' hclose =>
          obtain ⟨front, rfl, hfront⟩ := ih.types hitems
          obtain ⟨closed, rfl⟩ := expect_eq_ok hclose
          exact derivesType_of_readAfterParens ih opened closed (.inr hfront) h
  -- a name with arguments
  · next name named opened tail =>
    split at h
    · cases h
    · next args tail' hargs =>
      split at h
      · cases h
      · next tail'' hclose =>
        split at h
        · cases h
        · next first hresolve =>
          obtain ⟨front, rfl, hfront⟩ := ih.types hargs
          obtain ⟨closed, rfl⟩ := expect_eq_ok hclose
          have hsimple : DerivesSimple ctx.scope
              ((⟨.name name, named⟩ :: ⟨.openBracket, opened⟩ ::
                (front ++ [⟨.closeBracket, closed⟩]) : List Lexeme).map Lexeme.token) first := by
            simpa using DerivesSimple.applied hfront (denotes_of_resolveAt hresolve)
          simpa using derivesType_of_readAfterSimple ih hsimple h
  -- a bare name
  · next name named tail _ =>
    split at h
    · cases h
    · next first hresolve =>
      have hsimple : DerivesSimple ctx.scope
          (([⟨.name name, named⟩] : List Lexeme).map Lexeme.token) first :=
        .bare (denotes_of_resolveAt hresolve)
      exact derivesType_of_readAfterSimple ih hsimple h
  · cases h

/-- **Soundness**, at every allowance. -/
lemma soundAt (ctx : Context) : ∀ fuel, SoundAt ctx fuel
  | 0 => soundAt_zero ctx
  | fuel + 1 =>
    have ih := soundAt ctx fuel
    { type := readType_sound ih
      types := readTypes_sound ih
      afterParens := readAfterParens_sound ih
      afterSimple := readAfterSimple_sound ih }

end Sound

/-! ## Completeness -/

/-- The tokens after a type do not go on with it. -/
structure Stops (rest : List Lexeme) : Prop where
  not_arrow : next? rest ≠ some .arrow
  not_openBracket : next? rest ≠ some .openBracket

lemma stops_cons {token : Token} (column : Nat) (rest : List Lexeme) (harrow : token ≠ .arrow)
    (hbracket : token ≠ .openBracket) : Stops (⟨token, column⟩ :: rest) :=
  ⟨by simpa [next?] using harrow, by simpa [next?] using hbracket⟩

lemma readAfterSimple_of_stops (ctx : Context) (fuel : Nat) (t : TypeExpr) {rest : List Lexeme}
    (h : Stops rest) : readAfterSimple ctx fuel t rest = .ok (t, rest) := by
  unfold readAfterSimple
  split
  · exact absurd rfl h.not_arrow
  · rfl

lemma readAfterParens_of_stops (ctx : Context) (fuel : Nat) (t : TypeExpr) {rest : List Lexeme}
    (h : Stops rest) : readAfterParens ctx fuel [t] rest = .ok (t, rest) := by
  unfold readAfterParens
  split
  · exact absurd rfl h.not_arrow
  · next heq _ =>
    cases heq
    rfl
  · next heq _ => cases heq
  · next hne _ => exact absurd rfl (hne t)

lemma expect_cons (ctx : Context) (wanted : Token) (column : Nat) (rest : List Lexeme) :
    expect ctx wanted (⟨wanted, column⟩ :: rest) = .ok rest := by
  simp [expect]

lemma resolveAt_of_denotes {ctx : Context} {name : String} {args : List TypeExpr} {t : TypeExpr}
    (h : Denotes ctx.scope name args t) (rest : List Lexeme) :
    resolveAt ctx name args rest = .ok t := by
  rw [resolveAt, resolve_eq_ok_iff.2 h]
  rfl

/-- A list of types does not begin with a closing parenthesis, so the reader does not take it for
the empty list. -/
lemma DerivesTypes.next?_ne {scope : List String} {tokens : List Lexeme} {args : List TypeExpr}
    (h : DerivesTypes scope (tokens.map Lexeme.token) args) (rest : List Lexeme) :
    next? (tokens ++ rest) ≠ some .closeParen := by
  have hhead : ∃ token tail, tokens.map Lexeme.token = token :: tail ∧ token ≠ .closeParen := by
    generalize tokens.map Lexeme.token = ts at h
    cases h with
    | one h => exact h.exists_head
    | cons h =>
      obtain ⟨token, tail, rfl, hne⟩ := h.exists_head
      exact ⟨_, _, rfl, hne⟩
  obtain ⟨token, tail, hmap, hne⟩ := hhead
  obtain ⟨l, ls, rfl, rfl, -⟩ := List.map_eq_cons_iff.1 hmap
  simpa [next?] using hne

section Complete

variable {ctx : Context}

/-- The reader passes a parenthesised list of types and goes on after it. -/
lemma readType_parens {fuel : Nat} (before : Option Nat) {opened closed : Nat}
    {front rest : List Lexeme} {items : List TypeExpr}
    (hfront : next? (front ++ ⟨.closeParen, closed⟩ :: rest) ≠ some .closeParen)
    (h : readTypes ctx fuel (some opened) (front ++ ⟨.closeParen, closed⟩ :: rest) =
      .ok (items, ⟨.closeParen, closed⟩ :: rest)) :
    readType ctx (fuel + 1) before
        (⟨.openParen, opened⟩ :: (front ++ ⟨.closeParen, closed⟩ :: rest)) =
      readAfterParens ctx fuel items rest := by
  unfold readType
  -- `hfront` rules out the branch of the empty list
  simp only [h, expect_cons]

lemma readType_emptyParens (fuel : Nat) (before : Option Nat) (opened closed : Nat)
    (rest : List Lexeme) :
    readType ctx (fuel + 1) before (⟨.openParen, opened⟩ :: ⟨.closeParen, closed⟩ :: rest) =
      readAfterParens ctx fuel [] rest := by
  unfold readType
  rfl

lemma readAfterParens_arrow {fuel : Nat} {items : List TypeExpr} {column : Nat}
    {tokens rest : List Lexeme} {result : TypeExpr}
    (h : readType ctx fuel (some column) tokens = .ok (result, rest)) :
    readAfterParens ctx (fuel + 1) items (⟨.arrow, column⟩ :: tokens) =
      .ok (.function items result, rest) := by
  rw [readAfterParens, h]

lemma readAfterSimple_arrow {fuel : Nat} {first : TypeExpr} {column : Nat}
    {tokens rest : List Lexeme} {result : TypeExpr}
    (h : readType ctx fuel (some column) tokens = .ok (result, rest)) :
    readAfterSimple ctx (fuel + 1) first (⟨.arrow, column⟩ :: tokens) =
      .ok (.function [first] result, rest) := by
  rw [readAfterSimple, h]

lemma readType_applied {fuel : Nat} {before : Option Nat} {named opened closed : Nat}
    {name : String} {front rest : List Lexeme} {args : List TypeExpr} {t : TypeExpr}
    (h : readTypes ctx fuel (some opened) (front ++ ⟨.closeBracket, closed⟩ :: rest) =
      .ok (args, ⟨.closeBracket, closed⟩ :: rest))
    (hname : Denotes ctx.scope name args t) :
    readType ctx (fuel + 1) before
        (⟨.name name, named⟩ :: ⟨.openBracket, opened⟩ ::
          (front ++ ⟨.closeBracket, closed⟩ :: rest)) =
      readAfterSimple ctx fuel t rest := by
  unfold readType
  simp only [h, expect_cons, resolveAt_of_denotes hname]

lemma readType_bare {fuel : Nat} {before : Option Nat} {named : Nat} {name : String}
    {rest : List Lexeme} {t : TypeExpr} (hrest : next? rest ≠ some .openBracket)
    (hname : Denotes ctx.scope name [] t) :
    readType ctx (fuel + 1) before (⟨.name name, named⟩ :: rest) =
      readAfterSimple ctx fuel t rest := by
  unfold readType
  split
  · next heq => cases heq
  · next heq => cases heq
  · next heq =>
    cases heq
    exact absurd rfl hrest
  · next heq =>
    cases heq
    simp only [resolveAt_of_denotes hname]
  · next hne heq =>
    cases heq
    exact absurd rfl (hne name)

lemma readTypes_one {fuel : Nat} {before : Option Nat} {tokens rest : List Lexeme} {t : TypeExpr}
    (h : readType ctx fuel before tokens = .ok (t, rest)) (hrest : next? rest ≠ some .comma) :
    readTypes ctx (fuel + 1) before tokens = .ok ([t], rest) := by
  rw [readTypes, h]
  split
  · next heq => cases heq
  · next heq =>
    cases heq
    exact absurd rfl hrest
  · next heq =>
    cases heq
    rfl

lemma exists_lexeme {tokens : List Lexeme} {token : Token} {ts : List Token}
    (h : tokens.map Lexeme.token = token :: ts) :
    ∃ column after, tokens = ⟨token, column⟩ :: after ∧ after.map Lexeme.token = ts := by
  obtain ⟨l, after, rfl, rfl, hafter⟩ := List.map_eq_cons_iff.1 h
  exact ⟨l.column, after, rfl, hafter⟩

lemma exists_lexeme_append {tokens : List Lexeme} {token : Token} {ts us : List Token}
    (h : tokens.map Lexeme.token = ts ++ token :: us) :
    ∃ front column after, tokens = front ++ ⟨token, column⟩ :: after ∧
      front.map Lexeme.token = ts ∧ after.map Lexeme.token = us := by
  obtain ⟨front, tail, rfl, hfront, htail⟩ := List.map_eq_append_iff.1 h
  obtain ⟨column, after, rfl, hafter⟩ := exists_lexeme htail
  exact ⟨front, column, after, rfl, hfront, hafter⟩

mutual

/-- A derived type is read, with twice as much to spend as it has tokens. -/
lemma readType_of_derives {ts : List Token} {t : TypeExpr} : DerivesType ctx.scope ts t →
    ∀ (fuel : Nat) (before : Option Nat) (tokens rest : List Lexeme),
      tokens.map Lexeme.token = ts → Stops rest → 2 * ts.length ≤ fuel →
        readType ctx fuel before (tokens ++ rest) = .ok (t, rest)
  | .simple h => by
    intro fuel before tokens rest htokens hrest hfuel
    obtain ⟨name, tail, hts⟩ := h.exists_name
    obtain ⟨fuel, rfl⟩ : ∃ n, fuel = n + 1 := ⟨fuel - 1, by simp [hts] at hfuel; omega⟩
    rw [readType_of_derivesSimple h fuel before tokens rest htokens hrest.not_openBracket hfuel,
      readAfterSimple_of_stops ctx fuel t hrest]
  | .arrow ha hb => by
    intro fuel before tokens rest htokens hrest hfuel
    obtain ⟨front, column, after, rfl, hfront, hafter⟩ := exists_lexeme_append htokens
    simp only [List.length_append, List.length_cons] at hfuel
    obtain ⟨fuel, rfl⟩ : ∃ n, fuel = n + 2 := ⟨fuel - 2, by omega⟩
    have hresult := readType_of_derives hb fuel (some column) after rest hafter hrest (by omega)
    rw [List.append_assoc, List.cons_append,
      readType_of_derivesSimple ha (fuel + 1) before front _ hfront (by simp [next?]) (by omega)]
    exact readAfterSimple_arrow hresult
  | .parens h => by
    intro fuel before tokens rest htokens hrest hfuel
    obtain ⟨opened, inner, rfl, hinner⟩ := exists_lexeme htokens
    obtain ⟨front, closed, after, rfl, hfront, hafter⟩ := exists_lexeme_append hinner
    obtain rfl := List.map_eq_nil_iff.1 hafter
    simp only [List.length_append, List.length_cons, List.length_nil] at hfuel
    obtain ⟨fuel, rfl⟩ : ∃ n, fuel = n + 2 := ⟨fuel - 2, by omega⟩
    have hinner := readType_of_derives h fuel (some opened) front (⟨.closeParen, closed⟩ :: rest)
      hfront (stops_cons closed rest (by simp) (by simp)) (by omega)
    have hne := (DerivesTypes.one (hfront ▸ h)).next?_ne (⟨.closeParen, closed⟩ :: rest)
    have hread := readType_parens before hne (readTypes_one hinner (by simp [next?]))
    rw [readAfterParens_of_stops ctx (fuel + 1) t hrest] at hread
    simpa using hread
  | .thunk hb => by
    intro fuel before tokens rest htokens hrest hfuel
    obtain ⟨opened, inner, rfl, hinner⟩ := exists_lexeme htokens
    obtain ⟨closed, tail, rfl, htail⟩ := exists_lexeme hinner
    obtain ⟨column, after, rfl, hafter⟩ := exists_lexeme htail
    simp only [List.length_cons] at hfuel
    obtain ⟨fuel, rfl⟩ : ∃ n, fuel = n + 2 := ⟨fuel - 2, by omega⟩
    have hresult := readType_of_derives hb fuel (some column) after rest hafter hrest (by omega)
    simp only [List.cons_append]
    rw [readType_emptyParens]
    exact readAfterParens_arrow hresult
  | .function hparams hb => by
    intro fuel before tokens rest htokens hrest hfuel
    obtain ⟨opened, inner, rfl, hinner⟩ := exists_lexeme htokens
    obtain ⟨front, closed, tail, rfl, hfront, htail⟩ := exists_lexeme_append hinner
    obtain ⟨column, after, rfl, hafter⟩ := exists_lexeme htail
    simp only [List.length_append, List.length_cons] at hfuel
    obtain ⟨fuel, rfl⟩ : ∃ n, fuel = n + 2 := ⟨fuel - 2, by omega⟩
    have hresult := readType_of_derives hb fuel (some column) after rest hafter hrest (by omega)
    have hitems := readTypes_of_derives hparams (fuel + 1) (some opened) front
      (⟨.closeParen, closed⟩ :: ⟨.arrow, column⟩ :: (after ++ rest)) hfront
      (stops_cons closed _ (by simp) (by simp)) (by simp [next?]) (by omega)
    have hne := (hfront ▸ hparams : DerivesTypes ctx.scope (front.map Lexeme.token) _).next?_ne
      (⟨.closeParen, closed⟩ :: ⟨.arrow, column⟩ :: (after ++ rest))
    have hread := readType_parens before hne hitems
    rw [readAfterParens_arrow hresult] at hread
    simpa using hread

/-- A derived list of types is read, with one more to spend for the list. -/
lemma readTypes_of_derives {ts : List Token} {args : List TypeExpr} :
    DerivesTypes ctx.scope ts args →
    ∀ (fuel : Nat) (before : Option Nat) (tokens rest : List Lexeme),
      tokens.map Lexeme.token = ts → Stops rest → next? rest ≠ some .comma →
        2 * ts.length + 1 ≤ fuel → readTypes ctx fuel before (tokens ++ rest) = .ok (args, rest)
  | .one h => by
    intro fuel before tokens rest htokens hrest hcomma hfuel
    obtain ⟨fuel, rfl⟩ : ∃ n, fuel = n + 1 := ⟨fuel - 1, by omega⟩
    exact readTypes_one
      (readType_of_derives h fuel before tokens rest htokens hrest (by omega)) hcomma
  | .cons h hothers => by
    intro fuel before tokens rest htokens hrest hcomma hfuel
    obtain ⟨front, column, after, rfl, hfront, hafter⟩ := exists_lexeme_append htokens
    simp only [List.length_append, List.length_cons] at hfuel
    obtain ⟨fuel, rfl⟩ : ∃ n, fuel = n + 1 := ⟨fuel - 1, by omega⟩
    have hfirst := readType_of_derives h fuel before front (⟨.comma, column⟩ :: (after ++ rest))
      hfront (stops_cons column _ (by simp) (by simp)) (by omega)
    have hread := readTypes_of_derives hothers fuel (some column) after rest hafter hrest hcomma
      (by omega)
    rw [List.append_assoc, List.cons_append, readTypes, hfirst]
    simp only [hread]

/-- A derived name is passed, and the reader goes on after it. -/
lemma readType_of_derivesSimple {ts : List Token} {t : TypeExpr} :
    DerivesSimple ctx.scope ts t →
    ∀ (fuel : Nat) (before : Option Nat) (tokens rest : List Lexeme),
      tokens.map Lexeme.token = ts → next? rest ≠ some .openBracket → 2 * ts.length ≤ fuel + 1 →
        readType ctx (fuel + 1) before (tokens ++ rest) = readAfterSimple ctx fuel t rest
  | .bare h => by
    intro fuel before tokens rest htokens hrest hfuel
    obtain ⟨named, after, rfl, hafter⟩ := exists_lexeme htokens
    obtain rfl := List.map_eq_nil_iff.1 hafter
    exact readType_bare hrest h
  | .applied hargs h => by
    intro fuel before tokens rest htokens hrest hfuel
    obtain ⟨named, tail, rfl, htail⟩ := exists_lexeme htokens
    obtain ⟨opened, inner, rfl, hinner⟩ := exists_lexeme htail
    obtain ⟨front, closed, after, rfl, hfront, hafter⟩ := exists_lexeme_append hinner
    obtain rfl := List.map_eq_nil_iff.1 hafter
    simp only [List.length_append, List.length_cons, List.length_nil] at hfuel
    have hread := readTypes_of_derives hargs fuel (some opened) front
      (⟨.closeBracket, closed⟩ :: rest) hfront (stops_cons closed _ (by simp) (by simp))
      (by simp [next?]) (by omega)
    simpa using readType_applied hread h

end

end Complete

lemma stops_nil : Stops [] :=
  ⟨by simp [next?], by simp [next?]⟩

lemma parse_eq_ok_iff_read {input : String} {scope : List String} {t : TypeExpr} :
    parse input scope = .ok t ↔ read scope input.toList = .ok t := by
  rw [parse]
  cases read scope input.toList <;> simp [Except.mapError]

/-- Reading a text is deriving a type from all of its tokens. -/
lemma read_eq_ok_iff {scope : List String} {input : List Char} {lexemes : List Lexeme}
    (h : tokenize input = .ok lexemes) {t : TypeExpr} :
    read scope input = .ok t ↔ DerivesType scope (lexemes.map Lexeme.token) t := by
  unfold read
  simp only [h]
  constructor
  · intro hread
    split at hread
    · cases hread
    · next u htype =>
      cases hread
      obtain ⟨used, rfl, hused⟩ := (soundAt _ _).type htype
      simpa using hused
    · cases hread
  · intro hderives
    have htype : readType ⟨scope, input.length + 1⟩ (2 * lexemes.length + 1) none (lexemes ++ []) =
        .ok (t, []) :=
      readType_of_derives hderives _ none lexemes [] rfl stops_nil (by simp)
    rw [List.append_nil] at htype
    rw [htype]

/-- A token list derives one type at most: the reader returns it. -/
lemma DerivesType.unique {scope : List String} {ts : List Token} {t u : TypeExpr}
    (ht : DerivesType scope ts t) (hu : DerivesType scope ts u) : t = u := by
  let tokens := ts.map fun token => (⟨token, 0⟩ : Lexeme)
  have hmap : tokens.map Lexeme.token = ts := by
    simp [tokens, Function.comp_def]
  have hreads : ∀ v, DerivesType scope ts v →
      readType ⟨scope, 0⟩ (2 * ts.length) none (tokens ++ []) = .ok (v, []) :=
    fun v hv => readType_of_derives hv _ none tokens [] hmap stops_nil (Nat.le_refl _)
  have heq := (hreads t ht).symm.trans (hreads u hu)
  cases heq
  rfl

/-- **The reader accepts exactly the grammar.**  Of a text that splits into tokens, reading returns
a type exactly when the tokens derive it, and no token list derives two types. -/
theorem parse_eq_ok_iff_derivesType {input : String} {lexemes : List Lexeme}
    (h : tokenize input.toList = .ok lexemes) (scope : List String) :
    (∀ t, parse input scope = .ok t ↔ DerivesType scope (lexemes.map Lexeme.token) t) ∧
      ∀ ts t u, DerivesType scope ts t → DerivesType scope ts u → t = u := by
  refine ⟨?_, ?_⟩
  · intro t
    rw [parse_eq_ok_iff_read, read_eq_ok_iff h]
  · intro ts t u ht hu
    exact ht.unique hu

/-- The comma makes the parentheses a parameter list, and `Option` of an `Option` is one. -/
theorem parse_eq_ok_iff_derivesType_parameters :
    let lexemes : List Lexeme :=
      [⟨.openParen, 1⟩, ⟨.name "Int", 2⟩, ⟨.comma, 5⟩, ⟨.name "Option", 7⟩, ⟨.openBracket, 13⟩,
        ⟨.name "Option", 14⟩, ⟨.openBracket, 20⟩, ⟨.name "T", 21⟩, ⟨.closeBracket, 22⟩,
        ⟨.closeBracket, 23⟩, ⟨.closeParen, 24⟩, ⟨.arrow, 26⟩, ⟨.name "T", 29⟩]
    tokenize "(Int, Option[Option[T]]) => T".toList = .ok lexemes ∧
      DerivesType ["T"] (lexemes.map Lexeme.token)
        (.function [.primitive .int, .nullable (.parameter "T" [])] (.parameter "T" [])) := by
  intro lexemes
  have htokens : tokenize "(Int, Option[Option[T]]) => T".toList = .ok lexemes := by decide +kernel
  exact ⟨htokens, ((parse_eq_ok_iff_derivesType htokens ["T"]).1 _).1 (by decide +kernel)⟩

end Blueprint.TypeExpr
