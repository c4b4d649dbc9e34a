import Blueprint.Proofs.TypeExpr.Grammar
import Blueprint.Proofs.TypeExpr.Scan

/-!
# Where faults of type expressions are reported

A reader that expects one thing and finds another reports a column.  The main result
`standsAt_column_iff` says which: the column where the token that was found stands, all tokens
before it being consumed.  There is one exception.  A type name that is missing at the end of a text
is reported at the last token, and not at the end, where every other missing token is reported.

What has been consumed is said without the reader.  `AwaitsInType` has one constructor for each
place inside a production of the grammar, so `Awaits scope ts want` means that `ts` are the tokens
before such a place and that `want` comes next there.

The proof follows the reader as the soundness proof of the grammar does.  `LocatedAt` holds what the
four mutual functions promise about their faults at one allowance; a fault in a part of a type is
one of the whole (`Located.prepend`).  Here the allowance has to be large enough for the tokens: a
reader that runs out reports a missing type name where there may be one.
-/

namespace Blueprint.TypeExpr

open Blueprint.Text

/-! ## What a reader waits for -/

/-- What a message says was expected: a type name, or a token; no token is the end of the text. -/
inductive Want where
  | typeName
  | token (wanted : Option Token)
deriving DecidableEq

namespace Want

/-- How messages name what was expected. -/
def describe : Want → String
  | .typeName => "a type name"
  | .token wanted => TypeExpr.describe wanted

/-- Whether a token, or the end of the text, is what was expected.  A parenthesis opens a type as
well as a name does. -/
def Accepts : Want → Option Token → Prop
  | .typeName, found => (∃ name, found = some (.name name)) ∨ found = some .openParen
  | .token wanted, found => found = wanted

end Want

/-- What was expected and what was found instead, if the cause is of this kind. -/
def Cause.expectation? : Cause → Option (Want × Option Token)
  | .expected wanted found => some (.token wanted, found)
  | .expectedTypeName found => some (.typeName, found)
  | _ => none

/-- Whether the cause is that a text does not split into tokens. -/
def Cause.isOfScan : Cause → Bool
  | .malformedName _ | .unexpectedChar _ => true
  | _ => false

mutual

/-- The tokens begin a type that is not complete, and what it needs next is `want`.  There is one
constructor for each place inside a production: the parts before it are complete. -/
inductive AwaitsInType (scope : List String) : List Token → Want → Prop
  | start : AwaitsInType scope [] .typeName
  | parens {ts : List Token} {want : Want} (h : AwaitsInTypes scope ts want) :
      AwaitsInType scope (.openParen :: ts) want
  | closeParen {ts : List Token} {items : List TypeExpr} (h : DerivesTypes scope ts items) :
      AwaitsInType scope (.openParen :: ts) (.token (some .closeParen))
  | thunk {us : List Token} {want : Want} (h : AwaitsInType scope us want) :
      AwaitsInType scope (.openParen :: .closeParen :: .arrow :: us) want
  | function {ts us : List Token} {items : List TypeExpr} {want : Want}
      (hitems : DerivesTypes scope ts items) (h : AwaitsInType scope us want) :
      AwaitsInType scope (.openParen :: (ts ++ .closeParen :: .arrow :: us)) want
  | brackets {name : String} {ts : List Token} {want : Want} (h : AwaitsInTypes scope ts want) :
      AwaitsInType scope (.name name :: .openBracket :: ts) want
  | closeBracket {name : String} {ts : List Token} {args : List TypeExpr}
      (h : DerivesTypes scope ts args) :
      AwaitsInType scope (.name name :: .openBracket :: ts) (.token (some .closeBracket))
  | arrow {ts us : List Token} {first : TypeExpr} {want : Want}
      (hfirst : DerivesSimple scope ts first) (h : AwaitsInType scope us want) :
      AwaitsInType scope (ts ++ .arrow :: us) want

/-- The tokens begin a list of types that is not complete. -/
inductive AwaitsInTypes (scope : List String) : List Token → Want → Prop
  | first {ts : List Token} {want : Want} (h : AwaitsInType scope ts want) :
      AwaitsInTypes scope ts want
  | next {ts us : List Token} {t : TypeExpr} {want : Want} (ht : DerivesType scope ts t)
      (h : AwaitsInTypes scope us want) : AwaitsInTypes scope (ts ++ .comma :: us) want

end

/-- The tokens are what a reader has consumed when it needs `want` next: the beginning of a type, or
a whole one. -/
inductive Awaits (scope : List String) : List Token → Want → Prop
  | inside {ts : List Token} {want : Want} (h : AwaitsInType scope ts want) : Awaits scope ts want
  | stop {ts : List Token} {t : TypeExpr} (h : DerivesType scope ts t) :
      Awaits scope ts (.token none)

/-! ## Faults of a reader -/

/-- The column at which a reader reports a fault, with the tokens it has consumed and those that are
left; `before` is the column of the token before them.  A type name that is missing at the end is
reported at the token before the end. -/
def Context.blamed (ctx : Context) (before : Option Nat) (used rest : List Lexeme) : Cause → Nat
  | .expectedTypeName none => ((used.getLast?.map Lexeme.column).or before).getD ctx.stop
  | _ => ctx.column rest

/-- A reader that began at some tokens reports a fault after it has consumed some of them.  If
something else was expected than what comes next, `awaits` says what the consumed tokens need. -/
def Located (ctx : Context) (awaits : List Token → Want → Prop) (before : Option Nat)
    (tokens : List Lexeme) (e : Fault) : Prop :=
  ∃ used rest, tokens = used ++ rest ∧ e.column = ctx.blamed before used rest e.cause ∧
    e.cause.isOfScan = false ∧ ∀ want found, e.cause.expectation? = some (want, found) →
      awaits (used.map Lexeme.token) want ∧ found = next? rest ∧ ¬ want.Accepts found

section Located

variable {ctx : Context} {awaits awaits' : List Token → Want → Prop} {before : Option Nat}
  {tokens rest : List Lexeme} {e : Fault}

lemma blamed_append (front : List Lexeme) (l : Lexeme) (used rest : List Lexeme) (cause : Cause) :
    ctx.blamed before (front ++ l :: used) rest cause =
      ctx.blamed (some l.column) used rest cause := by
  have hlast : (front ++ l :: used).getLast? = some (used.getLast?.getD l) := by
    rw [List.getLast?_append, List.getLast?_cons]
    rfl
  unfold Context.blamed
  split
  · rw [hlast]
    cases used.getLast? <;> rfl
  · rfl

lemma Located.imp (h : Located ctx awaits before tokens e)
    (hawaits : ∀ ts want, awaits ts want → awaits' ts want) :
    Located ctx awaits' before tokens e := by
  obtain ⟨used, rest, rfl, hcolumn, hscan, hexpected⟩ := h
  refine ⟨used, rest, rfl, hcolumn, hscan, fun want found hcause => ?_⟩
  obtain ⟨hwant, hfound⟩ := hexpected want found hcause
  exact ⟨hawaits _ _ hwant, hfound⟩

/-- A fault among the tokens after a token is one among all of them. -/
lemma Located.prepend (front : List Lexeme) {l : Lexeme}
    (h : Located ctx awaits (some l.column) tokens e)
    (hawaits : ∀ ts want, awaits ts want →
      awaits' (front.map Lexeme.token ++ l.token :: ts) want) :
    Located ctx awaits' before (front ++ l :: tokens) e := by
  obtain ⟨used, rest, rfl, hcolumn, hscan, hexpected⟩ := h
  refine ⟨front ++ l :: used, rest, by simp, ?_, hscan, ?_⟩
  · rw [hcolumn, blamed_append]
  · intro want found hcause
    obtain ⟨hwant, hfound, hrefused⟩ := hexpected want found hcause
    exact ⟨by simpa using hawaits _ _ hwant, hfound, hrefused⟩

/-- A reader refuses what it has read, and reports that at the next token. -/
structure Refuses (ctx : Context) (rest : List Lexeme) (e : Fault) : Prop where
  column : e.column = ctx.column rest
  expectation? : e.cause.expectation? = none
  isOfScan : e.cause.isOfScan = false

lemma Refuses.located (h : Refuses ctx rest e) (used : List Lexeme) :
    Located ctx awaits before (used ++ rest) e := by
  have hcause := h.expectation?
  refine ⟨used, rest, rfl, ?_, h.isOfScan, ?_⟩
  · rw [h.column]
    unfold Context.blamed
    split
    · next hname =>
      rw [hname] at hcause
      cases hcause
    · rfl
  · intro want found hsome
    rw [hcause] at hsome
    cases hsome

/-- A name is refused only for the number of its arguments. -/
lemma arity_of_resolve {scope : List String} {name : String} {args : List TypeExpr} {cause : Cause}
    (h : resolve scope name args = .error cause) :
    ∃ wanted, cause = .arity name wanted args.length := by
  unfold resolve at h
  repeat' split at h
  all_goals cases h
  all_goals exact ⟨_, rfl⟩

lemma refuses_of_resolveAt {name : String} {args : List TypeExpr}
    (h : resolveAt ctx name args rest = .error e) : Refuses ctx rest e := by
  rw [resolveAt] at h
  cases hresolve : resolve ctx.scope name args with
  | ok t =>
    rw [hresolve] at h
    cases h
  | error cause =>
    obtain ⟨wanted, rfl⟩ := arity_of_resolve hresolve
    rw [hresolve] at h
    cases h
    exact ⟨rfl, rfl, rfl⟩

/-- A token that was expected and does not come next. -/
lemma located_of_expect {wanted : Token} (used : List Lexeme)
    (hawaits : awaits (used.map Lexeme.token) (.token (some wanted)))
    (h : expect ctx wanted rest = .error e) : Located ctx awaits before (used ++ rest) e := by
  cases rest with
  | nil =>
    cases h
    refine ⟨used, [], rfl, rfl, rfl, ?_⟩
    intro want found hcause
    cases hcause
    exact ⟨hawaits, rfl, by simp [Want.Accepts]⟩
  | cons l rest =>
    rw [expect] at h
    split at h
    · cases h
    · next hne =>
      cases h
      refine ⟨used, l :: rest, rfl, rfl, rfl, ?_⟩
      intro want found hcause
      cases hcause
      exact ⟨hawaits, rfl, by simpa [Want.Accepts] using hne⟩

/-- A reader that goes on after a type fails right there, or in the result after an arrow. -/
def FailsOn (ctx : Context) (tokens : List Lexeme) (e : Fault) : Prop :=
  Refuses ctx tokens e ∨
    ∃ column rest, tokens = ⟨.arrow, column⟩ :: rest ∧
      Located ctx (AwaitsInType ctx.scope) (some column) rest e

lemma FailsOn.located_simple (front : List Lexeme) {first : TypeExpr} (h : FailsOn ctx rest e)
    (hfront : DerivesSimple ctx.scope (front.map Lexeme.token) first) :
    Located ctx (AwaitsInType ctx.scope) before (front ++ rest) e := by
  rcases h with hrefuses | ⟨column, result, rfl, hresult⟩
  · exact hrefuses.located front
  · exact hresult.prepend front fun ts want h => .arrow hfront h

lemma FailsOn.located_parens {front : List Lexeme} {items : List TypeExpr} (h : FailsOn ctx rest e)
    (opened closed : Nat)
    (hfront : (front = [] ∧ items = []) ∨ DerivesTypes ctx.scope (front.map Lexeme.token) items) :
    Located ctx (AwaitsInType ctx.scope) before
      (⟨.openParen, opened⟩ :: (front ++ ⟨.closeParen, closed⟩ :: rest)) e := by
  have hsplit : ∀ tail : List Lexeme,
      (⟨.openParen, opened⟩ :: (front ++ ⟨.closeParen, closed⟩ :: tail) : List Lexeme) =
        (⟨.openParen, opened⟩ :: (front ++ [⟨.closeParen, closed⟩])) ++ tail := by
    intro tail
    simp
  rw [hsplit]
  rcases h with hrefuses | ⟨column, result, rfl, hresult⟩
  · exact hrefuses.located _
  · refine hresult.prepend _ fun ts want h => ?_
    rcases hfront with ⟨rfl, -⟩ | hfront
    · exact .thunk h
    · simpa using AwaitsInType.function hfront h

end Located

/-- What the reader promises about its faults at one allowance, if the allowance is enough for the
tokens. -/
structure LocatedAt (ctx : Context) (fuel : Nat) : Prop where
  type {before : Option Nat} {tokens : List Lexeme} {e : Fault} :
    readType ctx fuel before tokens = .error e → 2 * tokens.length < fuel →
      Located ctx (AwaitsInType ctx.scope) before tokens e
  types {before : Option Nat} {tokens : List Lexeme} {e : Fault} :
    readTypes ctx fuel before tokens = .error e → 2 * tokens.length + 1 < fuel →
      Located ctx (AwaitsInTypes ctx.scope) before tokens e
  afterParens {items : List TypeExpr} {tokens : List Lexeme} {e : Fault} :
    readAfterParens ctx fuel items tokens = .error e → 2 * tokens.length ≤ fuel →
      FailsOn ctx tokens e
  afterSimple {first : TypeExpr} {tokens : List Lexeme} {e : Fault} :
    readAfterSimple ctx fuel first tokens = .error e → 2 * tokens.length ≤ fuel →
      FailsOn ctx tokens e

section LocatedAt

variable {ctx : Context} {fuel : Nat} {before : Option Nat} {tokens : List Lexeme} {e : Fault}

lemma readTypes_located (ih : LocatedAt ctx fuel)
    (h : readTypes ctx (fuel + 1) before tokens = .error e)
    (hfuel : 2 * tokens.length + 1 < fuel + 1) :
    Located ctx (AwaitsInTypes ctx.scope) before tokens e := by
  rw [readTypes] at h
  split at h
  · next htype =>
    cases h
    exact (ih.type htype (by omega)).imp fun ts want h => .first h
  · next t column tail htype =>
    obtain ⟨used, rfl, hused⟩ := (soundAt ctx fuel).type htype
    split at h
    · next htypes =>
      cases h
      simp only [List.length_append, List.length_cons] at hfuel
      exact (ih.types htypes (by omega)).prepend used fun ts want h => .next hused h
    · cases h
  · cases h

lemma readAfterParens_failsOn (ih : LocatedAt ctx fuel) {items : List TypeExpr}
    (h : readAfterParens ctx (fuel + 1) items tokens = .error e)
    (hfuel : 2 * tokens.length ≤ fuel + 1) : FailsOn ctx tokens e := by
  unfold readAfterParens at h
  split at h
  · next column tail heq =>
    cases heq
    split at h
    · next hresult =>
      cases h
      simp only [List.length_cons] at hfuel
      exact .inr ⟨column, tail, rfl, ih.type hresult (by omega)⟩
    · cases h
  · cases h
  · cases h
    exact .inl ⟨rfl, rfl, rfl⟩
  · cases h
    exact .inl ⟨rfl, rfl, rfl⟩

lemma readAfterSimple_failsOn (ih : LocatedAt ctx fuel) {first : TypeExpr}
    (h : readAfterSimple ctx (fuel + 1) first tokens = .error e)
    (hfuel : 2 * tokens.length ≤ fuel + 1) : FailsOn ctx tokens e := by
  unfold readAfterSimple at h
  split at h
  · next column tail heq =>
    cases heq
    split at h
    · next hresult =>
      cases h
      simp only [List.length_cons] at hfuel
      exact .inr ⟨column, tail, rfl, ih.type hresult (by omega)⟩
    · cases h
  · cases h

lemma readType_located (ih : LocatedAt ctx fuel)
    (h : readType ctx (fuel + 1) before tokens = .error e) (hfuel : 2 * tokens.length < fuel + 1) :
    Located ctx (AwaitsInType ctx.scope) before tokens e := by
  unfold readType at h
  split at h
  -- the end of the text
  · cases h
    refine ⟨[], [], rfl, rfl, rfl, fun want found hcause => ?_⟩
    cases hcause
    exact ⟨.start, rfl, by simp [Want.Accepts]⟩
  -- an opening parenthesis
  · next opened tail =>
    simp only [List.length_cons] at hfuel
    split at h
    · next hclose =>
      obtain ⟨closed, htail⟩ := next?_eq_some hclose
      have hlength := congrArg List.length htail
      simp only [List.length_cons] at hlength
      rw [htail]
      exact (ih.afterParens h (by omega)).located_parens opened closed (.inl ⟨rfl, rfl⟩)
    · split at h
      · next hitems =>
        cases h
        exact (ih.types hitems (by omega)).prepend [] fun ts want h => .parens h
      · next items tail' hitems =>
        obtain ⟨front, rfl, hfront⟩ := (soundAt ctx fuel).types hitems
        split at h
        · next hclose =>
          cases h
          exact located_of_expect (⟨.openParen, opened⟩ :: front) (.closeParen hfront) hclose
        · next tail'' hclose =>
          obtain ⟨closed, rfl⟩ := expect_eq_ok hclose
          simp only [List.length_append, List.length_cons] at hfuel
          exact (ih.afterParens h (by omega)).located_parens opened closed (.inr hfront)
  -- a name with arguments
  · next name named opened tail =>
    simp only [List.length_cons] at hfuel
    split at h
    · next hargs =>
      cases h
      exact (ih.types hargs (by omega)).prepend [⟨.name name, named⟩]
        fun ts want h => .brackets h
    · next args tail' hargs =>
      obtain ⟨front, rfl, hfront⟩ := (soundAt ctx fuel).types hargs
      split at h
      · next hclose =>
        cases h
        exact located_of_expect (⟨.name name, named⟩ :: ⟨.openBracket, opened⟩ :: front)
          (.closeBracket hfront) hclose
      · next tail'' hclose =>
        obtain ⟨closed, rfl⟩ := expect_eq_ok hclose
        have hsplit : (⟨.name name, named⟩ :: ⟨.openBracket, opened⟩ ::
              (front ++ ⟨.closeBracket, closed⟩ :: tail'') : List Lexeme) =
            (⟨.name name, named⟩ :: ⟨.openBracket, opened⟩ ::
              (front ++ [⟨.closeBracket, closed⟩])) ++ tail'' := by
          simp
        rw [hsplit]
        split at h
        · next hresolve =>
          cases h
          exact (refuses_of_resolveAt hresolve).located _
        · next first hresolve =>
          simp only [List.length_append, List.length_cons] at hfuel
          have hsimple : DerivesSimple ctx.scope
              ((⟨.name name, named⟩ :: ⟨.openBracket, opened⟩ ::
                (front ++ [⟨.closeBracket, closed⟩]) : List Lexeme).map Lexeme.token) first := by
            simpa using DerivesSimple.applied hfront (denotes_of_resolveAt hresolve)
          exact (ih.afterSimple h (by omega)).located_simple _ hsimple
  -- a bare name
  · next name named tail _ =>
    simp only [List.length_cons] at hfuel
    split at h
    · next hresolve =>
      cases h
      exact (refuses_of_resolveAt hresolve).located [⟨.name name, named⟩]
    · next first hresolve =>
      exact (ih.afterSimple h (by omega)).located_simple [⟨.name name, named⟩]
        (.bare (denotes_of_resolveAt hresolve))
  -- any other token
  · next token column tail hparen _ hname =>
    cases h
    refine ⟨[], _, rfl, rfl, rfl, fun want found hcause => ?_⟩
    cases hcause
    refine ⟨.start, rfl, ?_⟩
    rintro (⟨name, hfound⟩ | hfound)
    · cases hfound
      exact hname name rfl
    · cases hfound
      exact hparen rfl

/-- At the end of its allowance the reader has no tokens left. -/
lemma locatedAt_zero (ctx : Context) : LocatedAt ctx 0 where
  type _ hfuel := by omega
  types _ hfuel := by omega
  afterParens {items tokens e} h hfuel := by
    left
    match items, h with
    | [], h =>
      cases h
      exact ⟨rfl, rfl, rfl⟩
    | _ :: _ :: _, h =>
      cases h
      exact ⟨rfl, rfl, rfl⟩
  afterSimple h _ := by cases h

lemma locatedAt (ctx : Context) : ∀ fuel, LocatedAt ctx fuel
  | 0 => locatedAt_zero ctx
  | fuel + 1 =>
    have ih := locatedAt ctx fuel
    { type := readType_located ih
      types := readTypes_located ih
      afterParens := readAfterParens_failsOn ih
      afterSimple := readAfterSimple_failsOn ih }

end LocatedAt

/-! ## Faults of a text -/

/-- A token stands at a column of the text: its spelling begins there.  No token is the end of the
text. -/
def StandsAt (text : List Char) (column : Nat) : Option Token → Prop
  | some token =>
    ∃ front after, text = front ++ (token.spelling.toList ++ after) ∧ column = front.length + 1
  | none => column = text.length + 1

/-- At a column of the text no token begins, and it is the first of this kind: the text before it
splits into tokens and does not end inside a name. -/
def BreaksAt (text : List Char) (column : Nat) (cause : Cause) : Prop :=
  ∃ front rest, text = front ++ rest ∧ column = front.length + 1 ∧ Breaks rest cause ∧
    (EndsName rest ∨ ∀ c ∈ front.getLast?, isNameChar c = false) ∧
    ∃ lexemes, tokenize front = .ok lexemes

section Text

variable {scope : List String} {input : List Char} {lexemes : List Lexeme} {e : Fault}

lemma breaksAt_of_tokenize (h : tokenize input = .error e) : BreaksAt input e.column e.cause := by
  obtain ⟨front, rest, hinput, hbreaks, hcolumn, hends, htokens⟩ := exists_breaks_of_error h
  exact ⟨front, rest, hinput, by omega, hbreaks, hends, htokens⟩

lemma standsAt_of_mem (h : tokenize input = .ok lexemes) {l : Lexeme} (hl : l ∈ lexemes) :
    StandsAt input l.column (some l.token) := by
  obtain ⟨front, after, hinput, hcolumn, -⟩ := exists_spelling_of_mem h hl
  exact ⟨front, after, hinput, by omega⟩

/-- The end of the text is behind all of its tokens. -/
lemma column_le_length (h : tokenize input = .ok lexemes) {l : Lexeme} (hl : l ∈ lexemes) :
    1 ≤ l.column ∧ l.column ≤ input.length := by
  obtain ⟨front, after, hinput, hcolumn, hne⟩ := exists_spelling_of_mem h hl
  have hpos := List.length_pos_iff.2 hne
  rw [hinput, hcolumn]
  simp only [List.length_append]
  omega

lemma located_of_read (htokens : tokenize input = .ok lexemes) (h : read scope input = .error e) :
    Located ⟨scope, input.length + 1⟩ (Awaits scope) none lexemes e := by
  unfold read at h
  simp only [htokens] at h
  split at h
  · next htype =>
    cases h
    exact ((locatedAt _ _).type htype (by omega)).imp fun ts want h => .inside h
  · cases h
  · next t l tail htype =>
    cases h
    obtain ⟨used, rfl, hused⟩ := (soundAt _ _).type htype
    refine ⟨used, l :: tail, rfl, rfl, rfl, fun want found hcause => ?_⟩
    cases hcause
    exact ⟨.stop hused, rfl, by simp [Want.Accepts]⟩

lemma blamed_mem (ctx : Context) (used rest : List Lexeme) (cause : Cause) :
    ctx.blamed none used rest cause = ctx.stop ∨
      ∃ l ∈ used ++ rest, ctx.blamed none used rest cause = l.column := by
  unfold Context.blamed
  split
  · cases hlast : used.getLast? with
    | none => exact .inl rfl
    | some l => exact .inr ⟨l, List.mem_append_left _ (List.mem_of_getLast? hlast), rfl⟩
  · cases rest with
    | nil => exact .inl rfl
    | cons l rest => exact .inr ⟨l, List.mem_append_right _ List.mem_cons_self, rfl⟩

lemma read_of_tokenize (h : tokenize input = .error e) (scope : List String) :
    read scope input = .error e := by
  unfold read
  simp only [h]

/-- A fault is reported at a place of the text or right behind it. -/
lemma column_mem_of_read (h : read scope input = .error e) :
    1 ≤ e.column ∧ e.column ≤ input.length + 1 := by
  cases htokens : tokenize input with
  | error fault =>
    rw [read_of_tokenize htokens] at h
    cases h
    obtain ⟨front, rest, hinput, hcolumn, -⟩ := breaksAt_of_tokenize htokens
    rw [hcolumn, hinput, List.length_append]
    omega
  | ok lexemes =>
    obtain ⟨used, rest, rfl, hcolumn, -⟩ := located_of_read htokens h
    rw [hcolumn]
    rcases blamed_mem ⟨scope, input.length + 1⟩ used rest e.cause with hstop | ⟨l, hl, hmem⟩
    · rw [hstop]
      exact ⟨Nat.le_add_left 1 input.length, Nat.le_refl _⟩
    · have hinside := column_le_length htokens hl
      omega

lemma message_of_expectation? {cause : Cause} {want : Want} {found : Option Token}
    (h : cause.expectation? = some (want, found)) :
    cause.message = "expected " ++ want.describe ++ ", found " ++ describe found := by
  cases cause with
  | expected wanted found =>
    cases h
    rfl
  | expectedTypeName found =>
    cases h
    rfl
  | _ => cases h

section Blamed

variable {ctx : Context} {used rest : List Lexeme} {cause : Cause} {want : Want}

lemma blamed_cons {l : Lexeme} (hcause : cause.expectation? = some (want, some l.token)) :
    ctx.blamed none used (l :: rest) cause = l.column := by
  unfold Context.blamed
  split
  · cases hcause
  · rfl

/-- At the end of the text, a type name is missed at the token before, and a token at the end. -/
lemma blamed_nil (hcause : cause.expectation? = some (want, none)) :
    ctx.blamed none used [] cause =
      if want = .typeName then (used.getLast?.map Lexeme.column).getD ctx.stop else ctx.stop := by
  cases cause with
  | expected wanted found =>
    cases hcause
    rfl
  | expectedTypeName found =>
    cases hcause
    simp [Context.blamed]
  | _ => cases hcause

/-- The column is that of what was found, unless a type name is missing at the end of a text that
has tokens. -/
lemma standsAt_blamed_iff (htokens : tokenize input = .ok (used ++ rest))
    (hcause : cause.expectation? = some (want, next? rest)) :
    StandsAt input (Context.blamed ⟨scope, input.length + 1⟩ none used rest cause) (next? rest) ↔
      ¬ (want = .typeName ∧ rest = [] ∧ used ≠ []) := by
  cases rest with
  | cons l rest =>
    rw [blamed_cons hcause]
    exact iff_of_true (standsAt_of_mem htokens (by simp)) (by simp)
  | nil =>
    rw [blamed_nil hcause]
    by_cases hwant : want = .typeName
    · rw [if_pos hwant]
      cases hlast : used.getLast? with
      | none => exact iff_of_true rfl (by simpa [hwant] using hlast)
      | some l =>
        have hinside := column_le_length htokens
          (List.mem_append_left [] (List.mem_of_getLast? hlast))
        have hused : used ≠ [] := by
          rintro rfl
          cases hlast
        refine iff_of_false (fun hstands => ?_) (fun hfree => hfree ⟨hwant, rfl, hused⟩)
        have hend : l.column = input.length + 1 := hstands
        omega
    · rw [if_neg hwant]
      exact iff_of_true rfl (by simp [hwant])

end Blamed

/-- The reader has consumed the tokens `used` and needs `want`, but `found` comes next. -/
structure Misses (scope : List String) (text : List Char) (used rest : List Lexeme) (want : Want)
    (found : Option Token) : Prop where
  tokens : tokenize text = .ok (used ++ rest)
  awaits : Awaits scope (used.map Lexeme.token) want
  found_eq : found = next? rest
  not_accepts : ¬ want.Accepts found

end Text

section Parse

variable {scope : List String} {input : String} {e : SyntaxError}

lemma exists_of_mapError {α ε ε' : Type} {f : ε → ε'} {r : Except ε α} {e : ε'}
    (h : r.mapError f = .error e) : ∃ fault, r = .error fault ∧ f fault = e := by
  cases r with
  | ok a => cases h
  | error fault =>
    cases h
    exact ⟨fault, rfl, rfl⟩

lemma expectation?_of_breaks {text : List Char} {cause : Cause} (h : Breaks text cause) :
    cause.expectation? = none := by
  cases h <;> rfl

/-- **Where faults are reported.**  If one thing was expected and another found, the tokens before
some place are what the reader has consumed, and what was found comes next.  The column is the one
where it stands, with one exception: a type name that is missing at the end of a text with tokens
is reported at the last of these.  If the text does not split into tokens, the column is the first
one where no token begins. -/
theorem standsAt_column_iff (h : parse input scope = .error e) :
    (∀ want found, e.fault.cause.expectation? = some (want, found) →
      e.detail = "expected " ++ want.describe ++ ", found " ++ describe found ∧
      ∃ used rest, Misses scope input.toList used rest want found ∧
        (∀ l ∈ rest.head?, e.column = l.column) ∧
        (want = .typeName → rest = [] → ∀ l ∈ used.getLast?, e.column = l.column) ∧
        (StandsAt input.toList e.column found ↔ ¬ (want = .typeName ∧ rest = [] ∧ used ≠ []))) ∧
      (e.fault.cause.isOfScan = true → BreaksAt input.toList e.column e.fault.cause) := by
  obtain ⟨fault, hread, rfl⟩ := exists_of_mapError h
  cases htokens : tokenize input.toList with
  | error broken =>
    rw [read_of_tokenize htokens] at hread
    cases hread
    have hbreaks := breaksAt_of_tokenize htokens
    refine ⟨fun want found hcause => ?_, fun _ => hbreaks⟩
    obtain ⟨front, rest, -, -, hrest, -⟩ := hbreaks
    rw [expectation?_of_breaks hrest] at hcause
    cases hcause
  | ok lexemes =>
    obtain ⟨used, rest, rfl, hcolumn, hscan, hexpected⟩ := located_of_read htokens hread
    refine ⟨fun want found hcause => ?_, fun htrue => ?_⟩
    · obtain ⟨hawaits, rfl, hrefused⟩ := hexpected want found hcause
      refine ⟨message_of_expectation? hcause, used, rest, ⟨htokens, hawaits, rfl, hrefused⟩, ?_, ?_,
        ?_⟩
      · intro l hl
        obtain ⟨tail, rfl⟩ := List.head?_eq_some_iff.1 hl
        exact hcolumn.trans (blamed_cons hcause)
      · rintro rfl rfl l hl
        refine hcolumn.trans ((blamed_nil hcause).trans ?_)
        rw [if_pos rfl, Option.mem_def.1 hl]
        rfl
      · show StandsAt input.toList fault.column (next? rest) ↔ _
        rw [hcolumn]
        exact standsAt_blamed_iff htokens hcause
    · rw [hscan] at htrue
      cases htrue

/-- After `A` a reader of arguments expects a bracket, and finds `B`. -/
theorem standsAt_column_iff_bracket :
    let e : SyntaxError := ⟨⟨.expected (some .closeBracket) (some (.name "B")), 7⟩, "Set[A B]"⟩
    parse "Set[A B]" [] = .error e ∧ e.detail = "expected ']', found 'B'" ∧
      StandsAt "Set[A B]".toList 7 (some (.name "B")) := by
  intro e
  have hparse : parse "Set[A B]" [] = .error e := by decide +kernel
  obtain ⟨hdetail, used, rest, hmisses, -, -, hstands⟩ :=
    (standsAt_column_iff hparse).1 (.token (some .closeBracket)) (some (.name "B")) rfl
  exact ⟨hparse, hdetail, hstands.2 (by simp)⟩

/-- The argument that is missing at the end is reported at the bracket. -/
theorem expectedTypeName_before_end :
    parse "List[" [] = .error ⟨⟨.expectedTypeName none, 5⟩, "List["⟩ ∧
      ¬ StandsAt "List[".toList 5 none := by
  refine ⟨by decide +kernel, ?_⟩
  simp [StandsAt]

end Parse

end Blueprint.TypeExpr
