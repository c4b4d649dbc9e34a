import Blueprint.Proofs.TypeExpr.Grammar
import Blueprint.Proofs.TypeExpr.Token
import Blueprint.TypeExpr.Display

/-!
# Reading back a displayed type

A type that was read from a text can be shown and read again: `parse_display_of_parse` says that the
spelling `display` gives is a text for exactly the same type.  Reading forgets how a list was
called, how often `Option` was repeated and which parentheses were superfluous, so the spelling need
not be the text that was read; it is the one spelling all texts of the type are brought to.

The spelling of an arbitrary type may be no type expression at all, or one of another type:
`nullable (nullable t)` is shown as `Option[Option[t]]`, which is read as `nullable t`, and a
variable is shown without its bounds.  `Readable` describes the types that reading returns, in a
given scope.  Everything below is about readable types.

The two halves of the argument meet at the tokens.  What the grammar derives is readable, since each
production puts readable parts together (`DerivesType.readable`).  And the spelling of a readable
type has tokens that derive the type again (`Readable.readsBack`), one lemma for each form of
spelling.  The name `List` must not be a variable: a list read from `Seq[T]` is shown as `List[T]`.
-/

namespace Blueprint.TypeExpr

open Blueprint.DottedName (IsDotted)

variable {scope : List String}

/-! ## Readable types -/

/-- A type as reading returns it.  Named types have ordinary names, variables are in scope and carry
no bounds, no nullable type is directly inside another, and a constructor appears only if its name
is not taken by a variable. -/
inductive Readable (scope : List String) : TypeExpr → Prop
  | primitive (p : Primitive) : Readable scope (.primitive p)
  | named {name : String} {args : List TypeExpr} (hname : IsOrdinary scope name)
      (hdotted : IsDotted name) (hargs : ∀ a ∈ args, Readable scope a) :
      Readable scope (.named name args)
  | parameter {name : String} (hname : ∀ p : Primitive, p.name ≠ name) (hscope : name ∈ scope)
      (hdotted : IsDotted name) : Readable scope (.parameter name [])
  | nullable {t : TypeExpr} (hscope : "Option" ∉ scope) (ht : t.isNullable = false)
      (h : Readable scope t) : Readable scope (.nullable t)
  | list {t : TypeExpr} (h : Readable scope t) : Readable scope (.list t)
  | set {t : TypeExpr} (hscope : "Set" ∉ scope) (h : Readable scope t) : Readable scope (.set t)
  | map {k v : TypeExpr} (hscope : "Map" ∉ scope) (hk : Readable scope k) (hv : Readable scope v) :
      Readable scope (.map k v)
  | function {params : List TypeExpr} {result : TypeExpr} (hparams : ∀ p ∈ params, Readable scope p)
      (hresult : Readable scope result) : Readable scope (.function params result)

/-- What a name with readable arguments denotes is readable. -/
lemma Denotes.readable {name : String} {args : List TypeExpr} {t : TypeExpr}
    (h : Denotes scope name args t) (hdotted : IsDotted name)
    (hargs : ∀ a ∈ args, Readable scope a) : Readable scope t := by
  cases h with
  | primitive p => exact .primitive p
  | parameter hname hscope => exact .parameter hname hscope hdotted
  | option hscope ht => exact .nullable hscope ht (hargs _ (by simp))
  | optionNullable hscope => exact hargs _ (by simp)
  | set hscope => exact .set hscope (hargs _ (by simp))
  | map hscope => exact .map hscope (hargs _ (by simp)) (hargs _ (by simp))
  | list hname hscope => exact .list (hargs _ (by simp))
  | named hname => exact .named hname hdotted hargs

mutual

/-- What the grammar derives from dotted identifiers is readable. -/
lemma DerivesType.readable {ts : List Token} {t : TypeExpr} : DerivesType scope ts t →
    (∀ name, Token.name name ∈ ts → IsDotted name) → Readable scope t
  | .simple h => fun hnames => h.readable hnames
  | .arrow ha hb => by
    intro hnames
    have hfirst := ha.readable fun name hname => hnames name (by simp [hname])
    have hresult := hb.readable fun name hname => hnames name (by simp [hname])
    exact .function (by simpa using hfirst) hresult
  | .parens h => fun hnames => h.readable fun name hname => hnames name (by simp [hname])
  | .thunk hb => by
    intro hnames
    exact .function (by simp) (hb.readable fun name hname => hnames name (by simp [hname]))
  | .function hparams hb => by
    intro hnames
    exact .function (hparams.readable fun name hname => hnames name (by simp [hname]))
      (hb.readable fun name hname => hnames name (by simp [hname]))

lemma DerivesTypes.readable {ts : List Token} {args : List TypeExpr} : DerivesTypes scope ts args →
    (∀ name, Token.name name ∈ ts → IsDotted name) → ∀ a ∈ args, Readable scope a
  | .one h => by
    intro hnames
    simpa using h.readable hnames
  | .cons h hrest => by
    intro hnames
    have hfirst := h.readable fun name hname => hnames name (by simp [hname])
    have hothers := hrest.readable fun name hname => hnames name (by simp [hname])
    simpa using ⟨hfirst, hothers⟩

lemma DerivesSimple.readable {ts : List Token} {t : TypeExpr} : DerivesSimple scope ts t →
    (∀ name, Token.name name ∈ ts → IsDotted name) → Readable scope t
  | .bare h => fun hnames => h.readable (hnames _ (by simp)) (by simp)
  | .applied hargs h => by
    intro hnames
    exact h.readable (hnames _ (by simp))
      (hargs.readable fun name hname => hnames name (by simp [hname]))

end

lemma readable_of_read {input : List Char} {t : TypeExpr} (h : read scope input = .ok t) :
    Readable scope t := by
  cases htokens : tokenize input with
  | error e =>
    rw [read, htokens] at h
    cases h
  | ok lexemes =>
    exact ((read_eq_ok_iff htokens).1 h).readable
      fun name hname => isDotted_of_mem_tokensFrom htokens hname

/-! ## Spellings -/

/-- The text has these tokens, whatever comes after it, as long as a name ends there. -/
def SpellsBefore (text : List Char) (ts : List Token) : Prop :=
  ∀ rest us, EndsName rest → Spells rest us → Spells (text ++ rest) (ts ++ us)

lemma spellsBefore_nil : SpellsBefore [] [] :=
  fun _ _ _ h => h

lemma spellsBefore_name {name : String} (hname : IsDotted name) :
    SpellsBefore name.toList [.name name] :=
  fun _ _ hrest h => spells_name hname hrest h

/-- A name with a bracketed list. -/
lemma spellsBefore_applied {name : String} (hname : IsDotted name) {inner : String}
    {ts : List Token} (h : SpellsBefore inner.toList ts) :
    SpellsBefore (name ++ "[" ++ inner ++ "]").toList
      (.name name :: .openBracket :: (ts ++ [.closeBracket])) := by
  intro rest us hrest hspells
  have hclose : Spells (']' :: rest) (.closeBracket :: us) := spells_mark rfl (by decide) hspells
  have hinner := h _ _ (endsName_cons (by decide) rest) hclose
  have hopen : Spells ('[' :: (inner.toList ++ ']' :: rest))
      (.openBracket :: (ts ++ .closeBracket :: us)) := spells_mark rfl (by decide) hinner
  simpa using spells_name hname (endsName_cons (by decide) _) hopen

/-- Two spellings with a comma between them. -/
lemma spellsBefore_comma {first second : String} {ts us : List Token}
    (h : SpellsBefore first.toList ts) (k : SpellsBefore second.toList us) :
    SpellsBefore (first ++ ", " ++ second).toList (ts ++ .comma :: us) := by
  intro rest vs hrest hspells
  have hcomma : Spells (',' :: ' ' :: (second.toList ++ rest)) (.comma :: (us ++ vs)) :=
    spells_mark rfl (by decide) (spells_space (k _ _ hrest hspells))
  simpa using h _ _ (endsName_cons (by decide) _) hcomma

/-- A parenthesised list, an arrow and a result. -/
lemma spellsBefore_function {params result : String} {ts us : List Token}
    (h : SpellsBefore params.toList ts) (k : SpellsBefore result.toList us) :
    SpellsBefore ("(" ++ params ++ ") => " ++ result).toList
      (.openParen :: (ts ++ .closeParen :: .arrow :: us)) := by
  intro rest vs hrest hspells
  have hclose : Spells (')' :: ' ' :: '=' :: '>' :: ' ' :: (result.toList ++ rest))
      (.closeParen :: .arrow :: (us ++ vs)) :=
    spells_mark rfl (by decide)
      (spells_space (spells_arrow (spells_space (k _ _ hrest hspells))))
  have hopen := spells_mark (c := '(') rfl (by decide)
    (h _ _ (endsName_cons (by decide) _) hclose)
  simpa using hopen

/-! ## Texts of a type -/

/-- The text is one of the type in scope, also as part of a longer text. -/
def ReadsBack (scope : List String) (text : String) (t : TypeExpr) : Prop :=
  ∃ ts, DerivesType scope ts t ∧ SpellsBefore text.toList ts

/-- The text is a list of the types, with commas between them. -/
def ReadsBackAll (scope : List String) (text : String) (args : List TypeExpr) : Prop :=
  ∃ ts, DerivesTypes scope ts args ∧ SpellsBefore text.toList ts

lemma readsBackAll_one {text : String} {t : TypeExpr} (h : ReadsBack scope text t) :
    ReadsBackAll scope text [t] := by
  obtain ⟨ts, hderives, hspells⟩ := h
  exact ⟨ts, .one hderives, hspells⟩

lemma readsBackAll_cons {first others : String} {t : TypeExpr} {args : List TypeExpr}
    (h : ReadsBack scope first t) (k : ReadsBackAll scope others args) :
    ReadsBackAll scope (first ++ ", " ++ others) (t :: args) := by
  obtain ⟨ts, hderives, hspells⟩ := h
  obtain ⟨us, hderivesAll, hspellsAll⟩ := k
  exact ⟨_, .cons hderives hderivesAll, spellsBefore_comma hspells hspellsAll⟩

lemma readsBackAll_displayAll {args : List TypeExpr} (hne : args ≠ [])
    (h : ∀ a ∈ args, ReadsBack scope a.display a) :
    ReadsBackAll scope (displayAll args) args := by
  induction args with
  | nil => exact absurd rfl hne
  | cons t rest ih =>
    have hfirst := h t (by simp)
    cases rest with
    | nil => exact readsBackAll_one hfirst
    | cons u us =>
      rw [displayAll]
      exact readsBackAll_cons hfirst (ih (by simp) fun a ha => h a (by simp [ha]))

lemma readsBack_bare {name : String} {t : TypeExpr} (hname : IsDotted name)
    (h : Denotes scope name [] t) : ReadsBack scope name t :=
  ⟨_, .simple (.bare h), spellsBefore_name hname⟩

lemma readsBack_applied {name inner : String} {args : List TypeExpr} {t : TypeExpr}
    (hname : IsDotted name) (hargs : ReadsBackAll scope inner args)
    (h : Denotes scope name args t) : ReadsBack scope (name ++ "[" ++ inner ++ "]") t := by
  obtain ⟨ts, hderives, hspells⟩ := hargs
  exact ⟨_, .simple (.applied hderives h), spellsBefore_applied hname hspells⟩

lemma readsBack_function {result : String} {params : List TypeExpr} {t : TypeExpr}
    (hparams : ∀ p ∈ params, ReadsBack scope p.display p) (h : ReadsBack scope result t) :
    ReadsBack scope ("(" ++ displayAll params ++ ") => " ++ result) (.function params t) := by
  obtain ⟨us, hderives, hspells⟩ := h
  by_cases hne : params = []
  · subst hne
    have hnone : SpellsBefore (displayAll []).toList [] := spellsBefore_nil
    exact ⟨_, .thunk hderives, spellsBefore_function hnone hspells⟩
  · obtain ⟨ts, hderivesAll, hspellsAll⟩ := readsBackAll_displayAll hne hparams
    exact ⟨_, .function hderivesAll hderives, spellsBefore_function hspellsAll hspells⟩

/-- The spelling of a readable type is a text of that type. -/
lemma Readable.readsBack (hlist : "List" ∉ scope) {t : TypeExpr} (h : Readable scope t) :
    ReadsBack scope t.display t := by
  induction h with
  | primitive p =>
    have hname : IsDotted p.name := by cases p <;> decide
    exact readsBack_bare hname (.primitive p)
  | @named name args hname hdotted hargs ih =>
    have hdenotes : Denotes scope name args (.named name args) := .named hname
    cases args with
    | nil => exact readsBack_bare hdotted hdenotes
    | cons a rest =>
      rw [display]
      exact readsBack_applied hdotted (readsBackAll_displayAll (by simp) ih) hdenotes
  | parameter hname hscope hdotted => exact readsBack_bare hdotted (.parameter hname hscope)
  | nullable hscope ht h ih =>
    have hname : IsDotted "Option" := by decide
    simpa [display] using readsBack_applied hname (readsBackAll_one ih) (.option hscope ht)
  | list h ih =>
    have hname : IsDotted "List" := by decide
    simpa [display] using
      readsBack_applied hname (readsBackAll_one ih) (.list (by decide) hlist)
  | set hscope h ih =>
    have hname : IsDotted "Set" := by decide
    simpa [display] using readsBack_applied hname (readsBackAll_one ih) (.set hscope)
  | map hscope hk hv ihk ihv =>
    have hname : IsDotted "Map" := by decide
    have hentries := readsBackAll_cons ihk (readsBackAll_one ihv)
    simpa [display, String.append_assoc] using readsBack_applied hname hentries (.map hscope)
  | function hparams hresult ihparams ihresult =>
    exact readsBack_function ihparams ihresult

lemma read_of_readsBack {text : String} {t : TypeExpr} (h : ReadsBack scope text t) :
    read scope text.toList = .ok t := by
  obtain ⟨ts, hderives, hspells⟩ := h
  obtain ⟨lexemes, htokens, hmap⟩ := hspells [] [] endsName_nil spells_nil 1
  rw [List.append_nil] at htokens hmap
  exact (read_eq_ok_iff htokens).2 (hmap ▸ hderives)

/-! ## The round trip -/

/-- **A displayed type is read back.**  Where no variable is called `List`, the spelling of a type
that was read is a text of the same type.  So two types that were read and are spelled alike are
equal, and bringing a text to the spelling of its type is done after one round. -/
theorem parse_display_of_parse (scope : List String) (hlist : "List" ∉ scope) :
    (∀ input t, parse input scope = .ok t → parse t.display scope = .ok t) ∧
      (∀ input input' t u, parse input scope = .ok t → parse input' scope = .ok u →
        t.display = u.display → t = u) ∧
      ∀ input text, (parse input scope).map display = .ok text →
        (parse text scope).map display = .ok text := by
  have hround : ∀ input t, parse input scope = .ok t → parse t.display scope = .ok t := by
    intro input t h
    rw [parse_eq_ok_iff_read] at h ⊢
    exact read_of_readsBack ((readable_of_read h).readsBack hlist)
  refine ⟨hround, ?_, ?_⟩
  · intro input input' t u ht hu hdisplay
    have hback := hround input t ht
    rw [hdisplay, hround input' u hu] at hback
    exact (Except.ok.inj hback).symm
  · intro input text h
    cases hparse : parse input scope with
    | error e =>
      rw [hparse] at h
      cases h
    | ok t =>
      rw [hparse] at h
      obtain rfl : t.display = text := Except.ok.inj h
      rw [hround input t hparse]
      rfl

/-- A list under another name, a doubled `Option`, superfluous parentheses and blanks: the spelling
differs from the text in all of them. -/
theorem parse_display_of_parse_aliases :
    let t : TypeExpr :=
      .function [.list (.primitive .int), .parameter "T" []] (.nullable (.named "a.B" []))
    parse "( Seq[ Int ] ,T )=>Option[(Option[a.B])]" ["T"] = .ok t ∧
      t.display = "(List[Int], T) => Option[a.B]" ∧
      parse t.display ["T"] = .ok t := by
  intro t
  have hparse : parse "( Seq[ Int ] ,T )=>Option[(Option[a.B])]" ["T"] = .ok t := by decide +kernel
  exact ⟨hparse, by decide +kernel, (parse_display_of_parse ["T"] (by decide)).1 _ t hparse⟩

end Blueprint.TypeExpr
