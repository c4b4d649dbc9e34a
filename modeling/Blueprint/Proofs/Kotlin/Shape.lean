import Blueprint.Proofs.Kotlin.NamePlan

/-!
# Shapes of Kotlin types

A Kotlin type is a name with arguments, a function type that may suspend, or one of these marked as
nullable.  `Shape` is such a type and `Shape.text` its text.  The text leaves out every parenthesis
it can: only a function type under a question mark has one around it.  This file shows that nothing
is lost by that.  Two shapes with the same text are equal (`WellFormed.text_inj`), and no two
question marks meet (`WellFormed.noDouble_text`).

Equality of texts is proved in a form that composes.  A shape is `SelfDelimiting` if its text can be
found at the front of a longer one: two texts that begin with a shape and go on with a comma, a
closing bracket or nothing have the same shape at the front and the same rest.  There is one lemma
for each form of text.  Three places need care.

* A name ends where the characters of words end, and a question mark may follow.  So a name is
  compared up to the question mark, and whether the mark belongs to it is decided afterwards
  (`eq_of_name_append`).
* `suspend` may be a name as well as the modifier of a function type; the modifier is followed by a
  blank (`name_append_ne_function`).
* A function type and a function type in parentheses both begin with `(`.  The parenthesis that
  closes the first is followed by an arrow, the other by a question mark, and up to there the two
  texts are lists of shapes (`function_append_ne_paren`).
-/

namespace Blueprint.Kotlin

open Blueprint.DottedName (IsDotted)
open Blueprint.TypeExpr (isNameChar)

/-! ## Words -/

/-- A name as a file may spell it: a dotted identifier, backticks aside. -/
def IsWord (text : String) : Prop :=
  IsDotted (unquoted text)

instance : DecidablePred IsWord :=
  fun text => inferInstanceAs (Decidable (IsDotted (unquoted text)))

/-- The characters of words. -/
def isWordChar (c : Char) : Bool :=
  isNameChar c || c == '`'

lemma IsWord.isWordChar_of_mem {word : String} (h : IsWord word) :
    ∀ c ∈ word.toList, isWordChar c = true := by
  intro c hc
  by_cases hquote : c = '`'
  · simp [isWordChar, hquote]
  · have hmem : c ∈ (unquoted word).toList := by
      rw [toList_unquoted, List.mem_filter]
      exact ⟨hc, by simpa using hquote⟩
    simp [isWordChar, IsDotted.isNameChar_of_mem h c hmem]

lemma IsWord.exists_cons {word : String} (h : IsWord word) :
    ∃ c cs, word.toList = c :: cs ∧ isWordChar c = true := by
  cases hchars : word.toList with
  | nil =>
    obtain rfl : word = "" := String.toList_eq_nil_iff.1 hchars
    exact absurd h (by decide)
  | cons c cs => exact ⟨c, cs, rfl, h.isWordChar_of_mem c (by simp [hchars])⟩

/-- A word ends where the next character is not one of words. -/
lemma word_append_inj {v w : String} (hv : IsWord v) (hw : IsWord w) {rest rest' : List Char}
    (hrest : ∀ c ∈ rest.head?, isWordChar c = false)
    (hrest' : ∀ c ∈ rest'.head?, isWordChar c = false)
    (h : v.toList ++ rest = w.toList ++ rest') : v = w ∧ rest = rest' := by
  have htake := congrArg (List.takeWhile isWordChar) h
  rw [Text.takeWhile_append_of_head hv.isWordChar_of_mem hrest,
    Text.takeWhile_append_of_head hw.isWordChar_of_mem hrest'] at htake
  rw [htake] at h
  exact ⟨String.toList_inj.1 htake, List.append_cancel_left h⟩

/-! ## Shapes and their texts -/

/-- A Kotlin type: a name with arguments, a function type, or a type marked as nullable. -/
inductive Shape
  | name (word : String) (args : List Shape)
  | function (suspends : Bool) (params : List Shape) (result : Shape)
  | nullable (inner : Shape)
deriving Inhabited

namespace Shape

/-- Whether the shape is marked as nullable. -/
def isNullable : Shape → Bool
  | .nullable _ => true
  | _ => false

/-- Whether the shape is that of a function: parentheses go around it before it is marked. -/
def isFunction : Shape → Bool
  | .function .. => true
  | _ => false

/-- The shape marked as nullable, once. -/
def orNull : Shape → Shape
  | .nullable inner => .nullable inner
  | s => .nullable s

/-- What stands before the parameters of a function type. -/
def modifier (suspends : Bool) : List Char :=
  if suspends then "suspend".toList ++ [' '] else []

mutual

/-- The text of a shape.  A question mark goes behind a name, and behind a function type in
parentheses. -/
def text : Shape → List Char
  | .name word args =>
    word.toList ++ if args.isEmpty then [] else '<' :: (listText args ++ ['>'])
  | .function suspends params result =>
    modifier suspends ++
      '(' :: (listText params ++ (')' :: ' ' :: '-' :: '>' :: ' ' :: text result))
  | .nullable inner =>
    if inner.isFunction then '(' :: (text inner ++ [')', '?']) else text inner ++ ['?']

/-- The texts of several shapes, with commas between them. -/
def listText : List Shape → List Char
  | [] => []
  | s :: ss => text s ++ followingText ss

/-- The texts of several shapes, with a comma before each. -/
def followingText : List Shape → List Char
  | [] => []
  | s :: ss => ',' :: ' ' :: (text s ++ followingText ss)

end

/-- The shapes that types have: names are words, and nothing is marked as nullable twice. -/
inductive WellFormed : Shape → Prop
  | name {word : String} {args : List Shape} (hword : IsWord word)
      (hargs : ∀ a ∈ args, WellFormed a) : WellFormed (.name word args)
  | function {suspends : Bool} {params : List Shape} {result : Shape}
      (hparams : ∀ p ∈ params, WellFormed p) (hresult : WellFormed result) :
      WellFormed (.function suspends params result)
  | nullable {inner : Shape} (hinner : WellFormed inner) (hbare : inner.isNullable = false) :
      WellFormed (.nullable inner)

@[simp] lemma isNullable_orNull (s : Shape) : s.orNull.isNullable = true := by
  cases s <;> rfl

lemma text_orNull (s : Shape) :
    s.orNull.text = if s.isNullable then s.text else (nullable s).text := by
  cases s <;> rfl

lemma WellFormed.orNull {s : Shape} (h : WellFormed s) : WellFormed s.orNull := by
  cases h with
  | name hword hargs => exact .nullable (.name hword hargs) rfl
  | function hparams hresult => exact .nullable (.function hparams hresult) rfl
  | nullable hinner hbare => exact .nullable hinner hbare

/-! ## Where a text ends -/

/-- Nothing comes, or one of the given characters comes first. -/
def FollowedBy (marks rest : List Char) : Prop :=
  ∀ c ∈ rest.head?, c ∈ marks

/-- What can come after a whole type. -/
abbrev Ends : List Char → Prop :=
  FollowedBy [',', '>', ')']

/-- What can come after a name with its arguments. -/
abbrev EndsArgs : List Char → Prop :=
  FollowedBy ['?', ',', '>', ')']

section FollowedBy

variable {marks rest : List Char} {c : Char}

lemma followedBy_nil (marks : List Char) : FollowedBy marks [] := by
  simp [FollowedBy]

lemma followedBy_cons (h : c ∈ marks) (rest : List Char) : FollowedBy marks (c :: rest) := by
  simpa [FollowedBy] using h

lemma FollowedBy.cons_mark (h : FollowedBy marks rest) (c : Char) : FollowedBy (c :: marks) rest :=
  fun d hd => List.mem_cons_of_mem c (h d hd)

lemma FollowedBy.ne_cons (h : FollowedBy marks rest) (hc : c ∉ marks) (tail : List Char) :
    rest ≠ c :: tail := by
  rintro rfl
  exact hc (h c rfl)

end FollowedBy

lemma Ends.endsArgs {rest : List Char} (h : Ends rest) : EndsArgs rest :=
  FollowedBy.cons_mark h '?'

lemma endsArgs_question (rest : List Char) : EndsArgs ('?' :: rest) :=
  followedBy_cons (by simp) rest

lemma ends_following {rest : List Char} (h : Ends rest) (ss : List Shape) :
    Ends (followingText ss ++ rest) := by
  cases ss with
  | nil => simpa [followingText] using h
  | cons s ss =>
    rw [followingText]
    exact followedBy_cons (by simp) _

/-- A text begins with a character of words or an opening parenthesis. -/
lemma WellFormed.exists_cons {s : Shape} (h : WellFormed s) :
    ∃ c cs, s.text = c :: cs ∧ (isWordChar c = true ∨ c = '(') := by
  induction h with
  | name hword hargs ih =>
    obtain ⟨c, cs, hchars, hc⟩ := hword.exists_cons
    exact ⟨c, _, by rw [text, hchars, List.cons_append], Or.inl hc⟩
  | @function suspends params result hparams hresult ihparams ihresult =>
    cases suspends with
    | false => exact ⟨'(', _, by rw [text]; rfl, Or.inr rfl⟩
    | true => exact ⟨'s', _, by rw [text]; rfl, Or.inl (by decide)⟩
  | @nullable inner hinner hbare ih =>
    rw [text]
    split
    · exact ⟨'(', _, rfl, Or.inr rfl⟩
    · obtain ⟨c, cs, htext, hc⟩ := ih
      exact ⟨c, _, by rw [htext, List.cons_append], hc⟩

lemma WellFormed.text_append_ne {s : Shape} (h : WellFormed s) {c : Char}
    (hc : c ∈ [',', '>', ')', '?']) (rest tail : List Char) : s.text ++ rest ≠ c :: tail := by
  have hmarks : [',', '>', ')', '?'].all (fun c => !isWordChar c && c != '(') = true := by decide
  obtain ⟨d, ds, htext, hd⟩ := h.exists_cons
  rw [htext]
  intro heq
  obtain rfl : d = c := (List.cons.inj heq).1
  have hmark := List.all_eq_true.1 hmarks d hc
  rcases hd with hd | hd <;> simp [hd] at hmark

/-! ## Shapes are read off their texts -/

/-- Two texts that begin with the text of the shape, and then end, begin with the same shape. -/
def SelfDelimiting (s : Shape) : Prop :=
  ∀ s' rest rest', WellFormed s' → Ends rest → Ends rest' →
    s.text ++ rest = s'.text ++ rest' → s = s' ∧ rest = rest'

section Lists

variable {c : Char} {ss ss' : List Shape} {rest rest' : List Char}

lemma followingText_append_inj (hss : ∀ s ∈ ss, SelfDelimiting s)
    (hss' : ∀ s ∈ ss', WellFormed s) (hc : c ∈ ['>', ')'])
    (h : followingText ss ++ c :: rest = followingText ss' ++ c :: rest') :
    ss = ss' ∧ rest = rest' := by
  have hcomma : c ≠ ',' := by
    rintro rfl
    simp at hc
  have hends : ∀ tail, Ends (c :: tail) := followedBy_cons (List.mem_cons_of_mem _ hc)
  -- a comma says that the list goes on, the closing character that it does not
  induction ss generalizing ss' with
  | nil =>
    cases ss' with
    | nil => simpa [followingText] using h
    | cons s' ss' =>
      rw [followingText, followingText] at h
      exact absurd (List.cons.inj h).1 hcomma
  | cons s ss ih =>
    cases ss' with
    | nil =>
      rw [followingText, followingText] at h
      exact absurd (List.cons.inj h).1.symm hcomma
    | cons s' ss' =>
      simp only [followingText, List.cons_append, List.cons.injEq, true_and,
        List.append_assoc] at h
      obtain ⟨rfl, hrest⟩ := hss s (by simp) s' _ _ (hss' s' (by simp))
        (ends_following (hends rest) ss) (ends_following (hends rest') ss') h
      obtain ⟨rfl, htail⟩ := ih (fun s hs => hss s (by simp [hs]))
        (fun s hs => hss' s (by simp [hs])) hrest
      exact ⟨rfl, htail⟩

/-- A list of shapes and a closing character are read off their text. -/
lemma listText_append_inj (hss : ∀ s ∈ ss, WellFormed s ∧ SelfDelimiting s)
    (hss' : ∀ s ∈ ss', WellFormed s) (hc : c ∈ ['>', ')'])
    (h : listText ss ++ c :: rest = listText ss' ++ c :: rest') : ss = ss' ∧ rest = rest' := by
  have hmark : c ∈ [',', '>', ')', '?'] := by
    simp only [List.mem_cons, List.not_mem_nil, or_false] at hc ⊢
    tauto
  have hends : ∀ tail, Ends (c :: tail) := followedBy_cons (List.mem_cons_of_mem _ hc)
  cases ss with
  | nil =>
    cases ss' with
    | nil => simpa [listText] using h
    | cons s' ss' =>
      rw [listText, listText, List.append_assoc] at h
      exact absurd h.symm ((hss' s' (by simp)).text_append_ne hmark _ _)
  | cons s ss =>
    cases ss' with
    | nil =>
      rw [listText, listText, List.append_assoc] at h
      exact absurd h ((hss s (by simp)).1.text_append_ne hmark _ _)
    | cons s' ss' =>
      rw [listText, listText, List.append_assoc, List.append_assoc] at h
      obtain ⟨rfl, hrest⟩ := (hss s (by simp)).2 s' _ _ (hss' s' (by simp))
        (ends_following (hends rest) ss) (ends_following (hends rest') ss') h
      obtain ⟨rfl, htail⟩ := followingText_append_inj (fun s hs => (hss s (by simp [hs])).2)
        (fun s hs => hss' s (by simp [hs])) hc hrest
      exact ⟨rfl, htail⟩

end Lists

/-- What comes after the word of a name. -/
def argsText (args : List Shape) : List Char :=
  if args.isEmpty then [] else '<' :: (listText args ++ ['>'])

lemma text_name (word : String) (args : List Shape) :
    (name word args).text = word.toList ++ argsText args := by
  rw [text, argsText]

section Names

variable {v w : String} {args args' : List Shape} {rest rest' : List Char}

lemma followedBy_argsText (hrest : EndsArgs rest) :
    FollowedBy ['<', '?', ',', '>', ')'] (argsText args ++ rest) := by
  cases args with
  | nil => exact hrest.cons_mark '<'
  | cons a args => exact followedBy_cons (by simp) _

lemma isWordChar_of_head_argsText (hrest : EndsArgs rest) :
    ∀ c ∈ (argsText args ++ rest).head?, isWordChar c = false := by
  have hmarks : ['<', '?', ',', '>', ')'].all (fun c => !isWordChar c) = true := by decide
  intro c hc
  simpa using List.all_eq_true.1 hmarks c (followedBy_argsText hrest c hc)

lemma argsText_append_inj (hargs : ∀ a ∈ args, WellFormed a ∧ SelfDelimiting a)
    (hargs' : ∀ a ∈ args', WellFormed a) (hrest : EndsArgs rest) (hrest' : EndsArgs rest')
    (h : argsText args ++ rest = argsText args' ++ rest') : args = args' ∧ rest = rest' := by
  have hopen : '<' ∉ ['?', ',', '>', ')'] := by decide
  cases args with
  | nil =>
    cases args' with
    | nil => exact ⟨rfl, h⟩
    | cons a' args' => exact absurd h (hrest.ne_cons hopen _)
  | cons a args =>
    cases args' with
    | nil => exact absurd h.symm (hrest'.ne_cons hopen _)
    | cons a' args' =>
      simp only [argsText, List.isEmpty_cons, Bool.false_eq_true, if_false, List.cons_append,
        List.cons.injEq, true_and, List.append_assoc, List.nil_append] at h
      exact listText_append_inj hargs hargs' (by simp) h

/-- A name with its arguments is read off its text, also before a question mark. -/
lemma name_append_inj (hv : IsWord v) (hw : IsWord w)
    (hargs : ∀ a ∈ args, WellFormed a ∧ SelfDelimiting a) (hargs' : ∀ a ∈ args', WellFormed a)
    (hrest : EndsArgs rest) (hrest' : EndsArgs rest')
    (h : (name v args).text ++ rest = (name w args').text ++ rest') :
    name v args = name w args' ∧ rest = rest' := by
  rw [text_name, text_name, List.append_assoc, List.append_assoc] at h
  obtain ⟨rfl, htail⟩ := word_append_inj hv hw (isWordChar_of_head_argsText hrest)
    (isWordChar_of_head_argsText hrest') h
  obtain ⟨rfl, hend⟩ := argsText_append_inj hargs hargs' hrest hrest' htail
  exact ⟨rfl, hend⟩

lemma name_append_ne_paren (hw : IsWord w) (args : List Shape) (rest tail : List Char) :
    (name w args).text ++ rest ≠ '(' :: tail := by
  obtain ⟨c, cs, hchars, hc⟩ := hw.exists_cons
  rw [text_name, hchars]
  intro h
  obtain rfl : c = '(' := (List.cons.inj h).1
  exact absurd hc (by decide)

end Names

section Functions

variable {suspends suspends' : Bool} {params params' : List Shape} {result result' : Shape}
  {rest rest' : List Char}

lemma text_function (suspends : Bool) (params : List Shape) (result : Shape) (rest : List Char) :
    (function suspends params result).text ++ rest =
      modifier suspends ++
        '(' :: (listText params ++ ')' :: ' ' :: '-' :: '>' :: ' ' :: (result.text ++ rest)) := by
  rw [text]
  simp only [List.append_assoc, List.cons_append]

lemma modifier_append_inj {left right : List Char}
    (h : modifier suspends ++ '(' :: left = modifier suspends' ++ '(' :: right) :
    suspends = suspends' ∧ left = right := by
  have hne : ∀ left right, modifier true ++ '(' :: left ≠ '(' :: right := by
    intro left right h
    exact absurd (List.cons.inj h).1 (by decide)
  cases suspends with
  | false =>
    cases suspends' with
    | false => exact ⟨rfl, (List.cons.inj h).2⟩
    | true => exact absurd h.symm (hne _ _)
  | true =>
    cases suspends' with
    | false => exact absurd h (hne _ _)
    | true => exact ⟨rfl, (List.cons.inj (List.append_cancel_left h)).2⟩

lemma function_append_inj (hparams : ∀ p ∈ params, WellFormed p ∧ SelfDelimiting p)
    (hparams' : ∀ p ∈ params', WellFormed p) (hresult : SelfDelimiting result)
    (hresult' : WellFormed result') (hrest : Ends rest) (hrest' : Ends rest')
    (h : (function suspends params result).text ++ rest =
      (function suspends' params' result').text ++ rest') :
    function suspends params result = function suspends' params' result' ∧ rest = rest' := by
  rw [text_function, text_function] at h
  obtain ⟨rfl, hlist⟩ := modifier_append_inj h
  obtain ⟨rfl, hafter⟩ := listText_append_inj hparams hparams' (by simp) hlist
  simp only [List.cons.injEq, true_and] at hafter
  obtain ⟨rfl, hend⟩ := hresult result' rest rest' hresult' hrest hrest' hafter
  exact ⟨rfl, hend⟩

/-- A function type is not a function type in parentheses: the closing parenthesis of its parameters
is followed by an arrow. -/
lemma function_append_ne_paren {inner : Shape} (hinner : WellFormed inner)
    (hparams : ∀ p ∈ params, ∀ left right, Ends left → Ends right →
      p.text ++ left = inner.text ++ right → left = right) (tail : List Char) :
    (function suspends params result).text ++ rest ≠ '(' :: (inner.text ++ ')' :: '?' :: tail) := by
  intro h
  rw [text_function] at h
  have hplain : modifier false ++ '(' :: (inner.text ++ ')' :: '?' :: tail) =
      '(' :: (inner.text ++ ')' :: '?' :: tail) := rfl
  obtain ⟨-, hlist⟩ := modifier_append_inj (h.trans hplain.symm)
  -- the first parameter would have to be `inner`; then `,` or `) ->` would have to be `)?`
  cases params with
  | nil => exact hinner.text_append_ne (by simp) _ _ hlist.symm
  | cons p params =>
    rw [listText, List.append_assoc] at hlist
    have hafter := hparams p (by simp) _ _ (ends_following (followedBy_cons (by simp) _) params)
      (followedBy_cons (by simp) _) hlist
    cases params with
    | nil => simp [followingText] at hafter
    | cons q params => simp [followingText] at hafter

/-- A name is not a function type.  The name `suspend` is told from the modifier by the blank. -/
lemma name_append_ne_function {w : String} {args : List Shape} (hw : IsWord w)
    (hrest : EndsArgs rest) :
    (name w args).text ++ rest ≠ (function suspends params result).text ++ rest' := by
  intro h
  rw [text_function] at h
  cases suspends with
  | false => exact name_append_ne_paren hw args rest _ h
  | true =>
    have hsuspend : IsWord "suspend" := by decide
    have hblank : isWordChar ' ' = false := by decide
    rw [text_name, List.append_assoc, modifier, if_pos rfl, List.append_assoc] at h
    obtain ⟨-, htail⟩ := word_append_inj hw hsuspend (isWordChar_of_head_argsText hrest)
      (by simpa using hblank) h
    exact absurd htail ((followedBy_argsText hrest).ne_cons (by decide) _)

end Functions

section Nullable

variable {inner : Shape} {rest : List Char}

lemma text_nullable_of_isFunction (h : inner.isFunction = true) :
    (nullable inner).text ++ rest = '(' :: (inner.text ++ ')' :: '?' :: rest) := by
  rw [text, if_pos h]
  simp only [List.append_assoc, List.cons_append, List.nil_append]

lemma text_nullable_of_not_isFunction (h : inner.isFunction = false) :
    (nullable inner).text ++ rest = inner.text ++ '?' :: rest := by
  rw [text, if_neg (by simp [h])]
  simp only [List.append_assoc, List.cons_append, List.nil_append]

end Nullable

section Cases

variable {word : String} {args params : List Shape} {suspends : Bool} {result : Shape}

/-- A text that begins with a name is the text of the name, or of the name marked as nullable. -/
lemma eq_of_name_append (hword : IsWord word)
    (hargs : ∀ a ∈ args, WellFormed a ∧ SelfDelimiting a) {s : Shape} (hs : WellFormed s)
    {rest rest' : List Char} (hrest : EndsArgs rest) (hrest' : Ends rest')
    (h : (name word args).text ++ rest = s.text ++ rest') :
    (name word args = s ∧ rest = rest') ∨
      (nullable (name word args) = s ∧ rest = '?' :: rest') := by
  cases hs with
  | name hword' hargs' =>
    exact Or.inl (name_append_inj hword hword' hargs hargs' hrest hrest'.endsArgs h)
  | function => exact absurd h (name_append_ne_function hword hrest)
  | nullable hinner hbare =>
    cases hinner with
    | name hword' hargs' =>
      rw [text_nullable_of_not_isFunction rfl] at h
      obtain ⟨hs, hend⟩ :=
        name_append_inj hword hword' hargs hargs' hrest (endsArgs_question rest') h
      exact Or.inr ⟨by rw [hs], hend⟩
    | function =>
      rw [text_nullable_of_isFunction rfl] at h
      exact absurd h (name_append_ne_paren hword _ _ _)
    | nullable => cases hbare

lemma selfDelimiting_name (hword : IsWord word)
    (hargs : ∀ a ∈ args, WellFormed a ∧ SelfDelimiting a) : SelfDelimiting (name word args) := by
  intro s rest rest' hs hrest hrest' h
  rcases eq_of_name_append hword hargs hs hrest.endsArgs hrest' h with hsame | ⟨-, hend⟩
  · exact hsame
  · exact absurd hend (hrest.ne_cons (by decide) _)

lemma selfDelimiting_nullable_name (hword : IsWord word)
    (hargs : ∀ a ∈ args, WellFormed a ∧ SelfDelimiting a) :
    SelfDelimiting (nullable (name word args)) := by
  intro s rest rest' hs hrest hrest' h
  rw [text_nullable_of_not_isFunction rfl] at h
  rcases eq_of_name_append hword hargs hs (endsArgs_question rest) hrest' h with
    ⟨-, hend⟩ | ⟨hsame, hend⟩
  · exact absurd hend.symm (hrest'.ne_cons (by decide) _)
  · exact ⟨hsame, (List.cons.inj hend).2⟩

lemma selfDelimiting_function (hparams : ∀ p ∈ params, WellFormed p ∧ SelfDelimiting p)
    (hresult : SelfDelimiting result) : SelfDelimiting (function suspends params result) := by
  intro s rest rest' hs hrest hrest' h
  cases hs with
  | name hword' => exact absurd h.symm (name_append_ne_function hword' hrest'.endsArgs)
  | function hparams' hresult' =>
    exact function_append_inj hparams hparams' hresult hresult' hrest hrest' h
  | nullable hinner hbare =>
    cases hinner with
    | name hword' =>
      rw [text_nullable_of_not_isFunction rfl] at h
      exact absurd h.symm (name_append_ne_function hword' (endsArgs_question rest'))
    | function hparams' hresult' =>
      rw [text_nullable_of_isFunction rfl] at h
      refine absurd h (function_append_ne_paren (.function hparams' hresult') ?_ rest')
      intro p hp left right hleft hright heq
      exact ((hparams p hp).2 _ left right (.function hparams' hresult') hleft hright heq).2
    | nullable => cases hbare

lemma selfDelimiting_nullable_function {inner : Shape} (hfunction : inner.isFunction = true)
    (hinner : WellFormed inner) (hself : SelfDelimiting inner) :
    SelfDelimiting (nullable inner) := by
  intro s rest rest' hs hrest hrest' h
  rw [text_nullable_of_isFunction hfunction] at h
  cases hs with
  | name hword' => exact absurd h.symm (name_append_ne_paren hword' _ _ _)
  | function hparams' hresult' =>
    refine absurd h.symm (function_append_ne_paren hinner ?_ rest)
    intro p hp left right hleft hright heq
    exact (hself p right left (hparams' p hp) hright hleft heq.symm).2.symm
  | nullable hinner' hbare =>
    cases hinner' with
    | name hword' =>
      rw [text_nullable_of_not_isFunction rfl] at h
      exact absurd h.symm (name_append_ne_paren hword' _ _ _)
    | function hparams' hresult' =>
      rw [text_nullable_of_isFunction rfl] at h
      obtain ⟨hsame, hend⟩ := hself _ _ _ (.function hparams' hresult')
        (followedBy_cons (by simp) _) (followedBy_cons (by simp) _) (List.cons.inj h).2
      simp only [List.cons.injEq, true_and] at hend
      exact ⟨by rw [hsame], hend⟩
    | nullable => cases hbare

end Cases

/-- **A shape is read off its text**, wherever the text stands.  The recursion goes below a nullable
name at once: of the name alone it would be too little to know that it is self-delimiting, since
that does not reach past a question mark. -/
lemma WellFormed.selfDelimiting {s : Shape} : WellFormed s → SelfDelimiting s
  | .name hword hargs =>
    selfDelimiting_name hword fun a ha => ⟨hargs a ha, (hargs a ha).selfDelimiting⟩
  | .function hparams hresult =>
    selfDelimiting_function (fun p hp => ⟨hparams p hp, (hparams p hp).selfDelimiting⟩)
      hresult.selfDelimiting
  | .nullable (.name hword hargs) _ =>
    selfDelimiting_nullable_name hword fun a ha => ⟨hargs a ha, (hargs a ha).selfDelimiting⟩
  | .nullable (.function hparams hresult) _ =>
    selfDelimiting_nullable_function rfl (.function hparams hresult)
      (WellFormed.function hparams hresult).selfDelimiting

/-- Well-formed shapes with one text are equal. -/
lemma WellFormed.text_inj {s s' : Shape} (hs : WellFormed s) (hs' : WellFormed s')
    (h : s.text = s'.text) : s = s' := by
  have hend : Ends [] := followedBy_nil _
  exact (hs.selfDelimiting s' [] [] hs' hend hend (by rw [h])).1

/-! ## Question marks -/

/-- No two question marks stand side by side. -/
def NoDouble (text : List Char) : Prop :=
  ¬ ['?', '?'] <:+: text

lemma noDouble_nil : NoDouble [] := by
  simp [NoDouble]

lemma noDouble_cons {c : Char} {rest : List Char}
    (hc : c = '?' → ∀ d ∈ rest.head?, d ≠ '?') (h : NoDouble rest) : NoDouble (c :: rest) := by
  intro hinfix
  rcases List.infix_cons_iff.1 hinfix with hfront | hlater
  · obtain ⟨tail, htail⟩ := hfront
    obtain ⟨rfl, rfl⟩ := List.cons.inj htail
    exact hc rfl '?' rfl rfl
  · exact h hlater

lemma noDouble_cons_of_ne {c : Char} {rest : List Char} (hc : c ≠ '?') (h : NoDouble rest) :
    NoDouble (c :: rest) :=
  noDouble_cons (fun heq => absurd heq hc) h

lemma noDouble_append {front rest : List Char} (hfront : '?' ∉ front) (h : NoDouble rest) :
    NoDouble (front ++ rest) := by
  induction front with
  | nil => exact h
  | cons c front ih =>
    rw [List.mem_cons, not_or] at hfront
    exact noDouble_cons_of_ne (Ne.symm hfront.1) (ih hfront.2)

/-- The text of the shape brings no double question mark into a text it is put in front of. -/
def NeverDoubles (s : Shape) : Prop :=
  ∀ rest, Ends rest → NoDouble rest → NoDouble (s.text ++ rest)

section

variable {ss : List Shape} {rest : List Char}

lemma noDouble_followingText (hss : ∀ s ∈ ss, NeverDoubles s) (hrest : Ends rest)
    (h : NoDouble rest) : NoDouble (followingText ss ++ rest) := by
  induction ss with
  | nil => exact h
  | cons s ss ih =>
    have hothers := ih fun s hs => hss s (by simp [hs])
    have hfirst := hss s (by simp) _ (ends_following hrest ss) hothers
    have hcomma : '?' ∉ [',', ' '] := by decide
    rw [followingText, List.cons_append, List.cons_append, List.append_assoc]
    exact noDouble_append hcomma hfirst

lemma noDouble_listText (hss : ∀ s ∈ ss, NeverDoubles s) (hrest : Ends rest) (h : NoDouble rest) :
    NoDouble (listText ss ++ rest) := by
  cases ss with
  | nil => exact h
  | cons s ss =>
    rw [listText, List.append_assoc]
    refine hss s (by simp) _ (ends_following hrest ss) ?_
    exact noDouble_followingText (fun s hs => hss s (by simp [hs])) hrest h

lemma noDouble_name {word : String} {args : List Shape} (hword : IsWord word)
    (hargs : ∀ a ∈ args, NeverDoubles a) (h : NoDouble rest) :
    NoDouble ((name word args).text ++ rest) := by
  have hquestion : '?' ∉ word.toList := fun hmem =>
    absurd (hword.isWordChar_of_mem '?' hmem) (by decide)
  rw [text_name, List.append_assoc]
  refine noDouble_append hquestion ?_
  cases args with
  | nil => exact h
  | cons a args =>
    have hclose : NoDouble ('>' :: rest) := noDouble_cons_of_ne (by decide) h
    have hlist := noDouble_listText hargs (followedBy_cons (by simp) rest) hclose
    rw [argsText, if_neg (by simp), List.cons_append, List.append_assoc]
    exact noDouble_cons_of_ne (by decide) hlist

lemma neverDoubles_function {suspends : Bool} {params : List Shape} {result : Shape}
    (hparams : ∀ p ∈ params, NeverDoubles p) (hresult : NeverDoubles result) :
    NeverDoubles (function suspends params result) := by
  intro rest hrest h
  have hmodifier : '?' ∉ modifier suspends := by cases suspends <;> decide
  have harrow : '?' ∉ [')', ' ', '-', '>', ' '] := by decide
  have hafter := noDouble_append harrow (hresult rest hrest h)
  have hlist := noDouble_listText hparams (followedBy_cons (by simp) _) hafter
  rw [text_function]
  exact noDouble_append hmodifier (noDouble_cons_of_ne (by decide) hlist)

lemma noDouble_question (hrest : Ends rest) (h : NoDouble rest) : NoDouble ('?' :: rest) := by
  refine noDouble_cons (fun _ c hc => ?_) h
  rintro rfl
  exact absurd (hrest '?' hc) (by decide)

lemma neverDoubles_nullable_name {word : String} {args : List Shape} (hword : IsWord word)
    (hargs : ∀ a ∈ args, NeverDoubles a) : NeverDoubles (nullable (name word args)) := by
  intro rest hrest h
  rw [text_nullable_of_not_isFunction rfl]
  exact noDouble_name hword hargs (noDouble_question hrest h)

lemma neverDoubles_nullable_function {inner : Shape} (hfunction : inner.isFunction = true)
    (hinner : NeverDoubles inner) : NeverDoubles (nullable inner) := by
  intro rest hrest h
  have hclose : NoDouble (')' :: '?' :: rest) :=
    noDouble_cons_of_ne (by decide) (noDouble_question hrest h)
  rw [text_nullable_of_isFunction hfunction]
  exact noDouble_cons_of_ne (by decide) (hinner _ (followedBy_cons (by simp) _) hclose)

end

lemma WellFormed.neverDoubles {s : Shape} : WellFormed s → NeverDoubles s
  | .name hword hargs =>
    fun _ _ h => noDouble_name hword (fun a ha => (hargs a ha).neverDoubles) h
  | .function hparams hresult =>
    neverDoubles_function (fun p hp => (hparams p hp).neverDoubles) hresult.neverDoubles
  | .nullable (.name hword hargs) _ =>
    neverDoubles_nullable_name hword fun a ha => (hargs a ha).neverDoubles
  | .nullable (.function hparams hresult) _ =>
    neverDoubles_nullable_function rfl (WellFormed.function hparams hresult).neverDoubles

/-- No text has two question marks side by side. -/
lemma WellFormed.noDouble_text {s : Shape} (hs : WellFormed s) : NoDouble s.text := by
  simpa using hs.neverDoubles [] (followedBy_nil _) noDouble_nil

end Shape

end Blueprint.Kotlin
