import Blueprint.Rule
import Mathlib.Algebra.Ring.Nat
import Mathlib.Data.Finset.Card
import Mathlib.Data.List.Nodup

/-!
# What each check reports

The rules are checked declaration by declaration, each check with its own list of the names it has
seen.  This file says for every check when it reports nothing and how much it reports for a rule
that wants names to be different.  The checks of names, methods and declarations all go through a
list with a flag at each entry that repeats an earlier one; `scan` is that walk, and it is counted
once (`countP_scan`).
-/

namespace Blueprint

/-! ## Repeated entries -/

section Repeats

variable {α : Type} [DecidableEq α]

/-- How many entries of a list repeat an earlier one: all but one of each kind. -/
def repeatCount (as : List α) : Nat :=
  as.length - as.toFinset.card

/-- The flags are set for the entries that are not the first of their kind. -/
lemma count_repeatFlagsFrom (seen as : List α) :
    (repeatFlagsFrom seen as).count true + (as.filter (· ∉ seen)).toFinset.card = as.length := by
  induction as generalizing seen with
  | nil => rfl
  | cons a as ih =>
    have hrest := ih (a :: seen)
    by_cases ha : a ∈ seen
    · have hsame : as.filter (· ∉ a :: seen) = as.filter (· ∉ seen) := by
        refine List.filter_congr fun b _ => ?_
        have hmem : b ∈ a :: seen ↔ b ∈ seen :=
          ⟨fun h => (List.mem_cons.1 h).elim (fun h => h ▸ ha) id, List.mem_cons_of_mem a⟩
        simp only [hmem]
      rw [hsame] at hrest
      simp only [repeatFlagsFrom, ha, decide_true, List.count_cons_self, List.length_cons,
        not_true, decide_false, Bool.false_eq_true, not_false_eq_true, List.filter_cons_of_neg]
      omega
    · have hnew : ((a :: as).filter (· ∉ seen)).toFinset =
          insert a (as.filter (· ∉ a :: seen)).toFinset := by
        ext b
        by_cases hb : b = a <;> simp [hb, ha]
      have hcard : (insert a (as.filter (· ∉ a :: seen)).toFinset).card =
          (as.filter (· ∉ a :: seen)).toFinset.card + 1 :=
        Finset.card_insert_of_notMem (by simp)
      rw [hnew, hcard, repeatFlagsFrom, decide_eq_false ha, List.length_cons]
      simp only [List.count_cons_of_ne (show (false : Bool) ≠ true by decide)]
      omega

lemma count_repeatFlags (as : List α) : (repeatFlags as).count true = repeatCount as := by
  have hcount := count_repeatFlagsFrom [] as
  simp only [List.not_mem_nil, not_false_eq_true, decide_true, List.filter_true] at hcount
  rw [repeatFlags, repeatCount]
  omega

lemma forall_repeatFlags_iff (as : List α) :
    (∀ flag ∈ repeatFlags as, flag = false) ↔ as.Nodup := by
  have hsnd : (as.zip (repeatFlags as)).map Prod.snd = repeatFlags as := List.map_snd_zip (by simp)
  rw [← forall_zip_repeatFlags]
  constructor
  · intro h entry hentry
    exact h entry.2 (hsnd ▸ List.mem_map_of_mem hentry)
  · intro h flag hflag
    rw [← hsnd] at hflag
    obtain ⟨entry, hentry, rfl⟩ := List.mem_map.1 hflag
    exact h entry hentry

lemma repeatCount_eq_zero_iff (as : List α) : repeatCount as = 0 ↔ as.Nodup := by
  rw [← count_repeatFlags, List.count_eq_zero, ← forall_repeatFlags_iff]
  constructor
  · intro h flag hflag
    cases flag with
    | false => rfl
    | true => exact absurd hflag h
  · intro h hmem
    cases h true hmem

end Repeats

/-- Of a list with a repeated value some earlier entry and some later one have the same value. -/
lemma not_nodup_map_iff {α β : Type} {f : α → β} {as : List α} :
    ¬ (as.map f).Nodup ↔
      ∃ (i j : Nat) (a b : α), i < j ∧ as[i]? = some a ∧ as[j]? = some b ∧ f a = f b := by
  rw [List.nodup_iff_getElem?_ne_getElem?]
  push Not
  constructor
  · rintro ⟨i, j, hij, hj, heq⟩
    rw [List.length_map] at hj
    have hi : i < as.length := hij.trans hj
    refine ⟨i, j, as[i], as[j], hij, List.getElem?_eq_getElem hi, List.getElem?_eq_getElem hj, ?_⟩
    simpa [hi, hj] using heq
  · rintro ⟨i, j, a, b, hij, hi, hj, heq⟩
    obtain ⟨hlt, -⟩ := List.getElem?_eq_some_iff.1 hj
    exact ⟨i, j, hij, by simpa using hlt, by simp [hi, hj, heq]⟩

/-- Two lists of keys that tell the same entries apart are free of repetitions together. -/
lemma nodup_map_congr {α β γ : Type} {f : α → β} {g : α → γ} {as : List α}
    (h : ∀ a ∈ as, ∀ b ∈ as, f a = f b ↔ g a = g b) : (as.map f).Nodup ↔ (as.map g).Nodup := by
  simp only [List.Nodup, List.pairwise_map, ne_eq]
  exact List.Pairwise.iff_of_mem fun ha hb => not_congr (h _ ha _ hb)

/-! ## Names that are judged together -/

namespace Model

/-- The names of the properties of each class that a model declares. -/
def propertyNames (m : Model) : List (List String) :=
  match m.shape with
  | .valueObject _ properties _ => [properties.map Property.name]
  | .entity _ properties => [properties.map Property.name]
  | .sealedHierarchy _ variants => variants.map fun v => v.properties.map Property.name
  | .enum _ => []

/-- The values of a model that is an enum; nothing for any other. -/
def enumValues (m : Model) : List (List String) :=
  match m.shape with
  | .enum values => [values]
  | _ => []

/-- The names in a model that have to be identifiers. -/
def identifiers (m : Model) : List String :=
  m.classNames ++ m.propertyNames.flatten ++ m.enumValues.flatten

end Model

/-- The names in a port that have to be identifiers. -/
def Port.identifiers (p : Port) : List String :=
  p.name :: p.methods.flatMap fun m => m.name :: m.params.map Parameter.name

namespace Rule

/-! ## Walking a list with flags -/

section Scan

variable {β : Type} {own : β → List Violation} {repeated : β → Violation} {xs : List β}
  {flags : List Bool}

/-- The violations of the entries of a list: their own, and one more where the flag is set. -/
def scan (own : β → List Violation) (repeated : β → Violation) (xs : List β) (flags : List Bool) :
    List Violation :=
  (xs.zip flags).flatMap fun (x, isRepeat) => own x ++ if isRepeat then [repeated x] else []

lemma scan_cons (x : β) (flag : Bool) :
    scan own repeated (x :: xs) (flag :: flags) =
      (own x ++ if flag then [repeated x] else []) ++ scan own repeated xs flags :=
  rfl

lemma scan_eq_nil_iff (hlength : xs.length = flags.length) :
    scan own repeated xs flags = [] ↔ (∀ x ∈ xs, own x = []) ∧ ∀ flag ∈ flags, flag = false := by
  induction xs generalizing flags with
  | nil =>
    obtain rfl : flags = [] := List.length_eq_zero_iff.1 hlength.symm
    simp [scan]
  | cons x xs ih =>
    cases flags with
    | nil => cases hlength
    | cons flag flags =>
      rw [scan_cons, List.append_eq_nil_iff, ih (by simpa using hlength)]
      cases flag <;> simp [and_assoc]

/-- The violations of a kind are those of the entries, and one for each flag if the flags stand for
that kind. -/
lemma countP_scan (hlength : xs.length = flags.length) {q : Violation → Bool} {b : Bool}
    (hq : ∀ x, q (repeated x) = b) :
    (scan own repeated xs flags).countP q =
      (xs.map fun x => (own x).countP q).sum + if b then flags.count true else 0 := by
  induction xs generalizing flags with
  | nil =>
    obtain rfl : flags = [] := List.length_eq_zero_iff.1 hlength.symm
    simp [scan]
  | cons x xs ih =>
    cases flags with
    | nil => cases hlength
    | cons flag flags =>
      rw [scan_cons, List.countP_append, List.countP_append, ih (by simpa using hlength),
        List.map_cons, List.sum_cons]
      cases flag <;> cases b <;> simp [hq] <;> omega

end Scan

/-! ## The checks one by one -/

variable {identifier : Pattern} {owner what : String}

lemma checkIdentifier_eq_nil_iff {name : String} :
    checkIdentifier identifier owner what name = [] ↔ identifier.isMatch name = true := by
  rw [checkIdentifier]
  split <;> simp_all

lemma checkNames_eq_scan (repeated : String → Violation) (names : List String) :
    checkNames identifier owner what repeated names =
      scan (checkIdentifier identifier owner what) repeated names (repeatFlags names) :=
  rfl

lemma checkDeclared_eq_scan (names : List String) :
    checkDeclared names = scan (fun _ => []) .repeatedDeclaration names (repeatFlags names) := by
  rw [checkDeclared, scan]
  generalize names.zip (repeatFlags names) = entries
  induction entries with
  | nil => rfl
  | cons entry entries ih =>
    obtain ⟨name, isRepeat⟩ := entry
    cases isRepeat <;> simp [ih]

lemma checkPort_eq_scan (p : Port) :
    checkPort identifier p =
      checkIdentifier identifier p.qualifiedName "port" p.name ++
        scan (fun m => checkIdentifier identifier p.qualifiedName "method" m.name ++
            m.params.flatMap fun q =>
              checkIdentifier identifier (p.qualifiedName ++ "." ++ m.name) "parameter" q.name)
          (fun m => .repeatedMethod p.qualifiedName (signature m)) p.methods
          (repeatFlags (p.methods.map signature)) :=
  rfl

lemma checkNames_eq_nil_iff {repeated : String → Violation} {names : List String} :
    checkNames identifier owner what repeated names = [] ↔
      (∀ name ∈ names, identifier.isMatch name = true) ∧ names.Nodup := by
  simp only [checkNames_eq_scan, scan_eq_nil_iff (length_repeatFlags names).symm,
    checkIdentifier_eq_nil_iff, forall_repeatFlags_iff]

lemma checkDeclared_eq_nil_iff {names : List String} : checkDeclared names = [] ↔ names.Nodup := by
  rw [checkDeclared_eq_scan, scan_eq_nil_iff (length_repeatFlags names).symm,
    forall_repeatFlags_iff]
  simp

lemma checkModel_eq_nil_iff {m : Model} :
    checkModel identifier m = [] ↔
      (∀ name ∈ m.identifiers, identifier.isMatch name = true) ∧
        (∀ names ∈ m.propertyNames, names.Nodup) ∧
        ∀ values ∈ m.enumValues, values ≠ [] ∧ values.Nodup := by
  simp only [checkModel, checkProperties, Model.identifiers, Model.classNames, Model.variants,
    Model.propertyNames, Model.enumValues, List.append_eq_nil_iff, checkIdentifier_eq_nil_iff]
  cases m.shape with
  | valueObject typeParams properties wrapper => simp [checkNames_eq_nil_iff, and_assoc]
  | entity typeParams properties => simp [checkNames_eq_nil_iff, and_assoc]
  | sealedHierarchy typeParams variants =>
    simp only [List.flatMap_eq_nil_iff, List.append_eq_nil_iff, checkIdentifier_eq_nil_iff,
      checkNames_eq_nil_iff, List.forall_mem_append, List.forall_mem_cons, List.forall_mem_map,
      List.forall_mem_flatten]
    grind
  | enum values =>
    have hempty : (if values.isEmpty then [Violation.emptyEnum m.qualifiedName] else []) = [] ↔
        values ≠ [] := by cases values <;> simp
    simp only [List.append_eq_nil_iff, hempty, checkNames_eq_nil_iff]
    grind

lemma checkPort_eq_nil_iff {p : Port} :
    checkPort identifier p = [] ↔
      (∀ name ∈ p.identifiers, identifier.isMatch name = true) ∧
        (p.methods.map signature).Nodup := by
  have hlength : p.methods.length = (repeatFlags (p.methods.map signature)).length := by simp
  rw [checkPort_eq_scan, List.append_eq_nil_iff, scan_eq_nil_iff hlength, forall_repeatFlags_iff,
    ← and_assoc]
  simp only [List.append_eq_nil_iff, List.flatMap_eq_nil_iff, checkIdentifier_eq_nil_iff,
    Port.identifiers, List.forall_mem_cons, List.forall_mem_flatMap, List.forall_mem_map]

/-! ## Counting the violations of a rule -/

/-- The lists of names in which a rule wants no name to be repeated; the other rules cover none. -/
def covered (models : List Model) (ports : List Port) : Rule → List (List String)
  | .uniqueDeclarationNames => [declaredNames models ports]
  | .uniquePropertyNames => models.flatMap Model.propertyNames
  | .uniqueEnumValues => models.flatMap Model.enumValues
  | .uniqueMethodSignature => ports.map fun p => p.methods.map signature
  | .validIdentifier => []
  | .nonEmptyEnum => []

section Count

variable {r : Rule}

lemma countP_checkIdentifier (hr : r ≠ .validIdentifier) (name : String) :
    (checkIdentifier identifier owner what name).countP (·.rule = r) = 0 := by
  rw [checkIdentifier]
  split
  · rfl
  · simp [Violation.rule, hr.symm]

lemma countP_checkNames (hr : r ≠ .validIdentifier) (repeated : String → Violation) {kind : Rule}
    (hkind : ∀ name, (repeated name).rule = kind) (names : List String) :
    (checkNames identifier owner what repeated names).countP (·.rule = r) =
      if kind = r then repeatCount names else 0 := by
  have hq : ∀ name, decide ((repeated name).rule = r) = decide (kind = r) := fun name => by
    rw [hkind]
  rw [checkNames_eq_scan, countP_scan (length_repeatFlags names).symm hq, count_repeatFlags]
  simp [countP_checkIdentifier hr]

lemma countP_checkDeclared (names : List String) :
    (checkDeclared names).countP (·.rule = r) =
      if Rule.uniqueDeclarationNames = r then repeatCount names else 0 := by
  have hq : ∀ name, decide ((Violation.repeatedDeclaration name).rule = r) =
      decide (Rule.uniqueDeclarationNames = r) := fun _ => rfl
  rw [checkDeclared_eq_scan, countP_scan (length_repeatFlags names).symm hq, count_repeatFlags]
  simp

lemma countP_checkPort (hr : r ≠ .validIdentifier) (p : Port) :
    (checkPort identifier p).countP (·.rule = r) =
      if Rule.uniqueMethodSignature = r then repeatCount (p.methods.map signature) else 0 := by
  have hlength : p.methods.length = (repeatFlags (p.methods.map signature)).length := by simp
  have hq : ∀ m, decide ((Violation.repeatedMethod p.qualifiedName (signature m)).rule = r) =
      decide (Rule.uniqueMethodSignature = r) := fun _ => rfl
  rw [checkPort_eq_scan, List.countP_append, countP_scan hlength hq, count_repeatFlags,
    countP_checkIdentifier hr]
  simp [countP_checkIdentifier hr, List.countP_flatMap, Function.comp_def]

lemma countP_checkModel (hr : r ≠ .validIdentifier) (hr' : r ≠ .nonEmptyEnum) (m : Model) :
    (checkModel identifier m).countP (·.rule = r) =
      (if Rule.uniquePropertyNames = r then (m.propertyNames.map repeatCount).sum else 0) +
        if Rule.uniqueEnumValues = r then (m.enumValues.map repeatCount).sum else 0 := by
  have hproperties : ∀ owner properties,
      (checkProperties identifier owner properties).countP (·.rule = r) =
        if Rule.uniquePropertyNames = r then repeatCount (properties.map Property.name) else 0 :=
    fun owner properties => countP_checkNames hr (.repeatedProperty owner) (fun _ => rfl) _
  simp only [checkModel, Model.propertyNames, Model.enumValues, List.countP_append,
    countP_checkIdentifier hr]
  cases m.shape with
  | valueObject typeParams properties wrapper => simp [hproperties]
  | entity typeParams properties => simp [hproperties]
  | sealedHierarchy typeParams variants =>
    simp only [List.countP_flatMap, List.countP_append, Function.comp_def,
      countP_checkIdentifier hr, hproperties]
    by_cases h : Rule.uniquePropertyNames = r <;> simp [h, Function.comp_def]
  | enum values =>
    have hempty : (if values.isEmpty then [Violation.emptyEnum m.qualifiedName] else []).countP
        (·.rule = r) = 0 := by
      cases values <;> simp [Violation.rule, hr'.symm]
    have hvalues : (checkNames identifier m.qualifiedName "enum value"
        (.repeatedEnumValue m.qualifiedName) values).countP (·.rule = r) =
          if Rule.uniqueEnumValues = r then repeatCount values else 0 :=
      countP_checkNames hr (.repeatedEnumValue m.qualifiedName) (fun _ => rfl) values
    rw [List.countP_append, hempty, hvalues]
    simp

/-- A rule that wants names to be different is broken once for each name that repeats an earlier one
of its list. -/
lemma countP_violations (hr : r ≠ .validIdentifier) (hr' : r ≠ .nonEmptyEnum)
    (models : List Model) (ports : List Port) :
    (violations identifier models ports).countP (·.rule = r) =
      ((covered models ports r).map repeatCount).sum := by
  have hmodels : ((models.flatMap (checkModel identifier)).countP (·.rule = r)) =
      (models.map fun m =>
        (if Rule.uniquePropertyNames = r then (m.propertyNames.map repeatCount).sum else 0) +
          if Rule.uniqueEnumValues = r then (m.enumValues.map repeatCount).sum else 0).sum := by
    simp [List.countP_flatMap, Function.comp_def, countP_checkModel hr hr']
  have hports : ((ports.flatMap (checkPort identifier)).countP (·.rule = r)) =
      (ports.map fun p => if Rule.uniqueMethodSignature = r then
        repeatCount (p.methods.map signature) else 0).sum := by
    simp [List.countP_flatMap, Function.comp_def, countP_checkPort hr]
  rw [violations, List.countP_append, List.countP_append, countP_checkDeclared, hmodels, hports]
  cases r with
  | uniqueDeclarationNames => simp [covered]
  | uniquePropertyNames =>
    simp [covered, List.flatMap_def, List.sum_flatten, Function.comp_def]
  | uniqueEnumValues =>
    simp [covered, List.flatMap_def, List.sum_flatten, Function.comp_def]
  | uniqueMethodSignature => simp [covered, Function.comp_def]
  | validIdentifier => exact absurd rfl hr
  | nonEmptyEnum => exact absurd rfl hr'

end Count

lemma violations_eq_nil_iff {models : List Model} {ports : List Port} :
    violations identifier models ports = [] ↔
      checkDeclared (declaredNames models ports) = [] ∧
        (∀ m ∈ models, checkModel identifier m = []) ∧
        ∀ p ∈ ports, checkPort identifier p = [] := by
  simp only [violations, List.append_eq_nil_iff, List.flatMap_eq_nil_iff, and_assoc]

lemma isValid_iff (identifier : Pattern) (models : List Model) (ports : List Port) :
    (validate identifier models ports).isValid = true ↔
      violations identifier models ports = [] := by
  simp [validate, Verdict.ofFindings]

end Rule

end Blueprint
