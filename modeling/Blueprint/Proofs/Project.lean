import Blueprint.Project
import Blueprint.Proofs.DottedName
import Mathlib.Data.List.Lex

/-!
# Walking through the modules of a project

Three functions walk through modules or their declarations: `allTypes` collects names, `allModules`
collects modules, and `topLevelNames` lists the names that the file of one unit declares.  They are
written apart from each other.  The main statement `traversals_agree` says that they meet the same
declarations in the same order.

Two modules of a project may be equal, so a module is told apart by its *address*, the numbers of
the children on the way down to it (`Project.at?`).  That each module is met once means that each
address is; that a parent comes before its children means that an address comes before the longer
ones that begin with it (`IsPreorder`).
-/

namespace Blueprint

/-! ## The shape of the traversals -/

namespace ProjectModule

/-- What holds of a module if it holds of its children holds of every module. -/
theorem children_induction {motive : ProjectModule → Prop}
    (step : ∀ m, (∀ c ∈ m.children, motive c) → motive m) (m : ProjectModule) : motive m :=
  @ProjectModule.rec motive (fun modules => ∀ c ∈ modules, motive c)
    (fun name unit children ih => step ⟨name, unit, children⟩ ih)
    (by simp) (fun _ _ hm hms => List.forall_mem_cons.2 ⟨hm, hms⟩) m

lemma subtreesOf_eq (modules : List ProjectModule) :
    subtreesOf modules = modules.flatMap subtree := by
  induction modules with
  | nil => rw [subtreesOf, List.flatMap_nil]
  | cons m modules ih => rw [subtreesOf, ih, List.flatMap_cons]

lemma subtree_eq (m : ProjectModule) : m.subtree = m :: m.children.flatMap subtree := by
  cases m
  rw [subtree, subtreesOf_eq]

lemma allTypesOf_eq (modules : List ProjectModule) :
    allTypesOf modules = modules.flatMap allTypes := by
  induction modules with
  | nil => rw [allTypesOf, List.flatMap_nil]
  | cons m modules ih => rw [allTypesOf, ih, List.flatMap_cons]

lemma allTypes_eq (m : ProjectModule) :
    m.allTypes = m.unit.declaredNames ++ m.children.flatMap allTypes := by
  cases m
  rw [allTypes, allTypesOf_eq]

/-- The names of a module are those of the units of its subtree, in the order of the subtree. -/
lemma allTypes_eq_flatMap_subtree (m : ProjectModule) :
    m.allTypes = m.subtree.flatMap (·.unit.declaredNames) := by
  induction m using children_induction with
  | step m ih =>
    rw [allTypes_eq, subtree_eq, List.flatMap_cons, List.flatMap_assoc]
    congr 1
    exact List.flatMap_congr ih

/-! ## Addresses -/

/-- The module that a way down from a module leads to; each number says which child comes next. -/
def at? (m : ProjectModule) : List Nat → Option ProjectModule
  | [] => some m
  | i :: way => m.children[i]?.bind (at? · way)

/-- The module at an address among several: the first number says which of them to begin with. -/
def atOf? (modules : List ProjectModule) : List Nat → Option ProjectModule
  | [] => none
  | i :: way => modules[i]?.bind (at? · way)

mutual

/-- The ways down from a module, in the order of its subtree. -/
def ways : ProjectModule → List (List Nat)
  | ⟨_, _, children⟩ => [] :: waysOf 0 children

/-- The addresses of several modules and everything below them, the first of the modules having this
number. -/
def waysOf : Nat → List ProjectModule → List (List Nat)
  | _, [] => []
  | n, m :: ms => (ways m).map (n :: ·) ++ waysOf (n + 1) ms

end

lemma ways_eq (m : ProjectModule) : m.ways = [] :: waysOf 0 m.children := by
  cases m
  rw [ways]

lemma mem_waysOf {n : Nat} {modules : List ProjectModule} {address : List Nat} :
    address ∈ waysOf n modules ↔
      ∃ i way m, address = (n + i) :: way ∧ modules[i]? = some m ∧ way ∈ m.ways := by
  induction modules generalizing n with
  | nil => simp [waysOf]
  | cons first modules ih =>
    rw [waysOf, List.mem_append, List.mem_map, ih]
    constructor
    · rintro (⟨way, hway, rfl⟩ | ⟨i, way, m, rfl, hm, hway⟩)
      · exact ⟨0, way, first, rfl, rfl, hway⟩
      · exact ⟨i + 1, way, m, by rw [Nat.add_assoc, Nat.add_comm 1], hm, hway⟩
    · rintro ⟨i, way, m, rfl, hm, hway⟩
      cases i with
      | zero =>
        cases hm
        exact .inl ⟨way, hway, rfl⟩
      | succ i => exact .inr ⟨i, way, m, by rw [Nat.add_assoc, Nat.add_comm 1], hm, hway⟩

/-- A list of addresses leads to all modules below those that its parts lead to. -/
lemma mem_waysOf_zero_iff {modules : List ProjectModule}
    (h : ∀ m ∈ modules, ∀ way, way ∈ m.ways ↔ (m.at? way).isSome) (address : List Nat) :
    address ∈ waysOf 0 modules ↔ (atOf? modules address).isSome := by
  rw [mem_waysOf]
  cases address with
  | nil => simp [atOf?]
  | cons i way =>
    rw [atOf?]
    cases hm : modules[i]? with
    | none => simp [hm]
    | some m => simp [hm, h m (List.mem_of_getElem? hm)]

lemma mem_ways_iff {m : ProjectModule} (way : List Nat) : way ∈ m.ways ↔ (m.at? way).isSome := by
  induction m using children_induction generalizing way with
  | step m ih =>
    rw [ways_eq]
    cases way with
    | nil => simp [at?]
    | cons i way =>
      have hchildren := mem_waysOf_zero_iff ih (i :: way)
      rw [atOf?] at hchildren
      rw [List.mem_cons, at?, ← hchildren]
      simp

lemma pairwise_waysOf {modules : List ProjectModule}
    (h : ∀ m ∈ modules, m.ways.Pairwise (List.Lex (· < ·))) (n : Nat) :
    (waysOf n modules).Pairwise (List.Lex (· < ·)) := by
  induction modules generalizing n with
  | nil =>
    rw [waysOf]
    exact .nil
  | cons m modules ih =>
    rw [List.forall_mem_cons] at h
    rw [waysOf, List.pairwise_append]
    refine ⟨?_, ih h.2 (n + 1), ?_⟩
    · rw [List.pairwise_map]
      exact h.1.imp fun hlex => .cons hlex
    · intro address haddress later hlater
      obtain ⟨way, -, rfl⟩ := List.mem_map.1 haddress
      obtain ⟨i, other, -, rfl, -⟩ := mem_waysOf.1 hlater
      exact .rel (by omega)

lemma pairwise_ways (m : ProjectModule) : m.ways.Pairwise (List.Lex (· < ·)) := by
  induction m using children_induction with
  | step m ih =>
    rw [ways_eq]
    refine .cons (fun address haddress => ?_) (pairwise_waysOf ih 0)
    obtain ⟨i, way, -, rfl, -⟩ := mem_waysOf.1 haddress
    exact .nil

lemma map_atOf?_waysOf {modules : List ProjectModule}
    (h : ∀ m ∈ modules, m.ways.map m.at? = m.subtree.map some) (before : List ProjectModule) :
    (waysOf before.length modules).map (atOf? (before ++ modules)) =
      (modules.flatMap subtree).map some := by
  induction modules generalizing before with
  | nil => rw [waysOf, List.flatMap_nil, List.map_nil, List.map_nil]
  | cons m modules ih =>
    rw [List.forall_mem_cons] at h
    have hfirst : (atOf? (before ++ m :: modules)) ∘ (before.length :: ·) = m.at? := by
      funext way
      simp [atOf?]
    have hothers := ih h.2 (before ++ [m])
    rw [List.length_append, List.length_singleton, List.append_assoc,
      List.singleton_append] at hothers
    rw [waysOf, List.map_append, List.map_map, hfirst, h.1, hothers, List.flatMap_cons,
      List.map_append]

lemma map_at?_ways (m : ProjectModule) : m.ways.map m.at? = m.subtree.map some := by
  induction m using children_induction with
  | step m ih =>
    have hbelow := map_atOf?_waysOf ih []
    rw [ways_eq, subtree_eq, List.map_cons, List.map_cons, ← hbelow]
    congr 1
    refine List.map_congr_left fun address haddress => ?_
    obtain ⟨i, way, -, rfl, -⟩ := mem_waysOf.1 haddress
    rfl

end ProjectModule

namespace Project

/-- The module at an address of a project. -/
def at? (p : Project) : List Nat → Option ProjectModule :=
  ProjectModule.atOf? p.modules

/-- The addresses of all modules of a project, each once, and parents before their children. -/
structure IsPreorder (p : Project) (order : List (List Nat)) : Prop where
  mem_iff : ∀ address, address ∈ order ↔ (p.at? address).isSome
  nodup : order.Nodup
  /-- A parent comes before its children. -/
  parent_before : ∀ address i, address ∈ order → address ++ [i] ∈ order →
    [address, address ++ [i]].Sublist order
  /-- Everything below a module comes before the next module beside it. -/
  increasing : order.Pairwise (List.Lex (· < ·))

lemma lex_append_singleton (address : List Nat) (i : Nat) :
    List.Lex (· < ·) address (address ++ [i]) := by
  induction address with
  | nil => exact .nil
  | cons n address ih => exact .cons ih

/-- In a list that increases, the smaller of two addresses comes first. -/
lemma pair_sublist_of_lex {order : List (List Nat)} (h : order.Pairwise (List.Lex (· < ·)))
    {first second : List Nat} (hfirst : first ∈ order) (hsecond : second ∈ order)
    (hlex : List.Lex (· < ·) first second) : [first, second].Sublist order := by
  induction order with
  | nil => cases hfirst
  | cons address order ih =>
    rw [List.pairwise_cons] at h
    rcases List.mem_cons.1 hfirst with rfl | hbehind
    · rcases List.mem_cons.1 hsecond with rfl | hlater
      · exact absurd hlex (irrefl _)
      · exact .cons_cons _ (List.singleton_sublist.2 hlater)
    · rcases List.mem_cons.1 hsecond with rfl | hlater
      · exact absurd hlex (asymm (h.1 first hbehind))
      · exact .cons _ (ih h.2 hbehind hlater)

lemma isPreorder_waysOf (p : Project) : p.IsPreorder (ProjectModule.waysOf 0 p.modules) := by
  have hincreasing : (ProjectModule.waysOf 0 p.modules).Pairwise (List.Lex (· < ·)) :=
    ProjectModule.pairwise_waysOf (fun m _ => m.pairwise_ways) 0
  exact {
    mem_iff := ProjectModule.mem_waysOf_zero_iff fun m _ => ProjectModule.mem_ways_iff
    nodup := hincreasing.imp fun hlex heq => absurd (heq ▸ hlex) (irrefl _)
    parent_before := fun address i hparent hchild =>
      pair_sublist_of_lex hincreasing hparent hchild (lex_append_singleton address i)
    increasing := hincreasing }

lemma map_at?_waysOf (p : Project) :
    (ProjectModule.waysOf 0 p.modules).map p.at? = p.allModules.map some := by
  rw [allModules, ProjectModule.subtreesOf_eq]
  exact ProjectModule.map_atOf?_waysOf (fun m _ => m.map_at?_ways) []

end Project

/-! ## Names of one unit -/

/-- Every declaration of a unit carries the package of the unit. -/
structure SourceUnit.SharesPackage (u : SourceUnit) : Prop where
  models : ∀ m ∈ u.models, m.package = u.package
  ports : ∀ p ∈ u.ports, p.package = u.package
  adapters : ∀ a ∈ u.adapters, a.package = u.package
  services : ∀ s ∈ u.services, s.package = u.package

/-- Declarations of one kind that share a package have the names with that package in front. -/
lemma map_qualified_eq {α : Type} {declarations : List α} {name package qualified : α → String}
    (hqualified : ∀ d, qualified d = DottedName.qualify (package d) (name d)) {shared : String}
    (h : ∀ d ∈ declarations, package d = shared) :
    declarations.map qualified = (declarations.map name).map (DottedName.qualify shared) := by
  rw [List.map_map]
  refine List.map_congr_left fun d hd => ?_
  rw [hqualified, h d hd, Function.comp_apply]

lemma SourceUnit.declaredNames_eq {u : SourceUnit} (h : u.SharesPackage) :
    u.declaredNames = u.topLevelNames.map (DottedName.qualify u.package) := by
  have hmodels : u.models.flatMap Model.declaredNames =
      (u.models.flatMap Model.classNames).map (DottedName.qualify u.package) := by
    rw [List.map_flatMap]
    refine List.flatMap_congr fun m hm => ?_
    rw [Model.declaredNames, h.models m hm]
  have hports : u.ports.map Port.qualifiedName = _ := map_qualified_eq (fun _ => rfl) h.ports
  have hadapters : u.adapters.map Adapter.qualifiedName = _ :=
    map_qualified_eq (fun _ => rfl) h.adapters
  have hservices : u.services.map Service.qualifiedName = _ :=
    map_qualified_eq (fun _ => rfl) h.services
  rw [declaredNames, topLevelNames, hmodels, hports, hadapters, hservices, List.map_append,
    List.map_append, List.map_append]

/-- **The traversals agree.**  The names of a module are the names that the modules of its subtree
declare, in the order in which a project lists its modules.  A project lists the modules at all of
its addresses, each once, with every parent before its children.  And if the declarations of a unit
share its package, the names of its module are the top-level names of its file with the package in
front. -/
theorem traversals_agree :
    (∀ m : ProjectModule, m.allTypes = m.subtree.flatMap (·.unit.declaredNames)) ∧
    (∀ p : Project, p.allModules = p.modules.flatMap ProjectModule.subtree ∧
      ∃ order, p.IsPreorder order ∧ order.map p.at? = p.allModules.map some) ∧
    ∀ (name : String) (u : SourceUnit), u.SharesPackage →
      (ProjectModule.ofUnit name u).allTypes =
        u.topLevelNames.map (DottedName.qualify u.package) := by
  refine ⟨ProjectModule.allTypes_eq_flatMap_subtree, fun p => ?_, fun name u hu => ?_⟩
  · exact ⟨ProjectModule.subtreesOf_eq p.modules, _, p.isPreorder_waysOf, p.map_at?_waysOf⟩
  · rw [← SourceUnit.declaredNames_eq hu, ProjectModule.allTypes_eq]
    exact List.append_nil _

/-- A unit with a sealed hierarchy, a port and an adapter, all in one package. -/
def accountUnit : SourceUnit where
  package := "acme"
  models := [{ name := "Login", package := "acme",
               shape := .sealedHierarchy [] [⟨"Success", []⟩, ⟨"Locked", []⟩] }]
  ports := [{ name := "Accounts", package := "acme" }]
  adapters := [{ name := "SqlAccounts", package := "acme", implements := .named "Accounts" [] }]

/-- The variants of the hierarchy come right after it. -/
theorem traversals_agree_account :
    accountUnit.SharesPackage ∧
      (ProjectModule.ofUnit "account" accountUnit).allTypes =
        ["acme.Login", "acme.Success", "acme.Locked", "acme.Accounts", "acme.SqlAccounts"] := by
  have hshares : accountUnit.SharesPackage := by
    constructor <;> simp [accountUnit]
  refine ⟨hshares, ?_⟩
  rw [traversals_agree.2.2 "account" accountUnit hshares]
  decide

end Blueprint
