import Blueprint.Proofs.Batch.Destination
import Blueprint.Proofs.Document.Scope
import Blueprint.Proofs.Storage.Staged

/-!
# The documents that a batch finds

A batch lists the files below its source directory and keeps those with the source extension.  Here
each of them is told by the names that lead to it from the source directory, as the tree has them
(`sourceNames`).  A batch with valid settings has one job for each of these ways, and no others
(`run_jobs`).

Jobs hold paths as texts.  A path comes back from its text if a text spelled it in the first place
(`IsSpelled.ofText_text`), and so does a path that names were added to.
-/

namespace Blueprint.Path

variable {p : Path} {text : String}

/-! ## Texts of paths -/

instance (piece : String) : Decidable (IsPlain piece) :=
  decidable_of_iff (piece ≠ "" ∧ piece ≠ "." ∧ piece ≠ "..")
    ⟨fun h => ⟨h.1, h.2.1, h.2.2⟩, fun h => ⟨h.ne_empty, h.ne_dot, h.ne_up⟩⟩

/-- A path that a text spells: it has pieces, none of them has a slash in it, and it is absolute if
its text starts with a slash. -/
structure IsSpelled (p : Path) : Prop where
  nonempty : p.pieces ≠ []
  no_slash : ∀ piece ∈ p.pieces, '/' ∉ piece.toList
  start : p.absolute = false → p.pieces.head? ≠ some ""

lemma ofText_of_slash {rest : List Char} (h : text.toList = '/' :: rest) :
    ofText text = ⟨true, (Text.splitOn '/' rest).map String.ofList⟩ := by
  simp [ofText, h]

lemma ofText_of_not_slash (h : text.toList.head? ≠ some '/') :
    ofText text = ⟨false, (Text.splitOn '/' text.toList).map String.ofList⟩ := by
  rw [ofText]
  cases hchars : text.toList with
  | nil => rfl
  | cons c rest =>
    have hc : c ≠ '/' := by
      rintro rfl
      simp [hchars] at h
    simp [hc]

lemma isSpelled_ofText (h : text ≠ "") : IsSpelled (ofText text) := by
  have hslash : ∀ chars : List Char,
      ∀ piece ∈ (Text.splitOn '/' chars).map String.ofList, '/' ∉ piece.toList := by
    intro chars piece hpiece
    obtain ⟨cut, hcut, rfl⟩ := List.mem_map.1 hpiece
    simpa using Text.not_mem_of_mem_splitOn hcut
  by_cases hhead : text.toList.head? = some '/'
  · obtain ⟨rest, hrest⟩ := List.head?_eq_some_iff.1 hhead
    rw [ofText_of_slash hrest]
    exact ⟨by simp [Text.splitOn_ne_nil], hslash rest, by simp⟩
  · rw [ofText_of_not_slash hhead]
    refine ⟨by simp [Text.splitOn_ne_nil], hslash _, fun _ => ?_⟩
    obtain ⟨c, rest, hchars⟩ := List.exists_cons_of_ne_nil (show text.toList ≠ [] by simpa using h)
    have hc : c ≠ '/' := by
      rintro rfl
      simp [hchars] at hhead
    obtain ⟨first, others, hsplit⟩ :=
      List.exists_cons_of_ne_nil (Text.splitOn_ne_nil '/' rest)
    simp [hchars, Text.splitOn, hc, hsplit]

lemma toList_text (p : Path) :
    p.text.toList = (if p.absolute then ['/'] else []) ++
      ['/'].intercalate (p.pieces.map String.toList) := by
  rw [text, String.toList_append, String.toList_intercalate]
  cases p.absolute <;> rfl

/-- A path can be read off its text. -/
lemma IsSpelled.ofText_text (h : IsSpelled p) : ofText p.text = p := by
  have hsplit : (Text.splitOn '/' (['/'].intercalate (p.pieces.map String.toList))).map
      String.ofList = p.pieces := by
    rw [Text.splitOn_eq_list_splitOn, List.splitOn_intercalate]
    · simp
    · simpa using h.no_slash
    · simpa using h.nonempty
  have htext := toList_text p
  cases habsolute : p.absolute with
  | true =>
    rw [habsolute, if_pos rfl, List.singleton_append] at htext
    rw [ofText_of_slash htext, hsplit, ← habsolute]
  | false =>
    rw [habsolute, if_neg (by simp), List.nil_append] at htext
    have hhead : p.text.toList.head? ≠ some '/' := by
      obtain ⟨first, others, hpieces⟩ := List.exists_cons_of_ne_nil h.nonempty
      have hfirst : first.toList ≠ [] := by
        simpa [hpieces] using h.start habsolute
      obtain ⟨c, rest, hchars⟩ := List.exists_cons_of_ne_nil hfirst
      have hc : '/' ≠ c ∧ '/' ∉ rest := by
        simpa [hchars] using h.no_slash first (by simp [hpieces])
      rw [htext, hpieces]
      cases others <;> simp [hchars, List.intercalate, hc.1.symm]
    rw [ofText_of_not_slash hhead, htext, hsplit, ← habsolute]

/-- Pieces can be added to a path that a text spells. -/
lemma IsSpelled.append {pieces : List String} (h : IsSpelled p) (hpieces : pieces ≠ [])
    (hslash : ∀ piece ∈ pieces, '/' ∉ piece.toList) :
    IsSpelled { p with pieces := p.joinLead ++ pieces } := by
  refine ⟨by simp [hpieces], fun piece hpiece => ?_, fun habsolute => ?_⟩
  · rcases List.mem_append.1 hpiece with hlead | hadded
    · exact h.no_slash piece (p.joinLead_prefix.subset hlead)
    · exact hslash piece hadded
  · have hstart := h.start habsolute
    have hnonempty := h.nonempty
    rcases p.joinLead_cases with heq | heq <;> rw [heq] at hstart
    · rw [heq] at hnonempty
      rwa [List.head?_append_of_ne_nil _ hnonempty]
    · have hlead : p.joinLead ≠ [] := by
        intro hnil
        simp [hnil] at hstart
      rw [List.head?_append_of_ne_nil _ hlead] at hstart ⊢
      exact hstart

lemma IsSpelled.join_workingDirectory (h : IsSpelled p) :
    workingDirectory.join (.ofText p.text) = p := by
  have hbase : workingDirectory = ⟨false, [""]⟩ := by decide
  rw [h.ofText_text, hbase, join]
  cases habsolute : p.absolute with
  | true => simp
  | false => simp [h.nonempty, ← habsolute]

/-! ## Paths below a path -/

variable {name : String} {names : List String}

/-- The path that names lead to from a path. -/
def below (p : Path) (names : List String) : Path :=
  names.foldl (fun path name => path.join ⟨false, [name]⟩) p

lemma below_concat (p : Path) (names : List String) (name : String) :
    p.below (names ++ [name]) = (p.below names).join ⟨false, [name]⟩ := by
  simp [below]

lemma below_eq (hnames : names ≠ []) (hplain : ∀ name ∈ names, IsPlain name) :
    p.below names = { p with pieces := p.joinLead ++ names } := by
  induction names using List.reverseRecOn with
  | nil => exact absurd rfl hnames
  | append_singleton names name ih =>
    rw [below_concat, join_eq rfl (by simp)]
    rcases List.eq_nil_or_concat' names with rfl | ⟨init, last, rfl⟩
    · rfl
    · have hlast : last ≠ "" := (hplain last (by simp)).ne_empty
      rw [ih (by simp) fun n hn => hplain n (List.mem_append_left _ hn)]
      simp [joinLead, ← List.append_assoc, hlast]

lemma componentsOf_plain (hplain : ∀ name ∈ names, IsPlain name) :
    componentsOf true names = names.map .normal := by
  induction names using List.reverseRecOn with
  | nil => rfl
  | append_singleton names name ih =>
    rw [componentsOf_concat, ih fun n hn => hplain n (List.mem_append_left _ hn),
      (hplain name (by simp)).component?]
    simp

lemma components_below (hnames : names ≠ []) (hplain : ∀ name ∈ names, IsPlain name) :
    (p.below names).components = p.components ++ names.map .normal := by
  have honward : .current ∉ componentsOf true names := by simp [componentsOf_plain hplain]
  rw [below_eq hnames hplain, components_append honward, componentsOf_plain hplain]

/-- Pieces with the meaning of some names lead to these names. -/
lemma leads_of_componentsOf {leading : Bool} {pieces : List String}
    (h : componentsOf leading pieces = names.map .normal) :
    (∀ here, FileTree.followAll here pieces = here ++ names) ∧
      ∀ piece ∈ pieces, IsBlank piece ∨ piece ∈ names := by
  induction pieces generalizing leading names with
  | nil =>
    obtain rfl : names = [] := by simpa [componentsOf] using h.symm
    simp
  | cons piece rest ih =>
    rw [componentsOf, ← componentsOf_false] at h
    rcases piece_cases piece with hblank | rfl | hplain
    · have hnone : component? leading piece = none := by
        rcases hblank with rfl | rfl
        · rfl
        · cases leading with
          | false => rfl
          | true =>
            cases names <;> simp [component?] at h
      rw [hnone] at h
      obtain ⟨hfollow, hpieces⟩ := ih h
      refine ⟨fun here => ?_, List.forall_mem_cons.2 ⟨Or.inl hblank, hpieces⟩⟩
      rw [FileTree.followAll_cons, FileTree.follow_blank hblank, hfollow]
    · cases names <;> simp [component?] at h
    · rw [hplain.component?] at h
      cases names with
      | nil => simp at h
      | cons name others =>
        obtain ⟨hname, hrest⟩ := List.cons.inj h
        obtain rfl := Component.normal.inj hname
        obtain ⟨hfollow, hpieces⟩ := ih hrest
        refine ⟨fun here => ?_, List.forall_mem_cons.2 ⟨Or.inr List.mem_cons_self, fun p hp => ?_⟩⟩
        · rw [FileTree.followAll_cons, FileTree.follow_plain hplain, hfollow, List.append_assoc]
          rfl
        · exact (hpieces p hp).imp_right (List.mem_cons_of_mem _)

end Blueprint.Path

namespace Blueprint.FileTree

open Blueprint.Path (IsPlain)

variable {t : FileTree} {top : Place} {names : List String} {root : Path}

/-! ## Files below a directory -/

/-- A tree as a disk holds it: each place is listed once, and lies in a directory under a name that
a path can spell. -/
structure IsProper (t : FileTree) : Prop where
  wellFormed : t.WellFormed
  nodup : (t.nodes.map Prod.fst).Nodup
  named : ∀ entry ∈ t.nodes, entry.1 ≠ [] ∧ ∀ name ∈ entry.1, IsPlain name ∧ '/' ∉ name.toList

lemma IsProper.get?_eq (h : t.IsProper) {entry : Place × Node} (hentry : entry ∈ t.nodes) :
    t.get? entry.1 = some entry.2 := by
  have hfind : t.nodes.find? (·.1 == entry.1) = some entry := by
    obtain ⟨before, after, hnodes⟩ := List.append_of_mem hentry
    have hnodup := h.nodup
    rw [hnodes, List.map_append, List.nodup_append] at hnodup
    rw [hnodes, List.find?_append, List.find?_eq_none.2, Option.none_or]
    · simp
    · intro other hother
      simpa using hnodup.2.2 other.1 (List.mem_map_of_mem hother) entry.1 (by simp)
  rw [get?, if_neg (by simpa using (h.named entry hentry).1), hfind, Option.map_some]

/-- The ways down from a place to the files below it. -/
def namesBelow (t : FileTree) (top : Place) : List (List String) :=
  t.nodes.filterMap fun entry =>
    if entry.2.isDirectory = false ∧ top <+: entry.1 then some (entry.1.drop top.length) else none

lemma mem_namesBelow_iff : names ∈ t.namesBelow top ↔
    ∃ data, (top ++ names, .file data) ∈ t.nodes := by
  rw [namesBelow, List.mem_filterMap]
  constructor
  · rintro ⟨⟨there, node⟩, hentry, hnames⟩
    by_cases hfile : node.isDirectory = false ∧ top <+: there
    · rw [if_pos hfile] at hnames
      obtain ⟨hnode, names', rfl⟩ := hfile
      obtain rfl : names' = names := by simpa using hnames
      cases node with
      | file data => exact ⟨data, hentry⟩
      | directory => simp [Node.isDirectory] at hnode
    · rw [if_neg hfile] at hnames
      cases hnames
  · rintro ⟨data, hentry⟩
    refine ⟨_, hentry, ?_⟩
    rw [if_pos ⟨rfl, List.prefix_append _ _⟩, List.drop_left]

lemma IsProper.file_below (h : t.IsProper) (hnames : names ∈ t.namesBelow top) :
    (∃ data, t.get? (top ++ names) = some (.file data)) ∧
      ∀ name ∈ names, IsPlain name ∧ '/' ∉ name.toList := by
  obtain ⟨data, hentry⟩ := mem_namesBelow_iff.1 hnames
  refine ⟨⟨data, h.get?_eq hentry⟩, fun name hname => ?_⟩
  exact (h.named _ hentry).2 name (List.mem_append_right _ hname)

lemma IsProper.nodup_namesBelow (h : t.IsProper) (top : Place) : (t.namesBelow top).Nodup := by
  have hplaces : t.nodes.Pairwise fun a b => a.1 ≠ b.1 := List.pairwise_map.1 h.nodup
  rw [List.Nodup, namesBelow, List.pairwise_filterMap]
  refine hplaces.imp fun {a b} hne names hnames names' hnames' heq => hne ?_
  by_cases ha : a.2.isDirectory = false ∧ top <+: a.1
  · by_cases hb : b.2.isDirectory = false ∧ top <+: b.1
    · rw [if_pos ha] at hnames
      rw [if_pos hb] at hnames'
      have hdrop : a.1.drop top.length = b.1.drop top.length := by
        rw [Option.some.inj hnames, Option.some.inj hnames', heq]
      rw [← List.prefix_iff_eq_append.1 ha.2, ← List.prefix_iff_eq_append.1 hb.2, hdrop]
    · simp [if_neg hb] at hnames'
  · simp [if_neg ha] at hnames

lemma walk_of_locate (h : t.locate root = .ok top) : t.walk [] root.pieces = .ok top := by
  obtain ⟨_, -, hwalk⟩ := bind_eq_ok h
  exact hwalk

/-- A path to a directory leads to its place. -/
lemma located_of_isDirectory (h : t.isDirectory root = true) :
    t.locate root = .ok (placeOf root) ∧ t.get? (placeOf root) = some .directory := by
  unfold isDirectory at h
  cases hlocate : t.locate root with
  | error fault => simp [hlocate] at h
  | ok there =>
    obtain rfl : there = placeOf root := eq_followAll_of_walk (walk_of_locate hlocate)
    rw [hlocate] at h
    exact ⟨rfl, hasDirectory_iff.1 h⟩

lemma filesUnder_eq (hlocate : t.locate root = .ok top) (htop : t.get? top = some .directory) :
    t.filesUnder root = .ok ((t.namesBelow top).map root.below) := by
  rw [namesBelow, List.map_filterMap]
  unfold filesUnder
  simp only [hlocate, htop, bind, Except.bind, pure, Except.pure]
  congr 2
  funext entry
  obtain ⟨there, node⟩ := entry
  cases node with
  | directory => simp [Node.isDirectory]
  | file data =>
    by_cases hlead : top <+: there <;>
      simp [Node.isDirectory, hlead, List.isPrefixOf_iff_prefix, Path.below]

end Blueprint.FileTree

namespace Blueprint.Batch

open FileTree (Place placeOf)
open Blueprint.Path (IsPlain)

variable {settings : BatchSettings} {t : FileTree} {names : List String}

/-! ## Documents of a batch -/

/-- Whether a way leads to a file with an extension. -/
def hasExtension (extension : String) (names : List String) : Bool :=
  (names.getLast?.bind fun name => (Path.splitName name).2) = some extension

/-- The ways down to the documents of a batch. -/
def sourceNames (settings : BatchSettings) (t : FileTree) : List (List String) :=
  (t.namesBelow (placeOf settings.sourceDir)).filter (hasExtension settings.sourceExtension)

/-- The job of the document that a way leads to. -/
def jobBelow (settings : BatchSettings) (names : List String) : Job :=
  jobFor settings (settings.sourceDir.below names)

/-- What a batch may rely on once its settings were validated. -/
structure Validated (settings : BatchSettings) (t : FileTree) : Prop where
  target_ne : settings.targetExtension ≠ ""
  target_slash : '/' ∉ settings.targetExtension.toList
  located : t.locate settings.sourceDir = .ok (placeOf settings.sourceDir)
  directory : t.get? (placeOf settings.sourceDir) = some .directory

lemma target_of_checkSettings (h : checkSettings settings = .ok ()) :
    settings.targetExtension ≠ "" ∧ '/' ∉ settings.targetExtension.toList := by
  obtain ⟨_, -, hdest⟩ := bind_eq_ok h
  obtain ⟨_, -, hextensions⟩ := bind_eq_ok hdest
  obtain ⟨_, -, htarget⟩ := bind_eq_ok hextensions
  obtain ⟨_, htarget, -⟩ := bind_eq_ok htarget
  exact extension_of_check htarget

lemma validated_of_validate (h : ((validate settings).run t).1 = .ok ()) :
    Validated settings t := by
  have hsettings : checkSettings settings = .ok () := by
    rw [validate] at h
    cases hcheck : checkSettings settings with
    | ok _ => rfl
    | error failure => simp [hcheck] at h
  have hthere : t.isDirectory settings.sourceDir = true := by
    have hperform : (Script.perform (.isDirectory settings.sourceDir)).run t =
        (t.isDirectory settings.sourceDir, t) := rfl
    by_contra hmissing
    simp [validate, hsettings, hperform, hmissing, Check.refuse] at h
  obtain ⟨hne, hslash⟩ := target_of_checkSettings hsettings
  obtain ⟨hlocated, hdirectory⟩ := FileTree.located_of_isDirectory hthere
  exact ⟨hne, hslash, hlocated, hdirectory⟩

lemma extension?_below (hnames : names ≠ []) (hplain : ∀ name ∈ names, IsPlain name) (p : Path) :
    (p.below names).extension? = names.getLast?.bind fun name => (Path.splitName name).2 := by
  obtain ⟨init, name, rfl⟩ := (List.eq_nil_or_concat' names).resolve_left hnames
  have hpieces : (p.below (init ++ [name])).pieces = (p.joinLead ++ init) ++ [name] := by
    rw [Path.below_eq hnames hplain, List.append_assoc]
  rw [Path.extension?, Path.fileName?_of_plain hpieces (hplain name (by simp)),
    List.getLast?_concat]

lemma Validated.names_ne_nil (h : Validated settings t) (hproper : t.IsProper)
    (hnames : names ∈ t.namesBelow (placeOf settings.sourceDir)) : names ≠ [] := by
  rintro rfl
  obtain ⟨⟨data, hfile⟩, -⟩ := hproper.file_below hnames
  simp [h.directory] at hfile

/-- A way to a document: names that a path can spell, the last of them with the source extension. -/
lemma Validated.isSource (h : Validated settings t) (hproper : t.IsProper)
    (hnames : names ∈ sourceNames settings t) :
    IsSource settings (settings.sourceDir.below names) (names.map .normal) := by
  obtain ⟨hbelow, hextension⟩ := List.mem_filter.1 hnames
  have hne := h.names_ne_nil hproper hbelow
  have hplain : ∀ name ∈ names, IsPlain name := fun name hname =>
    ((hproper.file_below hbelow).2 name hname).1
  refine ⟨Path.components_below hne hplain, by simpa using hne, by simp [Path.IsOnward], ?_⟩
  rw [extension?_below hne hplain]
  simpa [hasExtension] using hextension

/-- The jobs of a batch are those of its documents. -/
lemma run_jobs (hproper : t.IsProper) (h : Validated settings t) :
    ∃ jobs, (Batch.jobs settings).run t = (.ok jobs, t) ∧
      jobs.Perm ((sourceNames settings t).map (jobBelow settings)) := by
  let files := (t.namesBelow (placeOf settings.sourceDir)).map settings.sourceDir.below
  have hfiles : t.filesUnder settings.sourceDir = .ok files :=
    FileTree.filesUnder_eq h.located h.directory
  refine ⟨(selectSources settings.sourceExtension files).map (jobFor settings), ?_, ?_⟩
  · have hperform : (Script.perform (.filesUnder settings.sourceDir)).run t = (.ok files, t) :=
      congrArg (·, t) hfiles
    simp [Batch.jobs, discoverSources, hperform]
  · have hfilter : files.filter (fun file => file.extension? = some settings.sourceExtension) =
        (sourceNames settings t).map settings.sourceDir.below := by
      rw [List.filter_map, sourceNames]
      congr 1
      refine List.filter_congr fun names hnames => ?_
      have hplain := (hproper.file_below hnames).2
      rw [Function.comp_apply,
        extension?_below (h.names_ne_nil hproper hnames) fun name hname => (hplain name hname).1]
      rfl
    rw [selectSources, hfilter]
    refine ((List.mergeSort_perm _ _).map _).trans ?_
    rw [List.map_map]
    exact .refl _

end Blueprint.Batch
