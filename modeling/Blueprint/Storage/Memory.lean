import Blueprint.Storage.Basic

/-!
# Storage in memory

Files as a map from path texts to contents.  Some paths can be closed to writing.
-/

namespace Blueprint

/-- The files of a storage in memory. -/
structure MemoryFiles where
  contents : List (String × ByteArray) := []
deriving Inhabited

namespace MemoryFiles

/-- The content of a file. -/
def get? (files : MemoryFiles) (path : String) : Option ByteArray :=
  (files.contents.find? (·.1 == path)).map Prod.snd

/-- The files with another content at a path. -/
def put (files : MemoryFiles) (path : String) (data : ByteArray) : MemoryFiles :=
  ⟨files.contents.filter (fun file => !(file.1 == path)) ++ [(path, data)]⟩

/-- The content of a file, or the failure to find one. -/
def read (files : MemoryFiles) (path : String) : Except Failure ByteArray :=
  match files.get? path with
  | some data => .ok data
  | none => .error (.io ("File not found: " ++ path))

/-- The files after a write, which fails at the paths that are closed to it. -/
def write (files : MemoryFiles) (closed : List String) (path : String) (data : ByteArray) :
    Except Failure MemoryFiles :=
  if closed.contains path then .error (.storage path "read-only") else .ok (files.put path data)

/-! Writing a file changes that file and no other. -/

@[simp] theorem get?_put_self (files : MemoryFiles) (path : String) (data : ByteArray) :
    (files.put path data).get? path = some data := by
  have hgone :
      (files.contents.filter fun file => !(file.1 == path)).find? (·.1 == path) = none := by
    simp
  simp [get?, put, List.find?_append, hgone]

theorem get?_put_of_ne (files : MemoryFiles) {path other : String} (data : ByteArray)
    (h : other ≠ path) : (files.put path data).get? other = files.get? other := by
  have hkept : (files.contents.filter fun file => !(file.1 == path)).find? (·.1 == other) =
      files.contents.find? (·.1 == other) := by
    rw [List.find?_filter]
    congr 1
    funext file
    by_cases hfile : file.1 = other
    · simp [hfile, h]
    · simp [hfile]
  simp [get?, put, List.find?_append, hkept, Ne.symm h]

end MemoryFiles

/-- The storage that keeps its files in memory. -/
def memoryStorage (closed : List String) : Storage (StateM MemoryFiles) where
  read path := fun files => (files.read path, files)
  write path data := fun files =>
    match files.write closed path data with
    | .ok files => (.ok (), files)
    | .error failure => (.error failure, files)

end Blueprint
