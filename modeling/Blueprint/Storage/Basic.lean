import Blueprint.Failure

/-!
# Storage

Where documents are read from and code is written to.
-/

namespace Blueprint

/-- A place that holds files under textual paths. -/
structure Storage (m : Type → Type) where
  read : String → m (Except Failure ByteArray)
  write : String → ByteArray → m (Except Failure Unit)

end Blueprint
