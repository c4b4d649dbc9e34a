import Blueprint.Migration.Outcome

/-!
# Pipelines

The four steps of migrating one document, and the run that takes them in order up to the first
failure.  A run always ends in a terminal stage.
-/

namespace Blueprint

/-- The steps of a migration. -/
structure Pipeline (m : Type → Type) where
  parse : Job → m (Except Failure SourceUnit)
  /-- Whether the unit is validated at all. -/
  validates : Bool
  /-- The warnings that do not stop the migration. -/
  validate : SourceUnit → m (Except Failure (List Warning))
  render : SourceUnit → m (Except Failure String)
  /-- Keeps the code, and gives the path it is kept at. -/
  write : Job → String → m (Except Failure String)

namespace Pipeline

variable {m : Type → Type} [Monad m]

/-- The steps after validation. -/
def finish (p : Pipeline m) (job : Job) (trace : List Stage) (warnings : List Warning)
    (unit : SourceUnit) : m Outcome := do
  match ← p.render unit with
  | .error failure => return .failed job (trace ++ [.rendering]) warnings failure
  | .ok code =>
    match ← p.write job code with
    | .error failure => return .failed job (trace ++ [.rendering, .writing]) warnings failure
    | .ok path => return .succeeded job (trace ++ [.rendering, .writing]) warnings unit path

/-- Takes the steps in order and stops at the first failure. -/
def run (p : Pipeline m) (job : Job) : m Outcome := do
  match ← p.parse job with
  | .error failure => return .failed job [.parsing] [] failure
  | .ok unit =>
    if p.validates then
      match ← p.validate unit with
      | .error failure => return .failed job [.parsing, .validating] [] failure
      | .ok warnings => p.finish job [.parsing, .validating] warnings unit
    else p.finish job [.parsing] [] unit

end Pipeline

end Blueprint
