import Blueprint.Failure

/-!
# What a program says

The texts that a program prints and the code it ends with.
-/

namespace Blueprint.Command

/-- What a program leaves behind. -/
structure Output where
  exitCode : Nat := 0
  stdout : String := ""
  stderr : String := ""
deriving DecidableEq, Repr, Inhabited

/-- Lines of text. -/
def lines (texts : List String) : String :=
  String.join (texts.map (· ++ "\n"))

/-- How a failure is told. -/
def failureLine (failure : Failure) : String :=
  "❌ " ++ failure.userMessage

/-- What a program says when it fails with advice. -/
def Output.failed (stdout : List String) (failure : Failure) : Output where
  exitCode := failure.kind.exitCode
  stdout := lines stdout
  stderr := lines [failureLine failure, "💡 Suggestion: " ++ failure.suggestion]

/-- What a program says when it fails while it was doing something. -/
def Output.failedAt (stdout : List String) (activity cause : String) : Output where
  exitCode := 1
  stdout := lines stdout
  stderr := lines ["Error: " ++ activity, "", "Caused by:", "    " ++ cause]

end Blueprint.Command
