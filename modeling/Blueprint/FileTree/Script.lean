import Blueprint.FileTree.Basic

/-!
# Scripts of file operations

A script is a program whose only effects are file operations, one at a time.  It can be run on a
file tree, in a monad that carries the operations out, or step by step beside other scripts.
-/

namespace Blueprint

/-- A file operation. -/
inductive FileOp where
  | read (path : Path)
  | write (path : Path) (data : ByteArray)
  | createDirs (path : Path)
  | rename (source target : Path)
  | remove (path : Path)
  | isDirectory (path : Path)
  | filesUnder (root : Path)

/-- What an operation answers. -/
abbrev FileOp.Answer : FileOp → Type
  | .read _ => Except OsFault ByteArray
  | .isDirectory _ => Bool
  | .filesUnder _ => Except OsFault (List Path)
  | .write .. | .createDirs _ | .rename .. | .remove _ => Except OsFault Unit

/-- The tree that an operation leaves: a failed one changes nothing. -/
def FileTree.after (t : FileTree) : Except OsFault FileTree → Except OsFault Unit × FileTree
  | .ok t => (.ok (), t)
  | .error fault => (.error fault, t)

/-- What an operation answers on a tree, and the tree it leaves. -/
def FileTree.perform (t : FileTree) : (op : FileOp) → op.Answer × FileTree
  | .read path => (t.read path, t)
  | .isDirectory path => (t.isDirectory path, t)
  | .filesUnder root => (t.filesUnder root, t)
  | .write path data => t.after (t.write path data)
  | .createDirs path => ((t.createDirs path).2, (t.createDirs path).1)
  | .rename source target => t.after (t.rename source target)
  | .remove path => t.after (t.remove path)

/-- A program of file operations. -/
inductive Script (α : Type) where
  | done (result : α)
  | step (op : FileOp) (next : op.Answer → Script α)

namespace Script

/-- The script that runs one script and then another that depends on its result. -/
def andThen (f : α → Script β) : Script α → Script β
  | .done a => f a
  | .step op next => .step op fun answer => (next answer).andThen f

instance : Monad Script where
  pure := .done
  bind s f := s.andThen f

/-- The script of a single operation. -/
def perform (op : FileOp) : Script op.Answer :=
  .step op .done

/-- The result of a script on a tree, and the tree it leaves. -/
def run (s : Script α) (t : FileTree) : α × FileTree :=
  match s with
  | .done a => (a, t)
  | .step op next =>
    let (answer, t) := t.perform op
    (next answer).run t

theorem andThen_done (s : Script α) : s.andThen .done = s := by
  induction s with
  | done a => rfl
  | step op next ih => exact congrArg (Script.step op) (funext ih)

theorem andThen_assoc (f : α → Script β) (g : β → Script γ) (s : Script α) :
    (s.andThen f).andThen g = s.andThen fun a => (f a).andThen g := by
  induction s with
  | done a => rfl
  | step op next ih => exact congrArg (Script.step op) (funext ih)

instance : LawfulMonad Script :=
  LawfulMonad.mk' Script andThen_done (fun _ _ => rfl) (fun s f g => andThen_assoc f g s)

theorem run_step (op : FileOp) (next : op.Answer → Script α) (t : FileTree) :
    (step op next).run t = (next (t.perform op).1).run (t.perform op).2 := rfl

@[simp] theorem run_pure (a : α) (t : FileTree) : (pure a : Script α).run t = (a, t) := rfl

@[simp] theorem run_bind (s : Script α) (f : α → Script β) (t : FileTree) :
    (s >>= f).run t = (f (s.run t).1).run (s.run t).2 := by
  induction s generalizing t with
  | done a => rfl
  | step op next ih => exact ih (t.perform op).1 (t.perform op).2

@[simp] theorem run_perform (op : FileOp) (t : FileTree) :
    (perform op).run t = t.perform op := rfl

/-- Carries a script out by a monad that can do its operations. -/
def carryOut [Monad m] (operate : (op : FileOp) → m op.Answer) : Script α → m α
  | .done a => pure a
  | .step op next => do carryOut operate (next (← operate op))

end Script

end Blueprint
