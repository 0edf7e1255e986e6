import DocAccess.Files.Path

/-!
# Access to files

All that a run does with files: it lists a directory, reads a file, and replaces a file as a whole.
What replaces a file is written to a draft beside it first and moved to its place at last, so that
the file has either its old contents or all of the new ones.
-/

namespace DocAccess.Files

/-- What reading a file gives. -/
inductive Reading where
  | contents (bytes : ByteArray)
  | missing
  | failed

/-- Access to files in the course of a computation.  What gives a truth value gives whether it
succeeds. -/
structure Access (m : Type → Type) where
  /-- The names of the files in a directory in any order, or `none` if it cannot be listed. -/
  list : String → m (Option (List String))
  read : String → m Reading
  /-- Makes the directories above a path. -/
  makeAbove : String → m Bool
  /-- Makes an empty draft beside a path and gives its name, which no other file there has. -/
  createDraft : String → m (Option String)
  /-- Writes bytes to the draft of a name beside a path. -/
  fillDraft : String → String → ByteArray → m Bool
  /-- Waits until a draft beside a path is stored. -/
  syncDraft : String → String → m Bool
  /-- Moves a draft beside a path to the path. -/
  moveDraft : String → String → m Bool
  /-- Removes a draft beside a path. -/
  removeDraft : String → String → m Unit

namespace Access

variable {m : Type → Type} [Monad m] (files : Access m)

/-- Fills a draft and moves it to its place. -/
def settle (path draft : String) (bytes : ByteArray) : m Bool := do
  if !(← files.fillDraft path draft bytes) then return false
  if !(← files.syncDraft path draft) then return false
  files.moveDraft path draft

/-- Replaces the file at a path; a draft that does not get there is removed. -/
def replace (path : String) (bytes : ByteArray) : m Bool := do
  if !(← files.makeAbove path) then return false
  match ← files.createDraft path with
  | none => return false
  | some draft =>
      let settled ← files.settle path draft bytes
      if !settled then files.removeDraft path draft
      return settled

end Access

end DocAccess.Files
