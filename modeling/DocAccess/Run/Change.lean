import DocAccess.Files.Access
import DocAccess.Generate.Fault

/-!
# Changes of the output

A text is compared with the file that it is meant for.  A file that holds the text already is not
written again.
-/

namespace DocAccess.Run

open DocAccess.Files DocAccess.Generate

/-- How a text changes its file. -/
inductive Change where
  | created
  | updated
  | unchanged
  deriving DecidableEq, Repr

/-- Whether the file changes at all. -/
def Change.isChange : Change → Bool
  | unchanged => false
  | _ => true

/-- How a text changes a file, given what reading the file gives. -/
def Change.ofReading? (text : String) : Reading → Option Change
  | .contents bytes => some (if bytes.data = text.toUTF8.data then unchanged else updated)
  | .missing => some created
  | .failed => none

section Access

variable {m : Type → Type} [Monad m] (files : Access m)

/-- How a text would change a file. -/
def compare (path text : String) : ExceptT Fault m Change := do
  match Change.ofReading? text (← files.read path) with
  | some change => return change
  | none => throw (.error (.write path))

/-- Writes a text to a file that does not hold it already. -/
def writeIfChanged (path text : String) : ExceptT Fault m Change := do
  let change ← compare files path text
  if change.isChange then
    if !(← files.replace path text.toUTF8) then throw (.error (.write path))
  return change

end Access

end DocAccess.Run
