import DocAccess.CommandLine.Run

/-!
# The program

Access to the files of the system, and the entry point of the command line.
-/

namespace DocAccess

open DocAccess.CommandLine DocAccess.Files DocAccess.Generate

/-- The names of the files in a directory. -/
def listFiles (path : String) : IO (Option (List String)) := do
  try
    let entries ← (IO.FS.DirEntry.mk path "").root.readDir
    let files ← entries.toList.filterM fun entry => do
      try
        return (← entry.path.metadata).type == .file
      catch _ => return false
    return some (files.map (·.fileName))
  catch _ => return none

/-- Reads a file. -/
def readFile (path : String) : IO Reading := do
  try
    return .contents (← IO.FS.readBinFile path)
  catch e =>
    match e with
    | .noFileOrDirectory .. => return .missing
    | _ => return .failed

/-- Runs an action; gives whether it succeeds. -/
def succeeds (action : IO Unit) : IO Bool := do
  try
    action
    return true
  catch _ => return false

/-- The directory above a path. -/
def aboveOf (path : String) := (IO.FS.DirEntry.mk path "").root.parent.getD "."

/-- Makes an empty draft beside a path. -/
def createDraft (path : String) : IO (Option String) := do
  let draft := ".draft" ++ toString (← IO.monoNanosNow)
  let created ← succeeds do
    let handle ← IO.FS.Handle.mk (aboveOf path / draft) .writeNew
    handle.flush
  return if created then some draft else none

/-- The files of the system. -/
def systemFiles : Access IO where
  list := listFiles
  read := readFile
  makeAbove path := succeeds (IO.FS.createDirAll (aboveOf path))
  createDraft := createDraft
  fillDraft path draft bytes := succeeds (IO.FS.writeBinFile (aboveOf path / draft) bytes)
  syncDraft path draft := succeeds do (← IO.FS.Handle.mk (aboveOf path / draft) .append).flush
  moveDraft path draft := succeeds (IO.FS.rename (aboveOf path / draft) path)
  removeDraft path draft := discard (succeeds (IO.FS.removeFile (aboveOf path / draft)))

/-- The variables of the environment that matter. -/
def readEnvironment : IO (String → Option String) := do
  let names := noTypeAliasVariable :: ValueOption.all.map ValueOption.variable
  let values ← names.mapM fun name => return (name, ← IO.getEnv name)
  return fun name => (values.lookup name).getD none

/-- What is told about the end of a run. -/
def note : Ending → Option String
  | .failed (.error e) => some e.message
  | .failed (.notIdentifier text) => some s!"not an identifier: {text}"
  | .misused _ => some "invalid arguments, see --help"
  | .checked change => if change.isChange then some "generated module is stale" else none
  | _ => none

end DocAccess

open DocAccess

/-- Runs the program. -/
def main (arguments : List String) : IO UInt32 := do
  let ending ← CommandLine.runWith systemFiles (← readEnvironment) arguments
  IO.print ending.output
  match note ending with
  | some text => IO.eprintln text
  | none => pure ()
  return UInt32.ofNat ending.exitCode
