import DocAccess.Files.Access

/-!
# Trees of files

A tree holds all files and directories by their locations, and knows the working directory.  An
absolute path starts at the top, any other one at the working directory, and an empty one nowhere.
A path is followed step by step: every step but the last must be a directory that exists, also in
front of two dots, which do not lead out of the top.
-/

namespace DocAccess.Files

/-- What is at a location. -/
inductive Entry where
  | directory
  | file (bytes : ByteArray)

/-- Whether an entry is a directory. -/
def Entry.isDirectory : Entry → Bool
  | directory => true
  | file _ => false

/-- What stands behind the path to an entry: a slash behind one to a directory. -/
def Entry.mark (e : Entry) : String := if e.isDirectory then "/" else ""

/-- The names from the top of a tree down to an entry. -/
abbrev Location := List String

/-- Files and directories by their locations. -/
structure Tree where
  entries : List (Location × Entry)
  /-- The steps from the top to the working directory. -/
  workdir : Location := []

/-- Where a path leads. -/
inductive Found where
  | entry (location : Location) (entry : Entry)
  | missing
  /-- A file stands where a directory is needed. -/
  | blocked

/-- The location of a directory that a path leads to. -/
def Found.directory? : Found → Option Location
  | entry location .directory => some location
  | _ => none

namespace Tree

/-- A tree without any files. -/
def empty : Tree := { entries := [] }

/-! ### Locations -/

/-- What is at a location; the top is a directory. -/
def get? (t : Tree) (location : Location) : Option Entry :=
  if location.isEmpty then some .directory else t.entries.lookup location

/-- Puts an entry at a location, in place of the one there. -/
def insert (t : Tree) (location : Location) (entry : Entry) : Tree :=
  { t with entries := (location, entry) :: t.entries.filter (·.1 != location) }

/-- Takes out the entry at a location alone. -/
def erase (t : Tree) (location : Location) : Tree :=
  { t with entries := t.entries.filter (·.1 != location) }

/-- Takes out what is at a location or below it. -/
def remove (t : Tree) (location : Location) : Tree :=
  { t with entries := t.entries.filter fun e => !location.isPrefixOf e.1 }

/-- The names of the files in a directory. -/
def fileNames (t : Tree) (location : Location) : List String :=
  t.entries.filterMap fun (l, entry) =>
    match entry with
    | .file _ => if l.dropLast == location then l.getLast? else none
    | .directory => none

/-- The paths to all entries, those to directories with a slash at the end. -/
def paths (t : Tree) : List String :=
  let path (e : Location × Entry) : String := "/".intercalate e.1 ++ e.2.mark
  (t.entries.map path).mergeSort fun a b => decide (a ≤ b)

/-! ### Paths -/

/-- Where steps lead from a location. -/
def follow (t : Tree) (location : Location) : List String → Found
  | [] =>
      match t.get? location with
      | some entry => .entry location entry
      | none => .missing
  | step :: rest =>
      match t.get? location with
      | some .directory =>
          t.follow (if step = ".." then location.dropLast else location ++ [step]) rest
      | some (.file _) => .blocked
      | none => .missing

/-- The directory that a path starts from, if it is there. -/
def start? (t : Tree) (path : String) : Option Location :=
  if path.isEmpty then none
  else if isAbsolute path then some []
  else (t.follow [] t.workdir).directory?

/-- Where a path leads. -/
def find (t : Tree) (path : String) : Found :=
  match t.start? path with
  | none => .missing
  | some start =>
      match t.follow start (steps path) with
      | .entry location (.file bytes) =>
          if namesDirectory path then .blocked else .entry location (.file bytes)
      | found => found

/-- Makes the directories along steps from a directory, given which cannot be made; gives the last
one, or `none` where a file is in the way. -/
def makeDirectoriesBut (refused : Location → Bool) (t : Tree) (location : Location) :
    List String → Option Location × Tree
  | [] => (some location, t)
  | step :: rest =>
      -- a step up does not leave the top
      if step = ".." then t.makeDirectoriesBut refused location.dropLast rest
      else
        let next := location ++ [step]
        match t.get? next with
        | some .directory => t.makeDirectoriesBut refused next rest
        | some (.file _) => (none, t)
        | none =>
            if refused next then (none, t)
            else (t.insert next .directory).makeDirectoriesBut refused next rest

/-- Makes the directories along steps from a directory. -/
def makeDirectories (t : Tree) (location : Location) (path : List String) :
    Option Location × Tree :=
  t.makeDirectoriesBut (fun _ => false) location path

/-! ### Contents -/

/-- The names of the files in the directory that a path leads to. -/
def list (t : Tree) (path : String) : Option (List String) :=
  (t.find path).directory?.map t.fileNames

/-- Reads the file that a path leads to. -/
def read (t : Tree) (path : String) : Reading :=
  match t.find path with
  | .entry _ (.file bytes) => .contents bytes
  | .missing => .missing
  | _ => .failed

/-- Writes a file; the directories above it stay also where that fails. -/
def write (t : Tree) (path : String) (bytes : ByteArray) : Bool × Tree :=
  match t.start? path, (steps path).getLast? with
  | some start, some name =>
      match t.makeDirectories start (steps path).dropLast with
      | (none, t) => (false, t)
      | (some location, t) =>
          let target := location ++ [name]
          if namesDirectory path || (t.get? target).any (·.isDirectory) then (false, t)
          else (true, t.insert target (.file bytes))
  | _, _ => (false, t)

end Tree

end DocAccess.Files
