import DocAccess.Text.Name

/-!
# Paths of files

A path is text: steps with slashes between them.  Empty steps and single dots mean nothing, and two
dots lead back from a directory.
-/

namespace DocAccess.Files

/-- Whether a path starts at the root of all files. -/
def isAbsolute (path : String) : Bool := path.toList.head? == some '/'

/-- A path below another one; an absolute path stays as it is. -/
def join (base path : String) : String :=
  if isAbsolute path then path
  else if base.isEmpty || base.toList.getLast? == some '/' then base ++ path
  else base ++ "/" ++ path

/-- The steps of a path. -/
def steps (path : String) : List String := (Text.segments path).filter (· != ".")

/-- Whether a path can only lead to a directory. -/
def namesDirectory (path : String) : Bool :=
  match (Text.splitOn '/' path.toList).getLast? with
  | some last => last.isEmpty || last == ['.'] || last == ['.', '.']
  | none => true

/-- The parts of a file name before and behind its last dot; a name that starts with its only dot
has one part. -/
def splitName (name : String) : String × Option String :=
  let reversed := name.toList.reverse
  let behind := reversed.takeWhile (· != '.')
  match reversed.dropWhile (· != '.') with
  | [] | ['.'] => (name, none)
  | _ :: before => (String.ofList before.reverse, some (String.ofList behind.reverse))

end DocAccess.Files
