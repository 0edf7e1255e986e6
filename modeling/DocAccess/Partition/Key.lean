import DocAccess.Text.Name

/-!
# Partition keys

A partition key is the path from a document to the field whose value names its partition.  What a
generated accessor needs to know about it is derived from the text of the path alone.
-/

namespace DocAccess.Partition

open DocAccess.Text

/-- Why a path is no partition key. -/
inductive KeyError where
  /-- The path has no segments. -/
  | empty
  /-- A segment cannot name a field. -/
  | invalidSegment (segment : String)
  deriving DecidableEq, Repr

/-- The wording of an error. -/
def KeyError.message : KeyError → String
  | empty => "partition key path has no segments"
  | invalidSegment segment => s!"partition key segment `{segment}` is not an identifier"

/-- A partition key. -/
structure Key where
  /-- The field names from the document to the key. -/
  chain : List String
  deriving DecidableEq, Repr

namespace Key

/-- Reads a path of field names with slashes around them; empty segments are dropped. -/
def derive? (path : String) : Except KeyError Key :=
  match segments path with
  | [] => .error .empty
  | chain =>
      match chain.find? (!isPlainName ·) with
      | some segment => .error (.invalidSegment segment)
      | none => .ok ⟨chain⟩

/-- The name of the key as a parameter: the segments, from the second on with a capital. -/
def paramName (key : Key) : String :=
  match key.chain with
  | [] => ""
  | first :: rest => first ++ String.join (rest.map capitalize)

/-- Whether the key of a document is its identifier. -/
def isIdentity (key : Key) : Bool := key.paramName == "id"

/-- The path in a query whose documents are called `c`. -/
def fieldPath (key : Key) : String := "c." ++ ".".intercalate key.chain

/-- The name of the query parameter for the key. -/
def queryParameter (key : Key) : String := "@" ++ key.paramName

/-- The name of the key in generated code. -/
def snakeName (key : Key) : String := snakeCase key.paramName

/-- The path in its canonical form. -/
def path (key : Key) : String := "/" ++ "/".intercalate key.chain

/-- The query for the documents of one partition. -/
def partitionQuery (key : Key) : String :=
  s!"SELECT * FROM c WHERE {key.fieldPath} = {key.queryParameter}"

end Key

end DocAccess.Partition
