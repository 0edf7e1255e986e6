import DocAccess.Document.Value
import DocAccess.Text.Quoted

/-!
# Shapes of documents

A shape says which documents stand for a value of a type.  Reading a document in a shape keeps the
fields that the shape names, fills in what may be missing, and otherwise names the first fault: a
field of the wrong kind in the order of the document, else a missing field in the order of the
shape.  An array stands for a record with its fields in order.
-/

namespace DocAccess.Document

/-- What is wrong with a document. -/
inductive ShapeFault where
  /-- A part of another kind than expected. -/
  | wrongKind (found expected : String)
  | missing (field : String)
  /-- An array of the wrong length. -/
  | length (found : Nat) (expected : String)
  deriving DecidableEq, Repr

/-- The wording of a fault. -/
def ShapeFault.message : ShapeFault → String
  | wrongKind found expected => s!"invalid type: {found}, expected {expected}"
  | missing field => s!"missing field `{field}`"
  | length found expected => s!"invalid length {found}, expected {expected}"

/-- How a fault names a part of a document. -/
def Value.kindText : Value → String
  | .null => "null"
  | .bool true => "boolean `true`"
  | .bool false => "boolean `false`"
  | .number (.integer n) => s!"integer `{n}`"
  | .number (.double d) => "floating point `" ++ String.ofList d.plainText ++ "`"
  | .string text => "string " ++ Text.quoted text
  | .array _ => "sequence"
  | .object _ => "map"

/-- A shape. -/
inductive Shape where
  | anything
  | text
  | flag
  | list (item : Shape)
  /-- An object all of whose fields have one shape. -/
  | table (item : Shape)
  /-- An object with named fields; a field with a default may be missing. -/
  | record (name : String) (fields : List (String × Shape × Option Value))

namespace Shape

/-- The wording of a number of elements. -/
def elements (n : Nat) : String := if n = 1 then "1 element" else s!"{n} elements"

/-- Adds the fields that were not found: their defaults, or a fault. -/
def complete (found : Fields) :
    List (String × Shape × Option Value) → Except ShapeFault Fields
  | [] => .ok found
  | (key, _, default) :: rest => do
      match found.get? key, default with
      | some _, _ => complete found rest
      | none, some value => return (← complete found rest).insert key value
      | none, none => .error (.missing key)

/-- Reads the fields that a reader is known for; the others are dropped. -/
def readFields (reader? : String → Option (Value → Except ShapeFault Value)) :
    Fields → Except ShapeFault Fields
  | [] => .ok []
  | (key, value) :: rest => do
      match reader? key with
      | some read => do
          let first ← read value
          return (key, first) :: (← readFields reader? rest)
      | none => readFields reader? rest

mutual

/-- Reads a document in a shape. -/
def read? : Shape → Value → Except ShapeFault Value
  | .anything, value => .ok value
  | .text, value =>
      match value with
      | .string _ => .ok value
      | _ => .error (.wrongKind value.kindText "a string")
  | .flag, value =>
      match value with
      | .bool _ => .ok value
      | _ => .error (.wrongKind value.kindText "a boolean")
  | .list item, value =>
      match value with
      | .array values => do return .array (← values.mapM (read? item))
      | _ => .error (.wrongKind value.kindText "a sequence")
  | .table item, value =>
      match value with
      | .object fields => do return .object (← readFields (fun _ => some (read? item)) fields)
      | _ => .error (.wrongKind value.kindText "a map")
  | .record name shapes, value =>
      match value with
      | .object fields => do
          return .object (← complete (← readFields (reader? shapes) fields) shapes)
      -- a record may also be given by its fields in order
      | .array values => do
          let expected := s!"struct {name} with " ++ elements shapes.length
          let (found, rest) ← readSequence expected 0 shapes values
          if rest.isEmpty then return .object found
          else .error (.length values.length "fewer elements in array")
      | _ => .error (.wrongKind value.kindText s!"struct {name}")

/-- The reader of a named field. -/
def reader? : List (String × Shape × Option Value) → String → Option (Value → Except ShapeFault Value)
  | [], _ => none
  | (key, shape, _) :: rest, name => if key = name then some (read? shape) else reader? rest name

/-- Reads the fields of a record from the items of an array; gives the items left over. -/
def readSequence (expected : String) (index : Nat) :
    List (String × Shape × Option Value) → List Value → Except ShapeFault (Fields × List Value)
  | [], values => .ok ([], values)
  | (key, shape, default) :: shapes, values => do
      match values, default with
      | value :: values, _ =>
          let first ← read? shape value
          let (found, rest) ← readSequence expected (index + 1) shapes values
          return (found.insert key first, rest)
      | [], some value =>
          let (found, rest) ← readSequence expected (index + 1) shapes []
          return (found.insert key value, rest)
      | [], none => .error (.length index expected)

end

end Shape

end DocAccess.Document
