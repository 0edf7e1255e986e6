import DocAccess.Generate.Error
import DocAccess.Model.Spec
import DocAccess.Source.Items

/-!
# Model files

A model file declares its partition key as a constant and defines the type of its items.  Nothing
but its top-level items matters.
-/

namespace DocAccess.Model

open DocAccess.Generate DocAccess.Source

/-- The name of the constant that holds the path of the partition key. -/
def keyConstant : String := "PARTITION_KEY"

/-- The value of the first constant that declares a partition key; the value is absent where it is
no string literal. -/
def declaredKey? : List Item → Option (Option String)
  | [] => none
  | .constant name value :: rest => if name = keyConstant then some value else declaredKey? rest
  | _ :: rest => declaredKey? rest

/-- Whether items define a public type of a name. -/
def definesType (typeName : String) (items : List Item) : Bool :=
  items.any (· == .type typeName true)

/-- The model that the text of a file declares. -/
def Spec.ofText? (name text : String) : Except GenerateError Spec :=
  match items? text with
  | none => .error (.parseModel name)
  | some items =>
      match declaredKey? items with
      | none => .error (.missingKey name)
      | some none => .error (.keyNotLiteral name)
      | some (some path) =>
          let spec := Spec.ofName name path
          if definesType spec.typeName items then .ok spec
          else .error (.missingType name spec.typeName)

end DocAccess.Model
