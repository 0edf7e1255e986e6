import DocAccess.Code.Ident
import DocAccess.Generate.Assembly
import DocAccess.Generate.Fault

/-!
# Identifiers of an accessor

Every identifier of the accessor of a model is made before any code is.
-/

namespace DocAccess.Emission

open DocAccess.Code DocAccess.Generate DocAccess.Operations

/-- The identifier that a text spells. -/
def identOf (text : String) : Outcome Ident :=
  match Ident.ofText? text with
  | some i => .ok i
  | none => .error (.notIdentifier text)

/-- The identifier of a parameter: a keyword is made raw, or gets an underscore where it cannot be
raw. -/
def paramIdent (name : String) : Outcome Ident :=
  if Source.isIdentifier name then identOf name
  else if Source.neverRaw.contains name then identOf (name ++ "_")
  else
    match Ident.rawOfName? name with
    | some i => .ok i
    | none => .error (.notIdentifier name)

/-- A model with the identifiers of its accessor. -/
structure Names where
  set : OperationSet
  /-- The name of the module of the item type and of the field of the client. -/
  field : Ident
  /-- The item type. -/
  entity : Ident
  accessor : Ident
  /-- The parameter for the partition key; the identifier if that is the key. -/
  keyParam : Ident
  /-- The method that reads by key. -/
  byKey : Ident

/-- The identifier of the parameter for a key. -/
def keyIdent (key : Partition.Key) : Outcome Ident :=
  if key.isIdentity then .ok (.ofWord "id") else paramIdent key.snakeName

/-- The identifiers of the accessor of a model. -/
def Names.ofSet (set : OperationSet) : Outcome Names := do
  let keyParam ← keyIdent set.key
  let field ← identOf set.model.name
  let entity ← identOf set.model.typeName
  let accessor ← identOf (accessorName set.model.typeName)
  let byKey ← identOf ("read_all_by_" ++ set.key.snakeName)
  return ⟨set, field, entity, accessor, keyParam, byKey⟩

end DocAccess.Emission
