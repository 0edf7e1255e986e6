import DocAccess.Code.Import
import DocAccess.Code.Printer
import DocAccess.Code.Validity
import DocAccess.Emission.Method
import DocAccess.Generate.Header

/-!
# Generated modules

A module imports the runtime and the item types, and declares an accessor for each model, the table
of containers, the client with one field for each model, the function that makes a client, and
perhaps another name of the client.
-/

namespace DocAccess.Emission

open DocAccess.Code DocAccess.Generate

/-! ### Accessors -/

namespace Names

variable (n : Names)

/-- Text that lives as long as the program. -/
def staticText : Ty := .reference true (.ofWord "str" [])

/-- The constants and methods that every accessor has. -/
def fixedMembers : List Member :=
  [.constant ⟨[" Container name."], .ofWord "CONTAINER", staticText, .literal n.set.container⟩,
    .constant ⟨[" Partition key path."], .ofWord "PARTITION_KEY", staticText,
      .literal n.set.key.path⟩,
    .function
      { docs := [" Accessor over an acquired container handle."]
        isAsync := false
        name := .ofWord "new"
        takesSelf := false
        params := [(.ofWord "container", .ofWord "Container" [])]
        returns := .ofWord "Self" []
        body := [.give (.record [(.ofWord "container", none)])] },
    .function
      { docs := [" Underlying container handle."]
        isAsync := false
        name := .ofWord "container"
        takesSelf := true
        params := []
        returns := .reference false (.ofWord "Container" [])
        body := [.give (.reference container)] }]

/-- The members of an accessor. -/
def members : List Member := n.fixedMembers ++ n.set.operations.map (.function ∘ n.method)

/-- The documentation of an accessor. -/
def accessorDocs : List String :=
  [s!" Typed operations on the `{n.set.container}` container of `{n.entity.text}` items.", "",
    s!" Partition key path: `{n.set.key.path}`."]

/-- The accessor of a model. -/
def accessorItems : List Item :=
  [.structure n.accessorDocs n.accessor
      [⟨[], false, .ofWord "container", .ofWord "Container" []⟩],
    .members n.accessor n.members]

/-- The row of a model in the table of containers. -/
def containerRow : Expr :=
  .call (.ofWords ["ContainerDefinition", "new"])
    [.literal n.set.container, .literal n.set.key.path]

/-- The field of a model in the client. -/
def clientField : Field :=
  ⟨[s!" `{n.entity.text}` operations."], true, n.field, .ofIdent n.accessor⟩

/-- The value of that field in a new client. -/
def clientValue : Ident × Option Expr :=
  let handle := Expr.method (.ofWord "database") (.ofWord "container") none
    [.path [n.accessor, .ofWord "CONTAINER"] none]
  (n.field, some (.call (.path [n.accessor, .ofWord "new"] none) [handle]))

end Names

/-! ### The client -/

/-- The names of the client. -/
structure ClientNames where
  type : Ident
  factory : Ident
  /-- Another name of the type. -/
  otherName : Option Ident

/-- The identifiers of the client. -/
def ClientNames.ofModule (m : ModuleDef) : Outcome ClientNames := do
  let type ← identOf m.clientType
  let factory ← identOf m.factoryName
  match m.typeAlias with
  | some name => return ⟨type, factory, some (← identOf name)⟩
  | none => return ⟨type, factory, none⟩

/-- A parameter that borrows the database. -/
def databaseParam (name : String) : Ident × Ty :=
  (.ofWord name, .reference false (.ofWord "Database" []))

/-- The table of containers. -/
def containerTable (models : List Names) : Constant where
  docs := [" Every container with its partition key path, in model order."]
  name := .ofWord "CONTAINERS"
  type := .reference false (.slice (.ofWord "ContainerDefinition" []))
  value := .reference (.array (models.map Names.containerRow))

/-- The function that acquires every container. -/
def clientNew (models : List Names) : Function where
  docs := [" Acquire every container from `database`."]
  isAsync := false
  name := .ofWord "new"
  takesSelf := false
  params := [databaseParam (if models.isEmpty then "_database" else "database")]
  returns := .ofWord "Self" []
  body := [.give (.record (models.map Names.clientValue))]

/-- The function that makes a client. -/
def factory (c : ClientNames) : Function where
  docs := [" Build the client. Container handles are acquired once here."]
  isAsync := false
  name := c.factory
  takesSelf := false
  params := [databaseParam "database"]
  returns := .ofIdent c.type
  body := [.give (.call (.path [c.type, .ofWord "new"] none) [.ofWord "database"])]

/-- Another name of the client. -/
def aliasItems (c : ClientNames) : List Item :=
  match c.otherName with
  | some name => [.renaming [" Alias for the generated client."] name (.ofIdent c.type)]
  | none => []

/-- The table of containers, the client and what makes it. -/
def clientItems (c : ClientNames) (models : List Names) : List Item :=
  [.constant (containerTable models),
    .structure [" One accessor per model."] c.type (models.map Names.clientField),
    .members c.type [.function (clientNew models)],
    .function (factory c)] ++ aliasItems c

/-! ### The module -/

/-- The names that a module imports from the runtime. -/
def runtimeNames : List String :=
  ["Container", "ContainerDefinition", "Database", "JsonValue", "QueryIter", "RequestOptions",
    "SqlParameter", "SqlQuery", "StoreError", "from_resource"]

/-- The names that a module without models imports from the runtime. -/
def fewRuntimeNames : List String := ["ContainerDefinition", "Database"]

/-- The items of a module. -/
def moduleItems (runtime : ImportPath) (typePath : ImportPath) (c : ClientNames)
    (models : List Names) : Module :=
  let names := if models.isEmpty then fewRuntimeNames else runtimeNames
  let typeImport (n : Names) : Item :=
    .importOne ⟨typePath.rooted, typePath.words ++ [n.field]⟩ n.entity
  .importMany runtime (names.map .ofWord) :: (models.map typeImport
    ++ models.flatMap Names.accessorItems ++ clientItems c models)

/-- A path that a module may import from; the path of item types does not matter without models. -/
def importPathOf (needed : Bool) (path : String) : Outcome ImportPath :=
  match ImportPath.ofText? path with
  | some p => .ok p
  | none => if needed then .error (.error .render) else .ok ⟨false, []⟩

/-- The identifiers of the accessors of models. -/
def namesOf : List Operations.OperationSet → Outcome (List Names)
  | [] => .ok []
  | set :: sets => do
      let names ← Names.ofSet set
      return names :: (← namesOf sets)

/-- The code of a module.  Both paths are read first, then every identifier is made, and at last
the whole module must be valid. -/
def codeOf (m : ModuleDef) : Outcome Module := do
  if !Source.isPath m.runtimeCrate || !Source.isPath m.modelsModule then
    throw (.error .render)
  let models ← namesOf m.models
  let client ← ClientNames.ofModule m
  let runtime ← importPathOf true m.runtimeCrate
  let typePath ← importPathOf (!models.isEmpty) m.modelsModule
  let code := moduleItems runtime typePath client models
  if code.isValid then return code else throw (.error .render)

/-- The text of a module. -/
def sourceOf (m : ModuleDef) : Outcome String := do
  let code ← codeOf m
  return header m.models.length ++ "\n" ++ code.text

end DocAccess.Emission
