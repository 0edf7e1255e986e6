import DocAccess.Code.Item
import DocAccess.Emission.Names

/-!
# Methods of an accessor

The signature of a method follows from its operation; its body and documentation follow from the
kind of operation.  Values that a query compares with are bound to it and never part of its text.
-/

namespace DocAccess.Emission

open DocAccess.Code DocAccess.Operations

namespace Names

variable (n : Names)

/-! ### Signatures -/

/-- The type of items. -/
def entityType : Ty := .ofIdent n.entity

/-- The name of the method for a kind of operation. -/
def methodName : Kind → Ident
  | .create => .ofWord "create"
  | .read => .ofWord "read"
  | .readOrThrow => .ofWord "read_or_err"
  | .readAll => .ofWord "read_all"
  | .readAllByKey => n.byKey
  | .replace => .ofWord "replace"
  | .delete => .ofWord "delete"
  | .query => .ofWord "query"

/-- Borrowed text. -/
def borrowedText : Ty := .reference false (.ofWord "str" [])

/-- A parameter with its type. -/
def param : Param → Ident × Ty
  | .id => (.ofWord "id", borrowedText)
  | .partitionKey => (n.keyParam, borrowedText)
  | .body => (.ofWord "body", .reference false n.entityType)
  | .options =>
      (.ofWord "options", .ofWord "Option" [.reference false (.ofWord "RequestOptions" [])])
  | .filter => (.ofWord "filter", borrowedText)
  | .parameters => (.ofWord "parameters", .iterable (.ofWord "SqlParameter" []))

/-- A result that may be an error of the store. -/
def fallible (type : Ty) : Ty := .ofWord "Result" [type, .ofWord "StoreError" []]

/-- The type of what an operation gives. -/
def returns : Returns → Ty
  | .entity => fallible n.entityType
  | .optionalEntity => fallible (.ofWord "Option" [n.entityType])
  | .entities => .ofWord "QueryIter" [n.entityType]
  | .documents => .ofWord "QueryIter" [.ofWord "JsonValue" []]
  | .unit => fallible .unit

/-! ### Bodies -/

/-- The container of the accessor. -/
def container : Expr := .field (.ofWord "self") (.ofWord "container")

/-- A call of a method of the container. -/
def onContainer (method : String) (arg : Option Ty) (args : List Expr) : Expr :=
  .method container (.ofWord method) arg args

/-- The partition key as an argument. -/
def keyArg : Expr := .var n.keyParam

/-- Reads a stored document as an item. -/
def fromResource : Expr := .path [.ofWord "from_resource"] (some n.entityType)

/-- Binds what the store answers and reads it as an item. -/
def storing (call : Expr) : List Stmt :=
  [.bind (.ofWord "resource") (.check (.await call)),
    .give (.call n.fromResource [.ofWord "resource"])]

/-- Binds a query and runs it. -/
def querying (item : Ty) (query options : Expr) : List Stmt :=
  [.bind (.ofWord "query") query,
    .give (onContainer "query" (some item) [.ofWord "query", options])]

/-- Reads an item or nothing. -/
def readBody : Expr :=
  let found := Expr.check (.await (onContainer "read_item" none
    [.ofWord "id", n.keyArg, .ofWord "options"]))
  .method (.method found (.ofWord "map") none [n.fromResource]) (.ofWord "transpose") none []

/-- The arguments of the method that reads. -/
def readArgs : List Expr :=
  [.ofWord "id"] ++ (if n.set.key.isIdentity then [] else [n.keyArg]) ++ [.ofWord "options"]

/-- Reads an item or fails. -/
def readOrErrBody : Expr :=
  let found := Expr.check (.await (.method (.ofWord "self") (.ofWord "read") none n.readArgs))
  let missing := Expr.call (.ofWords ["StoreError", "not_found"])
    [.ofWords ["Self", "CONTAINER"], .ofWord "id"]
  .method found (.ofWord "ok_or_else") none [.closure missing]

/-- The query for the items of one partition. -/
def partitionQuery : Expr :=
  .method (.call (.ofWords ["SqlQuery", "new"]) [.literal n.set.key.partitionQuery])
    (.ofWord "with_parameter") none [.literal n.set.key.queryParameter, n.keyArg]

/-- The query for the documents that a filter admits. -/
def filterQuery : Expr :=
  .method (.call (.ofWords ["SqlQuery", "select_all"]) [.ofWord "filter"])
    (.ofWord "with_parameters") none [.ofWord "parameters"]

/-- The body of the method for a kind of operation. -/
def body : Kind → List Stmt
  | .create => n.storing (onContainer "create_item" none [.ofWord "body", .ofWord "options"])
  | .read => [.give n.readBody]
  | .readOrThrow => [.give n.readOrErrBody]
  | .readAll => [.give (onContainer "read_all" (some n.entityType) [.ofWord "options"])]
  | .readAllByKey => querying n.entityType n.partitionQuery (.ofWord "options")
  | .replace =>
      n.storing (onContainer "replace_item" none
        [.ofWord "id", n.keyArg, .ofWord "body", .ofWord "options"])
  | .delete =>
      [.give (.await (onContainer "delete_item" none
        [.ofWord "id", n.keyArg, .ofWord "options"]))]
  | .query => querying (.ofWord "JsonValue" []) filterQuery (.ofWords ["None"])

/-! ### Documentation -/

/-- The documentation of the method for a kind of operation. -/
def docs (kind : Kind) : List String :=
  let entity := n.entity.text
  match kind with
  | .create =>
      [s!" Create a `{entity}` in the `{n.set.container}` container.", "",
        " An absent or empty `id` is replaced with a generated one."]
  | .read => [s!" Read one `{entity}`, or `None` if it does not exist."]
  | .readOrThrow =>
      [s!" Read one `{entity}`.", "",
        " Fails with `StoreError::NotFound` if the item does not exist."]
  | .readAll => [s!" Lazily iterate every `{entity}` in the container."]
  | .readAllByKey =>
      [s!" Lazily iterate every `{entity}` in one `{n.set.key.path}` partition."]
  | .replace => [s!" Overwrite one `{entity}`."]
  | .delete => [s!" Delete one `{entity}`."]
  | .query =>
      [" Untyped query over `SELECT * FROM c <filter>`.", "",
        " Runs across every partition and returns raw documents. Bind values",
        " through `parameters` rather than splicing them into `filter`."]

/-- The method of an operation. -/
def method (o : Operation) : Function where
  docs := n.docs o.kind
  isAsync := o.execution == .async
  name := n.methodName o.kind
  takesSelf := true
  params := o.params.map n.param
  returns := n.returns o.returns
  body := n.body o.kind

end Names

end DocAccess.Emission
