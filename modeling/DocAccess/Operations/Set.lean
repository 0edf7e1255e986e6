import DocAccess.Model.Spec
import DocAccess.Partition.Key

/-!
# Operations on the items of a model

The operations that a generated accessor offers, without their spelling.  A key that is the
identifier itself is no parameter of its own, and such a model has no reading by key.
-/

namespace DocAccess.Operations

open DocAccess.Model DocAccess.Partition

/-- What an operation does. -/
inductive Kind where
  | create
  | read
  /-- Reading that fails on a missing item. -/
  | readOrThrow
  | readAll
  | readAllByKey
  | replace
  | delete
  | query
  deriving DecidableEq, Repr

/-- Every kind in the order in which operations are generated. -/
def Kind.all : List Kind :=
  [.create, .read, .readOrThrow, .readAll, .readAllByKey, .replace, .delete, .query]

/-- A parameter of an operation. -/
inductive Param where
  | id
  | partitionKey
  | body
  | options
  | filter
  | parameters
  deriving DecidableEq, Repr

/-- What an operation gives. -/
inductive Returns where
  | entity
  | optionalEntity
  | entities
  | documents
  | unit
  deriving DecidableEq, Repr

/-- Whether an operation waits for its result or gives it piece by piece. -/
inductive Execution where
  | async
  | lazy
  deriving DecidableEq, Repr

/-- One operation. -/
structure Operation where
  kind : Kind
  name : String
  params : List Param
  returns : Returns
  execution : Execution
  /-- Whether the operation itself fails on a missing item. -/
  raisesNotFound : Bool
  deriving DecidableEq, Repr

/-- The operations of one model. -/
structure OperationSet where
  model : Spec
  key : Key
  container : String
  operations : List Operation
  deriving DecidableEq, Repr

/-- Whether items are read by key: the key is not the identifier. -/
def emitsReadAllByKey (key : Key) : Bool := !key.isIdentity

/-- The parameters that address an item. -/
def addressing (key : Key) : List Param := if key.isIdentity then [.id] else [.id, .partitionKey]

/-- The parameters of an operation on one item. -/
def addressed (key : Key) (extra : List Param) : List Param := addressing key ++ extra ++ [.options]

/-- The name of an operation. -/
def Kind.operationName (key : Key) : Kind → String
  | create => "create"
  | read => "read"
  | readOrThrow => "readOrThrow"
  | readAll => "readAll"
  | readAllByKey => "readAllBy" ++ Text.capitalize key.paramName
  | replace => "replace"
  | delete => "delete"
  | query => "query"

/-- The parameters of an operation in the order of a call. -/
def Kind.params (key : Key) : Kind → List Param
  | create => [.body, .options]
  | read | readOrThrow | delete => addressed key []
  | readAll => [.options]
  | readAllByKey => [.partitionKey, .options]
  | replace => addressed key [.body]
  | query => [.filter, .parameters]

/-- What an operation gives. -/
def Kind.returns : Kind → Returns
  | create | readOrThrow | replace => .entity
  | read => .optionalEntity
  | readAll | readAllByKey => .entities
  | delete => .unit
  | query => .documents

/-- How an operation runs. -/
def Kind.execution : Kind → Execution
  | readAll | readAllByKey | query => .lazy
  | _ => .async

/-- The operation of a kind. -/
def Operation.ofKind (key : Key) (kind : Kind) : Operation :=
  ⟨kind, kind.operationName key, kind.params key, kind.returns, kind.execution,
    kind == .readOrThrow⟩

/-- The kinds of operations that a key allows. -/
def kindsFor (key : Key) : List Kind :=
  Kind.all.filter fun kind => kind != .readAllByKey || emitsReadAllByKey key

namespace OperationSet

/-- The operations of a model with a key. -/
def synthesize (model : Spec) (key : Key) : OperationSet :=
  ⟨model, key, model.container, (kindsFor key).map (Operation.ofKind key)⟩

/-- The operation of a kind, if there is one. -/
def get? (s : OperationSet) (kind : Kind) : Option Operation :=
  s.operations.find? (·.kind == kind)

end OperationSet

end DocAccess.Operations
