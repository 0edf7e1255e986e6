import DocAccess.Container.Feed
import DocAccess.Partition.Key

/-!
# Typed accessors

An accessor joins a container with the type of its items and its partition key.  Its operations are
those of generated code: they read and write items, strip what the store adds, and address an item
by its identifier alone when that is its partition.
-/

namespace DocAccess.Accessors

open DocAccess.Container DocAccess.Document DocAccess.Partition DocAccess.Query DocAccess.Store

/-- How items of a type are read from documents and written to them. -/
structure Entity (α : Type) where
  decode : Decoder α
  encode : α → Value

/-- Documents themselves as items. -/
def Entity.document : Entity Value := ⟨.ok, id⟩

/-- Access to the items of one container. -/
structure Accessor (σ α : Type) where
  handle : Handle σ
  key : Key
  entity : Entity α

namespace Accessor

variable {σ α : Type}

/-- The address of an item: the partition is the identifier for an identity key. -/
def address (x : Accessor σ α) (id partition : String) : Address :=
  ⟨if x.key.isIdentity then id else partition, id⟩

/-- Adds an item; `fresh` is its identifier if it brings none. -/
def create (x : Accessor σ α) (fresh : String) (item : α) (o : Options) : Run σ α := do
  let resource ← x.handle.create fresh (x.entity.encode item) o
  fromResource x.entity.decode resource

/-- The item of an identifier, or nothing if it is missing. -/
def read? (x : Accessor σ α) (id partition : String) (o : Options) : Run σ (Option α) := do
  match ← x.handle.read? (x.address id partition) o with
  | some resource => return some (← fromResource x.entity.decode resource)
  | none => return none

/-- The item of an identifier; a missing one is an error. -/
def read (x : Accessor σ α) (id partition : String) (o : Options) : Run σ α := do
  match ← x.read? id partition o with
  | some item => return item
  | none => throw (.notFound x.handle.name id)

/-- Replaces an item. -/
def replace (x : Accessor σ α) (id partition : String) (item : α) (o : Options) : Run σ α := do
  let resource ← x.handle.replace (x.address id partition) (x.entity.encode item) o
  fromResource x.entity.decode resource

/-- Removes an item. -/
def delete (x : Accessor σ α) (id partition : String) (o : Options) : Run σ Unit :=
  x.handle.delete (x.address id partition) o

/-- The feed of every item. -/
def readAll (x : Accessor σ α) (o : Options) : Feed := x.handle.readAll o

/-- The query for the items of one partition. -/
def partitionQuery (key : Key) (partition : String) : Prepared :=
  (Prepared.ofText key.partitionQuery).bind key.queryParameter (.string partition)

/-- The feed of the items of one partition. -/
def readPartition (x : Accessor σ α) (partition : String) (o : Options) : Feed :=
  x.handle.query (partitionQuery x.key partition) o

/-- The feed of the documents for which a clause holds. -/
def query (x : Accessor σ α) (clause : String) (parameters : List Parameter) : Feed :=
  x.handle.query { Prepared.selectAll clause with parameters := parameters } Options.none

end Accessor

end DocAccess.Accessors
