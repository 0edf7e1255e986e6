import DocAccess.Document.Writer
import DocAccess.Store.Error
import DocAccess.Store.Table
import DocAccess.Text.Name
import DocAccess.Text.Quoted

/-!
# A partitioned store of documents

The store keeps documents by container, partition and identifier.  Every accepted write stamps the
document with its number, its place, a fresh tag and a time; the tag and the time are given by the
caller, who draws them.
-/

namespace DocAccess.Store

open DocAccess.Document

/-- Where a document lies in its container. -/
structure Address where
  partition : String
  id : String
  deriving DecidableEq, Repr

namespace Address

/-- Addresses are ordered by partition first. -/
instance : LT Address where
  lt a b := a.partition < b.partition ∨ (a.partition = b.partition ∧ a.id < b.id)

instance : DecidableLT Address := fun a b =>
  inferInstanceAs
    (Decidable (a.partition < b.partition ∨ (a.partition = b.partition ∧ a.id < b.id)))

instance : LE Address where
  le a b := ¬ b < a

theorem lt_irrefl (a : Address) : ¬ a < a := by
  rintro (hpartition | ⟨-, hid⟩)
  · exact String.lt_irrefl _ hpartition
  · exact String.lt_irrefl _ hid

theorem lt_trans {a b c : Address} (hab : a < b) (hbc : b < c) : a < c := by
  rcases hab with hab | ⟨hab, hid⟩
  · rcases hbc with hbc | ⟨hbc, -⟩
    · exact Or.inl (String.lt_trans hab hbc)
    · exact Or.inl (hbc ▸ hab)
  · rcases hbc with hbc | ⟨hbc, hid'⟩
    · exact Or.inl (hab ▸ hbc)
    · exact Or.inr ⟨hab.trans hbc, String.lt_trans hid hid'⟩

theorem lt_trichotomy (a b : Address) : a < b ∨ a = b ∨ b < a := by
  obtain ⟨p, i⟩ := a
  obtain ⟨q, j⟩ := b
  rcases Std.lt_trichotomy p q with hpq | rfl | hpq
  · exact Or.inl (Or.inl hpq)
  · rcases Std.lt_trichotomy i j with hij | rfl | hij
    · exact Or.inl (Or.inr ⟨rfl, hij⟩)
    · exact Or.inr (Or.inl rfl)
    · exact Or.inr (Or.inr (Or.inr ⟨rfl, hij⟩))
  · exact Or.inr (Or.inr (Or.inl hpq))

instance : Std.IsLinearOrder Address where
  le_refl := lt_irrefl
  le_trans a b c hab hbc hca := by
    rcases lt_trichotomy a b with h | rfl | h
    · exact hbc (lt_trans hca h)
    · exact hbc hca
    · exact hab h
  le_antisymm a b hab hba := by
    rcases lt_trichotomy a b with h | h | h
    · exact absurd h hba
    · exact h
    · exact absurd h hab
  le_total a b := by
    rcases lt_trichotomy a b with h | rfl | h
    · exact Or.inl fun hba => lt_irrefl a (lt_trans h hba)
    · exact Or.inl (lt_irrefl a)
    · exact Or.inr fun hab => lt_irrefl a (lt_trans hab h)

instance : Std.LawfulOrderLT Address where
  lt_iff a b := by
    constructor
    · intro h
      exact ⟨fun hba => lt_irrefl a (lt_trans h hba), fun hle => hle h⟩
    · rintro ⟨-, hnot⟩
      exact Decidable.byContradiction fun h => hnot h

end Address

/-- One container: the path to the partition of its documents, and the documents. -/
structure Collection where
  path : List String
  items : Table Address Value

/-- A store in memory. -/
structure DocStore where
  collections : Table String Collection
  pageSize : Nat
  /-- The number of the next accepted write, in a word that starts over when it is full. -/
  counter : UInt64

/-- What a write draws from outside: a tag that no other write has, and the time. -/
structure Stamp where
  etag : String
  time : Nat

/-- Options of a request. -/
structure Options where
  /-- The tag that the stored document must have. -/
  ifMatch : Option String
  session : Option String
  /-- The greatest number of documents on a page. -/
  maxItems : Option Nat

/-- No options. -/
def Options.none : Options := ⟨.none, .none, .none⟩

/-- The name and partition path of a container to be provisioned. -/
structure Definition where
  name : String
  path : String
  deriving DecidableEq, Repr

/-! ### Provisioning -/

/-- An empty container with the segments of a path. -/
def Collection.ofPath (path : String) : Collection := ⟨Text.segments path, .empty⟩

namespace DocStore

/-- The number of documents on a page unless something else is asked for. -/
def defaultPageSize : Nat := 100

/-- A store without containers. -/
def empty : DocStore := ⟨.empty, defaultPageSize, 0⟩

/-- The number of the next accepted write. -/
def sequence (s : DocStore) : Nat := s.counter.toNat

/-- Provisions a container, in place of one that has its name. -/
def withContainer (s : DocStore) (d : Definition) : DocStore :=
  { s with collections := s.collections.insert d.name (.ofPath d.path) }

/-- A store with the given containers. -/
def withContainers (ds : List Definition) : DocStore := ds.foldl withContainer empty

/-- Sets the page size, which is at least one. -/
def withPageSize (s : DocStore) (n : Nat) : DocStore := { s with pageSize := max n 1 }

/-- Provisions a container unless one has its name. -/
def provision (s : DocStore) (d : Definition) : DocStore :=
  match s.collections.find? d.name with
  | some _ => s
  | none => s.withContainer d

end DocStore

/-! ### Documents -/

/-- The identifier of a document: a string that is not empty. -/
def documentId? (body : Value) : Except StoreError String :=
  match body.get? "id" with
  | some (.string id) => if id.isEmpty then .error (.badRequest .emptyId) else .ok id
  | _ => .error (.badRequest .emptyId)

/-- The partition of a document: the text of the string, number or flag that the path leads to. -/
def Collection.partitionOf? (c : Collection) (body : Value) : Except StoreError String :=
  match body.follow? c.path with
  | some (.string key) => .ok key
  | some (.number n) => .ok n.text
  | some (.bool flag) => .ok (Value.bool flag).render
  | _ => .error (.badRequest (.missingPartition c.path))

/-- A number in sixteen hexadecimal digits. -/
def sixteenDigits (n : Nat) : String :=
  let digits := Text.hex n
  String.ofList (List.replicate (16 - digits.length) '0' ++ digits)

/-- The fields of a document with those that the store adds. -/
def stampFields (sequence : Nat) (container id : String) (stamp : Stamp) (fields : Fields) :
    Fields :=
  Fields.insert "_ts" (.number (.integer stamp.time))
    (Fields.insert "_etag" (.string stamp.etag)
      (Fields.insert "_self" (.string s!"colls/{container}/docs/{id}")
        (Fields.insert "_rid" (.string (sixteenDigits sequence)) fields)))

/-- A document with the fields that the store adds. -/
def stamped (sequence : Nat) (container id : String) (stamp : Stamp) : Value → Value
  | .object fields => .object (stampFields sequence container id stamp fields)
  | body => body

/-- Refuses a stored document whose tag is not the one asked for. -/
def checkTag (container id : String) (stored : Value) (o : Options) : Except StoreError Unit :=
  match o.ifMatch with
  | some tag =>
      if (stored.get? "_etag").bind Value.text? = some tag then .ok ()
      else .error (.preconditionFailed container id)
  | none => .ok ()

namespace DocStore

/-- The container of a name. -/
def collection? (s : DocStore) (container : String) : Except StoreError Collection :=
  match s.collections.find? container with
  | some c => .ok c
  | none => .error (.containerNotFound container)

/-- The document at an address. -/
def existing? (c : Collection) (container : String) (a : Address) : Except StoreError Value :=
  match c.items.find? a with
  | some value => .ok value
  | none => .error (.notFound container a.id)

/-- Replaces the documents of a container. -/
def setItems (s : DocStore) (container : String) (c : Collection) (items : Table Address Value) :
    DocStore :=
  { s with collections := s.collections.insert container { c with items } }

/-- Writes a stamped document. -/
def write (s : DocStore) (container : String) (c : Collection) (a : Address) (body : Value)
    (stamp : Stamp) : Value × DocStore :=
  let document := stamped s.sequence container a.id stamp body
  (document,
    { s.setItems container c (c.items.insert a document) with counter := s.counter + 1 })

/-! ### Operations

Each fails without changing the store, or gives its result and the store behind it. -/

/-- The number of documents in a container. -/
def size? (s : DocStore) (container : String) : Except StoreError Nat := do
  return (← s.collection? container).items.size

/-- Reads the document at an address. -/
def read? (s : DocStore) (container : String) (a : Address) : Except StoreError Value := do
  existing? (← s.collection? container) container a

/-- Adds a document at the address that it determines. -/
def create? (s : DocStore) (container : String) (body : Value) (stamp : Stamp) :
    Except StoreError (Value × DocStore) := do
  let id ← documentId? body
  let c ← s.collection? container
  let partition ← c.partitionOf? body
  match c.items.find? ⟨partition, id⟩ with
  | some _ => .error (.conflict container id)
  | none => .ok (s.write container c ⟨partition, id⟩ body stamp)

/-- Replaces the document at an address by one of the same address. -/
def replace? (s : DocStore) (container : String) (a : Address) (body : Value) (o : Options)
    (stamp : Stamp) : Except StoreError (Value × DocStore) := do
  let id ← documentId? body
  if id ≠ a.id then .error (.badRequest (.idMismatch a.id))
  else
    let c ← s.collection? container
    -- a missing document is reported before a wrong tag, and that before a wrong partition
    let stored ← existing? c container a
    checkTag container a.id stored o
    let partition ← c.partitionOf? body
    if partition ≠ a.partition then .error (.badRequest (.partitionMismatch a.partition))
    else .ok (s.write container c a body stamp)

/-- Removes the document at an address. -/
def delete? (s : DocStore) (container : String) (a : Address) (o : Options) :
    Except StoreError DocStore := do
  let c ← s.collection? container
  let stored ← existing? c container a
  checkTag container a.id stored o
  return s.setItems container c (c.items.erase a)

end DocStore

end DocAccess.Store
