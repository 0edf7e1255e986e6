import DocAccess.Accessors.Basic
import DocAccess.Proofs.Partition.Key
import DocAccess.Proofs.Store.Operation
import Mathlib.Data.Finmap
import Mathlib.Data.Finset.Sort

/-!
# Catalogues of items

A catalogue is what a user of an accessor has to know: a finite map from partition and identifier to
items, without documents, stamps, pages or other containers.  It answers each call by a few
conditions that are looked at in turn.  The same calls are run through an accessor against a store
in memory, so that the two answers can be compared.
-/

namespace DocAccess.Accessors

open DocAccess.Container DocAccess.Document DocAccess.Partition DocAccess.Store

/-! ### Kinds of items -/

/-- A kind of items: the container they lie in, the key that names their partition, and how they are
written.  What is written says where it belongs and is read as it was. -/
structure ItemKind (α : Type) where
  container : String
  key : Key
  entity : Entity α
  /-- The identifier of an item. -/
  id : α → String
  /-- An item with another identifier. -/
  withId : String → α → α
  /-- The partition of an item. -/
  partition : α → String
  plain : key.Plain
  /-- The store does not write over the path to the partition. -/
  unstamped : ∀ name ∈ key.chain.head?, name ∉ stampNames
  id_withId : ∀ fresh x, id (withId fresh x) = fresh
  get?_id : ∀ x, (entity.encode x).get? "id" = some (.string (id x))
  assignId?_encode : ∀ fresh x, id x = "" →
    assignId? fresh (entity.encode x) = .ok (entity.encode (withId fresh x))
  follow?_key : ∀ x, (entity.encode x).follow? key.chain = some (.string (partition x))
  decode_encode : ∀ x, entity.decode (stripped (entity.encode x)) = .ok x

/-! ### Calls -/

/-- An identifier that is drawn for a new item. -/
abbrev FreshId := { id : String // id ≠ "" }

/-- The options of a call that asks for no tag. -/
structure Preferences where
  session : Option String
  /-- The greatest number of documents on a page. -/
  maxItems : Option Nat

/-- The options as a request has them. -/
def Preferences.options (p : Preferences) : Options := ⟨none, p.session, p.maxItems⟩

/-- The options of a call that may leave them out. -/
def optionsOf (p : Option Preferences) : Options := (p.map Preferences.options).getD Options.none

theorem ifMatch_optionsOf (p : Option Preferences) : (optionsOf p).ifMatch = none := by
  cases p with
  | none => rfl
  | some p => rfl

/-- What can be asked of any accessor.  The partition does not matter where items are their own. -/
inductive ItemCall (α : Type) where
  | create (fresh : FreshId) (item : α) (p : Option Preferences)
  | read (id partition : String) (p : Option Preferences)
  | readOrErr (id partition : String) (p : Option Preferences)
  | replace (id partition : String) (item : α) (p : Option Preferences)
  | delete (id partition : String) (p : Option Preferences)
  | readAll (p : Option Preferences)

/-- What a call gives. -/
inductive ItemAnswer (α : Type) where
  | item (x : α)
  | found (x : Option α)
  | items (xs : List α)
  | done
  deriving DecidableEq

/-! ### Answers of a catalogue -/

instance : DecidableLE Address := fun a b => inferInstanceAs (Decidable (¬b < a))

/-- Items by the addresses where they lie. -/
abbrev Catalogue (α : Type) := Finmap fun _ : Address => α

namespace Catalogue

variable {α : Type} (m : Catalogue α)

/-- The addresses in ascending order, by partition first. -/
def addresses : List Address := m.keys.sort (· ≤ ·)

/-- The items at some addresses, in their order. -/
def itemsAt (addresses : List Address) : List α := addresses.filterMap m.lookup

/-- Every item in the order of the addresses. -/
def items : List α := itemsAt m (addresses m)

/-- The items of one partition in the order of their identifiers. -/
def itemsIn (partition : String) : List α :=
  itemsAt m ((addresses m).filter (·.partition = partition))

end Catalogue

namespace ItemKind

variable {α : Type} (K : ItemKind α)

/-- The address where an item belongs. -/
def addressOf (x : α) : Address := ⟨K.partition x, K.id x⟩

/-- The address that a call names; an item that is its own partition is named by its identifier. -/
def addressAt (id partition : String) : Address :=
  ⟨if K.key.isIdentity then id else partition, id⟩

/-- An item with an identifier drawn for it, if it brings none. -/
def named (fresh : FreshId) (x : α) : α := if K.id x = "" then K.withId fresh x else x

section Answers

variable (m : Catalogue α)

/-- Enters a new item unless there is one at its address. -/
def create (x : α) : Except StoreError (ItemAnswer α) × Catalogue α :=
  if K.addressOf x ∈ m then (.error (.conflict K.container (K.id x)), m)
  else (.ok (.item x), m.insert (K.addressOf x) x)

/-- The item at an address, which has to be there. -/
def existing (a : Address) (use : α → Except StoreError (ItemAnswer α) × Catalogue α) :
    Except StoreError (ItemAnswer α) × Catalogue α :=
  match m.lookup a with
  | none => (.error (.notFound K.container a.id), m)
  | some x => use x

/-- Enters an item in place of the one at its address. -/
def replace (a : Address) (x : α) : Except StoreError (ItemAnswer α) × Catalogue α :=
  if K.id x = "" then (.error (.badRequest .emptyId), m)
  else if K.id x ≠ a.id then (.error (.badRequest (.idMismatch a.id)), m)
  else K.existing m a fun _ =>
    if K.partition x ≠ a.partition then
      (.error (.badRequest (.partitionMismatch a.partition)), m)
    else (.ok (.item x), m.insert a x)

/-- The answer to a call, and the catalogue behind it. -/
def answer : ItemCall α → Except StoreError (ItemAnswer α) × Catalogue α
  | .create fresh x _ => K.create m (K.named fresh x)
  | .read id partition _ => (.ok (.found (m.lookup (K.addressAt id partition))), m)
  | .readOrErr id partition _ =>
      K.existing m (K.addressAt id partition) fun x => (.ok (.item x), m)
  | .replace id partition x _ => K.replace m (K.addressAt id partition) x
  | .delete id partition _ =>
      K.existing m (K.addressAt id partition) fun _ =>
        (.ok .done, m.erase (K.addressAt id partition))
  | .readAll _ => (.ok (.items (Catalogue.items m)), m)

/-- All that a call can come to. -/
inductive Outcome : Except StoreError (ItemAnswer α) × Catalogue α → Prop
  | kept (answer : ItemAnswer α) : Outcome (.ok answer, m)
  | missing (id : String) : Outcome (.error (.notFound K.container id), m)
  | taken (id : String) : Outcome (.error (.conflict K.container id), m)
  | refused (cause : Refusal) : Outcome (.error (.badRequest cause), m)
  | entered (a : Address) (x : α) : Outcome (.ok (.item x), m.insert a x)
  | removed (a : Address) : Outcome (.ok .done, m.erase a)

theorem outcome_existing (a : Address)
    {use : α → Except StoreError (ItemAnswer α) × Catalogue α}
    (huse : ∀ x, K.Outcome m (use x)) : K.Outcome m (K.existing m a use) := by
  unfold existing
  split
  · exact .missing _
  · exact huse _

theorem outcome_answer (call : ItemCall α) : K.Outcome m (K.answer m call) := by
  cases call with
  | create fresh x p =>
      simp only [answer, create]
      split
      · exact .taken _
      · exact .entered _ _
  | read id partition p => exact .kept _
  | readOrErr id partition p => exact K.outcome_existing m _ fun _ => .kept _
  | replace id partition x p =>
      simp only [answer, replace]
      split
      · exact .refused _
      · split
        · exact .refused _
        · refine K.outcome_existing m _ fun _ => ?_
          split
          · exact .refused _
          · exact .entered _ _
  | delete id partition p => exact K.outcome_existing m _ fun _ => .removed _
  | readAll p => exact .kept _

variable {K m} {r : Except StoreError (ItemAnswer α) × Catalogue α}

/-- No call meets a container that is not there, or a document that is no item. -/
theorem Outcome.error (h : K.Outcome m r) {e : StoreError} (he : r.1 = .error e) :
    (∀ name, e ≠ .containerNotFound name) ∧ ∀ fault, e ≠ .serialization fault := by
  cases h with
  | kept answer => cases he
  | entered a x => cases he
  | removed a => cases he
  | missing id =>
      obtain rfl := Except.error.inj he
      exact ⟨fun _ => nofun, fun _ => nofun⟩
  | taken id =>
      obtain rfl := Except.error.inj he
      exact ⟨fun _ => nofun, fun _ => nofun⟩
  | refused cause =>
      obtain rfl := Except.error.inj he
      exact ⟨fun _ => nofun, fun _ => nofun⟩

/-- A call adds at most one item. -/
theorem Outcome.card_le (h : K.Outcome m r) : r.2.keys.card ≤ m.keys.card + 1 := by
  have hsame : m.keys.card ≤ m.keys.card + 1 := Nat.le_succ _
  cases h with
  | kept answer => exact hsame
  | missing id => exact hsame
  | taken id => exact hsame
  | refused cause => exact hsame
  | entered a x =>
      have hkeys : (m.insert a x).keys ⊆ insert a m.keys := by
        intro other hother
        rw [Finmap.mem_keys, Finmap.mem_insert] at hother
        rwa [Finset.mem_insert, Finmap.mem_keys]
      exact (Finset.card_le_card hkeys).trans (Finset.card_insert_le _ _)
  | removed a =>
      show (m.erase a).keys.card ≤ _
      rw [Finmap.keys_erase]
      exact Finset.card_erase_le.trans hsame

end Answers

end ItemKind

/-! ### Answers of an accessor -/

/-- The answer of a feed that is drained from its first page on; none if it takes more pages than
positions can be counted. -/
def drainedBy {α : Type} (d : Driver DocStore) (decode : Decoder α) (f : Feed) (s : DocStore) :
    Option (Except StoreError (ItemAnswer α)) × DocStore :=
  let (answer, _, s) := f.fetchAll d decode maxPosition s
  (answer.map fun items => items.map .items, s)

namespace Accessor

variable {α : Type} (x : Accessor DocStore α)

/-- The answer of an operation. -/
def reply {β : Type} (answer : β → ItemAnswer α) (run : Run DocStore β) (s : DocStore) :
    Option (Except StoreError (ItemAnswer α)) × DocStore :=
  (some ((run s).1.map answer), (run s).2)

/-- The answer of a feed that is drained through an accessor. -/
def drained (f : Feed) (s : DocStore) : Option (Except StoreError (ItemAnswer α)) × DocStore :=
  drainedBy x.handle.driver x.entity.decode f s

/-- The answer to a call, and the store behind it. -/
def answer (s : DocStore) : ItemCall α → Option (Except StoreError (ItemAnswer α)) × DocStore
  | .create fresh item p => reply .item (x.create fresh item (optionsOf p)) s
  | .read id partition p => reply .found (x.read? id partition (optionsOf p)) s
  | .readOrErr id partition p => reply .item (x.read id partition (optionsOf p)) s
  | .replace id partition item p => reply .item (x.replace id partition item (optionsOf p)) s
  | .delete id partition p => reply (fun _ => .done) (x.delete id partition (optionsOf p)) s
  | .readAll p => x.drained (x.readAll (optionsOf p)) s

end Accessor

end DocAccess.Accessors
