import DocAccess.Store.Paging

/-!
# Requests and histories

What can be asked of a store, as data.  Whoever asks, a request reaches the store whole and one
after another, so that a run of the store is a list of requests and what many clients do is one
such list in some order.  A write brings the stamp that is drawn for it.
-/

namespace DocAccess.Store

open DocAccess.Document DocAccess.Query

/-- A container and an address in it. -/
structure Place where
  container : String
  address : Address
  deriving DecidableEq, Repr

/-- What a client asks about the documents of a container. -/
inductive Request where
  | read (container : String) (a : Address)
  | create (container : String) (body : Value) (stamp : Stamp)
  | replace (container : String) (a : Address) (body : Value) (o : Options) (stamp : Stamp)
  | delete (container : String) (a : Address) (o : Options)
  | size (container : String)
  /-- Provisions a container unless one has its name. -/
  | provision (d : Definition)

/-- All that can happen to a store. -/
inductive Action where
  | request (r : Request)
  | query (container : String) (q : Prepared) (continuation : Option String) (o : Options)
  /-- Provisions a container, in place of one that has its name. -/
  | install (d : Definition)
  /-- Sets the page size. -/
  | resize (n : Nat)

/-- What a store answers. -/
inductive Answer where
  | document (d : Value)
  | count (n : Nat)
  | page (p : Page)
  | done

namespace DocStore

/-- The outcome of an operation that leaves the store as it is when it fails. -/
def settle (s : DocStore) :
    Except StoreError (Answer × DocStore) → Except StoreError Answer × DocStore
  | .ok (answer, s') => (.ok answer, s')
  | .error e => (.error e, s)

/-- The answer to a request, and the store behind it. -/
def serve (s : DocStore) : Request → Except StoreError Answer × DocStore
  | .read container a => ((s.read? container a).map .document, s)
  | .create container body stamp =>
      s.settle ((s.create? container body stamp).map fun (d, s') => (.document d, s'))
  | .replace container a body o stamp =>
      s.settle ((s.replace? container a body o stamp).map fun (d, s') => (.document d, s'))
  | .delete container a o => s.settle ((s.delete? container a o).map fun s' => (.done, s'))
  | .size container => ((s.size? container).map .count, s)
  | .provision d => (.ok .done, s.provision d)

/-- The answer to an action, and the store behind it. -/
def perform (s : DocStore) : Action → Except StoreError Answer × DocStore
  | .request r => s.serve r
  | .query container q continuation o => ((s.query? container q continuation o).map .page, s)
  | .install d => (.ok .done, s.withContainer d)
  | .resize n => (.ok .done, s.withPageSize n)

/-- The document at a place. -/
def document? (s : DocStore) (p : Place) : Option Value :=
  (s.collections.find? p.container).bind (·.items.find? p.address)

/-- The place that a new document determines. -/
def placeOf? (s : DocStore) (container : String) (body : Value) : Except StoreError Place := do
  let id ← documentId? body
  let c ← s.collection? container
  return ⟨container, ⟨← c.partitionOf? body, id⟩⟩

end DocStore

/-! ### Events -/

/-- An action and the store that it meets. -/
structure Event where
  store : DocStore
  action : Action

namespace Event

/-- What the store answers. -/
def answer (e : Event) : Except StoreError Answer := (e.store.perform e.action).1

/-- The store behind an event. -/
def after (e : Event) : DocStore := (e.store.perform e.action).2

/-- The tag that the store gives out, when it accepts a document. -/
def issued? (e : Event) : Option String :=
  match e.action, e.answer with
  | .request (.create _ _ stamp), .ok _ => some stamp.etag
  | .request (.replace _ _ _ _ stamp), .ok _ => some stamp.etag
  | _, _ => none

/-- Whether a new or replacing document is accepted at a place; the document is the answer. -/
def Writes (e : Event) (p : Place) (d : Value) : Prop :=
  match e.action with
  | .request (.create container body _) =>
      e.store.placeOf? container body = .ok p ∧ e.answer = .ok (.document d)
  | .request (.replace container a _ _ _) => p = ⟨container, a⟩ ∧ e.answer = .ok (.document d)
  | _ => False

/-- Whether the document at a place is taken away, alone or with its container. -/
def Removes (e : Event) (p : Place) : Prop :=
  match e.action with
  | .request (.delete container a _) => p = ⟨container, a⟩ ∧ e.answer = .ok .done
  | .install d => p.container = d.name
  | _ => False

/-- Whether an event decides anew what is at a place. -/
def Changes (e : Event) (p : Place) : Prop := (∃ d, e.Writes p d) ∨ e.Removes p

end Event

namespace DocStore

/-- The events of a run. -/
def trace (s : DocStore) : List Action → List Event
  | [] => []
  | x :: xs => ⟨s, x⟩ :: (s.perform x).2.trace xs

/-- The store behind a run. -/
def final (s : DocStore) : List Action → DocStore
  | [] => s
  | x :: xs => (s.perform x).2.final xs

end DocStore

/-- The tags that the accepted documents of a history got, in order. -/
def issuedTags (history : List Event) : List String := history.filterMap Event.issued?

/-- Whether a document is the last that a history wrote at a place, and nothing changed it since. -/
def LastWritten (history : List Event) (p : Place) (d : Value) : Prop :=
  ∃ (before : List Event) (e : Event) (later : List Event),
    history = before ++ e :: later ∧ e.Writes p d ∧ ∀ x ∈ later, ¬ x.Changes p

end DocAccess.Store
