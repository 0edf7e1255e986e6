import DocAccess.Container.Driver

/-!
# Container handles

A handle adds to a driver that a missing item is no error of a read, and that a new document gets
an identifier if it brings none.
-/

namespace DocAccess.Container

open DocAccess.Document DocAccess.Store

/-- The body with its identifier filled in, if it is absent, null or empty. -/
def assignId? (fresh : String) : Value → Except StoreError Value
  | .object fields =>
      match Fields.get? "id" fields with
      | none | some .null => .ok (.object (Fields.insert "id" (.string fresh) fields))
      | some (.string id) =>
          if id.isEmpty then .ok (.object (Fields.insert "id" (.string fresh) fields))
          else .ok (.object fields)
      | some other => .error (.badRequest (.idNotString other.render))
  | _ => .error (.badRequest .bodyNotObject)

/-- Whether a body gets the fresh identifier. -/
def needsId : Value → Bool
  | .object fields =>
      match Fields.get? "id" fields with
      | none | some .null => true
      | some (.string id) => id.isEmpty
      | _ => false
  | _ => false

/-- A container of a driver. -/
structure Handle (σ : Type) where
  driver : Driver σ
  name : String

namespace Handle

variable {σ : Type}

/-- The item at an address, or nothing if it is missing. -/
def read? (h : Handle σ) (a : Address) (o : Options) : Run σ (Option Value) := fun s =>
  match (h.driver.read h.name a o).run s with
  | (.ok value, s) => (.ok (some value), s)
  | (.error e, s) => (if e.isNotFound then .ok none else .error e, s)

/-- Adds a document; `fresh` is its identifier if it brings none. -/
def create (h : Handle σ) (fresh : String) (body : Value) (o : Options) : Run σ Value := do
  let body ← assignId? fresh body
  h.driver.create h.name body o

/-- Replaces the document at an address. -/
def replace (h : Handle σ) (a : Address) (body : Value) (o : Options) : Run σ Value :=
  h.driver.replace h.name a body o

/-- Removes the document at an address. -/
def delete (h : Handle σ) (a : Address) (o : Options) : Run σ Unit := h.driver.delete h.name a o

end Handle

end DocAccess.Container
