import DocAccess.Accessors.Basic
import DocAccess.Proofs.Container.Resource
import DocAccess.Proofs.Container.Runs

/-!
# What an accessor makes of an answer

An operation on one item asks the driver once, and what it gives depends on the answer alone.  An
error goes through as it is, unless it is that the item of a point read is missing; a document is
read as an item.
-/

namespace DocAccess.Accessors

open DocAccess.Container DocAccess.Document DocAccess.Store

variable {σ α : Type}

/-! ### Answers -/

/-- A document without the five fields that a store adds, as far as they stand at its top. -/
def bare : Value → Value
  | .object fields => .object
      (fields.filter (·.1 ∉ ["_rid", "_self", "_etag", "_ts", "_attachments"]))
  | other => other

/-- What a document that a driver answers with is as an item. -/
def itemOf (decode : Decoder α) (resource : Value) : Except StoreError α :=
  (decode (bare resource)).mapError fun fault => .serialization fault.message

/-- What a call gives whose answer is a document. -/
def storedOf (decode : Decoder α) : Except StoreError Value → Except StoreError α
  | .ok resource => itemOf decode resource
  | .error e => .error e

/-- What a point read gives to which a missing item is nothing. -/
def foundOf (decode : Decoder α) : Except StoreError Value → Except StoreError (Option α)
  | .ok resource => (itemOf decode resource).map some
  | .error (.notFound _ _) => .ok none
  | .error e => .error e

/-- What a point read gives to which a missing item is an error that names some container. -/
def demandedOf (decode : Decoder α) (container id : String) :
    Except StoreError Value → Except StoreError α
  | .ok resource => itemOf decode resource
  | .error (.notFound _ _) => .error (.notFound container id)
  | .error e => .error e

theorem stripped_eq_bare (d : Value) : stripped d = bare d := by
  cases d with
  | object fields => exact congrArg Value.object (Fields.foldl_erase _ fields)
  | _ => rfl

theorem fromResource_eq_itemOf (decode : Decoder α) (resource : Value) :
    fromResource decode resource = itemOf decode resource := by
  rw [fromResource, itemOf, stripped_eq_bare]
  cases decode (bare resource) with
  | ok item => rfl
  | error fault => rfl

/-! ### Operations -/

namespace Accessor

variable {x : Accessor σ α} {id partition : String} {item : α} {o : Options} {s s' : σ}
  {answer : Except StoreError Value}

/-- A call is followed by reading the document that it answers with. -/
theorem bind_fromResource {run : Run σ Value} {decode : Decoder α} (h : run s = (answer, s')) :
    (run >>= fun resource => liftM (fromResource decode resource)) s =
      (storedOf decode answer, s') := by
  cases answer with
  | error e => exact run_bind_error h
  | ok resource => rw [run_bind_ok h, lift_apply, storedOf, fromResource_eq_itemOf]

theorem create_apply {fresh : String}
    (h : x.handle.create fresh (x.entity.encode item) o s = (answer, s')) :
    x.create fresh item o s = (storedOf x.entity.decode answer, s') :=
  bind_fromResource h

theorem replace_apply
    (h : x.handle.driver.replace x.handle.name (x.address id partition) (x.entity.encode item) o s =
      (answer, s')) :
    x.replace id partition item o s = (storedOf x.entity.decode answer, s') :=
  bind_fromResource h

theorem read?_apply
    (h : x.handle.driver.read x.handle.name (x.address id partition) o s = (answer, s')) :
    x.read? id partition o s = (foundOf x.entity.decode answer, s') := by
  cases answer with
  | ok resource =>
      have hread : x.handle.read? (x.address id partition) o s = (.ok (some resource), s') := by
        simp only [Handle.read?, ExceptT.run, h]
      refine (run_bind_ok hread).trans ?_
      dsimp only
      rw [foundOf, fromResource_eq_itemOf]
      cases itemOf x.entity.decode resource with
      | ok item => exact run_bind_ok rfl
      | error e => exact run_bind_error rfl
  | error e =>
      have hread : x.handle.read? (x.address id partition) o s =
          (if e.isNotFound then .ok none else .error e, s') := by
        simp only [Handle.read?, ExceptT.run, h]
      cases e with
      | notFound _ _ => exact run_bind_ok hread
      | _ => exact run_bind_error hread

end Accessor

end DocAccess.Accessors
