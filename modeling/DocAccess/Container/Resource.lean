import DocAccess.Document.Shape
import DocAccess.Store.Error

/-!
# From stored documents to values

A stored document is read as a value without the fields that the store adds.
-/

namespace DocAccess.Container

open DocAccess.Document DocAccess.Store

/-- The fields that a store adds to documents. -/
def metadataFields : List String := ["_rid", "_self", "_etag", "_ts", "_attachments"]

/-- A document without the fields that a store adds. -/
def stripped : Value → Value
  | .object fields => .object (metadataFields.foldl (fun fs name => Fields.erase name fs) fields)
  | value => value

/-- A way to read documents as values. -/
abbrev Decoder (α : Type) := Value → Except ShapeFault α

/-- Reads a stored document as a value. -/
def fromResource {α : Type} (decode : Decoder α) (resource : Value) : Except StoreError α :=
  match decode (stripped resource) with
  | .ok a => .ok a
  | .error fault => .error (.serialization fault.message)

/-- Reads stored documents as values, up to the first that is none. -/
def fromResources {α : Type} (decode : Decoder α) : List Value → Except StoreError (List α)
  | [] => .ok []
  | resource :: rest => do
      let first ← fromResource decode resource
      return first :: (← fromResources decode rest)

end DocAccess.Container
