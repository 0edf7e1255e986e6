import DocAccess.Proofs.Store.Integrity
import DocAccess.Proofs.Store.Ledger

/-!
# Where stored documents come from

Whatever is true of every document that a store stamps and accepts is true of every document that
lies in it, since nothing else brings a document there.  As the partition is taken from the body
before the stamp, it can be read off the stored document as long as the stamp leaves the path alone.
-/

namespace DocAccess.Store

open DocAccess.Document

/-- Whether something is true of every stored document, given the path of its container and its
place. -/
def DocStore.Holds (s : DocStore) (P : List String → Place → Value → Prop) : Prop :=
  ∀ p c d, s.collections.find? p.container = some c → c.items.find? p.address = some d →
    P c.path p d

/-- Whether something is true of every document that is stamped for the place where it belongs. -/
def HoldsAccepted (P : List String → Place → Value → Prop) : Prop :=
  ∀ (n : Nat) (p : Place) (c : Collection) (body : Value) (stamp : Stamp),
    documentId? body = .ok p.address.id → c.partitionOf? body = .ok p.address.partition →
      P c.path p (stamped n p.container p.address.id stamp body)

section Holding

variable {P : List String → Place → Value → Prop}

/-- A container that is put up is empty. -/
theorem DocStore.Holds.withContainer {s : DocStore} (hs : s.Holds P) (f : Definition) :
    (s.withContainer f).Holds P := by
  intro p c d hc hitem
  rw [find?_withContainer] at hc
  split at hc
  · obtain rfl := Option.some.inj hc
    cases hitem
  · exact hs p c d hc hitem

variable (haccepted : HoldsAccepted P)

include haccepted

theorem DocStore.Holds.write {s : DocStore} (hs : s.Holds P) {p : Place} {c : Collection}
    {body : Value} (stamp : Stamp) (hid : documentId? body = .ok p.address.id)
    (hc : s.collections.find? p.container = some c)
    (hpartition : c.partitionOf? body = .ok p.address.partition) :
    (s.write p.container c p.address body stamp).2.Holds P := by
  intro q c' d hc' hitem
  rw [find?_write] at hc'
  split at hc'
  · next hcontainer =>
      obtain rfl := Option.some.inj hc'
      rw [Table.find?_insert] at hitem
      split at hitem
      · next haddress =>
          obtain rfl := Option.some.inj hitem
          obtain rfl : q = p := by
            obtain ⟨m, b⟩ := q
            obtain rfl : m = p.container := hcontainer
            obtain rfl : b = p.address := haddress
            rfl
          exact haccepted _ _ _ _ _ hid hpartition
      · exact hs q c d (hcontainer ▸ hc) hitem
  · exact hs q c' d hc' hitem

theorem DocStore.Holds.after {e : Event} (hs : e.store.Holds P) : e.after.Holds P := by
  cases e.outcome with
  | written p c body stamp hid hfind hpartition hafter _ _ _ =>
      rw [hafter]
      exact hs.write haccepted stamp hid hfind hpartition
  | deleted p c hfind hafter _ _ _ =>
      rw [hafter]
      intro q c' d hc' hitem
      rw [find?_setItems] at hc'
      split at hc'
      · next hcontainer =>
          obtain rfl := Option.some.inj hc'
          rw [Table.find?_erase] at hitem
          split at hitem
          · cases hitem
          · exact hs q c d (hcontainer ▸ hfind) hitem
      · exact hs q c' d hc' hitem
  | installed f hafter _ _ _ =>
      rw [hafter]
      exact hs.withContainer f
  | provisioned f _ hafter _ _ =>
      rw [hafter]
      exact hs.withContainer f
  | kept hcollections _ _ _ =>
      intro q c' d hc' hitem
      exact hs q c' d (hcollections ▸ hc') hitem

/-- What is true of the documents of a store and of those that it accepts is true of the documents
behind every run. -/
theorem DocStore.Holds.final {s : DocStore} (hs : s.Holds P) (xs : List Action) :
    (s.final xs).Holds P := by
  induction xs using List.reverseRecOn with
  | nil => exact hs
  | append_singleton xs x ih =>
      rw [DocStore.final_concat]
      exact DocStore.Holds.after haccepted ih

end Holding

theorem DocStore.holds_empty (P : List String → Place → Value → Prop) : DocStore.empty.Holds P := by
  intro p c d hc
  cases hc

/-! ### The partition of a stored document -/

/-- The partition of a stamped document is that of its body, unless the path starts at a stamped
field. -/
theorem keyOf?_stamped {path : List String} (hpath : ∀ name ∈ path.head?, name ∉ stampNames)
    {body : Value} {id : String} (hid : documentId? body = .ok id) (n : Nat)
    (container id' : String) (stamp : Stamp) {key : String} (hkey : keyOf? path body = some key) :
    keyOf? path (stamped n container id' stamp body) = some key := by
  obtain ⟨fields, rfl⟩ := object_of_documentId? hid
  -- an empty path leads to the object itself, which names no partition
  have hne : path ≠ [] := by
    rintro rfl
    cases hkey
  rw [keyOf?, follow?_stamped_of_head? _ _ _ _ _ hne hpath]
  exact hkey

theorem keyOf?_of_partitionOf? {c : Collection} {body : Value} {key : String}
    (h : c.partitionOf? body = .ok key) : keyOf? c.path body = some key := by
  rw [partitionOf?_eq] at h
  cases hkey : keyOf? c.path body with
  | none =>
      rw [hkey] at h
      cases h
  | some other =>
      rw [hkey] at h
      exact congrArg some (Except.ok.inj h)

/-- In every store that a run reaches, the path of a container leads from each document to what
names its partition, unless the path starts at a stamped field. -/
theorem keyOf?_final (xs : List Action) :
    (DocStore.empty.final xs).Holds fun path p d =>
      (∀ name ∈ path.head?, name ∉ stampNames) → keyOf? path d = some p.address.partition := by
  refine DocStore.Holds.final ?_ (DocStore.holds_empty _) xs
  intro n p c body stamp hid hpartition hpath
  exact keyOf?_stamped hpath hid n _ _ stamp (keyOf?_of_partitionOf? hpartition)

end DocAccess.Store
