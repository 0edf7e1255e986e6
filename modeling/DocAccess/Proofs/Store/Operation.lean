import DocAccess.Proofs.Checks
import DocAccess.Store.Request

/-!
# What an operation does

Each operation is a row of checks and then one change of the store.  This file says once for every
operation when it succeeds and with which store, and what the changed store holds at every place;
nothing behind it looks into an operation again.
-/

namespace DocAccess.Store

open DocAccess.Document

/-! ### Checks -/

theorem documentId?_eq_ok_iff (body : Value) (id : String) :
    documentId? body = .ok id ↔ body.get? "id" = some (.string id) ∧ id ≠ "" := by
  unfold documentId?
  split
  · next text htext =>
      rw [htext]
      by_cases hempty : text = ""
      · subst hempty
        simp
      · have hnot : text.isEmpty = false := by simpa using hempty
        simp only [hnot, Bool.false_eq_true, if_false, Except.ok.injEq, Option.some.injEq,
          Value.string.injEq]
        constructor
        · rintro rfl
          exact ⟨rfl, hempty⟩
        · rintro ⟨rfl, -⟩
          rfl
  · next hother =>
      constructor
      · intro h
        cases h
      · rintro ⟨htext, -⟩
        exact absurd htext (hother id)

theorem collection?_eq_ok_iff (s : DocStore) (container : String) (c : Collection) :
    s.collection? container = .ok c ↔ s.collections.find? container = some c := by
  unfold DocStore.collection?
  split
  · next c' hc => simp [hc]
  · next hc => simp [hc]

theorem existing?_eq_ok_iff (c : Collection) (container : String) (a : Address) (d : Value) :
    DocStore.existing? c container a = .ok d ↔ c.items.find? a = some d := by
  unfold DocStore.existing?
  split
  · next d' hd => simp [hd]
  · next hd => simp [hd]

theorem checkTag_eq_ok_iff (container id : String) (stored : Value) (o : Options) :
    checkTag container id stored o = .ok () ↔
      ∀ tag, o.ifMatch = some tag → (stored.get? "_etag").bind Value.text? = some tag := by
  unfold checkTag
  split
  · next tag htag =>
      rw [htag]
      by_cases hstored : (stored.get? "_etag").bind Value.text? = some tag
      · simp [hstored]
      · simp [hstored]
  · next htag => simp [htag]

/-! ### Stamps -/

/-- The fields that the store writes into every accepted document, whatever they held. -/
def stampNames : List String := ["_rid", "_self", "_etag", "_ts"]

section Stamps

variable (sequence : Nat) (container id : String) (stamp : Stamp) (fields : Fields)

theorem get?_rid_stamped :
    (stamped sequence container id stamp (.object fields)).get? "_rid" =
      some (.string (sixteenDigits sequence)) := by
  show Fields.get? "_rid" (stampFields sequence container id stamp fields) = _
  rw [stampFields, Fields.get?_insert_of_ne (by decide), Fields.get?_insert_of_ne (by decide),
    Fields.get?_insert_of_ne (by decide), Fields.get?_insert_self]

theorem get?_self_stamped :
    (stamped sequence container id stamp (.object fields)).get? "_self" =
      some (.string s!"colls/{container}/docs/{id}") := by
  show Fields.get? "_self" (stampFields sequence container id stamp fields) = _
  rw [stampFields, Fields.get?_insert_of_ne (by decide), Fields.get?_insert_of_ne (by decide),
    Fields.get?_insert_self]

theorem get?_etag_stamped :
    (stamped sequence container id stamp (.object fields)).get? "_etag" =
      some (.string stamp.etag) := by
  show Fields.get? "_etag" (stampFields sequence container id stamp fields) = _
  rw [stampFields, Fields.get?_insert_of_ne (by decide), Fields.get?_insert_self]

theorem get?_stamped_of_not_mem {name : String} (hname : name ∉ stampNames) :
    (stamped sequence container id stamp (.object fields)).get? name =
      (Value.object fields).get? name := by
  simp only [stampNames, List.mem_cons, List.not_mem_nil, or_false, not_or] at hname
  obtain ⟨hrid, hself, hetag, hts⟩ := hname
  show Fields.get? name (stampFields sequence container id stamp fields) = Fields.get? name fields
  rw [stampFields, Fields.get?_insert_of_ne hts, Fields.get?_insert_of_ne hetag,
    Fields.get?_insert_of_ne hself, Fields.get?_insert_of_ne hrid]

end Stamps

theorem object_of_documentId? {body : Value} {id : String} (hid : documentId? body = .ok id) :
    ∃ fields, body = .object fields := by
  obtain ⟨hget, -⟩ := (documentId?_eq_ok_iff body id).mp hid
  cases body with
  | object fields => exact ⟨fields, rfl⟩
  | _ => cases hget

/-- A stamped document has the identifier of its body. -/
theorem documentId?_stamped {body : Value} {id : String} (hid : documentId? body = .ok id)
    (n : Nat) (container id' : String) (stamp : Stamp) :
    documentId? (stamped n container id' stamp body) = .ok id := by
  obtain ⟨fields, rfl⟩ := object_of_documentId? hid
  obtain ⟨hget, hne⟩ := (documentId?_eq_ok_iff _ _).mp hid
  refine (documentId?_eq_ok_iff _ _).mpr ⟨?_, hne⟩
  rw [get?_stamped_of_not_mem _ _ _ _ _ (by decide)]
  exact hget

/-! ### Operations -/

namespace DocStore

theorem read?_eq_ok_iff (s : DocStore) (container : String) (a : Address) (d : Value) :
    s.read? container a = .ok d ↔ s.document? ⟨container, a⟩ = some d := by
  unfold read? document?
  simp only [bind_eq_ok_iff, collection?_eq_ok_iff, existing?_eq_ok_iff, Option.bind_eq_some_iff]

theorem placeOf?_eq_ok_iff (s : DocStore) (container : String) (body : Value) (p : Place) :
    s.placeOf? container body = .ok p ↔
      ∃ c, p.container = container ∧ documentId? body = .ok p.address.id ∧
        s.collections.find? container = some c ∧ c.partitionOf? body = .ok p.address.partition := by
  obtain ⟨m, ⟨key, id⟩⟩ := p
  unfold placeOf?
  simp only [bind_eq_ok_iff, collection?_eq_ok_iff]
  constructor
  · rintro ⟨id', hid, c, hc, key', hkey, heq⟩
    cases heq
    exact ⟨c, rfl, hid, hc, hkey⟩
  · rintro ⟨c, hm, hid, hc, hkey⟩
    cases hm
    exact ⟨id, hid, c, hc, key, hkey, rfl⟩

theorem create?_eq_ok_iff (s : DocStore) (container : String) (body : Value) (stamp : Stamp)
    (r : Value × DocStore) :
    s.create? container body stamp = .ok r ↔
      ∃ id c key, documentId? body = .ok id ∧ s.collections.find? container = some c ∧
        c.partitionOf? body = .ok key ∧ c.items.find? ⟨key, id⟩ = none ∧
        s.write container c ⟨key, id⟩ body stamp = r := by
  unfold create?
  simp only [bind_eq_ok_iff, collection?_eq_ok_iff]
  constructor
  · rintro ⟨id, hid, c, hc, key, hkey, hmatch⟩
    split at hmatch
    · cases hmatch
    · next hfree => exact ⟨id, c, key, hid, hc, hkey, hfree, Except.ok.inj hmatch⟩
  · rintro ⟨id, c, key, hid, hc, hkey, hfree, hwrite⟩
    exact ⟨id, hid, c, hc, key, hkey, by rw [hfree, hwrite]⟩

theorem replace?_eq_ok_iff (s : DocStore) (container : String) (a : Address) (body : Value)
    (o : Options) (stamp : Stamp) (r : Value × DocStore) :
    s.replace? container a body o stamp = .ok r ↔
      ∃ c stored, documentId? body = .ok a.id ∧ s.collections.find? container = some c ∧
        c.items.find? a = some stored ∧ checkTag container a.id stored o = .ok () ∧
        c.partitionOf? body = .ok a.partition ∧ s.write container c a body stamp = r := by
  unfold replace?
  simp only [bind_eq_ok_iff]
  constructor
  · rintro ⟨id, hid, hrest⟩
    split at hrest
    · cases hrest
    · next hsame =>
        simp only [bind_eq_ok_iff, collection?_eq_ok_iff, existing?_eq_ok_iff] at hrest
        obtain ⟨c, hc, stored, hstored, _, htag, key, hkey, hlast⟩ := hrest
        split at hlast
        · cases hlast
        · next hpartition =>
            have hid' : id = a.id := Decidable.not_not.mp hsame
            have hkey' : key = a.partition := Decidable.not_not.mp hpartition
            exact ⟨c, stored, hid' ▸ hid, hc, hstored, htag, hkey' ▸ hkey, Except.ok.inj hlast⟩
  · rintro ⟨c, stored, hid, hc, hstored, htag, hkey, hwrite⟩
    refine ⟨a.id, hid, ?_⟩
    simp only [ne_eq, not_true_eq_false, if_false, bind_eq_ok_iff, collection?_eq_ok_iff,
      existing?_eq_ok_iff]
    exact ⟨c, hc, stored, hstored, (), htag, a.partition, hkey, by simp [hwrite]⟩

theorem delete?_eq_ok_iff (s : DocStore) (container : String) (a : Address) (o : Options)
    (s' : DocStore) :
    s.delete? container a o = .ok s' ↔
      ∃ c stored, s.collections.find? container = some c ∧ c.items.find? a = some stored ∧
        checkTag container a.id stored o = .ok () ∧
        s.setItems container c (c.items.erase a) = s' := by
  unfold delete?
  simp only [bind_eq_ok_iff, collection?_eq_ok_iff, existing?_eq_ok_iff]
  constructor
  · rintro ⟨c, hc, stored, hstored, _, htag, hlast⟩
    exact ⟨c, stored, hc, hstored, htag, Except.ok.inj hlast⟩
  · rintro ⟨c, stored, hc, hstored, htag, hlast⟩
    exact ⟨c, hc, stored, hstored, (), htag, congrArg Except.ok hlast⟩

/-! ### The store behind a change -/

theorem find?_setItems (s : DocStore) (container name : String) (c : Collection)
    (items : Table Address Value) :
    (s.setItems container c items).collections.find? name =
      if name = container then some { c with items } else s.collections.find? name :=
  Table.find?_insert _ _ _ _

theorem find?_write (s : DocStore) (container name : String) (c : Collection) (a : Address)
    (body : Value) (stamp : Stamp) :
    (s.write container c a body stamp).2.collections.find? name =
      if name = container then
        some { c with items := c.items.insert a (stamped s.sequence container a.id stamp body) }
      else s.collections.find? name :=
  Table.find?_insert _ _ _ _

theorem find?_withContainer (s : DocStore) (d : Definition) (name : String) :
    (s.withContainer d).collections.find? name =
      if name = d.name then some (.ofPath d.path) else s.collections.find? name :=
  Table.find?_insert _ _ _ _

theorem document?_of_find? {s : DocStore} {p : Place} {c : Collection}
    (hc : s.collections.find? p.container = some c) : s.document? p = c.items.find? p.address := by
  rw [document?, hc]
  rfl

/-- New items that differ from those of the container at one address differ in one document. -/
theorem document?_setItems {s : DocStore} {p : Place} {c : Collection} {items : Table Address Value}
    {found : Option Value} (hc : s.collections.find? p.container = some c)
    (hitems : ∀ b, items.find? b = if b = p.address then found else c.items.find? b) (q : Place) :
    (s.setItems p.container c items).document? q = if q = p then found else s.document? q := by
  obtain ⟨m, b⟩ := q
  obtain ⟨n, a⟩ := p
  by_cases hm : m = n
  · subst hm
    rw [document?_of_find? (p := ⟨m, b⟩) (by simpa using find?_setItems s m m c items), hitems,
      document?_of_find? (p := ⟨m, b⟩) hc]
    simp
  · simp [document?, find?_setItems, hm]

theorem document?_write (s : DocStore) (p q : Place) (c : Collection) (body : Value)
    (stamp : Stamp) (hc : s.collections.find? p.container = some c) :
    (s.write p.container c p.address body stamp).2.document? q =
      if q = p then some (stamped s.sequence p.container p.address.id stamp body)
      else s.document? q :=
  document?_setItems hc (fun b => Table.find?_insert _ _ b _) q

theorem document?_erase (s : DocStore) (p q : Place) (c : Collection)
    (hc : s.collections.find? p.container = some c) :
    (s.setItems p.container c (c.items.erase p.address)).document? q =
      if q = p then none else s.document? q :=
  document?_setItems hc (fun b => Table.find?_erase _ _ b) q

theorem document?_withContainer (s : DocStore) (d : Definition) (q : Place) :
    (s.withContainer d).document? q = if q.container = d.name then none else s.document? q := by
  by_cases hm : q.container = d.name
  · simp [document?, find?_withContainer, hm, Collection.ofPath]
  · simp [document?, find?_withContainer, hm]

end DocStore

end DocAccess.Store
