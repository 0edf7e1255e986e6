import DocAccess.Proofs.Accessors.Catalogue
import DocAccess.Proofs.Accessors.PartitionListing

/-!
# Containers that mirror a catalogue

A container mirrors a catalogue if it holds, at each address of the catalogue, the stamped document
of the item there, and nothing else.  Entering and removing an item keep the mirror, and the
documents of a container or of one of its partitions, in their order, are read as the items there.
-/

namespace DocAccess.Accessors

open DocAccess.Container DocAccess.Document DocAccess.Partition DocAccess.Query DocAccess.Store

namespace ItemKind

variable {α : Type} (K : ItemKind α)

/-! ### What is written -/

theorem encode_eq_object (x : α) :
    ∃ fields, K.entity.encode x = .object fields ∧
      Fields.get? "id" fields = some (.string (K.id x)) := by
  have hget := K.get?_id x
  cases hbody : K.entity.encode x with
  | object fields =>
      rw [hbody] at hget
      exact ⟨fields, rfl, hget⟩
  -- nothing else has an identifier
  | _ =>
      rw [hbody] at hget
      cases hget

theorem documentId?_encode (x : α) :
    documentId? (K.entity.encode x) =
      if K.id x = "" then .error (.badRequest .emptyId) else .ok (K.id x) := by
  rw [documentId?, K.get?_id]
  simp

theorem partitionOf?_encode {c : Collection} (hpath : c.path = K.key.chain) (x : α) :
    c.partitionOf? (K.entity.encode x) = .ok (K.partition x) := by
  rw [Collection.partitionOf?, hpath, K.follow?_key]

theorem assignId?_named (fresh : FreshId) (x : α) :
    assignId? fresh (K.entity.encode x) = .ok (K.entity.encode (K.named fresh x)) := by
  by_cases hid : K.id x = ""
  · rw [named, if_pos hid, K.assignId?_encode fresh x hid]
  · obtain ⟨fields, hbody, hget⟩ := K.encode_eq_object x
    rw [named, if_neg hid, hbody]
    simp [assignId?, hget, hid]

theorem id_named (fresh : FreshId) (x : α) : K.id (K.named fresh x) ≠ "" := by
  unfold named
  split
  · rw [K.id_withId]
    exact fresh.2
  · next hid => exact hid

/-- Whether a document is the one that the store keeps for an item. -/
def Stores (x : α) (d : Value) : Prop :=
  ∃ sequence id stamp, stamped sequence K.container id stamp (K.entity.encode x) = d

variable {K}

theorem Stores.fromResource {x : α} {d : Value} (h : K.Stores x d) :
    fromResource K.entity.decode d = .ok x := by
  obtain ⟨sequence, id, stamp, rfl⟩ := h
  rw [Container.fromResource, stripped_stamped, K.decode_encode]

theorem Stores.leads {x : α} {d : Value} (h : K.Stores x d) (k : String) :
    Leads K.key.chain d (.string k) ↔ K.partition x = k := by
  obtain ⟨sequence, id, stamp, rfl⟩ := h
  obtain ⟨fields, hbody, -⟩ := K.encode_eq_object x
  have hkey := K.follow?_key x
  rw [hbody] at hkey ⊢
  rw [← follow?_eq_some_iff,
    follow?_stamped_of_head? _ _ _ _ _ K.plain.nonempty K.unstamped, hkey]
  simp

/-! ### Mirrors -/

variable (K)

/-- Whether a container holds the items of a catalogue and nothing else. -/
structure Reflects (m : Catalogue α) (c : Collection) : Prop where
  path : c.path = K.key.chain
  stores : ∀ a, Option.Rel K.Stores (m.lookup a) (c.items.find? a)
  filed : ∀ a x, m.lookup a = some x → K.addressOf x = a

/-- Whether the container of a kind holds the items of a catalogue and nothing else. -/
def Mirrors (m : Catalogue α) (s : DocStore) : Prop :=
  ∃ c, s.collections.find? K.container = some c ∧ K.Reflects m c

variable {K} {m : Catalogue α} {c : Collection}

/-- A catalogue and a container stay alike if both change at one address only. -/
theorem Reflects.update (h : K.Reflects m c) {m' : Catalogue α} {items : Table Address Value}
    {a : Address} {entry : Option α} {found : Option Value}
    (hlookup : ∀ b, m'.lookup b = if b = a then entry else m.lookup b)
    (hitems : ∀ b, items.find? b = if b = a then found else c.items.find? b)
    (hstores : Option.Rel K.Stores entry found) (hfiled : ∀ x ∈ entry, K.addressOf x = a) :
    K.Reflects m' { c with items } where
  path := h.path
  stores b := by
    rw [hlookup, hitems]
    split
    · exact hstores
    · exact h.stores b
  filed b y hy := by
    rw [hlookup] at hy
    split at hy
    · next hb => exact (hfiled y hy).trans hb.symm
    · exact h.filed b y hy

theorem Reflects.insert (h : K.Reflects m c) {a : Address} {x : α} {d : Value}
    (ha : K.addressOf x = a) (hd : K.Stores x d) :
    K.Reflects (m.insert a x) { c with items := c.items.insert a d } := by
  refine h.update (a := a) (fun b => ?_) (fun b => Table.find?_insert _ _ b _) (.some hd) ?_
  · split
    · next hb => rw [hb, Finmap.lookup_insert]
    · next hb => exact Finmap.lookup_insert_of_ne m hb
  · rintro _ ⟨⟩
    exact ha

theorem Reflects.erase (h : K.Reflects m c) (a : Address) :
    K.Reflects (m.erase a) { c with items := c.items.erase a } := by
  refine h.update (a := a) (fun b => ?_) (fun b => Table.find?_erase _ _ b) .none nofun
  split
  · next hb => rw [hb, Finmap.lookup_erase]
  · next hb => exact Finmap.lookup_erase_ne hb

/-! ### Listings -/

/-- At each address there is either nothing on both sides, or an item and its document. -/
theorem Reflects.cases (h : K.Reflects m c) (a : Address) :
    (m.lookup a = none ∧ c.items.find? a = none) ∨
      ∃ x d, m.lookup a = some x ∧ c.items.find? a = some d ∧ K.Stores x d ∧ K.addressOf x = a := by
  have hrel := h.stores a
  have hfiled := h.filed a
  revert hrel hfiled
  cases m.lookup a with
  | none =>
      cases c.items.find? a with
      | none => exact fun _ _ => .inl ⟨rfl, rfl⟩
      | some d =>
          intro hrel
          cases hrel
  | some x =>
      cases c.items.find? a with
      | none =>
          intro hrel
          cases hrel
      | some d =>
          rintro ⟨hstores⟩ hfiled
          exact .inr ⟨x, d, rfl, rfl, hstores, hfiled x rfl⟩

theorem Reflects.addresses (h : K.Reflects m c) :
    Catalogue.addresses m = c.items.entries.map (·.1) := by
  have hascending : (c.items.entries.map (·.1)).Pairwise (· < ·) :=
    List.pairwise_map.mpr c.items.ascending
  have hkeys : m.keys = (c.items.entries.map (·.1)).toFinset := by
    ext a
    rw [Finmap.mem_keys, List.mem_toFinset, List.mem_map, ← Finmap.lookup_isSome]
    constructor
    · intro hsome
      rcases h.cases a with ⟨hnone, -⟩ | ⟨x, d, -, hitem, -⟩
      · rw [hnone] at hsome
        cases hsome
      · exact ⟨(a, d), (c.items.mem_entries a d).mpr hitem, rfl⟩
    · rintro ⟨⟨b, d⟩, hmem, rfl⟩
      rcases h.cases b with ⟨-, hnone⟩ | ⟨x, -, hx, -⟩
      · rw [(c.items.mem_entries b d).mp hmem] at hnone
        cases hnone
      · rw [hx]
        rfl
  rw [Catalogue.addresses, hkeys]
  exact (List.toFinset_sort _ (hascending.imp Std.ne_of_lt)).mpr (hascending.imp Std.le_of_lt)

theorem Reflects.card (h : K.Reflects m c) : m.keys.card = c.items.size := by
  have hlength := congrArg List.length h.addresses
  rwa [Catalogue.addresses, Finset.length_sort, List.length_map] at hlength

/-- Documents of the container are read as the items at their addresses. -/
theorem Reflects.fromResources (h : K.Reflects m c) {entries : List (Address × Value)}
    (hentries : ∀ e ∈ entries, c.items.find? e.1 = some e.2) :
    fromResources K.entity.decode (entries.map (·.2)) =
      .ok (Catalogue.itemsAt m (entries.map (·.1))) := by
  refine fromResources_of_forall₂ ?_
  induction entries with
  | nil => exact .nil
  | cons e entries ih =>
      have hfirst := hentries e List.mem_cons_self
      have hrest := ih fun other hother => hentries other (List.mem_cons_of_mem _ hother)
      rcases h.cases e.1 with ⟨-, hnone⟩ | ⟨x, d, hx, hd, hstores, -⟩
      · rw [hfirst] at hnone
        cases hnone
      · obtain rfl := Option.some.inj (hfirst.symm.trans hd)
        simp only [List.map_cons, Catalogue.itemsAt, List.filterMap_cons, hx]
        exact .cons hstores.fromResource hrest

/-- The documents that the listing of a partition selects are those that lie in it. -/
theorem Reflects.listed (h : K.Reflects m c) (k : String) :
    listed K.key c k = c.items.entries.filter (·.1.partition = k) := by
  refine List.filter_congr fun e he => ?_
  obtain ⟨a, d⟩ := e
  have hitem := (c.items.mem_entries a d).mp he
  rcases h.cases a with ⟨-, hnone⟩ | ⟨x, d', -, hd, hstores, rfl⟩
  · rw [hitem] at hnone
    cases hnone
  · obtain rfl := Option.some.inj (hitem.symm.trans hd)
    rw [Bool.eq_iff_iff, decide_eq_true_iff, selects_eq_true_iff]
    obtain ⟨b, hb, hiff⟩ := passes?_partitionFilter K.key k d
    rw [hb, Except.ok.injEq, hiff, hstores.leads]
    rfl

end ItemKind

end DocAccess.Accessors
