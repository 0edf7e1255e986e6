import DocAccess.Proofs.Accessors.Mirror
import DocAccess.Proofs.Accessors.Relay

/-!
# An accessor answers as its catalogue

Each call is answered by the accessor as by the catalogue that its container mirrors, the container
mirrors the catalogue behind the call, and the other containers stay as they were.  The operations
of the accessor are first brought down to those of the store, and these are spelled out for a
container that is known.
-/

namespace DocAccess.Accessors

open DocAccess.Container DocAccess.Document DocAccess.Query DocAccess.Store

namespace ItemKind

variable {α : Type} (K : ItemKind α) {m : Catalogue α} {c : Collection}

/-! ### Operations of the accessor -/

/-- The accessor of a kind of items to a store in memory. -/
def accessor (stamps : Nat → Stamp) : Accessor DocStore α :=
  ⟨⟨memoryDriver stamps, K.container⟩, K.key, K.entity⟩

section Operations

variable {K} {stamps : Nat → Stamp} {s s' : DocStore} {o : Options} {x y : α} {d : Value}
  {e : StoreError} {id partition : String} {fresh : FreshId}

theorem handle_create :
    (K.accessor stamps).handle.create fresh (K.entity.encode x) o s =
      (memoryDriver stamps).create K.container (K.entity.encode (K.named fresh x)) o s := by
  refine run_bind_ok ?_
  rw [lift_apply, K.assignId?_named]

/-- What the store keeps is read back as the item that was written. -/
theorem Stores.itemOf (hd : K.Stores y d) : itemOf K.entity.decode d = .ok y :=
  (fromResource_eq_itemOf _ _).symm.trans hd.fromResource

theorem accessor_create_ok
    (h : s.create? K.container (K.entity.encode (K.named fresh x)) (stamps s.sequence) = .ok (d, s'))
    (hd : K.Stores y d) : (K.accessor stamps).create fresh x o s = (.ok y, s') := by
  have hdriver : (memoryDriver stamps).create K.container (K.entity.encode (K.named fresh x)) o s
      = (.ok d, s') := by
    simp only [memoryDriver, change, h]
  rw [Accessor.create_apply (handle_create.trans hdriver)]
  exact congrArg (·, s') hd.itemOf

theorem accessor_create_error
    (h : s.create? K.container (K.entity.encode (K.named fresh x)) (stamps s.sequence) = .error e) :
    (K.accessor stamps).create fresh x o s = (.error e, s) := by
  have hdriver : (memoryDriver stamps).create K.container (K.entity.encode (K.named fresh x)) o s
      = (.error e, s) := by
    simp only [memoryDriver, change, h]
  exact Accessor.create_apply (handle_create.trans hdriver)

theorem accessor_replace_ok
    (h : s.replace? K.container (K.addressAt id partition) (K.entity.encode x) o
      (stamps s.sequence) = .ok (d, s')) (hd : K.Stores y d) :
    (K.accessor stamps).replace id partition x o s = (.ok y, s') := by
  have hdriver : (memoryDriver stamps).replace K.container (K.addressAt id partition)
      (K.entity.encode x) o s = (.ok d, s') := by
    simp only [memoryDriver, change, h]
  rw [Accessor.replace_apply hdriver]
  exact congrArg (·, s') hd.itemOf

theorem accessor_replace_error
    (h : s.replace? K.container (K.addressAt id partition) (K.entity.encode x) o
      (stamps s.sequence) = .error e) :
    (K.accessor stamps).replace id partition x o s = (.error e, s) := by
  have hdriver : (memoryDriver stamps).replace K.container (K.addressAt id partition)
      (K.entity.encode x) o s = (.error e, s) := by
    simp only [memoryDriver, change, h]
  exact Accessor.replace_apply (x := K.accessor stamps) hdriver

theorem accessor_delete_ok (h : s.delete? K.container (K.addressAt id partition) o = .ok s') :
    (K.accessor stamps).delete id partition o s = (.ok (), s') := by
  show (memoryDriver stamps).delete K.container (K.addressAt id partition) o s = _
  simp only [memoryDriver, change, h, Except.map]

theorem accessor_delete_error (h : s.delete? K.container (K.addressAt id partition) o = .error e) :
    (K.accessor stamps).delete id partition o s = (.error e, s) := by
  show (memoryDriver stamps).delete K.container (K.addressAt id partition) o s = _
  simp only [memoryDriver, change, h, Except.map]

theorem accessor_read?_found (h : s.read? K.container (K.addressAt id partition) = .ok d)
    (hd : K.Stores y d) : (K.accessor stamps).read? id partition o s = (.ok (some y), s) := by
  have hdriver : (memoryDriver stamps).read K.container (K.addressAt id partition) o s
      = (.ok d, s) := congrArg (·, s) h
  refine (Accessor.read?_apply hdriver).trans ?_
  rw [foundOf]
  exact congrArg (fun answer => (answer.map some, s)) hd.itemOf

/-- A read that finds nothing is no failure. -/
theorem accessor_read?_missing
    (h : s.read? K.container (K.addressAt id partition) = .error (.notFound K.container id)) :
    (K.accessor stamps).read? id partition o s = (.ok none, s) := by
  have hdriver : (memoryDriver stamps).read K.container (K.addressAt id partition) o s
      = (.error (.notFound K.container id), s) := congrArg (·, s) h
  exact Accessor.read?_apply (x := K.accessor stamps) hdriver

end Operations

/-! ### Operations of the store -/

section Known

variable {K} {s : DocStore} (hc : s.collections.find? K.container = some c) (x : α)
  (stamp : Stamp) (o : Options) (a : Address)

include hc

theorem create?_encode (hpath : c.path = K.key.chain) (hid : K.id x ≠ "") :
    s.create? K.container (K.entity.encode x) stamp =
      match c.items.find? (K.addressOf x) with
      | some _ => .error (.conflict K.container (K.id x))
      | none => .ok (s.write K.container c (K.addressOf x) (K.entity.encode x) stamp) := by
  have hkey := K.partitionOf?_encode hpath x
  simp only [DocStore.create?, K.documentId?_encode, if_neg hid, DocStore.collection?, hc, hkey,
    bind, Except.bind]
  rfl

theorem read?_known :
    s.read? K.container a =
      match c.items.find? a with
      | some d => .ok d
      | none => .error (.notFound K.container a.id) := by
  cases hitem : c.items.find? a with
  | some d =>
      simp only [DocStore.read?, DocStore.existing?, DocStore.collection?, hc, hitem, bind,
        Except.bind]
  | none =>
      simp only [DocStore.read?, DocStore.existing?, DocStore.collection?, hc, hitem, bind,
        Except.bind]

theorem delete?_known (ho : o.ifMatch = none) :
    s.delete? K.container a o =
      match c.items.find? a with
      | some _ => .ok (s.setItems K.container c (c.items.erase a))
      | none => .error (.notFound K.container a.id) := by
  simp only [DocStore.delete?, DocStore.existing?, DocStore.collection?, hc, bind, Except.bind,
    checkTag, ho]
  cases c.items.find? a with
  | some d => rfl
  | none => rfl

theorem replace?_encode (hpath : c.path = K.key.chain) (ho : o.ifMatch = none) :
    s.replace? K.container a (K.entity.encode x) o stamp =
      if K.id x = "" then .error (.badRequest .emptyId)
      else if K.id x ≠ a.id then .error (.badRequest (.idMismatch a.id))
      else match c.items.find? a with
        | none => .error (.notFound K.container a.id)
        | some _ =>
            if K.partition x ≠ a.partition then .error (.badRequest (.partitionMismatch a.partition))
            else .ok (s.write K.container c a (K.entity.encode x) stamp) := by
  have hkey := K.partitionOf?_encode hpath x
  by_cases hid : K.id x = ""
  · simp only [DocStore.replace?, K.documentId?_encode, if_pos hid, bind, Except.bind]
  · simp only [DocStore.replace?, DocStore.existing?, DocStore.collection?, K.documentId?_encode,
      if_neg hid, hc, hkey, bind, Except.bind, checkTag, ho]
    cases c.items.find? a with
    | none => rfl
    | some d => rfl

end Known

/-! ### Calls -/

theorem reply_eq {α β : Type} {answer : β → ItemAnswer α} {run : Run DocStore β} {s s' : DocStore}
    {r : Except StoreError β} (h : run s = (r, s')) :
    Accessor.reply answer run s = (some (r.map answer), s') := by
  rw [Accessor.reply, h]

/-- Whether an accessor gives the answer of a catalogue, so that behind it the store mirrors the
catalogue and has the other containers as they were. -/
structure Agrees (s : DocStore) (expected : Except StoreError (ItemAnswer α) × Catalogue α)
    (actual : Option (Except StoreError (ItemAnswer α)) × DocStore) : Prop where
  answer : actual.1 = some expected.1
  mirrors : K.Mirrors expected.2 actual.2
  others : ∀ name, name ≠ K.container →
    actual.2.collections.find? name = s.collections.find? name

section Calls

variable {K} {stamps : Nat → Stamp} {s : DocStore}

theorem Mirrors.unchanged (h : K.Mirrors m s) (r : Except StoreError (ItemAnswer α)) :
    K.Agrees s (r, m) (some r, s) :=
  ⟨rfl, h, fun _ _ => rfl⟩

theorem Reflects.write (h : K.Reflects m c) {a : Address} {x : α} (ha : K.addressOf x = a)
    (stamp : Stamp) :
    K.Agrees s (.ok (.item x), m.insert a x)
      (some (.ok (.item x)), (s.write K.container c a (K.entity.encode x) stamp).2) where
  answer := rfl
  mirrors := by
    have hstores : K.Stores x (stamped s.sequence K.container a.id stamp (K.entity.encode x)) :=
      ⟨_, _, _, rfl⟩
    refine ⟨_, ?_, h.insert ha hstores⟩
    rw [DocStore.find?_write, if_pos rfl]
  others name hname := by
    show (s.write K.container c a (K.entity.encode x) stamp).2.collections.find? name = _
    rw [DocStore.find?_write, if_neg hname]

theorem Mirrors.create (h : K.Mirrors m s) (fresh : FreshId) (x : α) (o : Options) :
    K.Agrees s (K.create m (K.named fresh x))
      (Accessor.reply .item ((K.accessor stamps).create fresh x o) s) := by
  have ⟨c, hc, hreflects⟩ := h
  have hcreate := create?_encode hc (K.named fresh x) (stamps s.sequence) hreflects.path
    (K.id_named fresh x)
  rcases hreflects.cases (K.addressOf (K.named fresh x)) with
    ⟨hlookup, hitem⟩ | ⟨y, d, hlookup, hitem, -, -⟩
  · rw [hitem] at hcreate
    have hrun := accessor_create_ok (o := o) hcreate ⟨_, _, _, rfl⟩
    rw [reply_eq hrun, ItemKind.create, if_neg (Finmap.lookup_eq_none.mp hlookup)]
    exact hreflects.write rfl _
  · rw [hitem] at hcreate
    have hmem : K.addressOf (K.named fresh x) ∈ m := Finmap.mem_of_lookup_eq_some hlookup
    rw [reply_eq (accessor_create_error (o := o) hcreate), ItemKind.create, if_pos hmem]
    exact h.unchanged _

theorem Mirrors.replace (h : K.Mirrors m s) (id partition : String) (x : α) {o : Options}
    (ho : o.ifMatch = none) :
    K.Agrees s (K.replace m (K.addressAt id partition) x)
      (Accessor.reply .item ((K.accessor stamps).replace id partition x o) s) := by
  have ⟨c, hc, hreflects⟩ := h
  have hreplace := replace?_encode hc x (stamps s.sequence) o (K.addressAt id partition)
    hreflects.path ho
  have herror : ∀ e, s.replace? K.container (K.addressAt id partition) (K.entity.encode x) o
      (stamps s.sequence) = .error e → K.Agrees s (.error e, m)
        (Accessor.reply .item ((K.accessor stamps).replace id partition x o) s) := by
    intro e he
    rw [reply_eq (accessor_replace_error he)]
    exact h.unchanged _
  -- store and catalogue look at the conditions in one order, so the cases are theirs
  rw [ItemKind.replace]
  split
  · next hempty =>
      rw [if_pos hempty] at hreplace
      exact herror _ hreplace
  · next hempty =>
      rw [if_neg hempty] at hreplace
      split
      · next hid =>
          rw [if_pos hid] at hreplace
          exact herror _ hreplace
      · next hid =>
          rw [if_neg hid] at hreplace
          rw [existing]
          rcases hreflects.cases (K.addressAt id partition) with
            ⟨hlookup, hitem⟩ | ⟨y, d, hlookup, hitem, -, -⟩
          · rw [hitem] at hreplace
            rw [hlookup]
            exact herror _ hreplace
          · rw [hitem] at hreplace
            rw [hlookup]
            dsimp only at hreplace ⊢
            split
            · next hpartition =>
                rw [if_pos hpartition] at hreplace
                exact herror _ hreplace
            · next hpartition =>
                rw [if_neg hpartition] at hreplace
                have haddress : K.addressOf x = K.addressAt id partition :=
                  congrArg₂ Address.mk (not_not.mp hpartition) (not_not.mp hid)
                rw [reply_eq (accessor_replace_ok hreplace ⟨_, _, _, rfl⟩)]
                exact hreflects.write haddress _

theorem Mirrors.delete (h : K.Mirrors m s) (id partition : String) {o : Options}
    (ho : o.ifMatch = none) :
    K.Agrees s
      (K.existing m (K.addressAt id partition) fun _ =>
        (.ok .done, m.erase (K.addressAt id partition)))
      (Accessor.reply (fun _ => .done) ((K.accessor stamps).delete id partition o) s) := by
  have ⟨c, hc, hreflects⟩ := h
  have hdelete := delete?_known hc o (K.addressAt id partition) ho
  rw [existing]
  rcases hreflects.cases (K.addressAt id partition) with
    ⟨hlookup, hitem⟩ | ⟨y, d, hlookup, hitem, -, -⟩
  · rw [hitem] at hdelete
    rw [hlookup, reply_eq (accessor_delete_error hdelete)]
    exact h.unchanged _
  · rw [hitem] at hdelete
    rw [hlookup, reply_eq (accessor_delete_ok hdelete)]
    refine ⟨rfl, ⟨_, ?_, hreflects.erase _⟩, fun name hname => ?_⟩
    · rw [DocStore.find?_setItems, if_pos rfl]
    · show (s.setItems K.container c _).collections.find? name = _
      rw [DocStore.find?_setItems, if_neg hname]

theorem Mirrors.read? (h : K.Mirrors m s) (id partition : String) (o : Options) :
    (K.accessor stamps).read? id partition o s =
      (.ok (m.lookup (K.addressAt id partition)), s) := by
  have ⟨c, hc, hreflects⟩ := h
  have hread := read?_known hc (K.addressAt id partition)
  rcases hreflects.cases (K.addressAt id partition) with
    ⟨hlookup, hitem⟩ | ⟨y, d, hlookup, hitem, hstores, -⟩
  · rw [hitem] at hread
    rw [hlookup, accessor_read?_missing hread]
  · rw [hitem] at hread
    rw [hlookup, accessor_read?_found hread hstores]

theorem Mirrors.read (h : K.Mirrors m s) (id partition : String) (o : Options) :
    K.Agrees s (K.existing m (K.addressAt id partition) fun x => (.ok (.item x), m))
      (Accessor.reply .item ((K.accessor stamps).read id partition o) s) := by
  have hread : (K.accessor stamps).read? id partition o s = _ := h.read? id partition o
  rw [existing]
  cases hlookup : m.lookup (K.addressAt id partition) with
  | none =>
      rw [hlookup] at hread
      have hrun : (K.accessor stamps).read id partition o s =
          (.error (.notFound K.container id), s) := run_bind_ok hread
      rw [reply_eq hrun]
      exact h.unchanged _
  | some x =>
      rw [hlookup] at hread
      have hrun : (K.accessor stamps).read id partition o s = (.ok x, s) := run_bind_ok hread
      rw [reply_eq hrun]
      exact h.unchanged _

/-- A feed that gives the documents at some entries is drained to the items there. -/
theorem Mirrors.drained (h : K.Mirrors m s) {f : Feed} {xs : List α}
    (hfetch : ∃ behind, f.fetchAll (memoryDriver stamps) K.entity.decode maxPosition s =
      (some (.ok xs), behind, s)) :
    K.Agrees s (.ok (.items xs), m) ((K.accessor stamps).drained f s) := by
  obtain ⟨behind, hfetch⟩ := hfetch
  have hdrained : (K.accessor stamps).drained f s = (some (.ok (.items xs)), s) := by
    simp only [Accessor.drained, drainedBy, accessor, hfetch]
    rfl
  rw [hdrained]
  exact h.unchanged _

variable (hroom : m.keys.card ≤ maxPosition)

include hroom

theorem Mirrors.readAll (h : K.Mirrors m s) (o : Options) :
    K.Agrees s (.ok (.items (Catalogue.items m)), m)
      ((K.accessor stamps).drained ((K.accessor stamps).readAll o) s) := by
  have ⟨c, hc, hreflects⟩ := h
  rw [hreflects.card] at hroom
  refine h.drained ?_
  have hbound : max 1 c.items.size ≤ maxPosition := max_le (by decide) hroom
  have hall : ∀ d ∈ c.items.values,
      ∃ passes, Filter.passes? Prepared.everything d [] = .ok passes := fun _ _ => ⟨true, rfl⟩
  obtain ⟨behind, hfetch⟩ := Feed.fetchAll_memory (f := (K.accessor stamps).readAll o) stamps
    K.entity.decode hc rfl ofText?_everything hall hroom hbound
  have hselected : ((K.accessor stamps).readAll o).selected [] c =
      c.items.entries.map (·.2) := by
    -- the query has no conditions, so that each document passes
    have hentries : c.selected [] Prepared.everything = c.items.entries :=
      List.filter_eq_self.mpr fun _ _ => rfl
    exact congrArg (List.map (·.2)) hentries
  have hentries : ∀ e ∈ c.items.entries, c.items.find? e.1 = some e.2 :=
    fun e he => (c.items.mem_entries e.1 e.2).mp he
  rw [hselected, hreflects.fromResources hentries, ← hreflects.addresses] at hfetch
  exact ⟨behind, hfetch⟩

theorem Mirrors.readPartition (h : K.Mirrors m s) (partition : String) (o : Options) :
    K.Agrees s (.ok (.items (Catalogue.itemsIn m partition)), m)
      ((K.accessor stamps).drained ((K.accessor stamps).readPartition partition o) s) := by
  have ⟨c, hc, hreflects⟩ := h
  rw [hreflects.card] at hroom
  refine h.drained ?_
  have hbound : max 1 c.items.size ≤ maxPosition := max_le (by decide) hroom
  obtain ⟨behind, hfetch⟩ :=
    fetchAll_readPartition K.plain hc hroom stamps K.entity o partition hbound
  refine ⟨behind, hfetch.trans ?_⟩
  have hentries : ∀ e ∈ listed K.key c partition, c.items.find? e.1 = some e.2 :=
    fun e he => (mem_listed.mp he).1
  rw [hreflects.fromResources hentries, Catalogue.itemsIn, hreflects.addresses, hreflects.listed,
    List.filter_map]
  rfl

/-- An accessor answers each call as the catalogue does that its container mirrors, and leaves it to
mirror the catalogue behind the call. -/
theorem Mirrors.answer (h : K.Mirrors m s) (call : ItemCall α) :
    K.Agrees s (K.answer m call) ((K.accessor stamps).answer s call) := by
  cases call with
  | create fresh x p => exact h.create fresh x (optionsOf p)
  | read id partition p =>
      rw [Accessor.answer, reply_eq (h.read? id partition (optionsOf p))]
      exact h.unchanged _
  | readOrErr id partition p => exact h.read id partition (optionsOf p)
  | replace id partition x p => exact h.replace id partition x (ifMatch_optionsOf p)
  | delete id partition p => exact h.delete id partition (ifMatch_optionsOf p)
  | readAll p => exact h.readAll hroom (optionsOf p)

end Calls

end ItemKind

end DocAccess.Accessors
