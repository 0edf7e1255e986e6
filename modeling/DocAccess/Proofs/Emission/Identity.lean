import DocAccess.Proofs.Emission.Relay

/-!
# Items that are their own partition

Whether a key counts as the identifier is read off the name of its parameter, and decides whether
the methods of an accessor take a key at all.  A store does not know of this: it follows the path to
the partition of every document.  The two agree on every path that a key can be derived from.

* `filedById_iff_segments` — the containers that file every document by its identifier.
* `asksById_iff` — the accessors that look for every item by its identifier.
* `isIdentity_iff_filedById` — the result.
-/

namespace DocAccess.Container

open DocAccess.Store

/-- The address that a call of a driver is about. -/
def Exchange.address? : Exchange → Option Address
  | read _ a _ _ | replace _ a _ _ _ | delete _ a _ _ => some a
  | create .. | query .. => none

end DocAccess.Container

namespace DocAccess.Emission

open DocAccess.Accessors DocAccess.Code DocAccess.Container DocAccess.Document DocAccess.Generate
open DocAccess.Model DocAccess.Operations DocAccess.Partition DocAccess.Store

variable {σ α : Type}

/-! ### Containers -/

/-- Whether a container that is made with a path files every document that has a text for its
identifier in the partition of that text. -/
def FiledById (path : String) : Prop :=
  ∀ (document : Value) (id : String), document.get? "id" = some (.string id) →
    (Collection.ofPath path).partitionOf? document = .ok id

theorem filedById_iff_segments (path : String) : FiledById path ↔ Text.segments path = ["id"] := by
  constructor
  · intro h
    -- a document of an identifier alone has no other field that could name its partition
    have hbare := h (.object [("id", .string "a")]) "a" rfl
    rw [Collection.partitionOf?, Collection.ofPath] at hbare
    cases hpath : Text.segments path with
    | nil =>
        rw [hpath] at hbare
        cases hbare
    | cons name rest =>
        rw [hpath, Value.follow?] at hbare
        by_cases hname : name = "id"
        · subst hname
          cases rest with
          | nil => rfl
          | cons next later => cases hbare
        · have hnone : (Value.object [("id", .string "a")]).get? name = none := by
            simp [Value.get?, Fields.get?, Ne.symm hname]
          rw [hnone] at hbare
          cases hbare
  · intro hpath document id hid
    rw [Collection.partitionOf?, Collection.ofPath, hpath, Value.follow?, hid]
    rfl

/-! ### Accessors -/

/-- The identifier of the item that a call of a method addresses. -/
def MethodCall.id? : MethodCall α → Option String
  | read id _ _ | readOrThrow id _ _ | replace id _ _ _ | delete id _ _ => some id
  | create .. | readAll .. | readAllByKey .. | query .. => none

/-- Whether the methods of an accessor that address an item look for it in the partition of its
identifier, whatever key they are called with. -/
def AsksById (P : Program α) (n : Names) (d : Driver σ) (s : σ) : Prop :=
  ∀ (container : String) (call : MethodCall α) (id : String), call.id? = some id →
    ∃ exchange v s',
      P.call 2 [n.accessor, n.methodName call.kind]
        (n.access ⟨d.recorded, container⟩ :: call.args n) (s, []) = (.ok v, s', [exchange]) ∧
      exchange.address? = some ⟨id, id⟩

section Asks

variable {P : Program α} {n : Names}

theorem MethodCall.onItem_of_id? {e : Entity α} {call : MethodCall α} {id : String}
    (hid : call.id? = some id) : call.OnItem e := by
  cases call with
  | read | readOrThrow | replace | delete => trivial
  | create | readAll | readAllByKey | query => cases hid

/-- A call that addresses an item comes to the driver with the address that the key of the model
makes of its arguments. -/
theorem Relayed.address? {container : String} {call : MethodCall α} {exchange : Exchange}
    {v : Val (σ × List Exchange) α} (h : Relayed P n container call exchange v) {id : String}
    (hid : call.id? = some id) :
    ∃ partition, exchange.address? = some (addressOf n.set.key id partition) := by
  cases h with
  | create hitem hkey => cases hid
  | read | readOrThrow | replace | delete =>
      obtain rfl := Option.some.inj hid
      exact ⟨_, rfl⟩

theorem asksById_iff (hd : Offers P n) (hkey : KeyApart n)
    (hname : n.set.container = n.set.model.name) (d : Driver σ) (s : σ) :
    AsksById P n d s ↔ n.set.key.isIdentity = true := by
  constructor
  · intro h
    -- an item whose partition is not its identifier
    obtain ⟨exchange, v, s', hcall, haddress⟩ := h "" (.read "a" "b" none) "a" rfl
    obtain ⟨asked, w, s'', hrelayed, -, hrun⟩ :=
      relayed_call hd hkey hname d "" (.read "a" "b" none) trivial s
    rw [hcall] at hrun
    obtain rfl : exchange = asked := by simpa using congrArg (·.2.2) hrun
    cases hrelayed with
    | read =>
        by_contra hother
        simp [Exchange.address?, addressOf, hother] at haddress
  · intro hidentity container call id hid
    obtain ⟨exchange, v, s', hrelayed, -, hrun⟩ :=
      relayed_call hd hkey hname d container call (call.onItem_of_id? hid) s
    obtain ⟨partition, haddress⟩ := hrelayed.address? hid
    refine ⟨exchange, v, s', hrun, ?_⟩
    rw [haddress, addressOf, if_pos hidentity]

end Asks

/-! ### Keys, containers and accessors -/

/-- A key that is derived from a path counts as the identifier exactly if its chain is that one
segment, and exactly if a container with the path files every document by its identifier.  So the
accessors of an emitted module look for every item in the partition of its identifier exactly where
the container of their model has it there. -/
theorem isIdentity_iff_filedById {path : String} {key : Key} (h : Key.derive? path = .ok key) :
    (key.isIdentity = true ↔ key.chain = ["id"]) ∧
    (key.isIdentity = true ↔ FiledById path) ∧
    ∀ (specs : List Spec) (c : Config) (m : ModuleDef) (code : Module),
      ModuleDef.assemble specs c = .ok m → codeOf m = .ok code →
      ∀ set ∈ m.models, set.model.path = path → ∃ n, Names.ofSet set = .ok n ∧
        ∀ {σ α : Type} (entity : Ident → Entity α) (fresh : String) (d : Driver σ) (s : σ),
          AsksById ⟨code, entity, fresh⟩ n d s ↔ FiledById path := by
  have hchain := Key.isIdentity_iff_chain (Key.plain_of_derive? h)
  have hfiled : key.isIdentity = true ↔ FiledById path := by
    rw [hchain, filedById_iff_segments, (Key.derive?_eq_ok_iff.mp h).1]
  refine ⟨hchain, hfiled, fun specs c m code hm hcode set hset hpath => ?_⟩
  obtain ⟨models, client, hmodels, hemitted⟩ := exists_emittedFrom hm hcode
  obtain ⟨hsets, hnames⟩ := ofSet_of_namesOf hmodels
  obtain ⟨n, hn, rfl⟩ := List.mem_map.mp (hsets ▸ hset)
  obtain ⟨runtime, typePath, hitems⟩ := hemitted.items
  have haccepted := hemitted.accepted n hn
  obtain rfl : n.set.key = key := by
    have hderived := haccepted.derived
    rw [hpath, h] at hderived
    exact (Except.ok.inj hderived).symm
  refine ⟨n, hnames n hn, fun entity fresh d s => ?_⟩
  rw [← hfiled]
  exact asksById_iff (offers runtime typePath hemitted.apart hitems hn haccepted)
    haccepted.keyApart haccepted.container d s

/-- Users lie under their identifier and are asked for there, though their path is written in
another way; a path that goes on behind the identifier leads elsewhere. -/
theorem isIdentity_iff_filedById_users :
    Key.derive? "//id/" = .ok ⟨["id"]⟩ ∧ FiledById "//id/" ∧ ¬FiledById "/id/owner" ∧
    ∃ m code, ModuleDef.assemble discussionSpecs Config.default = .ok m ∧ codeOf m = .ok code ∧
      ∀ set ∈ m.models, set.model.path = "//id/" → ∃ n, Names.ofSet set = .ok n ∧
        AsksById (⟨code, fun _ => Entity.document, "fresh"⟩ : Program Value) n
          (memoryDriver fun t => ⟨toString t, t⟩) DocStore.empty := by
  have hid : Key.derive? "//id/" = .ok ⟨["id"]⟩ := by decide +kernel
  have howner : Key.derive? "/id/owner" = .ok ⟨["id", "owner"]⟩ := by decide +kernel
  obtain ⟨hchain, hfiled, hasked⟩ := isIdentity_iff_filedById hid
  obtain ⟨hother, hleads, -⟩ := isIdentity_iff_filedById howner
  have hkept : FiledById "//id/" := hfiled.mp (hchain.mpr rfl)
  have haway : ¬FiledById "/id/owner" := fun h => absurd (hother.mp (hleads.mpr h)) (by simp)
  obtain ⟨m, code, hm, hcode, -⟩ := exists_code_discussion
  refine ⟨hid, hkept, haway, m, code, hm, hcode, fun set hset hpath => ?_⟩
  obtain ⟨n, hn, hasks⟩ := hasked _ _ m code hm hcode set hset hpath
  exact ⟨n, hn, (hasks _ _ _ _).mpr hkept⟩

end DocAccess.Emission
