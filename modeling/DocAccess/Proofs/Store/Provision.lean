import DocAccess.Proofs.Store.History
import Mathlib.Data.List.Nodup

/-!
# Containers that are provisioned

A container that a store has is there for good, whatever is done to the store, and every operation
on it finds it: what an operation fails with is never that its container is missing.  A store that
is made with containers of different names has these containers and no others.
-/

namespace DocAccess.Store

open DocAccess.Document DocAccess.Query

/-! ### Containers stay -/

/-- Whether a store has a container of a name. -/
def DocStore.Has (s : DocStore) (name : String) : Prop := ∃ c, s.collections.find? name = some c

namespace DocStore

variable {s s' : DocStore} {name : String}

/-- A change of one container takes none away. -/
theorem Has.set (hs : s.Has name) {other : String} {c : Collection}
    (hset : ∀ key, s'.collections.find? key =
      if key = other then some c else s.collections.find? key) : s'.Has name := by
  by_cases hname : name = other
  · exact ⟨c, by rw [hset, if_pos hname]⟩
  · rw [Has, hset, if_neg hname]
    exact hs

theorem Has.after {e : Event} (hs : e.store.Has name) : e.after.Has name := by
  cases e.outcome with
  | written p c body stamp _ _ _ hafter _ _ _ =>
      rw [hafter]
      exact hs.set (find?_write _ _ · _ _ _ _)
  | deleted p c _ hafter _ _ _ =>
      rw [hafter]
      exact hs.set (find?_setItems _ _ · _ _)
  | installed d hafter _ _ _ =>
      rw [hafter]
      exact hs.set (find?_withContainer _ d)
  | provisioned d _ hafter _ _ =>
      rw [hafter]
      exact hs.set (find?_withContainer _ d)
  | kept hcollections _ _ _ =>
      rw [Has, hcollections]
      exact hs

/-- No run of actions takes a container away. -/
theorem Has.final (hs : s.Has name) (xs : List Action) : (s.final xs).Has name := by
  induction xs generalizing s with
  | nil => exact hs
  | cons x xs ih => exact ih (Has.after (e := ⟨s, x⟩) hs)

/-! ### Provisioning -/

theorem find?_withContainers_of_notMem {ds : List Definition} (hname : name ∉ ds.map (·.name)) :
    (ds.foldl withContainer s).collections.find? name = s.collections.find? name := by
  induction ds generalizing s with
  | nil => rfl
  | cons d ds ih =>
      rw [List.map_cons, List.mem_cons, not_or] at hname
      rw [List.foldl_cons, ih hname.2, find?_withContainer, if_neg hname.1]

/-- Containers of different names are all put up. -/
theorem find?_withContainers {ds : List Definition} (hnames : (ds.map (·.name)).Nodup)
    {d : Definition} (hd : d ∈ ds) :
    (withContainers ds).collections.find? d.name = some (.ofPath d.path) := by
  obtain ⟨before, later, rfl⟩ := List.append_of_mem hd
  rw [List.map_append, List.map_cons, List.nodup_append'] at hnames
  have hlater : d.name ∉ later.map (·.name) := (List.nodup_cons.mp hnames.2.1).1
  rw [withContainers, List.foldl_append, List.foldl_cons, find?_withContainers_of_notMem hlater,
    find?_withContainer, if_pos rfl]

/-- The containers are those that are listed. -/
theorem names_withContainers_perm {ds : List Definition} (hnames : (ds.map (·.name)).Nodup) :
    ((withContainers ds).collections.entries.map (·.1)).Perm (ds.map (·.name)) := by
  have hascending := (withContainers ds).collections.ascending
  have hnodup : ((withContainers ds).collections.entries.map (·.1)).Nodup :=
    List.pairwise_map.mpr (hascending.imp Std.ne_of_lt)
  rw [List.perm_ext_iff_of_nodup hnodup hnames]
  intro name
  constructor
  · intro hmem
    by_contra hnot
    obtain ⟨⟨key, c⟩, hentry, rfl⟩ := List.mem_map.mp hmem
    rw [Table.mem_entries, withContainers, find?_withContainers_of_notMem hnot] at hentry
    cases hentry
  · intro hmem
    obtain ⟨d, hd, rfl⟩ := List.mem_map.mp hmem
    exact List.mem_map.mpr ⟨_, (Table.mem_entries _ _ _).mpr (find?_withContainers hnames hd), rfl⟩

end DocStore

/-! ### Answers -/

/-- Whether a result is no complaint about a missing container. -/
def FindsContainer {β : Type} (x : Except StoreError β) : Prop :=
  ∀ name, x ≠ .error (.containerNotFound name)

section Answers

variable {β γ : Type} {x : Except StoreError β}

/-- Why something fails does not depend on what it would give. -/
theorem FindsContainer.of_error {e : StoreError}
    (h : FindsContainer (.error e : Except StoreError β)) :
    FindsContainer (.error e : Except StoreError γ) :=
  fun name hname => h name (congrArg Except.error (Except.error.inj hname))

theorem FindsContainer.bind {f : β → Except StoreError γ} (hx : FindsContainer x)
    (hf : ∀ b, x = .ok b → FindsContainer (f b)) : FindsContainer (x >>= f) := by
  cases x with
  | error e => exact hx.of_error
  | ok b => exact hf b rfl

theorem FindsContainer.map (hx : FindsContainer x) (f : β → γ) : FindsContainer (x.map f) := by
  cases x with
  | error e => exact hx.of_error
  | ok b => nofun

/-- A check that refuses for another reason. -/
theorem FindsContainer.ite {p : Prop} [Decidable p] {e : StoreError}
    (he : ∀ name, e ≠ .containerNotFound name) (hx : FindsContainer x) :
    FindsContainer (if p then .error e else x) := by
  split
  · exact fun name h => he name (Except.error.inj h)
  · exact hx

end Answers

theorem documentId?_findsContainer (body : Value) : FindsContainer (documentId? body) := by
  unfold documentId?
  split
  · split <;> nofun
  · nofun

theorem partitionOf?_findsContainer (c : Collection) (body : Value) :
    FindsContainer (c.partitionOf? body) := by
  unfold Collection.partitionOf?
  split <;> nofun

theorem checkTag_findsContainer (container id : String) (stored : Value) (o : Options) :
    FindsContainer (checkTag container id stored o) := by
  unfold checkTag
  split
  · split <;> nofun
  · nofun

theorem checkParameters_findsContainer (q : Prepared) : FindsContainer (checkParameters q) := by
  unfold checkParameters
  split <;> nofun

theorem startOf?_findsContainer (continuation : Option String) :
    FindsContainer (startOf? continuation) := by
  unfold startOf?
  split
  · nofun
  · split <;> nofun

theorem matching?_findsContainer (filter : Filter) (q : Prepared) (documents : List Value) :
    FindsContainer (matching? filter q documents) := by
  induction documents with
  | nil => nofun
  | cons document rest ih =>
      rw [matching?]
      split
      · nofun
      · exact ih.bind fun more _ => nofun

namespace DocStore

variable {s : DocStore} {name : String}

theorem existing?_findsContainer (c : Collection) (container : String) (a : Address) :
    FindsContainer (existing? c container a) := by
  unfold existing?
  split <;> nofun

variable (hs : s.Has name)

include hs

theorem Has.collection? : FindsContainer (s.collection? name) := by
  obtain ⟨c, hc⟩ := hs
  rw [DocStore.collection?, hc]
  nofun

theorem Has.read? (a : Address) : FindsContainer (s.read? name a) :=
  hs.collection?.bind fun c _ => existing?_findsContainer c name a

theorem Has.create? (body : Value) (stamp : Stamp) :
    FindsContainer (s.create? name body stamp) := by
  refine (documentId?_findsContainer body).bind fun id _ => ?_
  refine hs.collection?.bind fun c _ => ?_
  refine (partitionOf?_findsContainer c body).bind fun partition _ => ?_
  split <;> nofun

theorem Has.replace? (a : Address) (body : Value) (o : Options) (stamp : Stamp) :
    FindsContainer (s.replace? name a body o stamp) := by
  refine (documentId?_findsContainer body).bind fun id _ => .ite nofun ?_
  refine hs.collection?.bind fun c _ => ?_
  refine (existing?_findsContainer c name a).bind fun stored _ => ?_
  refine (checkTag_findsContainer name a.id stored o).bind fun _ _ => ?_
  refine (partitionOf?_findsContainer c body).bind fun partition _ => .ite nofun ?_
  nofun

theorem Has.delete? (a : Address) (o : Options) : FindsContainer (s.delete? name a o) := by
  refine hs.collection?.bind fun c _ => ?_
  refine (existing?_findsContainer c name a).bind fun stored _ => ?_
  exact (checkTag_findsContainer name a.id stored o).bind fun _ _ => nofun

theorem Has.query? (q : Prepared) (continuation : Option String) (o : Options) :
    FindsContainer (s.query? name q continuation o) := by
  refine (checkParameters_findsContainer q).bind fun _ _ => ?_
  have hrest : ∀ filter : Filter, FindsContainer (do
      let start ← startOf? continuation
      let c ← s.collection? name
      let items ← matching? filter q c.items.values
      return Page.cut items start (s.pageSizeFor o)) := by
    intro filter
    refine (startOf?_findsContainer continuation).bind fun start _ => ?_
    refine hs.collection?.bind fun c _ => ?_
    exact (matching?_findsContainer filter q _).bind fun items _ => nofun
  split
  · exact hrest _
  · nofun

end DocStore

end DocAccess.Store
