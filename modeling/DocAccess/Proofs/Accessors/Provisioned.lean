import DocAccess.Accessors.Basic
import DocAccess.Proofs.Container.Runs
import DocAccess.Proofs.Store.Provision

/-!
# Accessors of provisioned containers

An accessor asks its store through five operations, each by the name of its container.  Where the
store has that container, none of them complains that it is missing, and what an accessor adds to an
answer is no such complaint either.
-/

namespace DocAccess.Accessors

open DocAccess.Container DocAccess.Document DocAccess.Query DocAccess.Store

variable {α β γ : Type}

/-! ### Runs -/

section Runs

variable {run : Run DocStore β} {s : DocStore}

theorem findsContainer_bind {f : β → Run DocStore γ} (hrun : FindsContainer (run s).1)
    (hf : ∀ b s', run s = (.ok b, s') → FindsContainer (f b s').1) :
    FindsContainer ((run >>= f) s).1 := by
  rcases hanswer : run s with ⟨answer, s'⟩
  rw [hanswer] at hrun
  cases answer with
  | error e =>
      rw [run_bind_error hanswer]
      exact hrun.of_error
  | ok b =>
      rw [run_bind_ok hanswer]
      exact hf b s' hanswer

theorem findsContainer_lift {x : Except StoreError β} (hx : FindsContainer x) :
    FindsContainer ((liftM x : Run DocStore β) s).1 := by
  rw [lift_apply]
  exact hx

theorem findsContainer_change {operation : DocStore → Except StoreError (β × DocStore)}
    (h : FindsContainer (operation s)) : FindsContainer (change operation s).1 := by
  unfold change
  split
  · nofun
  · next e he =>
      rw [he] at h
      exact h.of_error

end Runs

theorem findsContainer_fromResource (decode : Decoder α) (d : Value) :
    FindsContainer (fromResource decode d) := by
  unfold fromResource
  split <;> nofun

theorem findsContainer_fromResources (decode : Decoder α) (ds : List Value) :
    FindsContainer (fromResources decode ds) := by
  induction ds with
  | nil => nofun
  | cons d ds ih =>
      exact (findsContainer_fromResource decode d).bind fun a _ => ih.bind fun as _ => nofun

theorem findsContainer_assignId? (fresh : String) (body : Value) :
    FindsContainer (assignId? fresh body) := by
  unfold assignId?
  split
  · split
    · nofun
    · nofun
    · split <;> nofun
    · nofun
  · nofun

/-! ### Operations -/

namespace Accessor

variable {x : Accessor DocStore α} {stamps : Nat → Stamp} {s : DocStore}
  (hx : x.handle.driver = memoryDriver stamps) (hs : s.Has x.handle.name)

include hx hs

theorem create_findsContainer (fresh : String) (item : α) (o : Options) :
    FindsContainer (x.create fresh item o s).1 := by
  refine findsContainer_bind ?_ fun d s' _ =>
    findsContainer_lift (findsContainer_fromResource x.entity.decode d)
  refine findsContainer_bind (findsContainer_lift (findsContainer_assignId? fresh _)) ?_
  intro body s' hbody
  -- the identifier is filled in before the store is asked
  rw [lift_apply] at hbody
  obtain rfl := (Prod.mk.inj hbody).2
  rw [hx]
  exact findsContainer_change (hs.create? _ _)

theorem read?_findsContainer (id partition : String) (o : Options) :
    FindsContainer (x.read? id partition o s).1 := by
  refine findsContainer_bind ?_ fun found s' _ => ?_
  · have hread : (x.handle.driver.read x.handle.name (x.address id partition) o).run s =
        (s.read? x.handle.name (x.address id partition), s) := by
      rw [hx]
      rfl
    have hfinds := hs.read? (x.address id partition)
    simp only [Handle.read?, hread]
    cases hanswer : s.read? x.handle.name (x.address id partition) with
    | ok d => nofun
    | error e =>
        rw [hanswer] at hfinds
        dsimp only
        split
        · nofun
        · exact hfinds.of_error
  · cases found with
    | none => nofun
    | some d =>
        refine findsContainer_bind ?_ fun item s'' _ => nofun
        exact findsContainer_lift (findsContainer_fromResource x.entity.decode d)

theorem read_findsContainer (id partition : String) (o : Options) :
    FindsContainer (x.read id partition o s).1 := by
  refine findsContainer_bind (read?_findsContainer hx hs id partition o) fun found s' _ => ?_
  cases found with
  | none => nofun
  | some item => nofun

theorem replace_findsContainer (id partition : String) (item : α) (o : Options) :
    FindsContainer (x.replace id partition item o s).1 := by
  refine findsContainer_bind ?_ fun d s' _ =>
    findsContainer_lift (findsContainer_fromResource x.entity.decode d)
  show FindsContainer ((x.handle.driver.replace x.handle.name _ _ o) s).1
  rw [hx]
  exact findsContainer_change (hs.replace? _ _ _ _)

theorem delete_findsContainer (id partition : String) (o : Options) :
    FindsContainer (x.delete id partition o s).1 := by
  show FindsContainer ((x.handle.driver.delete x.handle.name _ o) s).1
  rw [hx]
  exact findsContainer_change ((hs.delete? _ _).map _)

end Accessor

/-! ### Feeds -/

/-- Whether nothing that a feed gives is a complaint about a missing container: no next page, no
list of all items and no item one by one. -/
structure FeedFindsContainer (stamps : Nat → Stamp) (f : Feed) (s : DocStore) : Prop where
  next {β : Type} (decode : Decoder β) :
    ∀ answer ∈ (f.next? (memoryDriver stamps) decode s).1, FindsContainer answer
  all {β : Type} (decode : Decoder β) (bound : Nat) :
    ∀ answer ∈ (f.fetchAll (memoryDriver stamps) decode bound s).1, FindsContainer answer
  stream {β : Type} (decode : Decoder β) (bound : Nat) :
    ∀ items ∈ (f.stream (memoryDriver stamps) decode bound s).1,
      ∀ item ∈ items, FindsContainer item

section Feeds

variable {stamps : Nat → Stamp} {s : DocStore} {f : Feed} (decode : Decoder β)

/-- A page is asked for in the container of the feed and without a change of the store. -/
theorem next?_kept {f' : Feed} {s' : DocStore} {page : Option (Except StoreError (List β))}
    (hnext : f.next? (memoryDriver stamps) decode s = (page, f', s')) :
    f'.container = f.container ∧ s' = s := by
  unfold Feed.next? at hnext
  split at hnext
  · obtain ⟨-, rfl, rfl⟩ := Prod.mk.injEq .. ▸ hnext
    refine ⟨?_, rfl⟩
    unfold Feed.advance
    split <;> rfl
  · obtain ⟨-, rfl, rfl⟩ := hnext
    exact ⟨rfl, rfl⟩

variable (hs : s.Has f.container)

include hs

theorem next?_findsContainer :
    ∀ page ∈ (f.next? (memoryDriver stamps) decode s).1, FindsContainer page := by
  unfold Feed.next?
  split
  · rintro page ⟨⟩
    show FindsContainer
      (Feed.itemsOf decode (s.query? f.container f.query f.continuation f.options))
    have hquery := hs.query? f.query f.continuation f.options
    cases hanswer : s.query? f.container f.query f.continuation f.options with
    | ok page => exact findsContainer_fromResources decode page.items
    | error e =>
        rw [hanswer] at hquery
        exact hquery.of_error
  · nofun

/-- Neither draining nor streaming complains that the container is missing. -/
theorem consume_findsContainer (bound : Nat) :
    (∀ answer ∈ (f.drain (memoryDriver stamps) decode bound s).1, FindsContainer answer) ∧
      ∀ items ∈ (f.stream (memoryDriver stamps) decode bound s).1,
        ∀ item ∈ items, FindsContainer item := by
  induction bound generalizing f with
  | zero =>
      rw [Feed.drain, Feed.stream]
      split
      · exact ⟨nofun, nofun⟩
      · constructor
        · rintro answer ⟨⟩
          nofun
        · rintro items ⟨⟩
          nofun
  | succ bound ih =>
      have hpage : ∀ page ∈ (f.next? (memoryDriver stamps) decode s).1, FindsContainer page :=
        next?_findsContainer decode hs
      rw [Feed.drain, Feed.stream]
      rcases hnext : f.next? (memoryDriver stamps) decode s with ⟨page, f', s'⟩
      rw [hnext] at hpage
      obtain ⟨hcontainer, rfl⟩ := next?_kept decode hnext
      rcases page with _ | ⟨e | items⟩
      · constructor
        · rintro answer ⟨⟩
          nofun
        · rintro items ⟨⟩
          nofun
      · constructor
        · rintro answer ⟨⟩
          exact hpage _ rfl
        · rintro items ⟨⟩ item hitem
          rw [List.mem_singleton.mp hitem]
          exact (hpage _ rfl).of_error
      · -- asking has changed neither the store nor the container of the feed
        obtain ⟨hdrained, hstreamed⟩ := ih (hcontainer ▸ hs)
        dsimp only
        constructor
        · rcases hdrain : f'.drain (memoryDriver stamps) decode bound s' with ⟨answer, f'', s''⟩
          rw [hdrain] at hdrained
          rcases answer with _ | ⟨e | rest⟩
          · nofun
          · exact hdrained
          · rintro answer ⟨⟩
            nofun
        · rcases hstream : f'.stream (memoryDriver stamps) decode bound s' with ⟨rest, s''⟩
          rw [hstream] at hstreamed
          cases rest with
          | none => nofun
          | some rest =>
              rintro all ⟨⟩ item hitem
              -- the items of a page are no errors, so an error comes from behind it
              rcases List.mem_append.mp hitem with hfirst | hmem
              · obtain ⟨first, -, rfl⟩ := List.mem_map.mp hfirst
                nofun
              · exact hstreamed rest rfl item hmem

end Feeds

theorem feedFindsContainer {stamps : Nat → Stamp} {s : DocStore} {f : Feed}
    (hs : s.Has f.container) : FeedFindsContainer stamps f s where
  next decode := next?_findsContainer decode hs
  all decode bound := (consume_findsContainer (f := f.reset) decode hs bound).1
  stream decode bound := (consume_findsContainer decode hs bound).2

end DocAccess.Accessors
