import DocAccess.Proofs.Accessors.Catalogue
import DocAccess.Proofs.Accessors.Relay

/-!
# Items of a wider type

The items of several models can be taken as those of one type.  An accessor that is handed such items
writes them as the accessor of their model does, reads documents as their items, and so gives the
same answers in the same states.

* `itemOf_widened` — one document.
* `fetchAll_widened` — the documents of a feed.
* `Accessor.answer_widened` — a call.
-/

namespace DocAccess.Accessors

open DocAccess.Container DocAccess.Document DocAccess.Store

variable {σ α β : Type}

/-- A call with items of a wider type. -/
def ItemCall.map (f : α → β) : ItemCall α → ItemCall β
  | create fresh x p => .create fresh (f x) p
  | read id partition p => .read id partition p
  | readOrErr id partition p => .readOrErr id partition p
  | replace id partition x p => .replace id partition (f x) p
  | delete id partition p => .delete id partition p
  | readAll p => .readAll p

/-- An answer with items of a wider type. -/
def ItemAnswer.map (f : α → β) : ItemAnswer α → ItemAnswer β
  | item x => .item (f x)
  | found x => .found (x.map f)
  | items xs => .items (xs.map f)
  | done => .done

/-- Whether the items of a type are read and written as those of a wider one. -/
structure Entity.Widens (wide : Entity β) (f : α → β) (e : Entity α) : Prop where
  decode : ∀ d, wide.decode d = (e.decode d).map f
  encode : ∀ x, wide.encode (f x) = e.encode x

section Widened

variable {wide : Entity β} {f : α → β} {e : Entity α} (h : wide.Widens f e)

include h

/-! ### Documents -/

theorem itemOf_widened (d : Value) : itemOf wide.decode d = (itemOf e.decode d).map f := by
  rw [itemOf, itemOf, h.decode]
  cases e.decode (bare d) with
  | ok x => rfl
  | error fault => rfl

theorem storedOf_widened (answer : Except StoreError Value) :
    storedOf wide.decode answer = (storedOf e.decode answer).map f := by
  cases answer with
  | ok d => exact itemOf_widened h d
  | error cause => rfl

theorem foundOf_widened (answer : Except StoreError Value) :
    foundOf wide.decode answer = (foundOf e.decode answer).map (·.map f) := by
  cases answer with
  | ok d =>
      rw [foundOf, foundOf, itemOf_widened h]
      cases itemOf e.decode d with
      | ok x => rfl
      | error cause => rfl
  | error cause =>
      cases cause with
      | notFound _ _ => rfl
      | _ => rfl

theorem fromResources_widened (ds : List Value) :
    fromResources wide.decode ds = (fromResources e.decode ds).map (·.map f) := by
  induction ds with
  | nil => rfl
  | cons d ds ih =>
      rw [fromResources, fromResources, ih, fromResource_eq_itemOf, fromResource_eq_itemOf,
        itemOf_widened h]
      cases itemOf e.decode d with
      | error cause => rfl
      | ok x =>
          cases fromResources e.decode ds with
          | error cause => rfl
          | ok xs => rfl

/-! ### Feeds -/

/-- The items of a page, and the feed and the state behind it. -/
theorem next?_widened (d : Driver σ) (g : Feed) (s : σ) :
    g.next? d wide.decode s =
      ((g.next? d e.decode s).1.map (·.map (·.map f)), (g.next? d e.decode s).2) := by
  unfold Feed.next?
  split
  · generalize ((d.query g.container g.query g.continuation g.options).run s) = result
    obtain ⟨answer, s'⟩ := result
    cases answer with
    | ok page => simp only [Feed.itemsOf, fromResources_widened h, Option.map_some]
    | error cause => rfl
  · rfl

theorem drain_widened (d : Driver σ) (bound : Nat) (g : Feed) (s : σ) :
    g.drain d wide.decode bound s =
      ((g.drain d e.decode bound s).1.map (·.map (·.map f)), (g.drain d e.decode bound s).2) := by
  induction bound generalizing g s with
  | zero =>
      unfold Feed.drain
      split
      · rfl
      · rfl
  | succ bound ih =>
      rw [Feed.drain, Feed.drain, next?_widened h]
      generalize g.next? d e.decode s = result
      obtain ⟨page, g', s'⟩ := result
      cases page with
      | none => rfl
      | some page =>
          cases page with
          | error cause => rfl
          | ok xs =>
              simp only [Option.map_some, Except.map, ih]
              generalize g'.drain d e.decode bound s' = rest
              obtain ⟨others, behind⟩ := rest
              cases others with
              | none => rfl
              | some others =>
                  cases others with
                  | error cause => rfl
                  | ok ys => simp only [Option.map_some, List.map_append]

theorem fetchAll_widened (d : Driver σ) (bound : Nat) (g : Feed) (s : σ) :
    g.fetchAll d wide.decode bound s =
      ((g.fetchAll d e.decode bound s).1.map (·.map (·.map f)),
        (g.fetchAll d e.decode bound s).2) :=
  drain_widened h d bound g.reset s

end Widened

/-! ### Operations -/

namespace Accessor

/-- An accessor to the same container for items of another type. -/
def widened (x : Accessor σ α) (wide : Entity β) : Accessor σ β := ⟨x.handle, x.key, wide⟩

section Widened

variable {x : Accessor σ α} {wide : Entity β} {f : α → β} (h : wide.Widens f x.entity) (s : σ)
  (id partition : String) (item : α) (o : Options)

include h

theorem create_widened (fresh : String) :
    (x.widened wide).create fresh (f item) o s =
      ((x.create fresh item o s).1.map f, (x.create fresh item o s).2) := by
  rcases hanswer : x.handle.create fresh (x.entity.encode item) o s with ⟨answer, s'⟩
  have hwide : (x.widened wide).handle.create fresh ((x.widened wide).entity.encode (f item)) o s =
      (answer, s') := (h.encode item).symm ▸ hanswer
  rw [create_apply hwide, create_apply hanswer]
  exact congrArg (·, s') (storedOf_widened h answer)

theorem replace_widened :
    (x.widened wide).replace id partition (f item) o s =
      ((x.replace id partition item o s).1.map f, (x.replace id partition item o s).2) := by
  rcases hanswer : x.handle.driver.replace x.handle.name (x.address id partition)
    (x.entity.encode item) o s with ⟨answer, s'⟩
  have hwide : (x.widened wide).handle.driver.replace (x.widened wide).handle.name
      ((x.widened wide).address id partition) ((x.widened wide).entity.encode (f item)) o s =
        (answer, s') := (h.encode item).symm ▸ hanswer
  rw [replace_apply hwide, replace_apply hanswer]
  exact congrArg (·, s') (storedOf_widened h answer)

theorem read?_widened :
    (x.widened wide).read? id partition o s =
      ((x.read? id partition o s).1.map (·.map f), (x.read? id partition o s).2) := by
  rcases hanswer : x.handle.driver.read x.handle.name (x.address id partition) o s with
    ⟨answer, s'⟩
  have hwide : (x.widened wide).handle.driver.read (x.widened wide).handle.name
      ((x.widened wide).address id partition) o s = (answer, s') := hanswer
  rw [read?_apply hwide, read?_apply hanswer]
  exact congrArg (·, s') (foundOf_widened h answer)

theorem read_widened :
    (x.widened wide).read id partition o s =
      ((x.read id partition o s).1.map f, (x.read id partition o s).2) := by
  have hwide := read?_widened h s id partition o
  rcases hread : x.read? id partition o s with ⟨answer, s'⟩
  rw [hread] at hwide
  cases answer with
  | error cause =>
      have hfails : x.read id partition o s = (.error cause, s') := run_bind_error hread
      rw [hfails]
      exact run_bind_error hwide
  | ok found =>
      -- what is done with the item is the same on both sides
      cases found with
      | none =>
          have hmissing : x.read id partition o s = (.error (.notFound x.handle.name id), s') :=
            run_bind_ok hread
          rw [hmissing]
          exact run_bind_ok hwide
      | some item =>
          have hfound : x.read id partition o s = (.ok item, s') := run_bind_ok hread
          rw [hfound]
          exact run_bind_ok hwide

end Widened

/-! ### Calls -/

/-- Runs that differ by the type of items alone have the same answers. -/
theorem reply_widened {γ δ : Type} {f : α → β} {run : Run DocStore γ} {wideRun : Run DocStore δ}
    {g : γ → δ} {answer : γ → ItemAnswer α} {wideAnswer : δ → ItemAnswer β} {s : DocStore}
    (hrun : wideRun s = ((run s).1.map g, (run s).2))
    (hanswer : ∀ c, wideAnswer (g c) = (answer c).map f) :
    reply wideAnswer wideRun s =
      ((reply answer run s).1.map (·.map (ItemAnswer.map f)), (reply answer run s).2) := by
  rw [reply, reply, hrun]
  cases (run s).1 with
  | error cause => rfl
  | ok c => simp only [Except.map, Option.map_some, hanswer]

section Widened

variable {x : Accessor DocStore α} {wide : Entity β} {f : α → β} (h : wide.Widens f x.entity)
  (s : DocStore)

include h

theorem drained_widened (g : Feed) :
    (x.widened wide).drained g s =
      ((x.drained g s).1.map (·.map (ItemAnswer.map f)), (x.drained g s).2) := by
  have hfetch : g.fetchAll (x.widened wide).handle.driver (x.widened wide).entity.decode
      maxPosition s = _ := fetchAll_widened h x.handle.driver maxPosition g s
  rw [drained, drained, drainedBy, drainedBy, hfetch]
  generalize g.fetchAll x.handle.driver x.entity.decode maxPosition s = result
  obtain ⟨items, behind, s'⟩ := result
  cases items with
  | none => rfl
  | some items =>
      cases items with
      | error cause => rfl
      | ok xs => rfl

/-- A call with items of a wider type has the answer of the call with the items themselves, and
leaves the same store. -/
theorem answer_widened (call : ItemCall α) :
    (x.widened wide).answer s (call.map f) =
      ((x.answer s call).1.map (·.map (ItemAnswer.map f)), (x.answer s call).2) := by
  cases call with
  | create fresh item p => exact reply_widened (create_widened h s item _ _) fun _ => rfl
  | read id partition p => exact reply_widened (read?_widened h s id partition _) fun _ => rfl
  | readOrErr id partition p => exact reply_widened (read_widened h s id partition _) fun _ => rfl
  | replace id partition item p =>
      exact reply_widened (replace_widened h s id partition item _) fun _ => rfl
  | delete i partition p =>
      have hsame : (x.widened wide).delete i partition (optionsOf p) s =
          ((x.delete i partition (optionsOf p) s).1.map id,
            (x.delete i partition (optionsOf p) s).2) := by
        rw [Except.map_id]
        rfl
      exact reply_widened hsame fun _ => rfl
  | readAll p => exact drained_widened h s (x.readAll (optionsOf p))

end Widened

end Accessor

end DocAccess.Accessors
