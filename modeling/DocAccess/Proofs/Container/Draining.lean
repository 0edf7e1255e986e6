import DocAccess.Container.Feed
import DocAccess.Proofs.Container.Resource
import DocAccess.Proofs.Store.Results

/-!
# Draining a feed

Against a store in memory that nobody changes meanwhile, a feed gives the documents that its query
selects, whatever the size of the pages.  Each page that is not the last one is full, so that the
pages needed are never more than the documents left, or one if there is none.
-/

namespace DocAccess.Container

open DocAccess.Document DocAccess.Query DocAccess.Store

namespace Feed

variable {α : Type} {decode : Decoder α}

/-! ### Exhausted feeds -/

section Exhausted

variable {σ : Type} {d : Driver σ} {f : Feed} (hdone : f.hasMore = false)

include hdone

theorem next?_of_exhausted (s : σ) : next? d decode f s = (none, f, s) := by
  rw [next?, if_neg (by simp [hdone])]

theorem drain_of_exhausted (fuel : Nat) (s : σ) :
    drain d decode fuel f s = (some (.ok []), f, s) := by
  cases fuel with
  | zero => simp [drain, hdone]
  | succ fuel => rw [drain, next?_of_exhausted hdone]

theorem stream_of_exhausted (fuel : Nat) (s : σ) : stream d decode fuel f s = (some [], s) := by
  cases fuel with
  | zero => simp [stream, hdone]
  | succ fuel => rw [stream, next?_of_exhausted hdone]

end Exhausted

/-- The documents that a feed selects from a container, in ascending order of their addresses. -/
def selected (f : Feed) (filter : Filter) (c : Collection) : List Value :=
  (c.selected filter f.query).map (·.2)

/-- A feed with another continuation, behind its first page or before it. -/
def standing (f : Feed) (token : Option String) (started : Bool) : Feed :=
  { f with continuation := token, started := started }

/-! ### One page -/

section Asked

variable {s : DocStore} {stamps : Nat → Stamp} {f : Feed} (hmore : f.hasMore = true)

include hmore

/-- A feed asks the store for its page and goes on behind that, or behind nothing. -/
theorem next?_memory :
    next? (memoryDriver stamps) decode f s =
      (some (itemsOf decode (s.query? f.container f.query f.continuation f.options)),
        f.advance (s.query? f.container f.query f.continuation f.options), s) := by
  rw [next?, if_pos hmore]
  rfl

variable {start : Nat} (htoken : startOf? f.continuation = .ok start)

include htoken

/-- From a position a feed gets a page of the results. -/
theorem next?_of_start {found : List Value} (hfound : s.results? f.container f.query = .ok found) :
    next? (memoryDriver stamps) decode f s =
      (some (fromResources decode (Page.cut found start (s.pageSizeFor f.options)).items),
        f.standing (Page.cut found start (s.pageSizeFor f.options)).continuation true, s) := by
  rw [next?_memory hmore, s.query?_of_startOf? f.container f.query htoken, hfound]
  rfl

/-- A query that fails does so from every position. -/
theorem next?_of_error {cause : StoreError}
    (hfailed : s.results? f.container f.query = .error cause) :
    next? (memoryDriver stamps) decode f s = (some (.error cause), f.standing none true, s) := by
  rw [next?_memory hmore, s.query?_of_startOf? f.container f.query htoken, hfailed]
  rfl

end Asked

/-! ### All pages -/

section Drained

variable {s : DocStore} {stamps : Nat → Stamp} {f : Feed} {found : List Value}
  (hfound : s.results? f.container f.query = .ok found) (hroom : found.length ≤ maxPosition)

include hfound hroom

/-- A feed that stands at a position where something is left, or at the first one, gives all that is
left.  The induction is on the pages still allowed, as many as there are documents left. -/
theorem drain_of_start {fuel start : Nat} (hmore : f.hasMore = true)
    (htoken : startOf? f.continuation = .ok start)
    (hfuel : max 1 (found.length - start) ≤ fuel) :
    ∃ behind, drain (memoryDriver stamps) decode fuel f s =
      (some (fromResources decode (found.drop start)), behind, s) := by
  induction fuel generalizing f start with
  | zero => omega
  | succ fuel ih =>
      have hsize : 1 ≤ s.pageSizeFor f.options := Nat.le_max_right _ _
      have hcontinuation := cut_continuation hroom start (s.pageSizeFor f.options)
      -- what is left is this page and what is left behind it
      rw [drain, next?_of_start hmore htoken hfound,
        ← cut_items_append hroom start (s.pageSizeFor f.options), fromResources_append]
      cases fromResources decode (Page.cut found start (s.pageSizeFor f.options)).items with
      | error e => exact ⟨_, rfl⟩
      | ok items =>
          by_cases hleft : start + s.pageSizeFor f.options < found.length
          · rw [if_pos hleft] at hcontinuation
            have htoken' := startOf?_toString (n := start + s.pageSizeFor f.options) (by omega)
            obtain ⟨behind, hdrain⟩ :=
              ih (f := f.standing (some (toString (start + s.pageSizeFor f.options))) true) hfound
                rfl htoken' (by omega)
            rw [hcontinuation]
            simp only [hdrain]
            cases fromResources decode (found.drop (start + s.pageSizeFor f.options)) with
            | error e => exact ⟨_, rfl⟩
            | ok rest => exact ⟨_, rfl⟩
          · rw [if_neg hleft] at hcontinuation
            have hnone : found.drop (start + s.pageSizeFor f.options) = [] :=
              List.drop_eq_nil_of_le (Nat.le_of_not_lt hleft)
            rw [hcontinuation, hnone]
            simp only [drain_of_exhausted (f := f.standing none true) rfl]
            exact ⟨_, rfl⟩

/-- From its first page on, wherever it stood before, a feed gives all results. -/
theorem fetchAll_of_results {bound : Nat} (hbound : max 1 found.length ≤ bound) :
    ∃ behind, fetchAll (memoryDriver stamps) decode bound f s =
      (some (fromResources decode found), behind, s) :=
  drain_of_start (f := f.reset) hfound hroom rfl rfl hbound

end Drained

/-- Draining a feed from its first page on gives the documents that its query selects, read as
values, and leaves the store as it is. -/
theorem fetchAll_memory {s : DocStore} (stamps : Nat → Stamp) (decode : Decoder α) {f : Feed}
    {c : Collection} {filter : Filter} (hcontainer : s.collections.find? f.container = some c)
    (hparameters : checkParameters f.query = .ok ())
    (hfilter : Filter.ofText? f.query.text = .ok filter)
    (hall : ∀ d ∈ c.items.values, ∃ passes, filter.passes? f.query d = .ok passes)
    (hroom : c.items.size ≤ maxPosition) {bound : Nat} (hbound : max 1 c.items.size ≤ bound) :
    ∃ behind, fetchAll (memoryDriver stamps) decode bound f s =
      (some (fromResources decode (f.selected filter c)), behind, s) := by
  have hlength : (f.selected filter c).length ≤ c.items.size := by
    rw [selected, List.length_map]
    exact List.length_filter_le _ _
  have hfound : s.results? f.container f.query = .ok (f.selected filter c) := by
    refine (results?_eq_ok_iff s f.container f.query _).mpr
      ⟨filter, c, hparameters, hfilter, hcontainer, fun a d hd => hall d ?_, rfl⟩
    exact List.mem_map_of_mem ((c.items.mem_entries a d).mpr hd)
  exact fetchAll_of_results hfound (by omega) (by omega)

end Feed

end DocAccess.Container
