import DocAccess.Proofs.Query.Evaluation
import DocAccess.Proofs.Store.Paging

/-!
# The results of a query

A query has results if it is accepted, its container exists and each document in there can be
evaluated.  The results are the selected documents, so that they depend on the parameters of the
query and on what its filter says of each document, and on nothing else of its text.

* `results?_eq_ok_iff` — when there are results, and which.
* `query?_congr` — queries that say the same of every document give the same pages.
* `selected_sublist` — a query that says more of every document has fewer results.
-/

namespace DocAccess.Store

open DocAccess.Document DocAccess.Query

/-! ### Successful queries -/

theorem matching?_eq_ok_iff (f : Filter) (q : Prepared) (documents found : List Value) :
    matching? f q documents = .ok found ↔
      (∀ d ∈ documents, ∃ passes, f.passes? q d = .ok passes) ∧
        found = documents.filter (selects f q) := by
  induction documents generalizing found with
  | nil => simp [matching?, eq_comm]
  | cons d rest ih =>
      rw [matching?, List.forall_mem_cons, List.filter_cons]
      cases hpasses : f.passes? q d with
      | error cause => simp
      | ok passes =>
          have hselects : selects f q d = passes := by simp [selects, hpasses]
          simp only [bind_eq_ok_iff, ih, pure, Except.pure, Except.ok.injEq, hselects,
            exists_eq', true_and]
          constructor
          · rintro ⟨_, ⟨hall, rfl⟩, rfl⟩
            exact ⟨hall, rfl⟩
          · rintro ⟨hall, rfl⟩
            exact ⟨_, ⟨hall, rfl⟩, rfl⟩

/-- A query has results if it is accepted, its container exists and each document in there can be
evaluated; the results are the selected documents. -/
theorem results?_eq_ok_iff (s : DocStore) (container : String) (q : Prepared)
    (found : List Value) :
    s.results? container q = .ok found ↔
      ∃ f c, checkParameters q = .ok () ∧ Filter.ofText? q.text = .ok f ∧
        s.collections.find? container = some c ∧
        (∀ a d, c.items.find? a = some d → ∃ passes, f.passes? q d = .ok passes) ∧
        found = (c.selected f q).map (·.2) := by
  -- what is asked of each value in the row is asked of each document at its address
  have hvalues : ∀ (c : Collection) (f : Filter), matching? f q c.items.values = .ok found ↔
      (∀ a d, c.items.find? a = some d → ∃ passes, f.passes? q d = .ok passes) ∧
        found = (c.selected f q).map (·.2) := by
    intro c f
    rw [matching?_eq_ok_iff, Table.values, List.filter_map, List.forall_mem_map]
    refine and_congr_left fun _ => ⟨fun h a d hd => ?_, fun h entry hentry => ?_⟩
    · exact h (a, d) ((c.items.mem_entries a d).mpr hd)
    · exact h entry.1 entry.2 ((c.items.mem_entries _ _).mp hentry)
  simp only [DocStore.results?]
  constructor
  · intro h
    obtain ⟨_, hparameters, hrest⟩ := (bind_eq_ok_iff _ _ _).mp h
    split at hrest
    · next f hfilter =>
        replace hrest : (s.collection? container >>= fun c => matching? f q c.items.values) =
          .ok found := hrest
        obtain ⟨c, hcontainer, hmatching⟩ := (bind_eq_ok_iff _ _ _).mp hrest
        obtain ⟨hall, hfound⟩ := (hvalues c f).mp hmatching
        exact ⟨f, c, hparameters, hfilter, (collection?_eq_ok_iff _ _ _).mp hcontainer, hall,
          hfound⟩
    · cases hrest
  · rintro ⟨f, c, hparameters, hfilter, hcontainer, hall, hfound⟩
    rw [hparameters, hfilter, (collection?_eq_ok_iff _ _ _).mpr hcontainer]
    exact (hvalues c f).mpr ⟨hall, hfound⟩

/-- A filter whose parameters are bound can be evaluated everywhere, so that its query has results
wherever its container exists. -/
theorem results?_of_bound {s : DocStore} {container : String} {q : Prepared} {f : Filter}
    {c : Collection} (hparameters : checkParameters q = .ok ())
    (hfilter : Filter.ofText? q.text = .ok f) (hbound : f.Bound q)
    (hcontainer : s.collections.find? container = some c) :
    s.results? container q = .ok ((c.selected f q).map (·.2)) := by
  refine (results?_eq_ok_iff s container q _).mpr ⟨f, c, hparameters, hfilter, hcontainer, ?_, rfl⟩
  intro a d _
  obtain ⟨passes, hpasses, -⟩ := Filter.passes?_of_bound hbound d
  exact ⟨passes, hpasses⟩

/-! ### Queries that say the same -/

section Congruence

variable {q q' : Prepared} {f f' : Filter}

theorem matching?_congr (hpasses : ∀ d, f'.passes? q' d = f.passes? q d)
    (documents : List Value) : matching? f' q' documents = matching? f q documents := by
  induction documents with
  | nil => rfl
  | cons d rest ih => rw [matching?, matching?, hpasses, ih]

theorem checkParameters_congr (hsame : q'.parameters = q.parameters) :
    checkParameters q' = checkParameters q := by
  rw [checkParameters, checkParameters, hsame]

/-- Accepted queries whose filters say the same of every document give the same pages. -/
theorem query?_congr (hparameters : checkParameters q' = checkParameters q)
    (hfilter : Filter.ofText? q.text = .ok f) (hfilter' : Filter.ofText? q'.text = .ok f')
    (hpasses : ∀ d, f'.passes? q' d = f.passes? q d) (s : DocStore) (container : String)
    (token : Option String) (o : Options) :
    s.query? container q' token o = s.query? container q token o := by
  simp only [DocStore.query?, hparameters, hfilter, hfilter', pure_bind, matching?_congr hpasses]

/-- A filter that lets pass less selects less, in the same order. -/
theorem selected_sublist (hless : ∀ d, selects f' q' d = true → selects f q d = true)
    (c : Collection) : (c.selected f' q').Sublist (c.selected f q) :=
  List.monotone_filter_right _ fun entry h => hless entry.2 h

end Congruence

end DocAccess.Store
