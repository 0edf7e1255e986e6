import DocAccess.Proofs.Store.Results

/-!
# Parameters without a binding

A parameter is looked up when a predicate is tried on a document, and not before.  So a query with a
parameter that is not bound is refused only if a document gets as far as this parameter: all
predicates in front of it hold of the document.  Which documents are stored and in which order the
conjuncts stand decides that.  Without documents nothing is looked up and nothing is refused.

* `Filter.passes?_eq_error_iff` — when a document stops a filter.
* `matching?_eq_error_iff` — the first document that stops a filter decides.
* `query?_unbound_iff_reached` — the result: when a query is refused, and what it answers if not.
-/

namespace DocAccess

/-! ### Rows -/

section Rows

variable {α : Type} {passed stops : α → Prop}

/-- Who goes through a row in order stops in it: one element stops him, and he passes all in front
of that. -/
def StopsIn (passed stops : α → Prop) (row : List α) : Prop :=
  ∃ (before : List α) (x : α) (after : List α),
    row = before ++ x :: after ∧ (∀ b ∈ before, passed b) ∧ stops x

theorem not_stopsIn_nil : ¬ StopsIn passed stops [] := by
  rintro ⟨before, x, after, hsplit, -⟩
  simp at hsplit

theorem stopsIn_cons_iff (x : α) (rest : List α) :
    StopsIn passed stops (x :: rest) ↔ stops x ∨ (passed x ∧ StopsIn passed stops rest) := by
  constructor
  · rintro ⟨before, y, after, hsplit, hbefore, hstops⟩
    cases before with
    | nil =>
        obtain ⟨rfl, -⟩ := List.cons.inj hsplit
        exact Or.inl hstops
    | cons first before =>
        obtain ⟨rfl, rfl⟩ := List.cons.inj hsplit
        obtain ⟨hfirst, hbefore⟩ := List.forall_mem_cons.mp hbefore
        exact Or.inr ⟨hfirst, before, y, after, rfl, hbefore, hstops⟩
  · rintro (hstops | ⟨hfirst, before, y, after, rfl, hbefore, hstops⟩)
    · exact ⟨[], x, rest, rfl, by simp, hstops⟩
    · exact ⟨x :: before, y, after, rfl, List.forall_mem_cons.mpr ⟨hfirst, hbefore⟩, hstops⟩

end Rows

end DocAccess

namespace DocAccess.Query

open DocAccess.Document DocAccess.Store

/-! ### One document -/

/-- A predicate asks for a parameter that a query does not bind. -/
def Predicate.Lacks (q : Prepared) (name : String) (p : Predicate) : Prop :=
  p.operand = .parameter name ∧ ¬ p.operand.Bound q

instance (q : Prepared) (name : String) (p : Predicate) : Decidable (p.Lacks q name) :=
  match h : p.operand with
  | .literal _ => isFalse fun hlacks => nomatch h.symm.trans hlacks.1
  | .parameter own =>
      decidable_of_iff (own = name ∧ ¬ (Operand.parameter own).Bound q)
        (by simp [Predicate.Lacks, h])

/-- A document stops a filter at a parameter without a binding: all predicates in front of the
parameter hold. -/
def Filter.StopsAt (q : Prepared) (document : Value) (name : String) (f : Filter) : Prop :=
  StopsIn (Predicate.Holds q document) (Predicate.Lacks q name) f

theorem Operand.Denotes.bound {q : Prepared} {operand : Operand} {value : Value}
    (h : operand.Denotes q value) : operand.Bound q := by
  cases h with
  | literal => trivial
  | @parameter name _ before after hsplit _ =>
      refine ⟨⟨name, value⟩, ?_, rfl⟩
      simp [hsplit]

/-- A predicate that holds has an operand with a value. -/
theorem Predicate.Holds.bound {q : Prepared} {document : Value} {p : Predicate}
    (h : p.Holds q document) : p.operand.Bound q := by
  cases p with
  | compare path negated operand =>
      obtain ⟨actual, expected, -, hdenotes, -⟩ := h
      exact hdenotes.bound
  | test kind path operand =>
      obtain ⟨whole, part, -, hdenotes, -⟩ := h
      exact hdenotes.bound

/-- Only a parameter without a binding cannot be resolved. -/
theorem Operand.resolve?_of_not_bound {q : Prepared} {operand : Operand}
    (hunbound : ¬ operand.Bound q) :
    ∃ name, operand = .parameter name ∧ operand.resolve? q = .error (.unbound name) := by
  cases operand with
  | literal value => exact absurd trivial hunbound
  | parameter name =>
      refine ⟨name, rfl, ?_⟩
      cases hvalue : q.parameter? name with
      | none => simp [Operand.resolve?, hvalue]
      | some value =>
          have hresolve : (Operand.parameter name).resolve? q = .ok value := by
            simp [Operand.resolve?, hvalue]
          exact absurd ((Operand.resolve?_eq_ok_iff q _ value).mp hresolve).bound hunbound

/-- Whatever its form, a predicate resolves its operand before it looks at the document. -/
theorem Predicate.holds?_of_not_bound {q : Prepared} {p : Predicate}
    (hunbound : ¬ p.operand.Bound q) (document : Value) :
    ∃ name, p.operand = .parameter name ∧ p.holds? q document = .error (.unbound name) := by
  obtain ⟨name, hoperand, hresolve⟩ := Operand.resolve?_of_not_bound hunbound
  refine ⟨name, hoperand, ?_⟩
  cases p with
  | compare path negated operand =>
      unfold Predicate.operand at hresolve
      simp [Predicate.holds?, hresolve, bind, Except.bind]
  | test kind path operand =>
      unfold Predicate.operand at hresolve
      simp [Predicate.holds?, hresolve, bind, Except.bind]

variable (q : Prepared) (document : Value)

/-- A document cannot be evaluated exactly if it stops the filter at some parameter. -/
theorem Filter.passes?_eq_error_iff (f : Filter) (cause : Refusal) :
    f.passes? q document = .error cause ↔
      ∃ name, Filter.StopsAt q document name f ∧ cause = .unbound name := by
  induction f with
  | nil => simp [Filter.passes?, Filter.StopsAt, not_stopsIn_nil]
  | cons p rest ih =>
      unfold Filter.StopsAt at ih ⊢
      simp only [stopsIn_cons_iff, Filter.passes?, Predicate.Lacks]
      by_cases hbound : p.operand.Bound q
      · obtain ⟨holds, hholds, hiff⟩ := Predicate.holds?_of_bound hbound document
        cases holds with
        | false =>
            -- a bound predicate that fails ends the row, whatever stands behind it
            have hnot : ¬ p.Holds q document := fun h => Bool.false_ne_true (hiff.mpr h)
            simp [hholds, hbound, hnot, bind, Except.bind, pure, Except.pure]
        | true =>
            have hyes : p.Holds q document := hiff.mp rfl
            simp [hholds, hbound, hyes, ih, bind, Except.bind]
      · obtain ⟨name, hoperand, hholds⟩ := Predicate.holds?_of_not_bound hbound document
        have hnot : ¬ p.Holds q document := fun h => hbound h.bound
        rw [hoperand] at hbound
        simp [hholds, hoperand, hbound, hnot, bind, Except.bind, eq_comm]

/-- A document that stops a filter does so at one parameter. -/
theorem Filter.StopsAt.unique {q : Prepared} {document : Value} {f : Filter} {name other : String}
    (h : Filter.StopsAt q document name f) (hother : Filter.StopsAt q document other f) :
    name = other := by
  have hpasses := (Filter.passes?_eq_error_iff q document f _).mpr ⟨name, h, rfl⟩
  have hpasses' := (Filter.passes?_eq_error_iff q document f _).mpr ⟨other, hother, rfl⟩
  simpa using hpasses.symm.trans hpasses'

end DocAccess.Query

namespace DocAccess.Store

open DocAccess.Document DocAccess.Query

/-! ### All documents -/

/-- Some document stops a filter, and the first that does stops it at a parameter. -/
def FirstStops (f : Filter) (q : Prepared) (name : String) (documents : List Value) : Prop :=
  StopsIn (fun b => ∀ other, ¬ Filter.StopsAt q b other f) (Filter.StopsAt q · name f) documents

/-- The first document that stops a filter is why a row of documents has no results. -/
theorem matching?_eq_error_iff (f : Filter) (q : Prepared) (documents : List Value)
    (e : StoreError) :
    matching? f q documents = .error e ↔
      ∃ name, FirstStops f q name documents ∧ e = .badRequest (.unbound name) := by
  induction documents with
  | nil => simp [matching?, FirstStops, not_stopsIn_nil]
  | cons d rest ih =>
      unfold FirstStops at ih ⊢
      simp only [stopsIn_cons_iff, matching?]
      -- the first document ends the row, or it is passed over and the rest decides
      cases hpasses : f.passes? q d with
      | error cause =>
          obtain ⟨name, hstops, rfl⟩ := (Filter.passes?_eq_error_iff q d f cause).mp hpasses
          constructor
          · rintro ⟨⟩
            exact ⟨name, Or.inl hstops, rfl⟩
          · rintro ⟨other, hother | ⟨hnone, -⟩, rfl⟩
            · rw [hstops.unique hother]
            · exact absurd hstops (hnone name)
      | ok passes =>
          have hnone : ∀ other, ¬ Filter.StopsAt q d other f := by
            intro other hstops
            have herror := (Filter.passes?_eq_error_iff q d f _).mpr ⟨other, hstops, rfl⟩
            rw [hpasses] at herror
            cases herror
          simp [hnone, bind_eq_error_iff, ih, pure, Except.pure]

/-! ### Queries -/

theorem Page.cut_nil (start size : Nat) : Page.cut [] start size = Page.empty := by
  have hslice : (slice? ([] : List Value) start 0).getD [] = [] := by
    unfold slice?
    split <;> simp
  simp [Page.cut, Page.empty, hslice]

/-- What a query answers whose parameters are looked up on the documents.  It is refused exactly if
some document comes to a parameter without a binding, the first in ascending order of the addresses
at the parameter that the refusal names; otherwise it answers with the documents that it selects.
In particular a container without documents answers every accepted query, and where the first
conjunct lacks its binding every document is enough for a refusal. -/
theorem query?_unbound_iff_reached {s : DocStore} {container : String} {c : Collection}
    {q : Prepared} {f : Filter} {token : Option String} {start : Nat}
    (hcontainer : s.collections.find? container = some c) (hparameters : checkParameters q = .ok ())
    (hfilter : Filter.ofText? q.text = .ok f) (htoken : startOf? token = .ok start) (o : Options) :
    (∀ name, s.query? container q token o = .error (.badRequest (.unbound name)) ↔
      FirstStops f q name c.items.values) ∧
    ((∃ name, s.query? container q token o = .error (.badRequest (.unbound name))) ∨
      s.query? container q token o =
        .ok (Page.cut ((c.selected f q).map (·.2)) start (s.pageSizeFor o))) ∧
    (c.items.values = [] → s.query? container q token o = .ok Page.empty) ∧
    ∀ p rest name, f = p :: rest → p.Lacks q name → c.items.values ≠ [] →
      s.query? container q token o = .error (.badRequest (.unbound name)) := by
  have hquery := query?_of_start hcontainer hparameters hfilter htoken o
  have hiff : ∀ name, s.query? container q token o = .error (.badRequest (.unbound name)) ↔
      FirstStops f q name c.items.values := by
    intro name
    have hmatching := matching?_eq_error_iff f q c.items.values (.badRequest (.unbound name))
    simp only [StoreError.badRequest.injEq, Refusal.unbound.injEq, exists_eq_right'] at hmatching
    rw [← hmatching, hquery]
    cases matching? f q c.items.values with
    | error e => simp [Except.map]
    | ok found => simp [Except.map]
  have hcases : (∃ name, s.query? container q token o = .error (.badRequest (.unbound name))) ∨
      s.query? container q token o =
        .ok (Page.cut ((c.selected f q).map (·.2)) start (s.pageSizeFor o)) := by
    rcases c.matching?_cases f q with hall | ⟨_, d, cause, -, hcause, herror⟩
    · exact Or.inr (by rw [hquery, hall]; rfl)
    · obtain ⟨name, -, rfl⟩ := (Filter.passes?_eq_error_iff q d f cause).mp hcause
      exact Or.inl ⟨name, by rw [hquery, herror]; rfl⟩
  refine ⟨hiff, hcases, ?_, ?_⟩
  · intro hempty
    rw [hquery, hempty]
    simp [matching?, Except.map, Page.cut_nil]
  · rintro p rest name rfl hlacks hsome
    obtain ⟨d, others, hvalues⟩ := List.exists_cons_of_ne_nil hsome
    rw [hiff, hvalues, FirstStops, stopsIn_cons_iff]
    -- no predicate stands in front of the first, so the first document reaches it
    exact Or.inl ((stopsIn_cons_iff p rest).mpr (Or.inl hlacks))

/-- A query for one identifier, with a conjunct behind it that lacks its binding. -/
def lackingSecond : Prepared := .ofText "SELECT * FROM c WHERE c.id = 'c' AND c.kind = @kind"

/-- The same conjuncts in the other order. -/
def lackingFirst : Prepared := .ofText "SELECT * FROM c WHERE c.kind = @kind AND c.id = 'c'"

/-- The container of the two users without its documents. -/
def noUsers : List Action := [.install ⟨"user", "/id"⟩]

theorem query?_unbound_iff_reached_users :
    (DocStore.empty.final noUsers).query? "user" lackingFirst none .none = .ok Page.empty ∧
    (DocStore.empty.final twoUsers).query? "user" lackingFirst none .none =
      .error (.badRequest (.unbound "@kind")) := by
  have hfilter : (Filter.ofText? lackingFirst.text).toOption.map
      (fun f => f.map fun p => decide (p.Lacks lackingFirst "@kind")) = some [true, false] := by
    decide +kernel
  have hstart : startOf? none = .ok 0 := rfl
  have hnone : ((DocStore.empty.final noUsers).collections.find? "user").map (·.items.values.length) =
      some 0 := by decide +kernel
  have htwo : ((DocStore.empty.final twoUsers).collections.find? "user").map (·.items.values.length) =
      some 2 := by decide +kernel
  obtain ⟨f, hsome, hlacks⟩ := Option.map_eq_some_iff.mp hfilter
  replace hsome := (toOption_eq_some_iff _ _).mp hsome
  obtain ⟨p, rest, rfl, hfirst, -⟩ := List.map_eq_cons_iff.mp hlacks
  obtain ⟨empty, hempty, hsize⟩ := Option.map_eq_some_iff.mp hnone
  obtain ⟨c, hc, hcount⟩ := Option.map_eq_some_iff.mp htwo
  constructor
  · obtain ⟨-, -, hanswer, -⟩ :=
      query?_unbound_iff_reached hempty rfl hsome hstart .none
    apply hanswer
    exact List.length_eq_zero_iff.mp hsize
  · obtain ⟨-, -, -, hrefused⟩ :=
      query?_unbound_iff_reached hc rfl hsome hstart .none
    apply hrefused p rest "@kind" rfl (of_decide_eq_true hfirst)
    exact List.ne_nil_of_length_eq_add_one hcount

/-- Two queries that lack the same binding and differ in the order of their conjuncts: one is
answered by a container with documents, and the other one by a container without. -/
theorem query?_answers_unbound :
    (∀ q ∈ [lackingSecond, lackingFirst], checkParameters q = .ok () ∧
      ∃ f, Filter.ofText? q.text = .ok f ∧ ¬ f.Bound q) ∧
    (∃ page, (DocStore.empty.final noUsers).query? "user" lackingFirst none .none = .ok page) ∧
    (∃ page, (DocStore.empty.final twoUsers).query? "user" lackingSecond none .none = .ok page) ∧
    ∀ page, (DocStore.empty.final twoUsers).query? "user" lackingFirst none .none ≠ .ok page := by
  have hlacking : ∀ q ∈ [lackingSecond, lackingFirst], (checkParameters q).toOption.isSome = true ∧
      (Filter.ofText? q.text).toOption.map (fun f => decide (f.Bound q)) = some false := by
    decide +kernel
  have hanswers : [((DocStore.empty.final noUsers).query? "user" lackingFirst none .none),
      (DocStore.empty.final twoUsers).query? "user" lackingSecond none .none,
      (DocStore.empty.final twoUsers).query? "user" lackingFirst none .none].map
        (·.toOption.isSome) = [true, true, false] := by decide +kernel
  simp only [List.map_cons, List.cons.injEq] at hanswers
  obtain ⟨hempty, hsecond, hfirst, -⟩ := hanswers
  refine ⟨fun q hq => ?_, ?_, ?_, ?_⟩
  · obtain ⟨hparameters, hfilter⟩ := hlacking q hq
    obtain ⟨⟨⟩, hparameters⟩ := Option.isSome_iff_exists.mp hparameters
    obtain ⟨f, hf, hbound⟩ := Option.map_eq_some_iff.mp hfilter
    exact ⟨(toOption_eq_some_iff _ _).mp hparameters, f, (toOption_eq_some_iff _ _).mp hf,
      of_decide_eq_false hbound⟩
  · obtain ⟨page, hpage⟩ := Option.isSome_iff_exists.mp hempty
    exact ⟨page, (toOption_eq_some_iff _ _).mp hpage⟩
  · obtain ⟨page, hpage⟩ := Option.isSome_iff_exists.mp hsecond
    exact ⟨page, (toOption_eq_some_iff _ _).mp hpage⟩
  · intro page hpage
    rw [(toOption_eq_some_iff _ _).mpr hpage] at hfirst
    cases hfirst

end DocAccess.Store
