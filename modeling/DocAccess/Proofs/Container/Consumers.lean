import DocAccess.Proofs.Container.Draining

/-!
# Ways to consume a feed

A feed can be asked for one page after the other, streamed item by item, or fetched as a whole, and
all three go through one state.  As long as the store stays as it is, that state is always a position
in one list, that of the results: every earlier use of the feed has left it at such a position or at
the end.  So the ways agree, wherever the list is cut into pages and whatever was done before.

* `Reached.stands` — what every use of a feed keeps.
* `consume_of_start` — page by page and item by item, a feed gives what is left of the results.
* `consumers_agree` — the result.
-/

namespace DocAccess.Container

open DocAccess.Document DocAccess.Query DocAccess.Store

namespace Feed

variable {σ α : Type}

/-- The answers of a feed that is asked for pages until it is exhausted; nothing if more pages than
the bound are needed. -/
def pages (d : Driver σ) (decode : Decoder α) :
    Nat → Feed → σ → Option (List (Except StoreError (List α))) × Feed × σ
  | 0, f, s => if f.hasMore then (none, f, s) else (some [], f, s)
  | fuel + 1, f, s =>
      match next? d decode f s with
      | (none, f, s) => (some [], f, s)
      | (some answer, f, s) =>
          match pages d decode fuel f s with
          | (some rest, f, s) => (some (answer :: rest), f, s)
          | other => other

/-- The states of a feed that may be reached by its uses, while the state of the driver is what it
is. -/
inductive Reached (d : Driver σ) (decode : Decoder α) (s : σ) (container : String) (q : Prepared) :
    Feed → Prop
  | start (o : Options) : Reached d decode s container q (.start container q o)
  | next {f : Feed} (h : Reached d decode s container q f) :
      Reached d decode s container q (next? d decode f s).2.1
  | fetchAll {f : Feed} (h : Reached d decode s container q f) (bound : Nat) :
      Reached d decode s container q (fetchAll d decode bound f s).2.1
  | reset {f : Feed} (h : Reached d decode s container q f) :
      Reached d decode s container q f.reset

/-! ### Positions -/

/-- What it means that a feed of a query stands at a position: its continuation is one, and it has
none before its first page. -/
structure Stands (container : String) (q : Prepared) (f : Feed) : Prop where
  container_eq : f.container = container
  query_eq : f.query = q
  position : ∃ start, startOf? f.continuation = .ok start
  fresh : f.started = false → f.continuation = none

section Standing

variable {s : DocStore} {stamps : Nat → Stamp} {decode : Decoder α} {container : String}
  {q : Prepared} (hroom : ∀ found, s.results? container q = .ok found → found.length ≤ maxPosition)

theorem Stands.reset {f : Feed} (h : f.Stands container q) : f.reset.Stands container q where
  container_eq := h.container_eq
  query_eq := h.query_eq
  position := ⟨0, rfl⟩
  fresh _ := rfl

theorem Stands.standing {f : Feed} (h : f.Stands container q) {token : Option String} {start : Nat}
    (htoken : startOf? token = .ok start) : (f.standing token true).Stands container q where
  container_eq := h.container_eq
  query_eq := h.query_eq
  position := ⟨start, htoken⟩
  fresh hstarted := absurd hstarted (by simp [Feed.standing])

include hroom

/-- Asking for a page leaves a feed at a position, even where the page fails. -/
theorem Stands.next {f : Feed} (h : f.Stands container q) :
    (next? (memoryDriver stamps) decode f s).2.1.Stands container q ∧
      (next? (memoryDriver stamps) decode f s).2.2 = s := by
  obtain ⟨start, hstart⟩ := h.position
  have hcontainer := h.container_eq
  have hquery := h.query_eq
  subst hcontainer hquery
  cases hmore : f.hasMore with
  | false =>
      rw [next?, if_neg (by simp [hmore])]
      exact ⟨h, rfl⟩
  | true =>
      have hfirst : startOf? none = .ok 0 := rfl
      cases hresults : s.results? f.container f.query with
      -- a page that fails takes the continuation with it, and none stands for the first position
      | error cause =>
          rw [next?_of_error hmore hstart hresults]
          exact ⟨h.standing hfirst, rfl⟩
      | ok found =>
          have hlength := hroom found hresults
          rw [next?_of_start hmore hstart hresults, cut_continuation hlength]
          refine ⟨?_, rfl⟩
          split
          · exact h.standing (startOf?_toString (by omega))
          · exact h.standing hfirst

theorem Stands.drain {f : Feed} (h : f.Stands container q) (fuel : Nat) :
    (drain (memoryDriver stamps) decode fuel f s).2.1.Stands container q := by
  induction fuel generalizing f with
  | zero =>
      rw [Feed.drain]
      split <;> exact h
  | succ fuel ih =>
      have hnext : (next? (memoryDriver stamps) decode f s).2.1.Stands container q :=
        (h.next hroom).1
      have hstore : (next? (memoryDriver stamps) decode f s).2.2 = s := (h.next hroom).2
      rw [Feed.drain]
      generalize next? (memoryDriver stamps) decode f s = answer at hnext hstore
      obtain ⟨answer, behind, after⟩ := answer
      obtain rfl : after = s := hstore
      -- an answer that is no page ends the draining; behind a page it goes on
      cases answer with
      | none => exact hnext
      | some answer =>
          cases answer with
          | error cause => exact hnext
          | ok items =>
              have hrest := ih hnext
              simp only
              generalize Feed.drain (memoryDriver stamps) decode fuel behind after = rest at hrest
              obtain ⟨rest, last, final⟩ := rest
              split
              · next heq =>
                  cases heq
                  exact hrest
              · exact hrest

/-- Every use of a feed leaves it at a position. -/
theorem Reached.stands {f : Feed}
    (h : Reached (memoryDriver stamps) decode s container q f) : f.Stands container q := by
  induction h with
  | start o => exact ⟨rfl, rfl, ⟨0, rfl⟩, fun _ => rfl⟩
  | next _ ih => exact (ih.next hroom).1
  | fetchAll _ bound ih => exact ih.reset.drain hroom bound
  | reset _ ih => exact ih.reset

end Standing

/-! ### What is left -/

section Decoded

variable {s : DocStore} {stamps : Nat → Stamp} {decode : Decoder α} {f : Feed}

theorem pages_of_exhausted (hdone : f.hasMore = false) (fuel : Nat) :
    pages (memoryDriver stamps) decode fuel f s = (some [], f, s) := by
  cases fuel with
  | zero => simp [pages, hdone]
  | succ fuel => rw [pages, next?_of_exhausted hdone]

variable {found : List Value} {items : List α}
  (hread : List.Forall₂ (fun d item => fromResource decode d = .ok item) found items)

include hread

theorem fromResources_cut (hroom : found.length ≤ maxPosition) (start size : Nat) :
    fromResources decode (Page.cut found start size).items = .ok ((items.drop start).take size) := by
  rw [cut_items hroom]
  exact fromResources_of_forall₂ (List.forall₂_take _ (List.forall₂_drop _ hread))

/-- If all results can be read, a feed at a position gives the values from there on, page by page as
well as item by item. -/
theorem consume_of_start (stamps : Nat → Stamp) (hfound : s.results? f.container f.query = .ok found)
    (hroom : found.length ≤ maxPosition) {fuel start : Nat} (hmore : f.hasMore = true)
    (htoken : startOf? f.continuation = .ok start)
    (hfuel : max 1 (found.length - start) ≤ fuel) :
    ∃ (lists : List (List α)) (behind : Feed), pages (memoryDriver stamps) decode fuel f s =
        (some (lists.map .ok), behind, s) ∧
      lists.flatten = items.drop start ∧
      stream (memoryDriver stamps) decode fuel f s = (some ((items.drop start).map .ok), s) := by
  induction fuel generalizing f start with
  | zero => omega
  | succ fuel ih =>
      have hsize : 1 ≤ s.pageSizeFor f.options := Nat.le_max_right _ _
      have hpage := fromResources_cut hread hroom start (s.pageSizeFor f.options)
      have hcontinuation := cut_continuation hroom start (s.pageSizeFor f.options)
      have hlength : found.length = items.length := hread.length_eq
      -- what is left of the values is cut in the same way as what is left of the documents
      have hsplit : items.drop start = (items.drop start).take (s.pageSizeFor f.options) ++
          items.drop (start + s.pageSizeFor f.options) := by
        rw [← List.drop_drop, List.take_append_drop]
      rw [pages, stream, next?_of_start hmore htoken hfound, hpage]
      by_cases hleft : start + s.pageSizeFor f.options < found.length
      · rw [if_pos hleft] at hcontinuation
        have htoken' := startOf?_toString (n := start + s.pageSizeFor f.options) (by omega)
        obtain ⟨lists, behind, hpages, hlists, hstream⟩ :=
          ih (f := f.standing (some (toString (start + s.pageSizeFor f.options))) true) hfound rfl
            htoken' (by omega)
        refine ⟨(items.drop start).take (s.pageSizeFor f.options) :: lists, behind, ?_, ?_, ?_⟩
        · simp only [hcontinuation, hpages]
          rfl
        · rw [List.flatten_cons, hlists, ← hsplit]
        · simp only [hcontinuation, hstream]
          rw [← List.map_append, ← hsplit]
      · rw [if_neg hleft] at hcontinuation
        have hnone : items.drop (start + s.pageSizeFor f.options) = [] :=
          List.drop_eq_nil_of_le (by omega)
        rw [hnone, List.append_nil] at hsplit
        have hdone : (f.standing none true).hasMore = false := rfl
        refine ⟨[items.drop start], f.standing none true, ?_, ?_, ?_⟩
        · simp only [hcontinuation, pages_of_exhausted hdone, ← hsplit]
          rfl
        · rw [List.flatten_singleton]
        · simp only [hcontinuation, stream_of_exhausted hdone, ← hsplit, List.append_nil]

end Decoded

/-- What fetching all results of a query gives, whatever these are: why the query fails, or what the
documents are read as. -/
inductive Fetched (decode : Decoder α) :
    Except StoreError (List Value) → Except StoreError (List α) → Prop
  | failed (cause : StoreError) : Fetched decode (.error cause) (.error cause)
  | read {found : List Value} {answer : Except StoreError (List α)}
      (hread : Reads decode found answer) : Fetched decode (.ok found) answer

/-- Fetching all results gives one answer, wherever the feed stood before and whatever the pages. -/
theorem exists_fetched {s : DocStore} {container : String} {q : Prepared} (decode : Decoder α)
    (hroom : ∀ found, s.results? container q = .ok found → found.length ≤ maxPosition) :
    ∃ answer, Fetched decode (s.results? container q) answer ∧
      ∀ (stamps : Nat → Stamp) (n bound : Nat) (f : Feed), f.container = container → f.query = q →
        1 ≤ bound → (∀ found, s.results? container q = .ok found → found.length ≤ bound) →
        ∃ behind, fetchAll (memoryDriver stamps) decode bound f (s.withPageSize n) =
          (some answer, behind, s.withPageSize n) := by
  cases hresults : s.results? container q with
  | error cause =>
      refine ⟨.error cause, .failed cause, ?_⟩
      rintro stamps n bound f rfl rfl hbound -
      obtain ⟨fuel, rfl⟩ := Nat.exists_eq_add_of_le' hbound
      refine ⟨f.standing none true, ?_⟩
      have hnext : next? (memoryDriver stamps) decode f.reset (s.withPageSize n) =
          (some (.error cause), f.standing none true, s.withPageSize n) :=
        next?_of_error (f := f.reset) rfl rfl hresults
      rw [fetchAll, drain, hnext]
  | ok found =>
      refine ⟨fromResources decode found, .read (reads_fromResources found), ?_⟩
      rintro stamps n bound f rfl rfl hbound hcount
      have hlength := hcount found rfl
      exact fetchAll_of_results (f := f) (s := s.withPageSize n) hresults (hroom found hresults)
        (by omega)

/-- A query that fails ends both ways of going through its feed. -/
theorem consume_of_error {s : DocStore} {stamps : Nat → Stamp} {decode : Decoder α} {f : Feed}
    {cause : StoreError} (hfailed : s.results? f.container f.query = .error cause) {start : Nat}
    (hmore : f.hasMore = true) (htoken : startOf? f.continuation = .ok start) (fuel : Nat) :
    pages (memoryDriver stamps) decode (fuel + 1) f s =
        (some [.error cause], f.standing none true, s) ∧
      stream (memoryDriver stamps) decode (fuel + 1) f s = (some [.error cause], s) := by
  have hdone : (f.standing none true).hasMore = false := rfl
  rw [pages, stream, next?_of_error hmore htoken hfailed]
  simp only [pages_of_exhausted hdone, and_self]

/-- What it means that a feed has some values to give, page by page and item by item. -/
structure Gives (stamps : Nat → Stamp) (decode : Decoder α) (bound : Nat) (f : Feed) (s : DocStore)
    (rest : List α) : Prop where
  pages : ∃ (lists : List (List α)) (behind : Feed),
    Feed.pages (memoryDriver stamps) decode bound f s = (some (lists.map .ok), behind, s) ∧
      lists.flatten = rest
  stream : Feed.stream (memoryDriver stamps) decode bound f s = (some (rest.map .ok), s)

/-- If all results can be read, a feed has a last part of their values to give, wherever its uses
have brought it, and all of them if it is fresh. -/
theorem exists_gives {s : DocStore} {stamps : Nat → Stamp} {decode : Decoder α} {f : Feed}
    {container : String} {q : Prepared} {found : List Value} {items : List α}
    (hfound : s.results? container q = .ok found) (hroom : found.length ≤ maxPosition)
    (hread : List.Forall₂ (fun d item => fromResource decode d = .ok item) found items)
    (hreached : Reached (memoryDriver stamps) decode s container q f) {bound : Nat}
    (hbound : max 1 found.length ≤ bound) :
    ∃ rest, f.Gives stamps decode bound s rest ∧ rest <:+ items ∧
      (f.started = false → rest = items) := by
  have hstands : f.Stands container q := by
    refine hreached.stands fun other hother => ?_
    obtain rfl := Except.ok.inj (hfound.symm.trans hother)
    exact hroom
  obtain ⟨rfl, rfl, ⟨start, hstart⟩, hfresh⟩ := hstands
  cases hmore : f.hasMore with
  | false =>
      -- nothing is left of a feed that is exhausted, and such a feed is not fresh
      have hstarted : f.started = true := by
        simp only [hasMore, Bool.or_eq_false_iff, Bool.not_eq_false'] at hmore
        exact hmore.1
      refine ⟨[], ⟨⟨[], f, pages_of_exhausted hmore bound, rfl⟩, stream_of_exhausted hmore bound s⟩,
        List.nil_suffix, ?_⟩
      rw [hstarted]
      nofun
  | true =>
      have hfuel : max 1 (found.length - start) ≤ bound := by omega
      obtain ⟨lists, behind, hpages, hlists, hstream⟩ :=
        consume_of_start hread stamps hfound hroom hmore hstart hfuel
      refine ⟨items.drop start, ⟨⟨lists, behind, hpages, hlists⟩, hstream⟩, List.drop_suffix _ _, ?_⟩
      intro hstarted
      -- without a continuation the position is the first one
      rw [hfresh hstarted] at hstart
      obtain rfl := Except.ok.inj hstart
      rfl

end Feed

/-- The results of a query are the documents that match, in ascending order of their addresses. -/
theorem listed_of_results {s : DocStore} {container : String} {q : Prepared} {found : List Value}
    (hfound : s.results? container q = .ok found) :
    ∃ (filter : Filter) (entries : List (Address × Value)), Filter.ofText? q.text = .ok filter ∧
      found = entries.map (·.2) ∧ entries.Pairwise (fun x y => x.1 < y.1) ∧
      ∀ a d, (a, d) ∈ entries ↔
        s.document? ⟨container, a⟩ = some d ∧ filter.passes? q d = .ok true := by
  obtain ⟨filter, c, -, hfilter, hcontainer, -, hentries⟩ := (results?_eq_ok_iff _ _ _ _).mp hfound
  refine ⟨filter, c.selected filter q, hfilter, hentries, c.items.ascending.filter _, ?_⟩
  intro a d
  rw [c.mem_selected, DocStore.document?_of_find? (p := ⟨container, a⟩) hcontainer]

/-- As long as a store stays as it is, fetching all results of a query gives one and the same answer,
wherever the feed stands and whatever the sizes of the pages: why the query fails, or the values of
the documents that match in the order of their addresses, or why the first of them that is no value
is none.  If all of them are values, asking for one page after the other and streaming give the same
from any state of a feed, a last part of what there is; a fresh feed gives all of it. -/
theorem consumers_agree {α : Type} {s : DocStore} {container : String} {q : Prepared}
    (decode : Decoder α)
    (hroom : ∀ found, s.results? container q = .ok found → found.length ≤ maxPosition) :
    (∀ found, s.results? container q = .ok found →
      ∃ (filter : Filter) (entries : List (Address × Value)), Filter.ofText? q.text = .ok filter ∧
        found = entries.map (·.2) ∧ entries.Pairwise (fun x y => x.1 < y.1) ∧
        ∀ a d, (a, d) ∈ entries ↔
          s.document? ⟨container, a⟩ = some d ∧ filter.passes? q d = .ok true) ∧
    (∃ answer, Feed.Fetched decode (s.results? container q) answer ∧
      ∀ (stamps : Nat → Stamp) (n bound : Nat) (f : Feed), f.container = container → f.query = q →
        1 ≤ bound → (∀ found, s.results? container q = .ok found → found.length ≤ bound) →
        ∃ behind, Feed.fetchAll (memoryDriver stamps) decode bound f (s.withPageSize n) =
          (some answer, behind, s.withPageSize n)) ∧
    (∀ found items, s.results? container q = .ok found →
      List.Forall₂ (fun d item => decode (stripped d) = .ok item) found items →
      ∀ (stamps : Nat → Stamp) (n bound : Nat) (f : Feed),
        Feed.Reached (memoryDriver stamps) decode (s.withPageSize n) container q f →
        max 1 found.length ≤ bound →
        ∃ rest, f.Gives stamps decode bound (s.withPageSize n) rest ∧ rest <:+ items ∧
          (f.started = false → rest = items ∧
            ∃ behind, Feed.fetchAll (memoryDriver stamps) decode bound f (s.withPageSize n) =
              (some (.ok items), behind, s.withPageSize n))) ∧
    (∀ cause, s.results? container q = .error cause →
      ∀ (stamps : Nat → Stamp) (n fuel : Nat) (f : Feed),
        Feed.Reached (memoryDriver stamps) decode (s.withPageSize n) container q f →
        f.hasMore = true →
        Feed.pages (memoryDriver stamps) decode (fuel + 1) f (s.withPageSize n) =
            (some [.error cause], f.standing none true, s.withPageSize n) ∧
          Feed.stream (memoryDriver stamps) decode (fuel + 1) f (s.withPageSize n) =
            (some [.error cause], s.withPageSize n)) := by
  refine ⟨fun found => listed_of_results, Feed.exists_fetched decode hroom, ?_, ?_⟩
  · intro found items hfound hread stamps n bound f hreached hbound
    have hread : List.Forall₂ (fun d item => fromResource decode d = .ok item) found items := by
      refine hread.imp fun d item hitem => ?_
      rw [fromResource, hitem]
    -- a feed that was reached stands at some position, so what it still gives is a last part
    obtain ⟨rest, hgives, hsuffix, hall⟩ :=
      Feed.exists_gives (s := s.withPageSize n) hfound (hroom found hfound) hread hreached hbound
    refine ⟨rest, hgives, hsuffix, fun hfresh => ⟨hall hfresh, ?_⟩⟩
    obtain ⟨rfl, rfl, -, -⟩ := Feed.Reached.stands (s := s.withPageSize n) hroom hreached
    rw [← fromResources_of_forall₂ hread]
    exact Feed.fetchAll_of_results (s := s.withPageSize n) hfound (hroom found hfound) hbound
  · intro cause hfailed stamps n fuel f hreached hmore
    obtain ⟨rfl, rfl, ⟨start, hstart⟩, -⟩ := Feed.Reached.stands (s := s.withPageSize n) hroom hreached
    exact Feed.consume_of_error (s := s.withPageSize n) hfailed hmore hstart fuel

/-- Reads a document as its identifier. -/
def identifierOf : Decoder String := fun d =>
  match d.get? "id" with
  | some (.string id) => .ok id
  | _ => .error (.missing "id")

/-- The store of two documents, with pages of one document. -/
def twoUsersPaged : DocStore := (DocStore.empty.final twoUsers).withPageSize 1

/-- A feed of both documents behind its first page. -/
def halfRead : Feed :=
  (Feed.next? (memoryDriver fun _ => ⟨"", 0⟩) identifierOf (.start "user" .everything .none)
    twoUsersPaged).2.1

theorem consumers_agree_twoUsers :
    halfRead.continuation = some "1" ∧
    (∃ behind, Feed.fetchAll (memoryDriver fun _ => ⟨"", 0⟩) identifierOf 2 halfRead twoUsersPaged =
      (some (.ok ["a", "b"]), behind, twoUsersPaged)) ∧
    ∃ rest, halfRead.Gives (fun _ => ⟨"", 0⟩) identifierOf 2 twoUsersPaged rest ∧
      rest <:+ ["a", "b"] := by
  have hdecoded : ((DocStore.empty.final twoUsers).results? "user" .everything).toOption.map
      (·.map fun d => (identifierOf (stripped d)).toOption) = some [some "a", some "b"] := by
    decide +kernel
  obtain ⟨found, hsome, hmap⟩ := Option.map_eq_some_iff.mp hdecoded
  have hfound := (toOption_eq_some_iff _ _).mp hsome
  have hlength : found.length = 2 := by
    simpa using congrArg List.length hmap
  have hread : List.Forall₂ (fun d item => identifierOf (stripped d) = .ok item) found ["a", "b"] := by
    have heach : List.Forall₂ Eq (found.map fun d => (identifierOf (stripped d)).toOption)
        (["a", "b"].map some) := by
      rw [List.forall₂_eq_eq_eq]
      exact hmap
    rw [List.forall₂_map_left_iff, List.forall₂_map_right_iff] at heach
    exact heach.imp fun d item => (toOption_eq_some_iff _ _).mp
  have hcount : ∀ other, (DocStore.empty.final twoUsers).results? "user" .everything = .ok other →
      other.length = 2 := by
    intro other hother
    obtain rfl := Except.ok.inj (hfound.symm.trans hother)
    exact hlength
  have hroom : ∀ other, (DocStore.empty.final twoUsers).results? "user" .everything = .ok other →
      other.length ≤ maxPosition := by
    intro other hother
    rw [hcount other hother]
    decide
  have hstart : Feed.Reached (memoryDriver fun _ => ⟨"", 0⟩) identifierOf twoUsersPaged "user"
      .everything (.start "user" .everything .none) := .start _
  have hhalf : Feed.Reached (memoryDriver fun _ => ⟨"", 0⟩) identifierOf twoUsersPaged "user"
      .everything halfRead := .next hstart
  have hstands : halfRead.Stands "user" .everything := by
    refine hhalf.stands fun other hother => hroom other ?_
    rwa [twoUsersPaged, DocStore.results?_withPageSize] at hother
  obtain ⟨-, ⟨answer, -, hfetch⟩, hgives, -⟩ := consumers_agree identifierOf hroom
  have hbound : max 1 found.length ≤ 2 := by
    rw [hlength]
    decide
  obtain ⟨_, -, -, hfresh⟩ := hgives found _ hfound hread (fun _ => ⟨"", 0⟩) 1 2 _ hstart hbound
  obtain ⟨-, behind, hall⟩ := hfresh rfl
  -- the answer is that of the fresh feed
  obtain ⟨other, hother⟩ := hfetch (fun _ => ⟨"", 0⟩) 1 2 (.start "user" .everything .none) rfl rfl
    (by decide) fun list hlist => (hcount list hlist).le
  obtain rfl : answer = .ok ["a", "b"] :=
    Option.some.inj (congrArg (·.1) (hother.symm.trans hall))
  refine ⟨by decide +kernel, ?_, ?_⟩
  · exact hfetch (fun _ => ⟨"", 0⟩) 1 2 halfRead hstands.container_eq hstands.query_eq (by decide)
      fun list hlist => (hcount list hlist).le
  · obtain ⟨rest, hrest, hsuffix, -⟩ :=
      hgives found _ hfound hread (fun _ => ⟨"", 0⟩) 1 2 _ hhalf hbound
    exact ⟨rest, hrest, hsuffix⟩

end DocAccess.Container
