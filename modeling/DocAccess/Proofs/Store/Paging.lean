import DocAccess.Proofs.Store.Operation

/-!
# Following continuations

A client that follows the continuations of a query, with whatever page sizes, reads the selected
documents in order and each once.  Every page from an accepted position is cut out of all results,
so that what a query selects and why it fails does not depend on where the page starts and how long
it is.  The positions that continuations stand for are handed from one page to the next as text;
what is left behind a position shrinks with every page, so that the chain ends.
-/

namespace DocAccess.Store

open DocAccess.Document DocAccess.Query

/-! ### Positions as text -/

theorem offsetOf?_toString {n : Nat} (hn : n ≤ maxPosition) : offsetOf? (toString n) = some n := by
  have hlist : (toString n).toList = Nat.toDigits 10 n := Nat.toList_repr
  have hdigits : ∀ c ∈ Nat.toDigits 10 n, c.isDigit = true := by
    intro c hc
    exact Nat.isDigit_of_mem_toDigits (by decide) (by decide) hc
  unfold offsetOf?
  rw [hlist]
  -- a plus sign is skipped, but no number starts with one
  split
  · next rest hplus =>
      have hdigit : '+'.isDigit = true := hdigits '+' (by simp [hplus])
      exact absurd hdigit (by decide)
  · have hall : (Nat.toDigits 10 n).all Char.isDigit = true := List.all_eq_true.mpr hdigits
    simp [hall, hn]

/-- What is written as a continuation is read as the same position. -/
theorem startOf?_toString {n : Nat} (hn : n ≤ maxPosition) :
    startOf? (some (toString n)) = .ok n := by
  rw [startOf?, offsetOf?_toString hn]

/-! ### One page -/

section Cut

variable {items : List Value} (hroom : items.length ≤ maxPosition) (start size : Nat)

include hroom

/-- Neither the sum nor the items go beyond the greatest position. -/
theorem cut_stop : min (saturatingAdd start size) items.length =
    min (start + size) items.length := by
  rw [saturatingAdd]
  omega

theorem cut_items : (Page.cut items start size).items = (items.drop start).take size := by
  show (slice? items start (min (saturatingAdd start size) items.length)).getD [] = _
  rw [cut_stop hroom, slice?]
  split
  · have htake : min (start + size) items.length - start =
        min size (items.drop start).length := by
      rw [List.length_drop]
      omega
    rw [htake, Option.getD_some, ← List.take_eq_take_min]
  -- a position out of range leaves nothing, as dropping so many items does
  · have hbeyond : items.length ≤ start := by omega
    simp [List.drop_eq_nil_of_le hbeyond]

/-- What is left at a position is its page and what is left behind that. -/
theorem cut_items_append :
    (Page.cut items start size).items ++ items.drop (start + size) = items.drop start := by
  rw [cut_items hroom, ← List.drop_drop, List.take_append_drop]

theorem cut_continuation : (Page.cut items start size).continuation =
    if start + size < items.length then some (toString (start + size)) else none := by
  show (if min (saturatingAdd start size) items.length < items.length then
    some (toString (min (saturatingAdd start size) items.length)) else none) = _
  rw [cut_stop hroom]
  split
  · have hsum : min (start + size) items.length = start + size := by omega
    rw [hsum, if_pos (by omega)]
  · rw [if_neg (by omega)]

end Cut

/-! ### Chains of requests -/

/-- The pages that a chain of requests gets, from the request of number `i` on: each request asks
with the continuation of the page before.  The chain stops at a failure, and it gets nothing if
more requests than `fuel` are needed. -/
def follow (ask : Nat → Option String → Except StoreError Page) :
    Nat → Nat → Option String → Option (Except StoreError (List Page))
  | 0, _, _ => none
  | fuel + 1, i, token =>
      match ask i token with
      | .error cause => some (.error cause)
      | .ok page =>
          match page.continuation with
          | none => some (.ok [page])
          | some next => (follow ask fuel (i + 1) (some next)).map (·.map (page :: ·))

/-- What it means that pages hold some items and nothing else, when the requests from number `i` on
ask for the given sizes. -/
structure Paged (size : Nat → Nat) (i : Nat) (items : List Value) (pages : List Page) : Prop where
  content : pages.flatMap (·.items) = items
  count : pages.length ≤ max 1 items.length
  full : ∀ j page, pages[j]? = some page → j + 1 < pages.length →
    page.items.length = size (i + j)
  eq_nil : ∀ page ∈ pages, page.items = [] → items = []

namespace Paged

variable {size : Nat → Nat} {i : Nat}

theorem single (page : Page) : Paged size i page.items [page] where
  content := by simp
  count := Nat.le_max_left _ _
  full j _ _ hj := by
    rw [List.length_singleton] at hj
    omega
  eq_nil other hother hnil := by
    obtain rfl := List.mem_singleton.mp hother
    exact hnil

theorem cons {page : Page} {items : List Value} {pages : List Page} (hsize : 1 ≤ size i)
    (hpage : page.items.length = size i) (hitems : items ≠ [])
    (hpaged : Paged size (i + 1) items pages) :
    Paged size i (page.items ++ items) (page :: pages) where
  content := by rw [List.flatMap_cons, hpaged.content]
  count := by
    have hpos : 0 < items.length := List.length_pos_iff.mpr hitems
    have hcount := hpaged.count
    rw [List.length_cons, List.length_append]
    omega
  full j other hother hj := by
    cases j with
    | zero =>
        obtain rfl := Option.some.inj hother
        exact hpage
    | succ j =>
        rw [List.length_cons] at hj
        have hfull := hpaged.full j other hother (by omega)
        rwa [Nat.add_assoc, Nat.add_comm 1 j] at hfull
  eq_nil other hother hnil := by
    rcases List.mem_cons.mp hother with rfl | hmem
    · rw [hnil, List.length_nil] at hpage
      omega
    · exact absurd (hpaged.eq_nil other hmem hnil) hitems

end Paged

/-- A chain from a position where something is left, or from the first one, gets all that is left.
The induction is on the requests still allowed, as many as there are items left. -/
theorem follow_of_cut {ask : Nat → Option String → Except StoreError Page} {size : Nat → Nat}
    {items : List Value} (hroom : items.length ≤ maxPosition) (hsize : ∀ i, 1 ≤ size i)
    (hask : ∀ i token start, startOf? token = .ok start →
      ask i token = .ok (Page.cut items start (size i)))
    (fuel i : Nat) (token : Option String) (start : Nat) (htoken : startOf? token = .ok start)
    (hstart : start = 0 ∨ start < items.length) (hfuel : max 1 (items.length - start) ≤ fuel) :
    ∃ pages, follow ask fuel i token = some (.ok pages) ∧
      Paged size i (items.drop start) pages := by
  induction fuel generalizing i token start with
  | zero => omega
  | succ fuel ih =>
      have hi := hsize i
      have hitems := cut_items hroom start (size i)
      have hcontinuation := cut_continuation hroom start (size i)
      rw [follow, hask i token start htoken]
      -- either the page is full and the chain goes on behind it, or it holds all that is left
      by_cases hmore : start + size i < items.length
      · rw [if_pos hmore] at hcontinuation
        have hnext := startOf?_toString (n := start + size i) (by omega)
        obtain ⟨pages, hfollow, hpaged⟩ :=
          ih (i + 1) _ (start + size i) hnext (Or.inr hmore) (by omega)
        refine ⟨Page.cut items start (size i) :: pages, ?_, ?_⟩
        · simp only [hcontinuation, hfollow]
          rfl
        · rw [← cut_items_append hroom start (size i)]
          refine Paged.cons hi ?_ ?_ hpaged
          · rw [hitems, List.length_take, List.length_drop]
            omega
          · intro hnil
            rw [List.drop_eq_nil_iff] at hnil
            omega
      · rw [if_neg hmore] at hcontinuation
        refine ⟨[Page.cut items start (size i)], by simp [hcontinuation], ?_⟩
        have hall : items.drop start = (Page.cut items start (size i)).items := by
          rw [hitems, List.take_of_length_le]
          rw [List.length_drop]
          omega
        rw [hall]
        exact Paged.single _

/-! ### Selected documents -/

/-- Whether a document is evaluated and passes. -/
def selects (f : Filter) (q : Prepared) (d : Value) : Bool :=
  match f.passes? q d with
  | .ok passes => passes
  | .error _ => false

/-- The entries whose documents pass, in ascending order of their addresses. -/
def Collection.selected (c : Collection) (f : Filter) (q : Prepared) : List (Address × Value) :=
  c.items.entries.filter fun entry => selects f q entry.2

theorem selects_eq_true_iff (f : Filter) (q : Prepared) (d : Value) :
    selects f q d = true ↔ f.passes? q d = .ok true := by
  unfold selects
  cases f.passes? q d with
  | ok passes => simp
  | error cause => simp

theorem Collection.mem_selected (c : Collection) (f : Filter) (q : Prepared) (a : Address)
    (d : Value) :
    (a, d) ∈ c.selected f q ↔ c.items.find? a = some d ∧ f.passes? q d = .ok true := by
  rw [selected, List.mem_filter, Table.mem_entries, selects_eq_true_iff]

/-- A row of documents can all be evaluated, or the first that cannot is the answer. -/
theorem matching?_cases (f : Filter) (q : Prepared) (documents : List Value) :
    matching? f q documents = .ok (documents.filter (selects f q)) ∨
      ∃ d ∈ documents, ∃ cause, f.passes? q d = .error cause ∧
        matching? f q documents = .error (.badRequest cause) := by
  induction documents with
  | nil => exact Or.inl rfl
  | cons d rest ih =>
      rw [matching?]
      cases hpasses : f.passes? q d with
      | error cause => exact Or.inr ⟨d, List.mem_cons_self, cause, hpasses, rfl⟩
      | ok passes =>
          rcases ih with hrest | ⟨other, hmem, cause, hcause, hrest⟩
          · have hselects : selects f q d = passes := by simp [selects, hpasses]
            rw [hrest, List.filter_cons, hselects]
            exact Or.inl rfl
          · rw [hrest]
            exact Or.inr ⟨other, List.mem_cons_of_mem _ hmem, cause, hcause, rfl⟩

/-- The documents of a container are all evaluated and the selected ones are the answer, or one of
them cannot be evaluated. -/
theorem Collection.matching?_cases (c : Collection) (f : Filter) (q : Prepared) :
    matching? f q c.items.values = .ok ((c.selected f q).map (·.2)) ∨
      ∃ a d cause, c.items.find? a = some d ∧ f.passes? q d = .error cause ∧
        matching? f q c.items.values = .error (.badRequest cause) := by
  rcases Store.matching?_cases f q c.items.values with hall | ⟨d, hmem, cause, hcause, herror⟩
  · rw [hall, Table.values, List.filter_map]
    exact Or.inl rfl
  · obtain ⟨⟨a, d⟩, hentry, rfl⟩ := List.mem_map.mp hmem
    exact Or.inr ⟨a, d, cause, (c.items.mem_entries a d).mp hentry, hcause, herror⟩

/-- The query for every document has no condition. -/
theorem ofText?_everything : Filter.ofText? Prepared.everything.text = .ok [] := by
  have hempty : ((Filter.ofText? Prepared.everything.text).toOption.map List.isEmpty) =
      some true := by decide +kernel
  cases hfilter : Filter.ofText? Prepared.everything.text with
  | error fault =>
      rw [hfilter] at hempty
      cases hempty
  | ok f =>
      rw [hfilter] at hempty
      obtain rfl := List.isEmpty_iff.mp (Option.some.inj hempty)
      rfl

/-! ### All results -/

namespace DocStore

/-- All that a query selects from a container, in ascending order of the addresses. -/
def results? (s : DocStore) (container : String) (q : Prepared) :
    Except StoreError (List Value) := do
  checkParameters q
  let filter ← match Filter.ofText? q.text with
    | .ok filter => pure filter
    | .error fault => throw (.badRequest (.query fault))
  let c ← s.collection? container
  matching? filter q c.items.values

/-- The page size makes no difference to the results. -/
@[simp] theorem results?_withPageSize (s : DocStore) (n : Nat) (container : String)
    (q : Prepared) : (s.withPageSize n).results? container q = s.results? container q := rfl

/-- A page from an accepted position is cut out of the results, and fails where these do. -/
theorem query?_of_startOf? (s : DocStore) (container : String) (q : Prepared)
    {token : Option String} {start : Nat} (htoken : startOf? token = .ok start) (o : Options) :
    s.query? container q token o =
      (s.results? container q).map (Page.cut · start (s.pageSizeFor o)) := by
  simp only [query?, results?, htoken]
  cases checkParameters q with
  | error cause => rfl
  | ok _ =>
      cases Filter.ofText? q.text with
      | error fault => rfl
      | ok filter =>
          simp only [bind, Except.bind, pure, Except.pure]
          cases s.collection? container with
          | error cause => rfl
          | ok c =>
              simp only
              cases matching? filter q c.items.values with
              | error cause => rfl
              | ok items => rfl

end DocStore

/-! ### Requests to an unchanged store -/

/-- What is chosen for each request of a chain: its options, and the page size of the store that it
meets. -/
structure Schedule where
  options : Nat → Options
  pageSize : Nat → Nat

/-- The size of the page that a request asks for, at least one. -/
def Schedule.size (z : Schedule) (i : Nat) : Nat :=
  max 1 ((z.options i).maxItems.getD (z.pageSize i))

/-- The answer to the request of a number. -/
def DocStore.ask (s : DocStore) (container : String) (q : Prepared) (z : Schedule) (i : Nat)
    (token : Option String) : Except StoreError Page :=
  (s.withPageSize (z.pageSize i)).query? container q token (z.options i)

theorem pageSizeFor_schedule (s : DocStore) (z : Schedule) (i : Nat) :
    (s.withPageSize (z.pageSize i)).pageSizeFor (z.options i) = z.size i := by
  rw [DocStore.pageSizeFor, DocStore.withPageSize, Schedule.size]
  cases (z.options i).maxItems with
  | none =>
      simp only [Option.getD_none]
      omega
  | some n =>
      simp only [Option.getD_some]
      omega

theorem startOf?_cases (token : Option String) :
    (∃ start, startOf? token = .ok start) ∨
      ∃ cause, startOf? token = .error (.badRequest cause) := by
  unfold startOf?
  split
  · exact Or.inl ⟨0, rfl⟩
  · split
    · next n _ => exact Or.inl ⟨n, rfl⟩
    · exact Or.inr ⟨_, rfl⟩

section Asked

variable {s : DocStore} {container : String} {c : Collection} {q : Prepared} {f : Filter}
  (hcontainer : s.collections.find? container = some c) (hparameters : checkParameters q = .ok ())
  (hfilter : Filter.ofText? q.text = .ok f)

include hcontainer hparameters hfilter

/-- A page of a query that is accepted is cut out of the documents that it selects. -/
theorem query?_of_start {token : Option String} {start : Nat} (htoken : startOf? token = .ok start)
    (o : Options) :
    s.query? container q token o =
      (matching? f q c.items.values).map (Page.cut · start (s.pageSizeFor o)) := by
  have hfind : s.collection? container = .ok c := (collection?_eq_ok_iff _ _ _).mpr hcontainer
  rw [s.query?_of_startOf? container q htoken, DocStore.results?, hparameters, hfilter]
  simp only [bind, Except.bind, pure, Except.pure, hfind]

variable (z : Schedule) (i : Nat) {token : Option String}

theorem ask_of_start {start : Nat} (htoken : startOf? token = .ok start) :
    s.ask container q z i token =
      (matching? f q c.items.values).map (Page.cut · start (z.size i)) := by
  have hfind : (s.withPageSize (z.pageSize i)).collections.find? container = some c := hcontainer
  rw [DocStore.ask, query?_of_start hfind hparameters hfilter htoken, pageSizeFor_schedule]

omit hcontainer in
theorem ask_of_error {cause : StoreError} (htoken : startOf? token = .error cause) :
    s.ask container q z i token = .error cause := by
  rw [DocStore.ask, DocStore.query?, hparameters, hfilter, htoken]
  rfl

end Asked

/-- A word counts the selected documents if it counts those of the container. -/
theorem Collection.length_selected_le {c : Collection} (hroom : c.items.size ≤ maxPosition)
    (f : Filter) (q : Prepared) : ((c.selected f q).map (·.2)).length ≤ maxPosition := by
  rw [List.length_map, selected]
  exact Nat.le_trans (List.length_filter_le _ _) hroom

/-- Against an unchanged store the chain of an accepted query, with any choice of page sizes, reads
the selected documents in ascending order of their addresses and each once, on full pages and with
at most one request for each of them, or with one if there is none.  It fails only at its first
request, and only because a document cannot be evaluated.  Any other token is refused or gives a run
of the same documents.  As positions are words, a word has to count the documents of the container,
which it does for all that lies in memory. -/
theorem chain_reads_selected {s : DocStore} {container : String} {c : Collection} {q : Prepared}
    {f : Filter} (hcontainer : s.collections.find? container = some c)
    (hparameters : checkParameters q = .ok ()) (hfilter : Filter.ofText? q.text = .ok f)
    (hroom : c.items.size ≤ maxPosition) (z : Schedule) :
    (c.selected f q).Pairwise (fun x y => x.1 < y.1) ∧
    (∀ a d, (a, d) ∈ c.selected f q ↔ c.items.find? a = some d ∧ f.passes? q d = .ok true) ∧
    ((∃ a d cause, c.items.find? a = some d ∧ f.passes? q d = .error cause ∧
        s.ask container q z 0 none = .error (.badRequest cause)) ∨
      ∃ pages, follow (s.ask container q z) (max 1 (c.selected f q).length) 0 none =
          some (.ok pages) ∧
        Paged z.size 0 ((c.selected f q).map (·.2)) pages) ∧
    ∀ i token, (∃ cause, s.ask container q z i token = .error (.badRequest cause)) ∨
      ∃ page, s.ask container q z i token = .ok page ∧
        page.items <:+: (c.selected f q).map (·.2) := by
  have hlength := Collection.length_selected_le hroom f q
  have hask : ∀ i token start, startOf? token = .ok start → s.ask container q z i token =
      (matching? f q c.items.values).map (Page.cut · start (z.size i)) := by
    intro i token start htoken
    exact ask_of_start hcontainer hparameters hfilter z i htoken
  refine ⟨c.items.ascending.filter _, c.mem_selected f q, ?_, ?_⟩
  -- all documents are evaluated before a page is cut, so a chain can fail at its start only
  · rcases c.matching?_cases f q with hall | ⟨a, d, cause, hd, hcause, herror⟩
    · right
      rw [← List.length_map (·.2)]
      refine follow_of_cut hlength ?_ ?_ _ 0 none 0 rfl (Or.inl rfl) (Nat.le_refl _)
      · intro i
        exact Nat.le_max_left _ _
      · intro i token start htoken
        rw [hask i token start htoken, hall]
        rfl
    · left
      refine ⟨a, d, cause, hd, hcause, ?_⟩
      rw [hask 0 none 0 rfl, herror]
      rfl
  · intro i token
    -- a token is a position, wherever it comes from, or it is refused
    rcases startOf?_cases token with ⟨start, hstart⟩ | ⟨cause, hcause⟩
    · rw [hask i token start hstart]
      rcases c.matching?_cases f q with hall | ⟨-, -, cause, -, -, herror⟩
      · rw [hall]
        refine Or.inr ⟨_, rfl, ?_⟩
        rw [cut_items hlength]
        exact (List.take_prefix _ _).isInfix.trans (List.drop_suffix _ _).isInfix
      · rw [herror]
        exact Or.inl ⟨cause, rfl⟩
    · exact Or.inl ⟨cause, ask_of_error hparameters hfilter z i hcause⟩

/-- Two documents in one container, the later one first in order. -/
def twoUsers : List Action :=
  [.install ⟨"user", "/id"⟩,
    .request (.create "user" (.object [("id", .string "b")]) ⟨"first", 7⟩),
    .request (.create "user" (.object [("id", .string "a")]) ⟨"second", 8⟩)]

/-- Pages of one document, by a page size of zero and then by an option. -/
def oneByOne : Schedule where
  options i := { Options.none with maxItems := if i = 0 then none else some 1 }
  pageSize _ := 0

theorem chain_reads_selected_twoUsers :
    ∃ c, (DocStore.empty.final twoUsers).collections.find? "user" = some c ∧
      checkParameters .everything = .ok () ∧
      Filter.ofText? Prepared.everything.text = .ok [] ∧ c.items.size = 2 ∧
      ∃ pages, follow ((DocStore.empty.final twoUsers).ask "user" .everything oneByOne) 2 0 none =
          some (.ok pages) ∧
        pages.flatMap (·.items) = c.items.values ∧ ∀ page ∈ pages, page.items ≠ [] := by
  have hsome : ((DocStore.empty.final twoUsers).collections.find? "user").map (·.items.size) =
      some 2 := by decide +kernel
  obtain ⟨c, hc, hsize⟩ := Option.map_eq_some_iff.mp hsome
  have hall : c.selected [] .everything = c.items.entries :=
    List.filter_eq_self.mpr fun _ _ => rfl
  have hlength : (c.selected [] .everything).length = 2 := by
    rw [hall]
    exact hsize
  obtain ⟨-, -, hchain, -⟩ := chain_reads_selected hc rfl ofText?_everything
    (by rw [hsize]; decide) oneByOne
  refine ⟨c, hc, rfl, ofText?_everything, hsize, ?_⟩
  rcases hchain with ⟨a, d, cause, -, hcause, -⟩ | ⟨pages, hfollow, hpaged⟩
  · cases hcause
  · rw [hlength] at hfollow
    refine ⟨pages, hfollow, hpaged.content.trans (by rw [hall]; rfl), ?_⟩
    intro page hpage hnil
    have hempty := hpaged.eq_nil page hpage hnil
    rw [List.map_eq_nil_iff] at hempty
    simp [hempty] at hlength

end DocAccess.Store
