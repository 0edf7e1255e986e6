import DocAccess.Proofs.Container.Consumers
import DocAccess.Proofs.Container.Streaming

/-!
# Streams and page boundaries

A stream gives one item after the other, but its feed reads a page of documents as a whole.  A
document that is no value therefore costs the values in front of it on its page: the stream gives
the pages in front of that page, then the error, and ends.  How many values come before the error
depends on where the page boundaries lie, and so on the size of the pages.

* `Streamed` — what a stream gives.
* `Feed.stream_of_start` — it does so from every position.
* `stream_cut_by_pages` — the result, and when a stream gives what it would give item by item.
-/

namespace DocAccess.Container

open DocAccess.Document DocAccess.Query DocAccess.Store

variable {α : Type} {decode : Decoder α} {size : Nat}

/-! ### What a stream gives -/

/-- What a stream gives of the results of a query whose pages have a size: why the query fails, or
the values, or the values of the pages in front of the first document that is none and its error. -/
inductive Streamed (decode : Decoder α) (size : Nat) :
    Except StoreError (List Value) → List (Except StoreError α) → Prop
  | failed (cause : StoreError) : Streamed decode size (.error cause) [.error cause]
  | values {found : List Value} {items : List α}
      (hread : List.Forall₂ (fun d item => decode (stripped d) = .ok item) found items) :
      Streamed decode size (.ok found) (items.map .ok)
  | undecodable {before after : List Value} {items : List α} {d : Value} {fault : ShapeFault}
      (hbefore : List.Forall₂ (fun d item => decode (stripped d) = .ok item) before items)
      (hfault : decode (stripped d) = .error fault) :
      Streamed decode size (.ok (before ++ d :: after))
        ((items.take (before.length / size * size)).map .ok ++
          [.error (.serialization fault.message)])

/-- What a stream gives that reads each document by itself: the values up to the first document that
is none, and its error. -/
def readEach (decode : Decoder α) : List Value → List (Except StoreError α)
  | [] => []
  | d :: rest =>
      match fromResource decode d with
      | .ok item => .ok item :: readEach decode rest
      | .error e => [.error e]

/-- The same of the results of a query, or why it has none. -/
def itemByItem (decode : Decoder α) :
    Except StoreError (List Value) → List (Except StoreError α)
  | .ok found => readEach decode found
  | .error cause => [.error cause]

/-- The position of the first document that is no value. -/
def firstFault (decode : Decoder α) : List Value → Option Nat
  | [] => none
  | d :: rest =>
      match decode (stripped d) with
      | .ok _ => (firstFault decode rest).map (· + 1)
      | .error _ => some 0

/-! ### Pages -/

section Pages

variable {front rest : List Value}

/-- A page that cannot be read gives its error and none of its values. -/
theorem Streamed.fault {e : StoreError} (hshort : front.length ≤ size)
    (hpage : fromResources decode front = .error e) :
    Streamed decode size (.ok (front ++ rest)) [.error e] := by
  have hreads : Reads decode front (fromResources decode front) := reads_fromResources front
  rw [hpage] at hreads
  cases hreads with
  | @undecodable before after items d fault hbefore hfault =>
      have hgiven : Streamed decode size (.ok (before ++ d :: (after ++ rest))) _ :=
        .undecodable hbefore hfault
      -- no page lies in front of this one
      have hnone : before.length / size = 0 := by
        apply Nat.div_eq_of_lt
        rw [List.length_append, List.length_cons] at hshort
        omega
      rw [hnone, Nat.zero_mul, List.take_zero] at hgiven
      simpa using hgiven

/-- The values of a page come in front of what the rest gives. -/
theorem Streamed.page {items : List α} {taken : List (Except StoreError α)} (hsize : 0 < size)
    (hfull : rest ≠ [] → front.length = size) (hpage : fromResources decode front = .ok items)
    (hrest : Streamed decode size (.ok rest) taken) :
    Streamed decode size (.ok (front ++ rest)) (items.map .ok ++ taken) := by
  have hreads : Reads decode front (fromResources decode front) := reads_fromResources front
  rw [hpage] at hreads
  cases hreads with
  | values hread =>
      cases hrest with
      | values hmore =>
          rw [← List.map_append]
          exact .values (List.rel_append hread hmore)
      | @undecodable before after others d fault hbefore hfault =>
          have hlength : front.length = size := hfull (by simp)
          have hitems : items.length = size := hread.length_eq ▸ hlength
          have hgiven : Streamed decode size (.ok ((front ++ before) ++ d :: after)) _ :=
            .undecodable (List.rel_append hread hbefore) hfault
          have hpages : (front ++ before).length / size * size =
              items.length + before.length / size * size := by
            rw [List.length_append, hlength, Nat.add_div_left _ hsize, Nat.succ_mul, hitems,
              Nat.add_comm]
          rw [hpages, List.take_length_add_append] at hgiven
          simpa using hgiven

end Pages

/-- From a position, a feed streams what is left of the results. -/
theorem Feed.stream_of_start {s : DocStore} (stamps : Nat → Stamp) (decode : Decoder α) {f : Feed}
    {found : List Value} (hfound : s.results? f.container f.query = .ok found)
    (hroom : found.length ≤ maxPosition) {fuel start : Nat} (hmore : f.hasMore = true)
    (htoken : startOf? f.continuation = .ok start)
    (hfuel : max 1 (found.length - start) ≤ fuel) :
    ∃ taken, stream (memoryDriver stamps) decode fuel f s = (some taken, s) ∧
      Streamed decode (s.pageSizeFor f.options) (.ok (found.drop start)) taken := by
  induction fuel generalizing f start with
  | zero => omega
  | succ fuel ih =>
      have hsize : 0 < s.pageSizeFor f.options := Nat.le_max_right _ _
      have hcontinuation := cut_continuation hroom start (s.pageSizeFor f.options)
      have hlength : (Page.cut found start (s.pageSizeFor f.options)).items.length =
          min (s.pageSizeFor f.options) (found.length - start) := by
        rw [cut_items hroom, List.length_take, List.length_drop]
      -- what is left is this page and what is left behind it
      rw [stream, next?_of_start hmore htoken hfound,
        ← cut_items_append hroom start (s.pageSizeFor f.options)]
      cases hpage : fromResources decode (Page.cut found start (s.pageSizeFor f.options)).items with
      | error e => exact ⟨[.error e], rfl, .fault (by omega) hpage⟩
      | ok items =>
          by_cases hleft : start + s.pageSizeFor f.options < found.length
          · rw [if_pos hleft] at hcontinuation
            have htoken' := startOf?_toString (n := start + s.pageSizeFor f.options) (by omega)
            obtain ⟨taken, hstream, htaken⟩ :=
              ih (f := f.standing (some (toString (start + s.pageSizeFor f.options))) true) hfound
                rfl htoken' (by omega)
            refine ⟨items.map .ok ++ taken, ?_, .page hsize (fun _ => by omega) hpage htaken⟩
            simp only [hcontinuation, hstream]
          · rw [if_neg hleft] at hcontinuation
            have hnone : found.drop (start + s.pageSizeFor f.options) = [] :=
              List.drop_eq_nil_of_le (by omega)
            have hdone : (f.standing none true).hasMore = false := rfl
            rw [hnone]
            refine ⟨items.map .ok ++ [], ?_, .page hsize (absurd rfl) hpage (.values .nil)⟩
            simp only [hcontinuation, stream_of_exhausted hdone]

/-! ### Item by item -/

section Fault

variable {before : List Value} {items : List α}
  (hbefore : List.Forall₂ (fun d item => decode (stripped d) = .ok item) before items)

include hbefore

theorem readEach_append (rest : List Value) :
    readEach decode (before ++ rest) = items.map .ok ++ readEach decode rest := by
  induction hbefore with
  | nil => rfl
  | cons hfirst _ ih => simp [readEach, fromResource, hfirst, ih]

theorem firstFault_append (rest : List Value) :
    firstFault decode (before ++ rest) = (firstFault decode rest).map (· + before.length) := by
  induction hbefore with
  | nil => simp
  | cons hfirst _ ih => simp [firstFault, hfirst, ih, Function.comp_def, Nat.add_assoc]

end Fault

/-- A stream gives what it would give item by item, unless the first document that is no value
stands behind others on its page. -/
theorem Streamed.eq_itemByItem_iff {results : Except StoreError (List Value)}
    {taken : List (Except StoreError α)} (h : Streamed decode size results taken) :
    taken = itemByItem decode results ↔
      ∀ found, results = .ok found → ∀ n, firstFault decode found = some n → size ∣ n := by
  cases h with
  | failed cause => simp [itemByItem]
  | @values found items hread =>
      have heach : itemByItem decode (.ok found) = items.map .ok := by
        have hall := readEach_append hread []
        simpa [itemByItem, readEach] using hall
      have hnone : firstFault decode found = none := by
        have hall := firstFault_append hread []
        simpa [firstFault] using hall
      simp [heach, hnone]
  | @undecodable before after items d fault hbefore hfault =>
      have heach : itemByItem decode (.ok (before ++ d :: after)) =
          items.map .ok ++ [.error (.serialization fault.message)] := by
        rw [itemByItem, readEach_append hbefore]
        simp [readEach, fromResource, hfault]
      have hfirst : firstFault decode (before ++ d :: after) = some before.length := by
        rw [firstFault_append hbefore]
        simp [firstFault, hfault]
      -- cutting off an incomplete page cuts nothing off if the pages come out even
      have hcut : items.take (before.length / size * size) = items ↔ size ∣ before.length := by
        have hle : before.length / size * size ≤ before.length := Nat.div_mul_le_self _ _
        rw [List.take_eq_self_iff, ← hbefore.length_eq, Nat.dvd_iff_div_mul_eq]
        omega
      rw [heach, List.append_left_inj, List.map_inj_right (fun _ _ => Except.ok.inj), hcut]
      simp [hfirst]

/-! ### Streams of a fresh feed -/

/-- What a fresh feed streams from a store that stays as it is.  The results of its query are the
documents that match, in ascending order of their addresses; the stream gives their values a page at
a time, up to the page with the first document that is no value, then its error, and ends.  That is
what reading the documents one by one would give exactly if the size of the pages divides the number
of documents in front of that document.  So the size of the pages makes no difference where all
documents are values, and in general it does. -/
theorem stream_cut_by_pages {s : DocStore} {container : String} {q : Prepared}
    (decode : Decoder α) {bound : Nat} (hpos : 1 ≤ bound)
    (hroom : ∀ found, s.results? container q = .ok found →
      found.length ≤ maxPosition ∧ found.length ≤ bound)
    (stamps : Nat → Stamp) (o : Options) :
    (∀ found, s.results? container q = .ok found →
      ∃ (filter : Filter) (entries : List (Address × Value)), Filter.ofText? q.text = .ok filter ∧
        found = entries.map (·.2) ∧ entries.Pairwise (fun x y => x.1 < y.1) ∧
        ∀ a d, (a, d) ∈ entries ↔
          s.document? ⟨container, a⟩ = some d ∧ filter.passes? q d = .ok true) ∧
    ∃ taken, Feed.stream (memoryDriver stamps) decode bound (.start container q o) s =
        (some taken, s) ∧
      TakesAll (memoryDriver stamps) decode (Feed.start container q o).flow s taken s ∧
      Streamed decode (s.pageSizeFor o) (s.results? container q) taken ∧
      (taken = itemByItem decode (s.results? container q) ↔
        ∀ found, s.results? container q = .ok found →
          ∀ n, firstFault decode found = some n → s.pageSizeFor o ∣ n) := by
  refine ⟨fun found => listed_of_results, ?_⟩
  have hstream : ∃ taken, Feed.stream (memoryDriver stamps) decode bound (.start container q o) s =
        (some taken, s) ∧ Streamed decode (s.pageSizeFor o) (s.results? container q) taken := by
    cases hresults : s.results? container q with
    -- a query that fails gives its error and nothing else
    | error cause =>
        obtain ⟨fuel, rfl⟩ := Nat.exists_eq_add_of_le' hpos
        refine ⟨[.error cause], ?_, .failed cause⟩
        exact (Feed.consume_of_error (f := .start container q o) hresults rfl rfl fuel).2
    | ok found =>
        obtain ⟨hposition, hcount⟩ := hroom found hresults
        exact Feed.stream_of_start (f := .start container q o) stamps decode hresults hposition rfl
          rfl (by omega)
  obtain ⟨taken, htaken, hstreamed⟩ := hstream
  exact ⟨taken, htaken, takesAll_of_stream htaken, hstreamed, hstreamed.eq_itemByItem_iff⟩

/-- A user with a name and, behind that, one without. -/
def namedAndNameless : List Action :=
  [.install ⟨"user", "/id"⟩,
    .request (.create "user" (.object [("id", .string "a"), ("name", .string "Ada")])
      ⟨"first", 7⟩),
    .request (.create "user" (.object [("id", .string "b")]) ⟨"second", 8⟩)]

/-- Reads a document as its name. -/
def nameOf : Decoder String := fun d =>
  match d.get? "name" with
  | some (.string name) => .ok name
  | _ => .error (.missing "name")

/-- What the two users are streamed as, with pages of a size. -/
def streamedNames (n : Nat) : Option (List (Except StoreError String)) :=
  (Feed.stream (memoryDriver fun _ => ⟨"", 0⟩) nameOf 2 (.start "user" .everything .none)
    ((DocStore.empty.final namedAndNameless).withPageSize n)).1

/-- Both users, as a query for all documents finds them. -/
def bothUsers : Except StoreError (List Value) :=
  (DocStore.empty.final namedAndNameless).results? "user" .everything

theorem stream_cut_by_pages_users :
    streamedNames 1 = some (itemByItem nameOf bothUsers) ∧
      streamedNames 2 ≠ some (itemByItem nameOf bothUsers) := by
  have hfault : bothUsers.toOption.map (fun found => (found.length, firstFault nameOf found)) =
      some (2, some 1) := by decide +kernel
  obtain ⟨found, hsome, hpair⟩ := Option.map_eq_some_iff.mp hfault
  obtain ⟨hlength, hfirst⟩ := Prod.mk.inj hpair
  have hfound : bothUsers = .ok found := (toOption_eq_some_iff _ _).mp hsome
  have hroom : ∀ other, bothUsers = .ok other → other.length ≤ maxPosition ∧ other.length ≤ 2 := by
    intro other hother
    obtain rfl := Except.ok.inj (hfound.symm.trans hother)
    rw [hlength]
    decide
  have hsizes : ∀ n, ∃ taken, streamedNames n = some taken ∧
      (taken = itemByItem nameOf bothUsers ↔ max n 1 ∣ 1) := by
    intro n
    have hsame : ((DocStore.empty.final namedAndNameless).withPageSize n).results? "user"
        .everything = bothUsers := by rw [DocStore.results?_withPageSize, bothUsers]
    obtain ⟨-, taken, htaken, -, -, hiff⟩ :=
      stream_cut_by_pages (s := (DocStore.empty.final namedAndNameless).withPageSize n) nameOf
        (by decide : 1 ≤ 2) (by rwa [hsame]) (fun _ => ⟨"", 0⟩) .none
    refine ⟨taken, by rw [streamedNames, htaken], ?_⟩
    have hsize : ((DocStore.empty.final namedAndNameless).withPageSize n).pageSizeFor .none =
        max n 1 := by
      unfold DocStore.pageSizeFor DocStore.withPageSize
      simp [Options.none]
    rw [hsame, hsize] at hiff
    rw [hiff]
    constructor
    · intro h
      exact h found hfound 1 hfirst
    · intro hdvd other hother m hm
      obtain rfl := Except.ok.inj (hfound.symm.trans hother)
      obtain rfl := Option.some.inj (hfirst.symm.trans hm)
      exact hdvd
  -- one document stands in front of the one that is no value
  obtain ⟨single, hsingle, hiff⟩ := hsizes 1
  obtain ⟨double, hdouble, hiff'⟩ := hsizes 2
  constructor
  · rw [hsingle, hiff.mpr (by decide)]
  · rw [hdouble]
    intro hsame
    exact absurd (hiff'.mp (Option.some.inj hsame)) (by decide)

/-- On pages of one document the first user is given, on pages of two he is lost. -/
theorem streamedNames_differ :
    (streamedNames 1).map (·.map (·.toOption)) = some [some "Ada", none] ∧
      (streamedNames 2).map (·.map (·.toOption)) = some [none] := by
  decide +kernel

end DocAccess.Container
