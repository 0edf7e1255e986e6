import DocAccess.Proofs.Store.Provision
import DocAccess.Proofs.Store.Results
import Mathlib.Data.List.Sort

/-!
# Pages of a store that changes

A continuation is a position in a list that others may change between two requests.  What a client
that follows continuations gets then depends on the direction of the changes: if documents only come
to match, the positions of the old ones only grow, so that none is passed over; if documents only
cease to match, what is ahead of the client only shrinks, so that none comes twice.

The addresses that match are listed in ascending order, so that of two such lists the smaller one is
a sublist of the other, and stays so when the same number is dropped from both.  This is the step;
the runs add up the pages.

* `follow_eq_some` — a chain ends with the first page that reaches the end of what matches then.
* `ahead_sublist_yielded`, `yielded_sublist_ahead` — the two directions.
* `interleaved_pages` — the result.
-/

namespace DocAccess.Store

open DocAccess.Document DocAccess.Query

/-! ### Matching addresses -/

namespace DocStore

/-- The entries of a container whose documents pass, in ascending order of their addresses. -/
def selectedIn (s : DocStore) (container : String) (f : Filter) (q : Prepared) :
    List (Address × Value) :=
  ((s.collections.find? container).map (·.selected f q)).getD []

theorem ascending_selectedIn (s : DocStore) (container : String) (f : Filter) (q : Prepared) :
    (s.selectedIn container f q).Pairwise fun x y => x.1 < y.1 := by
  unfold selectedIn
  cases s.collections.find? container with
  | none => exact List.Pairwise.nil
  | some c => exact c.items.ascending.filter _

theorem document?_of_mem_selectedIn {s : DocStore} {container : String} {f : Filter} {q : Prepared}
    {entry : Address × Value} (hentry : entry ∈ s.selectedIn container f q) :
    s.document? ⟨container, entry.1⟩ = some entry.2 := by
  unfold selectedIn at hentry
  cases hcontainer : s.collections.find? container with
  | none =>
      rw [hcontainer] at hentry
      cases hentry
  | some c =>
      rw [hcontainer] at hentry
      rw [document?_of_find? hcontainer]
      exact ((c.mem_selected f q entry.1 entry.2).mp hentry).1

end DocStore

/-- Of two ascending lists, the one whose members are in the other is a sublist of it. -/
theorem sublist_of_ascending {xs ys : List Address} (hxs : xs.Pairwise (· < ·))
    (hys : ys.Pairwise (· < ·)) (hsub : xs ⊆ ys) : xs.Sublist ys :=
  List.sublist_of_subperm_of_pairwise (List.subperm_of_subset (hxs.imp Std.ne_of_lt) hsub) hxs hys

/-! ### Interleaved requests -/

/-- A client that reads the pages of a query of one container, and what all others do meanwhile. -/
structure Interleaving where
  store : DocStore
  container : String
  query : Prepared
  schedule : Schedule
  /-- What is done between the request of a number and the next one. -/
  between : Nat → List Action

namespace Interleaving

/-- The store that the request of a number meets. -/
def storeAt (r : Interleaving) : Nat → DocStore
  | 0 => r.store
  | i + 1 => (r.storeAt i).final (r.between i)

/-- The answer to the request of a number. -/
def ask (r : Interleaving) (i : Nat) (token : Option String) : Except StoreError Page :=
  (r.storeAt i).ask r.container r.query r.schedule i token

variable (r : Interleaving) (f : Filter)

/-- The addresses of the documents that match when the request of a number comes. -/
def matching (i : Nat) : List Address := ((r.storeAt i).selectedIn r.container f r.query).map (·.1)

/-- The position from which the request of a number reads: all pages before are full. -/
def position (r : Interleaving) : Nat → Nat
  | 0 => 0
  | i + 1 => r.position i + r.schedule.size i

/-- The matching addresses that the requests before have not passed. -/
def ahead (i : Nat) : List Address := (r.matching f i).drop (r.position i)

/-- The addresses of the documents on the page of a number. -/
def shown (i : Nat) : List Address := (r.ahead f i).take (r.schedule.size i)

/-- The addresses on so many pages from the one of a number on. -/
def yielded (i n : Nat) : List Address := (List.range' i n).flatMap (r.shown f)

/-- Whether the addresses that match only become more over so many requests. -/
def Grows (n : Nat) : Prop := ∀ i, i + 1 < n → r.matching f i ⊆ r.matching f (i + 1)

/-- Whether the addresses that match only become fewer over so many requests. -/
def Shrinks (n : Nat) : Prop := ∀ i, i + 1 < n → r.matching f (i + 1) ⊆ r.matching f i

/-- What it means that the query is accepted with this filter and its parameters are bound, that the
container exists at first, and that a word counts what matches. -/
structure Accepted : Prop where
  has : r.store.Has r.container
  parameters : checkParameters r.query = .ok ()
  filter : Filter.ofText? r.query.text = .ok f
  bound : f.Bound r.query
  room : ∀ i, (r.matching f i).length ≤ maxPosition

variable {r f}

theorem ascending_matching (i : Nat) : (r.matching f i).Pairwise (· < ·) :=
  List.pairwise_map.mpr ((r.storeAt i).ascending_selectedIn r.container f r.query)

/-- A page is followed by what is ahead behind it, as long as nothing changes. -/
theorem shown_append (i : Nat) :
    r.shown f i ++ (r.matching f i).drop (r.position (i + 1)) = r.ahead f i := by
  rw [shown, position, ← List.drop_drop]
  exact List.take_append_drop _ _

/-! ### What a change keeps -/

theorem drop_sublist_ahead {i : Nat} (hgrows : r.matching f i ⊆ r.matching f (i + 1)) :
    ((r.matching f i).drop (r.position (i + 1))).Sublist (r.ahead f (i + 1)) :=
  (sublist_of_ascending (ascending_matching i) (ascending_matching (i + 1)) hgrows).drop _

theorem ahead_sublist_drop {i : Nat} (hshrinks : r.matching f (i + 1) ⊆ r.matching f i) :
    (r.ahead f (i + 1)).Sublist ((r.matching f i).drop (r.position (i + 1))) :=
  (sublist_of_ascending (ascending_matching (i + 1)) (ascending_matching i) hshrinks).drop _

/-! ### Runs -/

theorem yielded_succ (i n : Nat) :
    r.yielded f i (n + 1) = r.shown f i ++ r.yielded f (i + 1) n := by
  rw [yielded, List.range'_succ, List.flatMap_cons]
  rfl

/-- If documents only come to match, the pages up to one that reaches the end pass over nothing. -/
theorem ahead_sublist_yielded (i n : Nat)
    (hgrows : ∀ j, i ≤ j → j < i + n → r.matching f j ⊆ r.matching f (j + 1))
    (hend : (r.matching f (i + n)).length ≤ r.position (i + n + 1)) :
    (r.ahead f i).Sublist (r.yielded f i (n + 1)) := by
  induction n generalizing i with
  | zero =>
      -- the last page reaches the end, so that all that is ahead is on it
      have hlast : (r.matching f i).drop (r.position (i + 1)) = [] := List.drop_eq_nil_of_le hend
      have hall := shown_append (r := r) (f := f) i
      rw [hlast, List.append_nil] at hall
      rw [yielded_succ, hall]
      exact List.sublist_append_left _ _
  | succ n ih =>
      have hnext : i + 1 + n = i + (n + 1) := by omega
      have hrest : (r.ahead f (i + 1)).Sublist (r.yielded f (i + 1) (n + 1)) := by
        refine ih (i + 1) (fun j hij hj => hgrows j (by omega) (by omega)) ?_
        rw [hnext]
        exact hend
      -- what is ahead behind this page is still ahead at the next request
      rw [yielded_succ, ← shown_append]
      exact ((drop_sublist_ahead (hgrows i (Nat.le_refl i) (by omega))).trans hrest).append_left _

/-- If documents only cease to match, the pages hold nothing but what was ahead, in its order. -/
theorem yielded_sublist_ahead (i n : Nat)
    (hshrinks : ∀ j, i ≤ j → j + 1 < i + n → r.matching f (j + 1) ⊆ r.matching f j) :
    (r.yielded f i n).Sublist (r.ahead f i) := by
  induction n generalizing i with
  | zero => exact List.nil_sublist _
  | succ n ih =>
      have hrest : (r.yielded f (i + 1) n).Sublist ((r.matching f i).drop (r.position (i + 1))) := by
        -- behind the last page there is no further request that would need the direction
        cases n with
        | zero => exact List.nil_sublist _
        | succ n =>
            have hstep := hshrinks i (Nat.le_refl i) (by omega)
            exact (ih (i + 1) fun j hij hj => hshrinks j (by omega) (by omega)).trans
              (ahead_sublist_drop hstep)
      rw [yielded_succ, ← shown_append]
      exact hrest.append_left _

/-! ### Answers -/

/-- The page of a number. -/
def page (r : Interleaving) (f : Filter) (i : Nat) : Page :=
  Page.cut (((r.storeAt i).selectedIn r.container f r.query).map (·.2)) (r.position i)
    (r.schedule.size i)

theorem length_documents (i : Nat) :
    (((r.storeAt i).selectedIn r.container f r.query).map (·.2)).length =
      (r.matching f i).length := by
  rw [matching, List.length_map, List.length_map]

section Asked

variable (h : r.Accepted f)

include h

/-- The container is there at every request. -/
theorem Accepted.has_storeAt (i : Nat) : (r.storeAt i).Has r.container := by
  induction i with
  | zero => exact h.has
  | succ i ih => exact ih.final (r.between i)

theorem ask_of_position (i : Nat) {token : Option String}
    (htoken : startOf? token = .ok (r.position i)) : r.ask i token = .ok (r.page f i) := by
  obtain ⟨c, hc⟩ := h.has_storeAt i
  have hselected : (r.storeAt i).selectedIn r.container f r.query = c.selected f r.query := by
    rw [DocStore.selectedIn, hc]
    rfl
  rw [ask, DocStore.ask, DocStore.query?_of_startOf? _ _ _ htoken, DocStore.results?_withPageSize,
    results?_of_bound h.parameters h.filter h.bound hc, pageSizeFor_schedule, page, hselected]
  rfl

/-- The documents on a page are those at the addresses shown, when the request comes. -/
theorem forall₂_page (i : Nat) :
    List.Forall₂ (fun a d => (r.storeAt i).document? ⟨r.container, a⟩ = some d) (r.shown f i)
      (r.page f i).items := by
  have hroom := h.room i
  rw [← length_documents] at hroom
  rw [page, cut_items hroom, shown, ahead, matching, ← List.map_drop, ← List.map_take,
    ← List.map_drop, ← List.map_take, List.forall₂_map_left_iff, List.forall₂_map_right_iff,
    List.forall₂_same]
  intro entry hentry
  exact DocStore.document?_of_mem_selectedIn (List.mem_of_mem_drop (List.mem_of_mem_take hentry))

theorem continuation_page (i : Nat) :
    (r.page f i).continuation =
      if r.position (i + 1) < (r.matching f i).length then some (toString (r.position (i + 1)))
      else none := by
  have hroom := h.room i
  rw [← length_documents] at hroom
  rw [page, cut_continuation hroom, length_documents]
  rfl

/-- A request of the chain is answered with its page; the chain goes on if that page does not reach
the end of what matches, and its next token stands for the next position. -/
theorem follow_succ (fuel i : Nat) {token : Option String}
    (htoken : startOf? token = .ok (r.position i)) :
    (r.position (i + 1) < (r.matching f i).length ∧
      ∃ next, startOf? (some next) = .ok (r.position (i + 1)) ∧
        follow r.ask (fuel + 1) i token =
          (follow r.ask fuel (i + 1) (some next)).map (·.map (r.page f i :: ·))) ∨
    ((r.matching f i).length ≤ r.position (i + 1) ∧
      follow r.ask (fuel + 1) i token = some (.ok [r.page f i])) := by
  have hcontinuation := continuation_page h i
  rw [follow, ask_of_position h i htoken]
  by_cases hmore : r.position (i + 1) < (r.matching f i).length
  · rw [if_pos hmore] at hcontinuation
    have hroom := h.room i
    exact Or.inl ⟨hmore, toString (r.position (i + 1)), startOf?_toString (by omega),
      by simp only [hcontinuation]⟩
  · rw [if_neg hmore] at hcontinuation
    exact Or.inr ⟨by omega, by simp only [hcontinuation]⟩

/-- A chain that ends has got its pages and nothing else, and the last one reaches the end. -/
theorem follow_eq_some (fuel i : Nat) {token : Option String}
    (htoken : startOf? token = .ok (r.position i)) {answer : Except StoreError (List Page)}
    (hfollow : follow r.ask fuel i token = some answer) :
    ∃ n, answer = .ok ((List.range' i (n + 1)).map (r.page f)) ∧
      (r.matching f (i + n)).length ≤ r.position (i + n + 1) := by
  induction fuel generalizing i token answer with
  | zero => cases hfollow
  | succ fuel ih =>
      rcases follow_succ h fuel i htoken with ⟨-, next, hnext, hmore⟩ | ⟨hend, hlast⟩
      -- the pages of the chain that goes on are numbered from the next request
      · rw [hmore, Option.map_eq_some_iff] at hfollow
        obtain ⟨rest, hrest, rfl⟩ := hfollow
        obtain ⟨n, rfl, hend⟩ := ih (i + 1) hnext hrest
        have hnumber : i + 1 + n = i + (n + 1) := by omega
        refine ⟨n + 1, ?_, hnumber ▸ hend⟩
        rw [List.range'_succ, List.map_cons]
        rfl
      · rw [hlast] at hfollow
        exact ⟨0, (Option.some.inj hfollow).symm, hend⟩

/-- If documents only cease to match, every request has fewer of them ahead, so that the chain
ends. -/
theorem exists_follow (hshrinks : ∀ i, r.matching f (i + 1) ⊆ r.matching f i) (fuel i : Nat)
    {token : Option String} (htoken : startOf? token = .ok (r.position i))
    (hfuel : max 1 (r.ahead f i).length ≤ fuel) :
    ∃ answer, follow r.ask fuel i token = some answer := by
  induction fuel generalizing i token with
  | zero => omega
  | succ fuel ih =>
      rcases follow_succ h fuel i htoken with ⟨hmore, next, hnext, hfollow⟩ | ⟨-, hlast⟩
      -- a page of at least one document is gone, and nothing has come
      · have hlength := (ahead_sublist_drop (hshrinks i)).length_le
        have hsize : 1 ≤ r.schedule.size i := Nat.le_max_left _ _
        have hposition : r.position (i + 1) = r.position i + r.schedule.size i := rfl
        rw [List.length_drop] at hlength
        rw [ahead, List.length_drop] at hfuel
        obtain ⟨answer, hanswer⟩ := ih (i + 1) hnext (by omega)
        exact ⟨_, by rw [hfollow, hanswer]; rfl⟩
      · exact ⟨_, hlast⟩

end Asked

end Interleaving

/-- While others act on the store between its requests, a client that follows the continuations of an
accepted query, with any choice of page sizes, gets no failure, and its pages hold the documents at
certain matching addresses.  If over its requests documents only come to match, whatever is written
otherwise, the chain has passed over none that matched at first when it ends.  If documents only
cease to match, the chain ends, and it yields no address twice and none that did not match at
first. -/
theorem interleaved_pages {r : Interleaving} {f : Filter} (h : r.Accepted f) :
    (∀ fuel answer, follow r.ask fuel 0 none = some answer →
      ∃ pages, answer = .ok pages ∧ ∀ i page, pages[i]? = some page →
        r.shown f i ⊆ r.matching f i ∧
        List.Forall₂ (fun a d => (r.storeAt i).document? ⟨r.container, a⟩ = some d)
          (r.shown f i) page.items) ∧
    (∀ fuel pages, follow r.ask fuel 0 none = some (.ok pages) → r.Grows f pages.length →
      (r.matching f 0).Sublist (r.yielded f 0 pages.length)) ∧
    (∀ fuel pages, follow r.ask fuel 0 none = some (.ok pages) → r.Shrinks f pages.length →
      (r.yielded f 0 pages.length).Sublist (r.matching f 0) ∧
        (r.yielded f 0 pages.length).Nodup) ∧
    ((∀ n, r.Shrinks f n) →
      ∃ pages, follow r.ask (max 1 (r.matching f 0).length) 0 none = some (.ok pages)) := by
  have hstart : startOf? none = .ok (r.position 0) := rfl
  have hlength : ∀ {n : Nat} {pages : List Page},
      (.ok pages : Except StoreError (List Page)) =
        .ok ((List.range' 0 (n + 1)).map (r.page f)) → pages.length = n + 1 := by
    intro n pages hpages
    rw [Except.ok.inj hpages, List.length_map, List.length_range']
  refine ⟨?_, ?_, ?_, ?_⟩
  · intro fuel answer hfollow
    obtain ⟨n, rfl, -⟩ := Interleaving.follow_eq_some h fuel 0 hstart hfollow
    refine ⟨_, rfl, ?_⟩
    intro i page hpage
    -- the pages are those of the requests 0, 1, …, so that the place of a page is its number
    rw [List.getElem?_map, Option.map_eq_some_iff] at hpage
    obtain ⟨j, hj, rfl⟩ := hpage
    obtain ⟨hi, hnumber⟩ := List.getElem?_eq_some_iff.mp hj
    obtain rfl : i = j := by
      rw [List.getElem_range'] at hnumber
      omega
    refine ⟨?_, Interleaving.forall₂_page h i⟩
    intro a ha
    exact List.mem_of_mem_drop (List.mem_of_mem_take ha)
  · intro fuel pages hfollow hgrows
    obtain ⟨n, hpages, hend⟩ := Interleaving.follow_eq_some h fuel 0 hstart hfollow
    rw [hlength hpages] at hgrows ⊢
    exact Interleaving.ahead_sublist_yielded 0 n (fun j _ hj => hgrows j (by omega)) hend
  · intro fuel pages hfollow hshrinks
    have hsublist : (r.yielded f 0 pages.length).Sublist (r.matching f 0) :=
      Interleaving.yielded_sublist_ahead 0 _ fun j _ hj => hshrinks j (by omega)
    exact ⟨hsublist, hsublist.nodup ((Interleaving.ascending_matching 0).imp Std.ne_of_lt)⟩
  · intro hshrinks
    obtain ⟨answer, hfollow⟩ := Interleaving.exists_follow h
      (fun i => hshrinks (i + 2) i (by omega)) _ 0 hstart (Nat.le_refl _)
    obtain ⟨n, rfl, -⟩ := Interleaving.follow_eq_some h _ 0 hstart hfollow
    exact ⟨_, hfollow⟩

/-- Pages of one document each, and what is done between the first two. -/
def afterFirst (xs : List Action) : Interleaving where
  store := DocStore.empty.final twoUsers
  container := "user"
  query := .everything
  schedule := oneByOne
  between i := if i = 0 then xs else []

/-- Nothing changes behind the second request. -/
theorem matching_afterFirst (xs : List Action) (i : Nat) :
    (afterFirst xs).matching [] (i + 1) = (afterFirst xs).matching [] 1 := by
  have hstore : (afterFirst xs).storeAt (i + 1) = (afterFirst xs).storeAt 1 := by
    induction i with
    | zero => rfl
    | succ i ih => exact ih
  rw [Interleaving.matching, hstore]
  rfl

theorem accepted_afterFirst {xs : List Action} {n : Nat} (hroom : n ≤ maxPosition)
    (hfirst : ((afterFirst xs).matching [] 0).length ≤ n)
    (hsecond : ((afterFirst xs).matching [] 1).length ≤ n) : (afterFirst xs).Accepted [] where
  has := by
    have hsome : ((DocStore.empty.final twoUsers).collections.find? "user").isSome = true := by
      decide +kernel
    exact Option.isSome_iff_exists.mp hsome
  parameters := rfl
  filter := ofText?_everything
  bound := List.forall_mem_nil _
  room i := by
    cases i with
    | zero => exact Nat.le_trans hfirst hroom
    | succ i =>
        rw [matching_afterFirst]
        exact Nat.le_trans hsecond hroom

/-- A document in front of those that the client has got, which then comes to see one of them
again. -/
def earlier : List Action :=
  [.request (.create "user" (.object [("id", .string "A")]) ⟨"third", 9⟩)]

/-- The removal of the document that the client has got, by which the other one is passed over. -/
def removal : List Action := [.request (.delete "user" ⟨"a", "a"⟩ .none)]

theorem interleaved_pages_twoUsers :
    (afterFirst earlier).yielded [] 0 3 = [⟨"a", "a"⟩, ⟨"a", "a"⟩, ⟨"b", "b"⟩] ∧
    ((afterFirst earlier).matching [] 0).Sublist ((afterFirst earlier).yielded [] 0 3) ∧
    (afterFirst removal).matching [] 0 = [⟨"a", "a"⟩, ⟨"b", "b"⟩] ∧
    ∃ pages, follow (afterFirst removal).ask 2 0 none = some (.ok pages) ∧
      ((afterFirst removal).yielded [] 0 pages.length).Nodup := by
  have hearlier : (afterFirst earlier).Accepted [] :=
    accepted_afterFirst (n := 3) (by decide) (by decide +kernel) (by decide +kernel)
  have hremoval : (afterFirst removal).Accepted [] :=
    accepted_afterFirst (n := 2) (by decide) (by decide +kernel) (by decide +kernel)
  obtain ⟨-, hgrown, -, -⟩ := interleaved_pages hearlier
  obtain ⟨-, -, hshrunk, hends⟩ := interleaved_pages hremoval
  have hmatching : (afterFirst removal).matching [] 0 = [⟨"a", "a"⟩, ⟨"b", "b"⟩] := by
    decide +kernel
  refine ⟨by decide +kernel, ?_, hmatching, ?_⟩
  · have hthree : (follow (afterFirst earlier).ask 3 0 none).bind
        (fun answer => answer.toOption.map List.length) = some 3 := by decide +kernel
    obtain ⟨answer, hfollow, hanswer⟩ := Option.bind_eq_some_iff.mp hthree
    obtain ⟨pages, hpages, hlength⟩ := Option.map_eq_some_iff.mp hanswer
    rw [(toOption_eq_some_iff _ _).mp hpages] at hfollow
    have hsublist := hgrown 3 pages hfollow fun i hi => ?_
    · rwa [hlength] at hsublist
    cases i with
    | zero =>
        show ∀ a ∈ (afterFirst earlier).matching [] 0, a ∈ (afterFirst earlier).matching [] 1
        decide +kernel
    | succ i =>
        rw [matching_afterFirst _ i, matching_afterFirst _ (i + 1)]
        exact List.Subset.refl _
  · have hless : ∀ n, (afterFirst removal).Shrinks [] n := by
      intro n i _
      cases i with
      | zero =>
          show ∀ a ∈ (afterFirst removal).matching [] 1, a ∈ (afterFirst removal).matching [] 0
          decide +kernel
      | succ i =>
          rw [matching_afterFirst _ i, matching_afterFirst _ (i + 1)]
          exact List.Subset.refl _
    obtain ⟨pages, hfollow⟩ := hends hless
    rw [hmatching] at hfollow
    exact ⟨pages, hfollow, (hshrunk _ pages hfollow (hless _)).2⟩

end DocAccess.Store
