import DocAccess.Proofs.Container.Draining

/-!
# Taking a stream item by item

A stream is lazy as its feed is: an item is taken from the page that was fetched last, and a page is
fetched when an item is asked for and that page has no more.  `Feed.stream` says what is taken by
someone who takes all items.  Here taking one item is a step of its own, so that it can be said what
happens to someone who goes on asking behind the last one.

* `takesAll_of_stream` — the steps add up to `Feed.stream`.
* `Takes.ended` — behind the end there is nothing to take, and nothing is fetched.
-/

namespace DocAccess.Container

open DocAccess.Store

variable {σ α : Type}

/-- A feed that is being consumed item by item. -/
structure Flow (α : Type) where
  feed : Feed
  /-- What is left of the page that was fetched last. -/
  buffered : List α
  failed : Bool

/-- A feed of which no item has been taken. -/
def Feed.flow (f : Feed) : Flow α := ⟨f, [], false⟩

/-- What is taken when an item is asked for: an item, an error, or nothing at the end. -/
inductive Takes (d : Driver σ) (decode : Decoder α) :
    Flow α → σ → Option (Except StoreError α) → Flow α → σ → Prop
  /-- An error is the last that is taken. -/
  | failed (f : Feed) (buffered : List α) (s : σ) :
      Takes d decode ⟨f, buffered, true⟩ s none ⟨f, buffered, true⟩ s
  | buffered (f : Feed) (item : α) (rest : List α) (s : σ) :
      Takes d decode ⟨f, item :: rest, false⟩ s (some (.ok item)) ⟨f, rest, false⟩ s
  | exhausted {f f' : Feed} {s s' : σ} (hnext : f.next? d decode s = (none, f', s')) :
      Takes d decode ⟨f, [], false⟩ s none ⟨f', [], false⟩ s'
  | error {f f' : Feed} {s s' : σ} {cause : StoreError}
      (hnext : f.next? d decode s = (some (.error cause), f', s')) :
      Takes d decode ⟨f, [], false⟩ s (some (.error cause)) ⟨f', [], true⟩ s'
  /-- A page is fetched, and the item is asked for again. -/
  | page {f f' : Feed} {s s' s'' : σ} {items : List α} {taken : Option (Except StoreError α)}
      {w : Flow α} (hnext : f.next? d decode s = (some (.ok items), f', s'))
      (hrest : Takes d decode ⟨f', items, false⟩ s' taken w s'') :
      Takes d decode ⟨f, [], false⟩ s taken w s''

/-- What is taken by someone who takes all items, and the driver behind that, where nothing more is
to come. -/
inductive TakesAll (d : Driver σ) (decode : Decoder α) :
    Flow α → σ → List (Except StoreError α) → σ → Prop
  | ended {w w' : Flow α} {s s' : σ} (h : Takes d decode w s none w' s')
      (hend : ∀ taken w'' s'', Takes d decode w' s' taken w'' s'' → taken = none ∧ s'' = s') :
      TakesAll d decode w s [] s'
  | taken {w w' : Flow α} {s s' s'' : σ} {item : Except StoreError α}
      {rest : List (Except StoreError α)} (h : Takes d decode w s (some item) w' s')
      (hrest : TakesAll d decode w' s' rest s'') : TakesAll d decode w s (item :: rest) s''

variable {d : Driver σ} {decode : Decoder α}

/-! ### Steps -/

/-- Only an exhausted feed gives no page, and it stays as it is. -/
theorem exhausted_of_next? {f f' : Feed} {s s' : σ} (h : f.next? d decode s = (none, f', s')) :
    f.hasMore = false ∧ f' = f ∧ s' = s := by
  unfold Feed.next? at h
  split at h
  · cases h
  · next hmore =>
      cases h
      exact ⟨by simpa using hmore, rfl, rfl⟩

/-- Behind the end there is nothing to take, and nothing is fetched. -/
theorem Takes.ended {w w' w'' : Flow α} {s s' s'' : σ} {taken : Option (Except StoreError α)}
    (h : Takes d decode w s none w' s') (hagain : Takes d decode w' s' taken w'' s'') :
    taken = none ∧ s'' = s' := by
  generalize hnone : none = first at h
  induction h with
  | failed =>
      cases hagain
      exact ⟨rfl, rfl⟩
  | buffered => cases hnone
  | exhausted hnext =>
      -- the feed was exhausted before and still is
      obtain ⟨hdone, rfl, rfl⟩ := exhausted_of_next? hnext
      have hstill (s : σ) : Feed.next? d decode _ s = (none, _, s) := Feed.next?_of_exhausted hdone s
      cases hagain with
      | exhausted h => exact ⟨rfl, (exhausted_of_next? h).2.2⟩
      | error h => cases (hstill _).symm.trans h
      | page h => cases (hstill _).symm.trans h
  | error => cases hnone
  | page _ _ ih => exact ih hagain hnone

/-! ### All items -/

/-- A page that is fetched for the first item changes nothing of what is taken. -/
theorem TakesAll.page {f f' : Feed} {s s' s'' : σ} {items : List α}
    {taken : List (Except StoreError α)} (hnext : f.next? d decode s = (some (.ok items), f', s'))
    (h : TakesAll d decode ⟨f', items, false⟩ s' taken s'') :
    TakesAll d decode f.flow s taken s'' := by
  cases h with
  | ended h hend => exact .ended (.page hnext h) hend
  | taken h hrest => exact .taken (.page hnext h) hrest

/-- The items that are left of a page are taken first. -/
theorem TakesAll.buffered {f : Feed} {s s' : σ} (items : List α)
    {taken : List (Except StoreError α)} (h : TakesAll d decode f.flow s taken s') :
    TakesAll d decode ⟨f, items, false⟩ s (items.map .ok ++ taken) s' := by
  induction items with
  | nil => exact h
  | cons item items ih => exact .taken (.buffered f item items s) ih

/-- Someone who takes items until there are no more takes those of the stream. -/
theorem takesAll_of_stream {fuel : Nat} {f : Feed} {s s' : σ} {taken : List (Except StoreError α)}
    (h : f.stream d decode fuel s = (some taken, s')) : TakesAll d decode f.flow s taken s' := by
  induction fuel generalizing f s taken with
  | zero =>
      rw [Feed.stream] at h
      split at h
      · cases h
      · next hmore =>
          cases h
          have hdone : f.hasMore = false := by simpa using hmore
          have hlast : Takes d decode f.flow s' none f.flow s' :=
            .exhausted (Feed.next?_of_exhausted hdone s')
          exact .ended hlast fun _ _ _ => hlast.ended
  | succ fuel ih =>
      rw [Feed.stream] at h
      rcases hnext : f.next? d decode s with ⟨answer, f', s''⟩
      rw [hnext] at h
      rcases answer with _ | cause | items
      · cases h
        have hlast : Takes d decode f.flow s none f'.flow s' := .exhausted hnext
        exact .ended hlast fun _ _ _ => hlast.ended
      · cases h
        have hlast : Takes d decode ⟨f', [], true⟩ s' none ⟨f', [], true⟩ s' := .failed f' [] s'
        exact .taken (.error hnext) (.ended hlast fun _ _ _ => hlast.ended)
      · dsimp only at h
        rcases hrest : f'.stream d decode fuel s'' with ⟨rest, last⟩
        rw [hrest] at h
        cases rest with
        | none => cases h
        | some rest =>
            cases h
            -- the items of a page are given one by one before the next page is asked for
            exact .page hnext ((ih hrest).buffered items)

end DocAccess.Container
