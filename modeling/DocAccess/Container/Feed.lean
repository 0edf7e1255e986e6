import DocAccess.Container.Handle
import DocAccess.Container.Resource

/-!
# Feeds of query results

A feed is lazy: nothing is sent before the first page is asked for.  It ends with a page that has no
continuation or with a failure of the driver, and it can be rewound.  As a driver may answer with
ever more pages, draining takes a bound on their number and says when the bound is reached.
-/

namespace DocAccess.Container

open DocAccess.Document DocAccess.Query DocAccess.Store

/-- A sequence of result pages. -/
structure Feed where
  container : String
  query : Prepared
  options : Options
  /-- What the next page is asked for with. -/
  continuation : Option String
  /-- Whether a page has been asked for. -/
  started : Bool

namespace Feed

/-- A feed before its first page. -/
def start (container : String) (query : Prepared) (options : Options) : Feed :=
  ⟨container, query, options, none, false⟩

/-- Whether another page may exist. -/
def hasMore (f : Feed) : Bool := !f.started || f.continuation.isSome

/-- The feed before its first page again. -/
def reset (f : Feed) : Feed := { f with continuation := none, started := false }

/-- The feed behind a page that was asked for. -/
def advance (f : Feed) : Except StoreError Page → Feed
  | .ok page => { f with continuation := page.continuation, started := true }
  -- a failure takes the continuation with it, so that the feed is exhausted
  | .error _ => { f with continuation := none, started := true }

variable {σ α : Type}

/-- The items of an answer. -/
def itemsOf (decode : Decoder α) : Except StoreError Page → Except StoreError (List α)
  | .ok page => fromResources decode page.items
  | .error e => .error e

/-- The next page, or nothing if the feed is exhausted. -/
def next? (d : Driver σ) (decode : Decoder α) (f : Feed) (s : σ) :
    Option (Except StoreError (List α)) × Feed × σ :=
  if f.hasMore then
    let (answer, s) := (d.query f.container f.query f.continuation f.options).run s
    (some (itemsOf decode answer), f.advance answer, s)
  else (none, f, s)

/-- The items of the pages to come, up to the first failure; nothing if more pages than the bound
are needed. -/
def drain (d : Driver σ) (decode : Decoder α) :
    Nat → Feed → σ → Option (Except StoreError (List α)) × Feed × σ
  | 0, f, s => if f.hasMore then (none, f, s) else (some (.ok []), f, s)
  | fuel + 1, f, s =>
      match next? d decode f s with
      | (none, f, s) => (some (.ok []), f, s)
      | (some (.error e), f, s) => (some (.error e), f, s)
      | (some (.ok items), f, s) =>
          match drain d decode fuel f s with
          | (some (.ok rest), f, s) => (some (.ok (items ++ rest)), f, s)
          | other => other

/-- Every item from the first page on. -/
def fetchAll (d : Driver σ) (decode : Decoder α) (bound : Nat) (f : Feed) (s : σ) :
    Option (Except StoreError (List α)) × Feed × σ :=
  drain d decode bound f.reset s

/-- The items of the pages to come one by one; the first failure is the last item. -/
def stream (d : Driver σ) (decode : Decoder α) :
    Nat → Feed → σ → Option (List (Except StoreError α)) × σ
  | 0, f, s => if f.hasMore then (none, s) else (some [], s)
  | fuel + 1, f, s =>
      match next? d decode f s with
      | (none, _, s) => (some [], s)
      | (some (.error e), _, s) => (some [.error e], s)
      | (some (.ok items), f, s) =>
          match stream d decode fuel f s with
          | (some rest, s) => (some (items.map Except.ok ++ rest), s)
          | (none, s) => (none, s)

end Feed

namespace Handle

variable {σ : Type}

/-- The feed of a query. -/
def query (h : Handle σ) (q : Prepared) (o : Options) : Feed := .start h.name q o

/-- The feed of every document. -/
def readAll (h : Handle σ) (o : Options) : Feed := h.query Prepared.everything o

end Handle

end DocAccess.Container
