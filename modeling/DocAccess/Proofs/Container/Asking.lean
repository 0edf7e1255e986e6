import DocAccess.Proofs.Container.Recording
import DocAccess.Proofs.Container.Streaming
import Mathlib.Data.List.Induction

/-!
# What a feed asks of its driver

A driver may answer each call as it likes: with an empty page that has a continuation, with
documents that are no items, with a failure half way.  Whatever it answers and however the feed is
used, the feed keeps in step with it: each call carries the continuation of the page just before it,
or none if it is the first one since the feed was made or rewound, and behind the last page or a
failure nothing is asked until the feed is rewound.

* `Behind.asked` — what one call keeps.
* `consume_recorded` — the calls of draining and of streaming, for any number of pages.
* `Trail.kept_after` — what every row of uses keeps.
* `asks_in_step` — the result.
-/

namespace DocAccess.Container

open DocAccess.Query DocAccess.Store

/-! ### Calls -/

namespace Exchange

/-- The continuation of the page that a call is answered with. -/
def token? : Exchange → Option String
  | query _ _ _ _ (.ok page) => page.continuation
  | _ => none

/-- Whether a call for a page gets the last one or fails. -/
inductive Ends : Exchange → Prop
  | last {container : String} {q : Prepared} {token : Option String} {o : Options} {page : Page}
      (h : page.continuation = none) : Ends (.query container q token o (.ok page))
  | failed {container : String} {q : Prepared} {token : Option String} {o : Options}
      (cause : StoreError) : Ends (.query container q token o (.error cause))

end Exchange

/-- The continuation of the page just before, where there is one. -/
def tokenBehind (calls : List Exchange) : Option String := calls.getLast?.bind Exchange.token?

@[simp] theorem tokenBehind_nil : tokenBehind [] = none := rfl

@[simp] theorem tokenBehind_concat (calls : List Exchange) (e : Exchange) :
    tokenBehind (calls ++ [e]) = e.token? := by
  simp [tokenBehind]

/-- What is seen of the uses of a feed. -/
inductive Mark where
  /-- The feed goes back before its first page. -/
  | rewound
  | asked (e : Exchange)

/-- The calls since a feed was made or rewound. -/
def sinceRewound (marks : List Mark) : List Exchange :=
  marks.foldl (fun calls mark => match mark with
    | .rewound => []
    | .asked e => calls ++ [e]) []

@[simp] theorem sinceRewound_rewound (marks : List Mark) :
    sinceRewound (marks ++ [.rewound]) = [] := by
  simp [sinceRewound]

@[simp] theorem sinceRewound_asked (marks : List Mark) (e : Exchange) :
    sinceRewound (marks ++ [.asked e]) = sinceRewound marks ++ [e] := by
  simp [sinceRewound]

theorem sinceRewound_append_asked (marks : List Mark) (calls : List Exchange) :
    sinceRewound (marks ++ calls.map .asked) = sinceRewound marks ++ calls := by
  induction calls using List.reverseRecOn with
  | nil => simp
  | append_singleton calls e ih =>
      rw [List.map_append, ← List.append_assoc, List.map_singleton, sinceRewound_asked, ih,
        List.append_assoc]

section Feeds

variable (container : String) (q : Prepared) (o : Options)

/-- Whether every call asks for pages of one query with one set of options, the first since the feed
was made or rewound without a continuation and each other one with that of the page just before it,
which then has one. -/
def InStep (marks : List Mark) : Prop :=
  ∀ before e later, marks = before ++ .asked e :: later →
    (∃ answer, e = .query container q (tokenBehind (sinceRewound before)) o answer) ∧
      (sinceRewound before ≠ [] → tokenBehind (sinceRewound before) ≠ none)

/-- How the reading of pages comes to its end. -/
inductive Ending where
  /-- The last page has been read. -/
  | exhausted
  | failed (cause : StoreError)
  /-- As many pages as allowed have been read, and none of them was the last. -/
  | unfinished

/-- The items of the pages that have been read, or why the reading failed. -/
def Ending.all {α : Type} (items : List α) : Ending → Option (Except StoreError (List α))
  | exhausted => some (.ok items)
  | failed cause => some (.error cause)
  | unfinished => none

/-- The items of the pages that have been read one by one, and at last why the reading failed. -/
def Ending.each {α : Type} (items : List α) : Ending → Option (List (Except StoreError α))
  | exhausted => some (items.map .ok)
  | failed cause => some (items.map .ok ++ [.error cause])
  | unfinished => none

/-- What it means that calls read pages one after the other, starting with a continuation, up to the
first that fails or is the last, and no more than a bound: their items and how the reading ends. -/
inductive PagesRead {α : Type} (decode : Decoder α) :
    Nat → Option String → List Exchange → List α → Ending → Prop
  | unfinished (token : Option String) : PagesRead decode 0 token [] [] .unfinished
  | failed (bound : Nat) (token : Option String) (answer : Except StoreError Page)
      (cause : StoreError) (hitems : Feed.itemsOf decode answer = .error cause) :
      PagesRead decode (bound + 1) token [.query container q token o answer] [] (.failed cause)
  | last (bound : Nat) (token : Option String) (page : Page) (items : List α)
      (hitems : Feed.itemsOf decode (.ok page) = .ok items) (hlast : page.continuation = none) :
      PagesRead decode (bound + 1) token [.query container q token o (.ok page)] items .exhausted
  | more (bound : Nat) (token : Option String) (page : Page) (next : String) (items rest : List α)
      (calls : List Exchange) (ending : Ending)
      (hitems : Feed.itemsOf decode (.ok page) = .ok items)
      (hnext : page.continuation = some next)
      (hrest : PagesRead decode bound (some next) calls rest ending) :
      PagesRead decode (bound + 1) token (.query container q token o (.ok page) :: calls)
        (items ++ rest) ending

variable {container q o}

/-! ### Marks -/

theorem InStep.nil : InStep container q o [] := by
  intro before e later h
  simp at h

/-- One more mark is in step if it is no call or a call that goes on behind those before. -/
theorem InStep.concat {marks : List Mark} (h : InStep container q o marks) {mark : Mark}
    (hmark : ∀ e, mark = .asked e →
      (∃ answer, e = .query container q (tokenBehind (sinceRewound marks)) o answer) ∧
        (sinceRewound marks ≠ [] → tokenBehind (sinceRewound marks) ≠ none)) :
    InStep container q o (marks ++ [mark]) := by
  intro before e later heq
  rcases List.eq_nil_or_concat later with rfl | ⟨rest, other, rfl⟩
  · obtain ⟨rfl, hlast⟩ := List.append_inj' heq rfl
    exact hmark e (List.head_eq_of_cons_eq hlast)
  · have heq' : marks ++ [mark] = (before ++ .asked e :: rest) ++ [other] := by simpa using heq
    exact h before e rest (List.append_inj' heq' rfl).1

/-- Calls that read pages behind some marks are in step with them. -/
theorem InStep.append {α : Type} {decode : Decoder α} {marks : List Mark}
    (h : InStep container q o marks) {bound : Nat} {token : Option String}
    {calls : List Exchange} {items : List α} {ending : Ending}
    (hcalls : PagesRead container q o decode bound token calls items ending)
    (htoken : token = tokenBehind (sinceRewound marks))
    (hmore : sinceRewound marks ≠ [] → token ≠ none) :
    InStep container q o (marks ++ calls.map .asked) := by
  -- whatever a call is answered with, it is one that goes on behind the marks
  have hfirst : ∀ answer, InStep container q o
      (marks ++ [.asked (.query container q token o answer)]) := by
    intro answer
    refine h.concat ?_
    rintro e ⟨⟩
    exact ⟨⟨answer, htoken ▸ rfl⟩, htoken ▸ hmore⟩
  induction hcalls generalizing marks with
  | unfinished => simpa using h
  | failed _ _ answer => exact hfirst answer
  | last _ _ page => exact hfirst (.ok page)
  | more _ token page next _ _ calls _ _ hnext _ ih =>
      have hbehind : some next = tokenBehind (sinceRewound
          (marks ++ [.asked (.query container q token o (.ok page))])) := by
        rw [sinceRewound_asked, tokenBehind_concat, Exchange.token?, hnext]
      have hrest := ih (hfirst (.ok page)) hbehind (fun _ => Option.some_ne_none next) ?_
      · simpa using hrest
      · intro answer
        refine (hfirst (.ok page)).concat ?_
        rintro e ⟨⟩
        exact ⟨⟨answer, hbehind ▸ rfl⟩, fun _ => hbehind ▸ Option.some_ne_none next⟩

end Feeds

/-! ### Feeds behind their calls -/

namespace Feed

variable {σ α : Type} {container : String} {q : Prepared} {o : Options} {f : Feed}
  {calls : List Exchange}

/-- What it means that a feed stands behind the calls since it was made or rewound. -/
structure Behind (container : String) (q : Prepared) (o : Options) (f : Feed)
    (calls : List Exchange) : Prop where
  container_eq : f.container = container
  query_eq : f.query = q
  options_eq : f.options = o
  started : f.started = !calls.isEmpty
  continuation : f.continuation = tokenBehind calls
  last : ∀ e ∈ calls.getLast?, ∃ token answer, e = .query container q token o answer

theorem behind_start : (start container q o).Behind container q o [] :=
  ⟨rfl, rfl, rfl, rfl, rfl, by simp⟩

namespace Behind

theorem reset (h : f.Behind container q o calls) : f.reset.Behind container q o [] :=
  ⟨h.container_eq, h.query_eq, h.options_eq, rfl, rfl, by simp⟩

/-- One more call keeps the feed behind its calls, whatever the answer. -/
theorem asked (h : f.Behind container q o calls) (answer : Except StoreError Page) :
    (f.advance answer).Behind container q o
      (calls ++ [.query container q f.continuation o answer]) := by
  have hlast : ∀ e ∈ (calls ++ [Exchange.query container q f.continuation o answer]).getLast?,
      ∃ token answer, e = .query container q token o answer := by
    intro e he
    rw [List.getLast?_concat, Option.mem_some_iff] at he
    exact ⟨_, _, he.symm⟩
  cases answer with
  | ok page =>
      exact ⟨h.container_eq, h.query_eq, h.options_eq, by simp [advance],
        by simp [advance, Exchange.token?], hlast⟩
  | error cause =>
      exact ⟨h.container_eq, h.query_eq, h.options_eq, by simp [advance],
        by simp [advance, Exchange.token?], hlast⟩

/-- A feed is exhausted if its last call got the last page or failed, and only then. -/
theorem hasMore_iff (h : f.Behind container q o calls) :
    f.hasMore = false ↔ ∃ e ∈ calls.getLast?, e.Ends := by
  rw [hasMore, h.started, h.continuation]
  rcases List.eq_nil_or_concat calls with rfl | ⟨before, e, rfl⟩
  · simp
  · rw [List.concat_eq_append] at h ⊢
    obtain ⟨token, answer, rfl⟩ := h.last e (by simp)
    rw [tokenBehind_concat, List.getLast?_concat]
    cases answer with
    | error cause =>
        simp only [Exchange.token?, Option.mem_some_iff, exists_eq_left']
        simpa using Exchange.Ends.failed cause
    | ok page =>
        simp only [Exchange.token?, Option.mem_some_iff, exists_eq_left']
        constructor
        · intro hnone
          exact .last (by simpa using hnone)
        · rintro ⟨hlast⟩
          simp [hlast]

/-- A feed that has more has a continuation, unless nothing has been asked yet. -/
theorem continuation_ne_none (h : f.Behind container q o calls) (hmore : f.hasMore = true)
    (hcalls : calls ≠ []) : f.continuation ≠ none := by
  have hstarted : f.started = true := by
    rw [h.started]
    simpa using hcalls
  intro hnone
  simp [hasMore, hstarted, hnone] at hmore

end Behind

/-! ### Pages -/

section Pages

variable (d : Driver σ) (decode : Decoder α)

/-- A feed that has more makes one call, and gives the items of the answer. -/
theorem next?_recorded (h : f.Behind container q o calls) (hmore : f.hasMore = true) (s : σ)
    (log : List Exchange) :
    ∃ answer s', next? d.recorded decode f (s, log) =
      (some (itemsOf decode answer), f.advance answer, s',
        log ++ [.query container q f.continuation o answer]) := by
  obtain ⟨rfl, rfl, rfl, -, -, -⟩ := h
  rcases hanswer : d.query f.container f.query f.continuation f.options s with ⟨answer, s'⟩
  have hcall := noted_apply hanswer (.query f.container f.query f.continuation f.options) log
  refine ⟨answer, s', ?_⟩
  rw [next?, if_pos hmore]
  simp only [Driver.recorded, ExceptT.run, hcall]

/-- Draining and streaming make the same calls: they read pages, the first of them with the
continuation that the feed stands at, up to the first that fails or is the last.  The induction is
on the pages still allowed. -/
theorem consume_recorded (bound : Nat) {f : Feed} {calls : List Exchange}
    (h : f.Behind container q o calls) (hmore : f.hasMore = true) (s : σ) (log : List Exchange) :
    ∃ asked items ending behind s',
      PagesRead container q o decode bound f.continuation asked items ending ∧
      drain d.recorded decode bound f (s, log) = (ending.all items, behind, s', log ++ asked) ∧
      stream d.recorded decode bound f (s, log) = (ending.each items, s', log ++ asked) ∧
      behind.Behind container q o (calls ++ asked) := by
  induction bound generalizing f calls s log with
  | zero =>
      refine ⟨[], [], .unfinished, f, s, .unfinished _, ?_, ?_, ?_⟩
      · simp [drain, hmore, Ending.all]
      · simp [stream, hmore, Ending.each]
      · simpa using h
  | succ bound ih =>
      obtain ⟨answer, s', hnext⟩ := next?_recorded d decode h hmore s log
      have hbehind := h.asked answer
      rw [drain, stream, hnext]
      cases hitems : itemsOf decode answer with
      | error cause =>
          exact ⟨_, [], .failed cause, _, s', .failed bound _ answer cause hitems, rfl, rfl, hbehind⟩
      | ok items =>
          cases answer with
          | error cause => cases hitems
          | ok page =>
              cases hlast : page.continuation with
              | none =>
                  -- nothing is asked behind the last page
                  have hdone : (f.advance (.ok page)).hasMore = false := by
                    simp [hasMore, advance, hlast]
                  refine ⟨_, items, .exhausted, _, s', .last bound _ page items hitems hlast, ?_,
                    ?_, hbehind⟩
                  · simp only [drain_of_exhausted hdone, List.append_nil]
                    rfl
                  · simp only [stream_of_exhausted hdone, List.append_nil]
                    rfl
              | some next =>
                  have hgoes : (f.advance (.ok page)).hasMore = true := by
                    simp [hasMore, advance, hlast]
                  obtain ⟨asked, rest, ending, behind, s'', hread, hdrain, hstream, hrest⟩ :=
                    ih hbehind hgoes s' (log ++ [.query container q f.continuation o (.ok page)])
                  have htoken : (f.advance (.ok page)).continuation = some next := hlast
                  rw [htoken] at hread
                  refine ⟨_, items ++ rest, ending, behind, s'',
                    .more bound _ page next items rest asked ending hitems hlast hread, ?_, ?_, ?_⟩
                  · simp only [hdrain, List.append_assoc, List.singleton_append]
                    cases ending <;> rfl
                  · simp only [hstream, List.append_assoc, List.singleton_append]
                    cases ending <;> simp [Ending.each]
                  · simpa using hrest

end Pages

/-! ### Uses -/

/-- What may be done with a feed before it is consumed as a stream. -/
inductive Use where
  | hasMore
  | next
  /-- All items are fetched, or given up after a number of pages. -/
  | fetchAll (bound : Nat)
  | reset

namespace Use

/-- Whether a use goes back before the first page. -/
def rewinds : Use → Bool
  | fetchAll _ | reset => true
  | hasMore | next => false

/-- The feed and the state of its driver behind a use. -/
def run (d : Driver σ) (decode : Decoder α) : Use → Feed → σ → Feed × σ
  | hasMore, f, s => (f, s)
  | next, f, s => (next? d decode f s).2
  | fetchAll bound, f, s => (Feed.fetchAll d decode bound f s).2
  | reset, f, s => (f.reset, s)

end Use

/-- A feed and the state of its driver, with what has been seen of the uses so far. -/
structure Trail (σ : Type) where
  feed : Feed
  state : σ
  marks : List Mark

namespace Trail

variable (d : Driver σ) (decode : Decoder α)

/-- A feed that has not been used yet. -/
def start (f : Feed) (s : σ) : Trail σ := ⟨f, s, []⟩

/-- One more use of a feed, with the calls that it makes. -/
def use (t : Trail σ) (u : Use) : Trail σ :=
  let (f, s, calls) := u.run d.recorded decode t.feed (t.state, [])
  ⟨f, s, t.marks ++ (if u.rewinds then [.rewound] else []) ++ calls.map .asked⟩

/-- The uses of a feed, one after the other. -/
def after (t : Trail σ) (uses : List Use) : Trail σ := uses.foldl (use d decode) t

@[simp] theorem after_cons (t : Trail σ) (u : Use) (uses : List Use) :
    t.after d decode (u :: uses) = (t.use d decode u).after d decode uses := rfl

/-- What every use of a feed keeps. -/
structure Kept (container : String) (q : Prepared) (o : Options) (t : Trail σ) : Prop where
  inStep : InStep container q o t.marks
  behind : t.feed.Behind container q o (sinceRewound t.marks)

theorem kept_start (s : σ) : (start (.start container q o) s).Kept container q o :=
  ⟨InStep.nil, behind_start⟩

variable {d decode} {t : Trail σ}

theorem Kept.rewound (h : t.Kept container q o) :
    (⟨t.feed.reset, t.state, t.marks ++ [.rewound]⟩ : Trail σ).Kept container q o := by
  constructor
  · refine h.inStep.concat ?_
    rintro e ⟨⟩
  · rw [sinceRewound_rewound]
    exact h.behind.reset

theorem Kept.asked (h : t.Kept container q o) (hmore : t.feed.hasMore = true)
    (answer : Except StoreError Page) (s : σ) :
    (⟨t.feed.advance answer, s,
      t.marks ++ [.asked (.query container q t.feed.continuation o answer)]⟩ : Trail σ).Kept
        container q o := by
  constructor
  · refine h.inStep.concat ?_
    rintro e ⟨⟩
    rw [← h.behind.continuation]
    exact ⟨⟨answer, rfl⟩, h.behind.continuation_ne_none hmore⟩
  · rw [sinceRewound_asked]
    exact h.behind.asked answer

/-- A feed that has more is kept by whatever reads pages from where it stands. -/
theorem Kept.read (h : t.Kept container q o) (hmore : t.feed.hasMore = true) {bound : Nat}
    {calls : List Exchange} {items : List α} {ending : Ending} {f : Feed} {s : σ}
    (hread : PagesRead container q o decode bound t.feed.continuation calls items ending)
    (hf : f.Behind container q o (sinceRewound t.marks ++ calls)) :
    (⟨f, s, t.marks ++ calls.map .asked⟩ : Trail σ).Kept container q o := by
  refine ⟨h.inStep.append hread h.behind.continuation ?_, ?_⟩
  · exact h.behind.continuation_ne_none hmore
  · rw [sinceRewound_append_asked]
    exact hf

/-- What one use keeps. -/
theorem Kept.use (h : t.Kept container q o) (u : Use) :
    (t.use d decode u).Kept container q o := by
  cases u with
  | hasMore => simpa [Trail.use, Use.run, Use.rewinds] using h
  | reset => simpa [Trail.use, Use.run, Use.rewinds] using h.rewound
  | next =>
      cases hmore : t.feed.hasMore with
      | false =>
          have hnext : t.feed.next? d.recorded decode (t.state, []) =
              (none, t.feed, t.state, []) := next?_of_exhausted hmore _
          simpa [Trail.use, Use.run, Use.rewinds, hnext] using h
      | true =>
          obtain ⟨answer, s', hnext⟩ := next?_recorded d decode h.behind hmore t.state []
          simpa [Trail.use, Use.run, Use.rewinds, hnext] using h.asked hmore answer s'
  | fetchAll bound =>
      obtain ⟨calls, items, ending, f, s, hread, hdrain, -, hf⟩ :=
        consume_recorded d decode bound h.behind.reset rfl t.state []
      have hkept := h.rewound.read (f := f) (s := s) rfl hread (by simpa using hf)
      simpa [Trail.use, Use.run, Use.rewinds, Feed.fetchAll, hdrain] using hkept

/-- What every row of uses keeps. -/
theorem kept_after (h : t.Kept container q o) (uses : List Use) :
    (t.after d decode uses).Kept container q o := by
  induction uses generalizing t with
  | nil => exact h
  | cons u uses ih =>
      rw [after_cons]
      exact ih (h.use u)

/-- As long as no page is fetched, nothing is asked. -/
theorem not_asked_after (h : ∀ e, .asked e ∉ t.marks) {uses : List Use}
    (hidle : ∀ u ∈ uses, u = .hasMore ∨ u = .reset) :
    ∀ e, .asked e ∉ (t.after d decode uses).marks := by
  induction uses generalizing t with
  | nil => exact h
  | cons u uses ih =>
      rw [List.forall_mem_cons] at hidle
      rw [after_cons]
      refine ih (fun e => ?_) hidle.2
      rcases hidle.1 with rfl | rfl
      · simpa [use, Use.run, Use.rewinds] using h e
      · simpa [use, Use.run, Use.rewinds] using h e

/-- Whether a feed keeps in step with its driver, given what has been seen of its uses so far. -/
structure Orderly (d : Driver σ) (decode : Decoder α) (container : String) (q : Prepared)
    (o : Options) (t : Trail σ) : Prop where
  calls : InStep container q o t.marks
  /-- A feed is exhausted if its last call got the last page or failed. -/
  exhausted_iff : t.feed.hasMore = false ↔ ∃ e ∈ (sinceRewound t.marks).getLast?, e.Ends
  /-- An exhausted feed gives nothing, asks nothing and stays as it is. -/
  next_exhausted : t.feed.hasMore = false →
    next? d.recorded decode t.feed (t.state, []) = (none, t.feed, t.state, [])
  /-- Any other feed makes one call for its next page. -/
  next_page : t.feed.hasMore = true → ∃ answer f s,
    next? d.recorded decode t.feed (t.state, []) =
      (some (itemsOf decode answer), f, s,
        [.query container q (tokenBehind (sinceRewound t.marks)) o answer])
  /-- All items are fetched from the first page on. -/
  all_items : ∀ bound, ∃ calls items ending f s,
    PagesRead container q o decode bound none calls items ending ∧
      fetchAll d.recorded decode bound t.feed (t.state, []) = (ending.all items, f, s, calls)
  stream_exhausted : t.feed.hasMore = false → ∀ bound,
    stream d.recorded decode bound t.feed (t.state, []) = (some [], t.state, [])
  /-- A stream goes on from where the feed stands; an error is the last that it gives, and the call
  that it comes from is the last one. -/
  stream_items : t.feed.hasMore = true → ∀ bound, ∃ calls items ending s,
    PagesRead container q o decode bound (tokenBehind (sinceRewound t.marks)) calls items ending ∧
      stream d.recorded decode bound t.feed (t.state, []) = (ending.each items, s, calls)
  /-- Someone who takes the items one by one takes those of the stream with its calls, and makes no
  call by asking for more behind the last one. -/
  stream_taken : ∀ bound items s,
    stream d.recorded decode bound t.feed (t.state, []) = (some items, s) →
      TakesAll d.recorded decode t.feed.flow (t.state, []) items s

theorem Kept.orderly (h : t.Kept container q o) : t.Orderly d decode container q o where
  calls := h.inStep
  exhausted_iff := h.behind.hasMore_iff
  next_exhausted hdone := next?_of_exhausted hdone _
  next_page hmore := by
    obtain ⟨answer, s', hnext⟩ := next?_recorded d decode h.behind hmore t.state []
    exact ⟨answer, _, s', h.behind.continuation ▸ hnext⟩
  all_items bound := by
    obtain ⟨calls, items, ending, f, s, hread, hdrain, -, -⟩ :=
      consume_recorded d decode bound h.behind.reset rfl t.state []
    exact ⟨calls, items, ending, f, s, hread, hdrain⟩
  stream_exhausted hdone bound := stream_of_exhausted hdone bound _
  stream_items hmore bound := by
    obtain ⟨calls, items, ending, f, s, hread, -, hstream, -⟩ :=
      consume_recorded d decode bound h.behind hmore t.state []
    exact ⟨calls, items, ending, s, h.behind.continuation ▸ hread, hstream⟩
  stream_taken _ _ _ := takesAll_of_stream

end Trail

/-- Whatever the driver of a container answers and however the feed of a query is used, the feed
keeps in step with the driver, and asks nothing before the first page is fetched. -/
theorem asks_in_step (h : Handle σ) (decode : Decoder α) (q : Prepared) (o : Options) (s : σ)
    (uses : List Use) :
    ((Trail.start (h.query q o) s).after h.driver decode uses).Orderly h.driver decode h.name q o ∧
      ((∀ u ∈ uses, u = .hasMore ∨ u = .reset) →
        ∀ e, .asked e ∉ ((Trail.start (h.query q o) s).after h.driver decode uses).marks) := by
  constructor
  · exact (Trail.kept_after (Trail.kept_start s) uses).orderly
  · exact Trail.not_asked_after (by simp [Trail.start])

end Feed

end DocAccess.Container
