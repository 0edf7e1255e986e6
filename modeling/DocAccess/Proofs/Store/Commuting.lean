import DocAccess.Proofs.Store.Effects
import DocAccess.Proofs.Store.Integrity
import Mathlib.Data.List.Nodup

/-!
# Requests at two places

A request about one document reads and writes at one place only, although all documents of a
container lie in one table and all writes draw from one counter.  Two of them at different places
can therefore change turns: the answers and the store behind both are the same, but for the numbers
that the two draw from the counter.

* `sameAnswer_serve`: a request is answered by the containers and what lies at its place;
* `onlyAt_serve`: its answer decides what it leaves there, and it leaves everything else alone;
* `point_requests_commute`: two of them change turns.

Stores are the same up to numbers if they are equal when the number of every document is blanked.
-/

namespace DocAccess.Store

open DocAccess.Document

/-! ### Tables by what is found in them -/

namespace Table

variable {κ α β : Type} [LT κ] [DecidableEq κ]

/-- A table is decided by what is found in it, since its entries stand in order. -/
theorem ext_find? [Std.Irrefl (α := κ) (· < ·)] [Std.Asymm (α := κ) (· < ·)]
    {table table' : Table κ α} (hfind : ∀ key, table.find? key = table'.find? key) :
    table = table' := by
  have hnodup : ∀ t : Table κ α, t.entries.Nodup := by
    intro t
    refine t.ascending.imp ?_
    rintro a b hlt rfl
    exact Std.lt_irrefl hlt
  have hperm : table.entries.Perm table'.entries := by
    refine (List.perm_ext_iff_of_nodup (hnodup _) (hnodup _)).mpr ?_
    rintro ⟨key, value⟩
    rw [mem_entries, mem_entries, hfind]
  have hentries : table.entries = table'.entries := by
    refine hperm.eq_of_pairwise ?_ table.ascending table'.ascending
    intro a b _ _ hab hba
    exact absurd hba (Std.Asymm.asymm _ _ hab)
  obtain ⟨entries, _⟩ := table
  obtain ⟨entries', _⟩ := table'
  obtain rfl : entries = entries' := hentries
  rfl

/-- The table of the same keys with other values. -/
def map (f : α → β) (table : Table κ α) : Table κ β where
  entries := table.entries.map fun entry => (entry.1, f entry.2)
  ascending := List.pairwise_map.mpr table.ascending

theorem find?_map (f : α → β) (table : Table κ α) (key : κ) :
    (table.map f).find? key = (table.find? key).map f := by
  obtain ⟨entries, hascending⟩ := table
  show Entries.find? key (entries.map _) = (Entries.find? key entries).map f
  clear hascending
  induction entries with
  | nil => rfl
  | cons entry rest ih =>
      simp only [List.map_cons, Entries.find?, ih]
      split
      · rfl
      · rfl

end Table

/-! ### Documents up to their numbers -/

/-- A field, and nothing for its value if it is the number of a document. -/
def blankNumber (field : String × Value) : String × Value :=
  (field.1, if field.1 = "_rid" then .null else field.2)

/-- A document with nothing for its number. -/
def unnumbered : Value → Value
  | .object fields => .object (fields.map blankNumber)
  | d => d

theorem map_blankNumber_insert (name : String) (value : Value) (fields : Fields) :
    (fields.insert name value).map blankNumber =
      Fields.insert name (blankNumber (name, value)).2 (fields.map blankNumber) := by
  induction fields with
  | nil => rfl
  | cons field rest ih =>
      obtain ⟨key, old⟩ := field
      simp only [Fields.insert, List.map_cons, blankNumber]
      split
      · rfl
      · split
        · rfl
        · rw [List.map_cons, ih]
          rfl

/-- The documents that two numbers make of one body are the same up to their numbers. -/
theorem unnumbered_stamped (n n' : Nat) (container id : String) (stamp : Stamp) (body : Value) :
    unnumbered (stamped n container id stamp body) =
      unnumbered (stamped n' container id stamp body) := by
  cases body with
  | object fields =>
      simp only [stamped, stampFields, unnumbered, map_blankNumber_insert]
      rfl
  | _ => rfl

/-- A container with nothing for the numbers of its documents. -/
def Collection.unnumbered (c : Collection) : Collection :=
  { c with items := c.items.map Store.unnumbered }

/-- A store with nothing for the numbers of its documents. -/
def DocStore.unnumbered (s : DocStore) : DocStore :=
  { s with collections := s.collections.map Collection.unnumbered }

/-! ### Stores with the same containers -/

/-- Whether two stores have the same containers, with the same paths. -/
def SamePaths (s s' : DocStore) : Prop :=
  ∀ name, (s'.collections.find? name).map (·.path) = (s.collections.find? name).map (·.path)

namespace SamePaths

variable {s s' s'' : DocStore}

theorem symm (hpaths : SamePaths s s') : SamePaths s' s := fun name => (hpaths name).symm

theorem trans (hpaths : SamePaths s s') (hpaths' : SamePaths s' s'') : SamePaths s s'' :=
  fun name => (hpaths' name).trans (hpaths name)

/-- A name is free in both stores, or stands in both for a container of one path. -/
theorem cases_find? (hpaths : SamePaths s s') (name : String) :
    (s.collections.find? name = none ∧ s'.collections.find? name = none) ∨
      ∃ c c', s.collections.find? name = some c ∧ s'.collections.find? name = some c' ∧
        c'.path = c.path := by
  have hpath := hpaths name
  cases hc : s.collections.find? name with
  | none =>
      rw [hc, Option.map_none, Option.map_eq_none_iff] at hpath
      exact .inl ⟨rfl, hpath⟩
  | some c =>
      rw [hc, Option.map_some, Option.map_eq_some_iff] at hpath
      obtain ⟨c', hc', hsame⟩ := hpath
      exact .inr ⟨c, c', rfl, hc', hsame⟩

/-- A new document determines one place in both stores. -/
theorem placeOf? (hpaths : SamePaths s s') (container : String) (body : Value) :
    s'.placeOf? container body = s.placeOf? container body := by
  unfold DocStore.placeOf? DocStore.collection?
  obtain ⟨hc, hc'⟩ | ⟨c, c', hc, hc', hpath⟩ := hpaths.cases_find? container
  · rw [hc, hc']
  · rw [hc, hc']
    simp only [bind, Except.bind, Collection.partitionOf?_congr hpath]

end SamePaths

/-- Stores are the same up to numbers if they have the same containers, counter and page size, and
at each place the same document up to its number. -/
theorem unnumbered_congr {s s' : DocStore} (hpaths : SamePaths s s')
    (hdocuments : ∀ p, (s'.document? p).map unnumbered = (s.document? p).map unnumbered)
    (hcounter : s'.counter = s.counter) (hpageSize : s'.pageSize = s.pageSize) :
    s'.unnumbered = s.unnumbered := by
  have hcollections : s'.unnumbered.collections = s.unnumbered.collections := by
    refine Table.ext_find? fun name => ?_
    simp only [DocStore.unnumbered, Table.find?_map]
    obtain ⟨hc, hc'⟩ | ⟨c, c', hc, hc', hpath⟩ := hpaths.cases_find? name
    · rw [hc, hc']
    · -- a container is its path and what is found at its addresses
      have hitems : c'.items.map unnumbered = c.items.map unnumbered := by
        refine Table.ext_find? fun a => ?_
        rw [Table.find?_map, Table.find?_map,
          ← DocStore.document?_of_find? (p := ⟨name, a⟩) hc', hdocuments,
          DocStore.document?_of_find? hc]
      simp only [hc, hc', Option.map_some, Collection.unnumbered, hpath, hitems]
  obtain ⟨collections, pageSize, counter⟩ := s
  obtain ⟨collections', pageSize', counter'⟩ := s'
  obtain rfl : pageSize' = pageSize := hpageSize
  obtain rfl : counter' = counter := hcounter
  simp only [DocStore.unnumbered] at hcollections ⊢
  rw [hcollections]

/-! ### Requests about one document -/

/-- Whether a request is about one document. -/
def Request.IsPoint : Request → Prop
  | .read .. | .create .. | .replace .. | .delete .. => True
  | .size _ | .provision _ => False

/-- The place that a request is about; for a new document the one that it determines, if any. -/
def DocStore.placeAt? (s : DocStore) : Request → Option Place
  | .create container body _ => (s.placeOf? container body).toOption
  | .read container a | .replace container a _ _ _ | .delete container a _ => some ⟨container, a⟩
  | .size _ | .provision _ => none

theorem SamePaths.placeAt? {s s' : DocStore} (hpaths : SamePaths s s') (x : Request) :
    s'.placeAt? x = s.placeAt? x := by
  cases x with
  | create container body stamp => rw [DocStore.placeAt?, DocStore.placeAt?, hpaths.placeOf?]
  | _ => rfl

/-- Whether a request meets the same in two stores: the containers, and what lies at its place. -/
structure SameFor (x : Request) (s s' : DocStore) : Prop where
  paths : SamePaths s s'
  document : ∀ p ∈ s.placeAt? x, s'.document? p = s.document? p

/-! ### What a request is answered -/

section Checks

variable {s s' : DocStore} {container : String} {a : Address} {body : Value} {o : Options}
  {stamp : Stamp}

/-- What a request meets where it looks for a document: no container, or one with one path and the
same at the address. -/
theorem SamePaths.cases_document? (hpaths : SamePaths s s')
    (hdocument : s'.document? ⟨container, a⟩ = s.document? ⟨container, a⟩) :
    (s.collection? container = .error (.containerNotFound container) ∧
        s'.collection? container = .error (.containerNotFound container)) ∨
      ∃ c c', s.collection? container = .ok c ∧ s'.collection? container = .ok c' ∧
        c'.path = c.path ∧ c'.items.find? a = c.items.find? a := by
  unfold DocStore.collection?
  obtain ⟨hc, hc'⟩ | ⟨c, c', hc, hc', hpath⟩ := hpaths.cases_find? container
  · rw [hc, hc']
    exact .inl ⟨rfl, rfl⟩
  · simp only [DocStore.document?, hc, hc', Option.bind_some] at hdocument
    rw [hc, hc']
    exact .inr ⟨c, c', rfl, rfl, hpath, hdocument⟩

theorem existing?_congr {c c' : Collection} (hitem : c'.items.find? a = c.items.find? a) :
    DocStore.existing? c' container a = DocStore.existing? c container a := by
  rw [DocStore.existing?, DocStore.existing?, hitem]

theorem read?_congr (hpaths : SamePaths s s')
    (hdocument : s'.document? ⟨container, a⟩ = s.document? ⟨container, a⟩) :
    s'.read? container a = s.read? container a := by
  unfold DocStore.read?
  obtain ⟨hc, hc'⟩ | ⟨c, c', hc, hc', -, hitem⟩ := hpaths.cases_document? hdocument
  · rw [hc, hc']
  · rw [hc, hc']
    exact existing?_congr hitem

theorem alike_delete? (hpaths : SamePaths s s')
    (hdocument : s'.document? ⟨container, a⟩ = s.document? ⟨container, a⟩) :
    Alike Eq (fun _ _ => True) (s.delete? container a o) (s'.delete? container a o) := by
  unfold DocStore.delete?
  obtain ⟨hc, hc'⟩ | ⟨c, c', hc, hc', -, hitem⟩ := hpaths.cases_document? hdocument
  · rw [hc, hc']
    exact .refused rfl
  · rw [hc, hc']
    show Alike _ _ (DocStore.existing? c container a >>= _)
      (DocStore.existing? c' container a >>= _)
    rw [existing?_congr hitem]
    refine .bind_same Eq.refl fun stored _ => ?_
    exact .bind_same Eq.refl fun _ _ => .passed trivial

/-- Whether two writes make the documents that two numbers make of one body. -/
def Stamps (n n' : Nat) (container id : String) (stamp : Stamp) (body : Value)
    (r r' : Value × DocStore) : Prop :=
  r.1 = stamped n container id stamp body ∧ r'.1 = stamped n' container id stamp body

theorem alike_replace? (hpaths : SamePaths s s')
    (hdocument : s'.document? ⟨container, a⟩ = s.document? ⟨container, a⟩) :
    Alike Eq (Stamps s.sequence s'.sequence container a.id stamp body)
      (s.replace? container a body o stamp) (s'.replace? container a body o stamp) := by
  unfold DocStore.replace?
  refine .bind_same Eq.refl fun id _ => .ite rfl ?_
  obtain ⟨hc, hc'⟩ | ⟨c, c', hc, hc', hpath, hitem⟩ := hpaths.cases_document? hdocument
  · rw [hc, hc']
    exact .refused rfl
  · rw [hc, hc']
    show Alike _ _ (DocStore.existing? c container a >>= _)
      (DocStore.existing? c' container a >>= _)
    rw [existing?_congr hitem]
    -- with the stored document and the path, all further checks are the same ones
    refine .bind_same Eq.refl fun stored _ => ?_
    refine .bind_same Eq.refl fun _ _ => ?_
    rw [Collection.partitionOf?_congr hpath]
    exact .bind_same Eq.refl fun key _ => .ite rfl (.passed ⟨rfl, rfl⟩)

theorem alike_create? (hsame : SameFor (.create container body stamp) s s') :
    Alike Eq (fun r r' => ∃ id, Stamps s.sequence s'.sequence container id stamp body r r')
      (s.create? container body stamp) (s'.create? container body stamp) := by
  unfold DocStore.create?
  refine .bind_same Eq.refl fun id hid => ?_
  unfold DocStore.collection?
  obtain ⟨hc, hc'⟩ | ⟨c, c', hc, hc', hpath⟩ := hsame.paths.cases_find? container
  · rw [hc, hc']
    exact .refused rfl
  · rw [hc, hc']
    show Alike _ _ (c.partitionOf? body >>= _) (c'.partitionOf? body >>= _)
    rw [Collection.partitionOf?_congr hpath]
    refine .bind_same Eq.refl fun key hkey => ?_
    -- only here is the place known at which the stores have to agree
    have hplace : s.placeOf? container body = .ok ⟨container, ⟨key, id⟩⟩ :=
      (DocStore.placeOf?_eq_ok_iff ..).mpr ⟨c, rfl, hid, hc, hkey⟩
    have hitem : c'.items.find? ⟨key, id⟩ = c.items.find? ⟨key, id⟩ := by
      have hdocument := hsame.document ⟨container, ⟨key, id⟩⟩
        ((toOption_eq_some_iff _ _).mpr hplace)
      simpa only [DocStore.document?, hc, hc', Option.bind_some] using hdocument
    rw [hitem]
    cases c.items.find? ⟨key, id⟩ with
    | some old => exact .refused rfl
    | none => exact .passed ⟨id, rfl, rfl⟩

end Checks

/-- The answers to a request in two stores that stand at two numbers: one answer, or the documents
that the two numbers make of one body. -/
inductive SameAnswer (n n' : Nat) :
    Request → Except StoreError Answer → Except StoreError Answer → Prop
  | same (x : Request) (r : Except StoreError Answer) : SameAnswer n n' x r r
  | created (container id : String) (body : Value) (stamp : Stamp) :
      SameAnswer n n' (.create container body stamp)
        (.ok (.document (stamped n container id stamp body)))
        (.ok (.document (stamped n' container id stamp body)))
  | replaced (container : String) (a : Address) (body : Value) (o : Options) (stamp : Stamp) :
      SameAnswer n n' (.replace container a body o stamp)
        (.ok (.document (stamped n container a.id stamp body)))
        (.ok (.document (stamped n' container a.id stamp body)))

namespace SameAnswer

variable {n n' : Nat} {x : Request}

/-- Operations that come to the same are answered the same. -/
theorem of_alike {α : Type} {R : α → α → Prop} {r r' : Except StoreError α} (s s' : DocStore)
    {f : α → Answer × DocStore} (h : Alike Eq R r r')
    (hresult : ∀ a b, R a b → SameAnswer n n' x (.ok (f a).1) (.ok (f b).1)) :
    SameAnswer n n' x (s.settle (r.map f)).1 (s'.settle (r'.map f)).1 := by
  cases h with
  | passed hR => exact hresult _ _ hR
  | refused hreason => exact hreason ▸ .same ..

end SameAnswer

/-- A request about one document is answered by the containers and what lies at its place. -/
theorem sameAnswer_serve {s s' : DocStore} {x : Request} (hx : x.IsPoint) (hsame : SameFor x s s') :
    SameAnswer s.sequence s'.sequence x (s.serve x).1 (s'.serve x).1 := by
  cases x with
  | read container a =>
      rw [DocStore.serve, DocStore.serve, read?_congr hsame.paths (hsame.document _ rfl)]
      exact .same ..
  | create container body stamp =>
      refine .of_alike s s' (alike_create? hsame) ?_
      rintro ⟨_, _⟩ ⟨_, _⟩ ⟨id, rfl, rfl⟩
      exact .created ..
  | replace container a body o stamp =>
      refine .of_alike s s' (alike_replace? hsame.paths (hsame.document _ rfl)) ?_
      rintro ⟨_, _⟩ ⟨_, _⟩ ⟨rfl, rfl⟩
      exact .replaced ..
  | delete container a o =>
      refine .of_alike s s' (alike_delete? hsame.paths (hsame.document _ rfl)) ?_
      exact fun _ _ _ => .same ..
  | size container => exact hx.elim
  | provision d => exact hx.elim

/-! ### What a request leaves behind -/

namespace Request

/-- What a request with its answer leaves at its place, where something may have lain before. -/
def leaves : Request → Except StoreError Answer → Option Value → Option Value
  | .create .., .ok (.document d), _ | .replace .., .ok (.document d), _ => some d
  | .delete .., .ok _, _ => none
  | _, _, before => before

/-- How many numbers a request with its answer draws from the counter. -/
def drawn : Request → Except StoreError Answer → UInt64
  | .create .., .ok _ | .replace .., .ok _ => 1
  | _, _ => 0

end Request

namespace SameAnswer

variable {n n' : Nat} {x : Request} {r r' : Except StoreError Answer}

theorem drawn_eq (h : SameAnswer n n' x r r') : x.drawn r = x.drawn r' := by
  cases h <;> rfl

theorem leaves_unnumbered (h : SameAnswer n n' x r r') (before : Option Value) :
    (x.leaves r before).map unnumbered = (x.leaves r' before).map unnumbered := by
  cases h with
  | same => rfl
  | created | replaced => exact congrArg some (unnumbered_stamped ..)

/-- Where no document is written, the very same is left. -/
theorem leaves_eq {s : DocStore} (h : SameAnswer n n' x (s.serve x).1 r') {p : Place}
    (hp : p ∈ s.placeAt? x) (hkept : ∀ d, ¬Event.Writes ⟨s, .request x⟩ p d)
    (before : Option Value) : x.leaves (s.serve x).1 before = x.leaves r' before := by
  have hanswer : Event.answer ⟨s, .request x⟩ = (s.serve x).1 := rfl
  generalize (s.serve x).1 = r at h hanswer ⊢
  cases h with
  | same => rfl
  | created => exact absurd ⟨(toOption_eq_some_iff _ _).mp hp, hanswer⟩ (hkept _)
  | replaced => exact absurd ⟨(Option.some.inj hp).symm, hanswer⟩ (hkept _)

end SameAnswer

/-- What a request does to a store: it decides what lies at its place, and leaves everything else
alone but for the numbers it draws. -/
structure OnlyAt (s : DocStore) (x : Request) (r : Except StoreError Answer × DocStore) : Prop where
  there : ∀ p ∈ s.placeAt? x, r.2.document? p = x.leaves r.1 (s.document? p)
  elsewhere : ∀ p, p ∉ s.placeAt? x → r.2.document? p = s.document? p
  paths : SamePaths s r.2
  pageSize : r.2.pageSize = s.pageSize
  counter : r.2.counter = s.counter + x.drawn r.1

namespace OnlyAt

variable {s s' : DocStore} {x : Request}

/-- A request that leaves a store as it is, and nothing else at its place, does no more. -/
theorem refl {r : Except StoreError Answer}
    (hleaves : ∀ before, x.leaves r before = before) (hdrawn : x.drawn r = 0) :
    OnlyAt s x (r, s) where
  there p _ := (hleaves _).symm
  elsewhere _ _ := rfl
  paths _ := rfl
  pageSize := rfl
  counter := by rw [hdrawn, UInt64.add_zero]

/-- A change at the place of a request is one of it. -/
theorem of_sameBut {r : Except StoreError Answer} {p : Place} (hplace : s.placeAt? x = some p)
    (hsame : SameBut p s s') (hafter : s'.document? p = x.leaves r (s.document? p))
    (hcounter : s'.counter = s.counter + x.drawn r) : OnlyAt s x (r, s') where
  there q hq := by
    obtain rfl : p = q := Option.some.inj (hplace.symm.trans hq)
    exact hafter
  elsewhere q hq := hsame.documents q fun h => hq (hplace.trans (congrArg some h.symm))
  paths := hsame.paths
  pageSize := hsame.pageSize
  counter := hcounter

end OnlyAt

theorem onlyAt_serve (s : DocStore) {x : Request} (hx : x.IsPoint) : OnlyAt s x (s.serve x) := by
  have hperformed : Performed s (.request x) (s.serve x) := performed s (.request x)
  generalize s.serve x = outcome at hperformed
  cases hperformed with
  | failed cause =>
      -- a refusal changes nothing, whatever was asked
      refine .refl ?_ ?_
      · intro before
        cases x <;> rfl
      · cases x <;> rfl
  | answered heffect =>
      cases heffect with
      | created hplace hfree hd hafter hsame hcounter =>
          exact .of_sameBut ((toOption_eq_some_iff _ _).mpr hplace) hsame hafter hcounter
      | replaced hthere hd hafter hsame hcounter => exact .of_sameBut rfl hsame hafter hcounter
      | deleted hthere hafter hsame hcounter =>
          refine .of_sameBut rfl hsame hafter ?_
          rw [hcounter]
          exact (UInt64.add_zero _).symm
      | read => exact .refl (fun _ => rfl) rfl
      | counted => exact hx.elim
      | present => exact hx.elim
      | provisioned => exact hx.elim

/-! ### Two requests -/

section Two

variable {s : DocStore} {x y : Request}

/-- Whether two requests are about different places, or one of them about none. -/
def DocStore.Apart (s : DocStore) (x y : Request) : Prop :=
  ∀ p ∈ s.placeAt? x, p ∉ s.placeAt? y

theorem DocStore.Apart.symm (hapart : s.Apart x y) : s.Apart y x :=
  fun p hy hx => hapart p hx hy

/-- A request meets the same before and behind another one that is apart from it. -/
theorem sameFor_serve (hx : x.IsPoint) (hapart : s.Apart x y) : SameFor y s (s.serve x).2 where
  paths := (onlyAt_serve s hx).paths
  document p hp := (onlyAt_serve s hx).elsewhere p (hapart.symm p hp)

/-- The request that is served first decides what lies at its place behind both. -/
theorem document?_first (hx : x.IsPoint) (hy : y.IsPoint) (hapart : s.Apart x y) {p : Place}
    (hp : p ∈ s.placeAt? x) :
    ((s.serve x).2.serve y).2.document? p = x.leaves (s.serve x).1 (s.document? p) := by
  have hsx := onlyAt_serve s hx
  rw [← hsx.there p hp]
  -- the other request is about the same place as if it were served first, and this is not it
  refine (onlyAt_serve _ hy).elsewhere p ?_
  rw [hsx.paths.placeAt?]
  exact hapart p hp

/-- So does the request that is served second, which finds there what lay there before both. -/
theorem document?_second (hx : x.IsPoint) (hy : y.IsPoint) (hapart : s.Apart x y) {p : Place}
    (hp : p ∈ s.placeAt? x) :
    ((s.serve y).2.serve x).2.document? p =
      x.leaves ((s.serve y).2.serve x).1 (s.document? p) := by
  have hsy := onlyAt_serve s hy
  rw [← hsy.elsewhere p (hapart p hp)]
  exact (onlyAt_serve _ hx).there p (hsy.paths.placeAt? x ▸ hp)

/-- What lies elsewhere stays. -/
theorem document?_outside (hx : x.IsPoint) (hy : y.IsPoint) {p : Place}
    (hpx : p ∉ s.placeAt? x) (hpy : p ∉ s.placeAt? y) :
    ((s.serve x).2.serve y).2.document? p = s.document? p := by
  have hsx := onlyAt_serve s hx
  rw [← hsx.elsewhere p hpx]
  refine (onlyAt_serve _ hy).elsewhere p ?_
  rw [hsx.paths.placeAt?]
  exact hpy

/-- What two orders leave at a place agrees if it does at the places of both requests. -/
theorem document?_orders {β : Type} (f : Option Value → β) (hx : x.IsPoint) (hy : y.IsPoint)
    (hapart : s.Apart x y) (p : Place)
    (hatx : p ∈ s.placeAt? x → f (x.leaves (s.serve x).1 (s.document? p)) =
      f (x.leaves ((s.serve y).2.serve x).1 (s.document? p)))
    (haty : p ∈ s.placeAt? y → f (y.leaves (s.serve y).1 (s.document? p)) =
      f (y.leaves ((s.serve x).2.serve y).1 (s.document? p))) :
    f (((s.serve x).2.serve y).2.document? p) = f (((s.serve y).2.serve x).2.document? p) := by
  by_cases hpx : p ∈ s.placeAt? x
  · rw [document?_first hx hy hapart hpx, document?_second hx hy hapart hpx, hatx hpx]
  · by_cases hpy : p ∈ s.placeAt? y
    · rw [document?_first hy hx hapart.symm hpy, document?_second hy hx hapart.symm hpy, haty hpy]
    · rw [document?_outside hx hy hpx hpy, document?_outside hy hx hpy hpx]

theorem counter_orders (hx : x.IsPoint) (hy : y.IsPoint) (hapart : s.Apart x y) :
    ((s.serve x).2.serve y).2.counter = ((s.serve y).2.serve x).2.counter := by
  have hanswerx := sameAnswer_serve hx (sameFor_serve hy hapart.symm)
  have hanswery := sameAnswer_serve hy (sameFor_serve hx hapart)
  calc ((s.serve x).2.serve y).2.counter
      = s.counter + x.drawn (s.serve x).1 + y.drawn ((s.serve x).2.serve y).1 := by
        rw [(onlyAt_serve _ hy).counter, (onlyAt_serve _ hx).counter]
    _ = s.counter + y.drawn (s.serve y).1 + x.drawn ((s.serve y).2.serve x).1 := by
        rw [← hanswerx.drawn_eq, hanswery.drawn_eq, UInt64.add_assoc,
          UInt64.add_comm (x.drawn _), UInt64.add_assoc]
    _ = ((s.serve y).2.serve x).2.counter := by
        rw [(onlyAt_serve _ hx).counter, (onlyAt_serve _ hy).counter]

theorem unnumbered_orders (hx : x.IsPoint) (hy : y.IsPoint) (hapart : s.Apart x y) :
    ((s.serve x).2.serve y).2.unnumbered = ((s.serve y).2.serve x).2.unnumbered := by
  have hsx := onlyAt_serve s hx
  have hsy := onlyAt_serve s hy
  have hsxy := onlyAt_serve (s.serve x).2 hy
  have hsyx := onlyAt_serve (s.serve y).2 hx
  have hanswerx := sameAnswer_serve hx (sameFor_serve hy hapart.symm)
  have hanswery := sameAnswer_serve hy (sameFor_serve hx hapart)
  refine unnumbered_congr ?_ ?_ (counter_orders hx hy hapart) ?_
  · exact (hsy.paths.trans hsyx.paths).symm.trans (hsx.paths.trans hsxy.paths)
  · intro p
    exact document?_orders (·.map unnumbered) hx hy hapart p
      (fun _ => hanswerx.leaves_unnumbered _) (fun _ => hanswery.leaves_unnumbered _)
  · rw [hsxy.pageSize, hsx.pageSize, hsyx.pageSize, hsy.pageSize]

end Two

/-- Two requests, each about one document and the two of different places, change turns.  Each gets
one answer in both orders, or the documents that two numbers make of its body: the one at which the
store stands, and the one at which the other request leaves it.  The stores behind both orders are
the same up to numbers, and hold the very same wherever neither request writes. -/
theorem point_requests_commute (s : DocStore) (x y : Request) (hx : x.IsPoint) (hy : y.IsPoint)
    (hapart : s.Apart x y) :
    SameAnswer s.sequence (s.serve y).2.sequence x (s.serve x).1 ((s.serve y).2.serve x).1 ∧
      SameAnswer s.sequence (s.serve x).2.sequence y (s.serve y).1 ((s.serve x).2.serve y).1 ∧
      ((s.serve x).2.serve y).2.unnumbered = ((s.serve y).2.serve x).2.unnumbered ∧
      ∀ p, (∀ d, ¬Event.Writes ⟨s, .request x⟩ p d) → (∀ d, ¬Event.Writes ⟨s, .request y⟩ p d) →
        ((s.serve x).2.serve y).2.document? p = ((s.serve y).2.serve x).2.document? p := by
  have hanswerx := sameAnswer_serve hx (sameFor_serve hy hapart.symm)
  have hanswery := sameAnswer_serve hy (sameFor_serve hx hapart)
  refine ⟨hanswerx, hanswery, unnumbered_orders hx hy hapart, ?_⟩
  intro p hkeptx hkepty
  exact document?_orders id hx hy hapart p (fun hp => hanswerx.leaves_eq hp hkeptx _)
    (fun hp => hanswery.leaves_eq hp hkepty _)

/-- A store of users, which lie under their identifiers. -/
def userStore : DocStore := DocStore.empty.withContainer ⟨"user", "/id"⟩

/-- A new user of a name. -/
def newUser (id : String) : Request :=
  .create "user" (.object [("id", .string id)]) ⟨"drawn for " ++ id, 7⟩

/-- The number that a new user is accepted under. -/
def numberOf? : Except StoreError Answer → Option String
  | .ok (.document d) => (d.get? "_rid").bind Value.text?
  | _ => none

/-- Two new users in both orders; their numbers are not the same. -/
theorem point_requests_commute_newUsers :
    userStore.Apart (newUser "a") (newUser "b") ∧
      numberOf? (userStore.serve (newUser "a")).1 = some "0000000000000000" ∧
      numberOf? ((userStore.serve (newUser "b")).2.serve (newUser "a")).1 =
        some "0000000000000001" ∧
      ((userStore.serve (newUser "a")).2.serve (newUser "b")).2.unnumbered =
        ((userStore.serve (newUser "b")).2.serve (newUser "a")).2.unnumbered := by
  have ha : userStore.placeAt? (newUser "a") = some ⟨"user", ⟨"a", "a"⟩⟩ := by decide +kernel
  have hb : userStore.placeAt? (newUser "b") = some ⟨"user", ⟨"b", "b"⟩⟩ := by decide +kernel
  have hapart : userStore.Apart (newUser "a") (newUser "b") := by
    intro p hpa hpb
    rw [ha] at hpa
    rw [hb] at hpb
    exact absurd (Option.some.inj (hpa.trans hpb.symm)) (by decide)
  exact ⟨hapart, by decide +kernel, by decide +kernel,
    (point_requests_commute userStore (newUser "a") (newUser "b") trivial trivial hapart).2.2.1⟩

end DocAccess.Store
