import DocAccess.Proofs.Store.History
import Mathlib.Data.Finmap

/-!
# The store as a ledger

A ledger is what a client has to know of a store: for every container its partition path and a
finite map from addresses to documents.  It answers each request by a list of conditions that are
looked at in turn.  The store answers every run of requests as the ledger does, and a read finds the
document that was last accepted at its address.
-/

namespace DocAccess.Store

open DocAccess.Document

/-! ### What a body says -/

/-- The identifier that a body brings: a string that is not empty. -/
def idOf? (body : Value) : Option String :=
  ((body.get? "id").bind Value.text?).filter (· ≠ "")

/-- The text under which a value names a partition; other values name none. -/
def keyText? : Value → Option String
  | .string key => some key
  | .number n => some n.text
  | .bool true => some "true"
  | .bool false => some "false"
  | _ => none

/-- The partition that a body belongs to, by the value that a path leads to. -/
def keyOf? (path : List String) (body : Value) : Option String :=
  (body.follow? path).bind keyText?

/-- Whether a stored document has the tag that is asked for, if any is. -/
def Options.admits (o : Options) (stored : Value) : Bool :=
  o.ifMatch.all fun tag => decide ((stored.get? "_etag").bind Value.text? = some tag)

theorem documentId?_eq (body : Value) :
    documentId? body = (idOf? body).elim (.error (.badRequest .emptyId)) .ok := by
  unfold documentId? idOf?
  split
  · next id hid =>
      by_cases hempty : id = ""
      · simp [hid, Value.text?, hempty, Option.filter]
      · simp [hid, Value.text?, hempty, Option.filter]
  · next hother =>
      cases hget : body.get? "id" with
      | none => simp
      | some v =>
          cases v with
          | string id => exact absurd hget (hother id)
          | _ => simp [Value.text?]

theorem partitionOf?_eq (c : Collection) (body : Value) :
    c.partitionOf? body =
      (keyOf? c.path body).elim (.error (.badRequest (.missingPartition c.path))) .ok := by
  unfold Collection.partitionOf? keyOf?
  cases body.follow? c.path with
  | none => rfl
  | some v =>
      cases v with
      | bool flag => cases flag <;> rfl
      | _ => rfl

theorem checkTag_eq (container id : String) (stored : Value) (o : Options) :
    checkTag container id stored o =
      if o.admits stored then .ok () else .error (.preconditionFailed container id) := by
  unfold checkTag Options.admits
  cases o.ifMatch with
  | none => simp
  | some tag => simp

/-! ### Ledgers -/

/-- A container of a ledger. -/
structure Shelf where
  path : List String
  documents : Finmap fun _ : Address => Value

/-- Containers by their names, and the number of the next accepted document. -/
structure Ledger where
  shelves : Finmap fun _ : String => Shelf
  counter : UInt64

namespace Ledger

/-- A ledger without containers. -/
def empty : Ledger := ⟨∅, 0⟩

/-- The answer to a request that is refused. -/
def refuse (L : Ledger) (cause : StoreError) : Except StoreError Answer × Ledger :=
  (.error cause, L)

/-- Enters a document at an address. -/
def accept (L : Ledger) (container : String) (shelf : Shelf) (a : Address) (body : Value)
    (stamp : Stamp) : Except StoreError Answer × Ledger :=
  let d := stamped L.counter.toNat container a.id stamp body
  (.ok (.document d),
    ⟨L.shelves.insert container ⟨shelf.path, shelf.documents.insert a d⟩, L.counter + 1⟩)

/-- The answer about a container that has to be known. -/
def within (L : Ledger) (container : String)
    (use : Shelf → Except StoreError Answer × Ledger) : Except StoreError Answer × Ledger :=
  match L.shelves.lookup container with
  | none => L.refuse (.containerNotFound container)
  | some shelf => use shelf

/-- The answer about a document that has to be there. -/
def existing (L : Ledger) (container : String) (a : Address)
    (use : Shelf → Value → Except StoreError Answer × Ledger) :
    Except StoreError Answer × Ledger :=
  L.within container fun shelf =>
    match shelf.documents.lookup a with
    | none => L.refuse (.notFound container a.id)
    | some d => use shelf d

/-- Enters a new document where its identifier and its partition say, unless there is one. -/
def create (L : Ledger) (container : String) (body : Value) (stamp : Stamp) :
    Except StoreError Answer × Ledger :=
  match idOf? body with
  | none => L.refuse (.badRequest .emptyId)
  | some id =>
      L.within container fun shelf =>
        match keyOf? shelf.path body with
        | none => L.refuse (.badRequest (.missingPartition shelf.path))
        | some key =>
            if ⟨key, id⟩ ∈ shelf.documents then L.refuse (.conflict container id)
            else L.accept container shelf ⟨key, id⟩ body stamp

/-- Enters a document in place of the one at an address that is also its own. -/
def replace (L : Ledger) (container : String) (a : Address) (body : Value) (o : Options)
    (stamp : Stamp) : Except StoreError Answer × Ledger :=
  match idOf? body with
  | none => L.refuse (.badRequest .emptyId)
  | some id =>
      if id ≠ a.id then L.refuse (.badRequest (.idMismatch a.id))
      else
        L.existing container a fun shelf stored =>
          if !o.admits stored then L.refuse (.preconditionFailed container a.id)
          else
            match keyOf? shelf.path body with
            | none => L.refuse (.badRequest (.missingPartition shelf.path))
            | some key =>
                if key ≠ a.partition then L.refuse (.badRequest (.partitionMismatch a.partition))
                else L.accept container shelf a body stamp

/-- Strikes the document at an address. -/
def delete (L : Ledger) (container : String) (a : Address) (o : Options) :
    Except StoreError Answer × Ledger :=
  L.existing container a fun shelf stored =>
    if !o.admits stored then L.refuse (.preconditionFailed container a.id)
    else
      (.ok .done,
        { L with shelves := L.shelves.insert container ⟨shelf.path, shelf.documents.erase a⟩ })

/-- Puts up a container unless there is one of its name, which keeps its path. -/
def provision (L : Ledger) (d : Definition) : Ledger :=
  if d.name ∈ L.shelves then L
  else { L with shelves := L.shelves.insert d.name ⟨Text.segments d.path, ∅⟩ }

/-- The answer to a request, and the ledger behind it. -/
def serve (L : Ledger) : Request → Except StoreError Answer × Ledger
  | .read container a => ((L.existing container a fun _ d => (.ok (.document d), L)).1, L)
  | .create container body stamp => L.create container body stamp
  | .replace container a body o stamp => L.replace container a body o stamp
  | .delete container a o => L.delete container a o
  | .size container =>
      ((L.within container fun shelf => (.ok (.count shelf.documents.keys.card), L)).1, L)
  | .provision d => (.ok .done, L.provision d)

/-- The answers to a run of requests. -/
def answers (L : Ledger) : List Request → List (Except StoreError Answer)
  | [] => []
  | r :: rs => (L.serve r).1 :: (L.serve r).2.answers rs

/-- A ledger with the given containers. -/
def provisioned (ds : List Definition) : Ledger := ds.foldl provision empty

end Ledger

/-! ### The ledger of a store -/

namespace Table

variable {κ α : Type} [LT κ]

/-- The finite map that a table holds. -/
def toFinmap [Std.Irrefl (α := κ) (· < ·)] (table : Table κ α) : Finmap fun _ : κ => α :=
  AList.toFinmap
    { entries := table.entries.map fun e => ⟨e.1, e.2⟩
      nodupKeys := by
        rw [List.nodupKeys_iff_pairwise, List.pairwise_map]
        exact table.ascending.imp fun h => Std.ne_of_lt h }

theorem toFinmap_empty [Std.Irrefl (α := κ) (· < ·)] : (empty : Table κ α).toFinmap = ∅ := rfl

theorem card_keys_toFinmap [Std.Irrefl (α := κ) (· < ·)] (table : Table κ α) :
    table.toFinmap.keys.card = table.size := by
  show Multiset.card (Finmap.keys _).val = _
  rw [toFinmap, Finmap.keys_val]
  simp [size, AList.keys, List.keys]

variable [DecidableEq κ]

theorem lookup_toFinmap [Std.Irrefl (α := κ) (· < ·)] (table : Table κ α) (key : κ) :
    table.toFinmap.lookup key = table.find? key := by
  obtain ⟨entries, hascending⟩ := table
  show List.dlookup key (entries.map fun e => (⟨e.1, e.2⟩ : Σ _ : κ, α)) = Entries.find? key entries
  clear hascending
  induction entries with
  | nil => rfl
  | cons entry rest ih =>
      obtain ⟨k, value⟩ := entry
      by_cases hk : k = key
      · subst hk
        simp [Entries.find?]
      · simp [Entries.find?, hk, Ne.symm hk, ih]

theorem mem_toFinmap [Std.Irrefl (α := κ) (· < ·)] (table : Table κ α) (key : κ) :
    key ∈ table.toFinmap ↔ (table.find? key).isSome := by
  rw [← Finmap.lookup_isSome, lookup_toFinmap]

theorem toFinmap_insert [LE κ] [DecidableLT κ] [Std.IsLinearOrder κ] [Std.LawfulOrderLT κ]
    (table : Table κ α) (key : κ) (value : α) :
    (table.insert key value).toFinmap = table.toFinmap.insert key value := by
  refine Finmap.ext_lookup fun other => ?_
  rw [lookup_toFinmap, find?_insert]
  by_cases hother : other = key
  · subst hother
    simp
  · rw [if_neg hother, Finmap.lookup_insert_of_ne _ hother, lookup_toFinmap]

theorem toFinmap_erase [Std.Irrefl (α := κ) (· < ·)] (table : Table κ α) (key : κ) :
    (table.erase key).toFinmap = table.toFinmap.erase key := by
  refine Finmap.ext_lookup fun other => ?_
  rw [lookup_toFinmap, find?_erase]
  by_cases hother : other = key
  · subst hother
    simp
  · rw [if_neg hother, Finmap.lookup_erase_ne hother, lookup_toFinmap]

end Table

/-- What a ledger keeps of a container. -/
def Collection.shelf (c : Collection) : Shelf := ⟨c.path, c.items.toFinmap⟩

namespace Ledger

/-- Whether a ledger is the one of a store. -/
structure Of (L : Ledger) (s : DocStore) : Prop where
  lookup : ∀ name, L.shelves.lookup name = (s.collections.find? name).map Collection.shelf
  counter : L.counter = s.counter

variable {L : Ledger} {s : DocStore}

/-- A ledger stays the one of a store when both get the same container. -/
theorem Of.insert (hof : L.Of s) (name : String) (c : Collection) (s' : DocStore)
    (hfind : ∀ other, s'.collections.find? other =
      if other = name then some c else s.collections.find? other) :
    Of ⟨L.shelves.insert name c.shelf, s'.counter⟩ s' where
  lookup other := by
    rw [hfind]
    by_cases hother : other = name
    · subst hother
      simp
    · rw [if_neg hother, Finmap.lookup_insert_of_ne _ hother, hof.lookup]
  counter := rfl

theorem Of.accept (hof : L.Of s) (container : String) (c : Collection) (a : Address)
    (body : Value) (stamp : Stamp) :
    (L.accept container c.shelf a body stamp).1 =
        .ok (.document (s.write container c a body stamp).1) ∧
      (L.accept container c.shelf a body stamp).2.Of (s.write container c a body stamp).2 := by
  have hinsert := hof.insert container
    { c with items := c.items.insert a (stamped s.sequence container a.id stamp body) }
    (s.write container c a body stamp).2
    (DocStore.find?_write s container · c a body stamp)
  constructor
  · simp only [Ledger.accept, DocStore.write, DocStore.sequence, hof.counter]
  · simpa only [Ledger.accept, DocStore.write, DocStore.setItems, DocStore.sequence, hof.counter,
      Collection.shelf, Table.toFinmap_insert] using hinsert

/-! ### Answers -/

theorem Of.read (hof : L.Of s) (container : String) (a : Address) :
    (L.serve (.read container a)).1 = (s.serve (.read container a)).1 := by
  simp only [Ledger.serve, Ledger.existing, Ledger.within, DocStore.serve, DocStore.read?,
    DocStore.collection?, hof.lookup]
  cases s.collections.find? container with
  | none => rfl
  | some c =>
      simp only [Option.map_some, Collection.shelf, Table.lookup_toFinmap, bind, Except.bind,
        DocStore.existing?]
      cases c.items.find? a with
      | none => rfl
      | some d => rfl

theorem Of.create (hof : L.Of s) (container : String) (body : Value) (stamp : Stamp) :
    (L.create container body stamp).1 = (s.serve (.create container body stamp)).1 ∧
      (L.create container body stamp).2.Of (s.serve (.create container body stamp)).2 := by
  simp only [Ledger.create, Ledger.within, DocStore.serve, DocStore.create?, DocStore.collection?,
    hof.lookup, documentId?_eq, bind, Except.bind]
  -- both look at the conditions in one order, so the cases are theirs
  cases idOf? body with
  | none => exact ⟨rfl, hof⟩
  | some id =>
      cases hfind : s.collections.find? container with
      | none => exact ⟨rfl, hof⟩
      | some c =>
          simp only [Option.elim_some, Option.map_some, partitionOf?_eq]
          cases hkey : keyOf? c.path body with
          | none => simpa [Collection.shelf, hkey] using ⟨rfl, hof⟩
          | some key =>
              have haccept := hof.accept container c ⟨key, id⟩ body stamp
              simp only [Collection.shelf, hkey, Option.elim_some, Table.mem_toFinmap] at haccept ⊢
              cases c.items.find? ⟨key, id⟩ with
              | none => simpa [DocStore.settle, Except.map] using haccept
              | some d => exact ⟨rfl, hof⟩

theorem Of.replace (hof : L.Of s) (container : String) (a : Address) (body : Value) (o : Options)
    (stamp : Stamp) :
    (L.replace container a body o stamp).1 = (s.serve (.replace container a body o stamp)).1 ∧
      (L.replace container a body o stamp).2.Of
        (s.serve (.replace container a body o stamp)).2 := by
  simp only [Ledger.replace, Ledger.existing, Ledger.within, DocStore.serve, DocStore.replace?,
    DocStore.collection?, hof.lookup, documentId?_eq, bind, Except.bind]
  cases idOf? body with
  | none => exact ⟨rfl, hof⟩
  | some id =>
      simp only [Option.elim_some]
      by_cases hid : id ≠ a.id
      · simpa [hid] using ⟨rfl, hof⟩
      · simp only [hid, if_false]
        cases hfind : s.collections.find? container with
        | none => exact ⟨rfl, hof⟩
        | some c =>
            simp only [Option.map_some, Collection.shelf, Table.lookup_toFinmap,
              DocStore.existing?]
            cases c.items.find? a with
            | none => exact ⟨rfl, hof⟩
            | some stored =>
                simp only [checkTag_eq, partitionOf?_eq]
                cases o.admits stored with
                | false => exact ⟨rfl, hof⟩
                | true =>
                    cases hkey : keyOf? c.path body with
                    | none => simpa [hkey] using ⟨rfl, hof⟩
                    | some key =>
                        have haccept := hof.accept container c a body stamp
                        -- the last check; behind it both take the document in
                        by_cases hpartition : key ≠ a.partition
                        · simpa [hkey, hpartition] using ⟨rfl, hof⟩
                        · simpa [hkey, hpartition, DocStore.settle, Except.map,
                            Collection.shelf] using haccept

theorem Of.delete (hof : L.Of s) (container : String) (a : Address) (o : Options) :
    (L.delete container a o).1 = (s.serve (.delete container a o)).1 ∧
      (L.delete container a o).2.Of (s.serve (.delete container a o)).2 := by
  simp only [Ledger.delete, Ledger.existing, Ledger.within, DocStore.serve, DocStore.delete?,
    DocStore.collection?, hof.lookup, bind, Except.bind]
  cases hfind : s.collections.find? container with
  | none => exact ⟨rfl, hof⟩
  | some c =>
      simp only [Option.map_some, Collection.shelf, Table.lookup_toFinmap, DocStore.existing?]
      cases c.items.find? a with
      | none => exact ⟨rfl, hof⟩
      | some stored =>
          simp only [checkTag_eq]
          cases o.admits stored with
          | false => exact ⟨rfl, hof⟩
          | true =>
              refine ⟨rfl, ?_⟩
              have hinsert := hof.insert container { c with items := c.items.erase a }
                (s.setItems container c (c.items.erase a))
                (DocStore.find?_setItems s container · c _)
              simpa [Collection.shelf, Table.toFinmap_erase, hof.counter, DocStore.setItems,
                DocStore.settle, Except.map, pure, Except.pure] using hinsert

theorem Of.size (hof : L.Of s) (container : String) :
    (L.serve (.size container)).1 = (s.serve (.size container)).1 := by
  simp only [Ledger.serve, Ledger.within, DocStore.serve, DocStore.size?, DocStore.collection?,
    hof.lookup, bind, Except.bind]
  cases s.collections.find? container with
  | none => rfl
  | some c => simp [Collection.shelf, Table.card_keys_toFinmap, Except.map, pure, Except.pure]

theorem Of.provision (hof : L.Of s) (d : Definition) : (L.provision d).Of (s.provision d) := by
  have hmem : d.name ∈ L.shelves ↔ (s.collections.find? d.name).isSome := by
    rw [← Finmap.lookup_isSome, hof.lookup, Option.isSome_map]
  simp only [Ledger.provision, DocStore.provision, hmem]
  cases hfind : s.collections.find? d.name with
  | some c => simpa using hof
  | none =>
      have hinsert := hof.insert d.name (.ofPath d.path) (s.withContainer d)
        (DocStore.find?_withContainer s d)
      simpa [Collection.shelf, Collection.ofPath, Table.toFinmap_empty, hof.counter,
        DocStore.withContainer] using hinsert

/-- A store and its ledger give one answer to a request, and the ledger stays that of the store. -/
theorem Of.serve (hof : L.Of s) (r : Request) :
    (L.serve r).1 = (s.serve r).1 ∧ (L.serve r).2.Of (s.serve r).2 := by
  cases r with
  | read container a => exact ⟨hof.read container a, hof⟩
  | create container body stamp => exact hof.create container body stamp
  | replace container a body o stamp => exact hof.replace container a body o stamp
  | delete container a o => exact hof.delete container a o
  | size container => exact ⟨hof.size container, hof⟩
  | provision d => exact ⟨rfl, hof.provision d⟩

theorem Of.answers (hof : L.Of s) (rs : List Request) :
    (s.trace (rs.map .request)).map Event.answer = L.answers rs := by
  induction rs generalizing L s with
  | nil => rfl
  | cons r rs ih =>
      obtain ⟨hanswer, hnext⟩ := hof.serve r
      simp only [List.map_cons, DocStore.trace, Ledger.answers, Event.answer, DocStore.perform]
      rw [hanswer, ih hnext]

/-! ### Provisioning -/

theorem Of.provision_all (hof : L.Of s) (ds : List Definition)
    (hnames : (ds.map (·.name)).Nodup)
    (hnew : ∀ d ∈ ds, s.collections.find? d.name = none) :
    (ds.foldl Ledger.provision L).Of (ds.foldl DocStore.withContainer s) := by
  induction ds generalizing L s with
  | nil => exact hof
  | cons d ds ih =>
      rw [List.map_cons, List.nodup_cons] at hnames
      -- with a new name, putting up a container and provisioning it are the same
      have hfirst : s.provision d = s.withContainer d := by
        rw [DocStore.provision, hnew d List.mem_cons_self]
      refine ih (hfirst ▸ hof.provision d) hnames.2 ?_
      intro d' hd'
      have hne : d'.name ≠ d.name := by
        intro hname
        exact hnames.1 (hname ▸ List.mem_map_of_mem hd')
      rw [DocStore.find?_withContainer, if_neg hne]
      exact hnew d' (List.mem_cons_of_mem _ hd')

theorem of_withContainers (ds : List Definition) (hnames : (ds.map (·.name)).Nodup) :
    (provisioned ds).Of (.withContainers ds) := by
  have hof : empty.Of DocStore.empty := ⟨fun _ => rfl, rfl⟩
  exact hof.provision_all ds hnames fun _ _ => rfl

end Ledger

theorem DocStore.document?_withContainers (ds : List Definition) (p : Place) :
    (withContainers ds).document? p = none := by
  have hfold : ∀ s : DocStore, s.document? p = none →
      (ds.foldl withContainer s).document? p = none := by
    induction ds with
    | nil => exact fun _ hs => hs
    | cons d ds ih =>
        intro s hs
        refine ih _ ?_
        rw [document?_withContainer, hs, ite_self]
  exact hfold empty rfl

/-- A store with the given containers answers every run of requests as the ledger with these
containers does, and behind the run a read finds a document exactly if it is the last one that was
accepted at its address and was not deleted since. -/
theorem answers_eq_ledger_answers (ds : List Definition) (hnames : (ds.map (·.name)).Nodup)
    (rs : List Request) :
    ((DocStore.withContainers ds).trace (rs.map .request)).map Event.answer =
        (Ledger.provisioned ds).answers rs ∧
      ∀ container a d,
        ((DocStore.withContainers ds).final (rs.map .request)).read? container a = .ok d ↔
          LastWritten ((DocStore.withContainers ds).trace (rs.map .request)) ⟨container, a⟩ d := by
  refine ⟨(Ledger.of_withContainers ds hnames).answers rs, ?_⟩
  intro container a d
  rw [DocStore.read?_eq_ok_iff]
  exact document?_final_iff (DocStore.document?_withContainers ds) _ _ _

/-- A second provisioning does not move a container, and a second document of one address is
refused until the first is deleted. -/
theorem answers_eq_ledger_answers_user :
    ([⟨"user", "/id"⟩].map Definition.name).Nodup ∧
      (Ledger.provisioned [⟨"user", "/id"⟩]).answers
          [.create "user" (.object [("id", .string "u1")]) ⟨"first", 7⟩,
            .provision ⟨"user", "/name"⟩,
            .create "user" (.object [("id", .string "u1")]) ⟨"second", 8⟩,
            .delete "user" ⟨"u1", "u1"⟩ .none,
            .read "user" ⟨"u1", "u1"⟩] =
        [.ok (.document (stamped 0 "user" "u1" ⟨"first", 7⟩ (.object [("id", .string "u1")]))),
          .ok .done, .error (.conflict "user" "u1"), .ok .done,
          .error (.notFound "user" "u1")] := by
  have hnames : ([⟨"user", "/id"⟩].map Definition.name).Nodup := by decide
  refine ⟨hnames, ?_⟩
  rw [← (answers_eq_ledger_answers _ hnames _).1]
  rfl

end DocAccess.Store
