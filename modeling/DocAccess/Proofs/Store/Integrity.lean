import DocAccess.Proofs.Store.History
import DocAccess.Proofs.Store.Serial

/-!
# What lies in a store

A document is filed under what it says itself: its identifier, its partition, its container and the
number under which it was accepted.  The address is taken from the body before the stamp is put on
it, so that this is a fact about the operations and not about their arguments.  It holds in every
store that a run reaches, as long as the run accepts fewer documents than a word can number.
-/

namespace DocAccess.Store

open DocAccess.Document

/-- What is true of a document that lies at a place, when the numbers below `bound` have been given
out. -/
structure Filed (c : Collection) (bound : Nat) (p : Place) (d : Value) : Prop where
  isObject : ∃ fields, d = .object fields
  id_ne_empty : p.address.id ≠ ""
  id : d.get? "id" = some (.string p.address.id)
  self : d.get? "_self" = some (.string s!"colls/{p.container}/docs/{p.address.id}")
  rid : ∃ n < bound, (sixteenDigits n).length = 16 ∧
    d.get? "_rid" = some (.string (sixteenDigits n))
  /-- The stamp writes over the partition only where the path starts at a stamped field. -/
  partition : (∀ name ∈ c.path.head?, name ∉ stampNames) →
    c.partitionOf? d = .ok p.address.partition

theorem Collection.partitionOf?_congr {c c' : Collection} (hpath : c'.path = c.path)
    (body : Value) : c'.partitionOf? body = c.partitionOf? body := by
  rw [Collection.partitionOf?, Collection.partitionOf?, hpath]

/-- A filed document stays filed as its container gets other documents and the store counts on. -/
theorem Filed.mono {c c' : Collection} {bound bound' : Nat} {p : Place} {d : Value}
    (hfiled : Filed c bound p d) (hpath : c'.path = c.path) (hbound : bound ≤ bound') :
    Filed c' bound' p d := by
  obtain ⟨n, hn, hlength, hrid⟩ := hfiled.rid
  refine { hfiled with rid := ⟨n, Nat.lt_of_lt_of_le hn hbound, hlength, hrid⟩, partition := ?_ }
  rw [Collection.partitionOf?_congr hpath, hpath]
  exact hfiled.partition

/-- A path that starts outside the stamp leads where it led before. -/
theorem follow?_stamped (sequence : Nat) (container id : String) (stamp : Stamp)
    (fields : Fields) {name : String} (rest : List String) (hname : name ∉ stampNames) :
    (stamped sequence container id stamp (.object fields)).follow? (name :: rest) =
      (Value.object fields).follow? (name :: rest) := by
  rw [Value.follow?, Value.follow?, get?_stamped_of_not_mem _ _ _ _ _ hname]

theorem follow?_stamped_of_head? (sequence : Nat) (container id : String) (stamp : Stamp)
    (fields : Fields) {path : List String} (hne : path ≠ [])
    (hpath : ∀ name ∈ path.head?, name ∉ stampNames) :
    (stamped sequence container id stamp (.object fields)).follow? path =
      (Value.object fields).follow? path := by
  cases path with
  | nil => exact absurd rfl hne
  | cons name rest => exact follow?_stamped _ _ _ _ _ _ (hpath name rfl)

/-- An accepted document is filed where its body belongs. -/
theorem Filed.of_stamped (c : Collection) {sequence : Nat} (hsequence : sequence < UInt64.size)
    (p : Place) (body : Value) (stamp : Stamp) (hid : documentId? body = .ok p.address.id)
    (hpartition : c.partitionOf? body = .ok p.address.partition) :
    Filed c (sequence + 1) p (stamped sequence p.container p.address.id stamp body) := by
  obtain ⟨hget, hne⟩ := (documentId?_eq_ok_iff _ _).mp
    (documentId?_stamped hid sequence p.container p.address.id stamp)
  obtain ⟨fields, rfl⟩ := object_of_documentId? hid
  refine ⟨⟨_, rfl⟩, hne, hget, get?_self_stamped _ _ _ _ _, ?_, ?_⟩
  · exact ⟨sequence, Nat.lt_succ_self _, length_sixteenDigits hsequence,
      get?_rid_stamped _ _ _ _ _⟩
  · intro hpath
    obtain ⟨path, items⟩ := c
    cases path with
    -- an empty path leads to the object itself, which names no partition
    | nil => cases hpartition
    | cons name rest =>
        have hname : name ∉ stampNames := hpath name rfl
        rw [Collection.partitionOf?, follow?_stamped _ _ _ _ _ _ hname]
        exact hpartition

/-! ### The invariant -/

/-- Every document of the store is filed, and no two have one number. -/
structure DocStore.Intact (s : DocStore) : Prop where
  filed : ∀ p c d, s.collections.find? p.container = some c → c.items.find? p.address = some d →
    Filed c s.sequence p d
  rid_injective : ∀ p q d d', s.document? p = some d → s.document? q = some d' →
    d.get? "_rid" = d'.get? "_rid" → p = q

theorem DocStore.sequence_lt (s : DocStore) : s.sequence < UInt64.size := s.counter.toNat_lt

theorem DocStore.Intact.filed_of_document? {s : DocStore} (hintact : s.Intact) {p : Place}
    {d : Value} (hd : s.document? p = some d) : ∃ c, Filed c s.sequence p d := by
  obtain ⟨c, hc, hitem⟩ := Option.bind_eq_some_iff.mp hd
  exact ⟨c, hintact.filed p c d hc hitem⟩

/-- The numbers in use are below the counter, so the next one is new. -/
theorem DocStore.Intact.rid_ne {s : DocStore} (hintact : s.Intact) {p : Place} {d : Value}
    (hd : s.document? p = some d) :
    d.get? "_rid" ≠ some (.string (sixteenDigits s.sequence)) := by
  obtain ⟨c, hfiled⟩ := hintact.filed_of_document? hd
  obtain ⟨n, hn, -, hrid⟩ := hfiled.rid
  intro hsame
  rw [hrid, Option.some.injEq, Value.string.injEq] at hsame
  have hn' : n < UInt64.size := Nat.lt_trans hn s.sequence_lt
  exact absurd (sixteenDigits_injective hn' s.sequence_lt hsame) (Nat.ne_of_lt hn)

namespace Event

/-- The counter goes on by one with every accepted document and stays otherwise. -/
theorem counter_after (e : Event) :
    e.after.counter = if e.issued?.isSome then e.store.counter + 1 else e.store.counter := by
  cases e.outcome with
  | written _ _ _ _ _ _ _ hafter hissued _ _ =>
      rw [hafter, hissued]
      rfl
  | deleted _ _ _ hafter hissued _ _ =>
      rw [hafter, hissued]
      rfl
  | installed _ hafter hissued _ _ =>
      rw [hafter, hissued]
      rfl
  | provisioned _ _ hafter hissued _ =>
      rw [hafter, hissued]
      rfl
  | kept _ hcounter hissued _ =>
      rw [hcounter, hissued]
      rfl

theorem sequence_after (e : Event)
    (hroom : e.issued?.isSome → e.store.sequence + 1 < UInt64.size) :
    e.after.sequence = e.store.sequence + e.issued?.toList.length := by
  rw [DocStore.sequence, counter_after]
  cases hissued : e.issued? with
  | none => simp [DocStore.sequence]
  | some tag =>
      have hlt : e.store.counter.toNat + 1 < UInt64.size := hroom (by simp [hissued])
      simp only [Option.isSome_some, if_true, UInt64.toNat_add, UInt64.toNat_one]
      exact Nat.mod_eq_of_lt hlt

theorem sequence_le_after (e : Event)
    (hroom : e.issued?.isSome → e.store.sequence + 1 < UInt64.size) :
    e.store.sequence ≤ e.after.sequence := by
  rw [e.sequence_after hroom]
  omega

end Event

/-! ### Every event keeps it -/

namespace DocStore.Intact

/-- The documents behind an event that writes none were there before, in a container with the same
path. -/
theorem of_old {s s' : DocStore} (hintact : s.Intact) (hsequence : s.sequence ≤ s'.sequence)
    (hold : ∀ (p : Place) c' d, s'.collections.find? p.container = some c' →
      c'.items.find? p.address = some d →
      ∃ c, s.collections.find? p.container = some c ∧ c'.path = c.path ∧
        c.items.find? p.address = some d) : s'.Intact where
  filed p c' d hc' hitem := by
    obtain ⟨c, hc, hpath, hitem'⟩ := hold p c' d hc' hitem
    exact (hintact.filed p c d hc hitem').mono hpath hsequence
  rid_injective p q d d' hd hd' := by
    obtain ⟨c, hc, hitem⟩ := Option.bind_eq_some_iff.mp hd
    obtain ⟨c', hc', hitem'⟩ := Option.bind_eq_some_iff.mp hd'
    obtain ⟨b, hb, -, hold_d⟩ := hold p c d hc hitem
    obtain ⟨b', hb', -, hold_d'⟩ := hold q c' d' hc' hitem'
    refine hintact.rid_injective p q d d' ?_ ?_
    · rw [document?_of_find? hb, hold_d]
    · rw [document?_of_find? hb', hold_d']

/-- A container that is put up holds nothing, so the documents behind it lie in other ones. -/
theorem old_of_withContainer (s : DocStore) (f : Definition) (p : Place) (c' : Collection)
    (d : Value) (hc' : (s.withContainer f).collections.find? p.container = some c')
    (hitem : c'.items.find? p.address = some d) :
    ∃ c, s.collections.find? p.container = some c ∧ c'.path = c.path ∧
      c.items.find? p.address = some d := by
  rw [find?_withContainer] at hc'
  split at hc'
  · obtain rfl := Option.some.inj hc'
    cases hitem
  · exact ⟨c', hc', rfl, hitem⟩

theorem of_write {s : DocStore} (hintact : s.Intact) (hroom : s.sequence + 1 < UInt64.size)
    (p : Place) (c : Collection) (body : Value) (stamp : Stamp)
    (hid : documentId? body = .ok p.address.id)
    (hc : s.collections.find? p.container = some c)
    (hpartition : c.partitionOf? body = .ok p.address.partition) :
    (s.write p.container c p.address body stamp).2.Intact := by
  have hsequence : (s.write p.container c p.address body stamp).2.sequence = s.sequence + 1 := by
    show (s.counter + 1).toNat = s.counter.toNat + 1
    rw [UInt64.toNat_add]
    exact Nat.mod_eq_of_lt hroom
  have hnew := Filed.of_stamped c s.sequence_lt p body stamp hid hpartition
  constructor
  · intro q c' d hc' hitem
    -- the written document is filed anew, every other one as before
    rw [find?_write] at hc'
    rw [hsequence]
    split at hc'
    · next hcontainer =>
        obtain rfl := Option.some.inj hc'
        rw [Table.find?_insert] at hitem
        split at hitem
        · next haddress =>
            obtain rfl := Option.some.inj hitem
            obtain ⟨m, b⟩ := q
            obtain rfl : m = p.container := hcontainer
            obtain rfl : b = p.address := haddress
            exact hnew.mono rfl (Nat.le_refl _)
        · have hc'' : s.collections.find? q.container = some c := hcontainer ▸ hc
          exact (hintact.filed q c d hc'' hitem).mono rfl (Nat.le_succ _)
    · exact (hintact.filed q c' d hc' hitem).mono rfl (Nat.le_succ _)
  · have hrid : (stamped s.sequence p.container p.address.id stamp body).get? "_rid" =
        some (.string (sixteenDigits s.sequence)) := by
      obtain ⟨fields, rfl⟩ := object_of_documentId? hid
      exact get?_rid_stamped _ _ _ _ _
    intro q r d d' hd hd' hsame
    -- the new number is the counter, which is above all numbers in use
    rw [document?_write _ _ _ _ _ _ hc] at hd hd'
    split at hd <;> split at hd'
    · next hq hr => exact hq.trans hr.symm
    · obtain rfl := Option.some.inj hd
      rw [hrid] at hsame
      exact absurd hsame.symm (hintact.rid_ne hd')
    · obtain rfl := Option.some.inj hd'
      rw [hrid] at hsame
      exact absurd hsame (hintact.rid_ne hd)
    · exact hintact.rid_injective q r d d' hd hd' hsame

theorem after {e : Event} (hintact : e.store.Intact)
    (hroom : e.issued?.isSome → e.store.sequence + 1 < UInt64.size) : e.after.Intact := by
  have hsequence := e.sequence_le_after hroom
  -- only a write files a document; whatever else happens, what is left was there before
  cases e.outcome with
  | written p c body stamp hid hfind hpartition hafter hissued _ _ =>
      rw [hafter]
      exact hintact.of_write (hroom (by simp [hissued])) p c body stamp hid hfind hpartition
  | deleted p c hfind hafter _ _ _ =>
      refine hintact.of_old hsequence ?_
      intro q c' d hc' hitem
      rw [hafter, find?_setItems] at hc'
      split at hc'
      · next hcontainer =>
          obtain rfl := Option.some.inj hc'
          rw [Table.find?_erase] at hitem
          split at hitem
          · cases hitem
          · exact ⟨c, hcontainer ▸ hfind, rfl, hitem⟩
      · exact ⟨c', hc', rfl, hitem⟩
  | installed f hafter _ _ _ =>
      exact hintact.of_old hsequence (hafter ▸ old_of_withContainer e.store f)
  | provisioned f _ hafter _ _ =>
      exact hintact.of_old hsequence (hafter ▸ old_of_withContainer e.store f)
  | kept hcollections _ _ _ =>
      refine hintact.of_old hsequence ?_
      intro q c' d hc' hitem
      exact ⟨c', hcollections ▸ hc', rfl, hitem⟩

end DocStore.Intact

/-! ### Every run keeps it -/

theorem DocStore.intact_empty : DocStore.empty.Intact where
  filed _ _ _ hc := by cases hc
  rid_injective _ _ _ _ hd := by cases hd

theorem length_issuedTags_concat (history : List Event) (e : Event) :
    (issuedTags (history ++ [e])).length =
      (issuedTags history).length + e.issued?.toList.length := by
  rw [issuedTags, List.filterMap_append, List.length_append]
  cases hissued : e.issued? with
  | none => simp [issuedTags, hissued]
  | some tag => simp [issuedTags, hissued]

/-- As long as the numbers last, the counter is the number of accepted documents. -/
theorem intact_final (xs : List Action)
    (hroom : (issuedTags (DocStore.empty.trace xs)).length < UInt64.size) :
    (DocStore.empty.final xs).Intact ∧
      (DocStore.empty.final xs).sequence = (issuedTags (DocStore.empty.trace xs)).length := by
  induction xs using List.reverseRecOn with
  | nil => exact ⟨DocStore.intact_empty, rfl⟩
  | append_singleton xs x ih =>
      rw [DocStore.trace_concat, length_issuedTags_concat] at hroom ⊢
      obtain ⟨hintact, hsequence⟩ := ih (by omega)
      have hnext : Event.issued? ⟨DocStore.empty.final xs, x⟩ |>.isSome →
          (DocStore.empty.final xs).sequence + 1 < UInt64.size := by
        intro hsome
        obtain ⟨tag, htag⟩ := Option.isSome_iff_exists.mp hsome
        rw [htag, Option.toList_some, List.length_singleton] at hroom
        omega
      rw [DocStore.final_concat, Event.sequence_after _ hnext, hsequence]
      exact ⟨hintact.after hnext, rfl⟩

theorem Event.Writes.rid {e : Event} {p : Place} {d : Value} (hwrites : e.Writes p d) :
    e.issued?.isSome ∧ d.get? "_rid" = some (.string (sixteenDigits e.store.sequence)) := by
  obtain ⟨container, id, stamp, fields, hissued, rfl⟩ := hwrites.exists_stamped
  exact ⟨by simp [hissued], get?_rid_stamped _ _ _ _ _⟩

/-- A number that an event of a run gave out is below the counter behind the run. -/
theorem sequence_lt_final (xs : List Action)
    (hroom : (issuedTags (DocStore.empty.trace xs)).length < UInt64.size) :
    ∀ e ∈ DocStore.empty.trace xs, e.issued?.isSome →
      e.store.sequence < (DocStore.empty.final xs).sequence := by
  induction xs using List.reverseRecOn with
  | nil => simp
  | append_singleton xs x ih =>
      intro e he hissued
      rw [(intact_final _ hroom).2]
      rw [DocStore.trace_concat, length_issuedTags_concat] at hroom ⊢
      have hbefore : (issuedTags (DocStore.empty.trace xs)).length < UInt64.size := by omega
      have hsequence := (intact_final xs hbefore).2
      rw [DocStore.trace_concat, List.mem_append, List.mem_singleton] at he
      rcases he with he | rfl
      · have hlt := ih hbefore e he hissued
        omega
      · obtain ⟨tag, htag⟩ := Option.isSome_iff_exists.mp hissued
        rw [htag, Option.toList_some, List.length_singleton]
        show (DocStore.empty.final xs).sequence < _
        omega

theorem rid_increasing (xs : List Action)
    (hroom : (issuedTags (DocStore.empty.trace xs)).length < UInt64.size) :
    (DocStore.empty.trace xs).Pairwise fun e e' => ∀ p d q d', e.Writes p d → e'.Writes q d' →
      ∃ r r', d.get? "_rid" = some (.string r) ∧ d'.get? "_rid" = some (.string r') ∧ r < r' := by
  induction xs using List.reverseRecOn with
  | nil => simp
  | append_singleton xs x ih =>
      rw [DocStore.trace_concat, length_issuedTags_concat] at hroom
      have hbefore : (issuedTags (DocStore.empty.trace xs)).length < UInt64.size := by omega
      rw [DocStore.trace_concat, List.pairwise_append]
      refine ⟨ih hbefore, List.pairwise_singleton _ _, ?_⟩
      intro e he e' he' p d q d' hwrites hwrites'
      obtain rfl := List.mem_singleton.mp he'
      obtain ⟨hissued, hrid⟩ := hwrites.rid
      obtain ⟨-, hrid'⟩ := hwrites'.rid
      refine ⟨_, _, hrid, hrid', ?_⟩
      exact sixteenDigits_lt (sequence_lt_final xs hbefore e he hissued)
        (DocStore.sequence_lt _)

/-- In every store that a run reaches while the numbers last, each document is filed under what it
says of itself, no two documents of any containers have one number, and of two documents accepted
in the run the later one has the greater number. -/
theorem reachable_documents_filed (xs : List Action)
    (hroom : (issuedTags (DocStore.empty.trace xs)).length < UInt64.size) :
    (∀ container c partition id d,
      (DocStore.empty.final xs).collections.find? container = some c →
      c.items.find? ⟨partition, id⟩ = some d →
      Filed c (DocStore.empty.final xs).sequence ⟨container, ⟨partition, id⟩⟩ d) ∧
    (∀ p q d d', (DocStore.empty.final xs).document? p = some d →
      (DocStore.empty.final xs).document? q = some d' → d.get? "_rid" = d'.get? "_rid" → p = q) ∧
    (DocStore.empty.trace xs).Pairwise fun e e' => ∀ p d q d', e.Writes p d → e'.Writes q d' →
      ∃ r r', d.get? "_rid" = some (.string r) ∧ d'.get? "_rid" = some (.string r') ∧ r < r' := by
  have hintact := (intact_final xs hroom).1
  refine ⟨?_, hintact.rid_injective, rid_increasing xs hroom⟩
  intro container c partition id d hc hitem
  exact hintact.filed ⟨container, ⟨partition, id⟩⟩ c d hc hitem

/-- Two documents of one address in two containers, the first of them replaced. -/
def sharedAddress : List Action :=
  [.install ⟨"user", "/id"⟩, .install ⟨"owner", "/id"⟩,
    .request (.create "user" (.object [("id", .string "a")]) ⟨"first", 7⟩),
    .request (.create "owner" (.object [("id", .string "a")]) ⟨"second", 7⟩),
    .request (.replace "user" ⟨"a", "a"⟩ (.object [("id", .string "a")]) .none ⟨"third", 8⟩)]

theorem reachable_documents_filed_sharedAddress :
    (issuedTags (DocStore.empty.trace sharedAddress)).length < UInt64.size ∧
      ((DocStore.empty.final sharedAddress).document? ⟨"user", ⟨"a", "a"⟩⟩).isSome ∧
      ((DocStore.empty.final sharedAddress).document? ⟨"owner", ⟨"a", "a"⟩⟩).isSome ∧
      ∀ d d', (DocStore.empty.final sharedAddress).document? ⟨"user", ⟨"a", "a"⟩⟩ = some d →
        (DocStore.empty.final sharedAddress).document? ⟨"owner", ⟨"a", "a"⟩⟩ = some d' →
        d.get? "_rid" ≠ d'.get? "_rid" := by
  have hroom : (issuedTags (DocStore.empty.trace sharedAddress)).length < UInt64.size := by
    decide +kernel
  refine ⟨hroom, by decide +kernel, by decide +kernel, ?_⟩
  intro d d' hd hd' hsame
  have hplace := (reachable_documents_filed sharedAddress hroom).2.1 _ _ d d' hd hd' hsame
  exact absurd hplace (by decide)

end DocAccess.Store
