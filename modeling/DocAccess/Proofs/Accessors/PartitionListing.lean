import DocAccess.Proofs.Accessors.PartitionQuery
import DocAccess.Proofs.Container.Draining
import DocAccess.Proofs.Store.Origin

/-!
# Listing a partition

The store files a document under the text of the value that the path leads to, be it a string, a
number or a flag.  The listing of a partition compares that value with a string, so that it gives
the documents of the partition whose value is the string itself and no others: what is filed under
the text of a number or of a flag can be read at its address, but is not listed.
-/

namespace DocAccess.Accessors

open DocAccess.Container DocAccess.Document DocAccess.Partition DocAccess.Query DocAccess.Store
open DocAccess.Text

/-- Access to the documents of a container as they are. -/
def documents (stamps : Nat → Stamp) (name : String) (key : Key) : Accessor DocStore Value :=
  ⟨⟨memoryDriver stamps, name⟩, key, .document⟩

/-! ### The feed of a partition -/

section Listing

variable {key : Key} (hkey : key.Plain) {s : DocStore} {name : String} {c : Collection}

/-- The filter of the query for a partition. -/
def partitionFilter (key : Key) : Filter :=
  [.compare key.chain false (.parameter key.queryParameter)]

theorem passes?_partitionFilter (key : Key) (k : String) (d : Value) :
    ∃ b, (partitionFilter key).passes? (Accessor.partitionQuery key k) d = .ok b ∧
      (b = true ↔ Leads key.chain d (.string k)) :=
  passes?_compare (parameter?_partitionQuery key k)

/-- The entries of a container whose documents lead to a text. -/
def listed (key : Key) (c : Collection) (k : String) : List (Address × Value) :=
  c.selected (partitionFilter key) (Accessor.partitionQuery key k)

theorem mem_listed {k : String} {a : Address} {d : Value} :
    (a, d) ∈ listed key c k ↔ c.items.find? a = some d ∧ Leads key.chain d (.string k) := by
  obtain ⟨b, hb, hiff⟩ := passes?_partitionFilter key k d
  rw [listed, c.mem_selected, hb, ← hiff, Except.ok.injEq]

include hkey

/-- Draining the feed of a partition reads the listed documents in order, whatever the type of the
items and the size of the pages. -/
theorem fetchAll_readPartition (hc : s.collections.find? name = some c)
    (hroom : c.items.size ≤ maxPosition) {α : Type} (stamps : Nat → Stamp) (entity : Entity α)
    (o : Options) (k : String) {bound : Nat} (hbound : max 1 c.items.size ≤ bound) :
    ∃ behind, Feed.fetchAll (memoryDriver stamps) entity.decode bound
        (Accessor.readPartition ⟨⟨memoryDriver stamps, name⟩, key, entity⟩ k o) s =
      (some (fromResources entity.decode ((listed key c k).map (·.2))), behind, s) := by
  have hparameters : checkParameters (Accessor.partitionQuery key k) = .ok () := by
    have hname : isParameterName key.queryParameter = true := by
      simp [isParameterName, Key.queryParameter]
    simp [checkParameters, Accessor.partitionQuery, Prepared.bind, Prepared.ofText, hname]
  have hall : ∀ d ∈ c.items.values,
      ∃ b, (partitionFilter key).passes? (Accessor.partitionQuery key k) d = .ok b := by
    intro d _
    obtain ⟨b, hb, -⟩ := passes?_partitionFilter key k d
    exact ⟨b, hb⟩
  let x : Accessor DocStore α := ⟨⟨memoryDriver stamps, name⟩, key, entity⟩
  exact Feed.fetchAll_memory (f := x.readPartition k o) stamps entity.decode hc hparameters
    (ofText?_partitionQuery hkey) hall hroom hbound

end Listing

theorem fromResources_document (documents : List Value) :
    fromResources Entity.document.decode documents = .ok (documents.map stripped) := by
  induction documents with
  | nil => rfl
  | cons d rest ih =>
      rw [fromResources, ih]
      rfl

/-- In every store that a run reaches, draining the feed of a partition gives, each once and in the
order of their addresses, the documents in which the path of the key leads to the string asked for.
Where the path does not start at a stamped field these are the documents that can be read in the
partition and in which the path leads to a string, of whatever text. -/
theorem readPartition_lists_texts {path : String} {key : Key} (hkey : Key.derive? path = .ok key)
    (xs : List Action) {name : String} {c : Collection}
    (hc : (DocStore.empty.final xs).collections.find? name = some c)
    (hpath : c.path = segments path) (hroom : c.items.size ≤ maxPosition) (stamps : Nat → Stamp)
    (o : Options) (k : String) {bound : Nat} (hbound : max 1 c.items.size ≤ bound) :
    ∃ (entries : List (Address × Value)) (behind : Feed),
      Feed.fetchAll (memoryDriver stamps) Entity.document.decode bound
          ((documents stamps name key).readPartition k o) (DocStore.empty.final xs) =
        (some (.ok (entries.map fun e => stripped e.2)), behind, DocStore.empty.final xs) ∧
      entries.Pairwise (fun x y => x.1 < y.1) ∧
      (∀ a d, (a, d) ∈ entries ↔
        (DocStore.empty.final xs).read? name a = .ok d ∧ Leads key.chain d (.string k)) ∧
      ((∀ field ∈ key.chain.head?, field ∉ stampNames) → ∀ a d, (a, d) ∈ entries ↔
        a.partition = k ∧ (DocStore.empty.final xs).read? name a = .ok d ∧
          ∃ text, Leads key.chain d (.string text)) := by
  have hplain := Key.plain_of_derive? hkey
  have hchain : c.path = key.chain := hpath.trans (Key.derive?_eq_ok_iff.mp hkey).1.symm
  have hread : ∀ a d,
      (DocStore.empty.final xs).read? name a = .ok d ↔ c.items.find? a = some d := by
    intro a d
    rw [DocStore.read?_eq_ok_iff, DocStore.document?_of_find? hc]
  obtain ⟨behind, hfetch⟩ := fetchAll_readPartition hplain hc hroom stamps .document o k hbound
  refine ⟨listed key c k, behind, ?_, c.items.ascending.filter _, ?_, ?_⟩
  · rw [fromResources_document, List.map_map] at hfetch
    exact hfetch
  · intro a d
    rw [hread, mem_listed]
  · intro hfield a d
    rw [hread, mem_listed]
    -- a string that the path leads to is the text of the partition
    have hpartition : ∀ text, c.items.find? a = some d → Leads key.chain d (.string text) →
        text = a.partition := by
      intro text hitem hleads
      have hkept := keyOf?_final xs ⟨name, a⟩ c d hc hitem (by rwa [hchain])
      rw [hchain, keyOf?, follow?_eq_some_iff.mpr hleads] at hkept
      exact Option.some.inj hkept
    constructor
    · rintro ⟨hitem, hleads⟩
      exact ⟨(hpartition k hitem hleads).symm, hitem, k, hleads⟩
    · rintro ⟨rfl, hitem, text, hleads⟩
      obtain rfl := hpartition text hitem hleads
      exact ⟨hitem, hleads⟩

/-- Two documents of one partition, which is named by a string and by a number. -/
def mixedPartition : List Action :=
  [.install ⟨"c", "/kind"⟩,
    .request (.create "c" (.object [("id", .string "a"), ("kind", .string "7")]) ⟨"first", 7⟩),
    .request (.create "c" (.object [("id", .string "b"), ("kind", .number (.integer 7))])
      ⟨"second", 8⟩)]

/-- Both documents can be read in the partition, and the listing holds the first one only. -/
theorem readPartition_lists_texts_mixed :
    Key.derive? "/kind" = .ok ⟨["kind"]⟩ ∧
      (∀ id ∈ ["a", "b"], ∃ d,
        (DocStore.empty.final mixedPartition).read? "c" ⟨"7", id⟩ = .ok d) ∧
      ∃ (entries : List (Address × Value)) (behind : Feed),
        Feed.fetchAll (memoryDriver fun _ => ⟨"", 0⟩) Entity.document.decode 2
            ((documents (fun _ => ⟨"", 0⟩) "c" ⟨["kind"]⟩).readPartition "7" .none)
            (DocStore.empty.final mixedPartition) =
          (some (.ok (entries.map fun e => stripped e.2)), behind,
            DocStore.empty.final mixedPartition) ∧
        (∃ d, (⟨"7", "a"⟩, d) ∈ entries) ∧ ∀ d, (⟨"7", "b"⟩, d) ∉ entries := by
  have hkey : Key.derive? "/kind" = .ok ⟨["kind"]⟩ :=
    Key.derive?_eq_ok_iff.mpr ⟨by decide +kernel, by decide, by decide +kernel⟩
  have hsome : ((DocStore.empty.final mixedPartition).collections.find? "c").map
      (fun c => (c.items.size, c.path)) = some (2, segments "/kind") := by decide +kernel
  obtain ⟨c, hc, hshape⟩ := Option.map_eq_some_iff.mp hsome
  obtain ⟨hsize, hpath⟩ := Prod.mk.inj hshape
  have hfirst : (DocStore.empty.final mixedPartition).read? "c" ⟨"7", "a"⟩ =
    .ok (stamped 0 "c" "a" ⟨"first", 7⟩
      (.object [("id", .string "a"), ("kind", .string "7")])) := rfl
  have hsecond : (DocStore.empty.final mixedPartition).read? "c" ⟨"7", "b"⟩ =
    .ok (stamped 1 "c" "b" ⟨"second", 8⟩
      (.object [("id", .string "b"), ("kind", .number (.integer 7))])) := rfl
  have hroom : c.items.size ≤ maxPosition := by
    rw [hsize]
    decide
  have hbound : max 1 c.items.size ≤ 2 := by
    rw [hsize]
    decide
  obtain ⟨entries, behind, hfetch, -, hmem, -⟩ := readPartition_lists_texts hkey mixedPartition hc
    hpath hroom (fun _ => ⟨"", 0⟩) .none "7" hbound
  refine ⟨hkey, ?_, entries, behind, hfetch, ⟨_, (hmem _ _).mpr ⟨hfirst, ?_⟩⟩, ?_⟩
  · intro id hid
    rcases List.mem_pair.mp hid with rfl | rfl
    · exact ⟨_, hfirst⟩
    · exact ⟨_, hsecond⟩
  · exact follow?_eq_some_iff.mp rfl
  -- the number seven is filed under the same text, but it is not the string that is asked for
  · intro d hd
    obtain ⟨hread, hleads⟩ := (hmem _ _).mp hd
    rw [hsecond] at hread
    obtain rfl := Except.ok.inj hread
    exact nomatch follow?_eq_some_iff.mpr hleads

/-- A document of a partition that is named by a number. -/
def numberedPartition : List Action :=
  [.install ⟨"c", "/kind"⟩,
    .request (.create "c" (.object [("id", .string "a"), ("kind", .number (.integer 7))])
      ⟨"first", 7⟩)]

/-- The number of items that draining the feed of a partition gives. -/
def listedCount (xs : List Action) (name : String) (key : Key) (k : String) : Option Nat :=
  (Feed.fetchAll (memoryDriver fun _ => ⟨"", 0⟩) Entity.document.decode 1
    ((documents (fun _ => ⟨"", 0⟩) name key).readPartition k .none)
    (DocStore.empty.final xs)).1.bind fun answer => answer.toOption.map List.length

/-- The document can be read in its partition, and the listing of the partition is empty. -/
theorem readPartition_misses_number :
    ((DocStore.empty.final numberedPartition).read? "c" ⟨"7", "a"⟩).isOk ∧
      listedCount numberedPartition "c" ⟨["kind"]⟩ "7" = some 0 := by
  constructor
  · rfl
  · decide +kernel

end DocAccess.Accessors
