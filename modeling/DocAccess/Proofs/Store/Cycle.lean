import DocAccess.Proofs.Store.Origin

/-!
# Documents that are sent back unchanged

A client reads a document and sends it back as it is, on the condition that nobody has changed it
since.  The store finds the identifier and the tag that it asks for, so that only the partition can
stand against it: the stored document need not be in the partition of the body that was accepted
once.  It is, unless the path of its container starts at a field that the stamp writes.
-/

namespace DocAccess.Store

open DocAccess.Document

/-! ### What a stored document says -/

/-- Whether a document says where it lies and which version it is: it has the identifier of its
address, a tag, and what names its partition, if the stamp leaves the path to it alone. -/
structure Returnable (path : List String) (a : Address) (d : Value) : Prop where
  id : documentId? d = .ok a.id
  tag : ∃ tag, d.get? "_etag" = some (.string tag)
  key : (∀ name ∈ path.head?, name ∉ stampNames) → keyOf? path d = some a.partition

theorem returnable_final (xs : List Action) :
    (DocStore.empty.final xs).Holds fun path p d => Returnable path p.address d := by
  refine DocStore.Holds.final ?_ (DocStore.holds_empty _) xs
  intro n p c body stamp hid hpartition
  obtain ⟨fields, rfl⟩ := object_of_documentId? hid
  -- the partition is that of the body, and the stamp comes after it has been taken
  refine ⟨documentId?_stamped hid n _ _ stamp, ⟨_, get?_etag_stamped _ _ _ _ _⟩, fun hpath => ?_⟩
  exact keyOf?_stamped hpath hid n _ _ stamp (keyOf?_of_partitionOf? hpartition)

/-! ### Sending it back -/

/-- What becomes of a document that is sent back to its address: it is stamped and stored again, or
it is refused for the partition that it names or for naming none. -/
inductive SentBack (s : DocStore) (container : String) (c : Collection) (a : Address) (d : Value)
    (stamp : Stamp) : Except StoreError (Value × DocStore) → Prop
  | stored (hkey : c.partitionOf? d = .ok a.partition) :
      SentBack s container c a d stamp (.ok (s.write container c a d stamp))
  | elsewhere {key : String} (hkey : c.partitionOf? d = .ok key) (hne : key ≠ a.partition) :
      SentBack s container c a d stamp
        (.error (.badRequest (.partitionMismatch a.partition)))
  | nowhere (hkey : c.partitionOf? d = .error (.badRequest (.missingPartition c.path))) :
      SentBack s container c a d stamp (.error (.badRequest (.missingPartition c.path)))

section SentBack

variable {s : DocStore} {container : String} {c : Collection} {a : Address} {d : Value} {o : Options}
  (hc : s.collections.find? container = some c) (hitem : c.items.find? a = some d)

include hc hitem

/-- Where identifier and tag are those of the stored document, the partition decides. -/
theorem sentBack_replace? (hid : documentId? d = .ok a.id)
    (htag : checkTag container a.id d o = .ok ()) (stamp : Stamp) :
    SentBack s container c a d stamp (s.replace? container a d o stamp) := by
  have hcollection := (collection?_eq_ok_iff s container c).mpr hc
  have hexisting := (existing?_eq_ok_iff c container a d).mpr hitem
  -- every check before the last one is passed
  have hreplace : s.replace? container a d o stamp =
      (c.partitionOf? d).bind fun key =>
        if key ≠ a.partition then .error (.badRequest (.partitionMismatch a.partition))
        else .ok (s.write container c a d stamp) := by
    simp only [DocStore.replace?, hid, hcollection, hexisting, htag, bind, Except.bind, ne_eq,
      not_true_eq_false, if_false]
  rw [hreplace]
  cases hkey : c.partitionOf? d with
  | ok key =>
      by_cases hsame : key = a.partition
      · subst hsame
        rw [Except.bind, if_neg (not_not.mpr rfl)]
        exact .stored hkey
      · rw [Except.bind, if_pos hsame]
        exact .elsewhere hkey hsame
  | error cause =>
      have hcause := partitionOf?_eq c d
      rw [hkey] at hcause
      cases hnamed : keyOf? c.path d with
      | some key => rw [hnamed] at hcause; cases hcause
      | none =>
          rw [hnamed] at hcause
          obtain rfl := Except.error.inj hcause
          exact .nowhere hkey

end SentBack

/-- Every document that can be read in a store that a run reaches has a tag, and on the condition of
this tag it is only refused at its address if it does not name the partition there.  If the path of
the container does not start at a field that the stamp writes, it names that partition, so that it
is accepted. -/
theorem unchanged_sentBack (xs : List Action) {container : String} {a : Address} {d : Value}
    (hread : (DocStore.empty.final xs).read? container a = .ok d) :
    ∃ c tag, (DocStore.empty.final xs).collections.find? container = some c ∧
      d.get? "_etag" = some (.string tag) ∧
      ((∀ name ∈ c.path.head?, name ∉ stampNames) → c.partitionOf? d = .ok a.partition) ∧
      ∀ (o : Options) (stamp : Stamp), o.ifMatch = some tag →
        SentBack (DocStore.empty.final xs) container c a d stamp
          ((DocStore.empty.final xs).replace? container a d o stamp) := by
  have hdocument := (DocStore.read?_eq_ok_iff _ container a d).mp hread
  obtain ⟨c, hc, hitem⟩ := Option.bind_eq_some_iff.mp hdocument
  obtain ⟨hid, ⟨tag, htag⟩, hkey⟩ := returnable_final xs ⟨container, a⟩ c d hc hitem
  refine ⟨c, tag, hc, htag, fun hpath => ?_, fun o stamp ho => ?_⟩
  · rw [partitionOf?_eq, hkey hpath]
    rfl
  · refine sentBack_replace? hc hitem hid ((checkTag_eq_ok_iff ..).mpr fun tag' htag' => ?_) stamp
    rw [ho] at htag'
    rw [htag]
    exact htag'

/-- A document that lies in the partition of its body, and one whose partition was taken from a
field that the stamp wrote over. -/
def stampedOver : List Action :=
  [.install ⟨"user", "/id"⟩, .install ⟨"c", "/_self"⟩,
    .request (.create "user" (.object [("id", .string "a")]) ⟨"first", 7⟩),
    .request (.create "c" (.object [("_self", .string "x"), ("id", .string "a")]) ⟨"second", 8⟩)]

/-- The options of a request for one version. -/
def onVersion (tag : String) : Options := { Options.none with ifMatch := some tag }

theorem unchanged_sentBack_stampedOver :
    ∃ d, (DocStore.empty.final stampedOver).read? "user" ⟨"a", "a"⟩ = .ok d ∧
      ∃ r, (DocStore.empty.final stampedOver).replace? "user" ⟨"a", "a"⟩ d (onVersion "first")
        ⟨"third", 9⟩ = .ok r := by
  have hread : (DocStore.empty.final stampedOver).read? "user" ⟨"a", "a"⟩ =
    .ok (stamped 0 "user" "a" ⟨"first", 7⟩ (.object [("id", .string "a")])) := rfl
  refine ⟨_, hread, ?_⟩
  obtain ⟨c, tag, hc, htag, hkey, hback⟩ := unchanged_sentBack stampedOver hread
  have hpath : some ["id"] = (some c).map Collection.path :=
    hc ▸ (rfl : some ["id"] =
      ((DocStore.empty.final stampedOver).collections.find? "user").map Collection.path)
  have hnamed : c.partitionOf? _ = .ok "a" := hkey (by rw [← Option.some.inj hpath]; decide)
  have htag' : some (Value.string "first") = some (.string tag) := htag
  have hversion : (onVersion "first").ifMatch = some tag :=
    congrArg some (Value.string.inj (Option.some.inj htag'))
  have hsent := hback (onVersion "first") ⟨"third", 9⟩ hversion
  generalize (DocStore.empty.final stampedOver).replace? "user" _ _ _ _ = answer at hsent ⊢
  cases hsent with
  | stored _ => exact ⟨_, rfl⟩
  | elsewhere hother hne => exact absurd (Except.ok.inj (hother.symm.trans hnamed)) hne
  | nowhere hnone => cases hnone.symm.trans hnamed

/-- The other document is refused where it was read, and for no other reason than its partition. -/
theorem unchanged_refused_stampedOver :
    ∃ d, (DocStore.empty.final stampedOver).read? "c" ⟨"x", "a"⟩ = .ok d ∧
      d.get? "_etag" = some (.string "second") ∧
      (DocStore.empty.final stampedOver).replace? "c" ⟨"x", "a"⟩ d (onVersion "second")
        ⟨"third", 9⟩ = .error (.badRequest (.partitionMismatch "x")) :=
  ⟨stamped 1 "c" "a" ⟨"second", 8⟩ (.object [("_self", .string "x"), ("id", .string "a")]),
    rfl, rfl, rfl⟩

end DocAccess.Store
