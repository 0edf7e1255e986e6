import DocAccess.Accessors.Basic
import DocAccess.Proofs.Query.Evaluation
import DocAccess.Proofs.Query.Parsing

/-!
# The query for a partition

The query that an accessor builds for one partition is read back by the store as a single
comparison of the path of the key with the parameter of the key.  So it selects the documents in
which the path leads to the text that the parameter is bound to; that text travels beside the query
and takes no part in the reading of it.
-/

namespace DocAccess.Accessors

open DocAccess.Document DocAccess.Partition DocAccess.Query DocAccess.Query.Reading DocAccess.Text

/-! ### Following a path -/

/-- Whether a path of field names leads from a document to a part of it, each name being that of a
field of the object reached so far. -/
inductive Leads : List String → Value → Value → Prop
  | here (target : Value) : Leads [] target target
  | field {name : String} {rest : List String} {fields : Fields} {inner target : Value}
      (hfield : fields.get? name = some inner) (hrest : Leads rest inner target) :
      Leads (name :: rest) (.object fields) target

theorem follow?_eq_some_iff {path : List String} {document target : Value} :
    document.follow? path = some target ↔ Leads path document target := by
  induction path generalizing document with
  | nil =>
      constructor
      · rintro ⟨⟩
        exact .here _
      · rintro ⟨⟩
        rfl
  | cons name rest ih =>
      rw [Value.follow?, Option.bind_eq_some_iff]
      constructor
      · rintro ⟨inner, hinner, hrest⟩
        cases document with
        | object fields => exact .field hinner (ih.mp hrest)
        -- nothing else has fields
        | _ => cases hinner
      · intro h
        cases h with
        | field hfield hrest => exact ⟨_, hfield, ih.mpr hrest⟩

/-! ### Reading the query -/

section Reading

variable {key : Key}

theorem partitionQuery_eq (hne : key.chain ≠ []) :
    key.partitionQuery = comparisonText key.chain "=" ('@' :: key.paramName.toList) := by
  apply String.toList_injective
  rw [Key.toList_partitionQuery hne, toList_comparisonText]
  rfl

theorem ofText?_partitionQuery (hkey : key.Plain) :
    Filter.ofText? key.partitionQuery =
      .ok [.compare key.chain false (.parameter key.queryParameter)] := by
  have hname : String.ofList ('@' :: key.paramName.toList) = key.queryParameter := by
    apply String.toList_injective
    simp [Key.queryParameter]
  rw [partitionQuery_eq hkey.nonempty, ← hname]
  exact ofText?_parameter hkey.nonempty (fun s hs => isField_of_isName (hkey.names s hs))
    (by decide) (isField_of_isName (Key.isName_paramName hkey))

end Reading

/-! ### Evaluating the query -/

theorem comparesEqual_string {value : Value} {k : String} :
    comparesEqual value (.string k) = true ↔ value = .string k := by
  cases value <;> simp [comparesEqual, Value.same]

/-- A document passes the comparison of a path with a text if the path leads to that text. -/
theorem passes?_compare {path : List String} {name k : String} {q : Prepared} {document : Value}
    (hbound : q.parameter? name = some (.string k)) :
    ∃ b, Filter.passes? q document [.compare path false (.parameter name)] = .ok b ∧
      (b = true ↔ Leads path document (.string k)) := by
  have hresolve : (Operand.parameter name).resolve? q = .ok (.string k) := by
    simp only [Operand.resolve?, hbound]
  refine ⟨_, Filter.passes?_comparison hresolve path false document, ?_⟩
  rw [← follow?_eq_some_iff]
  cases document.follow? path with
  | none => simp
  | some value => simp [comparesEqual_string]

theorem parameter?_partitionQuery (key : Key) (k : String) :
    (Accessor.partitionQuery key k).parameter? key.queryParameter = some (.string k) := by
  simp [Accessor.partitionQuery, Prepared.parameter?, Prepared.bind, Prepared.ofText]

/-- For every path that gives a key, the text of the query for a partition is accepted and stands
for one comparison: that of the path with the parameter of the key.  With the parameter bound to a
text, whatever its characters, a document passes if and only if its fields lead along the path to
that text; the query that an accessor sends is bound like this. -/
theorem partitionQuery_selects_partition {path : String} {key : Key}
    (hkey : Key.derive? path = .ok key) :
    key.chain = segments path ∧
      ∃ filter, Filter.ofText? key.partitionQuery = .ok filter ∧
        filter = [.compare key.chain false (.parameter key.queryParameter)] ∧
        (∀ (q : Prepared) (k : String) (document : Value),
          q.parameter? key.queryParameter = some (.string k) →
            ∃ b, Filter.passes? q document filter = .ok b ∧
              (b = true ↔ Leads key.chain document (.string k))) ∧
        ∀ k, (Accessor.partitionQuery key k).text = key.partitionQuery ∧
          (Accessor.partitionQuery key k).parameter? key.queryParameter = some (.string k) := by
  have hplain := Key.plain_of_derive? hkey
  obtain ⟨hchain, -, -⟩ := Key.derive?_eq_ok_iff.mp hkey
  refine ⟨hchain, _, ofText?_partitionQuery hplain, rfl, ?_, fun k => ⟨rfl, ?_⟩⟩
  · intro q k document hbound
    exact passes?_compare hbound
  · exact parameter?_partitionQuery key k

/-- Segments that are keywords or start with an underscore, and a text with quotation marks. -/
theorem partitionQuery_selects_partition_keywords :
    Key.derive? "/_from/select//n" = .ok ⟨["_from", "select", "n"]⟩ ∧
      ∃ filter,
        Filter.ofText? "SELECT * FROM c WHERE c._from.select.n = @_fromSelectN" = .ok filter ∧
          Filter.passes? (Accessor.partitionQuery ⟨["_from", "select", "n"]⟩ "' OR 1 = 1 --")
            (.object [("_from", .object [("select", .object [("n", .string "' OR 1 = 1 --")])])])
            filter = .ok true := by
  have hkey : Key.derive? "/_from/select//n" = .ok ⟨["_from", "select", "n"]⟩ :=
    Key.derive?_eq_ok_iff.mpr ⟨by decide +kernel, by decide, by decide +kernel⟩
  have htext : Key.partitionQuery ⟨["_from", "select", "n"]⟩ =
    "SELECT * FROM c WHERE c._from.select.n = @_fromSelectN" := by decide +kernel
  obtain ⟨-, filter, hfilter, -, hpasses, hbound⟩ := partitionQuery_selects_partition hkey
  rw [htext] at hfilter
  have hleads : Leads ["_from", "select", "n"] (.object [("_from", .object [("select", .object
      [("n", .string "' OR 1 = 1 --")])])]) (.string "' OR 1 = 1 --") :=
    follow?_eq_some_iff.mp rfl
  obtain ⟨b, hb, hiff⟩ := hpasses _ _ _ (hbound "' OR 1 = 1 --").2
  have htrue : b = true := hiff.mpr hleads
  exact ⟨hkey, filter, hfilter, htrue ▸ hb⟩

end DocAccess.Accessors
