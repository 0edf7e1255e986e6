import DocAccess.Container.Resource
import DocAccess.Store.Basic
import Mathlib.Data.List.Forall2

/-!
# Reading stored documents

Reading a stored document as a value takes away the fields that the store adds, so that a document
is read as the body that was written, if that body has none of these fields itself.  A row of
documents is read one after the other, up to the first that is no value.
-/

namespace DocAccess.Document.Fields

/-- Removing fields one after the other keeps those with other names. -/
theorem foldl_erase (names : List String) (fields : Fields) :
    names.foldl (fun fs name => erase name fs) fields = fields.filter (·.1 ∉ names) := by
  induction names generalizing fields with
  | nil => simp
  | cons name names ih =>
      rw [List.foldl_cons, ih, erase, List.filter_filter]
      refine List.filter_congr fun field _ => ?_
      simp [Bool.and_comm]

/-- Setting a field that is left out makes no difference. -/
theorem filter_insert {names : List String} {name : String} (hname : name ∈ names) (value : Value)
    (fields : Fields) :
    (insert name value fields).filter (·.1 ∉ names) = fields.filter (·.1 ∉ names) := by
  induction fields with
  | nil => simp [insert, hname]
  | cons field rest ih =>
      obtain ⟨key, old⟩ := field
      simp only [insert]
      split
      · next hkey => simp [hkey, hname]
      · split
        · simp [hname]
        · rw [List.filter_cons, List.filter_cons, ih]

end DocAccess.Document.Fields

namespace DocAccess.Container

open DocAccess.Document DocAccess.Store

/-! ### What the store adds -/

/-- What the store adds to a document is taken away when the document is read. -/
theorem stripped_stamped (sequence : Nat) (container id : String) (stamp : Stamp) (body : Value) :
    stripped (stamped sequence container id stamp body) = stripped body := by
  cases body with
  | object fields =>
      have hadded : ∀ name ∈ ["_ts", "_etag", "_self", "_rid"], name ∈ metadataFields := by decide
      simp only [List.forall_mem_cons] at hadded
      obtain ⟨hts, hetag, hself, hrid, -⟩ := hadded
      simp only [stamped, stampFields, stripped, Fields.foldl_erase, Fields.filter_insert hts,
        Fields.filter_insert hetag, Fields.filter_insert hself, Fields.filter_insert hrid]
  | _ => rfl

/-! ### Rows of documents -/

variable {α : Type} {decode : Decoder α}

theorem fromResources_append (first second : List Value) :
    fromResources decode (first ++ second) =
      (fromResources decode first).bind fun items =>
        (fromResources decode second).map (items ++ ·) := by
  induction first with
  | nil =>
      rw [List.nil_append, fromResources]
      cases fromResources decode second with
      | error e => rfl
      | ok items => rfl
  | cons d first ih =>
      simp only [List.cons_append, fromResources, ih, bind, pure]
      -- a document that is no value ends the row, whatever follows it
      cases fromResource decode d with
      | error e => rfl
      | ok item =>
          cases fromResources decode first with
          | error e => rfl
          | ok items =>
              cases fromResources decode second with
              | error e => rfl
              | ok more => rfl

/-- A row of documents each of which can be read gives their values in order. -/
theorem fromResources_of_forall₂ {documents : List Value} {items : List α}
    (hread : List.Forall₂ (fun d item => fromResource decode d = .ok item) documents items) :
    fromResources decode documents = .ok items := by
  induction hread with
  | nil => rfl
  | cons hfirst _ ih =>
      rw [fromResources, hfirst, ih]
      rfl

/-- What a row of documents is read as: their values, or why the first that is no value is none. -/
inductive Reads (decode : Decoder α) : List Value → Except StoreError (List α) → Prop
  | values {documents : List Value} {items : List α}
      (hread : List.Forall₂ (fun d item => decode (stripped d) = .ok item) documents items) :
      Reads decode documents (.ok items)
  | undecodable {before after : List Value} {items : List α} {d : Value} {fault : ShapeFault}
      (hbefore : List.Forall₂ (fun d item => decode (stripped d) = .ok item) before items)
      (hfault : decode (stripped d) = .error fault) :
      Reads decode (before ++ d :: after) (.error (.serialization fault.message))

theorem reads_fromResources (documents : List Value) :
    Reads decode documents (fromResources decode documents) := by
  induction documents with
  | nil => exact .values .nil
  | cons d rest ih =>
      rw [fromResources, fromResource]
      cases hd : decode (stripped d) with
      | error fault => exact @Reads.undecodable _ _ [] rest [] d fault .nil hd
      | ok item =>
          generalize fromResources decode rest = answer at ih
          cases ih with
          | values hread => exact .values (.cons hd hread)
          | undecodable hbefore hfault => exact .undecodable (.cons hd hbefore) hfault

end DocAccess.Container
