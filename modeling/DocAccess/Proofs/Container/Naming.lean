import DocAccess.Container.Handle
import DocAccess.Proofs.Container.Recording
import DocAccess.Proofs.Container.Resource
import DocAccess.Proofs.Container.Runs

/-!
# Identifiers of new documents

A handle fills in the identifier of a new document before its driver is asked.  A body that brings a
text keeps it, a body that brings none gets the fresh one, and a body that brings anything else
never comes to the driver.
-/

namespace DocAccess.Document.Fields

/-- A field that is removed may as well not have been set. -/
theorem erase_insert (name : String) (value : Value) (fields : Fields) :
    erase name (insert name value fields) = erase name fields := by
  have hfilter (fs : Fields) : erase name fs = fs.filter (·.1 ∉ [name]) := foldl_erase [name] fs
  rw [hfilter, hfilter, filter_insert List.mem_cons_self]

end DocAccess.Document.Fields

namespace DocAccess.Container

open DocAccess.Document DocAccess.Store

/-! ### Filling in an identifier -/

/-- Whether a body can be a new document: an object whose identifier is left out, null or a text. -/
def Nameable (body : Value) : Prop :=
  ∃ fields, body = .object fields ∧
    ∀ value, Fields.get? "id" fields = some value → value = .null ∨ ∃ id, value = .string id

/-- Whether a document is a body with an identifier: it has one that is not empty, everything else
is as in the body, and so is the identifier, if the body brings one that is not empty. -/
structure Named (body document : Value) : Prop where
  id : ∃ id, document.get? "id" = some (.string id) ∧ id ≠ ""
  others : ∃ fields fields', body = .object fields ∧ document = .object fields' ∧
    Fields.erase "id" fields' = Fields.erase "id" fields
  kept : ∀ id, body.get? "id" = some (.string id) → id ≠ "" → document = body

variable {fresh : String} {fields : Fields}

theorem named_insert (hfresh : fresh ≠ "")
    (hunnamed : ∀ id, Fields.get? "id" fields = some (.string id) → id = "") :
    Named (.object fields) (.object (Fields.insert "id" (.string fresh) fields)) where
  id := ⟨fresh, Fields.get?_insert_self _ _ _, hfresh⟩
  others := ⟨fields, _, rfl, rfl, Fields.erase_insert _ _ _⟩
  kept id hid hne := absurd (hunnamed id hid) hne

theorem named_self {id : String} (hid : Fields.get? "id" fields = some (.string id))
    (hne : id ≠ "") : Named (.object fields) (.object fields) where
  id := ⟨id, hid, hne⟩
  others := ⟨fields, fields, rfl, rfl, rfl⟩
  kept _ _ _ := rfl

/-- An object that brings a text is completed with the fresh identifier if the text is empty. -/
theorem assignId?_string {id : String} (hid : Fields.get? "id" fields = some (.string id)) :
    assignId? fresh (.object fields) =
      .ok (.object (if id = "" then Fields.insert "id" (.string fresh) fields else fields)) := by
  simp only [assignId?, hid]
  by_cases hempty : id = ""
  · simp [hempty]
  · simp [hempty]

/-- What becomes of a body: it gets an identifier, or it is refused. -/
inductive Naming (body : Value) : Except StoreError Value → Prop
  | named {document : Value} (hbody : Nameable body) (hnamed : Named body document) :
      Naming body (.ok document)
  | refused {cause : Refusal} (hbody : ¬ Nameable body) : Naming body (.error (.badRequest cause))

theorem naming_assignId? (hfresh : fresh ≠ "") (body : Value) :
    Naming body (assignId? fresh body) := by
  cases body with
  | object fields =>
      -- nothing, null and an empty text are filled in, and any other text is kept
      cases hid : Fields.get? "id" fields with
      | none =>
          simp only [assignId?, hid]
          exact .named ⟨fields, rfl, by simp [hid]⟩ (named_insert hfresh (by simp [hid]))
      | some value =>
          cases value with
          | null =>
              simp only [assignId?, hid]
              exact .named ⟨fields, rfl, by simp [hid]⟩ (named_insert hfresh (by simp [hid]))
          | string id =>
              have hbody : Nameable (.object fields) := ⟨fields, rfl, by simp [hid]⟩
              rw [assignId?_string hid]
              split
              · next hempty => exact .named hbody (named_insert hfresh (by simp [hid, hempty]))
              · next hne => exact .named hbody (named_self hid hne)
          | bool _ | number _ | array _ | object _ =>
              simp only [assignId?, hid]
              refine .refused ?_
              rintro ⟨_, hfields, hkind⟩
              obtain rfl := Value.object.inj hfields
              simpa using hkind _ hid
  | null | bool _ | number _ | string _ | array _ =>
      refine .refused ?_
      rintro ⟨_, hfields, -⟩
      cases hfields

/-! ### Asking for a new document -/

variable {σ : Type} {d : Driver σ} {container : String} {body document : Value} {o : Options}
  {s s' : σ} {answer : Except StoreError Value}

/-- A body that gets an identifier comes to the driver. -/
theorem create_recorded (hnamed : assignId? fresh body = .ok document)
    (hanswer : d.create container document o s = (answer, s')) :
    (⟨d.recorded, container⟩ : Handle _).create fresh body o (s, []) =
      (answer, s', [.create container document o answer]) := by
  have hassign : (liftM (assignId? fresh body) : Run (σ × List Exchange) Value) (s, []) =
      (.ok document, s, []) := by
    rw [lift_apply, hnamed]
  exact (run_bind_ok hassign).trans (noted_apply hanswer _ [])

/-- A body that gets none does not. -/
theorem create_of_refused {h : Handle σ} {e : StoreError}
    (hrefused : assignId? fresh body = .error e) : h.create fresh body o s = (.error e, s) := by
  refine run_bind_error ?_
  rw [lift_apply, hrefused]

/-- What asking for a new document does: it is one call of the driver, with the body under an
identifier and everything else as it was handed over, or no call, if the body can have none. -/
inductive Creation (d : Driver σ) (container : String) (body : Value) (o : Options) (s : σ) :
    Except StoreError Value × σ × List Exchange → Prop
  | asked {document : Value} {answer : Except StoreError Value} {s' : σ} (hbody : Nameable body)
      (hnamed : Named body document) (hanswer : d.create container document o s = (answer, s')) :
      Creation d container body o s (answer, s', [.create container document o answer])
  | refused {cause : Refusal} (hbody : ¬ Nameable body) :
      Creation d container body o s (.error (.badRequest cause), s, [])

theorem creation (d : Driver σ) (container : String) (hfresh : fresh ≠ "") (body : Value)
    (o : Options) (s : σ) :
    Creation d container body o s ((⟨d.recorded, container⟩ : Handle _).create fresh body o
      (s, [])) := by
  have hnaming := naming_assignId? hfresh body
  cases hassign : assignId? fresh body with
  | ok document =>
      rw [hassign] at hnaming
      cases hnaming with
      | named hbody hnamed =>
          rcases hanswer : d.create container document o s with ⟨answer, s'⟩
          rw [create_recorded hassign hanswer]
          exact .asked hbody hnamed hanswer
  | error e =>
      rw [hassign] at hnaming
      cases hnaming with
      | refused hbody =>
          rw [create_of_refused hassign]
          exact .refused hbody

end DocAccess.Container
