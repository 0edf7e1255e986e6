import DocAccess.Proofs.Container.Runs
import DocAccess.Proofs.Store.Effects

/-!
# Operations step by step

An operation of a store in memory is a row of steps on one state, and a step that fails does not take
back what the steps before it did.  Each operation makes all of its checks before the first step
that changes anything, so that its row of steps comes to the same as an operation that fails without
a trace.
-/

namespace DocAccess.Container

open DocAccess.Document DocAccess.Query DocAccess.Store

variable {β γ : Type}

/-! ### Steps -/

/-- Draws the number of a write; the next write gets another one. -/
def drawNumber : Run DocStore Nat := fun s => (.ok s.sequence, { s with counter := s.counter + 1 })

/-- Sets the documents of a container. -/
def setDocuments (container : String) (items : Table Address Value → Table Address Value) :
    Run DocStore Unit := fun s =>
  match s.collections.find? container with
  | some c => (.ok (), s.setItems container c (items c.items))
  | none => (.ok (), s)

/-- Changes the store as a whole. -/
def setStore (f : DocStore → DocStore) : Run DocStore Unit := fun s => (.ok (), f s)

/-- Draws the number of a write, stamps a body with it and stores it. -/
def store (container : String) (a : Address) (body : Value) (stamp : Stamp) :
    Run DocStore Value := do
  let n ← drawNumber
  let document := stamped n container a.id stamp body
  setDocuments container (·.insert a document)
  return document

/-! ### Rows of steps -/

/-- Adds a document. -/
def createSteps (container : String) (body : Value) (stamp : Stamp) : Run DocStore Value := do
  let id ← documentId? body
  let c ← ask (·.collection? container)
  let partition ← c.partitionOf? body
  match c.items.find? ⟨partition, id⟩ with
  | some _ => throw (.conflict container id)
  | none => store container ⟨partition, id⟩ body stamp

/-- Replaces a document. -/
def replaceSteps (container : String) (a : Address) (body : Value) (o : Options) (stamp : Stamp) :
    Run DocStore Value := do
  let id ← documentId? body
  if id ≠ a.id then throw (.badRequest (.idMismatch a.id))
  else
    let c ← ask (·.collection? container)
    let stored ← DocStore.existing? c container a
    checkTag container a.id stored o
    let partition ← c.partitionOf? body
    if partition ≠ a.partition then throw (.badRequest (.partitionMismatch a.partition))
    else store container a body stamp

/-- Removes a document. -/
def deleteSteps (container : String) (a : Address) (o : Options) : Run DocStore Unit := do
  let c ← ask (·.collection? container)
  let stored ← DocStore.existing? c container a
  checkTag container a.id stored o
  setDocuments container (·.erase a)

/-- The steps of an action. -/
def steps : Action → Run DocStore Answer
  | .request (.read container a) => .document <$> ask (·.read? container a)
  | .request (.create container body stamp) => .document <$> createSteps container body stamp
  | .request (.replace container a body o stamp) =>
      .document <$> replaceSteps container a body o stamp
  | .request (.delete container a o) => (fun _ => .done) <$> deleteSteps container a o
  | .request (.size container) => .count <$> ask (·.size? container)
  | .request (.provision d) => (fun _ => .done) <$> setStore (·.provision d)
  | .query container q continuation o => .page <$> ask (·.query? container q continuation o)
  | .install d => (fun _ => .done) <$> setStore (·.withContainer d)
  | .resize n => (fun _ => .done) <$> setStore (·.withPageSize n)

/-! ### Checks

A check that passes goes on with the store as it was, and one that fails leaves it so. -/

section Checks

variable {s : DocStore} {rest : β → Run DocStore γ}
  {last : β → Except StoreError (γ × DocStore)}

theorem change_eq (operation : DocStore → Except StoreError (γ × DocStore)) :
    change operation s = change (fun _ => operation s) s := rfl

theorem lift_change {x : Except StoreError β}
    (h : ∀ b, x = .ok b → rest b s = change (fun _ => last b) s) :
    ((liftM x : Run DocStore β) >>= rest) s = change (fun _ => x >>= last) s := by
  cases x with
  | ok b => exact h b rfl
  | error e => rfl

theorem ask_change {question : DocStore → Except StoreError β}
    (h : ∀ b, question s = .ok b → rest b s = change (fun _ => last b) s) :
    (ask question >>= rest) s = change (fun _ => question s >>= last) s := by
  cases hanswer : question s with
  | ok b => exact (run_bind_ok (congrArg (·, s) hanswer)).trans (h b hanswer)
  | error e => exact run_bind_error (congrArg (·, s) hanswer)

end Checks

/-! ### Operations -/

section Operations

variable {s : DocStore} {container : String} {c : Collection}

theorem setDocuments_apply (hc : s.collections.find? container = some c)
    (items : Table Address Value → Table Address Value) :
    setDocuments container items s = (.ok (), s.setItems container c (items c.items)) := by
  rw [setDocuments, hc]

theorem store_apply (hc : s.collections.find? container = some c) (a : Address) (body : Value)
    (stamp : Stamp) :
    store container a body stamp s =
      change (fun _ => .ok (s.write container c a body stamp)) s := by
  -- drawing the number leaves the containers as they are
  have hdrawn : drawNumber s = (.ok s.sequence, { s with counter := s.counter + 1 }) := rfl
  rw [store, run_bind_ok hdrawn]
  exact run_bind_ok (setDocuments_apply (s := { s with counter := s.counter + 1 }) hc _)

variable (s container) (a : Address) (body : Value) (o : Options) (stamp : Stamp)

theorem createSteps_apply :
    createSteps container body stamp s = change (·.create? container body stamp) s := by
  rw [change_eq, createSteps, DocStore.create?]
  refine lift_change fun id _ => ask_change fun c hc => lift_change fun partition _ => ?_
  -- no check has changed the store, so that the container is still the one that was found
  have hc := (collection?_eq_ok_iff s container c).mp hc
  cases c.items.find? ⟨partition, id⟩ with
  | some old => rfl
  | none => exact store_apply hc _ body stamp

theorem replaceSteps_apply :
    replaceSteps container a body o stamp s = change (·.replace? container a body o stamp) s := by
  rw [change_eq, replaceSteps, DocStore.replace?]
  refine lift_change fun id _ => ?_
  split
  · rfl
  · refine ask_change fun c hc => lift_change fun stored _ => lift_change fun _ _ =>
      lift_change fun partition _ => ?_
    split
    · rfl
    · exact store_apply ((collection?_eq_ok_iff s container c).mp hc) a body stamp

theorem deleteSteps_apply :
    deleteSteps container a o s =
      change (fun s => (s.delete? container a o).map fun s' => ((), s')) s := by
  have hdelete : (s.delete? container a o).map (fun s' => ((), s')) =
      (do
        let c ← s.collection? container
        let stored ← DocStore.existing? c container a
        checkTag container a.id stored o
        return ((), s.setItems container c (c.items.erase a))) := by
    show (fun s' => ((), s')) <$> s.delete? container a o = _
    simp only [DocStore.delete?, map_bind, map_pure]
  rw [change_eq, deleteSteps, hdelete]
  refine ask_change fun c hc => lift_change fun stored _ => lift_change fun _ _ => ?_
  exact setDocuments_apply ((collection?_eq_ok_iff s container c).mp hc) _

end Operations

/-! ### Actions -/

section Actions

variable {s : DocStore} (f : β → Answer)

theorem map_change {run : Run DocStore β} {operation : DocStore → Except StoreError (β × DocStore)}
    (h : run s = change operation s) :
    (f <$> run) s = s.settle ((operation s).map fun (b, s') => (f b, s')) := by
  rw [map_eq_pure_bind]
  unfold change at h
  cases hanswer : operation s with
  | ok r =>
      rw [hanswer] at h
      exact run_bind_ok h
  | error e =>
      rw [hanswer] at h
      exact run_bind_error h

theorem map_ask (question : DocStore → Except StoreError β) :
    (f <$> ask question) s = ((question s).map f, s) := by
  rw [map_eq_pure_bind]
  cases hanswer : question s with
  | ok b => exact run_bind_ok (congrArg (·, s) hanswer)
  | error e => exact run_bind_error (congrArg (·, s) hanswer)

end Actions

/-- The row of steps of an action comes to what the store makes of it. -/
theorem steps_apply (s : DocStore) (x : Action) : steps x s = s.perform x := by
  cases x with
  | request r =>
      cases r with
      | read container a => exact map_ask _ _
      | create container body stamp => exact map_change _ (createSteps_apply ..)
      | replace container a body o stamp => exact map_change _ (replaceSteps_apply ..)
      | delete container a o =>
          refine (map_change _ (deleteSteps_apply ..)).trans ?_
          rw [DocStore.perform, DocStore.serve]
          cases s.delete? container a o with
          | ok s' => rfl
          | error e => rfl
      | size container => exact map_ask _ _
      | provision d => rfl
  | query container q continuation o => exact map_ask _ _
  | install d => rfl
  | resize n => rfl

/-- An action that fails leaves the whole store as it was, although its steps do not take back what
they did.  An action that is answered has its effect and no other: a new document at a place where
there was none, another document at the place of one, a place without its document, or nothing at
all, with every other document, path and number as before. -/
theorem action_frames (s : DocStore) (x : Action) :
    steps x s = s.perform x ∧ Performed s x (steps x s) := by
  have hsteps := steps_apply s x
  exact ⟨hsteps, hsteps ▸ performed s x⟩

end DocAccess.Container
