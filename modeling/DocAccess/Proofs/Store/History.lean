import DocAccess.Proofs.Store.Operation
import Mathlib.Data.List.Induction

/-!
# Histories

What is at a place after a run is decided by the last event that changed it.  One inversion of an
event lists all that it can do to the store; the reading of a store behind an event follows from
it, and by induction on the run the reading behind a history.
-/

namespace DocAccess.Store

open DocAccess.Document

/-! ### Answers -/

namespace DocStore

variable {s : DocStore} {container : String} {a : Address} {body : Value} {o : Options}
  {stamp : Stamp} {r : Value × DocStore} {s' : DocStore} {cause : StoreError}

theorem perform_create_ok (hcreate : s.create? container body stamp = .ok r) :
    s.perform (.request (.create container body stamp)) = (.ok (.document r.1), r.2) := by
  rw [perform, serve, hcreate]
  rfl

theorem perform_create_error (hcreate : s.create? container body stamp = .error cause) :
    s.perform (.request (.create container body stamp)) = (.error cause, s) := by
  rw [perform, serve, hcreate]
  rfl

theorem perform_replace_ok (hreplace : s.replace? container a body o stamp = .ok r) :
    s.perform (.request (.replace container a body o stamp)) = (.ok (.document r.1), r.2) := by
  rw [perform, serve, hreplace]
  rfl

theorem perform_replace_error (hreplace : s.replace? container a body o stamp = .error cause) :
    s.perform (.request (.replace container a body o stamp)) = (.error cause, s) := by
  rw [perform, serve, hreplace]
  rfl

theorem perform_delete_ok (hdelete : s.delete? container a o = .ok s') :
    s.perform (.request (.delete container a o)) = (.ok .done, s') := by
  rw [perform, serve, hdelete]
  rfl

theorem perform_delete_error (hdelete : s.delete? container a o = .error cause) :
    s.perform (.request (.delete container a o)) = (.error cause, s) := by
  rw [perform, serve, hdelete]
  rfl

end DocStore

/-! ### Events -/

namespace Event

/-- All that an event can do to the store that it meets. -/
inductive Outcome (e : Event) : Prop
  /-- A document is stamped and stored at the place that it determines. -/
  | written (p : Place) (c : Collection) (body : Value) (stamp : Stamp)
      (hid : documentId? body = .ok p.address.id)
      (hfind : e.store.collections.find? p.container = some c)
      (hpartition : c.partitionOf? body = .ok p.address.partition)
      (hafter : e.after = (e.store.write p.container c p.address body stamp).2)
      (hissued : e.issued? = some stamp.etag)
      (hwrites : ∀ q d, e.Writes q d ↔
        q = p ∧ d = stamped e.store.sequence p.container p.address.id stamp body)
      (hremoves : ∀ q, ¬ e.Removes q)
  /-- A document is deleted. -/
  | deleted (p : Place) (c : Collection)
      (hfind : e.store.collections.find? p.container = some c)
      (hafter : e.after = e.store.setItems p.container c (c.items.erase p.address))
      (hissued : e.issued? = none)
      (hwrites : ∀ q d, ¬ e.Writes q d)
      (hremoves : ∀ q, e.Removes q ↔ q = p)
  /-- A container is put up, in place of one that has its name. -/
  | installed (d : Definition)
      (hafter : e.after = e.store.withContainer d)
      (hissued : e.issued? = none)
      (hwrites : ∀ q d, ¬ e.Writes q d)
      (hremoves : ∀ q, e.Removes q ↔ q.container = d.name)
  /-- A container is put up where none has its name. -/
  | provisioned (d : Definition)
      (hfind : e.store.collections.find? d.name = none)
      (hafter : e.after = e.store.withContainer d)
      (hissued : e.issued? = none)
      (hchanges : ∀ q, ¬ e.Changes q)
  /-- Containers and counter stay as they are. -/
  | kept (hcollections : e.after.collections = e.store.collections)
      (hcounter : e.after.counter = e.store.counter)
      (hissued : e.issued? = none)
      (hchanges : ∀ q, ¬ e.Changes q)

theorem Outcome.of_create (s : DocStore) (container : String) (body : Value) (stamp : Stamp) :
    Outcome ⟨s, .request (.create container body stamp)⟩ := by
  cases hcreate : s.create? container body stamp with
  | error cause =>
      refine .kept ?_ ?_ ?_ ?_ <;>
        simp [after, answer, issued?, Changes, Writes, Removes,
          DocStore.perform_create_error hcreate]
  | ok r =>
      obtain ⟨id, c, key, hid, hfind, hpartition, -, hwrite⟩ :=
        (DocStore.create?_eq_ok_iff s container body stamp r).mp hcreate
      have hplace : s.placeOf? container body = .ok ⟨container, ⟨key, id⟩⟩ :=
        (DocStore.placeOf?_eq_ok_iff s container body _).mpr ⟨c, rfl, hid, hfind, hpartition⟩
      subst hwrite
      refine .written ⟨container, ⟨key, id⟩⟩ c body stamp hid hfind hpartition ?_ ?_ ?_ ?_
      · simp [after, DocStore.perform_create_ok hcreate]
      · simp [issued?, answer, DocStore.perform_create_ok hcreate]
      · intro q d
        simp [Writes, answer, DocStore.perform_create_ok hcreate, hplace, DocStore.write, eq_comm]
      · intro q
        simp [Removes]

theorem Outcome.of_replace (s : DocStore) (container : String) (a : Address) (body : Value)
    (o : Options) (stamp : Stamp) :
    Outcome ⟨s, .request (.replace container a body o stamp)⟩ := by
  cases hreplace : s.replace? container a body o stamp with
  | error cause =>
      refine .kept ?_ ?_ ?_ ?_ <;>
        simp [after, answer, issued?, Changes, Writes, Removes,
          DocStore.perform_replace_error hreplace]
  | ok r =>
      obtain ⟨c, stored, hid, hfind, -, -, hpartition, hwrite⟩ :=
        (DocStore.replace?_eq_ok_iff s container a body o stamp r).mp hreplace
      subst hwrite
      refine .written ⟨container, a⟩ c body stamp hid hfind hpartition ?_ ?_ ?_ ?_
      · simp [after, DocStore.perform_replace_ok hreplace]
      · simp [issued?, answer, DocStore.perform_replace_ok hreplace]
      · intro q d
        simp [Writes, answer, DocStore.perform_replace_ok hreplace, DocStore.write, eq_comm]
      · intro q
        simp [Removes]

theorem Outcome.of_delete (s : DocStore) (container : String) (a : Address) (o : Options) :
    Outcome ⟨s, .request (.delete container a o)⟩ := by
  cases hdelete : s.delete? container a o with
  | error cause =>
      refine .kept ?_ ?_ ?_ ?_ <;>
        simp [after, answer, issued?, Changes, Writes, Removes,
          DocStore.perform_delete_error hdelete]
  | ok s' =>
      obtain ⟨c, stored, hfind, -, -, herase⟩ :=
        (DocStore.delete?_eq_ok_iff s container a o s').mp hdelete
      subst herase
      refine .deleted ⟨container, a⟩ c hfind ?_ ?_ ?_ ?_
      · simp [after, DocStore.perform_delete_ok hdelete]
      · simp [issued?]
      · simp [Writes]
      · intro q
        simp [Removes, answer, DocStore.perform_delete_ok hdelete]

theorem Outcome.of_provision (s : DocStore) (d : Definition) :
    Outcome ⟨s, .request (.provision d)⟩ := by
  cases hfind : s.collections.find? d.name with
  | none =>
      refine .provisioned d hfind ?_ ?_ ?_ <;>
        simp [after, issued?, Changes, Writes, Removes, DocStore.perform, DocStore.serve,
          DocStore.provision, hfind]
  | some c =>
      refine .kept ?_ ?_ ?_ ?_ <;>
        simp [after, issued?, Changes, Writes, Removes, DocStore.perform, DocStore.serve,
          DocStore.provision, hfind]

/-- Every event has one of the outcomes. -/
theorem outcome (e : Event) : e.Outcome := by
  obtain ⟨s, x⟩ := e
  cases x with
  | request r =>
      cases r with
      | read container a =>
          exact .kept rfl rfl rfl (by simp [Changes, Writes, Removes])
      | create container body stamp => exact .of_create s container body stamp
      | replace container a body o stamp => exact .of_replace s container a body o stamp
      | delete container a o => exact .of_delete s container a o
      | size container => exact .kept rfl rfl rfl (by simp [Changes, Writes, Removes])
      | provision d => exact .of_provision s d
  | query container q continuation o =>
      exact .kept rfl rfl rfl (by simp [Changes, Writes, Removes])
  | install d =>
      exact .installed d rfl rfl (by simp [Writes]) (by simp [Removes])
  | resize n => exact .kept rfl rfl rfl (by simp [Changes, Writes, Removes])

/-- The written outcome is the only one of an event that writes. -/
theorem Writes.written {e : Event} {p : Place} {d : Value} (hwrites : e.Writes p d) :
    ∃ (q : Place) (c : Collection) (body : Value) (stamp : Stamp),
      documentId? body = .ok q.address.id ∧ c.partitionOf? body = .ok q.address.partition ∧
      e.issued? = some stamp.etag ∧ ∀ r d', e.Writes r d' ↔
        r = q ∧ d' = stamped e.store.sequence q.container q.address.id stamp body := by
  cases e.outcome with
  | written q c body stamp hid _ hpartition _ hissued hiff _ =>
      exact ⟨q, c, body, stamp, hid, hpartition, hissued, hiff⟩
  | deleted _ _ _ _ _ hnot _ => exact absurd hwrites (hnot p d)
  | installed _ _ _ hnot _ => exact absurd hwrites (hnot p d)
  | provisioned _ _ _ _ hnot => exact absurd (Or.inl ⟨d, hwrites⟩) (hnot p)
  | kept _ _ _ hnot => exact absurd (Or.inl ⟨d, hwrites⟩) (hnot p)

/-- What is written are the fields of a body with those that the store adds. -/
theorem Writes.exists_stamped {e : Event} {p : Place} {d : Value} (hwrites : e.Writes p d) :
    ∃ (container id : String) (stamp : Stamp) (fields : Fields), e.issued? = some stamp.etag ∧
      d = stamped e.store.sequence container id stamp (.object fields) := by
  obtain ⟨q, c, body, stamp, hid, -, hissued, hiff⟩ := hwrites.written
  obtain ⟨-, rfl⟩ := (hiff p d).mp hwrites
  obtain ⟨fields, rfl⟩ := object_of_documentId? hid
  exact ⟨q.container, q.address.id, stamp, fields, hissued, rfl⟩

/-! ### The reading behind an event -/

/-- Behind an event a place holds what the event wrote there, or what it held before if the event
did not change it. -/
theorem document?_after (e : Event) (p : Place) (d : Value) :
    e.after.document? p = some d ↔
      e.Writes p d ∨ (e.store.document? p = some d ∧ ¬ e.Changes p) := by
  cases e.outcome with
  | written q c body stamp _ hfind _ hafter _ hwrites hremoves =>
      rw [hafter, DocStore.document?_write _ _ _ _ _ _ hfind]
      by_cases hp : p = q
      · simp [hp, hwrites, hremoves, Changes, eq_comm]
      · simp [hp, hwrites, hremoves, Changes]
  | deleted q c hfind hafter _ hwrites hremoves =>
      rw [hafter, DocStore.document?_erase _ _ _ _ hfind]
      by_cases hp : p = q
      · simp [hp, hwrites, hremoves, Changes]
      · simp [hp, hwrites, hremoves, Changes]
  | installed f hafter _ hwrites hremoves =>
      rw [hafter, DocStore.document?_withContainer]
      by_cases hp : p.container = f.name
      · simp [hp, hwrites, hremoves, Changes]
      · simp [hp, hwrites, hremoves, Changes]
  | provisioned f hfind hafter _ hchanges =>
      have hnot : ¬ e.Writes p d := fun h => hchanges p (Or.inl ⟨d, h⟩)
      rw [hafter, DocStore.document?_withContainer]
      by_cases hp : p.container = f.name
      -- the new container is empty, but it takes nothing away since there was none
      · have hnone : e.store.document? p = none := by
          rw [DocStore.document?, hp, hfind]
          rfl
        simp [hp, hnot, hnone]
      · simp [hp, hnot, hchanges]
  | kept hcollections _ _ hchanges =>
      have hnot : ¬ e.Writes p d := fun h => hchanges p (Or.inl ⟨d, h⟩)
      simp [DocStore.document?, hcollections, hnot, hchanges]

end Event

/-! ### Runs -/

namespace DocStore

@[simp] theorem final_nil (s : DocStore) : s.final [] = s := rfl

@[simp] theorem trace_nil (s : DocStore) : s.trace [] = [] := rfl

theorem final_append (s : DocStore) (xs ys : List Action) :
    s.final (xs ++ ys) = (s.final xs).final ys := by
  induction xs generalizing s with
  | nil => rfl
  | cons x xs ih => exact ih _

theorem trace_append (s : DocStore) (xs ys : List Action) :
    s.trace (xs ++ ys) = s.trace xs ++ (s.final xs).trace ys := by
  induction xs generalizing s with
  | nil => rfl
  | cons x xs ih => exact congrArg (⟨s, x⟩ :: ·) (ih _)

/-- The store behind one more action is the one behind its event. -/
theorem final_concat (s : DocStore) (xs : List Action) (x : Action) :
    s.final (xs ++ [x]) = Event.after ⟨s.final xs, x⟩ :=
  final_append s xs [x]

theorem trace_concat (s : DocStore) (xs : List Action) (x : Action) :
    s.trace (xs ++ [x]) = s.trace xs ++ [⟨s.final xs, x⟩] :=
  trace_append s xs [x]

/-- What comes before an event of a run is a run of its own, and the event meets its store. -/
theorem split_trace {s : DocStore} {xs : List Action} {before later : List Event} {e : Event}
    (hsplit : s.trace xs = before ++ e :: later) :
    ∃ ys x, before = s.trace ys ∧ e = ⟨s.final ys, x⟩ := by
  induction before generalizing s xs with
  | nil =>
      cases xs with
      | nil => cases hsplit
      | cons x xs =>
          obtain ⟨rfl, -⟩ := List.cons.inj hsplit
          exact ⟨[], x, rfl, rfl⟩
  | cons f before ih =>
      cases xs with
      | nil => cases hsplit
      | cons x xs =>
          obtain ⟨rfl, hrest⟩ := List.cons.inj hsplit
          obtain ⟨ys, y, rfl, rfl⟩ := ih hrest
          exact ⟨x :: ys, y, rfl, rfl⟩

end DocStore

theorem LastWritten.concat_iff (history : List Event) (e : Event) (p : Place) (d : Value) :
    LastWritten (history ++ [e]) p d ↔
      e.Writes p d ∨ (LastWritten history p d ∧ ¬ e.Changes p) := by
  constructor
  · rintro ⟨before, w, later, heq, hwrites, hlater⟩
    -- the last event is the write itself, or it comes after the write and leaves the place alone
    rcases List.eq_nil_or_concat later with rfl | ⟨rest, last, rfl⟩
    · obtain ⟨-, hlast⟩ := List.append_inj' heq rfl
      obtain rfl : e = w := List.head_eq_of_cons_eq hlast
      exact Or.inl hwrites
    · rw [List.concat_eq_append] at heq hlater
      have heq' : history ++ [e] = (before ++ w :: rest) ++ [last] := by simpa using heq
      obtain ⟨hhistory, hlast⟩ := List.append_inj' heq' rfl
      obtain rfl : e = last := List.head_eq_of_cons_eq hlast
      refine Or.inr ⟨⟨before, w, rest, hhistory, hwrites, ?_⟩, ?_⟩
      · intro x hx
        exact hlater x (List.mem_append_left _ hx)
      · exact hlater e (by simp)
  · rintro (hwrites | ⟨⟨before, w, later, heq, hwrites, hlater⟩, hnot⟩)
    · exact ⟨history, e, [], rfl, hwrites, by simp⟩
    · refine ⟨before, w, later ++ [e], by simp [heq], hwrites, ?_⟩
      intro x hx
      rcases List.mem_append.mp hx with hx | hx
      · exact hlater x hx
      · obtain rfl : x = e := by simpa using hx
        exact hnot

/-- Behind a run that starts without documents, a place holds the document that was last written
there, and nothing where none was or where it was removed since. -/
theorem document?_final_iff {s : DocStore} (hempty : ∀ p, s.document? p = none)
    (xs : List Action) (p : Place) (d : Value) :
    (s.final xs).document? p = some d ↔ LastWritten (s.trace xs) p d := by
  induction xs using List.reverseRecOn with
  | nil =>
      simp only [DocStore.final_nil, DocStore.trace_nil, hempty, LastWritten]
      simp
  | append_singleton xs x ih =>
      rw [DocStore.final_concat, DocStore.trace_concat, LastWritten.concat_iff,
        Event.document?_after, ih]

end DocAccess.Store
