import DocAccess.Proofs.Store.History

/-!
# What an action leaves as it was

An action decides anew what lies at one place, puts up one container, sets the page size, or leaves
the store alone.  Everything else in the store stays: the documents at all other places, the
containers with their paths, and the counter, which only an accepted document moves.
-/

namespace DocAccess.Store

open DocAccess.Document DocAccess.Query

/-! ### Changes at one place -/

/-- Whether two stores have the same containers, with the same paths and page size, and the same
documents in them everywhere but at one place. -/
structure SameBut (p : Place) (s s' : DocStore) : Prop where
  documents : ∀ q, q ≠ p → s'.document? q = s.document? q
  paths : ∀ name, (s'.collections.find? name).map (·.path) = (s.collections.find? name).map (·.path)
  pageSize : s'.pageSize = s.pageSize

section SameBut

variable {s : DocStore} {p : Place} {c : Collection}

/-- Setting the documents of a container keeps the paths of all. -/
theorem paths_of_set {s' : DocStore} {container : String} {items : Table Address Value}
    (hc : s.collections.find? container = some c)
    (hset : ∀ name, s'.collections.find? name =
      if name = container then some { c with items } else s.collections.find? name) (name : String) :
    (s'.collections.find? name).map (·.path) = (s.collections.find? name).map (·.path) := by
  rw [hset]
  split
  · next hname => rw [hname, hc, Option.map_some, Option.map_some]
  · rfl

theorem SameBut.write (hc : s.collections.find? p.container = some c) (body : Value)
    (stamp : Stamp) : SameBut p s (s.write p.container c p.address body stamp).2 where
  documents q hq := by rw [DocStore.document?_write _ _ _ _ _ _ hc, if_neg hq]
  paths := paths_of_set hc (DocStore.find?_write _ _ · _ _ _ _)
  pageSize := rfl

theorem SameBut.erase (hc : s.collections.find? p.container = some c) :
    SameBut p s (s.setItems p.container c (c.items.erase p.address)) where
  documents q hq := by rw [DocStore.document?_erase _ _ _ _ hc, if_neg hq]
  paths := paths_of_set hc (DocStore.find?_setItems _ _ · _ _)
  pageSize := rfl

end SameBut

/-! ### Changes of containers -/

/-- Whether two stores have the same containers but one, which the second has with the path of a
definition and without documents. -/
structure PutUp (d : Definition) (s s' : DocStore) : Prop where
  container : s'.collections.find? d.name = some (.ofPath d.path)
  others : ∀ name, name ≠ d.name → s'.collections.find? name = s.collections.find? name
  pageSize : s'.pageSize = s.pageSize
  counter : s'.counter = s.counter

theorem putUp_withContainer (s : DocStore) (d : Definition) : PutUp d s (s.withContainer d) where
  container := by rw [DocStore.find?_withContainer, if_pos rfl]
  others name hname := by rw [DocStore.find?_withContainer, if_neg hname]
  pageSize := rfl
  counter := rfl

/-! ### Effects -/

/-- What an action that is answered does to a store. -/
inductive Effect (s : DocStore) : Action → Answer → DocStore → Prop
  /-- A new document comes to the place that it determines, where there was none. -/
  | created {container : String} {body d : Value} {stamp : Stamp} {p : Place} {s' : DocStore}
      (hplace : s.placeOf? container body = .ok p) (hfree : s.document? p = none)
      (hd : d = stamped s.sequence container p.address.id stamp body)
      (hafter : s'.document? p = some d) (hsame : SameBut p s s')
      (hcounter : s'.counter = s.counter + 1) :
      Effect s (.request (.create container body stamp)) (.document d) s'
  /-- A document takes the place of the one that has its address. -/
  | replaced {container : String} {a : Address} {body old d : Value} {o : Options} {stamp : Stamp}
      {s' : DocStore} (hthere : s.document? ⟨container, a⟩ = some old)
      (hd : d = stamped s.sequence container a.id stamp body)
      (hafter : s'.document? ⟨container, a⟩ = some d) (hsame : SameBut ⟨container, a⟩ s s')
      (hcounter : s'.counter = s.counter + 1) :
      Effect s (.request (.replace container a body o stamp)) (.document d) s'
  /-- The document at an address is taken away. -/
  | deleted {container : String} {a : Address} {old : Value} {o : Options} {s' : DocStore}
      (hthere : s.document? ⟨container, a⟩ = some old)
      (hafter : s'.document? ⟨container, a⟩ = none) (hsame : SameBut ⟨container, a⟩ s s')
      (hcounter : s'.counter = s.counter) :
      Effect s (.request (.delete container a o)) .done s'
  | read {container : String} {a : Address} {answer : Answer} :
      Effect s (.request (.read container a)) answer s
  | counted {container : String} {answer : Answer} :
      Effect s (.request (.size container)) answer s
  | queried {container : String} {q : Prepared} {continuation : Option String} {o : Options}
      {answer : Answer} : Effect s (.query container q continuation o) answer s
  /-- A container that is there already stays as it is, whatever path is asked for. -/
  | present {d : Definition} {c : Collection} (hthere : s.collections.find? d.name = some c) :
      Effect s (.request (.provision d)) .done s
  | provisioned {d : Definition} {s' : DocStore} (hfree : s.collections.find? d.name = none)
      (hput : PutUp d s s') : Effect s (.request (.provision d)) .done s'
  | installed {d : Definition} {s' : DocStore} (hput : PutUp d s s') :
      Effect s (.install d) .done s'
  | resized {n : Nat} {s' : DocStore} (hcollections : s'.collections = s.collections)
      (hcounter : s'.counter = s.counter) : Effect s (.resize n) .done s'

/-- What an action does to a store: nothing if it fails, and its effect if it is answered. -/
inductive Performed (s : DocStore) (x : Action) : Except StoreError Answer × DocStore → Prop
  | failed (cause : StoreError) : Performed s x (.error cause, s)
  | answered {answer : Answer} {s' : DocStore} (heffect : Effect s x answer s') :
      Performed s x (.ok answer, s')

namespace Performed

variable (s : DocStore)

theorem of_create (container : String) (body : Value) (stamp : Stamp) :
    Performed s (.request (.create container body stamp))
      (s.perform (.request (.create container body stamp))) := by
  cases hcreate : s.create? container body stamp with
  | error cause =>
      rw [DocStore.perform_create_error hcreate]
      exact .failed cause
  | ok r =>
      obtain ⟨id, c, key, hid, hc, hkey, hfree, rfl⟩ := (DocStore.create?_eq_ok_iff ..).mp hcreate
      have hplace : s.placeOf? container body = .ok ⟨container, ⟨key, id⟩⟩ :=
        (DocStore.placeOf?_eq_ok_iff ..).mpr ⟨c, rfl, hid, hc, hkey⟩
      have hnone : s.document? ⟨container, ⟨key, id⟩⟩ = none :=
        (DocStore.document?_of_find? hc).trans hfree
      rw [DocStore.perform_create_ok hcreate]
      refine .answered (.created hplace hnone rfl ?_ (.write hc body stamp) rfl)
      exact (DocStore.document?_write s ⟨container, ⟨key, id⟩⟩ _ c body stamp hc).trans (if_pos rfl)

theorem of_replace (container : String) (a : Address) (body : Value) (o : Options)
    (stamp : Stamp) :
    Performed s (.request (.replace container a body o stamp))
      (s.perform (.request (.replace container a body o stamp))) := by
  cases hreplace : s.replace? container a body o stamp with
  | error cause =>
      rw [DocStore.perform_replace_error hreplace]
      exact .failed cause
  | ok r =>
      obtain ⟨c, old, -, hc, hold, -, -, rfl⟩ := (DocStore.replace?_eq_ok_iff ..).mp hreplace
      have hthere : s.document? ⟨container, a⟩ = some old :=
        (DocStore.document?_of_find? hc).trans hold
      rw [DocStore.perform_replace_ok hreplace]
      refine .answered (.replaced hthere rfl ?_ (.write (p := ⟨container, a⟩) hc body stamp) rfl)
      exact (DocStore.document?_write s ⟨container, a⟩ _ c body stamp hc).trans (if_pos rfl)

theorem of_delete (container : String) (a : Address) (o : Options) :
    Performed s (.request (.delete container a o)) (s.perform (.request (.delete container a o))) := by
  cases hdelete : s.delete? container a o with
  | error cause =>
      rw [DocStore.perform_delete_error hdelete]
      exact .failed cause
  | ok s' =>
      obtain ⟨c, old, hc, hold, -, rfl⟩ := (DocStore.delete?_eq_ok_iff ..).mp hdelete
      have hthere : s.document? ⟨container, a⟩ = some old :=
        (DocStore.document?_of_find? hc).trans hold
      rw [DocStore.perform_delete_ok hdelete]
      refine .answered (.deleted hthere ?_ (.erase (p := ⟨container, a⟩) hc) rfl)
      exact (DocStore.document?_erase s ⟨container, a⟩ _ c hc).trans (if_pos rfl)

theorem of_provision (d : Definition) :
    Performed s (.request (.provision d)) (s.perform (.request (.provision d))) := by
  show Performed s _ (.ok .done, s.provision d)
  cases hfind : s.collections.find? d.name with
  | some c =>
      rw [DocStore.provision, hfind]
      exact .answered (.present hfind)
  | none =>
      rw [DocStore.provision, hfind]
      exact .answered (.provisioned hfind (putUp_withContainer s d))

/-- An action that only asks leaves the store as it is, whether it is answered or not. -/
theorem of_question {x : Action} (heffect : ∀ answer, Effect s x answer s)
    (answer : Except StoreError Answer) : Performed s x (answer, s) := by
  cases answer with
  | error cause => exact .failed cause
  | ok answer => exact .answered (heffect answer)

end Performed

theorem performed (s : DocStore) (x : Action) : Performed s x (s.perform x) := by
  cases x with
  | request r =>
      cases r with
      | read container a => exact .of_question s (fun _ => .read) _
      | create container body stamp => exact .of_create s container body stamp
      | replace container a body o stamp => exact .of_replace s container a body o stamp
      | delete container a o => exact .of_delete s container a o
      | size container => exact .of_question s (fun _ => .counted) _
      | provision d => exact .of_provision s d
  | query container q continuation o => exact .of_question s (fun _ => .queried) _
  | install d => exact .answered (.installed (putUp_withContainer s d))
  | resize n => exact .answered (.resized rfl rfl)

end DocAccess.Store
