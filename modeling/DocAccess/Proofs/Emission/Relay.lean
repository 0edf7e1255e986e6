import DocAccess.Proofs.Accessors.Relay
import DocAccess.Proofs.Container.Naming
import DocAccess.Proofs.Emission.Provisioned

/-!
# Generated methods and the calls of their driver

A generated method that works on one item makes one call of the driver of its accessor and gives
what the accessor makes of the answer.  The call is the one that the arguments say: the container is
that of the accessor, the partition of an item is its identifier where these are the same, the body is
the item as it is written, and the options are those that are handed over.  Only a new item can come
to the driver under another identifier than it has, and only if it has none.
-/

namespace DocAccess.Emission

open DocAccess.Accessors DocAccess.Code DocAccess.Container DocAccess.Document DocAccess.Generate
open DocAccess.Model DocAccess.Operations DocAccess.Partition DocAccess.Store

variable {σ α : Type}

/-! ### Calls -/

/-- A result as a value. -/
def Val.ofAnswer {β : Type} (value : β → Val σ α) : Except StoreError β → Val σ α
  | .ok b => .succeeded (value b)
  | .error e => .failed e

/-- An item or nothing as a value. -/
def Val.ofItem? (type : Ident) : Option α → Val σ α
  | some a => .present (.item type a)
  | none => .absent

/-- Whether a call is one of a method that works on one item, any item that is handed over to be
added being written as an object with a text for its identifier. -/
def MethodCall.OnItem (e : Entity α) : MethodCall α → Prop
  | create item _ => ∃ fields id, e.encode item = .object fields ∧
      Fields.get? "id" fields = some (.string id)
  | read .. | readOrThrow .. | replace .. | delete .. => True
  | readAll .. | readAllByKey .. | query .. => False

/-- The address of an item: its identifier is its partition where the key of the model says so. -/
def addressOf (key : Key) (id partition : String) : Address :=
  ⟨if key.isIdentity then id else partition, id⟩

/-- What a call of a method on one item asks the driver by the container of its accessor, and what
it gives by the answer. -/
inductive Relayed (P : Program α) (n : Names) (container : String) :
    MethodCall α → Exchange → Val (σ × List Exchange) α → Prop
  | create {item : α} {o : Option Options} {fields : Fields} {id : String}
      {answer : Except StoreError Value} (hitem : (P.entity n.entity).encode item = .object fields)
      (hid : Fields.get? "id" fields = some (.string id)) :
      Relayed P n container (.create item o)
        (.create container
          (.object (if id = "" then Fields.insert "id" (.string P.fresh) fields else fields))
          (orNoOptions o) answer)
        (.ofAnswer (.item n.entity) (storedOf (P.entity n.entity).decode answer))
  | read {id key : String} {o : Option Options} {answer : Except StoreError Value} :
      Relayed P n container (.read id key o)
        (.read container (addressOf n.set.key id key) (orNoOptions o) answer)
        (.ofAnswer (.ofItem? n.entity) (foundOf (P.entity n.entity).decode answer))
  | readOrThrow {id key : String} {o : Option Options} {answer : Except StoreError Value} :
      Relayed P n container (.readOrThrow id key o)
        (.read container (addressOf n.set.key id key) (orNoOptions o) answer)
        (.ofAnswer (.item n.entity)
          (demandedOf (P.entity n.entity).decode n.set.model.name id answer))
  | replace {id key : String} {item : α} {o : Option Options} {answer : Except StoreError Value} :
      Relayed P n container (.replace id key item o)
        (.replace container (addressOf n.set.key id key) ((P.entity n.entity).encode item)
          (orNoOptions o) answer)
        (.ofAnswer (.item n.entity) (storedOf (P.entity n.entity).decode answer))
  | delete {id key : String} {o : Option Options} {answer : Except StoreError Unit} :
      Relayed P n container (.delete id key o)
        (.delete container (addressOf n.set.key id key) (orNoOptions o) answer)
        (.ofAnswer (fun _ => .unit) answer)

/-! ### Runs -/

theorem attempt_eq {β : Type} {run : Run σ β} {value : β → Val σ α} {s s' : σ}
    {answer : Except StoreError β} (hrun : run s = (answer, s')) :
    attempt run value s = (.ok (.ofAnswer value answer), s') := by
  cases answer with
  | ok b => exact attempt_ok hrun
  | error e => exact attempt_error hrun

theorem demand_apply {x : Accessor σ α} {container id partition : String} {o : Options} {s s' : σ}
    {answer : Except StoreError Value}
    (h : x.handle.driver.read x.handle.name (x.address id partition) o s = (answer, s')) :
    demand x container id partition o s =
      (demandedOf x.entity.decode container id answer, s') := by
  have hread := Accessor.read?_apply h
  cases answer with
  | ok resource =>
      rw [foundOf] at hread
      rw [demandedOf]
      cases hitem : itemOf x.entity.decode resource with
      | ok item => exact run_bind_ok (hread.trans (by rw [hitem]; rfl))
      | error e => exact run_bind_error (hread.trans (by rw [hitem]; rfl))
  | error e =>
      cases e with
      | notFound _ _ => exact run_bind_ok hread
      | _ => exact run_bind_error hread

/-- A method of an accessor with a recorded driver makes the one call that its arguments say. -/
theorem relayed_call {P : Program α} {n : Names} (hd : Offers P n) (hkey : KeyApart n)
    (hname : n.set.container = n.set.model.name) (d : Driver σ) (container : String)
    (call : MethodCall α) (hcall : call.OnItem (P.entity n.entity)) (s : σ) :
    ∃ exchange v s', Relayed P n container call exchange v ∧ exchange.Answers d s s' ∧
      P.call 2 [n.accessor, n.methodName call.kind]
        (n.access ⟨d.recorded, container⟩ :: call.args n) (s, []) = (.ok v, s', [exchange]) := by
  have hkind : call.kind ∈ kindsFor n.set.key := by
    refine (mem_kindsFor_iff _ _).mpr fun hkind => ?_
    cases call with
    | readAllByKey key o => exact hcall.elim
    | _ => cases hkind
  -- the method that fails on a missing item is apart: it names the container of its model, which
  -- need not be that of its accessor
  have hrun (hne : call.kind ≠ .readOrThrow) := congrFun
    (call_outcome hd hkey ⟨d.recorded, container⟩ call (absurd · hne) hkind 0) (s, [])
  cases call with
  | create item o =>
      obtain ⟨fields, id, hitem, hid⟩ := hcall
      have hassign : assignId? P.fresh ((P.entity n.entity).encode item) = .ok _ :=
        hitem ▸ assignId?_string hid
      rcases hanswer : d.create container
        (.object (if id = "" then Fields.insert "id" (.string P.fresh) fields else fields))
        (orNoOptions o) s with ⟨answer, s'⟩
      have hcreate := create_recorded hassign hanswer
      exact ⟨_, _, _, .create hitem hid, hanswer,
        (hrun nofun).trans (attempt_eq (Accessor.create_apply hcreate))⟩
  | read id key o =>
      rcases hanswer : d.read container (addressOf n.set.key id key) (orNoOptions o) s with
        ⟨answer, s'⟩
      exact ⟨_, _, _, .read, hanswer,
        (hrun nofun).trans (attempt_eq (Accessor.read?_apply (noted_apply hanswer _ [])))⟩
  | readOrThrow id key o =>
      rcases hanswer : d.read container (addressOf n.set.key id key) (orNoOptions o) s with
        ⟨answer, s'⟩
      have hrun := congrFun
        (call_readOrThrow hd hkey ⟨d.recorded, container⟩ id key o 0) (s, [])
      rw [hname] at hrun
      exact ⟨_, _, _, .readOrThrow, hanswer,
        hrun.trans (attempt_eq (demand_apply (noted_apply hanswer _ [])))⟩
  | replace id key item o =>
      rcases hanswer : d.replace container (addressOf n.set.key id key)
        ((P.entity n.entity).encode item) (orNoOptions o) s with ⟨answer, s'⟩
      exact ⟨_, _, _, .replace, hanswer,
        (hrun nofun).trans (attempt_eq (Accessor.replace_apply (noted_apply hanswer _ [])))⟩
  | delete id key o =>
      rcases hanswer : d.delete container (addressOf n.set.key id key) (orNoOptions o) s with
        ⟨answer, s'⟩
      exact ⟨_, _, _, .delete, hanswer,
        (hrun nofun).trans (attempt_eq (noted_apply hanswer _ []))⟩
  | readAll _ | readAllByKey _ _ | query _ _ => exact hcall.elim

/-- Every generated method that works on one item makes one call of the driver of its accessor, as
its arguments say, and gives what the driver answers: an error as it is, unless a point read finds
nothing, and a document as an item.  A new document comes to a driver only with an identifier. -/
theorem item_methods_relay {specs : List Spec} {c : Config} {m : ModuleDef} {code : Module}
    (hm : ModuleDef.assemble specs c = .ok m) (hcode : codeOf m = .ok code)
    (entity : Ident → Entity α) {fresh : String} (hfresh : fresh ≠ "") (d : Driver σ) (s : σ) :
    (∀ set ∈ m.models, ∃ n, Names.ofSet set = .ok n ∧ ∀ container,
      (Program.call ⟨code, entity, fresh⟩ 1 [n.accessor, .ofWord "new"]
          [.container ⟨d.recorded, container⟩] = pure (n.access ⟨d.recorded, container⟩)) ∧
      ∀ call : MethodCall α, call.OnItem (entity n.entity) →
        ∃ exchange v s', Relayed ⟨code, entity, fresh⟩ n container call exchange v ∧
          exchange.Answers d s s' ∧
          Program.call ⟨code, entity, fresh⟩ 2 [n.accessor, n.methodName call.kind]
            (n.access ⟨d.recorded, container⟩ :: call.args n) (s, []) =
              (.ok v, s', [exchange])) ∧
    (∀ container body o, Creation d container body o s
      ((⟨d.recorded, container⟩ : Handle _).create fresh body o (s, []))) := by
  obtain ⟨models, client, hmodels, h⟩ := exists_emittedFrom hm hcode
  obtain ⟨hsets, hnames⟩ := ofSet_of_namesOf hmodels
  refine ⟨fun set hset => ?_, fun container body o => creation d container hfresh body o s⟩
  obtain ⟨n, hn, rfl⟩ := List.mem_map.mp (hsets ▸ hset)
  obtain ⟨runtime, typePath, hitems⟩ := h.items
  have haccepted := h.accepted n hn
  have hoffers : Offers ⟨code, entity, fresh⟩ n :=
    offers runtime typePath h.apart hitems hn haccepted
  refine ⟨n, hnames n hn, fun container => ⟨call_accessorNew 0 hoffers _, fun call hcall => ?_⟩⟩
  exact relayed_call hoffers haccepted.keyApart haccepted.container d container call hcall s

/-- A comment that is asked for in a store without containers is asked for once, by its identifier
in the partition of its post, and the store complains. -/
theorem item_methods_relay_discussion :
    ∃ m code, ModuleDef.assemble discussionSpecs Config.default = .ok m ∧ codeOf m = .ok code ∧
      "fresh" ≠ "" ∧ ∀ set ∈ m.models, ∃ n, Names.ofSet set = .ok n ∧
        ∃ exchange, ∃ v : Val (DocStore × List Exchange) Value, ∃ s',
          Relayed ⟨code, fun _ => Entity.document, "fresh"⟩ n n.set.model.name
            (.read "c1" "p1" none) exchange v ∧
          exchange.Answers (memoryDriver fun t => ⟨toString t, t⟩) DocStore.empty s' := by
  obtain ⟨m, code, hm, hcode, -⟩ := exists_code_discussion
  have hfresh : "fresh" ≠ "" := by decide
  obtain ⟨hmodels, -⟩ := item_methods_relay hm hcode (fun _ => Entity.document) hfresh
    (memoryDriver fun t => ⟨toString t, t⟩) DocStore.empty
  refine ⟨m, code, hm, hcode, hfresh, fun set hset => ?_⟩
  obtain ⟨n, hn, hcontainer⟩ := hmodels set hset
  obtain ⟨exchange, v, s', hrelayed, hanswers, -⟩ :=
    (hcontainer n.set.model.name).2 (.read "c1" "p1" none) trivial
  exact ⟨n, hn, exchange, v, s', hrelayed, hanswers⟩

end DocAccess.Emission
