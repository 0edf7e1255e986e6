import DocAccess.Proofs.Accessors.Provisioned
import DocAccess.Proofs.Emission.Client

/-!
# Generated clients and the containers of their store

The name and the path of a model's container go from its declaration through the derived key, its
canonical path and the texts of the generated table into a store that takes the path apart again.
What comes out is what was declared: a store that is made from the table has one container for each
model, with the segments of its key, and a client of that store addresses these containers alone.
-/

namespace DocAccess.Emission

open DocAccess.Accessors DocAccess.Code DocAccess.Container DocAccess.Generate DocAccess.Model
open DocAccess.Operations DocAccess.Partition DocAccess.Store

variable {σ α : Type}

/-! ### What is listed -/

/-- The accessor of a model in a new client, by the name of its field. -/
def acquired (d : Driver σ) (s : Spec) : Ident × Val σ α :=
  (⟨s.name, false⟩, .record ⟨accessorName s.typeName, false⟩
    [(.ofWord "container", .container ⟨d, s.name⟩)])

/-- Whether the table of a program, the fields of its client and the accessors that its function
acquires list exactly some models, each once and in order. -/
structure Lists (P : Program α) (c : Config) (specs : List Spec) (rows : List Definition) :
    Prop where
  distinct : (specs.map (·.name)).Nodup
  table (σ : Type) : P.call 1 [.ofWord "CONTAINERS"] [] =
    (pure (.array (rows.map .definition)) : Eval σ (Val σ α))
  rows : rows.map (·.name) = specs.map (·.name)
  fields : (fieldsOf? P.code ⟨c.clientType, false⟩).map (·.map fun f => (f.name, f.type)) =
    some (specs.map fun s => (⟨s.name, false⟩, .ofIdent ⟨accessorName s.typeName, false⟩))
  accessors (σ : Type) (d : Driver σ) : P.call 3 [⟨c.factoryName, false⟩] [.database d] =
    pure (.record ⟨c.clientType, false⟩ (specs.map (acquired d)))

/-- Whether a store that is made from rows has exactly the containers of some models, each empty and
with the segments of its key. -/
structure Provisions (rows : List Definition) (specs : List Spec) : Prop where
  names : ((DocStore.withContainers rows).collections.entries.map (·.1)).Perm (specs.map (·.name))
  paths : ∀ s ∈ specs, ∃ key, Key.derive? s.path = .ok key ∧
    (DocStore.withContainers rows).collections.find? s.name = some ⟨key.chain, .empty⟩

/-- Whether a store is come to by some actions on a store that is made from rows. -/
def Reached (rows : List Definition) (s : DocStore) : Prop :=
  ∃ actions, s = (DocStore.withContainers rows).final actions

/-- Whether what a method gives is no complaint about a missing container.  For a feed, nothing that
it gives may be one either, wherever it stands and whichever of some states the store is in. -/
def Val.FindsContainer (stamps : Nat → Stamp) (states : DocStore → Prop) :
    Val DocStore α → Prop
  | .failed e => ∀ name, e ≠ .containerNotFound name
  | .feed _ f => ∀ g : Feed, g.container = f.container → ∀ s, states s →
      FeedFindsContainer stamps g s
  | _ => True

section Outcomes

variable {stamps : Nat → Stamp} {states : DocStore → Prop} {n : Names} {s : DocStore}

theorem attempt_findsContainer {β : Type} {run : Run DocStore β} {value : β → Val DocStore α}
    (hrun : FindsContainer (run s).1) :
    ∃ v, (attempt run value s).1 = .ok v ∧ v.FindsContainer stamps states := by
  rcases hanswer : run s with ⟨answer, s'⟩
  rw [hanswer] at hrun
  cases answer with
  | ok b => exact ⟨_, congrArg Prod.fst (attempt_ok hanswer), trivial⟩
  | error e =>
      refine ⟨_, congrArg Prod.fst (attempt_error hanswer), fun name he => ?_⟩
      exact hrun name (congrArg Except.error he)

/-- An accessor of a container that the store has in every state finds it. -/
theorem outcome_findsContainer {x : Accessor DocStore α}
    (hx : x.handle.driver = memoryDriver stamps) (hstates : ∀ s, states s → s.Has x.handle.name)
    (hs : states s) (fresh : String) (call : MethodCall α) :
    ∃ v, (call.outcome n fresh x s).1 = .ok v ∧ v.FindsContainer stamps states := by
  have hhas := hstates s hs
  have hfeed : ∀ (type : Ty) (f : Feed), f.container = x.handle.name →
      (Val.feed type f : Val DocStore α).FindsContainer stamps states := by
    intro type f hf g hg s' hs'
    refine feedFindsContainer ?_
    rw [hg, hf]
    exact hstates s' hs'
  cases call with
  | create item o => exact attempt_findsContainer (Accessor.create_findsContainer hx hhas _ _ _)
  | read id key o => exact attempt_findsContainer (Accessor.read?_findsContainer hx hhas _ _ _)
  | readOrThrow id key o =>
      exact attempt_findsContainer (Accessor.read_findsContainer hx hhas _ _ _)
  | readAll o => exact ⟨_, rfl, hfeed _ _ rfl⟩
  | readAllByKey key o => exact ⟨_, rfl, hfeed _ _ rfl⟩
  | replace id key item o =>
      exact attempt_findsContainer (Accessor.replace_findsContainer hx hhas _ _ _ _)
  | delete id key o =>
      exact attempt_findsContainer (Accessor.delete_findsContainer hx hhas _ _ _)
  | query clause ps => exact ⟨_, rfl, hfeed _ _ rfl⟩

end Outcomes

/-! ### Emitted modules -/

/-- What is known of the parts that a module is emitted from. -/
structure EmittedFrom (code : Module) (specs : List Spec) (c : Config) (models : List Names)
    (client : ClientNames) : Prop where
  items : ∃ runtime typePath, code = moduleItems runtime typePath client models
  models_eq : models.map (·.set.model) = specs
  distinct : (specs.map (·.name)).Nodup
  accepted : ∀ n ∈ models, Accepted n
  apart : Apart models client
  type : client.type = ⟨c.clientType, false⟩
  factory : client.factory = ⟨c.factoryName, false⟩
  ne_self : client.type ≠ .ofWord "Self"

section Emitted

variable {specs : List Spec} {c : Config} {m : ModuleDef} {code : Module} {models : List Names}
  {client : ClientNames}

theorem exists_emittedFrom (hm : ModuleDef.assemble specs c = .ok m) (hcode : codeOf m = .ok code) :
    ∃ models client, namesOf m.models = .ok models ∧ EmittedFrom code specs c models client := by
  have hwell := wellNamed_of_assemble hm
  obtain ⟨-, -, models, hmodels, client, hclient, runtime, -, typePath, -, -, rfl⟩ :=
    (codeOf_eq_ok_iff m code).mp hcode
  have hspells := spells_of_wellNamed hwell hmodels hclient
  obtain ⟨htype, hfactory, -⟩ := names_of_ofModule hclient
  have htypeName := hwell.client _ List.mem_cons_self
  have hclientType := eq_of_identOf_typeName htype htypeName
  have hclientFactory := eq_of_identOf_moduleName hfactory hwell.factory
  obtain ⟨-, sets, hsets, -, rfl⟩ := (assemble_eq_ok_iff _ _ _).mp hm
  refine ⟨models, client, hmodels, ⟨⟨_, _, rfl⟩, ?_, (passes_of_checkModels hsets).distinctNames,
    accepted_of_namesOf hsets hmodels, apart_of_wellNamed hwell hspells, hclientType,
    hclientFactory, ?_⟩⟩
  · have hset : models.map (·.set) = sets := (ofSet_of_namesOf hmodels).1
    rw [← models_of_checkModels hsets, ← hset, List.map_map]
    rfl
  · intro hself
    rw [hclientType] at hself
    rw [(Ident.mk.inj hself).1] at htypeName
    revert htypeName
    decide +kernel

variable (h : EmittedFrom code specs c models client)

include h

theorem EmittedFrom.map_acquired (d : Driver σ) :
    (models.map fun n => n.acquired d : List (Ident × Val σ α)) = specs.map (acquired d) := by
  rw [← h.models_eq, List.map_map]
  refine List.map_congr_left fun n hn => ?_
  have hn := h.accepted n hn
  rw [Names.acquired, Names.access, hn.field, hn.accessor, hn.container]
  rfl

theorem EmittedFrom.lists (entity : Ident → Entity α) (fresh : String) :
    Lists ⟨code, entity, fresh⟩ c specs (models.map Names.definition) := by
  obtain ⟨runtime, typePath, rfl⟩ := h.items
  refine ⟨h.distinct, fun σ => ?_, ?_, ?_, fun σ d => ?_⟩
  · rw [List.map_map]
    exact call_containers 0 rfl
  · rw [← h.models_eq, List.map_map, List.map_map]
    exact List.map_congr_left fun n hn => (h.accepted n hn).container
  · rw [← h.type, fieldsOf?_client _ _ h.apart, Option.map_some, ← h.models_eq, List.map_map,
      List.map_map]
    refine congrArg some (List.map_congr_left fun n hn => ?_)
    have hn := h.accepted n hn
    exact Prod.ext hn.field (congrArg Ty.ofIdent hn.accessor)
  · rw [← h.type, ← h.factory, ← h.map_acquired]
    exact call_factory 0 rfl h.apart h.accepted d h.ne_self

theorem EmittedFrom.names_definition :
    (models.map Names.definition).map (·.name) = specs.map (·.name) := by
  rw [← h.models_eq, List.map_map, List.map_map]
  exact List.map_congr_left fun n hn => (h.accepted n hn).container

theorem EmittedFrom.provisions : Provisions (models.map Names.definition) specs := by
  have hnodup := h.names_definition ▸ h.distinct
  refine ⟨h.names_definition ▸ DocStore.names_withContainers_perm hnodup, fun s hs => ?_⟩
  obtain ⟨n, hn, rfl⟩ := List.mem_map.mp (h.models_eq ▸ hs)
  have haccepted := h.accepted n hn
  refine ⟨n.set.key, haccepted.derived, ?_⟩
  have hfind := DocStore.find?_withContainers hnodup (List.mem_map_of_mem hn)
  rw [Names.definition, haccepted.container] at hfind
  rw [hfind, Collection.ofPath, Key.segments_path (Key.plain_of_derive? haccepted.derived)]

theorem EmittedFrom.has_of_reached {n : Names} (hn : n ∈ models) {s : DocStore}
    (hs : Reached (models.map Names.definition) s) : s.Has n.set.container := by
  obtain ⟨actions, rfl⟩ := hs
  have hnodup := h.names_definition ▸ h.distinct
  have hfound := DocStore.find?_withContainers hnodup (List.mem_map_of_mem hn)
  exact DocStore.Has.final ⟨_, hfound⟩ actions

/-- Every method of every accessor finds its container in every state. -/
theorem EmittedFrom.finds (entity : Ident → Entity α) (fresh : String) (stamps : Nat → Stamp)
    {n : Names} (hn : n ∈ models) (call : MethodCall α) (hcall : call.kind ∈ kindsFor n.set.key)
    {s : DocStore} (hs : Reached (models.map Names.definition) s) :
    ∃ v, (Program.call ⟨code, entity, fresh⟩ 2 [n.accessor, n.methodName call.kind]
        ((acquired (memoryDriver stamps) n.set.model).2 :: call.args n) s).1 = .ok v ∧
      v.FindsContainer stamps (Reached (models.map Names.definition)) := by
  obtain ⟨runtime, typePath, hitems⟩ := h.items
  have haccepted := h.accepted n hn
  have hoffers : Offers ⟨code, entity, fresh⟩ n :=
    offers runtime typePath h.apart hitems hn haccepted
  have hvalue : (acquired (memoryDriver stamps) n.set.model).2 =
      (n.access ⟨memoryDriver stamps, n.set.container⟩ : Val DocStore α) := by
    rw [acquired, Names.access, haccepted.accessor, haccepted.container]
  rw [hvalue, call_outcome hoffers haccepted.keyApart _ call (fun _ => rfl) hcall 0]
  exact outcome_findsContainer rfl (fun _ => h.has_of_reached hn) hs fresh call

end Emitted

/-- A module that is emitted for accepted models lists them, and nothing else, in its table, in the
fields of its client and among the accessors that its function acquires.  A store that is made from
the table has exactly their containers, each with the segments of its key.  So in every state of
that store an accessor addresses a container that is there, and none of its methods complains that
it is missing. -/
theorem emitted_client_provisioned {specs : List Spec} {c : Config} {m : ModuleDef} {code : Module}
    (hm : ModuleDef.assemble specs c = .ok m) (hcode : codeOf m = .ok code)
    (entity : Ident → Entity α) (fresh : String) (stamps : Nat → Stamp) :
    ∃ rows, Lists ⟨code, entity, fresh⟩ c specs rows ∧ Provisions rows specs ∧
      m.models.map (·.model) = specs ∧
      ∀ set ∈ m.models, ∃ n, Names.ofSet set = .ok n ∧ ∀ s, Reached rows s →
        s.Has set.model.name ∧
        ∀ call : MethodCall α, call.kind ∈ kindsFor set.key →
          ∃ v, (Program.call ⟨code, entity, fresh⟩ 2 [n.accessor, n.methodName call.kind]
              ((acquired (memoryDriver stamps) set.model).2 :: call.args n) s).1 = .ok v ∧
            v.FindsContainer stamps (Reached rows) := by
  obtain ⟨models, client, hmodels, h⟩ := exists_emittedFrom hm hcode
  obtain ⟨hsets, hnames⟩ := ofSet_of_namesOf hmodels
  refine ⟨models.map Names.definition, h.lists entity fresh, h.provisions, ?_, ?_⟩
  · rw [← hsets, ← h.models_eq, List.map_map]
    rfl
  · intro set hset
    obtain ⟨n, hn, rfl⟩ := List.mem_map.mp (hsets ▸ hset)
    refine ⟨n, hnames n hn, fun s hs => ⟨?_, fun call hcall => ?_⟩⟩
    · exact (h.accepted n hn).container ▸ h.has_of_reached hn hs
    · exact h.finds entity fresh stamps hn call hcall hs

/-- Comments, whose partition is their post, and users, whose partition is their identifier. -/
def discussionSpecs : List Spec :=
  [⟨"comment", "Comment", "/post/id", none⟩, ⟨"user", "User", "//id/", none⟩]

theorem exists_code_discussion : ∃ m code,
    ModuleDef.assemble discussionSpecs Config.default = .ok m ∧ codeOf m = .ok code ∧ True :=
  exists_code (P := fun _ _ => True) (by decide +kernel)

/-- The module of comments and users lists the two, and a store that is made from its table has
their containers, whichever way the path of the second is written. -/
theorem emitted_client_provisioned_discussion :
    ∃ m code, ModuleDef.assemble discussionSpecs Config.default = .ok m ∧ codeOf m = .ok code ∧
      ∃ rows, Lists (⟨code, fun _ => Entity.document, "fresh"⟩ : Program Document.Value)
        Config.default discussionSpecs rows ∧ Provisions rows discussionSpecs := by
  obtain ⟨m, code, hm, hcode, -⟩ := exists_code_discussion
  obtain ⟨rows, hlists, hprovisions, -⟩ := emitted_client_provisioned hm hcode
    (fun _ => Entity.document) "fresh" fun n => ⟨toString n, n⟩
  exact ⟨m, code, hm, hcode, rows, hlists, hprovisions⟩

end DocAccess.Emission
