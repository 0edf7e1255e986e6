import DocAccess.Proofs.Emission.Names
import Mathlib.Data.List.Perm.Basic

/-!
# The scope of an emitted module

The names at the top of a module live in two namespaces, one of types and one of values.  Assembly
keeps the types of models and their accessors apart from each other, from the client and its other
name, and, by a list of reserved names, from what the runtime brings.  The names of the client are
held against the models alone.  This file says exactly when the names of an emitted module are
distinct and leave the prelude alone, so that what assembly does not look at is in plain sight.
-/

namespace DocAccess.Emission

open DocAccess.Code DocAccess.Generate DocAccess.Operations

/-! ### Namespaces -/

/-- The functions that the runtime brings; whatever else it brings is a type. -/
def runtimeFunctions : List String := ["from_resource"]

/-- The names that an item brings into the namespace of types. -/
def typeNames : Item → List String
  | .importOne _ name | .structure _ name _ | .renaming _ name _ => [name.name]
  | .importMany _ names => (names.map Ident.name).filter (!runtimeFunctions.contains ·)
  | .members _ _ | .constant _ | .function _ => []

/-- The names that an item brings into the namespace of values. -/
def valueNames : Item → List String
  | .importMany _ names => (names.map Ident.name).filter (runtimeFunctions.contains ·)
  | .constant c => [c.name.name]
  | .function f => [f.name.name]
  | .importOne _ _ | .structure _ _ _ | .renaming _ _ _ | .members _ _ => []

/-- The names of types that an item introduces for a model or the client. -/
def introducedNames : Item → List String
  | .importOne _ name | .structure _ name _ | .renaming _ name _ => [name.name]
  | .importMany _ _ | .members _ _ | .constant _ | .function _ => []

/-- The names of the prelude that the signatures of a module mention. -/
def preludeNames : List String := ["Option", "Result", "IntoIterator"]

/-- Whether the names at the top of a module are distinct in each namespace, and those that it
introduces hide nothing of the prelude that it mentions. -/
structure WellScoped (code : Module) : Prop where
  types : (code.flatMap typeNames).Nodup
  values : (code.flatMap valueNames).Nodup
  prelude : ∀ name ∈ code.flatMap introducedNames, name ∉ preludeNames

instance (code : Module) : Decidable (WellScoped code) :=
  decidable_of_iff ((code.flatMap typeNames).Nodup ∧ (code.flatMap valueNames).Nodup ∧
      ∀ name ∈ code.flatMap introducedNames, name ∉ preludeNames)
    ⟨fun ⟨htypes, hvalues, hprelude⟩ => ⟨htypes, hvalues, hprelude⟩,
      fun h => ⟨h.types, h.values, h.prelude⟩⟩

/-! ### The names of an emitted module -/

/-- The names that a module imports from the runtime. -/
def importedNames (m : ModuleDef) : List String :=
  if m.models.isEmpty then fewRuntimeNames else runtimeNames

variable {m : ModuleDef} {models : List Names} {client : ClientNames}

theorem Spells.client_eq (h : Spells m models client) :
    client.type.name :: (client.otherName.map Ident.name).toList = clientTypes m := by
  rw [h.type, h.otherName, clientTypes]

theorem Spells.ownTypes_perm (h : Spells m models client) :
    (models.map (·.entity.name) ++ models.map (·.accessor.name)).Perm
      (m.models.flatMap ownTypes) := by
  rw [h.entities, h.accessors, List.map_eq_flatMap, List.map_eq_flatMap]
  exact List.flatMap_append_perm _ _ _

variable (runtime typePath : ImportPath)

theorem introducedNames_moduleItems :
    (moduleItems runtime typePath client models).flatMap introducedNames =
      models.map (·.entity.name) ++ models.map (·.accessor.name) ++
        client.type.name :: (client.otherName.map Ident.name).toList := by
  obtain ⟨type, factory, otherName⟩ := client
  have hmodels := List.map_eq_flatMap (f := fun n : Names => n.entity.name) (l := models)
  have haccessors := List.map_eq_flatMap (f := fun n : Names => n.accessor.name) (l := models)
  cases otherName with
  | none =>
      simp [moduleItems, clientItems, aliasItems, Names.accessorItems, introducedNames,
        List.flatMap_map, List.flatMap_assoc, hmodels, haccessors]
  | some name =>
      simp [moduleItems, clientItems, aliasItems, Names.accessorItems, introducedNames,
        List.flatMap_map, List.flatMap_assoc, hmodels, haccessors]

/-- Only the import from the runtime brings types that the module does not introduce. -/
theorem typeNames_moduleItems :
    (moduleItems runtime typePath client models).flatMap typeNames =
      (if models.isEmpty then fewRuntimeNames else runtimeNames).filter
          (!runtimeFunctions.contains ·) ++
        (moduleItems runtime typePath client models).flatMap introducedNames := by
  have hrest : ∀ items : List Item, (∀ source names, .importMany source names ∉ items) →
      items.flatMap typeNames = items.flatMap introducedNames := by
    intro items hitems
    refine List.flatMap_congr fun item hitem => ?_
    cases item with
    | importMany source names => exact absurd hitem (hitems source names)
    | _ => rfl
  rw [moduleItems, List.flatMap_cons, List.flatMap_cons, hrest]
  · simp [typeNames, introducedNames, Function.comp_def, Ident.ofWord]
  · intro source names
    cases hname : client.otherName with
    | none => simp [clientItems, aliasItems, Names.accessorItems, hname]
    | some name => simp [clientItems, aliasItems, Names.accessorItems, hname]

theorem valueNames_moduleItems :
    (moduleItems runtime typePath client models).flatMap valueNames =
      (if models.isEmpty then fewRuntimeNames else runtimeNames).filter
          (runtimeFunctions.contains ·) ++ ["CONTAINERS", client.factory.name] := by
  obtain ⟨type, factory, otherName⟩ := client
  have hnone : models.flatMap (fun _ => ([] : List String)) = [] := by simp
  cases otherName with
  | none =>
      simp [moduleItems, clientItems, aliasItems, Names.accessorItems, valueNames,
        List.flatMap_map, List.flatMap_assoc, containerTable, Emission.factory, Ident.ofWord,
        Function.comp_def, hnone]
  | some name =>
      simp [moduleItems, clientItems, aliasItems, Names.accessorItems, valueNames,
        List.flatMap_map, List.flatMap_assoc, containerTable, Emission.factory, Ident.ofWord,
        Function.comp_def, hnone]

/-! ### What assembly leaves unchecked -/

/-- No accessor has a name that the runtime or the prelude has. -/
theorem accessorName_notMem (typeName : String) :
    accessorName typeName ∉ runtimeNames ++ preludeNames := by
  have hsuffix : ∀ name ∈ runtimeNames ++ preludeNames,
      ¬"Operations".toList <:+ name.toList := by decide
  intro hmem
  refine hsuffix _ hmem ?_
  rw [accessorName, String.toList_append]
  exact List.suffix_append _ _

/-- Whether the names of a module avoid what assembly does not hold them against: for the names of
the client the imports and the prelude, and for models the one name of the prelude that is not
reserved. -/
structure AvoidsUnchecked (m : ModuleDef) : Prop where
  client : ∀ name ∈ clientTypes m, name ∉ importedNames m ∧ name ∉ preludeNames
  models : ∀ set ∈ m.models, set.model.typeName ≠ "IntoIterator"
  factory : m.factoryName ∉ importedNames m

instance (m : ModuleDef) : Decidable (AvoidsUnchecked m) :=
  decidable_of_iff ((∀ name ∈ clientTypes m, name ∉ importedNames m ∧ name ∉ preludeNames) ∧
      (∀ set ∈ m.models, set.model.typeName ≠ "IntoIterator") ∧ m.factoryName ∉ importedNames m)
    ⟨fun ⟨hclient, hmodels, hfactory⟩ => ⟨hclient, hmodels, hfactory⟩,
      fun h => ⟨h.client, h.models, h.factory⟩⟩

theorem notMem_preludeNames_iff {typeName : String} (hopen : IsOpenType typeName) :
    typeName ∉ preludeNames ↔ typeName ≠ "IntoIterator" := by
  have hreserved : ∀ name ∈ preludeNames, name ≠ "IntoIterator" → name ∈ reservedTypes := by
    decide
  have hmem : "IntoIterator" ∈ preludeNames := by decide
  constructor
  · rintro hnot rfl
    exact hnot hmem
  · intro hne hprelude
    exact hopen.2 (hreserved typeName hprelude hne)

theorem introducedNames_perm (h : Spells m models client) :
    ((moduleItems runtime typePath client models).flatMap introducedNames).Perm
      (m.models.flatMap ownTypes ++ clientTypes m) := by
  rw [introducedNames_moduleItems, h.client_eq]
  exact h.ownTypes_perm.append_right _

theorem importedNames_subset (m : ModuleDef) : importedNames m ⊆ runtimeNames := by
  have hfew : fewRuntimeNames ⊆ runtimeNames := by decide
  unfold importedNames
  split
  · exact hfew
  · exact List.Subset.refl _

theorem nodup_importedNames (m : ModuleDef) : (importedNames m).Nodup := by
  unfold importedNames
  split
  · decide
  · decide

/-- The types that the runtime brings are reserved. -/
theorem mem_reservedTypes {name : String} (hname : name ∈ runtimeNames)
    (htype : name ∉ runtimeFunctions) : name ∈ reservedTypes := by
  have hall : ∀ name ∈ runtimeNames, name ∉ runtimeFunctions → name ∈ reservedTypes := by
    decide
  exact hall name hname htype

/-- An uppercase letter is in each type that the runtime brings. -/
theorem any_isUpper_of_mem {name : String} (hname : name ∈ runtimeNames)
    (htype : name ∉ runtimeFunctions) : name.toList.any Char.isUpper = true := by
  have hall : ∀ name ∈ runtimeNames, name ∉ runtimeFunctions →
      name.toList.any Char.isUpper = true := by decide
  exact hall name hname htype

theorem notMem_runtimeFunctions {name : String} (htype : Source.isTypeName name = true) :
    name ∉ runtimeFunctions := by
  intro hmem
  obtain rfl := List.mem_singleton.mp hmem
  have hlower : ("from_resource".toList.head?.map Char.isUpper).getD false = false := rfl
  rw [Source.isTypeName, hlower, Bool.and_false] at htype
  cases htype

theorem not_any_isUpper {name : String} (hname : Source.isModuleName name = true) :
    name.toList.any Char.isUpper = false := by
  simp only [Source.isModuleName, Text.isLowercaseName, Bool.and_eq_true,
    Bool.not_eq_true'] at hname
  exact hname.1.2

/-! ### The scope of a module -/

section Scope

variable (hm : WellNamed m) (h : Spells m models client)

include hm h

/-- The types of models and their accessors are kept from the imports by assembly. -/
theorem nodup_typeNames_iff :
    ((moduleItems runtime typePath client models).flatMap typeNames).Nodup ↔
      ∀ name ∈ clientTypes m, name ∉ importedNames m := by
  rw [typeNames_moduleItems, h.isEmpty, ← importedNames,
    ((introducedNames_perm runtime typePath h).append_left _).nodup_iff, List.nodup_append']
  constructor
  · rintro ⟨-, -, hdisjoint⟩ name hname himported
    have htype := notMem_runtimeFunctions (hm.client name hname)
    refine hdisjoint (List.mem_filter.mpr ⟨himported, ?_⟩) (List.mem_append_right _ hname)
    simpa using htype
  · intro hclient
    refine ⟨(nodup_importedNames m).filter _, hm.nodup, ?_⟩
    intro name himported hown
    obtain ⟨himported, hfunction⟩ := List.mem_filter.mp himported
    have htype : name ∉ runtimeFunctions := by simpa using hfunction
    rcases List.mem_append.mp hown with hmodel | hname
    · obtain ⟨set, hset, hname⟩ := List.mem_flatMap.mp hmodel
      rcases List.mem_pair.mp hname with rfl | rfl
      · exact (hm.models set hset).2 (mem_reservedTypes (importedNames_subset m himported) htype)
      · exact accessorName_notMem _
          (List.mem_append_left _ (importedNames_subset m himported))
    · exact hclient name hname himported

/-- Among the values only the name of the factory is not the module's own choice. -/
theorem nodup_valueNames_iff :
    ((moduleItems runtime typePath client models).flatMap valueNames).Nodup ↔
      m.factoryName ∉ importedNames m := by
  have hlower := not_any_isUpper hm.factory
  have hupper : "CONTAINERS".toList.any Char.isUpper = true := by decide
  have hne : "CONTAINERS" ≠ m.factoryName := by
    intro heq
    rw [heq, hlower] at hupper
    cases hupper
  have htable : "CONTAINERS" ∉ runtimeFunctions := by decide
  -- the table is named in capitals, and neither a factory nor an imported function is
  rw [valueNames_moduleItems, h.isEmpty, ← importedNames, h.factory, List.nodup_append']
  constructor
  · rintro ⟨-, -, hdisjoint⟩ himported
    have hfunction : m.factoryName ∈ runtimeFunctions := by
      by_contra htype
      have := any_isUpper_of_mem (importedNames_subset m himported) htype
      rw [hlower] at this
      cases this
    exact hdisjoint (List.mem_filter.mpr ⟨himported, by simpa using hfunction⟩) (by simp)
  · intro hfactory
    refine ⟨(nodup_importedNames m).filter _, by simpa using hne, ?_⟩
    intro name hmem hown
    obtain ⟨himported, hfunction⟩ := List.mem_filter.mp hmem
    rcases List.mem_pair.mp hown with rfl | rfl
    · exact htable (by simpa using hfunction)
    · exact hfactory himported

theorem forall_introducedNames_iff :
    (∀ name ∈ (moduleItems runtime typePath client models).flatMap introducedNames,
        name ∉ preludeNames) ↔
      (∀ name ∈ clientTypes m, name ∉ preludeNames) ∧
        ∀ set ∈ m.models, set.model.typeName ≠ "IntoIterator" := by
  constructor
  · intro hall
    have hmem := fun name => (introducedNames_perm runtime typePath h).mem_iff (a := name)
    constructor
    · intro name hname
      exact hall name ((hmem name).mpr (List.mem_append_right _ hname))
    · intro set hset
      refine (notMem_preludeNames_iff (hm.models set hset)).mp (hall _ ?_)
      refine (hmem _).mpr (List.mem_append_left _ ?_)
      exact List.mem_flatMap.mpr ⟨set, hset, List.mem_cons_self⟩
  · rintro ⟨hclient, hmodels⟩ name hname
    rw [(introducedNames_perm runtime typePath h).mem_iff] at hname
    rcases List.mem_append.mp hname with hmodel | hname
    · obtain ⟨set, hset, hname⟩ := List.mem_flatMap.mp hmodel
      rcases List.mem_pair.mp hname with rfl | rfl
      · exact (notMem_preludeNames_iff (hm.models set hset)).mpr (hmodels set hset)
      · exact fun hmem => accessorName_notMem _ (List.mem_append_right _ hmem)
    · exact hclient name hname

end Scope

/-- An emitted module is well scoped exactly if the names that assembly leaves unchecked avoid the
imports and the prelude; everything else is settled by the checks of assembly. -/
theorem wellScoped_iff_avoidsUnchecked {specs : List Model.Spec} {c : Config} {m : ModuleDef}
    {code : Module} (hassemble : ModuleDef.assemble specs c = .ok m)
    (hcode : codeOf m = .ok code) : WellScoped code ↔ AvoidsUnchecked m := by
  obtain ⟨-, -, models, hmodels, client, hclient, runtime, -, typePath, -, -, rfl⟩ :=
    (codeOf_eq_ok_iff m code).mp hcode
  have hm := wellNamed_of_assemble hassemble
  have hspells := spells_of_wellNamed hm hmodels hclient
  constructor
  · intro hscoped
    have htypes := (nodup_typeNames_iff runtime typePath hm hspells).mp hscoped.types
    obtain ⟨hprelude, hown⟩ :=
      (forall_introducedNames_iff runtime typePath hm hspells).mp hscoped.prelude
    exact ⟨fun name hname => ⟨htypes name hname, hprelude name hname⟩, hown,
      (nodup_valueNames_iff runtime typePath hm hspells).mp hscoped.values⟩
  · intro havoids
    refine ⟨?_, ?_, ?_⟩
    · exact (nodup_typeNames_iff runtime typePath hm hspells).mpr
        fun name hname => (havoids.client name hname).1
    · exact (nodup_valueNames_iff runtime typePath hm hspells).mpr havoids.factory
    · exact (forall_introducedNames_iff runtime typePath hm hspells).mpr
        ⟨fun name hname => (havoids.client name hname).2, havoids.models⟩

/-! ### Emitted modules at hand -/

/-- Reads a property of an emitted module off its emission. -/
theorem exists_code {specs : List Model.Spec} {c : Config} {P : ModuleDef → Module → Prop}
    [∀ m code, Decidable (P m code)]
    (h : ((ModuleDef.assemble specs c).toOption.bind fun m =>
      (codeOf m).toOption.map fun code => decide (P m code)) = some true) :
    ∃ m code, ModuleDef.assemble specs c = .ok m ∧ codeOf m = .ok code ∧ P m code := by
  obtain ⟨m, hm, h⟩ := Option.bind_eq_some_iff.mp h
  obtain ⟨code, hcode, h⟩ := Option.map_eq_some_iff.mp h
  exact ⟨m, code, (toOption_eq_some_iff _ _).mp hm, (toOption_eq_some_iff _ _).mp hcode,
    of_decide_eq_true h⟩

/-- Models of users, whose identifier is their key. -/
def userSpecs : List Model.Spec := [⟨"user", "User", "/id", none⟩]

/-- With the settings that hold by default the module of users is well scoped. -/
theorem wellScoped_iff_avoidsUnchecked_users :
    ∃ m code, ModuleDef.assemble userSpecs Config.default = .ok m ∧ codeOf m = .ok code ∧
      AvoidsUnchecked m ∧ WellScoped code := by
  obtain ⟨m, code, hassemble, hcode, havoids⟩ :
      ∃ m code, ModuleDef.assemble userSpecs Config.default = .ok m ∧ codeOf m = .ok code ∧
        AvoidsUnchecked m := exists_code (P := fun m _ => AvoidsUnchecked m) (by decide +kernel)
  exact ⟨m, code, hassemble, hcode, havoids,
    (wellScoped_iff_avoidsUnchecked hassemble hcode).mpr havoids⟩

/-- A client may be named like a type that its module imports: the module is emitted, and declares
the name twice. -/
theorem not_wellScoped_container :
    ∃ m code,
      ModuleDef.assemble userSpecs { Config.default with clientType := "Container" } = .ok m ∧
      codeOf m = .ok code ∧ ¬WellScoped code :=
  exists_code (by decide +kernel)

end DocAccess.Emission
