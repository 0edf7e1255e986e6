import DocAccess.Generate.Assembly
import DocAccess.Proofs.Checks
import Mathlib.Data.List.Forall2
import Mathlib.Data.List.Nodup

/-!
# What assembly accepts

Assembly is a row of checks.  This file says once which specs and settings pass them, and draws from
it that the types of a module have names of their own: no model takes a name that a model before it
has, for its items or for its accessor, and the client takes none of them.
-/

namespace DocAccess.Generate

open DocAccess.Model DocAccess.Operations DocAccess.Partition DocAccess.Source

/-! ### One model -/

/-- The names that a model has among the types of a module. -/
def ownTypes (set : OperationSet) : List String :=
  [set.model.typeName, accessorName set.model.typeName]

/-- The name of the type of a model that is accepted. -/
def IsOpenType (typeName : String) : Prop :=
  isTypeName typeName = true ∧ typeName ∉ reservedTypes

theorem checkModel_eq_ok_iff (names types : List String) (s : Spec) (set : OperationSet) :
    checkModel names types s = .ok set ↔
      isModuleName s.name = true ∧ s.name ∉ names ∧ IsOpenType s.typeName ∧
        s.typeName ∉ types ∧ accessorName s.typeName ∉ types ∧
        ∃ key, keyOf? s = .ok key ∧ OperationSet.synthesize s key = set := by
  simp only [checkModel, ite_error_eq_ok_iff, map_eq_ok_iff, IsOpenType, Bool.or_eq_true,
    Bool.not_eq_true', Bool.not_eq_false, List.contains_iff_mem, not_or]
  tauto

theorem checkModels_cons_eq_ok_iff (names types : List String) (s : Spec) (rest : List Spec)
    (sets : List OperationSet) :
    checkModels names types (s :: rest) = .ok sets ↔
      ∃ set, checkModel names types s = .ok set ∧ ∃ others,
        checkModels (s.name :: names) (s.typeName :: accessorName s.typeName :: types) rest
          = .ok others ∧ set :: others = sets := by
  simp only [checkModels, bind_eq_ok_iff, pure, Except.pure, Except.ok.injEq]

/-! ### Keys -/

/-- The key of a model is the one that its path gives; unless it is the identifier, its names in
calls and in generated code are not reserved. -/
theorem keyOf?_eq_ok_iff (s : Spec) (key : Key) :
    keyOf? s = .ok key ↔
      Key.derive? s.path = .ok key ∧
        (key.isIdentity = false →
          key.paramName ∉ reservedParams ∧ key.snakeName ∉ reservedParams) := by
  unfold keyOf?
  cases Key.derive? s.path with
  | error cause => simp
  | ok derived =>
      simp only [ite_error_eq_ok_iff, Except.ok.injEq, Bool.and_eq_true, Bool.not_eq_true',
        Bool.or_eq_true, List.contains_iff_mem]
      constructor
      · rintro ⟨hreserved, rfl⟩
        exact ⟨rfl, fun hidentity => not_or.mp fun hmem => hreserved ⟨hidentity, hmem⟩⟩
      · rintro ⟨rfl, hreserved⟩
        exact ⟨fun ⟨hidentity, hmem⟩ => not_or.mpr (hreserved hidentity) hmem, rfl⟩

theorem derive?_of_keyOf? {s : Spec} {key : Key} (h : keyOf? s = .ok key) :
    Key.derive? s.path = .ok key := ((keyOf?_eq_ok_iff s key).mp h).1

/-- A key is accepted if it has no reserved name in generated code, unless it is the identifier. -/
theorem snakeName_of_keyOf? {s : Spec} {key : Key} (h : keyOf? s = .ok key)
    (hidentity : key.isIdentity = false) : key.snakeName ∉ reservedParams :=
  (((keyOf?_eq_ok_iff s key).mp h).2 hidentity).2

/-! ### All models -/

theorem ne_accessorName (typeName : String) : typeName ≠ accessorName typeName := by
  intro h
  have hlength := congrArg String.length h
  rw [accessorName, String.length_append] at hlength
  have hsuffix : "Operations".length = 10 := rfl
  omega

/-- The names that a spec takes among the types of a module. -/
def takenTypes (s : Spec) : List String := [s.typeName, accessorName s.typeName]

/-- What lets specs pass one after the other, behind models and types whose names are taken: each is
in order by itself, and no name is taken twice. -/
structure Passes (names types : List String) (specs : List Spec) : Prop where
  modelNames : ∀ s ∈ specs, isModuleName s.name = true
  openTypes : ∀ s ∈ specs, IsOpenType s.typeName
  distinctNames : (specs.map (·.name)).Nodup
  freshNames : ∀ name ∈ specs.map (·.name), name ∉ names
  distinctTypes : (specs.flatMap takenTypes).Nodup
  freshTypes : ∀ name ∈ specs.flatMap takenTypes, name ∉ types

/-- The names of a spec are held against those in front of it, so that those behind it need not be. -/
theorem passes_cons_iff (names types : List String) (s : Spec) (rest : List Spec) :
    Passes names types (s :: rest) ↔
      (isModuleName s.name = true ∧ s.name ∉ names ∧ IsOpenType s.typeName ∧
          s.typeName ∉ types ∧ accessorName s.typeName ∉ types) ∧
        Passes (s.name :: names) (s.typeName :: accessorName s.typeName :: types) rest := by
  have hne := ne_accessorName s.typeName
  constructor
  · rintro ⟨hnames, hopen, hdistinct, hfresh, htypes, hfreshTypes⟩
    rw [List.forall_mem_cons] at hnames hopen
    rw [List.map_cons, List.nodup_cons] at hdistinct
    rw [List.map_cons, List.forall_mem_cons] at hfresh
    rw [List.flatMap_cons, List.nodup_append'] at htypes
    rw [List.flatMap_cons, List.forall_mem_append] at hfreshTypes
    obtain ⟨-, hrest, hdisjoint⟩ := htypes
    have hown := hfreshTypes.1
    simp only [takenTypes, List.forall_mem_cons] at hown
    refine ⟨⟨hnames.1, hfresh.1, hopen.1, hown.1, hown.2.1⟩, hnames.2, hopen.2, hdistinct.2, ?_,
      hrest, ?_⟩
    -- a later name is new to what was taken before and to the first one
    · intro name hname
      rw [List.mem_cons, not_or]
      exact ⟨fun heq => hdistinct.1 (heq ▸ hname), hfresh.2 name hname⟩
    · intro name hname
      rw [List.mem_cons, List.mem_cons, not_or, not_or]
      refine ⟨?_, ?_, hfreshTypes.2 name hname⟩
      · rintro rfl
        exact hdisjoint List.mem_cons_self hname
      · rintro rfl
        exact hdisjoint (List.mem_cons_of_mem _ List.mem_cons_self) hname
  · rintro ⟨⟨hname, hfreshName, hopen, htype, haccessor⟩, hnames, hopens, hdistinct, hfresh, htypes,
      hfreshTypes⟩
    simp only [List.mem_cons, not_or] at hfresh hfreshTypes
    refine ⟨?_, ?_, ?_, ?_, ?_, ?_⟩
    · exact List.forall_mem_cons.mpr ⟨hname, hnames⟩
    · exact List.forall_mem_cons.mpr ⟨hopen, hopens⟩
    · exact List.nodup_cons.mpr ⟨fun hmem => (hfresh s.name hmem).1 rfl, hdistinct⟩
    · exact List.forall_mem_cons.mpr ⟨hfreshName, fun name hmem => (hfresh name hmem).2⟩
    · rw [List.flatMap_cons, List.nodup_append']
      refine ⟨by simpa [takenTypes] using hne, htypes, fun name hown hmem => ?_⟩
      rcases List.mem_pair.mp hown with rfl | rfl
      · exact (hfreshTypes _ hmem).1 rfl
      · exact (hfreshTypes _ hmem).2.1 rfl
    · rw [List.flatMap_cons, List.forall_mem_append]
      refine ⟨?_, fun name hmem => (hfreshTypes name hmem).2.2⟩
      simpa [takenTypes] using ⟨htype, haccessor⟩

/-- The operation set of a spec: its operations are made from the key that its path gives. -/
def IsSetOf (s : Spec) (set : OperationSet) : Prop :=
  ∃ key, keyOf? s = .ok key ∧ OperationSet.synthesize s key = set

/-- All models are accepted if they pass and each has its operation set. -/
theorem checkModels_eq_ok_iff (names types : List String) (specs : List Spec)
    (sets : List OperationSet) :
    checkModels names types specs = .ok sets ↔
      Passes names types specs ∧ List.Forall₂ IsSetOf specs sets := by
  induction specs generalizing names types sets with
  | nil =>
      rw [List.forall₂_nil_left_iff, checkModels, Except.ok.injEq]
      constructor
      · rintro rfl
        exact ⟨⟨by simp, by simp, by simp, by simp, by simp, by simp⟩, rfl⟩
      · rintro ⟨-, rfl⟩
        rfl
  | cons s rest ih =>
      rw [checkModels_cons_eq_ok_iff, List.forall₂_cons_left_iff, passes_cons_iff]
      simp only [checkModel_eq_ok_iff, ih]
      constructor
      · rintro ⟨set, ⟨hname, hfresh, hopen, htype, haccessor, hset⟩, others, ⟨hpasses, hothers⟩, rfl⟩
        exact ⟨⟨⟨hname, hfresh, hopen, htype, haccessor⟩, hpasses⟩, set, others, hset, hothers, rfl⟩
      · rintro ⟨⟨⟨hname, hfresh, hopen, htype, haccessor⟩, hpasses⟩, set, others, hset, hothers, rfl⟩
        exact ⟨set, ⟨hname, hfresh, hopen, htype, haccessor, hset⟩, others, ⟨hpasses, hothers⟩, rfl⟩

section Accepted

variable {names types : List String} {specs : List Spec} {sets : List OperationSet}

/-- Models keep their order and their specs. -/
theorem models_of_forall₂ (h : List.Forall₂ IsSetOf specs sets) : sets.map (·.model) = specs := by
  induction h with
  | nil => rfl
  | cons hset _ ih =>
      obtain ⟨key, -, rfl⟩ := hset
      rw [List.map_cons, ih]
      rfl

/-- Every operation set is that of one of the specs. -/
theorem isSetOf_of_mem (h : List.Forall₂ IsSetOf specs sets) {set : OperationSet}
    (hset : set ∈ sets) : set.model ∈ specs ∧ IsSetOf set.model set := by
  induction h with
  | nil => exact nomatch hset
  | cons hfirst _ ih =>
      rcases List.mem_cons.mp hset with rfl | hmem
      · obtain ⟨key, hkey, rfl⟩ := hfirst
        exact ⟨List.mem_cons_self, key, hkey, rfl⟩
      · obtain ⟨hmodel, hown⟩ := ih hmem
        exact ⟨List.mem_cons_of_mem _ hmodel, hown⟩

variable (h : checkModels names types specs = .ok sets)

include h

theorem passes_of_checkModels : Passes names types specs := ((checkModels_eq_ok_iff _ _ _ _).mp h).1

theorem models_of_checkModels : sets.map (·.model) = specs :=
  models_of_forall₂ ((checkModels_eq_ok_iff _ _ _ _).mp h).2

/-- An accepted model is one of the specs, and its operations are made from the key that is derived
for it. -/
theorem isSetOf_of_checkModels {set : OperationSet} (hset : set ∈ sets) :
    set.model ∈ specs ∧ IsSetOf set.model set :=
  isSetOf_of_mem ((checkModels_eq_ok_iff _ _ _ _).mp h).2 hset

theorem isModuleName_of_checkModels {set : OperationSet} (hset : set ∈ sets) :
    isModuleName set.model.name = true :=
  (passes_of_checkModels h).modelNames _ (isSetOf_of_checkModels h hset).1

theorem isOpenType_of_checkModels {set : OperationSet} (hset : set ∈ sets) :
    IsOpenType set.model.typeName :=
  (passes_of_checkModels h).openTypes _ (isSetOf_of_checkModels h hset).1

/-- The names of the types of a module are those that its specs take. -/
theorem flatMap_ownTypes_of_checkModels : sets.flatMap ownTypes = specs.flatMap takenTypes := by
  rw [← models_of_checkModels h, List.flatMap_map]
  rfl

end Accepted

/-! ### Settings -/

theorem check_eq_ok_iff (setting : Setting) (valid : String → Bool) (value : String) (u : Unit) :
    Config.check setting valid value = .ok u ↔ valid value = true := by
  unfold Config.check
  split
  · next hvalid => simp [hvalid]
  · next hvalid => simp [hvalid]

theorem check_eq_error_iff (setting : Setting) (valid : String → Bool) (value : String)
    (e : GenerateError) :
    Config.check setting valid value = .error e ↔
      valid value = false ∧ .invalidSetting setting value = e := by
  unfold Config.check
  split
  · next hvalid => simp [hvalid]
  · next hvalid => simp [hvalid]

theorem validate_eq_ok_iff (c : Config) :
    c.validate = .ok () ↔
      isPath c.modelsModule = true ∧ isPath c.runtimeCrate = true ∧
        isModuleName c.factoryName = true ∧ isTypeName c.clientType = true ∧
        ∀ name ∈ c.typeAlias, isTypeName name = true ∧ name ≠ c.clientType := by
  simp only [Config.validate, bind_eq_ok_iff, check_eq_ok_iff]
  cases c.typeAlias with
  | none => simp [pure, Except.pure]
  | some name => simp [check_eq_ok_iff]

theorem clashes_eq_false_iff (models : List OperationSet) (name : String) :
    clashes models name = false ↔ name ∉ models.flatMap ownTypes := by
  constructor
  · intro h hmem
    obtain ⟨set, hset, hname⟩ := List.mem_flatMap.mp hmem
    rw [clashes, List.any_eq_false] at h
    rcases List.mem_pair.mp hname with rfl | rfl
    · exact h set hset (by simp)
    · exact h set hset (by simp)
  · intro h
    rw [clashes, List.any_eq_false]
    intro set hset hsame
    refine h (List.mem_flatMap.mpr ⟨set, hset, List.mem_pair.mpr ?_⟩)
    rw [Bool.or_eq_true, beq_iff_eq, beq_iff_eq] at hsame
    exact hsame.imp Eq.symm Eq.symm

theorem checkClientNames_eq_ok_iff (models : List OperationSet) (c : Config) :
    checkClientNames models c = .ok () ↔
      c.clientType ∉ models.flatMap ownTypes ∧
        ∀ name ∈ c.typeAlias, name ∉ models.flatMap ownTypes := by
  simp only [← clashes_eq_false_iff, checkClientNames]
  cases hclient : clashes models c.clientType with
  | true => simp [throw, throwThe, MonadExceptOf.throw, bind, Except.bind]
  | false =>
      cases c.typeAlias with
      | none => simp [pure, Except.pure]
      | some name =>
          cases halias : clashes models name with
          | true => simp [halias, throw, throwThe, MonadExceptOf.throw]
          | false => simp [halias, pure, Except.pure]

/-! ### The whole assembly -/

theorem assemble_eq_ok_iff (specs : List Spec) (c : Config) (m : ModuleDef) :
    ModuleDef.assemble specs c = .ok m ↔
      c.validate = .ok () ∧ ∃ models, checkModels [] [] specs = .ok models ∧
        checkClientNames models c = .ok () ∧ ModuleDef.ofSets models c = m := by
  simp only [ModuleDef.assemble, bind_eq_ok_iff, pure, Except.pure, Except.ok.injEq]
  constructor
  · rintro ⟨⟨⟩, hvalid, models, hmodels, ⟨⟩, hclient, hm⟩
    exact ⟨hvalid, models, hmodels, hclient, hm⟩
  · rintro ⟨hvalid, models, hmodels, hclient, hm⟩
    exact ⟨(), hvalid, models, hmodels, (), hclient, hm⟩

/-- The names of the types that a module declares for its client. -/
def clientTypes (m : ModuleDef) : List String := m.clientType :: m.typeAlias.toList

/-- What assembly makes sure of about the names of a module: each is a name of its kind, the types
of models are not reserved, and all types have names of their own. -/
structure WellNamed (m : ModuleDef) : Prop where
  models : ∀ set ∈ m.models, IsOpenType set.model.typeName
  client : ∀ name ∈ clientTypes m, isTypeName name = true
  factory : isModuleName m.factoryName = true
  nodup : (m.models.flatMap ownTypes ++ clientTypes m).Nodup

theorem wellNamed_of_assemble {specs : List Spec} {c : Config} {m : ModuleDef}
    (h : ModuleDef.assemble specs c = .ok m) : WellNamed m := by
  obtain ⟨hvalid, models, hmodels, hclient, rfl⟩ := (assemble_eq_ok_iff _ _ _).mp h
  obtain ⟨-, -, hfactory, htype, halias⟩ := (validate_eq_ok_iff c).mp hvalid
  obtain ⟨hclient, hother⟩ := (checkClientNames_eq_ok_iff _ _).mp hclient
  have hnames : ∀ name ∈ clientTypes (ModuleDef.ofSets models c),
      name = c.clientType ∨ name ∈ c.typeAlias := by
    intro name hname
    exact (List.mem_cons.mp hname).imp_right Option.mem_toList.mp
  refine ⟨fun _ => isOpenType_of_checkModels hmodels, ?_, hfactory, ?_⟩
  · intro name hname
    rcases hnames name hname with rfl | hmem
    · exact htype
    · exact (halias name hmem).1
  · have hnodup : (models.flatMap ownTypes).Nodup := by
      rw [flatMap_ownTypes_of_checkModels hmodels]
      exact (passes_of_checkModels hmodels).distinctTypes
    refine List.Nodup.append hnodup ?_ ?_
    · rw [clientTypes, ModuleDef.ofSets]
      cases hcase : c.typeAlias with
      | none => exact List.nodup_singleton _
      | some name =>
          have hne : name ≠ c.clientType := (halias name hcase).2
          simpa using hne.symm
    · intro name hmodel hname
      rcases hnames name hname with rfl | hmem
      · exact hclient hmodel
      · exact hother name hmem hmodel

end DocAccess.Generate
