import DocAccess.Emission.Module
import DocAccess.Proofs.Generate.Assembly
import Mathlib.Data.List.Forall2

/-!
# How emitted names are spelled

Names are made identifiers before code is made of them.  A name that assembly accepts opens no raw
identifier, so that its identifier is spelled as the name is.  The emission of a module is taken
apart here, so that what is shown of the emitted items need not look at how their names are made.
-/

namespace DocAccess.Emission

open DocAccess.Code DocAccess.Generate DocAccess.Operations DocAccess.Source

/-! ### Identifiers -/

theorem identOf_eq_ok_iff (text : String) (i : Ident) :
    identOf text = .ok i ↔ Ident.ofText? text = some i := by
  unfold identOf
  split
  · next j hj => simp [hj]
  · next hnone => simp [hnone]

/-- A text that does not start with the mark of raw identifiers is spelled by its identifier. -/
theorem eq_of_identOf {text : String} {i : Ident} (h : identOf text = .ok i)
    (hplain : ∀ rest, text.toList ≠ 'r' :: '#' :: rest) : i = ⟨text, false⟩ := by
  rw [identOf_eq_ok_iff, Ident.ofText?] at h
  split at h
  · next rest hraw => exact absurd hraw (hplain rest)
  · split at h
    · exact (Option.some.inj h).symm
    · cases h

theorem eq_of_identOf_typeName {text : String} {i : Ident} (h : identOf text = .ok i)
    (htype : isTypeName text = true) : i = ⟨text, false⟩ := by
  refine eq_of_identOf h fun rest hraw => ?_
  simp [isTypeName, hraw] at htype

theorem eq_of_identOf_accessorName {text : String} {i : Ident}
    (h : identOf (accessorName text) = .ok i) (htype : isTypeName text = true) :
    i = ⟨accessorName text, false⟩ := by
  refine eq_of_identOf h fun rest hraw => ?_
  -- the accessor starts with the uppercase letter of the type
  rw [accessorName, String.toList_append] at hraw
  cases hname : text.toList with
  | nil => simp [isTypeName, hname] at htype
  | cons c cs =>
      rw [hname] at hraw
      obtain rfl := (List.cons.inj hraw).1
      simp [isTypeName, hname] at htype

theorem eq_of_identOf_moduleName {text : String} {i : Ident} (h : identOf text = .ok i)
    (hname : isModuleName text = true) : i = ⟨text, false⟩ := by
  refine eq_of_identOf h fun rest hraw => ?_
  simp [isModuleName, Text.isLowercaseName, Text.isPlainName, hraw, Text.isNamePart] at hname

/-! ### The names of models and client -/

theorem ofSet_eq_ok_iff (set : OperationSet) (n : Names) :
    Names.ofSet set = .ok n ↔
      n.set = set ∧ keyIdent set.key = .ok n.keyParam ∧ identOf set.model.name = .ok n.field ∧
        identOf set.model.typeName = .ok n.entity ∧
        identOf (accessorName set.model.typeName) = .ok n.accessor ∧
        identOf ("read_all_by_" ++ set.key.snakeName) = .ok n.byKey := by
  simp only [Names.ofSet, bind_eq_ok_iff, pure, Except.pure, Except.ok.injEq]
  constructor
  · rintro ⟨key, hkey, field, hfield, entity, hentity, accessor, haccessor, byKey, hbyKey, rfl⟩
    exact ⟨rfl, hkey, hfield, hentity, haccessor, hbyKey⟩
  · rintro ⟨rfl, hkey, hfield, hentity, haccessor, hbyKey⟩
    exact ⟨_, hkey, _, hfield, _, hentity, _, haccessor, _, hbyKey, rfl⟩

theorem namesOf_eq_ok_iff (sets : List OperationSet) (models : List Names) :
    namesOf sets = .ok models ↔
      List.Forall₂ (fun set n => Names.ofSet set = .ok n) sets models := by
  induction sets generalizing models with
  | nil => simp [namesOf, eq_comm]
  | cons set sets ih =>
      simp only [namesOf, bind_eq_ok_iff, ih, pure, Except.pure, Except.ok.injEq,
        List.forall₂_cons_left_iff]
      constructor
      · rintro ⟨n, hn, others, hothers, rfl⟩
        exact ⟨n, others, hn, hothers, rfl⟩
      · rintro ⟨n, others, hn, hothers, rfl⟩
        exact ⟨n, hn, others, hothers, rfl⟩

/-- The names of models keep the order of the models that they are made from. -/
theorem ofSet_of_namesOf {sets : List OperationSet} {models : List Names}
    (h : namesOf sets = .ok models) :
    models.map (·.set) = sets ∧ ∀ n ∈ models, Names.ofSet n.set = .ok n := by
  rw [namesOf_eq_ok_iff] at h
  induction h with
  | nil => exact ⟨rfl, fun n hn => (List.not_mem_nil hn).elim⟩
  | @cons set n sets models hn _ ih =>
      obtain rfl := ((ofSet_eq_ok_iff _ _).mp hn).1
      rw [List.map_cons, ih.1, List.forall_mem_cons]
      exact ⟨rfl, hn, ih.2⟩

theorem names_of_ofModule {m : ModuleDef} {client : ClientNames}
    (h : ClientNames.ofModule m = .ok client) :
    identOf m.clientType = .ok client.type ∧ identOf m.factoryName = .ok client.factory ∧
      Option.Rel (fun name i => identOf name = .ok i) m.typeAlias client.otherName := by
  obtain ⟨type, htype, h⟩ := (bind_eq_ok_iff _ _ _).mp h
  obtain ⟨factory, hfactory, h⟩ := (bind_eq_ok_iff _ _ _).mp h
  cases halias : m.typeAlias with
  | none =>
      rw [halias] at h
      obtain rfl := Except.ok.inj h
      exact ⟨htype, hfactory, .none⟩
  | some name =>
      rw [halias] at h
      obtain ⟨other, hother, h⟩ := (bind_eq_ok_iff _ _ _).mp h
      obtain rfl := Except.ok.inj h
      exact ⟨htype, hfactory, .some hother⟩

/-- The emission of a module, one step after the other. -/
theorem codeOf_eq_ok_iff (m : ModuleDef) (code : Module) :
    codeOf m = .ok code ↔
      isPath m.runtimeCrate = true ∧ isPath m.modelsModule = true ∧
        ∃ models, namesOf m.models = .ok models ∧
        ∃ client, ClientNames.ofModule m = .ok client ∧
        ∃ runtime, importPathOf true m.runtimeCrate = .ok runtime ∧
        ∃ typePath, importPathOf (!models.isEmpty) m.modelsModule = .ok typePath ∧
          (moduleItems runtime typePath client models).isValid = true ∧
          moduleItems runtime typePath client models = code := by
  have hlast : ∀ code' : Module,
      (if code'.isValid then .ok code' else throw (.error .render) : Outcome Module) = .ok code ↔
        code'.isValid = true ∧ code' = code := by
    intro code'
    split
    · next hvalid => simp [hvalid]
    · next hvalid => simp [hvalid, throw, throwThe, MonadExceptOf.throw]
  simp only [codeOf, pure, Except.pure]
  split
  · next hpaths =>
      constructor
      · intro h
        cases h
      · rintro ⟨hruntime, hmodels, -⟩
        simp [hruntime, hmodels] at hpaths
  · next hpaths =>
      simp only [Bool.or_eq_true, Bool.not_eq_true', not_or, Bool.not_eq_false] at hpaths
      simp only [bind_eq_ok_iff, hlast, hpaths, true_and]

/-! ### Spelling -/

/-- Whether the identifiers of an emission are spelled like the names that they are made from. -/
structure Spells (m : ModuleDef) (models : List Names) (client : ClientNames) : Prop where
  entities : models.map (·.entity.name) = m.models.map (·.model.typeName)
  accessors : models.map (·.accessor.name) = m.models.map (accessorName ·.model.typeName)
  type : client.type.name = m.clientType
  factory : client.factory.name = m.factoryName
  otherName : client.otherName.map Ident.name = m.typeAlias

theorem Spells.isEmpty {m : ModuleDef} {models : List Names} {client : ClientNames}
    (h : Spells m models client) : models.isEmpty = m.models.isEmpty := by
  have hempty := congrArg List.isEmpty h.entities
  rwa [List.isEmpty_map, List.isEmpty_map] at hempty

/-- The names of items and accessors are those that the models are accepted with. -/
theorem names_of_namesOf {sets : List OperationSet} {models : List Names}
    (hnames : namesOf sets = .ok models) (hopen : ∀ set ∈ sets, IsOpenType set.model.typeName) :
    models.map (·.entity.name) = sets.map (·.model.typeName) ∧
      models.map (·.accessor.name) = sets.map (accessorName ·.model.typeName) := by
  rw [namesOf_eq_ok_iff] at hnames
  induction hnames with
  | nil => exact ⟨rfl, rfl⟩
  | @cons set n sets models hn _ ih =>
      obtain ⟨hentities, haccessors⟩ := ih fun other hother =>
        hopen other (List.mem_cons_of_mem _ hother)
      obtain ⟨-, -, -, hentity, haccessor, -⟩ := (ofSet_eq_ok_iff _ _).mp hn
      have htype := (hopen set List.mem_cons_self).1
      rw [List.map_cons, List.map_cons, List.map_cons, List.map_cons, hentities, haccessors,
        eq_of_identOf_typeName hentity htype, eq_of_identOf_accessorName haccessor htype]
      exact ⟨rfl, rfl⟩

theorem otherName_of_rel {typeAlias : Option String} {otherName : Option Ident}
    (h : Option.Rel (fun name i => identOf name = .ok i) typeAlias otherName)
    (htype : ∀ name ∈ typeAlias, isTypeName name = true) :
    otherName.map Ident.name = typeAlias := by
  cases h with
  | none => rfl
  | some hident => rw [eq_of_identOf_typeName hident (htype _ rfl), Option.map_some]

/-- What assembly accepts is spelled as it is named. -/
theorem spells_of_wellNamed {m : ModuleDef} (hm : WellNamed m) {models : List Names}
    {client : ClientNames} (hmodels : namesOf m.models = .ok models)
    (hclient : ClientNames.ofModule m = .ok client) : Spells m models client := by
  obtain ⟨htype, hfactory, hother⟩ := names_of_ofModule hclient
  obtain ⟨hentities, haccessors⟩ := names_of_namesOf hmodels hm.models
  refine ⟨hentities, haccessors, ?_, ?_, ?_⟩
  · rw [eq_of_identOf_typeName htype (hm.client _ List.mem_cons_self)]
  · rw [eq_of_identOf_moduleName hfactory hm.factory]
  · refine otherName_of_rel hother fun name hname => hm.client name ?_
    exact List.mem_cons_of_mem _ (Option.mem_toList.mpr hname)

end DocAccess.Emission
