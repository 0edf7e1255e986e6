import DocAccess.Proofs.Emission.Identifiers
import DocAccess.Proofs.Emission.Scope
import DocAccess.Proofs.Emission.Validity
import DocAccess.Proofs.Source.Path

/-!
# When a module has a source text

Assembly asks whether a name or a path reads as what it is meant to be; emission makes identifiers
of names and imports of paths.  The two agree on the names of models, keys and functions.  They
differ on names of types that have blanks or comments around them, and on paths that have type
arguments or go through the type that the code belongs to.  So an assembled module has a source text
exactly if none of its names and paths is of that kind.
-/

namespace DocAccess.Emission

open DocAccess.Code DocAccess.Generate DocAccess.Model DocAccess.Operations DocAccess.Partition
open DocAccess.Source

/-! ### One model -/

/-- What assembly makes sure of about the names that identifiers are made of. -/
structure Nameable (set : OperationSet) : Prop where
  name : isModuleName set.model.name = true
  type : isTypeName set.model.typeName = true
  key : set.key.Plain

theorem nameable_of_assemble {specs : List Spec} {c : Config} {m : ModuleDef}
    (h : ModuleDef.assemble specs c = .ok m) : ∀ set ∈ m.models, Nameable set := by
  obtain ⟨-, models, hmodels, -, rfl⟩ := (assemble_eq_ok_iff _ _ _).mp h
  intro set hset
  obtain ⟨-, key, hkey, hsynthesize⟩ := isSetOf_of_checkModels hmodels hset
  obtain rfl : key = set.key := congrArg OperationSet.key hsynthesize
  exact ⟨isModuleName_of_checkModels hmodels hset, (isOpenType_of_checkModels hmodels hset).1,
    Key.plain_of_derive? (derive?_of_keyOf? hkey)⟩

/-- The identifiers of a model can be made if its type is spelled like a word. -/
theorem exists_ofSet_iff {set : OperationSet} (h : Nameable set) :
    (∃ n, Names.ofSet set = .ok n) ↔ Ident.isWord set.model.typeName = true := by
  constructor
  · rintro ⟨n, hn⟩
    obtain ⟨-, -, -, hentity, -, -⟩ := (ofSet_eq_ok_iff _ _).mp hn
    exact (exists_identOf_iff (ne_rawOpening_of_isTypeName h.type)).mp ⟨_, hentity⟩
  · intro hword
    obtain ⟨key, hkey, -⟩ := exists_keyIdent h.key
    obtain ⟨field, hfield, -⟩ := declares_moduleName h.name
    obtain ⟨accessor, haccessor, -⟩ := declares_accessorName hword
    obtain ⟨byKey, hbyKey, -⟩ := declares_byKey h.key
    exact ⟨⟨set, field, _, accessor, key, byKey⟩, (ofSet_eq_ok_iff _ _).mpr
      ⟨rfl, hkey, hfield, identOf_of_isWord hword, haccessor, hbyKey⟩⟩

/-- Once they are made, the identifiers of a model may be declared. -/
theorem declarable_of_ofSet {set : OperationSet} (h : Nameable set) {n : Names}
    (hn : Names.ofSet set = .ok n) : n.Declarable := by
  have hword := (exists_ofSet_iff h).mp ⟨n, hn⟩
  obtain ⟨-, hkey, hfield, hentity, haccessor, hbyKey⟩ := (ofSet_eq_ok_iff _ _).mp hn
  obtain ⟨key, hkey', hdeclarable⟩ := exists_keyIdent h.key
  obtain rfl : key = n.keyParam := Except.ok.inj (hkey'.symm.trans hkey)
  exact ⟨(declares_moduleName h.name).isDeclarable hfield,
    ((declares_typeName_iff h.type).mpr hword).isDeclarable hentity,
    (declares_accessorName hword).isDeclarable haccessor, hdeclarable,
    (declares_byKey h.key).isDeclarable hbyKey⟩

/-! ### All models and the client -/

theorem exists_namesOf_iff {sets : List OperationSet} (h : ∀ set ∈ sets, Nameable set) :
    (∃ models, namesOf sets = .ok models) ↔
      ∀ set ∈ sets, Ident.isWord set.model.typeName = true := by
  simp only [namesOf_eq_ok_iff]
  induction sets with
  | nil => simp
  | cons set sets ih =>
      have hfirst := exists_ofSet_iff (h set List.mem_cons_self)
      have hothers := ih fun other hother => h other (List.mem_cons_of_mem _ hother)
      rw [List.forall_mem_cons, ← hfirst, ← hothers]
      constructor
      · rintro ⟨_, hmodels⟩
        cases hmodels with
        | cons hn hmodels => exact ⟨⟨_, hn⟩, ⟨_, hmodels⟩⟩
      · rintro ⟨⟨n, hn⟩, models, hmodels⟩
        exact ⟨n :: models, .cons hn hmodels⟩

theorem declarable_of_namesOf {sets : List OperationSet} {models : List Names}
    (h : ∀ set ∈ sets, Nameable set) (hmodels : namesOf sets = .ok models) :
    ∀ n ∈ models, n.Declarable := by
  rw [namesOf_eq_ok_iff] at hmodels
  induction hmodels with
  | nil => exact fun n hn => absurd hn List.not_mem_nil
  | @cons set n sets models hn _ ih =>
      rw [List.forall_mem_cons] at h ⊢
      exact ⟨declarable_of_ofSet h.1 hn, ih h.2⟩

section Client

variable {m : ModuleDef} (hclient : ∀ name ∈ clientTypes m, isTypeName name = true)
  (hfactory : isModuleName m.factoryName = true)

include hclient hfactory

theorem exists_ofModule_iff :
    (∃ client, ClientNames.ofModule m = .ok client) ↔
      ∀ name ∈ clientTypes m, Ident.isWord name = true := by
  have hident : ∀ name ∈ clientTypes m,
      (∃ i, identOf name = .ok i) ↔ Ident.isWord name = true :=
    fun name hname => exists_identOf_iff (ne_rawOpening_of_isTypeName (hclient name hname))
  constructor
  · rintro ⟨client, h⟩ name hname
    obtain ⟨htype, -, hother⟩ := names_of_ofModule h
    rw [← hident name hname]
    rcases List.mem_cons.mp hname with rfl | hmem
    · exact ⟨_, htype⟩
    · have halias : m.typeAlias = some name := Option.mem_toList.mp hmem
      rw [halias] at hother
      generalize client.otherName = other at hother
      cases hother with
      | some hi => exact ⟨_, hi⟩
  · intro hwords
    obtain ⟨factory, hfactory, -⟩ := declares_moduleName hfactory
    have htype := identOf_of_isWord (hwords m.clientType List.mem_cons_self)
    cases halias : m.typeAlias with
    | none => exact ⟨_, by simp [ClientNames.ofModule, htype, hfactory, halias]; rfl⟩
    | some name =>
        have hname := identOf_of_isWord (hwords name (by simp [clientTypes, halias]))
        exact ⟨_, by simp [ClientNames.ofModule, htype, hfactory, halias, hname]; rfl⟩

theorem declarable_of_ofModule {client : ClientNames} (h : ClientNames.ofModule m = .ok client) :
    client.Declarable := by
  have hwords := (exists_ofModule_iff hclient hfactory).mp ⟨client, h⟩
  have hdeclares : ∀ name ∈ clientTypes m, Declares name :=
    fun name hname => (declares_typeName_iff (hclient name hname)).mpr (hwords name hname)
  obtain ⟨htype, hfactory', hother⟩ := names_of_ofModule h
  refine ⟨(hdeclares _ List.mem_cons_self).isDeclarable htype,
    (declares_moduleName hfactory).isDeclarable hfactory', ?_⟩
  intro i hi
  rw [Option.mem_def] at hi
  rw [hi] at hother
  cases halias : m.typeAlias with
  | none =>
      rw [halias] at hother
      cases hother
  | some name =>
      rw [halias] at hother
      cases hother with
      | some hident => exact (hdeclares name (by simp [clientTypes, halias])).isDeclarable hident

end Client

/-! ### The module -/

/-- Whether a path can be imported from: it is one of words, none of which is the type that the code
belongs to. -/
def Importable (path : String) : Prop :=
  ∃ p, ImportPath.ofText? path = some p ∧ selfType ∉ p.words

/-- A path may have type arguments, an import has none. -/
example : isPath "crate::models<u8>" = true ∧ ImportPath.ofText? "crate::models<u8>" = none := by
  decide +kernel

/-- Whether the names of types are spelled like words and the paths can be imported from; the path
of item types does not matter without models. -/
structure Spliceable (m : ModuleDef) : Prop where
  models : ∀ set ∈ m.models, Ident.isWord set.model.typeName = true
  client : ∀ name ∈ clientTypes m, Ident.isWord name = true
  runtime : Importable m.runtimeCrate
  types : m.models ≠ [] → Importable m.modelsModule

theorem importPathOf_eq_ok_iff (path : String) (p : ImportPath) :
    importPathOf true path = .ok p ↔ ImportPath.ofText? path = some p := by
  unfold importPathOf
  cases hpath : ImportPath.ofText? path with
  | none => simp
  | some q => simp

theorem exists_importPathOf_false (path : String) : ∃ p, importPathOf false path = .ok p := by
  unfold importPathOf
  cases ImportPath.ofText? path with
  | none => exact ⟨_, rfl⟩
  | some q => exact ⟨q, rfl⟩

theorem importable_iff {path : String} (hpath : isPath path = true) :
    Importable path ↔ ∃ p, importPathOf true path = .ok p ∧ p.isValid = true := by
  constructor
  · rintro ⟨p, himport, hself⟩
    exact ⟨p, (importPathOf_eq_ok_iff _ _).mpr himport,
      (isValid_iff_of_isPath hpath himport).mpr hself⟩
  · rintro ⟨p, himport, hvalid⟩
    rw [importPathOf_eq_ok_iff] at himport
    exact ⟨p, himport, (isValid_iff_of_isPath hpath himport).mp hvalid⟩

theorem exists_sourceOf_iff (m : ModuleDef) :
    (∃ text, sourceOf m = .ok text) ↔ ∃ code, codeOf m = .ok code := by
  simp only [sourceOf, bind_eq_ok_iff, pure, Except.pure, Except.ok.injEq]
  constructor
  · rintro ⟨-, code, hcode, -⟩
    exact ⟨code, hcode⟩
  · rintro ⟨code, hcode⟩
    exact ⟨_, code, hcode, rfl⟩

/-- A module that assembly accepts has a source text exactly if its names and paths can be spliced
into one: this is all that assembly leaves to emission. -/
theorem exists_source_iff_spliceable {specs : List Spec} {c : Config} {m : ModuleDef}
    (h : ModuleDef.assemble specs c = .ok m) :
    (∃ text, sourceOf m = .ok text) ↔ Spliceable m := by
  have hnames := nameable_of_assemble h
  have hm := wellNamed_of_assemble h
  obtain ⟨htypes, hruntime⟩ : isPath m.modelsModule = true ∧ isPath m.runtimeCrate = true := by
    obtain ⟨hvalid, models, -, -, rfl⟩ := (assemble_eq_ok_iff _ _ _).mp h
    have hsettings := (validate_eq_ok_iff c).mp hvalid
    exact ⟨hsettings.1, hsettings.2.1⟩
  rw [exists_sourceOf_iff]
  constructor
  · rintro ⟨code, hcode⟩
    obtain ⟨-, -, models, hmodels, client, hclient, runtime, himport, typePath, htypePath, hvalid,
      -⟩ := (codeOf_eq_ok_iff m code).mp hcode
    obtain ⟨hruntimeValid, htypesValid⟩ := (isValid_moduleItems_iff
      (declarable_of_ofModule hm.client hm.factory hclient)
      (declarable_of_namesOf hnames hmodels) runtime typePath).mp hvalid
    have hempty := (spells_of_wellNamed hm hmodels hclient).isEmpty
    refine ⟨(exists_namesOf_iff hnames).mp ⟨models, hmodels⟩,
      (exists_ofModule_iff hm.client hm.factory).mp ⟨client, hclient⟩,
      (importable_iff hruntime).mpr ⟨runtime, himport, hruntimeValid⟩, fun hsome => ?_⟩
    rw [← List.isEmpty_eq_false_iff, ← hempty] at hsome
    rw [hsome] at htypePath
    exact (importable_iff htypes).mpr
      ⟨typePath, htypePath, htypesValid (List.isEmpty_eq_false_iff.mp hsome)⟩
  · intro hm'
    obtain ⟨models, hmodels⟩ := (exists_namesOf_iff hnames).mpr hm'.models
    obtain ⟨client, hclient⟩ := (exists_ofModule_iff hm.client hm.factory).mpr hm'.client
    obtain ⟨runtime, himport, hruntimeValid⟩ := (importable_iff hruntime).mp hm'.runtime
    have hempty := (spells_of_wellNamed hm hmodels hclient).isEmpty
    -- without models the path of the item types is not read
    obtain ⟨typePath, htypePath, htypesValid⟩ : ∃ p,
        importPathOf (!models.isEmpty) m.modelsModule = .ok p ∧
          (models ≠ [] → p.isValid = true) := by
      cases hnone : models.isEmpty with
      | true =>
          obtain ⟨p, hp⟩ := exists_importPathOf_false m.modelsModule
          exact ⟨p, hp, fun hsome => absurd (List.isEmpty_iff.mp hnone) hsome⟩
      | false =>
          have hsome := List.isEmpty_eq_false_iff.mp (hempty ▸ hnone)
          obtain ⟨p, hp, hvalid⟩ := (importable_iff htypes).mp (hm'.types hsome)
          exact ⟨p, hp, fun _ => hvalid⟩
    have hvalid := (isValid_moduleItems_iff
      (declarable_of_ofModule hm.client hm.factory hclient)
      (declarable_of_namesOf hnames hmodels) runtime typePath).mpr ⟨hruntimeValid, htypesValid⟩
    exact ⟨_, (codeOf_eq_ok_iff m _).mpr ⟨hruntime, htypes, models, hmodels, client, hclient,
      runtime, himport, typePath, htypePath, hvalid, rfl⟩⟩

/-- With the settings that hold by default the module of users has a source text. -/
theorem exists_source_iff_spliceable_users :
    ∃ m, ModuleDef.assemble userSpecs Config.default = .ok m ∧ Spliceable m ∧
      ∃ text, sourceOf m = .ok text := by
  obtain ⟨m, code, hassemble, hcode, -⟩ :
      ∃ m code, ModuleDef.assemble userSpecs Config.default = .ok m ∧ codeOf m = .ok code ∧ True :=
    exists_code (P := fun _ _ => True) (by decide +kernel)
  have hsource := (exists_sourceOf_iff m).mpr ⟨code, hcode⟩
  exact ⟨m, hassemble, (exists_source_iff_spliceable hassemble).mp hsource, hsource⟩

/-- A blank behind the name of the client is accepted by assembly, but no identifier is made of it:
the module has no source text. -/
theorem no_source_of_blank_client :
    ∃ m, ModuleDef.assemble userSpecs { Config.default with clientType := "Client " } = .ok m ∧
      sourceOf m = .error (.notIdentifier "Client ") := by
  have h :
      (ModuleDef.assemble userSpecs { Config.default with clientType := "Client " }).toOption.map
        (fun m => decide (sourceOf m = .error (.notIdentifier "Client "))) = some true := by
    decide +kernel
  obtain ⟨m, hm, hsource⟩ := Option.map_eq_some_iff.mp h
  exact ⟨m, (toOption_eq_some_iff _ _).mp hm, of_decide_eq_true hsource⟩

end DocAccess.Emission
