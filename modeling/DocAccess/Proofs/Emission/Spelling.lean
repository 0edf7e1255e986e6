import DocAccess.Emission.Module
import DocAccess.Proofs.Checks
import DocAccess.Proofs.Partition.Key
import DocAccess.Store.Basic
import Mathlib.Data.List.Forall2

/-!
# Spellings of one partition path

Of the path to the partition only the segments count.  A key is derived from them, the store splits
a path into them, and generated code spells the path anew from the key.  So neither the slashes
around the segments, nor the file that declares a model, nor the places of the models and the output
can be told from the text of a module.

A result without its spelling is called bare here.  Emission gives the same for a module and for the
bare one; assembly gives modules that are the same when bare.
-/

namespace DocAccess.Model.Spec

/-- Whether two specs declare one model: they have the same names and paths of the same segments. -/
structure Respelled (s s' : Spec) : Prop where
  name : s'.name = s.name
  typeName : s'.typeName = s.typeName
  segments : Text.segments s'.path = Text.segments s.path

/-- A spec with nothing but its names. -/
def bare (s : Spec) : Spec := ⟨s.name, s.typeName, "", none⟩

theorem Respelled.bare {s s' : Spec} (h : Respelled s s') : s'.bare = s.bare := by
  rw [Spec.bare, Spec.bare, h.name, h.typeName]

end DocAccess.Model.Spec

namespace DocAccess.Partition.Key

/-! ### Keys -/

/-- A key is derived from the segments of its path. -/
theorem derive?_congr {path path' : String} (h : Text.segments path' = Text.segments path) :
    derive? path' = derive? path := by
  rw [derive?, derive?, h]

/-- A key is the one that its own path gives. -/
theorem derive?_path {path : String} {key : Key} (h : derive? path = .ok key) :
    derive? key.path = .ok key := by
  have hsegments := segments_path (plain_of_derive? h)
  obtain ⟨-, hne, hplain⟩ := derive?_eq_ok_iff.mp h
  exact derive?_eq_ok_iff.mpr ⟨hsegments.symm, hne, hplain⟩

/-- A container of the store has the segments of a key for its path, however it is spelled. -/
theorem ofPath_of_derive? {path : String} {key : Key} (h : derive? path = .ok key) :
    (Store.Collection.ofPath path).path = key.chain :=
  (derive?_eq_ok_iff.mp h).1.symm

end DocAccess.Partition.Key

namespace DocAccess.Generate

open DocAccess.Model DocAccess.Operations DocAccess.Partition

/-! ### Assembly -/

/-- Whether two errors are the same but for the spelling of a path that they show. -/
inductive SameRefusal : GenerateError → GenerateError → Prop
  | same (e : GenerateError) : SameRefusal e e
  | malformed (model path path' : String) (cause : KeyError) :
      SameRefusal (.malformedKey model path cause) (.malformedKey model path' cause)

/-- The operations of a model with nothing but the names of the model. -/
def bareSet (set : OperationSet) : OperationSet := { set with model := set.model.bare }

/-- A module with nothing but the names of its models. -/
def ModuleDef.bare (m : ModuleDef) : ModuleDef := { m with models := m.models.map bareSet }

variable {s s' : Spec} {specs specs' : List Spec}

theorem alike_keyOf? (h : s.Respelled s') :
    Alike SameRefusal (fun key key' => key' = key) (keyOf? s) (keyOf? s') := by
  unfold keyOf?
  rw [Key.derive?_congr h.segments, h.name]
  cases Key.derive? s.path with
  | error cause => exact .refused (.malformed ..)
  | ok key => exact .refl .same _

theorem alike_checkModel (names types : List String) (h : s.Respelled s') :
    Alike SameRefusal (fun set set' => bareSet set' = bareSet set) (checkModel names types s)
      (checkModel names types s') := by
  unfold checkModel
  rw [h.name, h.typeName]
  -- every check but the one of the path reads the names only
  refine .ite (.same _) (.ite (.same _) (.ite (.same _) (.ite (.same _) ?_)))
  refine (alike_keyOf? h).map ?_
  rintro key _ rfl
  have hcontainer : s'.container = s.container := h.name
  simp only [bareSet, OperationSet.synthesize, h.bare, hcontainer]

theorem alike_checkModels (names types : List String)
    (h : List.Forall₂ Spec.Respelled specs specs') :
    Alike SameRefusal (fun sets sets' => sets'.map bareSet = sets.map bareSet)
      (checkModels names types specs) (checkModels names types specs') := by
  induction h generalizing names types with
  | nil => exact .passed rfl
  | cons hfirst _ ih =>
      unfold checkModels
      refine (alike_checkModel names types hfirst).bind fun set set' hset => ?_
      rw [hfirst.name, hfirst.typeName]
      refine (ih _ _).bind fun sets sets' hsets => ?_
      exact .passed (by rw [List.map_cons, List.map_cons, hset, hsets])

/-- The names of the client are held against the names of the models only. -/
theorem checkClientNames_bare (models : List OperationSet) (c : Config) :
    checkClientNames (models.map bareSet) c = checkClientNames models c := by
  have hclashes : ∀ name, clashes (models.map bareSet) name = clashes models name := by
    intro name
    rw [clashes, clashes, List.any_map]
    rfl
  simp only [checkClientNames, hclashes]

theorem alike_assemble (h : List.Forall₂ Spec.Respelled specs specs') (c : Config)
    (modelsDir outFile : String) :
    Alike SameRefusal (fun m m' => m'.bare = m.bare) (ModuleDef.assemble specs c)
      (ModuleDef.assemble specs' { c with modelsDir, outFile }) := by
  unfold ModuleDef.assemble
  refine .bind_same .same fun _ _ => ?_
  refine (alike_checkModels [] [] h).bind fun sets sets' hsets => ?_
  have hclient : checkClientNames sets' { c with modelsDir, outFile } =
      checkClientNames sets c := by
    rw [← checkClientNames_bare sets', hsets, checkClientNames_bare]
    rfl
  rw [hclient]
  refine .bind_same .same fun _ _ => .passed ?_
  simp only [ModuleDef.ofSets, ModuleDef.bare, hsets]

end DocAccess.Generate

namespace DocAccess.Emission

open DocAccess.Generate DocAccess.Model DocAccess.Operations DocAccess.Partition

/-! ### Emission -/

/-- The names of an accessor with nothing but the names of its model. -/
def Names.bare (n : Names) : Names := { n with set := bareSet n.set }

theorem ofSet_bare (set : OperationSet) :
    Names.ofSet (bareSet set) = Names.bare <$> Names.ofSet set := by
  simp only [Names.ofSet, map_bind]
  rfl

theorem namesOf_bare (sets : List OperationSet) :
    namesOf (sets.map bareSet) = (List.map Names.bare) <$> namesOf sets := by
  induction sets with
  | nil => rfl
  | cons set sets ih =>
      simp only [List.map_cons, namesOf, ofSet_bare, ih, map_bind, bind_map_left]
      rfl

/-- No item of a module shows more of a model than its names. -/
theorem moduleItems_bare (runtime typePath : Code.ImportPath) (c : ClientNames)
    (models : List Names) :
    moduleItems runtime typePath c (models.map Names.bare) =
      moduleItems runtime typePath c models := by
  simp only [moduleItems, clientItems, containerTable, clientNew, List.map_map, List.flatMap_map,
    List.isEmpty_map]
  rfl

theorem codeOf_bare (m : ModuleDef) : codeOf m.bare = codeOf m := by
  have hclient : ClientNames.ofModule m.bare = ClientNames.ofModule m := rfl
  have hmodels : namesOf m.bare.models = List.map Names.bare <$> namesOf m.models :=
    namesOf_bare m.models
  unfold codeOf
  simp only [hclient, hmodels, bind_map_left, moduleItems_bare, List.isEmpty_map]
  rfl

theorem sourceOf_bare (m : ModuleDef) : sourceOf m.bare = sourceOf m := by
  have hlength : m.bare.models.length = m.models.length := List.length_map _
  rw [sourceOf, sourceOf, codeOf_bare, hlength]

/-- A key is the one that its own path gives, and the store splits that path and the one that it was
derived from into its segments.  Specs that differ in nothing but the spelling of their paths and in
the files that declare them, under settings that differ in no more than the places of the models and
of the output, are refused for one reason, or give one text. -/
theorem spelling_unseen :
    (∀ path key, Key.derive? path = .ok key →
      Key.derive? key.path = .ok key ∧ (Store.Collection.ofPath path).path = key.chain ∧
        (Store.Collection.ofPath key.path).path = key.chain) ∧
    ∀ (specs specs' : List Spec) (c : Config) (modelsDir outFile : String),
      List.Forall₂ Spec.Respelled specs specs' →
        Alike SameRefusal (fun m m' => sourceOf m' = sourceOf m) (ModuleDef.assemble specs c)
          (ModuleDef.assemble specs' { c with modelsDir, outFile }) := by
  constructor
  · intro path key hkey
    have hpath := Key.derive?_path hkey
    exact ⟨hpath, Key.ofPath_of_derive? hkey, Key.ofPath_of_derive? hpath⟩
  · intro specs specs' c modelsDir outFile hspecs
    refine (alike_assemble hspecs c modelsDir outFile).imp fun m m' hbare => ?_
    rw [← sourceOf_bare m', hbare, sourceOf_bare]

/-- A model of users by tenant. -/
def tenantUsers : Spec := ⟨"users", "User", "//profile/tenant/", none⟩

/-- The same model as a file declares it. -/
def tenantUsersOfFile : Spec :=
  ⟨"users", "User", "profile//tenant", some "src/models/users.rs"⟩

theorem spelling_unseen_tenantUsers :
    Key.derive? tenantUsers.path = .ok ⟨["profile", "tenant"]⟩ ∧
      Key.derive? "/profile/tenant" = .ok ⟨["profile", "tenant"]⟩ ∧
      ∃ m m' text, ModuleDef.assemble [tenantUsers] .default = .ok m ∧
        ModuleDef.assemble [tenantUsersOfFile]
          { Config.default with modelsDir := "models", outFile := "out.rs" } = .ok m' ∧
        sourceOf m = .ok text ∧ sourceOf m' = .ok text := by
  have hkey : Key.derive? tenantUsers.path = .ok ⟨["profile", "tenant"]⟩ := by decide +kernel
  have hpath : Key.path ⟨["profile", "tenant"]⟩ = "/profile/tenant" := by decide +kernel
  have hrespelled : tenantUsers.Respelled tenantUsersOfFile := ⟨rfl, rfl, by decide +kernel⟩
  have hrendered : ((ModuleDef.assemble [tenantUsers] .default).toOption.bind
      fun m => (sourceOf m).toOption).isSome = true := by decide +kernel
  obtain ⟨text, hrendered⟩ := Option.isSome_iff_exists.mp hrendered
  obtain ⟨m, hm, htext⟩ := Option.bind_eq_some_iff.mp hrendered
  rw [toOption_eq_some_iff] at hm htext
  have halike := spelling_unseen.2 [tenantUsers] [tenantUsersOfFile] .default "models" "out.rs"
    (.cons hrespelled .nil)
  rw [hm] at halike
  obtain ⟨m', hm', hsource⟩ := halike.exists_of_ok
  exact ⟨hkey, hpath ▸ (spelling_unseen.1 _ _ hkey).1, m, m', text, hm, hm', htext,
    hsource.trans htext⟩

end DocAccess.Emission
