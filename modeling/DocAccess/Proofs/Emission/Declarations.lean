import DocAccess.Proofs.Emission.Identifiers
import DocAccess.Proofs.Emission.Methods
import DocAccess.Proofs.Emission.Scope
import DocAccess.Proofs.Emission.Validity

/-!
# What a module declares

What stands at a path of a generated module: the members of an accessor or of the client, and the
table and the function at the top.  The types of a module have names of their own, and so do the
members of each, so that every path leads to what was emitted for it.
-/

namespace DocAccess.Emission

open DocAccess.Code DocAccess.Generate DocAccess.Operations DocAccess.Partition Program

/-! ### Members of an accessor -/

theorem find?_of_nodup {β γ : Type} [DecidableEq γ] {f : β → γ} {l : List β}
    (hnodup : (l.map f).Nodup) {b : β} (hb : b ∈ l) : l.find? (fun c => f c = f b) = some b := by
  cases hfind : l.find? (fun c => f c = f b) with
  | none => simpa using List.find?_eq_none.mp hfind b hb
  | some c =>
      have hsame : f c = f b := by simpa using List.find?_some hfind
      rw [List.inj_on_of_nodup_map hnodup (List.mem_of_find?_eq_some hfind) hb hsame]

/-- The names of members whose spelling does not depend on the key. -/
def fixedNames : List String :=
  ["CONTAINER", "PARTITION_KEY", "new", "container", "create", "read", "read_or_err", "read_all",
    "replace", "delete", "query"]

/-- What is known of the names of a model that is accepted. -/
structure Accepted (n : Names) : Prop where
  operations : n.set.operations = (kindsFor n.set.key).map (.ofKind n.set.key)
  container : n.set.container = n.set.model.name
  derived : Key.derive? n.set.model.path = .ok n.set.key
  keyApart : KeyApart n
  field : n.field = ⟨n.set.model.name, false⟩
  entity : n.entity = ⟨n.set.model.typeName, false⟩
  accessor : n.accessor = ⟨accessorName n.set.model.typeName, false⟩
  byKey : n.byKey = ⟨"read_all_by_" ++ n.set.key.snakeName, false⟩

theorem eq_of_identOf_byKey {name : String} {i : Ident}
    (h : identOf ("read_all_by_" ++ name) = .ok i) : i = ⟨"read_all_by_" ++ name, false⟩ := by
  refine eq_of_identOf h fun rest hraw => ?_
  rw [String.toList_append] at hraw
  cases hraw

variable {n : Names}

theorem Accepted.byKey_notMem (hn : Accepted n) : n.byKey ∉ fixedNames.map Ident.ofWord := by
  have hnone : ∀ word ∈ fixedNames, ¬"read_all_by_".toList <+: word.toList := by decide
  intro hmem
  obtain ⟨word, hword, heq⟩ := List.mem_map.mp hmem
  refine hnone word hword ⟨n.set.key.snakeName.toList, ?_⟩
  rw [← String.toList_append, (Ident.mk.inj (heq.trans hn.byKey)).1]

/-- No two members of an accessor have one name. -/
theorem Accepted.nodup_members (hn : Accepted n) : (n.members.map Member.name).Nodup := by
  have hall : (n.fixedMembers.map Member.name ++ Kind.all.map n.methodName).Nodup := by
    have hfixed : (fixedNames.map Ident.ofWord).Nodup := by decide
    have hplaced : ((fixedNames.take 8).map Ident.ofWord ++
        n.byKey :: (fixedNames.drop 8).map Ident.ofWord).Nodup :=
      List.nodup_middle.mpr (List.nodup_cons.mpr ⟨hn.byKey_notMem, hfixed⟩)
    exact hplaced
  have hnames : n.members.map Member.name =
      n.fixedMembers.map Member.name ++ (kindsFor n.set.key).map n.methodName := by
    rw [Names.members, List.map_append, hn.operations, List.map_map, List.map_map]
    rfl
  rw [hnames]
  exact hall.sublist ((List.Sublist.refl _).append (List.filter_sublist.map _))

theorem Accepted.ne_self (hn : Accepted n) : n.accessor ≠ .ofWord "Self" := by
  have hsuffix : ¬"Operations".toList <:+ "Self".toList := by decide
  intro hself
  refine hsuffix ⟨n.set.model.typeName.toList, ?_⟩
  rw [← String.toList_append, ← accessorName, (Ident.mk.inj (hn.accessor.symm.trans hself)).1]

/-- The fields of the structure of a name, as an item declares it. -/
def structureNamed? (name : Ident) : Item → Option (List Field)
  | .structure _ owner fields => if owner = name then some fields else none
  | _ => none

/-- The fields of a structure of a module. -/
def fieldsOf? (code : Module) (name : Ident) : Option (List Field) :=
  code.findSome? (structureNamed? name)

/-! ### Paths of a module -/

/-- Whether the types of a module are told apart, and its function from its table. -/
structure Apart (models : List Names) (client : ClientNames) : Prop where
  accessors : (models.map (·.accessor)).Nodup
  type : ∀ n ∈ models, n.accessor ≠ client.type
  factory : client.factory ≠ .ofWord "CONTAINERS"

theorem findSome?_accessorItems (n : Names) (type name : Ident) :
    n.accessorItems.findSome? (memberNamed? type name) =
      if n.accessor = type then n.members.find? (·.name = name) else none := by
  by_cases htype : n.accessor = type
  · cases hfind : n.members.find? (·.name = name) with
    | none => simp [Names.accessorItems, List.findSome?_cons, memberNamed?, htype, hfind]
    | some member => simp [Names.accessorItems, List.findSome?_cons, memberNamed?, htype, hfind]
  · simp [Names.accessorItems, List.findSome?_cons, memberNamed?, htype]

/-- The members of a type that no model has are not among those of the models. -/
theorem findSome?_flatMap_of_ne {models : List Names} {type : Ident}
    (htype : ∀ n ∈ models, n.accessor ≠ type) (name : Ident) :
    (models.flatMap Names.accessorItems).findSome? (memberNamed? type name) = none := by
  induction models with
  | nil => rfl
  | cons first rest ih =>
      rw [List.forall_mem_cons] at htype
      rw [List.flatMap_cons, List.findSome?_append, findSome?_accessorItems, if_neg htype.1,
        ih htype.2]
      rfl

theorem findSome?_flatMap {models : List Names} (hnodup : (models.map (·.accessor)).Nodup)
    (hn : n ∈ models) (name : Ident) :
    (models.flatMap Names.accessorItems).findSome? (memberNamed? n.accessor name) =
      n.members.find? (·.name = name) := by
  induction models with
  | nil => cases hn
  | cons first rest ih =>
      rw [List.map_cons, List.nodup_cons] at hnodup
      rw [List.flatMap_cons, List.findSome?_append, findSome?_accessorItems]
      rcases List.mem_cons.mp hn with rfl | hrest
      · have hothers : ∀ other ∈ rest, other.accessor ≠ n.accessor := fun other hother heq =>
          hnodup.1 (heq ▸ List.mem_map_of_mem hother)
        rw [if_pos rfl, findSome?_flatMap_of_ne hothers, Option.or_none]
      · have hne : first.accessor ≠ n.accessor := fun heq =>
          hnodup.1 (heq ▸ List.mem_map_of_mem hrest)
        rw [if_neg hne, ih hnodup.2 hrest, Option.none_or]

section Paths

variable {models : List Names} {client : ClientNames} (runtime typePath : ImportPath)

/-- Imports declare nothing of their own. -/
theorem findSome?_moduleItems {β : Type} {f : Item → Option β}
    (hmany : ∀ source names, f (.importMany source names) = none)
    (hone : ∀ source name, f (.importOne source name) = none) :
    (moduleItems runtime typePath client models).findSome? f =
      ((models.flatMap Names.accessorItems).findSome? f).or
        ((clientItems client models).findSome? f) := by
  have himports : (models.map fun n =>
      Item.importOne ⟨typePath.rooted, typePath.words ++ [n.field]⟩ n.entity).findSome? f =
        none := by
    simp [List.findSome?_eq_none_iff, hone]
  rw [moduleItems, List.findSome?_cons, hmany, List.findSome?_append, List.findSome?_append]
  dsimp only
  rw [himports, Option.none_or]

/-- The accessors declare nothing at the top but themselves. -/
theorem findSome?_itemNamed (name : Ident) :
    (moduleItems runtime typePath client models).findSome? (itemNamed? name) =
      (clientItems client models).findSome? (itemNamed? name) := by
  have hnone : (models.flatMap Names.accessorItems).findSome? (itemNamed? name) = none := by
    rw [List.findSome?_eq_none_iff]
    intro item hitem
    obtain ⟨n, -, hitem⟩ := List.mem_flatMap.mp hitem
    rcases List.mem_pair.mp hitem with rfl | rfl
    · rfl
    · rfl
  rw [findSome?_moduleItems _ _ (fun _ _ => rfl) (fun _ _ => rfl), hnone, Option.none_or]

theorem declared?_containers :
    declared? (moduleItems runtime typePath client models) [.ofWord "CONTAINERS"] =
      some (.constant (containerTable models)) := by
  rw [declared?, findSome?_itemNamed]
  rfl

variable (h : Apart models client)

include h

theorem declared?_factory :
    declared? (moduleItems runtime typePath client models) [client.factory] =
      some (.function (factory client)) := by
  have htable : (containerTable models).name ≠ client.factory := h.factory.symm
  have hfactory : (factory client).name = client.factory := rfl
  rw [declared?, findSome?_itemNamed]
  simp only [clientItems, List.cons_append, List.findSome?_cons, itemNamed?, if_neg htable,
    if_pos hfactory]

/-- Every member of an accessor stands at its path. -/
theorem declared?_accessor (hn : n ∈ models) (hmembers : (n.members.map Member.name).Nodup)
    {member : Member} (hmember : member ∈ n.members) :
    declared? (moduleItems runtime typePath client models) [n.accessor, member.name] =
      some member := by
  rw [declared?, findSome?_moduleItems _ _ (fun _ _ => rfl) (fun _ _ => rfl),
    findSome?_flatMap h.accessors hn, find?_of_nodup hmembers hmember, Option.some_or]

theorem declared?_new :
    declared? (moduleItems runtime typePath client models) [client.type, .ofWord "new"] =
      some (.function (clientNew models)) := by
  rw [declared?, findSome?_moduleItems _ _ (fun _ _ => rfl) (fun _ _ => rfl),
    findSome?_flatMap_of_ne h.type, Option.none_or]
  simp only [clientItems, List.cons_append, List.findSome?_cons, memberNamed?, if_true]
  rfl

/-- The client has a field for each model. -/
theorem fieldsOf?_client :
    fieldsOf? (moduleItems runtime typePath client models) client.type =
      some (models.map Names.clientField) := by
  have hnone : (models.flatMap Names.accessorItems).findSome? (structureNamed? client.type) =
      none := by
    rw [List.findSome?_eq_none_iff]
    intro item hitem
    obtain ⟨n, hn, hitem⟩ := List.mem_flatMap.mp hitem
    rcases List.mem_pair.mp hitem with rfl | rfl
    · exact if_neg (h.type n hn)
    · rfl
  rw [fieldsOf?, findSome?_moduleItems _ _ (fun _ _ => rfl) (fun _ _ => rfl), hnone,
    Option.none_or]
  simp only [clientItems, List.cons_append, List.findSome?_cons, structureNamed?, if_true]

/-- A program of the module offers each of its models. -/
theorem offers {α : Type} {P : Program α}
    (hcode : P.code = moduleItems runtime typePath client models) (hn : n ∈ models)
    (hmodel : Accepted n) : Offers P n := by
  refine ⟨hmodel.operations, fun member hmember => ?_⟩
  rw [hcode]
  exact declared?_accessor runtime typePath h hn hmodel.nodup_members hmember

end Paths

/-! ### Accepted modules -/

section Accepted

variable {specs : List Model.Spec} {c : Config} {m : ModuleDef} {models : List Names}
  {client : ClientNames}

theorem apart_of_wellNamed (hm : WellNamed m) (h : Spells m models client) :
    Apart models client := by
  have hnodup := (List.nodup_append'.mp hm.nodup)
  have hnames : (models.map (·.entity.name) ++ models.map (·.accessor.name)).Nodup :=
    h.ownTypes_perm.nodup_iff.mpr hnodup.1
  refine ⟨?_, ?_, ?_⟩
  · have haccessors := hnames.of_append_right
    rw [← Function.comp_def Ident.name, ← List.map_map] at haccessors
    exact haccessors.of_map
  · intro n hn heq
    have hmem : n.accessor.name ∈ m.models.flatMap ownTypes :=
      h.ownTypes_perm.mem_iff.mp (List.mem_append_right _ (List.mem_map_of_mem hn))
    refine hnodup.2.2 hmem ?_
    rw [heq, h.type]
    exact List.mem_cons_self
  · intro heq
    have hfactory := hm.factory
    rw [← h.factory, heq] at hfactory
    revert hfactory
    decide

section Set

variable {names types : List String} {sets : List OperationSet}
  (hsets : checkModels names types specs = .ok sets)

include hsets

theorem accepted_of_ofSet (hmem : n.set ∈ sets) (hn : Names.ofSet n.set = .ok n) :
    Accepted n := by
  obtain ⟨-, hkeyParam, hfield, hentity, haccessor, hbyKey⟩ := (ofSet_eq_ok_iff _ _).mp hn
  obtain ⟨-, key, hkey, hsynthesize⟩ := isSetOf_of_checkModels hsets hmem
  have hname := isModuleName_of_checkModels hsets hmem
  have htype := (isOpenType_of_checkModels hsets hmem).1
  obtain rfl : key = n.set.key := congrArg OperationSet.key hsynthesize
  have hderived := derive?_of_keyOf? hkey
  refine ⟨(congrArg OperationSet.operations hsynthesize).symm,
    (congrArg OperationSet.container hsynthesize).symm, hderived, ⟨?_, ?_⟩,
    eq_of_identOf_moduleName hfield hname, eq_of_identOf_typeName hentity htype,
    eq_of_identOf_accessorName haccessor htype, eq_of_identOf_byKey hbyKey⟩
  · intro hidentity
    rw [keyIdent, if_pos hidentity] at hkeyParam
    exact (Except.ok.inj hkeyParam).symm
  · intro hidentity
    exact keyIdent_notMem (Key.plain_of_derive? hderived) hidentity
      (snakeName_of_keyOf? hkey hidentity) hkeyParam

/-- The argument for the key is not spelled like another one, unless it is the identifier. -/
theorem keyParam_name_notMem (hmem : n.set ∈ sets) (hn : Names.ofSet n.set = .ok n)
    (hidentity : n.set.key.isIdentity = false) :
    n.keyParam.name ∉ ["self", "id", "body", "options"] := by
  obtain ⟨-, hkeyParam, -⟩ := (ofSet_eq_ok_iff _ _).mp hn
  obtain ⟨-, key, hkey, hsynthesize⟩ := isSetOf_of_checkModels hsets hmem
  obtain rfl : key = n.set.key := congrArg OperationSet.key hsynthesize
  exact keyIdent_name_notMem (Key.plain_of_derive? (derive?_of_keyOf? hkey)) hidentity
    (snakeName_of_keyOf? hkey hidentity) hkeyParam

theorem accepted_of_namesOf (hmodels : namesOf sets = .ok models) : ∀ n ∈ models, Accepted n := by
  obtain ⟨hset, hnames⟩ := ofSet_of_namesOf hmodels
  intro n hn
  exact accepted_of_ofSet hsets (hset ▸ List.mem_map_of_mem hn) (hnames n hn)

end Set

end Accepted

end DocAccess.Emission
