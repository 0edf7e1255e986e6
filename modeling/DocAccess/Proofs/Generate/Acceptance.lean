import DocAccess.Proofs.Generate.Assembly
import Mathlib.Data.List.Perm.Basic

/-!
# Acceptance without an order

Assembly looks at one model after the other and holds each against the names that are taken so far.
What it asks of a whole list can be said without an order: each model is in order by itself, and no
two names are the same.  So the order of the models may decide which error is found first, but never
whether there is one; in the module it is the order of the operation sets and nothing else.

* `exists_assemble_iff` — when there is a module.
* `Acceptable.perm` — the condition has no order.
* `assemble_orderless` — the result: what is accepted, what the module holds, and what another order
  of the models makes of it.
-/

namespace DocAccess.Generate

open DocAccess.Model DocAccess.Operations DocAccess.Partition DocAccess.Source

/-- What is asked of the path of a model: it is that of a key, and neither name of the key is
reserved unless the key is the identifier. -/
def IsKeyed (s : Spec) : Prop :=
  ∃ key, Key.derive? s.path = .ok key ∧
    (key.isIdentity = false → key.paramName ∉ reservedParams ∧ key.snakeName ∉ reservedParams)

/-- What assembly asks of specs and settings, whatever the order of the specs. -/
structure Acceptable (specs : List Spec) (c : Config) : Prop where
  settings : c.validate = .ok ()
  modelNames : ∀ s ∈ specs, isModuleName s.name = true
  distinctNames : (specs.map (·.name)).Nodup
  openTypes : ∀ s ∈ specs, IsOpenType s.typeName
  distinctTypes : (specs.flatMap takenTypes).Nodup
  keyed : ∀ s ∈ specs, IsKeyed s
  client : c.clientType ∉ specs.flatMap takenTypes
  otherName : ∀ name ∈ c.typeAlias, name ∉ specs.flatMap takenTypes

variable {specs specs' : List Spec} {c : Config}

/-! ### Operation sets -/

theorem exists_isSetOf_iff (s : Spec) : (∃ set, IsSetOf s set) ↔ IsKeyed s := by
  simp only [IsSetOf, IsKeyed, ← keyOf?_eq_ok_iff]
  constructor
  · rintro ⟨_, key, hkey, -⟩
    exact ⟨key, hkey⟩
  · rintro ⟨key, hkey⟩
    exact ⟨_, key, hkey, rfl⟩

/-- There are operation sets of a row of specs if each of them has a key. -/
theorem exists_forall₂_isSetOf_iff (specs : List Spec) :
    (∃ sets, List.Forall₂ IsSetOf specs sets) ↔ ∀ s ∈ specs, IsKeyed s := by
  induction specs with
  | nil => exact ⟨fun _ _ hs => (List.not_mem_nil hs).elim, fun _ => ⟨[], .nil⟩⟩
  | cons s rest ih =>
      rw [List.forall_mem_cons, ← ih, ← exists_isSetOf_iff]
      constructor
      · rintro ⟨_, hsets⟩
        cases hsets with
        | cons hfirst hrest => exact ⟨⟨_, hfirst⟩, _, hrest⟩
      · rintro ⟨⟨set, hset⟩, sets, hsets⟩
        exact ⟨set :: sets, .cons hset hsets⟩

/-- Operation sets of specs in another order are the same sets in another order. -/
theorem forall₂_isSetOf_perm {sets : List OperationSet} (hsets : List.Forall₂ IsSetOf specs sets)
    (hperm : specs.Perm specs') :
    ∃ sets', List.Forall₂ IsSetOf specs' sets' ∧ sets.Perm sets' := by
  obtain ⟨sets', hsets', hsame⟩ := List.perm_comp_forall₂ hperm.symm hsets
  exact ⟨sets', hsets', hsame.symm⟩

/-! ### Assembly -/

/-- Behind no other models, specs pass if each is in order and no name is taken twice. -/
theorem passes_nil_iff (specs : List Spec) :
    Passes [] [] specs ↔
      (∀ s ∈ specs, isModuleName s.name = true) ∧ (∀ s ∈ specs, IsOpenType s.typeName) ∧
        (specs.map (·.name)).Nodup ∧ (specs.flatMap takenTypes).Nodup := by
  constructor
  · rintro ⟨hnames, hopen, hdistinct, -, htypes, -⟩
    exact ⟨hnames, hopen, hdistinct, htypes⟩
  · rintro ⟨hnames, hopen, hdistinct, htypes⟩
    exact ⟨hnames, hopen, hdistinct, fun _ _ => List.not_mem_nil, htypes,
      fun _ _ => List.not_mem_nil⟩

/-- Specs and settings give a module if they are acceptable and each spec has its operation set. -/
theorem assemble_eq_ok_iff_acceptable (m : ModuleDef) :
    ModuleDef.assemble specs c = .ok m ↔
      Acceptable specs c ∧ List.Forall₂ IsSetOf specs m.models ∧
        m = ModuleDef.ofSets m.models c := by
  rw [assemble_eq_ok_iff]
  constructor
  · rintro ⟨hvalid, sets, hsets, hclient, rfl⟩
    have htypes := flatMap_ownTypes_of_checkModels hsets
    obtain ⟨hpasses, hforall⟩ := (checkModels_eq_ok_iff _ _ _ _).mp hsets
    obtain ⟨hnames, hopen, hdistinct, hdistinctTypes⟩ := (passes_nil_iff specs).mp hpasses
    rw [checkClientNames_eq_ok_iff, htypes] at hclient
    have hkeyed := (exists_forall₂_isSetOf_iff specs).mp ⟨sets, hforall⟩
    exact ⟨⟨hvalid, hnames, hdistinct, hopen, hdistinctTypes, hkeyed, hclient.1, hclient.2⟩, hforall,
      rfl⟩
  · rintro ⟨haccept, hforall, hm⟩
    have hpasses := (passes_nil_iff specs).mpr
      ⟨haccept.modelNames, haccept.openTypes, haccept.distinctNames, haccept.distinctTypes⟩
    have hsets := (checkModels_eq_ok_iff [] [] specs m.models).mpr ⟨hpasses, hforall⟩
    refine ⟨haccept.settings, m.models, hsets, ?_, hm.symm⟩
    rw [checkClientNames_eq_ok_iff, flatMap_ownTypes_of_checkModels hsets]
    exact ⟨haccept.client, haccept.otherName⟩

/-- There is a module exactly of what is acceptable. -/
theorem exists_assemble_iff :
    (∃ m, ModuleDef.assemble specs c = .ok m) ↔ Acceptable specs c := by
  simp only [assemble_eq_ok_iff_acceptable]
  constructor
  · rintro ⟨m, haccept, -⟩
    exact haccept
  · intro haccept
    obtain ⟨sets, hsets⟩ := (exists_forall₂_isSetOf_iff specs).mpr haccept.keyed
    exact ⟨ModuleDef.ofSets sets c, haccept, hsets, rfl⟩

/-! ### Other orders -/

theorem Acceptable.perm (h : Acceptable specs c) (hperm : specs.Perm specs') :
    Acceptable specs' c := by
  have hmem : ∀ {P : Spec → Prop}, (∀ s ∈ specs, P s) → ∀ s ∈ specs', P s :=
    fun hall s hs => hall s (hperm.mem_iff.mpr hs)
  have htypes : (specs.flatMap takenTypes).Perm (specs'.flatMap takenTypes) :=
    hperm.flatMap_right takenTypes
  exact
    { settings := h.settings
      modelNames := hmem h.modelNames
      distinctNames := (hperm.map (·.name)).nodup_iff.mp h.distinctNames
      openTypes := hmem h.openTypes
      distinctTypes := htypes.nodup_iff.mp h.distinctTypes
      keyed := hmem h.keyed
      client := fun hclient => h.client (htypes.mem_iff.mpr hclient)
      otherName := fun name hname htaken => h.otherName name hname (htypes.mem_iff.mpr htaken) }

/-- There is a module of specs and settings if and only if the settings are valid, each spec is in
order by itself and no name of a model, a type, an accessor or the client is taken twice; the order
of the specs has no part in that.  The module holds the settings and one operation set for each spec,
in the order of the specs.  So another order of the specs gives a module as well or none as well, and
that module has the same operation sets in another order and is otherwise the same. -/
theorem assemble_orderless (specs : List Spec) (c : Config) :
    ((∃ m, ModuleDef.assemble specs c = .ok m) ↔ Acceptable specs c) ∧
    (∀ m, ModuleDef.assemble specs c = .ok m →
      List.Forall₂ IsSetOf specs m.models ∧ m.models.map (·.model) = specs ∧
        m = ModuleDef.ofSets m.models c) ∧
    ∀ specs', specs.Perm specs' →
      ((∃ m', ModuleDef.assemble specs' c = .ok m') ↔ ∃ m, ModuleDef.assemble specs c = .ok m) ∧
      ∀ m, ModuleDef.assemble specs c = .ok m →
        ∃ models', m.models.Perm models' ∧ models'.map (·.model) = specs' ∧
          ModuleDef.assemble specs' c = .ok { m with models := models' } := by
  refine ⟨exists_assemble_iff, fun m hm => ?_, fun specs' hperm => ⟨?_, fun m hm => ?_⟩⟩
  · obtain ⟨-, hsets, heq⟩ := (assemble_eq_ok_iff_acceptable m).mp hm
    exact ⟨hsets, models_of_forall₂ hsets, heq⟩
  · rw [exists_assemble_iff, exists_assemble_iff]
    exact ⟨fun h => h.perm hperm.symm, fun h => h.perm hperm⟩
  · obtain ⟨haccept, hsets, heq⟩ := (assemble_eq_ok_iff_acceptable m).mp hm
    obtain ⟨models', hsets', hsame⟩ := forall₂_isSetOf_perm hsets hperm
    refine ⟨models', hsame, models_of_forall₂ hsets', ?_⟩
    rw [assemble_eq_ok_iff_acceptable]
    refine ⟨haccept.perm hperm, hsets', ?_⟩
    rw [heq]
    rfl

/-- Comments and users. -/
def commentsAndUsers : List Spec :=
  [⟨"comment", "Comment", "/post/id", none⟩, ⟨"user", "User", "/id", none⟩]

/-- Comments, and a model whose type is named like the accessor of comments. -/
def accessorTwice : List Spec :=
  [⟨"comment", "Comment", "/id", none⟩, ⟨"comment_operations", "CommentOperations", "/id", none⟩]

theorem assemble_orderless_commentsAndUsers :
    (∃ m models', ModuleDef.assemble commentsAndUsers .default = .ok m ∧ m.models.Perm models' ∧
      models'.map (·.model) = commentsAndUsers.reverse ∧
      ModuleDef.assemble commentsAndUsers.reverse .default = .ok { m with models := models' }) ∧
    ¬∃ m, ModuleDef.assemble accessorTwice.reverse .default = .ok m := by
  have hsome : (ModuleDef.assemble commentsAndUsers .default).toOption.isSome = true := by
    decide +kernel
  have htwice : ¬(accessorTwice.flatMap takenTypes).Nodup := by decide
  constructor
  · obtain ⟨m, hm⟩ := Option.isSome_iff_exists.mp hsome
    replace hm := (toOption_eq_some_iff _ _).mp hm
    obtain ⟨-, -, horders⟩ := assemble_orderless commentsAndUsers .default
    obtain ⟨-, hreversed⟩ := horders _ commentsAndUsers.reverse_perm.symm
    obtain ⟨models', hperm, hmodels, hm'⟩ := hreversed m hm
    exact ⟨m, models', hm, hperm, hmodels, hm'⟩
  · obtain ⟨haccepts, -, horders⟩ := assemble_orderless accessorTwice .default
    rw [(horders _ accessorTwice.reverse_perm.symm).1, haccepts]
    exact fun haccept => htwice haccept.distinctTypes

end DocAccess.Generate
