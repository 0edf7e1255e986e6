import DocAccess.Proofs.Emission.Names

/-!
# Where emitted identifiers stand

The names of models, client and keys stand where names are declared, and each of them may be.  All
other words of an emitted module are fixed, and stand where they may.  So nothing but the paths of
the imports can make an emitted module invalid.
-/

namespace DocAccess.Code

theorem Ident.opensType_of_isDeclarable {i : Ident} (h : i.isDeclarable = true) :
    i.opensType = true := by
  rw [Ident.opensType, h, Bool.true_or]

theorem Ident.isImportable_of_isDeclarable {i : Ident} (h : i.isDeclarable = true) :
    i.isImportable = true := by
  rw [Ident.isImportable, h, Bool.true_or]

theorem Ty.isValid_ofIdent {i : Ident} (h : i.isDeclarable = true) :
    (Ty.ofIdent i).isValid = true := by
  rw [Ty.ofIdent, Ty.isValid, Ident.opensType_of_isDeclarable h, areValidTypes, Bool.and_self]

theorem areValid_iff (es : List Expr) : areValid es = true ↔ ∀ e ∈ es, e.isValid = true := by
  induction es with
  | nil => simp [areValid]
  | cons e es ih => simp [areValid, ih]

theorem areValidFields_iff (fs : List (Ident × Option Expr)) :
    areValidFields fs = true ↔ ∀ f ∈ fs, isValidField f = true := by
  induction fs with
  | nil => simp [areValidFields]
  | cons f fs ih => simp [areValidFields, ih]

end DocAccess.Code

namespace DocAccess.Emission

open DocAccess.Code DocAccess.Generate DocAccess.Operations

/-! ### Accessors -/

namespace Names

/-- Whether every identifier of a model may be declared. -/
structure Declarable (n : Names) : Prop where
  field : n.field.isDeclarable = true
  entity : n.entity.isDeclarable = true
  accessor : n.accessor.isDeclarable = true
  keyParam : n.keyParam.isDeclarable = true
  byKey : n.byKey.isDeclarable = true

variable {n : Names} (h : n.Declarable)

include h

theorem isValid_entityType : n.entityType.isValid = true := Ty.isValid_ofIdent h.entity

theorem isDeclarable_methodName (kind : Kind) : (n.methodName kind).isDeclarable = true := by
  cases kind with
  | readAllByKey => exact h.byKey
  | _ => rfl

theorem isValid_param (p : Param) :
    (n.param p).1.isDeclarable = true ∧ (n.param p).2.isValid = true := by
  have htext : borrowedText.isValid = true := by decide +kernel
  cases p with
  | partitionKey => exact ⟨h.keyParam, htext⟩
  | body => exact ⟨rfl, isValid_entityType h⟩
  | _ => exact ⟨rfl, rfl⟩

theorem isValid_returns (r : Returns) : (n.returns r).isValid = true := by
  have hentity := isValid_entityType h
  cases r with
  | entity | optionalEntity | entities =>
      simp [returns, fallible, Ty.ofWord, Ty.isValid, areValidTypes, hentity, Ident.opensType,
        Ident.isDeclarable, Ident.ofWord, Source.keywords]
  | documents | unit => rfl

theorem isValid_keyArg : n.keyArg.isValid = true := by
  rw [keyArg, Expr.isValid, Ident.opensType_of_isDeclarable h.keyParam]

theorem isValid_readArgs : areValid n.readArgs = true := by
  have hkey := isValid_keyArg h
  have hid : (Expr.ofWord "id").isValid = true := by decide +kernel
  have hoptions : (Expr.ofWord "options").isValid = true := by decide +kernel
  cases hidentity : n.set.key.isIdentity with
  | true => simp [readArgs, hidentity, areValid, hid, hoptions]
  | false => simp [readArgs, hidentity, areValid, hid, hoptions, hkey]

theorem isValid_body (kind : Kind) : (n.body kind).all Stmt.isValid = true := by
  have hentity := isValid_entityType h
  have hkey := isValid_keyArg h
  have hread := isValid_readArgs h
  cases kind with
  | query => rfl
  | _ =>
      simp [body, storing, querying, readBody, readOrErrBody, partitionQuery, fromResource,
        onContainer, container, Stmt.isValid, Expr.isValid, areValid, isValidArgument, hentity,
        hkey, hread, Expr.ofWord, Expr.ofWords, Ident.opensType, Ident.isDeclarable, Ident.isOneOf,
        Ident.ofWord, Source.keywords]

theorem isValid_method (o : Operation) : (n.method o).isValid = true := by
  have hparams : (n.method o).params.all (fun p => p.1.isDeclarable && p.2.isValid) = true := by
    rw [List.all_eq_true]
    intro p hp
    obtain ⟨param, -, rfl⟩ := List.mem_map.mp hp
    rw [(isValid_param h param).1, (isValid_param h param).2, Bool.and_self]
  rw [Function.isValid, hparams]
  simp [method, isDeclarable_methodName h, isValid_returns h, isValid_body h]

theorem isValid_accessorItems : n.accessorItems.all Item.isValid = true := by
  have hfixed : n.fixedMembers.all Member.isValid = true := by
    simp [fixedMembers, Member.isValid, Constant.isValid, Function.isValid, Expr.isValid]
    decide +kernel
  have hmethods : (n.set.operations.map (.function ∘ n.method)).all Member.isValid = true := by
    rw [List.all_eq_true]
    intro member hmember
    obtain ⟨o, -, rfl⟩ := List.mem_map.mp hmember
    exact isValid_method h o
  have hfield : (Ident.ofWord "container").isDeclarable = true ∧
      (Ty.ofWord "Container" []).isValid = true := by decide +kernel
  simp [accessorItems, members, Item.isValid, hfixed, hmethods, h.accessor,
    Ident.opensType_of_isDeclarable h.accessor, hfield]

theorem isValid_clientValue : isValidField n.clientValue = true := by
  have haccessor := Ident.opensType_of_isDeclarable h.accessor
  simp [clientValue, isValidField, Expr.isValid, areValid, isValidArgument, h.field, haccessor]
  decide +kernel

end Names

/-! ### The client -/

/-- Whether every identifier of the client may be declared. -/
structure ClientNames.Declarable (c : ClientNames) : Prop where
  type : c.type.isDeclarable = true
  factory : c.factory.isDeclarable = true
  otherName : ∀ i ∈ c.otherName, i.isDeclarable = true

theorem isValid_containerTable (models : List Names) : (containerTable models).isValid = true := by
  have hrows : areValid (models.map Names.containerRow) = true := by
    rw [areValid_iff]
    intro e he
    obtain ⟨n, -, rfl⟩ := List.mem_map.mp he
    rfl
  simp only [containerTable, Constant.isValid, Expr.isValid, hrows]
  rfl

section Client

variable {c : ClientNames} (hc : c.Declarable) {models : List Names}
  (hmodels : ∀ n ∈ models, n.Declarable)

include hmodels in
theorem isValid_clientNew : (clientNew models).isValid = true := by
  have hfields : areValidFields (models.map Names.clientValue) = true := by
    rw [areValidFields_iff]
    intro f hf
    obtain ⟨n, hn, rfl⟩ := List.mem_map.mp hf
    exact Names.isValid_clientValue (hmodels n hn)
  have hparam : ∀ empty : Bool,
      ((databaseParam (if empty then "_database" else "database")).1.isDeclarable &&
        (databaseParam (if empty then "_database" else "database")).2.isValid) = true := by
    decide +kernel
  have hfixed : (Ident.ofWord "new").isDeclarable = true ∧ (Ty.ofWord "Self" []).isValid = true :=
    ⟨rfl, rfl⟩
  simp only [clientNew, Function.isValid, List.all_cons, List.all_nil, Bool.and_true, hparam,
    hfixed, Stmt.isValid, Expr.isValid, hfields]

include hc in
theorem isValid_factory : (factory c).isValid = true := by
  have htype := Ident.opensType_of_isDeclarable hc.type
  simp [factory, Function.isValid, hc.factory, Ty.isValid_ofIdent hc.type, Stmt.isValid,
    Expr.isValid, areValid, isValidArgument, htype]
  decide +kernel

include hc hmodels

theorem isValid_clientItems : (clientItems c models).all Item.isValid = true := by
  have hfields : (models.map Names.clientField).all
      (fun f => f.name.isDeclarable && f.type.isValid) = true := by
    rw [List.all_eq_true]
    intro f hf
    obtain ⟨n, hn, rfl⟩ := List.mem_map.mp hf
    have haccessor := Ty.isValid_ofIdent (hmodels n hn).accessor
    simp [Names.clientField, (hmodels n hn).field, haccessor]
  have halias : (aliasItems c).all Item.isValid = true := by
    cases hname : c.otherName with
    | none => simp [aliasItems, hname]
    | some i =>
        simp [aliasItems, hname, Item.isValid, hc.otherName i hname, Ty.isValid_ofIdent hc.type]
  simp only [clientItems, List.all_append, List.all_cons, List.all_nil, Bool.and_true, Item.isValid,
    Member.isValid, isValid_containerTable models, hc.type, hfields,
    Ident.opensType_of_isDeclarable hc.type, isValid_clientNew hmodels, isValid_factory hc, halias]

/-- Only the paths of imports can make the code of declarable names invalid. -/
theorem isValid_moduleItems_iff (runtime typePath : ImportPath) :
    (moduleItems runtime typePath c models).isValid = true ↔
      runtime.isValid = true ∧ (models ≠ [] → typePath.isValid = true) := by
  have hwords : ∀ names : List String, names = fewRuntimeNames ∨ names = runtimeNames →
      (names.map Ident.ofWord).all Ident.isImportable = true := by
    rintro names (rfl | rfl)
    · decide +kernel
    · decide +kernel
  have hruntime := hwords (if models.isEmpty then fewRuntimeNames else runtimeNames)
    (ite_eq_or_eq _ _ _)
  have haccessors : (models.flatMap Names.accessorItems).all Item.isValid = true := by
    rw [List.all_flatMap, List.all_eq_true]
    exact fun n hn => Names.isValid_accessorItems (hmodels n hn)
  have htypes : (models.map fun n : Names => Item.importOne
      ⟨typePath.rooted, typePath.words ++ [n.field]⟩ n.entity).all Item.isValid = true ↔
        (models ≠ [] → typePath.isValid = true) := by
    -- modules and types are declarable names, so only the path in front of them is open
    have hone : ∀ n ∈ models, (Item.importOne
        ⟨typePath.rooted, typePath.words ++ [n.field]⟩ n.entity).isValid = typePath.isValid := by
      intro n hn
      have hfield := Ident.isImportable_of_isDeclarable (hmodels n hn).field
      have hentity := Ident.isImportable_of_isDeclarable (hmodels n hn).entity
      simp [Item.isValid, ImportPath.isValid, hfield, hentity]
    rw [List.all_map, List.all_eq_true]
    constructor
    · intro hall hne
      obtain ⟨n, hn⟩ := List.exists_mem_of_ne_nil _ hne
      rw [← hone n hn]
      exact hall n hn
    · intro hpath n hn
      rw [Function.comp_apply, hone n hn]
      exact hpath (List.ne_nil_of_mem hn)
  simp only [moduleItems, Module.isValid, List.all_cons, List.all_append, Bool.and_eq_true, htypes,
    haccessors, isValid_clientItems hc hmodels, Item.isValid, hruntime, and_true]

end Client

end DocAccess.Emission
