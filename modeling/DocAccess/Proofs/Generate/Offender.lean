import DocAccess.Proofs.Generate.Acceptance

/-!
# The first offender

A spec offends behind others if it is not in order by itself or takes a name that one of them has.
Assembly stops at the first spec that offends, and the error is that of the first check that this
spec fails.  The error belongs to the model of that spec in all cases but one: an error about a
model name shows the name as that of a file, and belongs to no model.

* `checkModels_eq_error_iff` — where the row of checks stops, and with which error.
* `first_offender_refused` — the result for a whole assembly.
* `refusal_without_model` — an offender that the error does not belong to.
-/

namespace DocAccess.Generate

open DocAccess.Model DocAccess.Operations DocAccess.Partition DocAccess.Source

/-! ### Offenders -/

/-- Whether a spec is in order by itself. -/
structure InOrder (s : Spec) : Prop where
  name : isModuleName s.name = true
  type : IsOpenType s.typeName
  keyed : IsKeyed s

/-- Whether a spec takes the name of a model, a type or an accessor of earlier ones. -/
def Conflicts (earlier : List Spec) (s : Spec) : Prop :=
  s.name ∈ earlier.map (·.name) ∨ ∃ name ∈ takenTypes s, name ∈ earlier.flatMap takenTypes

/-- Whether a spec is not in order by itself or conflicts with earlier ones. -/
def Offends (earlier : List Spec) (s : Spec) : Prop := ¬InOrder s ∨ Conflicts earlier s

/-- The first of some specs that offends behind earlier ones, and the specs in front of it. -/
structure FirstOffender (earlier specs before : List Spec) (s : Spec) : Prop where
  split : ∃ after, specs = before ++ s :: after
  clean : ∀ pre x post, before = pre ++ x :: post → ¬Offends (earlier ++ pre) x
  offends : Offends (earlier ++ before) s

/-! ### Refusals -/

/-- The error with which a spec is refused behind earlier ones: that of the first check it fails. -/
inductive Refused (earlier : List Spec) (s : Spec) : GenerateError → Prop
  | name (hname : isModuleName s.name = false) : Refused earlier s (.invalidModelName s.name)
  | duplicate (hname : isModuleName s.name = true) (hold : s.name ∈ earlier.map (·.name)) :
      Refused earlier s (.duplicateModel s.name)
  | type (hname : isModuleName s.name = true) (hnew : s.name ∉ earlier.map (·.name))
      (htype : isTypeName s.typeName = false) :
      Refused earlier s (.invalidTypeName s.name s.typeName)
  | taken (hname : isModuleName s.name = true) (hnew : s.name ∉ earlier.map (·.name))
      (htype : isTypeName s.typeName = true)
      (htaken : s.typeName ∈ reservedTypes ∨
        ∃ name ∈ takenTypes s, name ∈ earlier.flatMap takenTypes) :
      Refused earlier s (.reservedType s.name s.typeName)
  | malformed {cause : KeyError} (hname : isModuleName s.name = true)
      (hfree : ¬Conflicts earlier s) (hopen : IsOpenType s.typeName)
      (hpath : Key.derive? s.path = .error cause) :
      Refused earlier s (.malformedKey s.name s.path cause)
  | reserved {key : Key} (hname : isModuleName s.name = true) (hfree : ¬Conflicts earlier s)
      (hopen : IsOpenType s.typeName) (hkey : Key.derive? s.path = .ok key)
      (hidentity : key.isIdentity = false)
      (hparam : key.paramName ∈ reservedParams ∨ key.snakeName ∈ reservedParams) :
      Refused earlier s (.reservedKey s.name key.paramName)

variable {earlier specs before : List Spec} {names types : List String} {s : Spec}
  {e : GenerateError} {c : Config}

namespace Refused

/-- An error belongs to the model that is refused, unless it is about the name of the model. -/
theorem model?_eq (h : Refused earlier s e) :
    e.model? = if isModuleName s.name then some s.name else none := by
  cases h with
  | name hname => rw [hname]; rfl
  | duplicate hname | type hname | taken hname | malformed hname | reserved hname =>
      rw [hname]; rfl

end Refused

/-! ### One model -/

/-- Whether names are exactly those that earlier specs have taken. -/
structure Taken (earlier : List Spec) (names types : List String) : Prop where
  names : ∀ name, name ∈ names ↔ name ∈ earlier.map (·.name)
  types : ∀ name, name ∈ types ↔ name ∈ earlier.flatMap takenTypes

theorem taken_self (earlier : List Spec) :
    Taken earlier (earlier.map (·.name)) (earlier.flatMap takenTypes) :=
  ⟨fun _ => Iff.rfl, fun _ => Iff.rfl⟩

theorem Taken.concat (h : Taken earlier names types) (s : Spec) :
    Taken (earlier ++ [s]) (s.name :: names) (s.typeName :: accessorName s.typeName :: types) where
  names name := by simp [h.names name, or_comm]
  types name := by
    simp only [List.mem_cons, h.types name, List.flatMap_append, List.mem_append,
      List.flatMap_singleton, takenTypes, List.not_mem_nil, or_false]
    tauto

/-- The error of the key of a model. -/
theorem keyOf?_eq_error_iff :
    keyOf? s = .error e ↔
      (∃ cause, Key.derive? s.path = .error cause ∧ .malformedKey s.name s.path cause = e) ∨
        ∃ key, Key.derive? s.path = .ok key ∧ key.isIdentity = false ∧
          (key.paramName ∈ reservedParams ∨ key.snakeName ∈ reservedParams) ∧
          .reservedKey s.name key.paramName = e := by
  unfold keyOf?
  cases Key.derive? s.path with
  | error cause => simp
  | ok key =>
      simp only [ite_error_eq_error_iff, Bool.and_eq_true, Bool.not_eq_true', Bool.or_eq_true,
        List.contains_iff_mem, reduceCtorEq, and_false, or_false, false_and, exists_false, false_or,
        Except.ok.injEq, exists_eq_left', and_assoc]

/-- Nothing but names that are taken stands against a spec that is in order. -/
theorem conflicts_iff (h : Taken earlier names types) (s : Spec) :
    Conflicts earlier s ↔
      s.name ∈ names ∨ s.typeName ∈ types ∨ accessorName s.typeName ∈ types := by
  simp only [Conflicts, takenTypes, List.mem_cons, List.not_mem_nil, or_false, exists_eq_or_imp,
    exists_eq_left, h.names, h.types]

/-- A model is refused if one of its checks fails, and the first that does gives the error. -/
theorem checkModel_eq_error_iff (h : Taken earlier names types) :
    checkModel names types s = .error e ↔ Refused earlier s e := by
  have htaken : (∃ name ∈ takenTypes s, name ∈ earlier.flatMap takenTypes) ↔
      s.typeName ∈ types ∨ accessorName s.typeName ∈ types := by
    simp [takenTypes, h.types]
  simp only [checkModel, ite_error_eq_error_iff, map_eq_error_iff, Bool.or_eq_true,
    Bool.not_eq_true', Bool.not_eq_false, List.contains_iff_mem, or_assoc, not_or]
  -- a check fails where all those in front of it are passed
  constructor
  · rintro (⟨hname, rfl⟩ | ⟨hname, ⟨hold, rfl⟩ | ⟨hnew, ⟨htype, rfl⟩ | ⟨htype, ⟨hused, rfl⟩ |
      ⟨⟨hreserved, hunused⟩, hkey⟩⟩⟩⟩)
    · exact .name hname
    · exact .duplicate hname ((h.names _).mp hold)
    · exact .type hname (mt (h.names _).mpr hnew) htype
    · exact .taken hname (mt (h.names _).mpr hnew) htype (hused.imp_right htaken.mpr)
    · have hfree : ¬Conflicts earlier s := by
        rw [conflicts_iff h, not_or, not_or]
        exact ⟨hnew, hunused⟩
      rcases keyOf?_eq_error_iff.mp hkey with
        ⟨cause, hpath, rfl⟩ | ⟨key, hpath, hidentity, hparam, rfl⟩
      · exact .malformed hname hfree ⟨htype, hreserved⟩ hpath
      · exact .reserved hname hfree ⟨htype, hreserved⟩ hpath hidentity hparam
  · intro hrefused
    cases hrefused with
    | name hname => exact .inl ⟨hname, rfl⟩
    | duplicate hname hold => exact .inr ⟨hname, .inl ⟨(h.names _).mpr hold, rfl⟩⟩
    | type hname hnew htype =>
        exact .inr ⟨hname, .inr ⟨mt (h.names _).mp hnew, .inl ⟨htype, rfl⟩⟩⟩
    | taken hname hnew htype hused =>
        exact .inr ⟨hname, .inr ⟨mt (h.names _).mp hnew, .inr ⟨htype,
          .inl ⟨hused.imp_right htaken.mp, rfl⟩⟩⟩⟩
    | malformed hname hfree hopen hpath =>
        rw [conflicts_iff h, not_or, not_or] at hfree
        exact .inr ⟨hname, .inr ⟨hfree.1, .inr ⟨hopen.1, .inr ⟨⟨hopen.2, hfree.2⟩,
          keyOf?_eq_error_iff.mpr (.inl ⟨_, hpath, rfl⟩)⟩⟩⟩⟩
    | reserved hname hfree hopen hkey hidentity hparam =>
        rw [conflicts_iff h, not_or, not_or] at hfree
        exact .inr ⟨hname, .inr ⟨hfree.1, .inr ⟨hopen.1, .inr ⟨⟨hopen.2, hfree.2⟩,
          keyOf?_eq_error_iff.mpr (.inr ⟨_, hkey, hidentity, hparam, rfl⟩)⟩⟩⟩⟩

/-- A model passes if it does not offend. -/
theorem exists_checkModel_iff (h : Taken earlier names types) :
    (∃ set, checkModel names types s = .ok set) ↔ ¬Offends earlier s := by
  have hkeyed : (∃ set key, keyOf? s = .ok key ∧ OperationSet.synthesize s key = set) ↔
      IsKeyed s := exists_isSetOf_iff s
  simp only [checkModel_eq_ok_iff, Offends, not_or, not_not, conflicts_iff h]
  constructor
  · rintro ⟨set, hname, hnew, hopen, htype, haccessor, hset⟩
    exact ⟨⟨hname, hopen, hkeyed.mp ⟨set, hset⟩⟩, hnew, htype, haccessor⟩
  · rintro ⟨⟨hname, hopen, hkey⟩, hnew, htype, haccessor⟩
    obtain ⟨set, hset⟩ := hkeyed.mpr hkey
    exact ⟨set, hname, hnew, hopen, htype, haccessor, hset⟩

/-- What offends is refused, and nothing else is. -/
theorem exists_refused_iff : (∃ e, Refused earlier s e) ↔ Offends earlier s := by
  have h := taken_self earlier
  rw [← not_iff_not, ← exists_checkModel_iff h]
  simp only [← checkModel_eq_error_iff h]
  cases checkModel (earlier.map (·.name)) (earlier.flatMap takenTypes) s with
  | error e => simp
  | ok set => simp

/-! ### A row of models -/

namespace FirstOffender

variable {rest : List Spec}

theorem not_nil : ¬FirstOffender earlier [] before s := by
  rintro ⟨⟨after, hsplit⟩, -, -⟩
  simp at hsplit

/-- A spec that offends is the first offender of all that it stands in front of. -/
theorem cons_of_offends {x : Spec} (hx : Offends earlier x) :
    FirstOffender earlier (x :: rest) before s ↔ before = [] ∧ s = x := by
  constructor
  · rintro ⟨⟨after, hsplit⟩, hclean, -⟩
    cases before with
    | nil => exact ⟨rfl, (List.cons.inj hsplit).1.symm⟩
    | cons y pre =>
        obtain ⟨rfl, -⟩ := List.cons.inj hsplit
        exact absurd (by simpa using hx) (hclean [] x pre rfl)
  · rintro ⟨rfl, rfl⟩
    exact ⟨⟨rest, rfl⟩, by simp, by simpa using hx⟩

/-- A spec that does not offend is one of those that the others stand behind. -/
theorem cons_of_not_offends {x : Spec} (hx : ¬Offends earlier x) :
    FirstOffender earlier (x :: rest) before s ↔
      ∃ pre, before = x :: pre ∧ FirstOffender (earlier ++ [x]) rest pre s := by
  constructor
  · rintro ⟨⟨after, hsplit⟩, hclean, hoffends⟩
    cases before with
    | nil =>
        obtain ⟨rfl, -⟩ := List.cons.inj hsplit
        exact absurd (by simpa using hoffends) hx
    | cons y pre =>
        obtain ⟨rfl, hrest⟩ := List.cons.inj hsplit
        refine ⟨pre, rfl, ⟨after, hrest⟩, fun pre' y post hpre => ?_, by simpa using hoffends⟩
        simpa using hclean (x :: pre') y post (by rw [hpre, List.cons_append])
  · rintro ⟨pre, rfl, ⟨after, rfl⟩, hclean, hoffends⟩
    refine ⟨⟨after, rfl⟩, fun pre' y post hpre => ?_, by simpa using hoffends⟩
    cases pre' with
    | nil =>
        obtain ⟨rfl, -⟩ := List.cons.inj hpre
        simpa using hx
    | cons z pre' =>
        obtain ⟨rfl, hpost⟩ := List.cons.inj hpre
        simpa using hclean pre' y post hpost

end FirstOffender

/-- A row of models is refused where its first offender is, with the error of that spec. -/
theorem checkModels_eq_error_iff (h : Taken earlier names types) :
    checkModels names types specs = .error e ↔
      ∃ before s, FirstOffender earlier specs before s ∧ Refused (earlier ++ before) s e := by
  induction specs generalizing earlier names types with
  | nil => simp [checkModels, FirstOffender.not_nil]
  | cons x rest ih =>
      have hcons : checkModels names types (x :: rest) = .error e ↔
          checkModel names types x = .error e ∨ ∃ set, checkModel names types x = .ok set ∧
            checkModels (x.name :: names) (x.typeName :: accessorName x.typeName :: types) rest =
              .error e := by
        simp [checkModels, bind_eq_error_iff, pure, Except.pure]
      rw [hcons, checkModel_eq_error_iff h, ih (h.concat x)]
      -- an offender ends the row here; any other spec joins the earlier ones
      by_cases hx : Offends earlier x
      · have hstops : ¬∃ set, checkModel names types x = .ok set := by
          rwa [exists_checkModel_iff h, not_not]
        simp only [FirstOffender.cons_of_offends hx]
        constructor
        · rintro (hrefused | ⟨set, hset, -⟩)
          · exact ⟨[], x, ⟨rfl, rfl⟩, by simpa using hrefused⟩
          · exact absurd ⟨set, hset⟩ hstops
        · rintro ⟨before, s, ⟨rfl, rfl⟩, hrefused⟩
          exact .inl (by simpa using hrefused)
      · have hpasses := (exists_checkModel_iff h).mpr hx
        have hnot : ¬Refused earlier x e := fun hrefused => hx (exists_refused_iff.mp ⟨e, hrefused⟩)
        simp only [FirstOffender.cons_of_not_offends hx]
        constructor
        · rintro (hrefused | ⟨-, -, pre, s, hfirst, hrefused⟩)
          · exact absurd hrefused hnot
          · exact ⟨x :: pre, s, ⟨pre, rfl, hfirst⟩, by simpa using hrefused⟩
        · rintro ⟨before, s, ⟨pre, rfl, hfirst⟩, hrefused⟩
          obtain ⟨set, hset⟩ := hpasses
          exact .inr ⟨set, hset, pre, s, hfirst, by simpa using hrefused⟩

/-! ### Assembly -/

/-- A name of the client is refused as the setting that it is. -/
theorem eq_invalidSetting_of_checkClientNames {models : List OperationSet}
    (h : checkClientNames models c = .error e) :
    ∃ setting value, e = .invalidSetting setting value := by
  cases hclient : clashes models c.clientType with
  | true =>
      refine ⟨.clientType, c.clientType, ?_⟩
      simpa [checkClientNames, hclient, throw, throwThe, MonadExceptOf.throw, bind, Except.bind,
        eq_comm] using h
  | false =>
      cases halias : c.typeAlias with
      | none => simp [checkClientNames, hclient, halias, pure, Except.pure] at h
      | some name =>
          cases hname : clashes models name with
          | true =>
              refine ⟨.typeAlias, name, ?_⟩
              simpa [checkClientNames, hclient, halias, hname, throw, throwThe,
                MonadExceptOf.throw, eq_comm] using h
          | false => simp [checkClientNames, hclient, halias, hname, pure, Except.pure] at h

/-- With valid settings an assembly fails with the error of its first offender, or it has none and a
name of the client is refused. -/
theorem assemble_eq_error_iff (hvalid : c.validate = .ok ()) :
    ModuleDef.assemble specs c = .error e ↔
      (∃ before s, FirstOffender [] specs before s ∧ Refused before s e) ∨
        ∃ models, checkModels [] [] specs = .ok models ∧ checkClientNames models c = .error e := by
  have hfirst : checkModels [] [] specs = .error e ↔ _ :=
    checkModels_eq_error_iff (taken_self [])
  simp only [List.nil_append] at hfirst
  rw [← hfirst]
  simp [ModuleDef.assemble, bind_eq_error_iff, hvalid, pure, Except.pure]

/-- Settings that are not valid are refused by name. -/
theorem eq_invalidSetting_of_validate (h : c.validate = .error e) :
    ∃ setting value, e = .invalidSetting setting value := by
  have hcheck : ∀ {setting valid value}, Config.check setting valid value = .error e →
      ∃ setting value, e = .invalidSetting setting value := by
    intro setting valid value h
    exact ⟨setting, value, ((check_eq_error_iff setting valid value e).mp h).2.symm⟩
  simp only [Config.validate, bind_eq_error_iff] at h
  rcases h with hmodule | ⟨-, -, hruntime | ⟨-, -, hfactory | ⟨-, -, hclient | ⟨-, -, halias⟩⟩⟩⟩
  · exact hcheck hmodule
  · exact hcheck hruntime
  · exact hcheck hfactory
  · exact hcheck hclient
  · split at halias
    · exact hcheck halias
    · cases halias

/-- Models with names of their own are not refused for a name that one of them has already. -/
theorem ne_duplicateModel (hnames : (specs.map (·.name)).Nodup) (c : Config) (model : String) :
    ModuleDef.assemble specs c ≠ .error (.duplicateModel model) := by
  intro h
  cases hvalid : c.validate with
  | error e =>
      obtain ⟨setting, value, rfl⟩ := eq_invalidSetting_of_validate hvalid
      rw [ModuleDef.assemble, hvalid] at h
      cases h
  | ok u =>
      rcases (assemble_eq_error_iff hvalid).mp h with
        ⟨before, s, hfirst, hrefused⟩ | ⟨models, -, hclient⟩
      · cases hrefused with
        | duplicate hname hold =>
            obtain ⟨after, rfl⟩ := hfirst.split
            rw [List.map_append, List.nodup_append] at hnames
            exact hnames.2.2 _ hold _ List.mem_cons_self rfl
      · obtain ⟨setting, value, hsetting⟩ := eq_invalidSetting_of_checkClientNames hclient
        cases hsetting

/-- With valid settings: if there is a first offender, assembly fails with the error of the first
check that this spec fails.  Whenever assembly fails otherwise than with a setting, as it does for
the names of the client behind all models, there is a first offender and the error is this one.  The
error belongs to the model of the first offender, unless the name of the model is what is wrong. -/
theorem first_offender_refused (hvalid : c.validate = .ok ()) :
    (∀ before s, FirstOffender [] specs before s →
      ∃ e, ModuleDef.assemble specs c = .error e ∧ Refused before s e) ∧
    ∀ e, ModuleDef.assemble specs c = .error e →
      (∀ setting value, e ≠ .invalidSetting setting value) →
      ∃ before s, FirstOffender [] specs before s ∧ Refused before s e ∧
        e.model? = if isModuleName s.name then some s.name else none := by
  constructor
  · intro before s hfirst
    obtain ⟨e, hrefused⟩ := exists_refused_iff.mpr hfirst.offends
    exact ⟨e, (assemble_eq_error_iff hvalid).mpr (.inl ⟨before, s, hfirst, hrefused⟩), hrefused⟩
  · intro e herror hsetting
    rcases (assemble_eq_error_iff hvalid).mp herror with
      ⟨before, s, hfirst, hrefused⟩ | ⟨models, -, hclient⟩
    · exact ⟨before, s, hfirst, hrefused, hrefused.model?_eq⟩
    · obtain ⟨setting, value, rfl⟩ := eq_invalidSetting_of_checkClientNames hclient
      exact absurd rfl (hsetting setting value)

/-- Users, posts whose type is named like the accessor of users, and a model without a name. -/
def twoOffenders : List Spec :=
  [⟨"user", "User", "/id", none⟩, ⟨"post", "UserOperations", "/user/id", none⟩,
    ⟨"", "Nameless", "/id", none⟩]

/-- The second spec offends first, and the error belongs to it. -/
theorem first_offender_refused_posts :
    ∃ before s e, FirstOffender [] twoOffenders before s ∧ s.name = "post" ∧
      ModuleDef.assemble twoOffenders .default = .error e ∧ Refused before s e ∧
      e.model? = some "post" := by
  have hrun : ModuleDef.assemble twoOffenders .default =
      .error (.reservedType "post" "UserOperations") := by decide +kernel
  obtain ⟨-, hrefuses⟩ := @first_offender_refused twoOffenders .default (by decide +kernel)
  obtain ⟨before, s, hfirst, hrefused, hmodel⟩ := hrefuses _ hrun fun _ _ h => nomatch h
  have hname : s.name = "post" := by
    split at hmodel
    · exact (Option.some.inj hmodel).symm
    · cases hmodel
  exact ⟨before, s, _, hfirst, hname, hrun, hrefused, rfl⟩

/-- A model whose name has a capital is refused with an error that belongs to no model. -/
theorem refusal_without_model :
    ¬∀ (specs : List Spec) (c : Config) (e : GenerateError), c.validate = .ok () →
      ModuleDef.assemble specs c = .error e →
      (∀ setting value, e ≠ .invalidSetting setting value) →
      ∃ before s, FirstOffender [] specs before s ∧ e.model? = some s.name := by
  intro h
  have hrun : ModuleDef.assemble [⟨"User", "User", "/id", none⟩] .default =
      .error (.invalidModelName "User") := by decide +kernel
  obtain ⟨before, s, -, hmodel⟩ :=
    h _ .default _ (by decide +kernel) hrun fun _ _ h => nomatch h
  cases hmodel

end DocAccess.Generate
