import DocAccess.Proofs.Run.Agreement

/-!
# The models behind a run

Models are scanned and output is written in one tree, and no setting keeps the two apart.  A run
that succeeds leaves the models of its directory as they were unless the scan picks up its output.
An output that the scan picks up is a model file like any other: where there was no file before, the
directory does not give the same models again.

* `left_of_generate` — the tree that a run leaves.
* `models_kept_behind_run` — the result.
* `models_lost_behind_output` — a run whose output is a model file.
-/

namespace DocAccess.Run

open DocAccess.Files DocAccess.Files.Tree DocAccess.Generate DocAccess.Model

variable (r : Refusals) {t u : Tree} {c : Config}

/-- What loading the models of a directory gives. -/
def loaded (t : Tree) (directory : String) : Except GenerateError (List Spec) :=
  (ran (loadDirectory (accessBut r) directory) t).1

theorem loaded_eq (t : Tree) (directory : String) :
    loaded r t directory = specsIn r t directory := by
  rw [loaded, reads_loadDirectory r directory t]

/-- The model files of a directory with what reading each of them gives. -/
def modelFiles (t : Tree) (directory : String) : Except GenerateError (List (String × Reading)) :=
  (namesIn r t directory).map fun names =>
    names.map fun name => (name, t.reading r (join directory name))

/-- A run that succeeds has found models, and leaves its tree as it was or with the output put at
its place. -/
theorem left_of_generate {report : Report}
    (h : (ran (generate (accessBut r) c) t).1 = .ok report) :
    ∃ specs, specsIn r t c.modelsDir = .ok specs ∧
      ((ran (generate (accessBut r) c) t).2 = t ∨
        ∃ u target bytes, Grown (LiesAbove t c.outFile) t u ∧ Place u c.outFile target ∧
          (ran (generate (accessBut r) c) t).2 = u.insert target (.file bytes)) := by
  rw [ran_generate] at h ⊢
  cases hmade : renderedIn r c t with
  | error fault =>
      rw [hmade] at h
      cases h
  | ok made =>
      obtain ⟨specs, hspecs, -⟩ := exists_specsIn_of_renderedIn r hmade
      obtain ⟨m, text⟩ := made
      have hwritten := written_writeIfChanged r c.outFile text t
      rw [hmade] at h
      dsimp only at h ⊢
      generalize ran (writeIfChanged (accessBut r) c.outFile text) t = result at h hwritten ⊢
      cases hwritten with
      | failed hgrown => cases h
      | kept hchange => exact ⟨specs, hspecs, .inl rfl⟩
      | replaced hchange hne hgrown hplace =>
          exact ⟨specs, hspecs, .inr ⟨_, _, _, hgrown, hplace, rfl⟩⟩

/-! ### A new model file -/

/-- The order of model files does not matter to what the scan picks up. -/
theorem scans_iff (directory path : String) :
    Scans r t directory path ↔ ∃ l ∈ located? t path, ∃ name ∈ (t.listing r directory).getD [],
      isModelName name = true ∧ located? t (join directory name) = some l := by
  have hmem : ∀ name, name ∈ (t.listing r directory).elim [] modelNames ↔
      name ∈ (t.listing r directory).getD [] ∧ isModelName name = true := by
    intro name
    cases t.listing r directory with
    | none => simp
    | some names => simp [modelNames]
  simp only [Scans, hmem, and_assoc]

/-- A file where nothing was has its name in front of the names of its directory. -/
theorem fileNames_insert_of_free {d : Location} {name : String}
    (hfree : u.get? (d ++ [name]) = none) (bytes : ByteArray) :
    (u.insert (d ++ [name]) (.file bytes)).fileNames d = name :: u.fileNames d := by
  have hne := (get?_eq_none_iff (by simp)).mp hfree
  rw [fileNames_eq, Tree.insert, filter_ne_of_forall hne]
  exact List.filterMap_cons_some (by rw [nameIn_file, if_pos rfl])

/-- A directory gives one model for each of its model files. -/
theorem length_of_specsIn {directory : String} {names : List String} {specs : List Spec}
    (hnames : namesIn r t directory = .ok names) (h : specsIn r t directory = .ok specs) :
    specs.length = names.length := by
  rw [specsIn, hnames] at h
  exact (mapM_eq_ok_iff.mp h).length_eq.symm

section Replaced

variable {r} {target : Location} (hgrown : Grown (LiesAbove t c.outFile) t u)
  (hplace : Place u c.outFile target) {bytes : ByteArray}

include hgrown hplace

/-- Unless the scan picks up the output, it finds the same files with the same contents. -/
theorem modelFiles_replaced {directory : String} {specs : List Spec}
    (hscan : ¬Scans r (u.insert target (.file bytes)) directory c.outFile)
    (h : specsIn r t directory = .ok specs) :
    modelFiles r (u.insert target (.file bytes)) directory = modelFiles r t directory := by
  obtain ⟨names, hnames, hspecs⟩ := (bind_eq_ok_iff _ _ _).mp h
  rw [modelFiles, modelFiles, hnames, namesIn_replaced hgrown hplace hscan hnames]
  refine congrArg Except.ok (List.map_congr_left fun name hname => ?_)
  obtain ⟨s, hs⟩ := exists_of_mapM_eq_ok hspecs name hname
  obtain ⟨old, hreading⟩ := exists_contents_of_specIn r hs
  rw [hreading, reading_replaced hgrown hplace hscan hnames hname hreading]

/-- A model file that was there before the output is not the output, if that is new. -/
theorem located?_ne_of_specIn {directory name : String} {s : Spec} (hfree : t.get? target = none)
    (h : specIn r t directory name = .ok s) :
    located? (u.insert target (.file bytes)) (join directory name) ≠ some target := by
  obtain ⟨old, hreading⟩ := exists_contents_of_specIn r h
  obtain ⟨-, l, hfind⟩ := (reading_eq_contents_iff r).mp hreading
  have hl := get?_of_find hfind
  have hne : l ≠ target := by
    rintro rfl
    rw [hfree] at hl
    cases hl
  rw [located?_of_find (find_replaced hgrown hplace hfind (get?_replaced hgrown hplace hne hl) rfl)]
  exact fun h => hne (Option.some.inj h)

/-- Where nothing was, a file that the scan picks up is one model file more. -/
theorem specsIn_ne_of_scans {directory : String} {specs : List Spec}
    (hfree : t.get? target = none) (h : specsIn r t directory = .ok specs)
    (hscan : Scans r (u.insert target (.file bytes)) directory c.outFile) :
    specsIn r (u.insert target (.file bytes)) directory ≠ .ok specs := by
  obtain ⟨names, hnames, hspecs⟩ := (bind_eq_ok_iff _ _ _).mp h
  obtain ⟨d, hlist, hfind, rfl⟩ := listed_of_namesIn r hnames
  have hfind' : (u.insert target (.file bytes)).find directory = .entry d .directory :=
    find_directory_replaced hgrown hplace hfind
  have hlisting := listing_of_find r hlist hfind'
  obtain ⟨l, hl, name, hname, hlocated⟩ := hscan
  obtain rfl : l = target := by
    rw [located?_of_find (hplace.find_insert bytes)] at hl
    exact (Option.some.inj hl).symm
  rw [hlisting, Option.elim_some] at hname
  have hnew : name ∉ modelNames (t.fileNames d) := by
    intro hold
    obtain ⟨s, hs⟩ := exists_of_mapM_eq_ok hspecs name hold
    exact located?_ne_of_specIn hgrown hplace hfree hs hlocated
  obtain ⟨above, base, -, -, rfl, -⟩ := hplace.follow_target
  -- what is new among the model files of the directory can only be the output
  obtain ⟨rfl, hmodel⟩ : above = d ∧ isModelName base = true := by
    by_contra hother
    have hbase : above = d → isModelName base = false := by simpa using hother
    rw [modelNames, filter_fileNames_insert hbase, hgrown.fileNames] at hname
    exact hnew hname
  have hfree' : u.get? (above ++ [base]) = none := by
    rcases hgrown.get? (above ++ [base]) with hsame | ⟨-, hdirectory, -⟩
    · rw [hsame, hfree]
    · exact absurd hdirectory hplace.free
  have hnames' : namesIn r (u.insert (above ++ [base]) (.file bytes)) directory =
      .ok (modelNames (base :: t.fileNames above)) := by
    rw [namesIn, hlisting, fileNames_insert_of_free hfree', hgrown.fileNames]
  intro hafter
  have hlength := (length_of_specsIn r hnames h).symm.trans (length_of_specsIn r hnames' hafter)
  simp [modelNames, hmodel] at hlength

end Replaced

/-! ### The models behind a run -/

/-- If the scan picks up the output of a run where nothing was before, the directory does not give
the same models again. -/
theorem loaded_ne_of_generate {report : Report}
    (h : (ran (generate (accessBut r) c) t).1 = .ok report)
    (hscan : Scans r (ran (generate (accessBut r) c) t).2 c.modelsDir c.outFile)
    (hfree : ∀ l ∈ located? (ran (generate (accessBut r) c) t).2 c.outFile, t.get? l = none) :
    loaded r (ran (generate (accessBut r) c) t).2 c.modelsDir ≠ loaded r t c.modelsDir := by
  obtain ⟨specs, hspecs, hleft⟩ := left_of_generate r h
  rw [loaded_eq, loaded_eq, hspecs]
  rcases hleft with hsame | ⟨u, target, bytes, hgrown, hplace, hafter⟩
  · -- the output was there already
    rw [hsame] at hscan hfree
    obtain ⟨l, hl, -⟩ := hscan
    obtain ⟨e, hfind⟩ := find_of_located? hl
    have hheld := get?_of_find hfind
    rw [hfree l hl] at hheld
    cases hheld
  · rw [hafter] at hscan hfree ⊢
    have hnone := hfree target (located?_of_find (hplace.find_insert bytes))
    exact specsIn_ne_of_scans hgrown hplace hnone hspecs hscan

/-- A run that succeeds has found models in its directory.  Unless the scan picks up the output, it
finds the same model files with the same contents behind the run, and loading the directory gives
the same models.  If the scan picks up the output where nothing was before, it does not. -/
theorem models_kept_behind_run {report : Report}
    (h : (ran (generate (accessBut r) c) t).1 = .ok report) :
    (∃ specs, loaded r t c.modelsDir = .ok specs) ∧
      (¬Scans r (ran (generate (accessBut r) c) t).2 c.modelsDir c.outFile →
        modelFiles r (ran (generate (accessBut r) c) t).2 c.modelsDir =
            modelFiles r t c.modelsDir ∧
          loaded r (ran (generate (accessBut r) c) t).2 c.modelsDir = loaded r t c.modelsDir) ∧
      (Scans r (ran (generate (accessBut r) c) t).2 c.modelsDir c.outFile →
        (∀ l ∈ located? (ran (generate (accessBut r) c) t).2 c.outFile, t.get? l = none) →
        loaded r (ran (generate (accessBut r) c) t).2 c.modelsDir ≠ loaded r t c.modelsDir) := by
  obtain ⟨specs, hspecs, hleft⟩ := left_of_generate r h
  refine ⟨⟨specs, (loaded_eq r t c.modelsDir).trans hspecs⟩, fun hscan => ?_,
    loaded_ne_of_generate r h⟩
  rcases hleft with hsame | ⟨u, target, bytes, hgrown, hplace, hafter⟩
  · rw [hsame]
    exact ⟨rfl, rfl⟩
  · rw [hafter] at hscan ⊢
    rw [loaded_eq, loaded_eq, hspecs]
    exact ⟨modelFiles_replaced hgrown hplace hscan hspecs,
      specsIn_replaced hgrown hplace hscan hspecs⟩

/-- Settings that put the output into the directory of models. -/
def mixedSettings : Config := { userSettings with outFile := "models/generated.rs" }

/-- The run creates its output, and the scan picks it up. -/
theorem scans_mixedSettings :
    (ran (generate (accessBut .none) mixedSettings) userTree).1 =
        .ok ⟨["user"], "models/generated.rs", .created⟩ ∧
      Scans .none (ran (generate (accessBut .none) mixedSettings) userTree).2
        mixedSettings.modelsDir mixedSettings.outFile ∧
      ∀ l ∈ located? (ran (generate (accessBut .none) mixedSettings) userTree).2
        mixedSettings.outFile, userTree.get? l = none := by
  simp only [scans_iff]
  decide +kernel

/-- Users are kept where the output is written beside their directory, and are not where it is
written into it. -/
theorem models_kept_behind_run_users :
    loaded .none (ran (generate (accessBut .none) userSettings) userTree).2 "models" =
        loaded .none userTree "models" ∧
      loaded .none (ran (generate (accessBut .none) mixedSettings) userTree).2 "models" ≠
        loaded .none userTree "models" := by
  obtain ⟨hran, hscan⟩ : (ran (generate (accessBut .none) userSettings) userTree).1 =
        .ok ⟨["user"], "out.rs", .created⟩ ∧
      ¬Scans .none (ran (generate (accessBut .none) userSettings) userTree).2
        "models" "out.rs" := by decide +kernel
  obtain ⟨hmixed, hscanned, hfree⟩ := scans_mixedSettings
  obtain ⟨-, hkept, -⟩ := models_kept_behind_run .none hran
  obtain ⟨-, -, hlost⟩ := models_kept_behind_run .none hmixed
  exact ⟨(hkept hscan).2, hlost hscanned hfree⟩

/-- A run may leave a model file in the directory that it has read. -/
theorem models_lost_behind_output :
    ¬∀ (c : Config) (t : Tree) (report : Report),
      (ran (generate (accessBut .none) c) t).1 = .ok report →
      loaded .none (ran (generate (accessBut .none) c) t).2 c.modelsDir =
        loaded .none t c.modelsDir := by
  intro h
  obtain ⟨hran, hscan, hfree⟩ := scans_mixedSettings
  exact loaded_ne_of_generate .none hran hscan hfree (h _ _ _ hran)

end DocAccess.Run
