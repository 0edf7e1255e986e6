import DocAccess.CommandLine.Run
import DocAccess.Proofs.Run.AllOrNothing

/-!
# Checking and generating

Checking tells what generating would do to the output, since both compare the same text with the
same file.  After a run that generates, the output holds the text of the tree that the run started
from.  The run has changed that tree, but unless the output is among the model files, it has changed
nothing that the text is rendered from: every later run finds the output up to date and leaves the
tree as it is.
-/

namespace DocAccess.Run

open DocAccess.CommandLine DocAccess.Files DocAccess.Files.Tree DocAccess.Generate DocAccess.Model

variable (r : Refusals)

/-! ### Changes -/

/-- Whether a path leads to a file with some bytes. -/
def Holds (t : Tree) (path : String) (bytes : ByteArray) : Prop :=
  ∃ l, t.find path = .entry l (.file bytes)

/-- Whether a change is the one that putting a text into a file would be. -/
structure Change.Fits (t : Tree) (path text : String) (change : Change) : Prop where
  unchanged : change = .unchanged ↔ Holds t path text.toUTF8
  created : change = .created ↔ t.find path = .missing
  updated : change = .updated ↔ ¬Holds t path text.toUTF8 ∧ t.find path ≠ .missing

theorem reading_eq_missing_iff {t : Tree} {path : String} :
    t.reading r path = .missing ↔ r.refuses (.read path) = false ∧ t.find path = .missing := by
  unfold reading Tree.read
  cases r.refuses (.read path) with
  | true => simp
  | false =>
      rw [if_neg Bool.false_ne_true]
      split
      · next l bytes hfind => simp [hfind]
      · next hfind => simp [hfind]
      · next hmissing =>
          constructor
          · exact fun h => nomatch h
          · exact fun h => absurd h.2 hmissing

theorem not_refused_of_changeIn {t : Tree} {path text : String} {change : Change}
    (h : changeIn r t path text = .ok change) : r.refuses (.read path) = false := by
  by_contra hrefused
  have hfailed : t.reading r path = .failed := by simp [reading, hrefused]
  simp [changeIn, hfailed, Change.ofReading?] at h

theorem fits_of_changeIn {t : Tree} {path text : String} {change : Change}
    (h : changeIn r t path text = .ok change) : change.Fits t path text := by
  have hread := not_refused_of_changeIn r h
  have hunchanged : change = .unchanged ↔ Holds t path text.toUTF8 := by
    have hiff : changeIn r t path text = .ok .unchanged ↔
        t.reading r path = .contents text.toUTF8 := changeIn_eq_unchanged_iff r
    rw [h, Except.ok.injEq, reading_eq_contents_iff, hread] at hiff
    simpa [Holds] using hiff
  have hcreated : change = .created ↔ t.find path = .missing := by
    have hiff : t.reading r path = .missing ↔ t.find path = .missing := by
      rw [reading_eq_missing_iff, hread]
      exact ⟨fun h => h.2, fun h => ⟨rfl, h⟩⟩
    rw [← hiff]
    unfold changeIn Change.ofReading? at h
    cases hreading : t.reading r path with
    | missing => simpa [hreading, eq_comm] using h
    | failed => simp [hreading] at h
    | contents bytes =>
        simp only [hreading, Except.ok.injEq] at h
        simp only [reduceCtorEq, iff_false]
        rintro rfl
        split at h
        · cases h
        · cases h
  -- the third kind is what is left by the other two
  refine ⟨hunchanged, hcreated, ?_⟩
  rw [← hunchanged, ne_eq, ← hcreated]
  cases change with
  | created | updated | unchanged => simp

/-! ### What a run leaves -/

/-- The location that a path leads to. -/
def located? (t : Tree) (path : String) : Option Location :=
  match t.find path with
  | .entry l _ => some l
  | _ => none

/-- Whether the scan of a directory for models picks up the file that a path leads to. -/
def Scans (t : Tree) (directory path : String) : Prop :=
  ∃ l ∈ located? t path, ∃ name ∈ ((t.listing r directory).elim [] modelNames),
    located? t (join directory name) = some l

instance (t : Tree) (directory path : String) : Decidable (Scans r t directory path) :=
  inferInstanceAs (Decidable (∃ l ∈ located? t path,
    ∃ name ∈ ((t.listing r directory).elim [] modelNames),
      located? t (join directory name) = some l))

theorem located?_of_find {t : Tree} {path : String} {l : Location} {e : Entry}
    (h : t.find path = .entry l e) : located? t path = some l := by
  rw [located?, h]

theorem find_of_located? {t : Tree} {path : String} {l : Location} (h : located? t path = some l) :
    ∃ e, t.find path = .entry l e := by
  unfold located? at h
  split at h
  · next found e hfind =>
      obtain rfl := Option.some.inj h
      exact ⟨e, hfind⟩
  · cases h

/-- A model is declared by what its file holds. -/
theorem exists_contents_of_specIn {t : Tree} {directory name : String} {s : Spec}
    (h : specIn r t directory name = .ok s) :
    ∃ bytes, t.reading r (join directory name) = .contents bytes := by
  unfold specIn Spec.ofContents? at h
  cases hreading : t.reading r (join directory name) with
  | contents bytes => exact ⟨bytes, rfl⟩
  | missing | failed =>
      rw [hreading] at h
      dsimp only at h
      split at h
      · cases h
      · cases h

/-- The model files of a directory are listed where the path to it leads. -/
theorem listed_of_namesIn {t : Tree} {directory : String} {names : List String}
    (h : namesIn r t directory = .ok names) :
    ∃ d, r.refuses (.list directory) = false ∧ t.find directory = .entry d .directory ∧
      modelNames (t.fileNames d) = names := by
  unfold namesIn listing at h
  cases hlist : r.refuses (.list directory) with
  | true => simp [hlist] at h
  | false =>
      rw [hlist, if_neg Bool.false_ne_true, Tree.list] at h
      split at h
      · next found hfound =>
          obtain ⟨d, hfind, rfl⟩ := Option.map_eq_some_iff.mp hfound
          exact ⟨d, rfl, directory?_eq_some_iff.mp hfind, Except.ok.inj h⟩
      · cases h

theorem listing_of_find {t : Tree} {directory : String} {d : Location}
    (hlist : r.refuses (.list directory) = false) (hfind : t.find directory = .entry d .directory) :
    t.listing r directory = some (t.fileNames d) := by
  simp [listing, hlist, Tree.list, directory?_eq_some_iff.mpr hfind]

/-- The names that the scan goes through are those of the model files. -/
theorem scanned_of_namesIn {t : Tree} {directory : String} {names : List String}
    (h : namesIn r t directory = .ok names) :
    (t.listing r directory).elim [] modelNames = names := by
  unfold namesIn at h
  split at h
  · next listed hlisting =>
      rw [hlisting]
      exact Except.ok.inj h
  · cases h

section Replaced

variable {r} {t u : Tree} {path : String} {target : Location}
  (hgrown : Grown (LiesAbove t path) t u) (hplace : Place u path target) {bytes : ByteArray}

include hplace

/-- A model file of the directory that the new file is in would be picked up by the scan. -/
theorem scans_of_isModelName {directory name : String} {d : Location}
    (hlist : r.refuses (.list directory) = false)
    (hfind : (u.insert target (.file bytes)).find directory = .entry d .directory)
    (hname : IsFileName name) (htarget : target = d ++ [name]) (hmodel : isModelName name = true) :
    Scans r (u.insert target (.file bytes)) directory path := by
  have hheld : (u.insert target (.file bytes)).get? target = some (.file bytes) := by
    rw [get?_insert u hplace.ne_nil, if_pos rfl]
  have hlisting := listing_of_find r hlist hfind
  refine ⟨target, located?_of_find (hplace.find_insert bytes), name, ?_,
    located?_of_find (e := .file bytes) ?_⟩
  · rw [hlisting, Option.elim_some, modelNames, List.mem_mergeSort, List.mem_filter]
    refine ⟨?_, hmodel⟩
    rw [htarget]
    exact mem_fileNames_insert u d name bytes
  · obtain ⟨start, hstart, hfollow, -⟩ := find_eq_entry_iff.mp hfind
    have hnext : next d name = target := by rw [next, if_neg hname.ne_dots, htarget]
    refine find_eq_entry_iff.mpr ⟨start, start?_join hname hstart, ?_,
      fun _ => namesDirectory_join hname directory⟩
    rw [steps_join hname, follow_append hfollow, follow_cons (get?_of_find hfind), hnext,
      follow_nil_eq_entry_iff]
    exact ⟨rfl, hheld⟩

include hgrown

theorem keepsDirectories_replaced : KeepsDirectories t (u.insert target (.file bytes)) :=
  hgrown.keepsDirectories.trans (keepsDirectories_insert hplace.ne_nil hplace.free _)

theorem get?_replaced {l : Location} {e : Entry} (hl : l ≠ target) (h : t.get? l = some e) :
    (u.insert target (.file bytes)).get? l = some e := by
  rw [get?_insert u hplace.ne_nil, if_neg hl]
  exact hgrown.get?_of_some h

/-- A path leads where it led. -/
theorem find_replaced {other : String} {l : Location} {e e' : Entry}
    (h : t.find other = .entry l e) (he : (u.insert target (.file bytes)).get? l = some e')
    (hkind : e'.isDirectory = e.isDirectory) :
    (u.insert target (.file bytes)).find other = .entry l e' := by
  have hkeep : KeepsDirectories t (u.insert target (.file bytes)) :=
    keepsDirectories_replaced hgrown hplace
  obtain ⟨start, hstart, hfollow, hfile⟩ := find_eq_entry_iff.mp h
  exact find_eq_entry_iff.mpr ⟨start, start?_of_keepsDirectories hkeep hstart,
    follow_of_keepsDirectories hkeep hfollow he, hkind ▸ hfile⟩

/-- The path to a directory leads where it led. -/
theorem find_directory_replaced {directory : String} {d : Location}
    (h : t.find directory = .entry d .directory) :
    (u.insert target (.file bytes)).find directory = .entry d .directory :=
  find_replaced hgrown hplace h
    ((keepsDirectories_replaced hgrown hplace).directories d (get?_of_find h)) rfl

/-- The model files of a directory are the same, unless the new file is one of them. -/
theorem namesIn_replaced {directory : String} {names : List String}
    (hscan : ¬Scans r (u.insert target (.file bytes)) directory path)
    (h : namesIn r t directory = .ok names) :
    namesIn r (u.insert target (.file bytes)) directory = .ok names := by
  obtain ⟨d, hlist, hfind, rfl⟩ := listed_of_namesIn r h
  have hfind' : (u.insert target (.file bytes)).find directory = .entry d .directory :=
    find_directory_replaced hgrown hplace hfind
  obtain ⟨above, name, -, hname, rfl, -⟩ := hplace.follow_target
  have hmodel : above = d → isModelName name = false := by
    rintro rfl
    by_contra hmodel
    exact hscan (scans_of_isModelName hplace hlist hfind' hname rfl (by simpa using hmodel))
  have hsame : modelNames ((u.insert (above ++ [name]) (.file bytes)).fileNames d) =
      modelNames (t.fileNames d) := by
    rw [modelNames, modelNames, filter_fileNames_insert hmodel, hgrown.fileNames]
  rw [namesIn, listing_of_find r hlist hfind', ← hsame]

/-- A model file holds what it held, unless the new file is a model file. -/
theorem reading_replaced {directory name : String} {names : List String} {old : ByteArray}
    (hscan : ¬Scans r (u.insert target (.file bytes)) directory path)
    (hnames : namesIn r t directory = .ok names) (hname : name ∈ names)
    (h : t.reading r (join directory name) = .contents old) :
    (u.insert target (.file bytes)).reading r (join directory name) = .contents old := by
  obtain ⟨hread, l, hold⟩ := (reading_eq_contents_iff r).mp h
  have hl := get?_of_find hold
  by_cases htarget : l = target
  · -- then the scan picks up the new file under the name of the model
    subst htarget
    have hnew : (u.insert l (.file bytes)).find (join directory name) = .entry l (.file bytes) :=
      find_replaced hgrown hplace hold (by rw [get?_insert u hplace.ne_nil, if_pos rfl]) rfl
    refine absurd ⟨l, located?_of_find (hplace.find_insert bytes), name, ?_,
      located?_of_find hnew⟩ hscan
    rwa [scanned_of_namesIn r (namesIn_replaced hgrown hplace hscan hnames)]
  · have hnew : (u.insert target (.file bytes)).find (join directory name) = .entry l (.file old) :=
      find_replaced hgrown hplace hold (get?_replaced hgrown hplace htarget hl) rfl
    exact (reading_eq_contents_iff r).mpr ⟨hread, l, hnew⟩

/-- The models of a directory are the same, unless the new file is one of its model files. -/
theorem specsIn_replaced {directory : String} {specs : List Spec}
    (hscan : ¬Scans r (u.insert target (.file bytes)) directory path)
    (h : specsIn r t directory = .ok specs) :
    specsIn r (u.insert target (.file bytes)) directory = .ok specs := by
  obtain ⟨names, hnames, hspecs⟩ := (bind_eq_ok_iff _ _ _).mp h
  refine (bind_eq_ok_iff _ _ _).mpr ⟨names, namesIn_replaced hgrown hplace hscan hnames, ?_⟩
  rw [mapM_eq_ok_iff] at hspecs ⊢
  have hnamed := (List.forall₂_and_left _ _).mpr ⟨fun name hname => hname, hspecs⟩
  refine hnamed.imp fun name s ⟨hname, hs⟩ => ?_
  obtain ⟨old, hreading⟩ := exists_contents_of_specIn r hs
  rw [specIn, reading_replaced hgrown hplace hscan hnames hname hreading, ← hreading]
  exact hs

end Replaced

/-! ### Checking and generating -/

/-- Whether checking tells of a tree what generating does to it. -/
structure Agrees (c : Config) (t : Tree) : Prop where
  succeeds : ∀ change, (ran (check (accessBut r) c) t).1 = .ok change ↔
    ∃ report, (ran (generate (accessBut r) c) t).1 = .ok report ∧ report.change = change
  fails : ∀ fault, (ran (check (accessBut r) c) t).1 = .error fault ↔
    (ran (generate (accessBut r) c) t).1 = .error fault
  fits : ∀ report, (ran (generate (accessBut r) c) t).1 = .ok report →
    ∃ text, (ran (render (accessBut r) c) t).1 = .ok text ∧ report.change.Fits t c.outFile text

/-- Whether a run that generated has come to rest in a tree: the output is up to date, and a further
run reports the same models and leaves the very same tree. -/
structure AtRest (c : Config) (report : Report) (t : Tree) : Prop where
  check : ran (check (accessBut r) c) t = (.ok .unchanged, t)
  generate : ran (generate (accessBut r) c) t = (.ok { report with change := .unchanged }, t)

/-- The module of the models in a directory, and its text. -/
def renderedIn (c : Config) (t : Tree) : Outcome (ModuleDef × String) :=
  (specsIn r t c.modelsDir).mapError Fault.error >>= rendered c

/-- A module is rendered from the models that its directory gives. -/
theorem exists_specsIn_of_renderedIn {c : Config} {t : Tree} {made : ModuleDef × String}
    (h : renderedIn r c t = .ok made) :
    ∃ specs, specsIn r t c.modelsDir = .ok specs ∧ rendered c specs = .ok made := by
  obtain ⟨specs, hspecs, hrendered⟩ := (bind_eq_ok_iff _ _ _).mp h
  refine ⟨specs, ?_, hrendered⟩
  cases hcase : specsIn r t c.modelsDir with
  | error e => simp [hcase, Except.mapError] at hspecs
  | ok specs' => simpa [hcase, Except.mapError] using hspecs

theorem ran_render (c : Config) (t : Tree) :
    ran (render (accessBut r) c) t = ((renderedIn r c t).map (·.2), t) :=
  reads_render r c t

theorem ran_check (c : Config) (t : Tree) :
    ran (check (accessBut r) c) t =
      ((renderedIn r c t).map (·.2) >>= changeIn r t c.outFile, t) :=
  reads_check r c t

theorem ran_generate (c : Config) (t : Tree) :
    ran (generate (accessBut r) c) t =
      match renderedIn r c t with
      | .error fault => (.error fault, t)
      | .ok (m, text) =>
          ((ran (writeIfChanged (accessBut r) c.outFile text) t).1.map
              fun change => ⟨m.modelNames, c.outFile, change⟩,
            (ran (writeIfChanged (accessBut r) c.outFile text) t).2) :=
  ran_generateFrom r (reads_ofDirectory r c.modelsDir) c t

/-- A run whose output holds its text already leaves the tree as it is. -/
theorem atRest_of_unchanged {c : Config} {t : Tree} {m : ModuleDef} {text : String}
    (hmade : renderedIn r c t = .ok (m, text))
    (hchange : changeIn r t c.outFile text = .ok .unchanged) (change : Change) :
    AtRest r c ⟨m.modelNames, c.outFile, change⟩ t := by
  constructor
  · rw [ran_check, hmade]
    exact Prod.ext hchange rfl
  · rw [ran_generate, hmade]
    dsimp only
    rw [ran_writeIfChanged, hchange]
    rfl

/-- A run that does not fail to write fails before it, as checking does, or reports the change that
checking tells. -/
theorem generate_cases {c : Config} {t : Tree}
    (h : (ran (generate (accessBut r) c) t).1 ≠ .error (.error (.write c.outFile))) :
    (∃ fault, renderedIn r c t = .error fault ∧
        (ran (generate (accessBut r) c) t).1 = .error fault) ∨
      ∃ m text change, renderedIn r c t = .ok (m, text) ∧
        changeIn r t c.outFile text = .ok change ∧
        (ran (generate (accessBut r) c) t).1 = .ok ⟨m.modelNames, c.outFile, change⟩ := by
  rw [ran_generate] at h ⊢
  cases hmade : renderedIn r c t with
  | error fault => exact .inl ⟨fault, rfl, rfl⟩
  | ok made =>
      obtain ⟨m, text⟩ := made
      have hwritten := written_writeIfChanged r c.outFile text t
      rw [hmade] at h
      dsimp only at h ⊢
      generalize ran (writeIfChanged (accessBut r) c.outFile text) t = result at h hwritten ⊢
      cases hwritten with
      | failed hgrown => exact absurd rfl h
      | kept hchange => exact .inr ⟨m, text, .unchanged, rfl, hchange, rfl⟩
      | replaced hchange hne hgrown hplace => exact .inr ⟨m, text, _, rfl, hchange, rfl⟩

theorem agrees_of_not_write {c : Config} {t : Tree}
    (h : (ran (generate (accessBut r) c) t).1 ≠ .error (.error (.write c.outFile))) :
    Agrees r c t := by
  rcases generate_cases r h with
    ⟨fault, hmade, hgenerate⟩ | ⟨m, text, change, hmade, hchange, hgenerate⟩
  · have hcheck : (ran (check (accessBut r) c) t).1 = .error fault := by
      rw [ran_check, hmade]
      rfl
    refine ⟨fun change => ?_, fun fault' => ?_, fun report hok => ?_⟩
    · simp [hcheck, hgenerate]
    · simp [hcheck, hgenerate]
    · rw [hgenerate] at hok
      cases hok
  · have hcheck : (ran (check (accessBut r) c) t).1 = .ok change := by
      rw [ran_check, hmade]
      exact hchange
    refine ⟨fun change' => ?_, fun fault' => ?_, fun report hok => ?_⟩
    · simp [hcheck, hgenerate]
    · simp [hcheck, hgenerate]
    · rw [hgenerate] at hok
      obtain rfl := Except.ok.inj hok
      refine ⟨text, ?_, fits_of_changeIn r hchange⟩
      rw [ran_render, hmade]
      rfl

/-- What a run leaves is at rest, unless the scan picks up the output. -/
theorem atRest_of_generate {c : Config} {t : Tree} {report : Report}
    (h : (ran (generate (accessBut r) c) t).1 = .ok report)
    (hscan : ¬Scans r (ran (generate (accessBut r) c) t).2 c.modelsDir c.outFile) :
    AtRest r c report (ran (generate (accessBut r) c) t).2 := by
  rw [ran_generate] at h hscan ⊢
  cases hmade : renderedIn r c t with
  | error fault =>
      rw [hmade] at h
      cases h
  | ok made =>
      obtain ⟨m, text⟩ := made
      have hwritten := written_writeIfChanged r c.outFile text t
      rw [hmade] at h hscan
      dsimp only at h hscan ⊢
      generalize ran (writeIfChanged (accessBut r) c.outFile text) t = result at h hscan hwritten ⊢
      cases hwritten with
      | failed hgrown => cases h
      | kept hchange =>
          obtain rfl : ⟨m.modelNames, c.outFile, .unchanged⟩ = report := Except.ok.inj h
          exact atRest_of_unchanged r hmade hchange _
      | @replaced u target change hchange hne hgrown hplace =>
          obtain rfl : ⟨m.modelNames, c.outFile, change⟩ = report := Except.ok.inj h
          -- the scan does not see the file that was written, so the same text is rendered again
          have hrest : renderedIn r c (u.insert target (.file text.toUTF8)) = .ok (m, text) := by
            obtain ⟨specs, hspecs, hrendered⟩ := exists_specsIn_of_renderedIn r hmade
            rw [renderedIn, specsIn_replaced hgrown hplace hscan hspecs]
            exact hrendered
          refine atRest_of_unchanged r hrest ?_ change
          rw [changeIn_eq_unchanged_iff, reading_eq_contents_iff]
          exact ⟨not_refused_of_changeIn r hchange, target, hplace.find_insert _⟩

/-! ### The command line -/

/-- Whether the output is up to date is told by the exit code. -/
theorem exitCode_runWith_check {environment : String → Option String} {arguments : List String}
    {c : Config} (harguments : Command.ofArguments environment arguments = .ok (.check c))
    (t : Tree) :
    ((runWith (accessBut r) environment arguments).run t).1.exitCode = 0 ↔
      (ran (check (accessBut r) c) t).1 = .ok .unchanged := by
  have hcheck : (check (accessBut r) c).run.run t = ran (check (accessBut r) c) t := rfl
  rw [runWith, harguments]
  simp only [Command.run, run_bind, hcheck]
  generalize ran (check (accessBut r) c) t = result
  obtain ⟨outcome, u⟩ := result
  cases outcome with
  | ok change =>
      have hcode : (Ending.checked change).exitCode = 0 ↔ change = .unchanged := by
        cases change with
        | created | updated | unchanged => decide
      rw [Except.ok.injEq]
      exact hcode
  | error fault =>
      have hcode : (Ending.failed fault).exitCode ≠ 0 := by
        cases fault with
        | error cause => exact Nat.one_ne_zero
        | notIdentifier text => exact Nat.succ_ne_zero 100
      exact iff_of_false hcode fun h => nomatch h

/-- For every tree and all settings with which generating does not fail to write: checking agrees
with generating; a run that generates leaves a tree at rest, unless its scan picks up the output;
and a command line that asks for a check exits with zero exactly if the output is up to date. -/
theorem check_agrees_generate {c : Config} {t : Tree}
    (h : (ran (generate (accessBut r) c) t).1 ≠ .error (.error (.write c.outFile))) :
    Agrees r c t ∧
      (∀ report, (ran (generate (accessBut r) c) t).1 = .ok report →
        ¬Scans r (ran (generate (accessBut r) c) t).2 c.modelsDir c.outFile →
        AtRest r c report (ran (generate (accessBut r) c) t).2) ∧
      ∀ environment arguments, Command.ofArguments environment arguments = .ok (.check c) →
        (((runWith (accessBut r) environment arguments).run t).1.exitCode = 0 ↔
          (ran (check (accessBut r) c) t).1 = .ok .unchanged) :=
  ⟨agrees_of_not_write r h, fun _ hran hscan => atRest_of_generate r hran hscan,
    fun _ _ harguments => exitCode_runWith_check r harguments t⟩

/-- The run creates its output.  Before it a check fails on the command line, after it the tree is
at rest. -/
theorem check_agrees_generate_user :
    (ran (generate (accessBut .none) buildSettings) userTree).1 =
        .ok ⟨["user"], "/target/build/out.rs", .created⟩ ∧
      Agrees .none buildSettings userTree ∧
      AtRest .none buildSettings ⟨["user"], "/target/build/out.rs", .created⟩
        (ran (generate (accessBut .none) buildSettings) userTree).2 ∧
      ((runWith (accessBut .none) (fun _ => none)
        ["--check", "--models-dir=/work/models", "--out=/target/build/out.rs"]).run
          userTree).1.exitCode ≠ 0 := by
  obtain ⟨hran, hscan⟩ : (ran (generate (accessBut .none) buildSettings) userTree).1 =
        .ok ⟨["user"], "/target/build/out.rs", .created⟩ ∧
      ¬Scans .none (ran (generate (accessBut .none) buildSettings) userTree).2
        "/work/models" "/target/build/out.rs" := by decide +kernel
  have harguments : Command.ofArguments (fun _ => none)
      ["--check", "--models-dir=/work/models", "--out=/target/build/out.rs"] =
        .ok (.check buildSettings) := by decide +kernel
  obtain ⟨hagrees, hrest, hcode⟩ := check_agrees_generate .none
    (c := buildSettings) (t := userTree) (by rw [hran]; exact fun h => nomatch h)
  refine ⟨hran, hagrees, hrest _ hran hscan, ?_⟩
  rw [ne_eq, hcode _ _ harguments, (hagrees.succeeds .created).mpr ⟨_, hran, rfl⟩]
  exact fun h => nomatch h

end DocAccess.Run
