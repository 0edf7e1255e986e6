import DocAccess.Proofs.Generate.Offender
import DocAccess.Proofs.Partition.Key
import DocAccess.Proofs.Run.ModelFiles

/-!
# The order in which a directory is listed

A directory is listed in any order, and model files are sorted by their names before one of them is
read.  So a run gives the same in whatever order the names come, and so does every error of it.  The
names of models are those of the files without their endings; the ending starts with a dot, which
stands in front of every character of such a name, so both are in the same order.

* `generate_relisted` — runs do not depend on the order of listings.
* `lt_of_ending_lt` — models are in the order of their files.
* `loads_of_distinct` — what loading a directory gives.
* `listing_order_unseen` — the result.
-/

namespace DocAccess.Run

open DocAccess.Files DocAccess.Files.Tree DocAccess.Generate DocAccess.Model DocAccess.Text
open DocAccess.Source (isModuleName)

/-! ### Names of model files -/

/-- Whether a file of a name is a model file, and the name of the model that it declares. -/
structure IsModelFile (file name : String) : Prop where
  ending : file = name ++ ".rs"
  shown : file.toList.head? ≠ some '.'
  own : name ∉ gatheringStems

theorem append_dot_rs (name : String) : name ++ "." ++ "rs" = name ++ ".rs" := by
  rw [String.append_assoc]
  rfl

theorem eq_of_ending {name name' : String} (h : name ++ ".rs" = name' ++ ".rs") : name = name' := by
  simpa using h

namespace IsModelFile

variable {file name : String}

theorem exists_cons (h : IsModelFile file name) :
    ∃ c cs, name.toList = c :: cs ∧ c ≠ '.' := by
  obtain ⟨rfl, hshown, -⟩ := h
  rw [String.toList_append] at hshown
  cases hname : name.toList with
  | nil =>
      rw [hname] at hshown
      exact absurd rfl hshown
  | cons c cs => exact ⟨c, cs, rfl, fun hc => hshown (by simp [hname, hc])⟩

theorem splitName_eq (h : IsModelFile file name) : splitName file = (name, some "rs") := by
  obtain ⟨c, cs, hname, -⟩ := h.exists_cons
  refine splitName_eq_iff.mpr ⟨h.ending.trans (append_dot_rs name).symm, ?_, by decide⟩
  rintro rfl
  cases hname

end IsModelFile

theorem isModelName_iff (file : String) :
    isModelName file = true ↔ ∃ name, IsModelFile file name := by
  constructor
  · intro h
    rcases hsplit : splitName file with ⟨stem, extension⟩
    simp only [isModelName, hsplit, Bool.and_eq_true, beq_iff_eq, bne_iff_ne, Bool.not_eq_true',
      List.contains_eq_mem, decide_eq_false_iff_not] at h
    obtain ⟨⟨rfl, hhead⟩, hown⟩ := h
    obtain ⟨rfl, hne, -⟩ := splitName_eq_iff.mp hsplit
    obtain ⟨c, cs, hstem⟩ : ∃ c cs, stem.toList = c :: cs :=
      List.exists_cons_of_ne_nil (by simpa using hne)
    exact ⟨stem, append_dot_rs stem, by simpa [hstem] using hhead, hown⟩
  · rintro ⟨name, h⟩
    obtain ⟨c, cs, hname, hc⟩ := h.exists_cons
    simp [isModelName, h.splitName_eq, hname, hc, h.own]

/-! ### The order of names -/

theorem dot_lt_of_isNamePart {c : Char} (hc : isNamePart c = true) : '.' < c := by
  have h := holds_of_ascii (p := fun c => !isNamePart c || decide ('.' < c)) (by decide)
    (toNat_lt_of_isNamePart hc)
  simpa [hc] using h

/-- Texts whose characters come behind the dot are in the order of what they are with an ending. -/
theorem lt_of_append_dot_lt {l l' ending : List Char} (hl : ∀ c ∈ l, '.' < c)
    (hl' : ∀ c ∈ l', '.' < c) (h : l ++ '.' :: ending < l' ++ '.' :: ending) : l < l' := by
  induction l generalizing l' with
  | nil =>
      cases l' with
      | nil => exact absurd h (List.lt_irrefl _)
      | cons c' l' => exact List.nil_lt_cons _ _
  | cons c l ih =>
      obtain ⟨hc, hrest⟩ := List.forall_mem_cons.mp hl
      cases l' with
      | nil =>
          -- the shorter text would come behind the longer one
          rcases List.cons_lt_cons_iff.mp h with hhead | ⟨rfl, -⟩
          · exact absurd hhead (Char.lt_asymm hc)
          · exact absurd hc (Char.lt_irrefl _)
      | cons c' l' =>
          obtain ⟨-, hrest'⟩ := List.forall_mem_cons.mp hl'
          rcases List.cons_lt_cons_iff.mp h with hhead | ⟨rfl, htail⟩
          · exact List.cons_lt_cons_iff.mpr (.inl hhead)
          · exact List.cons_lt_cons_iff.mpr (.inr ⟨rfl, ih hrest hrest' htail⟩)

theorem lt_of_ending_lt {name name' : String} (hname : isModuleName name = true)
    (hname' : isModuleName name' = true) (h : name ++ ".rs" < name' ++ ".rs") : name < name' := by
  have hbehind : ∀ {text : String}, isModuleName text = true → ∀ c ∈ text.toList, '.' < c := by
    intro text htext c hc
    rw [isModuleName, isLowercaseName, Bool.and_eq_true, Bool.and_eq_true] at htext
    exact dot_lt_of_isNamePart ((isName_of_isPlainName htext.1.1).parts c hc)
  have hchars : (name ++ ".rs").toList < (name' ++ ".rs").toList := h
  rw [String.toList_append, String.toList_append] at hchars
  exact lt_of_append_dot_lt (hbehind hname) (hbehind hname') hchars

theorem mem_modelNames {names : List String} {file : String} :
    file ∈ modelNames names ↔ file ∈ names ∧ isModelName file = true := by
  rw [modelNames, List.mem_mergeSort, List.mem_filter]

theorem pairwise_modelNames (names : List String) : (modelNames names).Pairwise (· ≤ ·) := by
  refine (List.pairwise_mergeSort (fun a b c hab hbc => ?_) (fun a b => ?_) _).imp fun hab => ?_
  · rw [decide_eq_true_eq] at hab hbc ⊢
    exact String.le_trans hab hbc
  · simpa using String.le_total a b
  · simpa using hab

/-- Names that are not repeated are sorted strictly. -/
theorem pairwise_lt_modelNames {names : List String} (h : names.Nodup) :
    (modelNames names).Pairwise (· < ·) := by
  have hnodup : (modelNames names).Nodup :=
    (List.mergeSort_perm _ _).nodup_iff.mpr (h.filter _)
  refine ((pairwise_modelNames names).and hnodup).imp fun ⟨hle, hne⟩ => ?_
  by_contra hlt
  exact hne (String.le_antisymm hle (String.not_lt.mp hlt))

/-- The names of model files are decided by which there are. -/
theorem modelNames_eq {names files : List String} (hfiles : files.Pairwise (· ≤ ·))
    (h : files.Perm (names.filter isModelName)) : modelNames names = files := by
  have hsame : (modelNames names).Perm files := (List.mergeSort_perm _ _).trans h.symm
  exact hsame.eq_of_pairwise (fun _ _ _ _ => String.le_antisymm) (pairwise_modelNames names) hfiles

theorem modelNames_perm {names names' : List String} (h : names'.Perm names) :
    modelNames names' = modelNames names :=
  modelNames_eq (pairwise_modelNames names) ((List.mergeSort_perm _ _).trans (h.symm.filter _))

/-! ### Listing in another order -/

/-- An order of the names in every listing; it may depend on all of them. -/
structure Relisting where
  order : String → List String → List String
  perm : ∀ path names, (order path names).Perm names

section Relisted

variable {m : Type → Type} [Monad m]

/-- Files whose directories are listed in another order. -/
def relisted (files : Access m) (listed : Relisting) : Access m :=
  { files with list := fun path => (·.map (listed.order path)) <$> files.list path }

variable [LawfulMonad m] (files : Access m) (listed : Relisting) (directory : String)

theorem listModels_relisted :
    listModels (relisted files listed) directory = listModels files directory := by
  have hlist : (liftM ((relisted files listed).list directory) : ExceptT GenerateError m _) =
      (·.map (listed.order directory)) <$> liftM (files.list directory) := liftM_map _ _
  rw [listModels, listModels, hlist, bind_map_left]
  refine bind_congr fun names => ?_
  cases names with
  | none => rfl
  | some names => exact congrArg pure (modelNames_perm (listed.perm directory names))

omit [LawfulMonad m] in
theorem loadModels_relisted (names : List String) :
    loadModels (relisted files listed) directory names = loadModels files directory names := by
  induction names with
  | nil => rfl
  | cons name names ih =>
      rw [loadModels, loadModels, ih]
      rfl

theorem loadDirectory_relisted :
    loadDirectory (relisted files listed) directory = loadDirectory files directory := by
  rw [loadDirectory, loadDirectory, listModels_relisted]
  exact bind_congr (loadModels_relisted files listed directory)

theorem generate_relisted (c : Config) :
    generate (relisted files listed) c = generate files c := by
  have hsource : ofDirectory (relisted files listed) c.modelsDir = ofDirectory files c.modelsDir :=
    congrArg (·.adapt Fault.error) (loadDirectory_relisted files listed c.modelsDir)
  rw [generate, generate, hsource]
  rfl

end Relisted

/-! ### Loading a directory -/

variable (r : Refusals) (t : Tree) (directory : String)

/-- Whether a directory of a tree has a model file. -/
structure HasModel (location : Location) (file name : String) : Prop where
  named : IsModelFile file name
  held : ∃ bytes, t.get? (location ++ [file]) = some (.file bytes)

/-- What loading the models of a directory gives. -/
inductive Loads : Except GenerateError (List Spec) → Prop
  | unlisted (hnone : t.listing r directory = none) : Loads (.error (.readDirectory directory))
  /-- Some model file is not valid, and those in front of it are. -/
  | refused {location : Location} {file name : String} {e : GenerateError}
      (hfind : t.find directory = .entry location .directory)
      (hfile : HasModel t location file name) (hrefused : specIn r t directory file = .error e)
      (hfirst : ∀ file' name', HasModel t location file' name' → file' < file →
        ∃ s, specIn r t directory file' = .ok s) :
      Loads (.error e)
  /-- All model files are valid, and each gives one model, in the order of their names. -/
  | loaded {location : Location} {specs : List Spec}
      (hfind : t.find directory = .entry location .directory)
      (hascending : (specs.map (·.name)).Pairwise (· < ·))
      (hnames : ∀ name, name ∈ specs.map (·.name) ↔ ∃ file, HasModel t location file name)
      (hdeclared : ∀ s ∈ specs, specIn r t directory (s.name ++ ".rs") = .ok s)
      (hassembles : ∀ c model, ModuleDef.assemble specs c ≠ .error (.duplicateModel model)) :
      Loads (.ok specs)

variable {r t directory}

theorem name_of_ofText? {name text : String} {s : Spec} (h : Spec.ofText? name text = .ok s) :
    s.name = name := by
  unfold Spec.ofText? at h
  split at h
  · cases h
  · split at h
    · cases h
    · cases h
    · next path hpath =>
        dsimp only at h
        split at h
        · obtain rfl := Except.ok.inj h
          rfl
        · cases h

/-- A model has the name of its file, which is one for a module. -/
theorem name_of_specIn {file name : String} {s : Spec} (hfile : IsModelFile file name)
    (h : specIn r t directory file = .ok s) : s.name = name ∧ isModuleName name = true := by
  obtain ⟨bytes, hreading⟩ := exists_contents_of_specIn r h
  unfold specIn Spec.ofContents? at h
  rw [hreading, hfile.splitName_eq] at h
  dsimp only at h
  cases hname : isModuleName name with
  | false =>
      rw [hname] at h
      cases h
  | true =>
      rw [hname, if_neg (by decide)] at h
      split at h
      · next text htext =>
          obtain ⟨declared, hdeclared, hs⟩ := (bind_eq_ok_iff _ _ _).mp h
          obtain rfl := Except.ok.inj hs
          exact ⟨(name_of_ofText? hdeclared :), rfl⟩
      · cases h

/-- The models that valid files declare, one for each. -/
theorem files_of_specs {files : List String} {specs : List Spec}
    (hfiles : ∀ file ∈ files, ∃ name, IsModelFile file name)
    (h : List.Forall₂ (fun file s => specIn r t directory file = .ok s) files specs) :
    files = specs.map (·.name ++ ".rs") ∧
      ∀ s ∈ specs, isModuleName s.name = true ∧ specIn r t directory (s.name ++ ".rs") = .ok s := by
  induction h with
  | nil => simp
  | @cons file s files specs hs _ ih =>
      obtain ⟨⟨name, hfile⟩, hrest⟩ := List.forall_mem_cons.mp hfiles
      obtain ⟨rfl, hdeclared⟩ := ih hrest
      obtain ⟨rfl, hname⟩ := name_of_specIn hfile hs
      obtain rfl := hfile.ending
      exact ⟨rfl, List.forall_mem_cons.mpr ⟨⟨hname, hs⟩, hdeclared⟩⟩

/-- A listing has exactly the model files of its directory. -/
theorem mem_modelNames_fileNames (ht : (t.entries.map (·.1)).Nodup) {location : Location}
    {file : String} :
    file ∈ modelNames (t.fileNames location) ↔ ∃ name, HasModel t location file name := by
  rw [mem_modelNames, isModelName_iff, mem_fileNames_iff ht]
  constructor
  · rintro ⟨hheld, name, hfile⟩
    exact ⟨name, hfile, hheld⟩
  · rintro ⟨name, hfile, hheld⟩
    exact ⟨hheld, name, hfile⟩

section Row

variable {location : Location} {files : List String}
  (hfind : t.find directory = .entry location .directory) (hsorted : files.Pairwise (· < ·))
  (hfiles : ∀ file, file ∈ files ↔ ∃ name, HasModel t location file name)

include hfind hsorted hfiles

theorem loads_error {e : GenerateError} (h : files.mapM (specIn r t directory) = .error e) :
    Loads r t directory (.error e) := by
  obtain ⟨before, file, after, rfl, hbefore, hrefused⟩ := mapM_eq_error_iff.mp h
  obtain ⟨name, hfile⟩ := (hfiles file).mp (by simp)
  refine .refused hfind hfile hrefused fun file' name' hfile' hlt => hbefore file' ?_
  -- no file that comes later in the row has a name in front of this one
  obtain ⟨-, hbehind, -⟩ := List.pairwise_append.mp hsorted
  rcases List.mem_append.mp ((hfiles file').mpr ⟨name', hfile'⟩) with hin | hin
  · exact hin
  · rcases List.mem_cons.mp hin with rfl | hafter
    · exact absurd hlt (String.lt_irrefl _)
    · exact absurd hlt (Std.Asymm.asymm _ _ (List.rel_of_pairwise_cons hbehind hafter))

theorem loads_ok {specs : List Spec} (h : files.mapM (specIn r t directory) = .ok specs) :
    Loads r t directory (.ok specs) := by
  have hnamed : ∀ file ∈ files, ∃ name, IsModelFile file name := by
    intro file hfile
    obtain ⟨name, hmodel⟩ := (hfiles file).mp hfile
    exact ⟨name, hmodel.named⟩
  obtain ⟨rfl, hdeclared⟩ := files_of_specs hnamed (mapM_eq_ok_iff.mp h)
  have hascending : (specs.map (·.name)).Pairwise (· < ·) := by
    refine List.pairwise_map.mpr ((List.pairwise_map.mp hsorted).imp_of_mem fun hs hs' hlt => ?_)
    exact lt_of_ending_lt (hdeclared _ hs).1 (hdeclared _ hs').1 hlt
  have hnames : ∀ name, name ∈ specs.map (·.name) ↔ ∃ file, HasModel t location file name := by
    intro name
    constructor
    · intro hname
      obtain ⟨s, hs, rfl⟩ := List.mem_map.mp hname
      obtain ⟨name, hmodel⟩ := (hfiles _).mp (List.mem_map.mpr ⟨s, hs, rfl⟩)
      obtain rfl : s.name = name := eq_of_ending hmodel.named.ending
      exact ⟨_, hmodel⟩
    · rintro ⟨file, hmodel⟩
      obtain ⟨s, hs, hfile⟩ := List.mem_map.mp ((hfiles file).mpr ⟨name, hmodel⟩)
      exact List.mem_map.mpr ⟨s, hs, eq_of_ending (hfile.trans hmodel.named.ending)⟩
  exact .loaded hfind hascending hnames (fun s hs => (hdeclared s hs).2)
    (ne_duplicateModel (hascending.imp fun hlt => Std.ne_of_lt hlt))

end Row

theorem loads_of_distinct (r : Refusals) (ht : (t.entries.map (·.1)).Nodup) (directory : String) :
    Loads r t directory (specsIn r t directory) := by
  cases hlisted : t.listing r directory with
  | none =>
      rw [specsIn, namesIn, hlisted]
      exact .unlisted hlisted
  | some names =>
      have hnames : namesIn r t directory = .ok (modelNames names) := by rw [namesIn, hlisted]
      obtain ⟨location, -, hfind, hsame⟩ := listed_of_namesIn r hnames
      have hsorted := pairwise_lt_modelNames (nodup_fileNames ht location)
      have hspecs : specsIn r t directory =
          (modelNames (t.fileNames location)).mapM (specIn r t directory) := by
        rw [specsIn, hnames, hsame]
        rfl
      rw [hspecs]
      cases hrow : (modelNames (t.fileNames location)).mapM (specIn r t directory) with
      | error e => exact loads_error hfind hsorted (fun _ => mem_modelNames_fileNames ht) hrow
      | ok specs => exact loads_ok hfind hsorted (fun _ => mem_modelNames_fileNames ht) hrow

/-! ### The order of listings -/

/-- Whatever gives access to files and however it lists them: in two orders, the model files of a
directory, the models that they declare and a run of the generator are the same, with everything
that they do and every error.  In a tree that has one entry for a location, loading a directory
fails with its first model file that is not valid, or it gives one model for each model file, in the
order of their names, and assembling them does not find a name twice. -/
theorem listing_order_unseen :
    (∀ {m : Type → Type} [Monad m] [LawfulMonad m] (files : Access m) (first second : Relisting),
      (∀ directory, listModels (relisted files first) directory =
          listModels (relisted files second) directory ∧
        loadDirectory (relisted files first) directory =
          loadDirectory (relisted files second) directory) ∧
      ∀ c, generate (relisted files first) c = generate (relisted files second) c) ∧
    ∀ (r : Refusals) {t : Tree}, (t.entries.map (·.1)).Nodup →
      ∀ (listed : Relisting) (directory : String),
        Loads r t directory
          (ran (loadDirectory (relisted (accessBut r) listed) directory) t).1 := by
  constructor
  · intro m _ _ files first second
    refine ⟨fun directory => ⟨?_, ?_⟩, fun c => ?_⟩
    · rw [listModels_relisted, listModels_relisted]
    · rw [loadDirectory_relisted, loadDirectory_relisted]
    · rw [generate_relisted, generate_relisted]
  · intro r t ht listed directory
    rw [loadDirectory_relisted, ← loaded, loaded_eq]
    exact loads_of_distinct r ht directory

/-- A directory that lists its models against the order of their names, and files that declare
none. -/
def rolesTree : Tree :=
  let contents (typeName : String) : Entry :=
    .file ("pub const PARTITION_KEY: &str = \"/id\";\npub struct " ++ typeName ++ ";").toUTF8
  { entries :=
      [(["models", "user_role.rs"], contents "UserRole"), (["models", "mod.rs"], .file .empty),
        (["models", "user.rs"], contents "User"), (["models", ".user.rs"], .file .empty),
        (["models"], .directory)] }

/-- Listings as they come. -/
def Relisting.forward : Relisting := ⟨fun _ names => names, fun _ names => .refl names⟩

/-- Listings from behind. -/
def Relisting.backward : Relisting := ⟨fun _ names => names.reverse, fun _ => List.reverse_perm⟩

/-- Users come before their roles in either order, and are not listed for the other files. -/
theorem listing_order_unseen_roles :
    (rolesTree.entries.map (·.1)).Nodup ∧
      (∀ listed ∈ [Relisting.forward, .backward],
        (ran (loadDirectory (relisted (accessBut .none) listed) "/models") rolesTree).1.map
          (·.map (·.name)) = .ok ["user", "user_role"]) ∧
      Loads .none rolesTree "/models"
        (ran (loadDirectory (relisted (accessBut .none) .backward) "/models") rolesTree).1 := by
  have hdistinct : (rolesTree.entries.map (·.1)).Nodup := by decide +kernel
  have hlisting : rolesTree.listing .none "/models" =
      some ["user_role.rs", "mod.rs", "user.rs", ".user.rs"] := by decide +kernel
  have hnames : namesIn .none rolesTree "/models" = .ok ["user.rs", "user_role.rs"] := by
    rw [namesIn, hlisting]
    exact congrArg Except.ok (modelNames_eq (by decide +kernel) (by decide +kernel))
  have hforward :
      (ran (loadDirectory (relisted (accessBut .none) .forward) "/models") rolesTree).1.map
        (·.map (·.name)) = .ok ["user", "user_role"] := by
    rw [loadDirectory_relisted, ← loaded, loaded_eq, specsIn, hnames]
    decide +kernel
  obtain ⟨hsame, hloads⟩ := listing_order_unseen
  refine ⟨hdistinct, fun listed _ => ?_, hloads .none hdistinct .backward "/models"⟩
  rw [((hsame (accessBut .none) listed .forward).1 "/models").2, hforward]

end DocAccess.Run
