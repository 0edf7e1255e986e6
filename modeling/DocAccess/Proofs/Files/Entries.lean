import DocAccess.Files.Entries
import DocAccess.Proofs.Checks

/-!
# Locations and paths in a tree

What is at each location after an entry is put in or taken out, where a path leads, and what becomes
of a tree in which directories are made along a path: it has what it had, and directories where
nothing was.
-/

namespace DocAccess.Files.Tree

variable {t t' : Tree} {l l' : Location} {e : Entry}

/-! ### Locations -/

theorem get?_of_ne_nil (t : Tree) (hl : l ≠ []) : t.get? l = t.entries.lookup l := by
  simp [get?, hl]

@[simp] theorem get?_top (t : Tree) : t.get? [] = some .directory := rfl

theorem lookup_cons (k : Location) (e : Entry) (rest : List (Location × Entry)) (l : Location) :
    List.lookup l ((k, e) :: rest) = if l = k then some e else rest.lookup l := by
  by_cases hl : l = k
  · simp [hl]
  · rw [List.lookup_cons, beq_eq_false_iff_ne.mpr hl, if_neg hl]

theorem lookup_filter_ne (entries : List (Location × Entry)) (l l' : Location) :
    (entries.filter (·.1 != l)).lookup l' = if l' = l then none else entries.lookup l' := by
  induction entries with
  | nil => simp
  | cons first rest ih =>
      obtain ⟨k, e⟩ := first
      by_cases hk : k = l
      · subst hk
        rw [List.filter_cons_of_neg (by simp), ih, lookup_cons]
        by_cases hl : l' = k
        · simp [hl]
        · simp [hl]
      · rw [List.filter_cons_of_pos (by simpa using hk), lookup_cons, lookup_cons, ih]
        by_cases hl : l' = l
        · simp [hl, Ne.symm hk]
        · simp [hl]

theorem get?_insert (t : Tree) (hl : l ≠ []) (e : Entry) (l' : Location) :
    (t.insert l e).get? l' = if l' = l then some e else t.get? l' := by
  by_cases htop : l' = []
  · subst htop
    simp [Ne.symm hl]
  · rw [get?_of_ne_nil _ htop, get?_of_ne_nil _ htop, insert, lookup_cons, lookup_filter_ne]
    by_cases heq : l' = l
    · simp [heq]
    · simp [heq]

theorem ne_nil_of_get?_eq_none (h : t.get? l = none) : l ≠ [] := by
  rintro rfl
  cases h

/-- Whether directories stay directories, and one of them the working directory. -/
structure KeepsDirectories (t t' : Tree) : Prop where
  directories : ∀ l, t.get? l = some .directory → t'.get? l = some .directory
  workdir : t'.workdir = t.workdir

theorem KeepsDirectories.trans {t'' : Tree} (h : KeepsDirectories t t')
    (h' : KeepsDirectories t' t'') : KeepsDirectories t t'' :=
  ⟨fun l hl => h'.directories l (h.directories l hl), h'.workdir.trans h.workdir⟩

theorem keepsDirectories_insert (hl : l ≠ []) (h : t.get? l ≠ some .directory) (e : Entry) :
    KeepsDirectories t (t.insert l e) := by
  refine ⟨fun l' hl' => ?_, rfl⟩
  rw [get?_insert t hl, if_neg]
  · exact hl'
  · rintro rfl
    exact h hl'

/-! ### Paths -/

/-- Where a step leads from a location. -/
def next (l : Location) (step : String) : Location :=
  if step = ".." then l.dropLast else l ++ [step]

/-- Where steps lead from a location, whatever is there. -/
def resolve (l : Location) (path : List String) : Location := path.foldl next l

/-- Whether a location is on the way along steps from another one. -/
def OnWay (l : Location) (path : List String) (n : Location) : Prop :=
  ∃ p, p <+: path ∧ n = resolve l p

theorem OnWay.cons {step : String} {path : List String} {n : Location}
    (h : OnWay (next l step) path n) : OnWay l (step :: path) n := by
  obtain ⟨p, hp, rfl⟩ := h
  exact ⟨step :: p, List.cons_prefix_cons.mpr ⟨rfl, hp⟩, rfl⟩

theorem onWay_next (l : Location) (step : String) (path : List String) :
    OnWay l (step :: path) (next l step) :=
  ⟨[step], List.cons_prefix_cons.mpr ⟨rfl, List.nil_prefix⟩, rfl⟩

theorem follow_nil (t : Tree) (l : Location) :
    t.follow l [] =
      match t.get? l with
      | some e => .entry l e
      | none => .missing := rfl

theorem follow_step (t : Tree) (l : Location) (step : String) (path : List String) :
    t.follow l (step :: path) =
      match t.get? l with
      | some .directory => t.follow (next l step) path
      | some (.file _) => .blocked
      | none => .missing := rfl

theorem follow_cons (ht : t.get? l = some .directory) (step : String) (path : List String) :
    t.follow l (step :: path) = t.follow (next l step) path := by
  rw [follow_step, ht]

/-- Following steps goes through directories and comes to an entry. -/
theorem follow_cons_eq_entry {step : String} {path : List String}
    (h : t.follow l (step :: path) = .entry l' e) :
    t.get? l = some .directory ∧ t.follow (next l step) path = .entry l' e := by
  cases hl : t.get? l with
  | none => simp [follow_step, hl] at h
  | some entry =>
      cases entry with
      | file bytes => simp [follow_step, hl] at h
      | directory => exact ⟨rfl, by rwa [follow_cons hl] at h⟩

theorem follow_nil_eq_entry_iff : t.follow l [] = .entry l' e ↔ l = l' ∧ t.get? l = some e := by
  rw [follow_nil]
  cases t.get? l with
  | none => simp
  | some entry => simp

/-- Steps that come to a directory start at one. -/
theorem get?_of_follow_directory {path : List String}
    (h : t.follow l path = .entry l' .directory) : t.get? l = some .directory := by
  cases path with
  | nil =>
      obtain ⟨rfl, hl⟩ := follow_nil_eq_entry_iff.mp h
      exact hl
  | cons step path => exact (follow_cons_eq_entry h).1

theorem eq_resolve_of_follow {path : List String} (h : t.follow l path = .entry l' e) :
    l' = resolve l path ∧ t.get? l' = some e := by
  induction path generalizing l with
  | nil =>
      obtain ⟨rfl, hl⟩ := follow_nil_eq_entry_iff.mp h
      exact ⟨rfl, hl⟩
  | cons step path ih => exact ih (follow_cons_eq_entry h).2

/-- As long as directories stay, steps lead where they led. -/
theorem follow_of_keepsDirectories (hkeep : KeepsDirectories t t') {path : List String}
    (h : t.follow l path = .entry l' e) {e' : Entry} (he : t'.get? l' = some e') :
    t'.follow l path = .entry l' e' := by
  induction path generalizing l with
  | nil =>
      obtain ⟨rfl, -⟩ := follow_nil_eq_entry_iff.mp h
      exact follow_nil_eq_entry_iff.mpr ⟨rfl, he⟩
  | cons step path ih =>
      obtain ⟨hl, h⟩ := follow_cons_eq_entry h
      rw [follow_cons (hkeep.directories l hl)]
      exact ih h

/-- As long as directories stay, the steps to one of them lead there. -/
theorem follow_directory_of_keepsDirectories (hkeep : KeepsDirectories t t') {path : List String}
    (h : t.follow l path = .entry l' .directory) : t'.follow l path = .entry l' .directory :=
  follow_of_keepsDirectories hkeep h (hkeep.directories l' (eq_resolve_of_follow h).2)

theorem follow_append {path : List String} (h : t.follow l path = .entry l' .directory)
    (rest : List String) : t.follow l (path ++ rest) = t.follow l' rest := by
  induction path generalizing l with
  | nil =>
      obtain ⟨rfl, -⟩ := follow_nil_eq_entry_iff.mp h
      rfl
  | cons step path ih =>
      obtain ⟨hl, h⟩ := follow_cons_eq_entry h
      rw [List.cons_append, follow_cons hl, ih h]

theorem directory?_eq_some_iff {found : Found} :
    found.directory? = some l ↔ found = .entry l .directory := by
  unfold Found.directory?
  split
  · simp
  · next hother =>
      constructor
      · exact fun h => nomatch h
      · exact fun h => absurd h (hother l)

theorem start?_eq_some_iff {path : String} :
    t.start? path = some l ↔ path ≠ "" ∧
      if isAbsolute path then l = [] else t.follow [] t.workdir = .entry l .directory := by
  unfold start?
  by_cases hempty : path = ""
  · simp [hempty]
  · rw [if_neg (by simpa using hempty)]
    split
    · simp [hempty, eq_comm]
    · simp [hempty, directory?_eq_some_iff]

/-- As long as directories stay, paths start where they started. -/
theorem start?_of_keepsDirectories (hkeep : KeepsDirectories t t') {path : String}
    (h : t.start? path = some l) : t'.start? path = some l := by
  rw [start?_eq_some_iff] at h ⊢
  refine ⟨h.1, ?_⟩
  cases habsolute : isAbsolute path with
  | true => simpa [habsolute] using h.2
  | false =>
      have hfollow : t.follow [] t.workdir = .entry l .directory := by simpa [habsolute] using h.2
      rw [if_neg Bool.false_ne_true, hkeep.workdir]
      exact follow_directory_of_keepsDirectories hkeep hfollow

theorem find_eq_entry_iff {path : String} :
    t.find path = .entry l e ↔
      ∃ start, t.start? path = some start ∧ t.follow start (steps path) = .entry l e ∧
        (e.isDirectory = false → namesDirectory path = false) := by
  unfold find
  cases t.start? path with
  | none => simp
  | some start =>
      simp only [Option.some.injEq, exists_eq_left']
      cases t.follow start (steps path) with
      | missing => simp
      | blocked => simp
      | entry l'' e'' =>
          cases e'' with
          | directory =>
              simp only [Found.entry.injEq]
              constructor
              · rintro ⟨rfl, rfl⟩
                exact ⟨⟨rfl, rfl⟩, fun h => nomatch h⟩
              · exact fun h => h.1
          | file bytes =>
              -- a path that ends like that of a directory finds no file
              cases hnames : namesDirectory path with
              | true =>
                  simp only [if_true, reduceCtorEq, false_iff, Found.entry.injEq]
                  rintro ⟨⟨rfl, rfl⟩, h⟩
                  exact nomatch h rfl
              | false => simp

/-- What a path leads to is there. -/
theorem get?_of_find {path : String} (h : t.find path = .entry l e) : t.get? l = some e := by
  obtain ⟨start, -, hfollow, -⟩ := find_eq_entry_iff.mp h
  exact (eq_resolve_of_follow hfollow).2

/-! ### Directories made -/

/-- How a tree grows by directories at some of the locations where nothing was. -/
inductive Grown (allowed : Location → Prop) : Tree → Tree → Prop
  | refl (t : Tree) : Grown allowed t t
  | made {t t' : Tree} {l : Location} (hallowed : allowed l) (hnone : t.get? l = none)
      (hrest : Grown allowed (t.insert l .directory) t') : Grown allowed t t'

namespace Grown

variable {allowed : Location → Prop}

theorem mono {wider : Location → Prop} (hwider : ∀ l, allowed l → wider l)
    (h : Grown allowed t t') : Grown wider t t' := by
  induction h with
  | refl t => exact .refl t
  | made hallowed hnone _ ih => exact .made (hwider _ hallowed) hnone ih

/-- What was in the tree is in it still, and all that is new is a directory. -/
theorem get? (h : Grown allowed t t') (l : Location) :
    t'.get? l = t.get? l ∨
      t.get? l = none ∧ t'.get? l = some .directory ∧ allowed l := by
  induction h with
  | refl t => exact .inl rfl
  | @made t t' n hallowed hnone _ ih =>
      rw [get?_insert t (ne_nil_of_get?_eq_none hnone)] at ih
      by_cases hl : l = n
      · subst hl
        rw [if_pos rfl] at ih
        rcases ih with hsame | ⟨habsurd, -⟩
        · exact .inr ⟨hnone, hsame, hallowed⟩
        · cases habsurd
      · rwa [if_neg hl] at ih

theorem get?_of_some (h : Grown allowed t t') (hl : t.get? l = some e) : t'.get? l = some e := by
  rcases h.get? l with hsame | ⟨hnone, -⟩
  · rw [hsame, hl]
  · rw [hnone] at hl
    cases hl

theorem workdir (h : Grown allowed t t') : t'.workdir = t.workdir := by
  induction h with
  | refl t => rfl
  | made _ _ _ ih => exact ih

theorem keepsDirectories (h : Grown allowed t t') : KeepsDirectories t t' :=
  ⟨fun _ hl => h.get?_of_some hl, h.workdir⟩

end Grown

/-! ### Names -/

theorem get?_eq_none_iff (hl : l ≠ []) : t.get? l = none ↔ ∀ e ∈ t.entries, e.1 ≠ l := by
  rw [get?_of_ne_nil t hl, List.lookup_eq_none_iff]
  constructor
  · intro h e he heq
    simpa [heq] using h e he
  · intro h e he
    simpa using Ne.symm (h e he)

theorem filter_ne_of_forall {entries : List (Location × Entry)} (h : ∀ e ∈ entries, e.1 ≠ l) :
    entries.filter (·.1 != l) = entries := by
  rw [List.filter_eq_self]
  intro e he
  simpa using h e he

/-- New directories add no file to any directory. -/
theorem Grown.fileNames {allowed : Location → Prop} (h : Grown allowed t t') (l : Location) :
    t'.fileNames l = t.fileNames l := by
  induction h with
  | refl t => rfl
  | @made t t' n _ hnone _ ih =>
      have hne := (get?_eq_none_iff (ne_nil_of_get?_eq_none hnone)).mp hnone
      rw [ih, Tree.fileNames, insert, filter_ne_of_forall hne]
      rfl

/-- The name that an entry has among the files of a directory. -/
def nameIn (l : Location) (e : Location × Entry) : Option String :=
  match e.2 with
  | .file _ => if e.1.dropLast == l then e.1.getLast? else none
  | .directory => none

theorem fileNames_eq (t : Tree) (l : Location) : t.fileNames l = t.entries.filterMap (nameIn l) :=
  rfl

theorem nameIn_file (above : Location) (name : String) (bytes : ByteArray) (l : Location) :
    nameIn l (above ++ [name], .file bytes) = if above = l then some name else none := by
  simp [nameIn]

/-- A file that is put in adds its name to those of its directory, and keeps every other name. -/
theorem filter_fileNames_insert {above : Location} {name : String} {p : String → Bool}
    (hname : above = l → p name = false) (t : Tree) (bytes : ByteArray) :
    ((t.insert (above ++ [name]) (.file bytes)).fileNames l).filter p =
      (t.fileNames l).filter p := by
  -- the entry that makes way has no name that passes
  have hold : ∀ entries : List (Location × Entry),
      ((entries.filter (·.1 != above ++ [name])).filterMap (nameIn l)).filter p =
        (entries.filterMap (nameIn l)).filter p := by
    intro entries
    induction entries with
    | nil => rfl
    | cons first rest ih =>
        by_cases hfirst : first.1 = above ++ [name]
        · obtain ⟨_, entry⟩ := first
          subst hfirst
          rw [List.filter_cons_of_neg (by simp), ih]
          cases entry with
          | directory => rfl
          | file old =>
              by_cases hl : above = l
              · simp [nameIn_file, hl, hname hl]
              · simp [nameIn_file, hl]
        · rw [List.filter_cons_of_pos (by simpa using hfirst)]
          cases hin : nameIn l first with
          | none => simp [hin, ih]
          | some other => simp [hin, List.filter_cons, ih]
  rw [fileNames_eq, fileNames_eq, insert]
  by_cases hl : above = l
  · rw [List.filterMap_cons_some (by rw [nameIn_file, if_pos hl]),
      List.filter_cons_of_neg (by simpa using hname hl), hold]
  · rw [List.filterMap_cons_none (by rw [nameIn_file, if_neg hl]), hold]

theorem mem_fileNames_insert (t : Tree) (l : Location) (name : String) (bytes : ByteArray) :
    name ∈ (t.insert (l ++ [name]) (.file bytes)).fileNames l := by
  rw [fileNames_eq, insert]
  rw [List.filterMap_cons_some (by rw [nameIn_file, if_pos rfl])]
  exact List.mem_cons_self

/-- What is found under a key is what the entries have under it, if they have it once. -/
theorem lookup_eq_some_iff_mem {entries : List (Location × Entry)}
    (hentries : (entries.map (·.1)).Nodup) : entries.lookup l = some e ↔ (l, e) ∈ entries := by
  induction entries with
  | nil => simp
  | cons first rest ih =>
      obtain ⟨k, e'⟩ := first
      obtain ⟨hnew, hrest⟩ := List.nodup_cons.mp hentries
      rw [lookup_cons, List.mem_cons, ← ih hrest]
      by_cases hl : l = k
      · subst hl
        have hnone : rest.lookup l ≠ some e := by
          rw [Ne, ih hrest]
          exact fun hmem => hnew (List.mem_map.mpr ⟨_, hmem, rfl⟩)
        simp [hnone, eq_comm]
      · simp [hl]

theorem eq_concat_of_nameIn {entry : Location × Entry} {name : String}
    (h : nameIn l entry = some name) : ∃ bytes, entry = (l ++ [name], .file bytes) := by
  obtain ⟨k, e⟩ := entry
  cases e with
  | directory => cases h
  | file bytes =>
      simp only [nameIn, Option.ite_none_right_eq_some, beq_iff_eq] at h
      obtain ⟨rfl, hlast⟩ := h
      obtain ⟨above, rfl⟩ := List.getLast?_eq_some_iff.mp hlast
      exact ⟨bytes, by rw [List.dropLast_concat]⟩

section Distinct

variable (ht : (t.entries.map (·.1)).Nodup)

include ht

/-- The names listed for a directory lead to its files. -/
theorem mem_fileNames_iff {name : String} :
    name ∈ t.fileNames l ↔ ∃ bytes, t.get? (l ++ [name]) = some (.file bytes) := by
  have hne : l ++ [name] ≠ [] := by simp
  simp only [get?_of_ne_nil t hne, lookup_eq_some_iff_mem ht, fileNames_eq, List.mem_filterMap]
  constructor
  · rintro ⟨entry, hmem, hname⟩
    obtain ⟨bytes, rfl⟩ := eq_concat_of_nameIn hname
    exact ⟨bytes, hmem⟩
  · rintro ⟨bytes, hmem⟩
    exact ⟨_, hmem, by rw [nameIn_file, if_pos rfl]⟩

/-- No file is listed twice. -/
theorem nodup_fileNames (l : Location) : (t.fileNames l).Nodup := by
  refine (List.pairwise_map.mp ht).filterMap _ fun entry entry' hne name hname name' hname' => ?_
  obtain ⟨bytes, rfl⟩ := eq_concat_of_nameIn hname
  obtain ⟨bytes', rfl⟩ := eq_concat_of_nameIn hname'
  rintro rfl
  exact hne rfl

end Distinct

/-! ### Directories made along steps -/

/-- Whether everything above a location, and the location itself, is a directory. -/
def Rooted (t : Tree) (l : Location) : Prop := ∀ p, p <+: l → t.get? p = some .directory

theorem rooted_top (t : Tree) : Rooted t [] := by
  intro p hp
  rw [List.prefix_nil.mp hp]
  rfl

theorem Rooted.dropLast (h : Rooted t l) : Rooted t l.dropLast :=
  fun p hp => h p (hp.trans (List.dropLast_prefix l))

theorem Rooted.next (h : Rooted t l) {step : String}
    (hstep : t.get? (next l step) = some .directory) : Rooted t (next l step) := by
  by_cases hup : step = ".."
  · rw [Tree.next, if_pos hup]
    exact h.dropLast
  · rw [Tree.next, if_neg hup] at hstep ⊢
    intro p hp
    rcases List.prefix_concat_iff.mp hp with rfl | hp
    · exact hstep
    · exact h p hp

theorem Rooted.of_keepsDirectories (h : Rooted t l) (hkeep : KeepsDirectories t t') :
    Rooted t' l := fun p hp => hkeep.directories p (h p hp)

/-- Steps through directories lead from one that everything above is there of to another one. -/
theorem Rooted.follow (h : Rooted t l) {path : List String}
    (hfollow : t.follow l path = .entry l' .directory) : Rooted t l' := by
  induction path generalizing l with
  | nil =>
      obtain ⟨rfl, -⟩ := follow_nil_eq_entry_iff.mp hfollow
      exact h
  | cons step path ih =>
      obtain ⟨-, hrest⟩ := follow_cons_eq_entry hfollow
      exact ih (h.next (get?_of_follow_directory hrest)) hrest

theorem rooted_start {path : String} (h : t.start? path = some l) : Rooted t l := by
  obtain ⟨-, hstart⟩ := start?_eq_some_iff.mp h
  cases habsolute : isAbsolute path with
  | true =>
      obtain rfl : l = [] := by simpa [habsolute] using hstart
      exact rooted_top t
  | false => exact (rooted_top t).follow (by simpa [habsolute] using hstart)

/-- Whether directories are made along steps only, and the steps lead to the last one. -/
def MadeAlong (l : Location) (path : List String) (t : Tree) (made : Option Location × Tree) :
    Prop :=
  Grown (OnWay l path) t made.2 ∧ ∀ l' ∈ made.1, made.2.follow l path = .entry l' .directory

namespace MadeAlong

variable {step : String} {path : List String} {made : Option Location × Tree}

theorem stopped (t : Tree) : MadeAlong l path t (none, t) :=
  ⟨.refl t, fun _ hnone => nomatch hnone⟩

theorem cons (hl : t.get? l = some .directory) (h : MadeAlong (next l step) path t made) :
    MadeAlong l (step :: path) t made := by
  obtain ⟨hgrown, hfollow⟩ := h
  refine ⟨hgrown.mono fun n hn => hn.cons, fun l' hl' => ?_⟩
  rw [follow_cons (hgrown.get?_of_some hl)]
  exact hfollow l' hl'

theorem cons_made (hl : t.get? l = some .directory) (hnone : t.get? (next l step) = none)
    (h : MadeAlong (next l step) path (t.insert (next l step) .directory) made) :
    MadeAlong l (step :: path) t made := by
  obtain ⟨hgrown, hfollow⟩ := h
  have hall : Grown (OnWay l (step :: path)) t made.2 :=
    .made (onWay_next l step path) hnone (hgrown.mono fun n hn => OnWay.cons hn)
  refine ⟨hall, fun l' hl' => ?_⟩
  rw [follow_cons (hall.get?_of_some hl)]
  exact hfollow l' hl'

end MadeAlong

theorem madeAlong_makeDirectoriesBut (refused : Location → Bool) (hrooted : Rooted t l)
    (path : List String) : MadeAlong l path t (t.makeDirectoriesBut refused l path) := by
  induction path generalizing t l with
  | nil =>
      refine ⟨.refl t, ?_⟩
      rintro _ ⟨⟩
      exact follow_nil_eq_entry_iff.mpr ⟨rfl, hrooted l List.prefix_rfl⟩
  | cons step path ih =>
      have hl : t.get? l = some .directory := hrooted l List.prefix_rfl
      unfold makeDirectoriesBut
      -- a step up leads to a directory that is there; one down may have to make it
      by_cases hup : step = ".."
      · have hnext : next l step = l.dropLast := if_pos hup
        rw [if_pos hup, ← hnext]
        exact .cons hl (ih (hnext ▸ hrooted.dropLast))
      · have hnext : next l step = l ++ [step] := if_neg hup
        rw [if_neg hup, ← hnext]
        cases hget : t.get? (next l step) with
        | none =>
            have hne := ne_nil_of_get?_eq_none hget
            have hkeep : KeepsDirectories t (t.insert (next l step) .directory) :=
              keepsDirectories_insert hne (by simp [hget]) _
            have hrooted' : Rooted (t.insert (next l step) .directory) (next l step) :=
              (hrooted.of_keepsDirectories hkeep).next (by rw [get?_insert t hne, if_pos rfl])
            simp only [hget]
            split
            · exact .stopped t
            · exact .cons_made hl hget (ih hrooted')
        | some entry =>
            cases entry with
            | file bytes =>
                simp only [hget]
                exact .stopped t
            | directory =>
                simp only [hget]
                exact .cons hl (ih (hrooted.next hget))

end DocAccess.Files.Tree
