import DocAccess.Proofs.Files.Replacing
import DocAccess.Proofs.Run.Readings

/-!
# All or nothing

A run either fails and leaves every file as it was, or it leaves in its output exactly the text that
it rendered from the tree it started from, and every other file as it was.  The draft that the text
goes through is never left behind; only directories above the output may be new, also where writing
fails.
-/

namespace DocAccess.Run

open DocAccess.Files DocAccess.Files.Tree DocAccess.Generate DocAccess.Model

/-! ### How trees change -/

/-- Whether nothing has changed at a location, but that a directory above a path may be new. -/
def SameAt (path : String) (t t' : Tree) (l : Location) : Prop :=
  t'.get? l = t.get? l ∨ t.get? l = none ∧ t'.get? l = some .directory ∧ LiesAbove t path l

/-- Whether a path leads to a file with some bytes where no directory was, and nothing else has
changed but that directories above the path may be new. -/
def Replaced (path : String) (bytes : ByteArray) (t t' : Tree) : Prop :=
  ∃ target, t'.find path = .entry target (.file bytes) ∧ t.get? target ≠ some .directory ∧
    ∀ l, l ≠ target → SameAt path t t' l

/-- Whether a run that is to write a text to a path is all or nothing.  A run that fails in any
other way than writing leaves the very same tree. -/
structure AllOrNothing (path : String) (text : Outcome String) (t : Tree)
    (result : Outcome Report × Tree) : Prop where
  failed : ∀ fault, result.1 = .error fault →
    (∀ l, SameAt path t result.2 l) ∧ (fault ≠ .error (.write path) → result.2 = t)
  succeeded : ∀ report, result.1 = .ok report →
    ∃ s, text = .ok s ∧ Replaced path s.toUTF8 t result.2

theorem sameAt_of_grown {path : String} {t u : Tree} (h : Grown (LiesAbove t path) t u)
    (l : Location) : SameAt path t u l := h.get? l

theorem sameAt_refl (path : String) (t : Tree) (l : Location) : SameAt path t t l := .inl rfl

/-- A file that is put at its place, with the directories above it. -/
theorem replaced_insert {path : String} {t u : Tree} {target : Location}
    (hgrown : Grown (LiesAbove t path) t u) (hplace : Place u path target) (bytes : ByteArray) :
    Replaced path bytes t (u.insert target (.file bytes)) := by
  refine ⟨target, hplace.find_insert bytes, ?_, ?_⟩
  · intro hdirectory
    exact hplace.free (hgrown.get?_of_some hdirectory)
  · intro l hl
    have hsame := hgrown.get? l
    rwa [SameAt, get?_insert u hplace.ne_nil, if_neg hl]

/-! ### Writing -/

variable (r : Refusals)

theorem reading_eq_contents_iff {t : Tree} {path : String} {bytes : ByteArray} :
    t.reading r path = .contents bytes ↔
      r.refuses (.read path) = false ∧ ∃ l, t.find path = .entry l (.file bytes) := by
  unfold reading Tree.read
  cases r.refuses (.read path) with
  | true => simp
  | false =>
      rw [if_neg Bool.false_ne_true]
      split
      · next l bytes' hfind => simp [hfind]
      · next hfind => simp [hfind]
      · next hfile _ =>
          constructor
          · exact fun h => nomatch h
          · rintro ⟨-, l, hfind⟩
            exact absurd hfind (hfile l bytes)

/-- Nothing is written only where the file holds the text already. -/
theorem changeIn_eq_unchanged_iff {t : Tree} {path text : String} :
    changeIn r t path text = .ok .unchanged ↔ t.reading r path = .contents text.toUTF8 := by
  unfold changeIn Change.ofReading?
  cases t.reading r path with
  | missing => simp
  | failed => simp
  | contents bytes =>
      rw [Reading.contents.injEq, ByteArray.ext_iff]
      dsimp only
      by_cases hsame : bytes.data = text.toUTF8.data
      · rw [if_pos hsame]
        exact iff_of_true rfl hsame
      · rw [if_neg hsame]
        exact iff_of_false (fun h => nomatch h) hsame

/-- What writing a text to a path comes to. -/
inductive Written (path text : String) (t : Tree) : Outcome Change × Tree → Prop
  | failed {u : Tree} (hgrown : Grown (LiesAbove t path) t u) :
      Written path text t (.error (.error (.write path)), u)
  | kept (hchange : changeIn r t path text = .ok .unchanged) :
      Written path text t (.ok .unchanged, t)
  | replaced {u : Tree} {target : Location} {change : Change}
      (hchange : changeIn r t path text = .ok change) (hne : change ≠ .unchanged)
      (hgrown : Grown (LiesAbove t path) t u) (hplace : Place u path target) :
      Written path text t (.ok change, u.insert target (.file text.toUTF8))

theorem ran_writeIfChanged (path text : String) (t : Tree) :
    ran (writeIfChanged (accessBut r) path text) t =
      match changeIn r t path text with
      | .error fault => (.error fault, t)
      | .ok change =>
          if change.isChange then
            match ((accessBut r).replace path text.toUTF8).run t with
            | (true, u) => (.ok change, u)
            | (false, u) => (.error (.error (.write path)), u)
          else (.ok change, t) := by
  rw [writeIfChanged, ran_bind, reads_compare r path text t]
  dsimp only
  cases changeIn r t path text with
  | error fault => rfl
  | ok change =>
      dsimp only
      cases change.isChange with
      | false => rfl
      | true =>
          rw [if_pos rfl, if_pos rfl, ran_bind, ran_liftM]
          generalize ((accessBut r).replace path text.toUTF8).run t = result
          obtain ⟨replaced, u⟩ := result
          cases replaced with
          | true => rfl
          | false => rfl

theorem written_writeIfChanged (path text : String) (t : Tree) :
    Written r path text t (ran (writeIfChanged (accessBut r) path text) t) := by
  rw [ran_writeIfChanged]
  cases hchange : changeIn r t path text with
  | error fault =>
      have hfault : fault = .error (.write path) := by
        unfold changeIn at hchange
        split at hchange
        · cases hchange
        · exact (Except.error.inj hchange).symm
      subst hfault
      exact .failed (.refl t)
  | ok change =>
      dsimp only
      -- the text is written only where it differs from what is there
      cases hwrites : change.isChange with
      | false =>
          have hsame : change = .unchanged := by
            cases change with
            | unchanged => rfl
            | _ => cases hwrites
          rw [if_neg Bool.false_ne_true, hsame]
          exact .kept (hsame ▸ hchange)
      | true =>
          have hne : change ≠ .unchanged := by
            rintro rfl
            cases hwrites
          obtain ⟨u, hgrown, hfails | ⟨target, hplace, hreplaces⟩⟩ :=
            replace_spec r t path text.toUTF8
          · rw [if_pos rfl, hfails]
            exact .failed hgrown
          · rw [if_pos rfl, hreplaces]
            exact .replaced hchange hne hgrown hplace

/-! ### Runs -/

section Generate

variable {source : Source (StateM Tree)} {specs : Tree → Outcome (List Spec)}
  (hsource : Reads source specs)

include hsource

theorem ran_generateFrom (c : Config) (t : Tree) :
    ran (generateFrom (accessBut r) source c) t =
      match specs t >>= rendered c with
      | .error fault => (.error fault, t)
      | .ok (m, text) =>
          ((ran (writeIfChanged (accessBut r) c.outFile text) t).1.map
              fun change => ⟨m.modelNames, c.outFile, change⟩,
            (ran (writeIfChanged (accessBut r) c.outFile text) t).2) := by
  rw [generateFrom, ran_bind, reads_renderFrom hsource c t]
  dsimp only
  cases specs t >>= rendered c with
  | error fault => rfl
  | ok made =>
      obtain ⟨m, text⟩ := made
      dsimp only
      rw [ran_bind]
      generalize ran (writeIfChanged (accessBut r) c.outFile text) t = result
      obtain ⟨outcome, u⟩ := result
      cases outcome with
      | ok change => rfl
      | error fault => rfl

/-- Generating from any models that are read is all or nothing. -/
theorem allOrNothing_generateFrom (c : Config) (t : Tree) :
    AllOrNothing c.outFile ((specs t >>= rendered c).map (·.2)) t
      (ran (generateFrom (accessBut r) source c) t) := by
  rw [ran_generateFrom r hsource]
  cases specs t >>= rendered c with
  | error fault =>
      refine ⟨fun _ _ => ⟨sameAt_refl _ t, fun _ => rfl⟩, ?_⟩
      exact fun _ hok => nomatch hok
  | ok made =>
      obtain ⟨m, text⟩ := made
      -- reading leaves the tree alone, so all there is to see is the write at the end
      have hwritten := written_writeIfChanged r c.outFile text t
      dsimp only
      generalize ran (writeIfChanged (accessBut r) c.outFile text) t = result at hwritten
      cases hwritten with
      | failed hgrown =>
          refine ⟨fun fault hfault => ⟨sameAt_of_grown hgrown, fun hne => ?_⟩, ?_⟩
          · exact absurd (Except.error.inj hfault).symm hne
          · exact fun _ hok => nomatch hok
      | kept hchange =>
          refine ⟨fun _ hfault => (nomatch hfault), fun _ _ => ⟨text, rfl, ?_⟩⟩
          obtain ⟨-, l, hfind⟩ := (reading_eq_contents_iff r).mp
            ((changeIn_eq_unchanged_iff r).mp hchange)
          refine ⟨l, hfind, ?_, fun l' _ => sameAt_refl _ t l'⟩
          rw [get?_of_find hfind]
          exact fun h => nomatch h
      | replaced hchange hne hgrown hplace =>
          refine ⟨fun _ hfault => (nomatch hfault), fun _ _ => ⟨text, rfl, ?_⟩⟩
          exact replaced_insert hgrown hplace text.toUTF8

end Generate

theorem allOrNothing_generate (c : Config) (t : Tree) :
    AllOrNothing c.outFile (ran (render (accessBut r) c) t).1 t
      (ran (generate (accessBut r) c) t) := by
  rw [reads_render r c t]
  exact allOrNothing_generateFrom r (reads_ofDirectory r c.modelsDir) c t

/-- A run from a build script, once the environment has given its settings. -/
theorem allOrNothing_buildRun {environment : String → Option String} {c c' : Config}
    (hsettings : settingsIn environment c = .ok c') (t : Tree) :
    AllOrNothing c'.outFile (ran (render (accessBut r) c') t).1 t
      (((buildRun (accessBut r) environment c).run t).1.2,
        ((buildRun (accessBut r) environment c).run t).2) := by
  have hlist : (listModels (accessBut r) c'.modelsDir).run.run t =
      (namesIn r t c'.modelsDir, t) := reads_listModels r c'.modelsDir t
  rw [buildRun, hsettings]
  simp only [run_bind, hlist]
  cases namesIn r t c'.modelsDir with
  | error e =>
      refine ⟨fun _ _ => ⟨sameAt_refl _ t, fun _ => rfl⟩, ?_⟩
      exact fun _ hok => nomatch hok
  | ok names => exact allOrNothing_generate r c' t

/-- Rendering and checking leave a tree as it is, and every run that generates is all or nothing:
from a directory of models, from any other source, and from a build script, whatever is refused on
the way. -/
theorem runs_allOrNothing (r : Refusals) (t : Tree) (c : Config)
    (specs : Tree → Outcome (List Spec)) (environment : String → Option String) :
    (ran (render (accessBut r) c) t).2 = t ∧ (ran (check (accessBut r) c) t).2 = t ∧
      AllOrNothing c.outFile (ran (render (accessBut r) c) t).1 t
        (ran (generate (accessBut r) c) t) ∧
      AllOrNothing c.outFile ((specs t >>= rendered c).map (·.2)) t
        (ran (generateFrom (accessBut r) (ofTree specs) c) t) ∧
      match settingsIn environment c with
      | .error fault => (buildRun (accessBut r) environment c).run t = (([], .error fault), t)
      | .ok c' =>
          AllOrNothing c'.outFile (ran (render (accessBut r) c') t).1 t
            (((buildRun (accessBut r) environment c).run t).1.2,
              ((buildRun (accessBut r) environment c).run t).2) := by
  refine ⟨?_, ?_, allOrNothing_generate r c t,
    allOrNothing_generateFrom r (reads_ofTree specs) c t, ?_⟩
  · rw [reads_render r c t]
  · rw [reads_check r c t]
  · cases hsettings : settingsIn environment c with
    | error fault =>
        dsimp only
        rw [buildRun, hsettings]
        rfl
    | ok c' => exact allOrNothing_buildRun r hsettings t

/-- A working directory with one model. -/
def userTree : Tree where
  entries :=
    [(["work", "models", "user.rs"],
        .file "pub const PARTITION_KEY: &str = \"/id\";\npub struct User;".toUTF8),
      (["work", "models"], .directory), (["work"], .directory)]
  workdir := ["work"]

/-- The settings of a run in that directory. -/
def userSettings : Config := { Config.default with modelsDir := "models", outFile := "out.rs" }

/-- The environment of a build script in that directory. -/
def buildEnvironment (name : String) : Option String :=
  if name = manifestVariable then some "/work"
  else if name = outVariable then some "/target/build"
  else none

/-- The settings of a run from that build script. -/
def buildSettings : Config := settingsBelow "/work" "/target/build" userSettings

/-- The build script makes the directories above its output and leaves the text there, and nothing
else in the working directory. -/
theorem runs_allOrNothing_build :
    settingsIn buildEnvironment userSettings = .ok buildSettings ∧
      ((buildRun (accessBut .none) buildEnvironment userSettings).run userTree).1 =
        (["cargo:rerun-if-changed=/work/models", "cargo:rerun-if-changed=/work/models/user.rs"],
          .ok ⟨["user"], "/target/build/out.rs", .created⟩) ∧
      ∃ text, (ran (render (accessBut .none) buildSettings) userTree).1 = .ok text ∧
        Replaced "/target/build/out.rs" text.toUTF8 userTree
          ((buildRun (accessBut .none) buildEnvironment userSettings).run userTree).2 := by
  have hsettings : settingsIn buildEnvironment userSettings = .ok buildSettings := by
    decide +kernel
  have hran : ((buildRun (accessBut .none) buildEnvironment userSettings).run userTree).1 =
      (["cargo:rerun-if-changed=/work/models", "cargo:rerun-if-changed=/work/models/user.rs"],
        .ok ⟨["user"], "/target/build/out.rs", .created⟩) := by decide +kernel
  obtain ⟨-, -, -, -, hbuild⟩ :=
    runs_allOrNothing .none userTree userSettings (fun _ => .ok []) buildEnvironment
  rw [hsettings] at hbuild
  exact ⟨hsettings, hran, hbuild.succeeded _ (congrArg (·.2) hran)⟩

end DocAccess.Run
