import DocAccess.Files.Tree
import DocAccess.Proofs.Checks
import DocAccess.Run.BuildScript
import Mathlib.Data.List.Forall2

/-!
# What a run reads

Up to the point where it writes, a run only reads: what it gives is a function of the tree it starts
from, and the tree stays as it is.  These functions are put together here the way the run is.
-/

namespace DocAccess.Run

open DocAccess.Files DocAccess.Files.Tree DocAccess.Generate DocAccess.Model

variable {ε ε' α β : Type}

/-- What a computation over a tree gives, and the tree that it leaves. -/
def ran (x : ExceptT ε (StateM Tree) α) (t : Tree) : Except ε α × Tree := x.run.run t

theorem ran_bind (x : ExceptT ε (StateM Tree) α) (f : α → ExceptT ε (StateM Tree) β) (t : Tree) :
    ran (x >>= f) t =
      match ran x t with
      | (.ok a, u) => ran (f a) u
      | (.error e, u) => (.error e, u) := by
  change (ExceptT.bindCont f ((x.run.run t).1)).run ((x.run.run t).2) = _
  unfold ran
  generalize x.run.run t = result
  obtain ⟨a, u⟩ := result
  cases a with
  | ok a => rfl
  | error e => rfl

theorem ran_liftM (x : StateM Tree α) (t : Tree) :
    ran (liftM x : ExceptT ε (StateM Tree) α) t = (.ok (x.run t).1, (x.run t).2) := rfl

/-- Whether a computation only reads, and what it gives then. -/
def Reads (x : ExceptT ε (StateM Tree) α) (f : Tree → Except ε α) : Prop :=
  ∀ t, ran x t = (f t, t)

namespace Reads

theorem pure (a : α) : Reads (pure a : ExceptT ε (StateM Tree) α) fun _ => .ok a := fun _ => rfl

theorem throw (e : ε) : Reads (throw e : ExceptT ε (StateM Tree) α) fun _ => .error e :=
  fun _ => rfl

theorem mk (a : Except ε α) :
    Reads (ExceptT.mk (return a) : ExceptT ε (StateM Tree) α) fun _ => a := fun _ => rfl

theorem lift (f : Tree → α) (x : StateM Tree α) (hx : ∀ t, x.run t = (f t, t)) :
    Reads (liftM x : ExceptT ε (StateM Tree) α) fun t => .ok (f t) := by
  intro t
  rw [ran_liftM, hx]

theorem bind {x : ExceptT ε (StateM Tree) α} {f : Tree → Except ε α}
    {g : α → ExceptT ε (StateM Tree) β} {h : α → Tree → Except ε β} (hx : Reads x f)
    (hg : ∀ a, Reads (g a) (h a)) : Reads (x >>= g) fun t => f t >>= fun a => h a t := by
  intro t
  rw [ran_bind, hx t]
  dsimp only
  cases f t with
  | ok a => exact hg a t
  | error e => rfl

theorem adapt {x : ExceptT ε (StateM Tree) α} {f : Tree → Except ε α} (hx : Reads x f)
    (k : ε → ε') : Reads (x.adapt k) fun t => (f t).mapError k := by
  intro t
  change (((ran x t).1).mapError k, (ran x t).2) = _
  rw [hx t]

end Reads

variable (r : Refusals)

/-! ### Models -/

/-- A row of readings succeeds if each of them does. -/
theorem mapM_eq_ok_iff {f : α → Except ε β} {as : List α} {bs : List β} :
    as.mapM f = .ok bs ↔ List.Forall₂ (fun a b => f a = .ok b) as bs := by
  induction as generalizing bs with
  | nil => simp [pure, Except.pure, eq_comm]
  | cons a as ih =>
      simp only [List.mapM_cons, bind_eq_ok_iff, ih, pure, Except.pure, Except.ok.injEq,
        List.forall₂_cons_left_iff]
      constructor
      · rintro ⟨b, hb, others, hothers, rfl⟩
        exact ⟨b, others, hb, hothers, rfl⟩
      · rintro ⟨b, others, hb, hothers, rfl⟩
        exact ⟨b, hb, others, hothers, rfl⟩

theorem exists_of_mapM_eq_ok {f : α → Except ε β} {as : List α} {bs : List β}
    (h : as.mapM f = .ok bs) : ∀ a ∈ as, ∃ b, f a = .ok b :=
  ((List.forall₂_and_left _ _).mp
    ((mapM_eq_ok_iff.mp h).imp fun _ b hb => ⟨⟨b, hb⟩, hb⟩)).1

/-- A row of readings fails at the first one that does. -/
theorem mapM_eq_error_iff {f : α → Except ε β} {as : List α} {e : ε} :
    as.mapM f = .error e ↔
      ∃ before a after, as = before ++ a :: after ∧ (∀ b ∈ before, ∃ y, f b = .ok y) ∧
        f a = .error e := by
  induction as with
  | nil => simp [pure, Except.pure]
  | cons x rest ih =>
      simp only [List.mapM_cons, bind_eq_error_iff, ih, pure, Except.pure, reduceCtorEq, and_false,
        exists_false, or_false]
      constructor
      · rintro (hx | ⟨y, hx, before, a, after, rfl, hbefore, ha⟩)
        · exact ⟨[], x, rest, rfl, by simp, hx⟩
        · exact ⟨x :: before, a, after, rfl, List.forall_mem_cons.mpr ⟨⟨y, hx⟩, hbefore⟩, ha⟩
      · rintro ⟨before, a, after, hsplit, hbefore, ha⟩
        cases before with
        | nil =>
            obtain ⟨rfl, -⟩ := List.cons.inj hsplit
            exact .inl ha
        | cons b before =>
            obtain ⟨rfl, rfl⟩ := List.cons.inj hsplit
            obtain ⟨⟨y, hx⟩, hrest⟩ := List.forall_mem_cons.mp hbefore
            exact .inr ⟨y, hx, before, a, after, rfl, hrest, ha⟩

/-- The names of the model files of a directory. -/
def namesIn (t : Tree) (directory : String) : Except GenerateError (List String) :=
  match t.listing r directory with
  | some names => .ok (modelNames names)
  | none => .error (.readDirectory directory)

/-- The model that a file declares. -/
def specIn (t : Tree) (directory name : String) : Except GenerateError Spec :=
  Spec.ofContents? directory name (t.reading r (join directory name))

/-- The models of a directory. -/
def specsIn (t : Tree) (directory : String) : Except GenerateError (List Spec) := do
  (← namesIn r t directory).mapM (specIn r t directory)

theorem reads_listModels (directory : String) :
    Reads (listModels (accessBut r) directory) fun t => namesIn r t directory := by
  intro t
  have hlist := Reads.lift (ε := GenerateError) (fun t => t.listing r directory)
    ((accessBut r).list directory) (fun _ => rfl) t
  rw [listModels, ran_bind, hlist]
  dsimp only [namesIn]
  cases t.listing r directory with
  | none => rfl
  | some names => rfl

theorem reads_loadModel (directory name : String) :
    Reads (loadModel (accessBut r) directory name) fun t => specIn r t directory name :=
  fun _ => rfl

theorem reads_loadModels (directory : String) (names : List String) :
    Reads (loadModels (accessBut r) directory names) fun t =>
      names.mapM (specIn r t directory) := by
  induction names with
  | nil => exact .pure []
  | cons name names ih =>
      simp only [List.mapM_cons]
      exact (reads_loadModel r directory name).bind fun s => ih.bind fun specs => .pure (s :: specs)

theorem reads_loadDirectory (directory : String) :
    Reads (loadDirectory (accessBut r) directory) fun t => specsIn r t directory :=
  (reads_listModels r directory).bind fun names => reads_loadModels r directory names

/-! ### Text -/

/-- A source of models that are read from a tree. -/
def ofTree (specs : Tree → Outcome (List Spec)) : Source (StateM Tree) :=
  ExceptT.mk do return specs (← get)

theorem reads_ofTree (specs : Tree → Outcome (List Spec)) : Reads (ofTree specs) specs :=
  fun _ => rfl

theorem reads_ofDirectory (directory : String) :
    Reads (ofDirectory (accessBut r) directory) fun t =>
      (specsIn r t directory).mapError Fault.error :=
  (reads_loadDirectory r directory).adapt Fault.error

theorem reads_renderFrom {source : Source (StateM Tree)} {specs : Tree → Outcome (List Spec)}
    (hsource : Reads source specs) (c : Config) :
    Reads (renderFrom source c) fun t => specs t >>= rendered c :=
  hsource.bind fun specs => .mk (rendered c specs)

theorem reads_render (c : Config) :
    Reads (render (accessBut r) c) fun t =>
      ((specsIn r t c.modelsDir).mapError Fault.error >>= rendered c).map (·.2) := by
  intro t
  have hrender := reads_renderFrom (reads_ofDirectory r c.modelsDir) c t
  rw [render, ran_bind, hrender]
  dsimp only
  cases (specsIn r t c.modelsDir).mapError Fault.error >>= rendered c with
  | ok made => rfl
  | error fault => rfl

/-! ### Changes -/

/-- How a text would change a file. -/
def changeIn (t : Tree) (path text : String) : Outcome Change :=
  match Change.ofReading? text (t.reading r path) with
  | some change => .ok change
  | none => .error (.error (.write path))

theorem reads_compare (path text : String) :
    Reads (compare (accessBut r) path text) fun t => changeIn r t path text := by
  intro t
  have hread := Reads.lift (ε := Fault) (fun t => t.reading r path)
    ((accessBut r).read path) (fun _ => rfl) t
  rw [compare, ran_bind, hread]
  dsimp only [changeIn]
  cases Change.ofReading? text (t.reading r path) with
  | none => rfl
  | some change => rfl

theorem reads_check (c : Config) :
    Reads (check (accessBut r) c) fun t =>
      ((specsIn r t c.modelsDir).mapError Fault.error >>= rendered c).map (·.2) >>=
        changeIn r t c.outFile :=
  (reads_render r c).bind fun text => reads_compare r c.outFile text

end DocAccess.Run
