import DocAccess.Files.Entries

/-!
# Access to trees of files

A tree as the files of a run.  Whatever a run tries to do may be refused: a file may be unreadable,
a directory may not let anything be made in it, and there may be no room for all bytes of a draft.
A draft that was made can always be removed again.
-/

namespace DocAccess.Files

/-! ### Refusals -/

/-- What a run may try to do; drafts are named by the path that they are meant for. -/
inductive Attempt where
  | list (path : String)
  | read (path : String)
  | makeDirectory (location : Location)
  | createDraft (path : String)
  | fillDraft (path : String)
  | syncDraft (path : String)
  | moveDraft (path : String)
  deriving DecidableEq

/-- What is refused. -/
structure Refusals where
  refuses : Attempt → Bool
  /-- The number of bytes that a draft still takes where filling it is refused. -/
  room : Nat

/-- Nothing is refused. -/
def Refusals.none : Refusals := ⟨fun _ => false, 0⟩

namespace Tree

variable (r : Refusals) (t : Tree) (path : String)

/-! ### Contents -/

/-- The names of the files in a directory, unless listing it is refused. -/
def listing : Option (List String) := if r.refuses (.list path) then none else t.list path

/-- What reading a file gives. -/
def reading : Reading := if r.refuses (.read path) then .failed else t.read path

/-! ### Drafts -/

/-- The directory above a path, if it is there. -/
def above? : Option Location :=
  (t.start? path).bind fun start => (t.follow start (steps path).dropLast).directory?

/-- A name longer than every name in a tree. -/
def freshName : String :=
  let lengths := t.entries.map fun e => (e.1.getLast?.getD "").length
  String.ofList ('.' :: List.replicate (lengths.foldr (· + ·) 0) 't')

/-- Makes the directories above a path. -/
def makeAbove : Bool × Tree :=
  match t.start? path with
  | none => (false, t)
  | some start =>
      let (made, t) :=
        t.makeDirectoriesBut (r.refuses <| .makeDirectory ·) start (steps path).dropLast
      (made.isSome, t)

/-- Makes an empty draft beside a path. -/
def createDraft : Option String × Tree :=
  match t.above? path with
  | some location =>
      if r.refuses (.createDraft path) then (none, t)
      else (some t.freshName, t.insert (location ++ [t.freshName]) (.file .empty))
  | none => (none, t)

/-- Writes bytes to a draft. -/
def fillDraft (draft : String) (bytes : ByteArray) : Bool × Tree :=
  match t.above? path with
  | some location =>
      let refused := r.refuses (.fillDraft path)
      let stored := if refused then bytes.extract 0 r.room else bytes
      (!refused, t.insert (location ++ [draft]) (.file stored))
  | none => (false, t)

/-- Moves a draft to its path, which must not lead to a directory. -/
def moveDraft (draft : String) : Bool × Tree :=
  match t.above? path, (steps path).getLast? with
  | some location, some name =>
      match t.get? (location ++ [draft]) with
      | some (.file bytes) =>
          let target := location ++ [name]
          let occupied := namesDirectory path || (t.get? target).any (·.isDirectory)
          if occupied || r.refuses (.moveDraft path) then (false, t)
          else (true, (t.erase (location ++ [draft])).insert target (.file bytes))
      | _ => (false, t)
  | _, _ => (false, t)

/-- Removes a draft. -/
def removeDraft (draft : String) : Tree :=
  match t.above? path with
  | some location => t.erase (location ++ [draft])
  | none => t

/-! ### Access -/

/-- Access to a tree that is the state of a computation. -/
def accessBut (r : Refusals) : Access (StateM Tree) where
  list path := return (← get).listing r path
  read path := return (← get).reading r path
  makeAbove path := modifyGet fun t => t.makeAbove r path
  createDraft path := modifyGet fun t => t.createDraft r path
  fillDraft path draft bytes := modifyGet fun t => t.fillDraft r path draft bytes
  syncDraft path _ := return !r.refuses (.syncDraft path)
  moveDraft path draft := modifyGet fun t => t.moveDraft r path draft
  removeDraft path draft := modify fun t => t.removeDraft path draft

/-- Access to a tree where nothing is refused. -/
def access : Access (StateM Tree) := accessBut .none

end Tree

end DocAccess.Files
