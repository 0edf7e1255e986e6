import DocAccess.Files.Tree
import DocAccess.Proofs.Files.Entries
import DocAccess.Proofs.Files.Path
import Mathlib.Algebra.Order.BigOperators.Group.List
import Mathlib.Algebra.Order.Group.Nat

/-!
# Replacing a file

A file is replaced by five steps, any of which may be refused or fail.  Where one does, the draft is
gone again, and only the directories above the file may be new.  Where none does, the file holds the
new bytes and all else is as it was.
-/

namespace DocAccess.Files.Tree

variable {t : Tree} {path : String} {l : Location}

/-! ### Places -/

/-- A path below another one starts where that starts. -/
theorem start?_join {base name : String} (hname : IsFileName name) (h : t.start? base = some l) :
    t.start? (join base name) = some l := by
  rw [start?_eq_some_iff] at h ⊢
  exact ⟨join_ne_empty hname base, by rw [isAbsolute_join hname]; exact h.2⟩

/-- Whether a location is that of a directory above a path. -/
def LiesAbove (t : Tree) (path : String) (l : Location) : Prop :=
  ∃ start ∈ t.start? path, OnWay start (steps path).dropLast l

/-- Whether a path leads to a location where a file may be put. -/
structure Place (t : Tree) (path : String) (target : Location) : Prop where
  file : namesDirectory path = false
  above : ∃ l name, t.above? path = some l ∧ (steps path).getLast? = some name ∧
    target = l ++ [name]
  free : t.get? target ≠ some .directory

theorem above?_eq_some_iff :
    t.above? path = some l ↔ ∃ start, t.start? path = some start ∧
      t.follow start (steps path).dropLast = .entry l .directory := by
  rw [above?, Option.bind_eq_some_iff]
  exact exists_congr fun start => and_congr_right fun _ => directory?_eq_some_iff

theorem above?_of_keepsDirectories {t' : Tree} (hkeep : KeepsDirectories t t')
    (h : t.above? path = some l) : t'.above? path = some l := by
  rw [above?_eq_some_iff] at h ⊢
  obtain ⟨start, hstart, hfollow⟩ := h
  exact ⟨start, start?_of_keepsDirectories hkeep hstart,
    follow_directory_of_keepsDirectories hkeep hfollow⟩

namespace Place

variable {target : Location}

theorem ne_nil (h : Place t path target) : target ≠ [] := by
  obtain ⟨l, name, -, -, rfl⟩ := h.above
  exact List.append_ne_nil_of_right_ne_nil _ (List.cons_ne_nil _ _)

/-- The last step goes down to the file from the directory above it. -/
theorem follow_target (h : Place t path target) :
    ∃ l name, (steps path) = (steps path).dropLast ++ [name] ∧ IsFileName name ∧
      target = l ++ [name] ∧ t.above? path = some l := by
  obtain ⟨l, name, habove, hlast, htarget⟩ := h.above
  obtain ⟨above, name', hsteps, hname⟩ := exists_fileName h.file
  have hsame : name' = name := by simpa [hsteps] using hlast
  refine ⟨l, name, ?_, hsame ▸ hname, htarget, habove⟩
  rw [hsteps, List.dropLast_concat, hsame]

/-- What is put at its place is found under the path. -/
theorem find_insert (h : Place t path target) (bytes : ByteArray) :
    (t.insert target (.file bytes)).find path = .entry target (.file bytes) := by
  obtain ⟨l, name, hsteps, hname, htarget, habove⟩ := h.follow_target
  have hkeep := keepsDirectories_insert h.ne_nil h.free (.file bytes)
  obtain ⟨start, hstart, hfollow⟩ :=
    above?_eq_some_iff.mp (above?_of_keepsDirectories hkeep habove)
  have hnext : next l name = target := by rw [next, if_neg hname.ne_dots, htarget]
  refine find_eq_entry_iff.mpr ⟨start, hstart, ?_, fun _ => h.file⟩
  rw [hsteps, follow_append hfollow, follow_cons (eq_resolve_of_follow hfollow).2, hnext,
    follow_nil_eq_entry_iff, get?_insert t h.ne_nil, if_pos rfl]
  exact ⟨rfl, rfl⟩

end Place

/-! ### Drafts -/

/-- No entry has a name that is longer than every name. -/
theorem ne_freshName (t : Tree) (l : Location) : ∀ e ∈ t.entries, e.1 ≠ l ++ [t.freshName] := by
  intro e he heq
  have hmem : t.freshName.length ∈ t.entries.map fun e => (e.1.getLast?.getD "").length := by
    refine List.mem_map.mpr ⟨e, he, ?_⟩
    rw [heq, List.getLast?_concat, Option.getD_some]
  have hle := List.le_sum_of_mem hmem
  rw [List.sum_eq_foldr, freshName, String.length_ofList, List.length_cons,
    List.length_replicate] at hle
  omega

/-- A new entry that is taken out again leaves no trace. -/
theorem erase_insert (h : ∀ e ∈ t.entries, e.1 ≠ l) (e : Entry) : (t.insert l e).erase l = t := by
  rw [insert, filter_ne_of_forall h, erase, List.filter_cons_of_neg (by simp),
    filter_ne_of_forall h]

theorem insert_insert (t : Tree) (l : Location) (e e' : Entry) :
    (t.insert l e).insert l e' = t.insert l e' := by
  simp [insert, List.filter_filter]

/-! ### The five steps -/

variable (r : Refusals)

theorem makeAbove_spec (t : Tree) (path : String) :
    Grown (LiesAbove t path) t (t.makeAbove r path).2 ∧
      ((t.makeAbove r path).1 = true → ∃ l, (t.makeAbove r path).2.above? path = some l) := by
  unfold makeAbove
  cases hstart : t.start? path with
  | none => exact ⟨.refl t, fun h => nomatch h⟩
  | some start =>
      obtain ⟨hgrown, hfollow⟩ := madeAlong_makeDirectoriesBut
        (r.refuses <| .makeDirectory ·) (rooted_start hstart) (steps path).dropLast
      refine ⟨hgrown.mono fun l hl => ⟨start, hstart, hl⟩, fun hmade => ?_⟩
      obtain ⟨l, hl⟩ := Option.isSome_iff_exists.mp hmade
      exact ⟨l, above?_eq_some_iff.mpr
        ⟨start, start?_of_keepsDirectories hgrown.keepsDirectories hstart, hfollow l hl⟩⟩

section Run

variable {α β : Type}

theorem run_bind (x : StateM Tree α) (f : α → StateM Tree β) (t : Tree) :
    (x >>= f).run t = (f (x.run t).1).run (x.run t).2 := rfl

end Run

/-- Settling a draft, one step after the other. -/
theorem settle_run (path draft : String) (bytes : ByteArray) (t : Tree) :
    ((accessBut r).settle path draft bytes).run t =
      if (t.fillDraft r path draft bytes).1 && !r.refuses (.syncDraft path) then
        (t.fillDraft r path draft bytes).2.moveDraft r path draft
      else (false, (t.fillDraft r path draft bytes).2) := by
  have hfill : ((accessBut r).fillDraft path draft bytes).run t =
      t.fillDraft r path draft bytes := rfl
  have hsync (u : Tree) : ((accessBut r).syncDraft path draft).run u =
      (!r.refuses (.syncDraft path), u) := rfl
  have hmove (u : Tree) : ((accessBut r).moveDraft path draft).run u =
      u.moveDraft r path draft := rfl
  rw [Access.settle, run_bind, hfill]
  generalize t.fillDraft r path draft bytes = filled
  obtain ⟨fills, u⟩ := filled
  cases fills with
  | false => rfl
  | true =>
      simp only [Bool.not_true, Bool.false_eq_true, if_false, run_bind, hsync]
      cases r.refuses (.syncDraft path) with
      | false => exact hmove u
      | true => rfl

/-- Replacing a file, one step after the other. -/
theorem replace_run (path : String) (bytes : ByteArray) (t : Tree) :
    ((accessBut r).replace path bytes).run t =
      if (t.makeAbove r path).1 then
        match (t.makeAbove r path).2.createDraft r path with
        | (none, u) => (false, u)
        | (some draft, u) =>
            match ((accessBut r).settle path draft bytes).run u with
            | (true, v) => (true, v)
            | (false, v) => (false, v.removeDraft path draft)
      else (false, (t.makeAbove r path).2) := by
  have hmake : ((accessBut r).makeAbove path).run t = t.makeAbove r path := rfl
  have hcreate (u : Tree) : ((accessBut r).createDraft path).run u = u.createDraft r path := rfl
  have hremove (draft : String) (u : Tree) :
      ((accessBut r).removeDraft path draft).run u = ((), u.removeDraft path draft) := rfl
  rw [Access.replace, run_bind, hmake]
  -- of each step only its result and the tree behind it matter
  generalize t.makeAbove r path = result
  obtain ⟨made, u⟩ := result
  cases made with
  | false => rfl
  | true =>
      simp only [Bool.not_true, Bool.false_eq_true, if_false, if_true, run_bind, hcreate]
      generalize u.createDraft r path = created
      obtain ⟨draft?, v⟩ := created
      cases draft? with
      | none => rfl
      | some draft =>
          simp only [run_bind]
          generalize ((accessBut r).settle path draft bytes).run v = settled
          obtain ⟨settles, w⟩ := settled
          cases settles with
          | false => simp only [Bool.not_false, if_true, run_bind, hremove]; rfl
          | true => rfl

/-! ### A draft beside a path -/

section Draft

variable {draft : String} (habove : t.above? path = some l)
  (hdraft : ∀ e ∈ t.entries, e.1 ≠ l ++ [draft])

theorem draft_ne_nil (l : Location) (draft : String) : l ++ [draft] ≠ [] :=
  List.append_ne_nil_of_right_ne_nil _ (List.cons_ne_nil _ _)

include hdraft

theorem keepsDirectories_draft (e : Entry) : KeepsDirectories t (t.insert (l ++ [draft]) e) := by
  have hnone := (get?_eq_none_iff (draft_ne_nil l draft)).mpr hdraft
  exact keepsDirectories_insert (draft_ne_nil l draft) (by simp [hnone]) e

/-- A draft does not change what is a directory. -/
theorem any_isDirectory_draft (bytes : ByteArray) (l' : Location) :
    ((t.insert (l ++ [draft]) (.file bytes)).get? l').any (·.isDirectory) =
      (t.get? l').any (·.isDirectory) := by
  rw [get?_insert t (draft_ne_nil l draft)]
  by_cases heq : l' = l ++ [draft]
  · rw [if_pos heq, heq, (get?_eq_none_iff (draft_ne_nil l draft)).mpr hdraft]
    rfl
  · rw [if_neg heq]

include habove

theorem above?_draft (e : Entry) : (t.insert (l ++ [draft]) e).above? path = some l :=
  above?_of_keepsDirectories (keepsDirectories_draft hdraft e) habove

theorem removeDraft_insert (e : Entry) :
    (t.insert (l ++ [draft]) e).removeDraft path draft = t := by
  rw [removeDraft, above?_draft habove hdraft]
  exact erase_insert hdraft e

/-- A draft is moved to a place that no directory takes. -/
theorem moveDraft_insert {name : String} (hlast : (steps path).getLast? = some name)
    (bytes : ByteArray) :
    (t.insert (l ++ [draft]) (.file bytes)).moveDraft r path draft =
      if namesDirectory path || (t.get? (l ++ [name])).any (·.isDirectory)
          || r.refuses (.moveDraft path) then
        (false, t.insert (l ++ [draft]) (.file bytes))
      else (true, t.insert (l ++ [name]) (.file bytes)) := by
  have hheld : (t.insert (l ++ [draft]) (.file bytes)).get? (l ++ [draft]) =
      some (.file bytes) := by rw [get?_insert t (draft_ne_nil l draft), if_pos rfl]
  rw [moveDraft, above?_draft habove hdraft, hlast]
  simp only [hheld, any_isDirectory_draft hdraft, erase_insert hdraft]

/-- A draft is settled completely, or it stays a draft. -/
theorem settle_spec (entry : Entry) (bytes : ByteArray) :
    (∃ stored, ((accessBut r).settle path draft bytes).run (t.insert (l ++ [draft]) entry) =
        (false, t.insert (l ++ [draft]) (.file stored))) ∨
      ∃ target, Place t path target ∧
        ((accessBut r).settle path draft bytes).run (t.insert (l ++ [draft]) entry) =
          (true, t.insert target (.file bytes)) := by
  rw [settle_run, fillDraft, above?_draft habove hdraft]
  simp only [insert_insert]
  -- a step that is refused leaves the draft where it is; only the last step moves it
  by_cases hsettles : (!r.refuses (.fillDraft path) && !r.refuses (.syncDraft path)) = true
  · have hfills : r.refuses (.fillDraft path) = false := by
      rw [Bool.and_eq_true, Bool.not_eq_true'] at hsettles
      exact hsettles.1
    rw [if_pos hsettles, hfills, if_neg Bool.false_ne_true]
    cases hlast : (steps path).getLast? with
    | none =>
        left
        refine ⟨bytes, ?_⟩
        rw [moveDraft, above?_draft habove hdraft, hlast]
    | some name =>
        rw [moveDraft_insert r habove hdraft hlast]
        split
        · exact .inl ⟨bytes, rfl⟩
        · next hmoves =>
            simp only [Bool.or_eq_true, not_or, Bool.not_eq_true] at hmoves
            refine .inr ⟨l ++ [name], ⟨hmoves.1.1, ⟨l, name, habove, hlast, rfl⟩, ?_⟩, rfl⟩
            intro hdirectory
            simp [hdirectory, Entry.isDirectory] at hmoves
  · rw [if_neg hsettles]
    exact .inl ⟨_, rfl⟩

end Draft

/-! ### The whole replacement -/

/-- A file is replaced, or it is not and nothing is left but directories above it. -/
theorem replace_spec (t : Tree) (path : String) (bytes : ByteArray) :
    ∃ u, Grown (LiesAbove t path) t u ∧
      (((accessBut r).replace path bytes).run t = (false, u) ∨
        ∃ target, Place u path target ∧
          ((accessBut r).replace path bytes).run t = (true, u.insert target (.file bytes))) := by
  obtain ⟨hgrown, hmade⟩ := makeAbove_spec r t path
  refine ⟨(t.makeAbove r path).2, hgrown, ?_⟩
  rw [replace_run]
  generalize t.makeAbove r path = result at hmade
  obtain ⟨made, u⟩ := result
  cases made with
  | false => exact .inl rfl
  | true =>
      obtain ⟨l, habove⟩ := hmade rfl
      have hfresh := ne_freshName u l
      simp only [if_true, createDraft, habove]
      by_cases hrefused : r.refuses (.createDraft path) = true
      · rw [if_pos hrefused]
        exact .inl rfl
      · rw [if_neg hrefused]
        rcases settle_spec r habove hfresh (.file .empty) bytes with
          ⟨stored, hrun⟩ | ⟨target, hplace, hrun⟩
        · left
          simp only [hrun, removeDraft_insert habove hfresh]
        · right
          exact ⟨target, hplace, by simp only [hrun]⟩

/-- A draft is made beside every path whose directory is there. -/
theorem createDraft_none (habove : t.above? path = some l) :
    t.createDraft .none path =
      (some t.freshName, t.insert (l ++ [t.freshName]) (.file .empty)) := by
  rw [createDraft, habove]
  rfl

theorem makeAbove_none {start : Location} (hstart : t.start? path = some start) :
    t.makeAbove .none path = ((t.makeDirectories start (steps path).dropLast).1.isSome,
      (t.makeDirectories start (steps path).dropLast).2) := by
  rw [makeAbove, hstart]
  rfl

/-- A path that leads to where it starts names no file, and nothing is left of its draft. -/
theorem replace_nameless {start : Location} (hstart : t.start? path = some start)
    (hlast : (steps path).getLast? = none) (bytes : ByteArray) :
    (access.replace path bytes).run t = (false, t) := by
  have hsteps : (steps path).dropLast = [] := by
    rw [List.getLast?_eq_none_iff.mp hlast]
    rfl
  have habove : t.above? path = some start := by
    refine above?_eq_some_iff.mpr ⟨start, hstart, ?_⟩
    rw [hsteps]
    exact follow_nil_eq_entry_iff.mpr ⟨rfl, rooted_start hstart _ List.prefix_rfl⟩
  have hmade : t.makeAbove .none path = (true, t) := by rw [makeAbove_none hstart, hsteps]; rfl
  rw [access, replace_run, hmade, if_pos rfl, createDraft_none habove]
  rcases settle_spec .none habove (ne_freshName t start) (.file .empty) bytes with
    ⟨stored, hrun⟩ | ⟨target, hplace, -⟩
  · simp only [hrun, removeDraft_insert habove (ne_freshName t start)]
  · obtain ⟨l, name, -, hname, -⟩ := hplace.above
    rw [hlast] at hname
    cases hname

/-- Where nothing is refused, the five steps come to writing the file at once. -/
theorem replace_eq_write (t : Tree) (path : String) (bytes : ByteArray) :
    (access.replace path bytes).run t = t.write path bytes := by
  rw [write]
  cases hstart : t.start? path with
  | none => rw [access, replace_run]; simp [makeAbove, hstart]
  | some start =>
      cases hlast : (steps path).getLast? with
      | none => rw [replace_nameless hstart hlast]
      | some name =>
          obtain ⟨hgrown, hfollow⟩ := madeAlong_makeDirectoriesBut (fun _ => false)
            (rooted_start hstart) (steps path).dropLast
          rw [← makeDirectories] at hgrown hfollow
          rw [access, replace_run]
          simp only [makeAbove_none hstart]
          have hkeep := hgrown.keepsDirectories
          generalize t.makeDirectories start (steps path).dropLast = made at hkeep hfollow
          obtain ⟨l?, u⟩ := made
          cases l? with
          | none => rfl
          | some l =>
              have habove : u.above? path = some l := above?_eq_some_iff.mpr
                ⟨start, start?_of_keepsDirectories hkeep hstart, hfollow l rfl⟩
              have hfresh := ne_freshName u l
              have hsettle : ((accessBut .none).settle path u.freshName bytes).run
                  (u.insert (l ++ [u.freshName]) (.file .empty)) =
                    (u.insert (l ++ [u.freshName]) (.file bytes)).moveDraft .none path
                      u.freshName := by
                rw [settle_run, fillDraft, above?_draft habove hfresh]
                simp [Refusals.none, insert_insert]
              rw [moveDraft_insert .none habove hfresh hlast] at hsettle
              simp only [Option.isSome_some, if_true, createDraft_none habove, hsettle]
              simp only [Refusals.none, Bool.or_false]
              cases namesDirectory path || (u.get? (l ++ [name])).any (·.isDirectory) with
              | true => simp only [if_true, removeDraft_insert habove hfresh]
              | false => rfl

end DocAccess.Files.Tree
