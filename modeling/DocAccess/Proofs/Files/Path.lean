import DocAccess.Files.Path
import DocAccess.Proofs.Text.Pieces
import Mathlib.Data.List.TakeWhile

/-!
# Steps of paths

A path that may lead to a file ends in a step with a name of its own.  A path that is made of
another one and such a name leads to the entry of that name in the directory that the other leads
to.  Such a name may have an ending, which stands behind its last dot.
-/

namespace DocAccess.Files

open DocAccess.Text

/-- Whether a text can be the name of a file. -/
structure IsFileName (name : String) : Prop where
  nonempty : name ≠ ""
  slash : '/' ∉ name.toList
  ne_dot : name ≠ "."
  ne_dots : name ≠ ".."

theorem steps_eq (path : String) :
    steps path =
      (((splitOn '/' path.toList).filter (!·.isEmpty)).map String.ofList).filter (· != ".") := rfl

/-- The last step of a path that may lead to a file. -/
theorem exists_fileName {path : String} (h : namesDirectory path = false) :
    ∃ above name, steps path = above ++ [name] ∧ IsFileName name := by
  obtain ⟨front, last, hpieces⟩ : ∃ front last, splitOn '/' path.toList = front ++ [last] :=
    ⟨_, _, (List.dropLast_append_getLast (splitOn_ne_nil '/' path.toList)).symm⟩
  have hlast : last ∈ splitOn '/' path.toList := by
    rw [hpieces]
    exact List.mem_append_right _ List.mem_cons_self
  have hslash : '/' ∉ last := separator_notMem_of_mem_splitOn last hlast
  rw [namesDirectory, hpieces, List.getLast?_append_of_ne_nil _ (List.cons_ne_nil _ _)] at h
  simp only [List.getLast?_singleton, Bool.or_eq_false_iff, List.isEmpty_eq_false_iff,
    beq_eq_false_iff_ne] at h
  obtain ⟨⟨hne, hdot⟩, hdots⟩ := h
  have hname : IsFileName (String.ofList last) := by
    refine ⟨?_, ?_, ?_, ?_⟩
    · simpa [← String.toList_inj] using hne
    · simpa using hslash
    · simpa [← String.toList_inj] using hdot
    · simpa [← String.toList_inj] using hdots
  refine ⟨((front.filter (!·.isEmpty)).map String.ofList).filter (· != "."), String.ofList last,
    ?_, hname⟩
  rw [steps_eq, hpieces, List.filter_append, List.map_append, List.filter_append]
  simp [hne, hname.ne_dot]

section Join

variable {name : String} (h : IsFileName name)

include h

theorem isAbsolute_fileName : isAbsolute name = false := by
  rw [isAbsolute, beq_eq_false_iff_ne]
  intro hhead
  exact h.slash (List.mem_of_mem_head? hhead)

/-- The pieces of a path that is made of another one and a name: empty pieces apart, those of the
other one and the name. -/
theorem splitOn_join (base : String) :
    ∃ pieces, splitOn '/' (join base name).toList = pieces ++ [name.toList] ∧
      pieces.filter (!·.isEmpty) = (splitOn '/' base.toList).filter (!·.isEmpty) := by
  have hname := splitOn_of_notMem h.slash
  rw [join, isAbsolute_fileName h, if_neg Bool.false_ne_true]
  by_cases hempty : base.isEmpty
  · obtain rfl : base = "" := String.isEmpty_iff.mp hempty
    refine ⟨[], ?_, ?_⟩
    · simpa using hname
    · simp [splitOn]
  -- with a slash at the end, the name takes the place of an empty last piece
  · by_cases hslash : base.toList.getLast? = some '/'
    · obtain ⟨front, hfront⟩ := List.getLast?_eq_some_iff.mp hslash
      refine ⟨splitOn '/' front, ?_, ?_⟩
      · have hchoice : (base.isEmpty || base.toList.getLast? == some '/') = true := by
          simp [hslash]
        rw [hchoice, if_pos rfl, String.toList_append, hfront, List.append_assoc,
          List.singleton_append, splitOn_append_separator, hname]
      · rw [hfront, splitOn_append_separator]
        simp [splitOn]
    · refine ⟨splitOn '/' base.toList, ?_, rfl⟩
      have hchoice : (base.isEmpty || base.toList.getLast? == some '/') = false := by
        simp [hempty, hslash]
      rw [hchoice, if_neg Bool.false_ne_true, String.toList_append, String.toList_append]
      have hmark : "/".toList = ['/'] := rfl
      rw [hmark, List.append_assoc, List.singleton_append, splitOn_append_separator, hname]

theorem steps_join (base : String) : steps (join base name) = steps base ++ [name] := by
  obtain ⟨pieces, hpieces, hfilter⟩ := splitOn_join h base
  have hne : (!name.toList.isEmpty) = true := by simpa using h.nonempty
  rw [steps_eq, steps_eq, hpieces, List.filter_append, hfilter, List.map_append,
    List.filter_append]
  simp [hne, h.ne_dot]

theorem join_ne_empty (base : String) : join base name ≠ "" := by
  intro hempty
  have hsteps := steps_join h base
  rw [hempty] at hsteps
  exact List.append_ne_nil_of_right_ne_nil _ (List.cons_ne_nil _ _) hsteps.symm

theorem namesDirectory_join (base : String) : namesDirectory (join base name) = false := by
  obtain ⟨pieces, hpieces, -⟩ := splitOn_join h base
  rw [namesDirectory, hpieces, List.getLast?_append_of_ne_nil _ (List.cons_ne_nil _ _)]
  have hdot : name.toList ≠ ['.'] := fun heq => h.ne_dot (String.toList_inj.mp heq)
  have hdots : name.toList ≠ ['.', '.'] := fun heq => h.ne_dots (String.toList_inj.mp heq)
  have hne : name.toList ≠ [] := fun heq => h.nonempty (String.toList_inj.mp heq)
  simp [hdot, hdots, hne]

theorem isAbsolute_join (base : String) : isAbsolute (join base name) = isAbsolute base := by
  rw [join, isAbsolute_fileName h, if_neg Bool.false_ne_true]
  by_cases hempty : base.isEmpty
  · obtain rfl : base = "" := String.isEmpty_iff.mp hempty
    simpa [isAbsolute] using isAbsolute_fileName h
  · obtain ⟨c, cs, hbase⟩ : ∃ c cs, base.toList = c :: cs := by
      refine List.exists_cons_of_ne_nil fun hnil => hempty ?_
      exact String.isEmpty_iff.mpr (String.toList_inj.mp hnil)
    unfold isAbsolute
    split
    · rw [String.toList_append, hbase]
      rfl
    · rw [String.toList_append, String.toList_append, hbase]
      rfl

end Join

/-! ### Endings -/

/-- A name is taken apart at its last dot, unless that stands in front of all. -/
theorem splitName_of_lastDot {name : String} {behind before : List Char}
    (hname : name.toList.reverse = behind ++ '.' :: before) (hbehind : '.' ∉ behind) :
    splitName name = if before = [] then (name, none)
      else (String.ofList before.reverse, some (String.ofList behind.reverse)) := by
  have hother : ∀ c ∈ behind, (c != '.') = true := by
    intro c hc
    exact bne_iff_ne.mpr (ne_of_mem_of_not_mem hc hbehind)
  unfold splitName
  dsimp only
  rw [hname, List.takeWhile_append_of_pos hother, List.dropWhile_append_of_pos hother,
    List.takeWhile_cons_of_neg (by simp), List.dropWhile_cons_of_neg (by simp), List.append_nil]
  cases before with
  | nil => rfl
  | cons c rest => rfl

/-- The ending of a name is what stands behind its last dot, where there is something before it. -/
theorem splitName_eq_iff {name stem extension : String} :
    splitName name = (stem, some extension) ↔
      name = stem ++ "." ++ extension ∧ stem ≠ "" ∧ '.' ∉ extension.toList := by
  constructor
  · intro h
    -- read from behind, the last dot comes first
    by_cases hdot : '.' ∈ name.toList.reverse
    · obtain ⟨behind, before, hname, hbehind⟩ := List.eq_append_cons_of_mem hdot
      rw [splitName_of_lastDot hname hbehind] at h
      split at h
      · cases h
      · next hbefore =>
          obtain ⟨rfl, hextension⟩ := Prod.mk.inj h
          obtain rfl := Option.some.inj hextension
          refine ⟨String.toList_injective ?_, by simpa using hbefore, by simpa using hbehind⟩
          simpa using congrArg List.reverse hname
    · have hother : ∀ c ∈ name.toList.reverse, (c != '.') = true := by
        intro c hc
        exact bne_iff_ne.mpr (ne_of_mem_of_not_mem hc hdot)
      rw [splitName, List.dropWhile_eq_nil_iff.mpr hother] at h
      cases h
  · rintro ⟨rfl, hstem, hextension⟩
    have hname : (stem ++ "." ++ extension).toList.reverse =
        extension.toList.reverse ++ '.' :: stem.toList.reverse := by simp
    rw [splitName_of_lastDot hname (by simpa using hextension), if_neg (by simpa using hstem)]
    simp

end DocAccess.Files
