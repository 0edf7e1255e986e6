import DocAccess.Text.Name
import Mathlib.Data.List.Basic

/-!
# Pieces between separators

A text that is cut at its separators falls into pieces without any.  Pieces that are put together
with separators between them are the pieces of the whole.
-/

namespace DocAccess.Text

variable {separator : Char}

theorem splitOn_ne_nil (separator : Char) (cs : List Char) : splitOn separator cs ≠ [] := by
  induction cs with
  | nil => simp [splitOn]
  | cons c rest ih =>
      unfold splitOn
      split
      · exact List.cons_ne_nil _ _
      · split
        · exact List.cons_ne_nil _ _
        · exact List.cons_ne_nil _ _

/-- A character that is no separator goes to the front of the first piece. -/
theorem splitOn_cons_of_ne {c : Char} (hc : c ≠ separator) (rest : List Char) :
    ∃ piece pieces, splitOn separator rest = piece :: pieces ∧
      splitOn separator (c :: rest) = (c :: piece) :: pieces := by
  obtain ⟨piece, pieces, hrest⟩ := List.exists_cons_of_ne_nil (splitOn_ne_nil separator rest)
  exact ⟨piece, pieces, hrest, by simp [splitOn, hc, hrest]⟩

theorem separator_notMem_of_mem_splitOn {cs : List Char} :
    ∀ piece ∈ splitOn separator cs, separator ∉ piece := by
  induction cs with
  | nil => simp [splitOn]
  | cons c rest ih =>
      by_cases hc : c = separator
      · simpa [splitOn, hc] using ih
      · obtain ⟨piece, pieces, hrest, hsplit⟩ := splitOn_cons_of_ne hc rest
        rw [hrest, List.forall_mem_cons] at ih
        rw [hsplit, List.forall_mem_cons]
        refine ⟨?_, ih.2⟩
        rw [List.mem_cons, not_or]
        exact ⟨Ne.symm hc, ih.1⟩

theorem splitOn_append_separator (cs ds : List Char) :
    splitOn separator (cs ++ separator :: ds) = splitOn separator cs ++ splitOn separator ds := by
  induction cs with
  | nil => simp [splitOn]
  | cons c rest ih =>
      by_cases hc : c = separator
      · simp [splitOn, hc, ih]
      · obtain ⟨piece, pieces, hrest, hsplit⟩ := splitOn_cons_of_ne hc rest
        rw [hsplit]
        simp [splitOn, hc, ih, hrest]

theorem splitOn_of_notMem {cs : List Char} (h : separator ∉ cs) : splitOn separator cs = [cs] := by
  induction cs with
  | nil => rfl
  | cons c rest ih =>
      rw [List.mem_cons, not_or] at h
      simp [splitOn, Ne.symm h.1, ih h.2]

theorem splitOn_intercalate {pieces : List (List Char)} (hne : pieces ≠ [])
    (h : ∀ piece ∈ pieces, separator ∉ piece) :
    splitOn separator ([separator].intercalate pieces) = pieces := by
  induction pieces with
  | nil => exact absurd rfl hne
  | cons piece pieces ih =>
      rw [List.forall_mem_cons] at h
      cases pieces with
      | nil => simpa using splitOn_of_notMem h.1
      | cons next later =>
          rw [List.intercalate_cons_cons, List.append_assoc, List.singleton_append,
            splitOn_append_separator, splitOn_of_notMem h.1, ih (List.cons_ne_nil _ _) h.2]
          rfl

/-! ### Segments -/

theorem segments_eq (path : String) :
    segments path = ((splitOn '/' path.toList).filter (!·.isEmpty)).map String.ofList := rfl

/-- The segments of names that are put together with slashes are these names. -/
theorem segments_slash_intercalate {names : List String} (hne : names ≠ [])
    (h : ∀ name ∈ names, name ≠ "" ∧ '/' ∉ name.toList) :
    segments ("/" ++ "/".intercalate names) = names := by
  have hpieces : splitOn '/' (['/'].intercalate (names.map String.toList)) =
      names.map String.toList := by
    refine splitOn_intercalate (by simpa using hne) ?_
    intro piece hpiece
    obtain ⟨name, hname, rfl⟩ := List.mem_map.mp hpiece
    exact (h name hname).2
  have htext : ("/" ++ "/".intercalate names).toList =
      [] ++ '/' :: ['/'].intercalate (names.map String.toList) := by
    simp [String.toList_intercalate]
  have hall : ∀ piece ∈ names.map String.toList, (!piece.isEmpty) = true := by
    intro piece hpiece
    obtain ⟨name, hname, rfl⟩ := List.mem_map.mp hpiece
    simpa using (h name hname).1
  rw [segments_eq, htext, splitOn_append_separator, hpieces]
  simp [splitOn, List.filter_eq_self.mpr hall, Function.comp_def]

end DocAccess.Text
