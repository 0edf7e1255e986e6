import DocAccess.Proofs.Partition.Key
import Mathlib.Data.List.Basic

/-!
# The spelling of plain names

Converting the case of a plain name gives a plain name again: its characters stand for themselves
when the text is cut into clusters, and a word that the cutting leaves empty only shows as an
underscore.  So the name of a key in generated code is a word, whatever words its path falls into.
-/

namespace DocAccess.Text

/-! ### Clusters -/

theorem clusterClass_of_isNamePart {c : Char} (hc : isNamePart c = true) :
    clusterClass c = .other ∧ conjunctConsonantSet.has c = false := by
  have hascii := toNat_lt_of_isNamePart hc
  have h := holds_of_ascii
    (p := fun c => !isNamePart c || (clusterClass c == .other && !conjunctConsonantSet.has c))
    (by decide) hascii
  simpa [hc] using h

/-- No character of a name joins the one in front of it. -/
theorem clustersFrom_of_isNamePart {c : Char} {rest : List Char} (hc : isNamePart c = true)
    (hrest : ∀ d ∈ rest, isNamePart d = true) :
    clustersFrom (.start c) [c] rest = (c :: rest).map fun d => [d] := by
  induction rest generalizing c with
  | nil => rfl
  | cons d rest ih =>
      have hd := hrest d List.mem_cons_self
      obtain ⟨hclass, hconjunct⟩ := clusterClass_of_isNamePart hc
      obtain ⟨hclass', -⟩ := clusterClass_of_isNamePart hd
      have hjoins : (ClusterState.start c).joins d = false := by
        simp [ClusterState.joins, ClusterState.start, ClusterState.next, hclass, hclass', hconjunct]
      rw [clustersFrom, hjoins, if_neg Bool.false_ne_true,
        ih hd fun e he => hrest e (List.mem_cons_of_mem d he)]
      rfl

theorem clusters_of_isNamePart {cs : List Char} (hcs : ∀ c ∈ cs, isNamePart c = true) :
    clusters cs = cs.map fun c => [c] := by
  cases cs with
  | nil => rfl
  | cons c rest =>
      exact clustersFrom_of_isNamePart (hcs c List.mem_cons_self)
        fun d hd => hcs d (List.mem_cons_of_mem c hd)

/-! ### Lowercase -/

theorem lowerAfter_of_isNamePart {before cs : List Char} (hcs : ∀ c ∈ cs, isNamePart c = true) :
    lowerAfter before cs = cs.map Char.toLower := by
  induction cs generalizing before with
  | nil => rfl
  | cons c cs ih =>
      have hascii := toNat_lt_of_isNamePart (hcs c List.mem_cons_self)
      have hsigma : (c == 'Σ') = false := by
        rw [beq_eq_false_iff_ne]
        rintro rfl
        exact absurd hascii (by decide)
      rw [lowerAfter, ih fun d hd => hcs d (List.mem_cons_of_mem c hd)]
      simp [hsigma, lowerChar, hascii]

theorem isNamePart_toLower {c : Char} (hc : isNamePart c = true) : isNamePart c.toLower = true := by
  have hascii := toNat_lt_of_isNamePart hc
  have h := holds_of_ascii (p := fun c => !isNamePart c || isNamePart c.toLower)
    (by decide) hascii
  simpa [hc] using h

theorem isNameStart_toLower {c : Char} (hc : isNameStart c = true) :
    isNameStart c.toLower = true := by
  have hascii := toNat_lt_of_isNamePart (isNamePart_of_isNameStart hc)
  have h := holds_of_ascii (p := fun c => !isNameStart c || isNameStart c.toLower)
    (by decide) hascii
  simpa [hc] using h

/-! ### Words -/

/-- The word being read goes on with the first word. -/
theorem wordsFrom_eq_cons (reading cs : List (List Char)) :
    ∃ more later, wordsFrom reading cs = (reading.reverse ++ more) :: later := by
  fun_induction wordsFrom reading cs with
  | case1 reading => exact ⟨[], [], by simp⟩
  | case2 reading cluster rest hseparator ih => exact ⟨[], wordsFrom [] rest, by simp⟩
  | case3 reading cluster hword => exact ⟨[cluster], [], by simp⟩
  | case4 reading cluster hword next after hsplit ih =>
      exact ⟨[cluster], wordsFrom [] (next :: after), by simp⟩
  | case5 reading cluster hword next after hjoined ih =>
      obtain ⟨more, later, heq⟩ := ih
      exact ⟨cluster :: more, later, by simp [heq]⟩

/-- A word that ends with a cluster holds what was read before it and the cluster. -/
theorem mem_of_mem_reverse_cons {reading later : List (List Char)} {cluster x : List Char}
    (hx : x ∈ (cluster :: reading).reverse) : x ∈ reading ∨ x ∈ cluster :: later := by
  rcases List.mem_cons.mp (List.mem_reverse.mp hx) with rfl | hx
  · exact .inr List.mem_cons_self
  · exact .inl hx

/-- Words hold nothing but what was read and what is to come. -/
theorem mem_of_mem_wordsFrom (reading cs : List (List Char)) :
    ∀ word ∈ wordsFrom reading cs, ∀ x ∈ word, x ∈ reading ∨ x ∈ cs := by
  -- a cluster goes from what is to come to the word being read, and the word to the result
  fun_induction wordsFrom reading cs with
  | case1 reading => simp
  | case2 reading cluster rest hseparator ih =>
      intro word hword x hx
      rcases List.mem_cons.mp hword with rfl | hword
      · exact .inl (by simpa using hx)
      · have hmem := ih word hword x hx
        simp only [List.not_mem_nil, false_or] at hmem
        exact .inr (List.mem_cons_of_mem cluster hmem)
  | case3 reading cluster hword =>
      intro word hword x hx
      obtain rfl := List.mem_singleton.mp hword
      exact mem_of_mem_reverse_cons hx
  | case4 reading cluster hword next after hsplit ih =>
      intro word hword x hx
      rcases List.mem_cons.mp hword with rfl | hword
      · exact mem_of_mem_reverse_cons hx
      · have hmem := ih word hword x hx
        simp only [List.not_mem_nil, false_or] at hmem
        exact .inr (List.mem_cons_of_mem cluster hmem)
  | case5 reading cluster hword next after hjoined ih =>
      intro word hword x hx
      rcases ih word hword x hx with hread | hnext
      · exact mem_of_mem_reverse_cons (List.mem_reverse.mpr hread)
      · exact .inr (List.mem_cons_of_mem cluster hnext)

/-- A cluster that is no separator belongs to the word being read. -/
theorem wordsFrom_letter (reading rest : List (List Char)) {cluster : List Char}
    (hletter : wordKind cluster ≠ .separator) :
    ∃ more later,
      wordsFrom reading (cluster :: rest) = (reading.reverse ++ cluster :: more) :: later := by
  have hseparator : (wordKind cluster == .separator) = false := beq_eq_false_iff_ne.mpr hletter
  cases rest with
  | nil => exact ⟨[], [], by simp [wordsFrom, hseparator]⟩
  | cons next after =>
      by_cases hsplit :
          splitsBetween (wordKind cluster) (wordKind next) (after.head?.map wordKind) = true
      · exact ⟨[], wordsFrom [] (next :: after), by simp [wordsFrom, hseparator, hsplit]⟩
      · obtain ⟨more, later, heq⟩ := wordsFrom_eq_cons (cluster :: reading) (next :: after)
        refine ⟨more, later, ?_⟩
        rw [wordsFrom.eq_def]
        simp [hseparator, hsplit, heq]

theorem wordKind_eq_separator {c : Char} (hc : isNameStart c = true) :
    wordKind [c] = .separator ↔ c = '_' := by
  have hascii := toNat_lt_of_isNamePart (isNamePart_of_isNameStart hc)
  have h := holds_of_ascii
    (p := fun c => !isNameStart c || decide (wordKind [c] = .separator ↔ c = '_'))
    (by decide) hascii
  simpa only [hc, Bool.not_true, Bool.false_or, decide_eq_true_eq] using h

/-- The first word of a name: empty in front of an underscore, else it starts with the letter. -/
theorem words_of_isName {text : String} (h : IsName text.toList) :
    (∃ word later, words text = [] :: word :: later) ∨
      ∃ c more later, isNameStart c = true ∧ words text = ([c] :: more) :: later := by
  obtain ⟨c, rest, htext, hstart, hrest⟩ := h.exists_cons
  have hclusters : clusters text.toList = [c] :: rest.map fun d => [d] := by
    rw [clusters_of_isNamePart h.parts, htext]
    rfl
  rw [words, hclusters]
  by_cases hgap : c = '_'
  · left
    have hseparator := (wordKind_eq_separator hstart).mpr hgap
    obtain ⟨word, later, heq⟩ := wordsFrom_eq_cons [] (rest.map fun d => [d])
    refine ⟨word, later, ?_⟩
    rw [wordsFrom.eq_def]
    simp [hseparator, heq]
  · right
    have hletter : wordKind [c] ≠ .separator := (wordKind_eq_separator hstart).not.mpr hgap
    obtain ⟨more, later, heq⟩ := wordsFrom_letter [] (rest.map fun d => [d]) hletter
    exact ⟨c, more, later, hstart, by simpa using heq⟩

theorem isNamePart_of_mem_words {text : String} (h : IsName text.toList) :
    ∀ word ∈ words text, ∀ c ∈ word.flatten, isNamePart c = true := by
  intro word hword c hc
  obtain ⟨cluster, hcluster, hc⟩ := List.mem_flatten.mp hc
  have hmem := mem_of_mem_wordsFrom _ _ word hword cluster hcluster
  rw [clusters_of_isNamePart h.parts] at hmem
  simp only [List.not_mem_nil, false_or, List.mem_map] at hmem
  obtain ⟨d, hd, rfl⟩ := hmem
  obtain rfl := List.mem_singleton.mp hc
  exact h.parts c hd

theorem mem_intercalate {α : Type} {separator : List α} {pieces : List (List α)} {a : α}
    (ha : a ∈ separator.intercalate pieces) : a ∈ separator ∨ ∃ piece ∈ pieces, a ∈ piece := by
  induction pieces with
  | nil => simp at ha
  | cons first rest ih =>
      cases rest with
      | nil => exact .inr ⟨first, List.mem_cons_self, by simpa using ha⟩
      | cons second later =>
          rw [List.intercalate_cons_cons, List.append_assoc, List.mem_append, List.mem_append] at ha
          rcases ha with ha | ha | ha
          · exact .inr ⟨first, List.mem_cons_self, ha⟩
          · exact .inl ha
          · exact (ih ha).imp_right fun ⟨piece, hpiece, ha⟩ =>
              ⟨piece, List.mem_cons_of_mem first hpiece, ha⟩

theorem head?_intercalate {α : Type} (separator first : List α) (rest : List (List α))
    (hfirst : first ≠ []) : (separator.intercalate (first :: rest)).head? = first.head? := by
  cases rest with
  | nil => simp
  | cons second later =>
      rw [List.intercalate_cons_cons, List.append_assoc, List.head?_append_of_ne_nil _ hfirst]

/-- A plain name in snake case is a plain name. -/
theorem isName_snakeCase {text : String} (h : IsName text.toList) :
    IsName (snakeCase text).toList := by
  have hlower : ∀ word ∈ words text, lower word.flatten = word.flatten.map Char.toLower :=
    fun word hword => lowerAfter_of_isNamePart (isNamePart_of_mem_words h word hword)
  have htext : (snakeCase text).toList =
      ['_'].intercalate ((words text).map fun word => lower word.flatten) := by
    simp [snakeCase, String.toList_intercalate, Function.comp_def]
  rw [htext]
  constructor
  -- if the first word is empty, the text starts with the gap behind it
  · rcases words_of_isName h with ⟨word, later, hwords⟩ | ⟨c, more, later, hstart, hwords⟩
    · refine ⟨'_', ?_, by decide⟩
      rw [hwords, List.map_cons, List.map_cons, List.intercalate_cons_cons]
      rfl
    · have hfirst : lower ([c] :: more).flatten = c.toLower :: more.flatten.map Char.toLower := by
        have hmem : ([c] :: more) ∈ words text := by simp [hwords]
        rw [hlower _ hmem]
        rfl
      refine ⟨c.toLower, ?_, isNameStart_toLower hstart⟩
      rw [hwords, List.map_cons, hfirst, head?_intercalate _ _ _ (List.cons_ne_nil _ _)]
      rfl
  · intro d hd
    rcases mem_intercalate hd with hgap | ⟨piece, hpiece, hd⟩
    · obtain rfl := List.mem_singleton.mp hgap
      decide
    · obtain ⟨word, hword, rfl⟩ := List.mem_map.mp hpiece
      rw [hlower word hword] at hd
      obtain ⟨c, hc, rfl⟩ := List.mem_map.mp hd
      exact isNamePart_toLower (isNamePart_of_mem_words h word hword c hc)

end DocAccess.Text
