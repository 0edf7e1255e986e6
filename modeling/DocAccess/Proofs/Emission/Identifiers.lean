import DocAccess.Proofs.Emission.Names
import DocAccess.Proofs.Source.Word
import DocAccess.Proofs.Text.Words

/-!
# Which names become identifiers

Assembly asks whether a name reads as an identifier, emission makes an identifier of its characters.
The names of modules and keys consist of plain characters, so that both agree on them.  The name of
a type may have other letters, and blanks or comments around it: it becomes an identifier exactly if
it is spelled like a word, and then no keyword is among the identifiers that are made of it.
-/

namespace DocAccess.Emission

open DocAccess.Code DocAccess.Generate DocAccess.Operations DocAccess.Partition DocAccess.Source
open DocAccess.Text

/-! ### Words -/

theorem isWord_iff (text : String) :
    Ident.isWord text = true ↔
      ∃ c rest, text.toList = c :: rest ∧ opensWord c = true ∧
        ∀ d ∈ rest, isIdentifierPart d = true := by
  unfold Ident.isWord
  split
  · next hnil => simp [hnil]
  · next c rest hcons => simp [hcons]

theorem isWord_of_isWordText {text : String} (h : IsWordText text.toList) :
    Ident.isWord text = true := by
  obtain ⟨c, rest, htext, hstart, hrest⟩ := h.exists_cons
  exact (isWord_iff text).mpr ⟨c, rest, htext, opensWord_of_isNameStart hstart, hrest⟩

theorem isWordText_of_isName {cs : List Char} (h : IsName cs) : IsWordText cs :=
  ⟨h.start, fun c hc => isIdentifierPart_of_isNamePart (h.parts c hc)⟩

/-- No hash mark is part of a word, so that no word opens a raw identifier. -/
theorem ne_rawOpening_of_isWord {text : String} (h : Ident.isWord text = true) (rest : List Char) :
    text.toList ≠ 'r' :: '#' :: rest := by
  intro hraw
  obtain ⟨c, others, htext, -, hparts⟩ := (isWord_iff text).mp h
  rw [hraw, List.cons.injEq] at htext
  have hhash := hparts '#' (by simp [← htext.2])
  exact (ne_of_isIdentifierPart hhash).2.1 rfl

theorem identOf_of_isWord {text : String} (h : Ident.isWord text = true) :
    identOf text = .ok ⟨text, false⟩ := by
  rw [identOf_eq_ok_iff, Ident.ofText?]
  split
  · next rest hraw => exact absurd hraw (ne_rawOpening_of_isWord h rest)
  · rw [if_pos h]

/-- Apart from raw identifiers, an identifier is made of nothing but a word. -/
theorem exists_identOf_iff {text : String} (hplain : ∀ rest, text.toList ≠ 'r' :: '#' :: rest) :
    (∃ i, identOf text = .ok i) ↔ Ident.isWord text = true := by
  constructor
  · rintro ⟨i, hi⟩
    rw [identOf_eq_ok_iff, Ident.ofText?] at hi
    split at hi
    · next rest hraw => exact absurd hraw (hplain rest)
    · by_contra hword
      rw [if_neg hword] at hi
      cases hi
  · exact fun hword => ⟨_, identOf_of_isWord hword⟩

/-! ### Names that may be declared -/

/-- Whether a text is made an identifier that may be declared. -/
def Declares (text : String) : Prop := ∃ i, identOf text = .ok i ∧ i.isDeclarable = true

theorem Declares.isDeclarable {text : String} (h : Declares text) {i : Ident}
    (hi : identOf text = .ok i) : i.isDeclarable = true := by
  obtain ⟨j, hj, hdeclarable⟩ := h
  obtain rfl : j = i := Except.ok.inj (hj.symm.trans hi)
  exact hdeclarable

theorem declares_of_isWord {text : String} (hword : Ident.isWord text = true)
    (hkeyword : text ∉ keywords) : Declares text :=
  ⟨_, identOf_of_isWord hword, by simpa [Ident.isDeclarable] using hkeyword⟩

/-- A plain name that is accepted as an identifier is no keyword. -/
theorem declares_of_isName {text : String} (hname : IsName text.toList)
    (hidentifier : isIdentifier text = true) : Declares text := by
  have hword := isWordText_of_isName hname
  rw [isIdentifier_of_isWordText hword] at hidentifier
  exact declares_of_isWord (isWord_of_isWordText hword) (by simpa using hidentifier)

theorem declares_moduleName {text : String} (h : isModuleName text = true) : Declares text := by
  rw [isModuleName, isLowercaseName, Bool.and_eq_true, Bool.and_eq_true] at h
  exact declares_of_isName (isName_of_isPlainName h.1.1) h.2

/-! ### Names of types -/

theorem ne_rawOpening_of_isTypeName {text : String} (h : isTypeName text = true)
    (rest : List Char) : text.toList ≠ 'r' :: '#' :: rest := by
  intro hraw
  simp [isTypeName, hraw] at h

/-- The uppercase letter in front of the name of a type. -/
theorem isWordText_of_isTypeName {text : String} (h : isTypeName text = true)
    (hword : Ident.isWord text = true) : IsWordText text.toList := by
  obtain ⟨c, rest, htext, -, hrest⟩ := (isWord_iff text).mp hword
  have hupper : c.isUpper = true := by
    simp only [isTypeName, htext, List.head?_cons, Option.map_some, Option.getD_some,
      Bool.and_eq_true] at h
    exact h.2
  have hstart : isNameStart c = true := by
    show ((c.isUpper || c.isLower) || c == '_') = true
    rw [hupper, Bool.true_or, Bool.true_or]
  rw [htext]
  refine ⟨⟨c, rfl, hstart⟩, fun d hd => ?_⟩
  rcases List.mem_cons.mp hd with rfl | hd
  · exact isIdentifierPart_of_isNamePart (isNamePart_of_isNameStart hstart)
  · exact hrest d hd

theorem declares_typeName_iff {text : String} (h : isTypeName text = true) :
    Declares text ↔ Ident.isWord text = true := by
  constructor
  · rintro ⟨i, hi, -⟩
    exact (exists_identOf_iff (ne_rawOpening_of_isTypeName h)).mp ⟨i, hi⟩
  · intro hword
    have hidentifier := isIdentifier_of_isWordText (isWordText_of_isTypeName h hword)
    rw [isTypeName, hidentifier, Bool.and_eq_true] at h
    exact declares_of_isWord hword (by simpa using h.1)

/-- The name of an accessor is no keyword, since the end of its name is the end of none. -/
theorem declares_accessorName {text : String} (hword : Ident.isWord text = true) :
    Declares (accessorName text) := by
  obtain ⟨c, rest, htext, hopens, hrest⟩ := (isWord_iff text).mp hword
  refine declares_of_isWord ?_ ?_
  · refine (isWord_iff _).mpr ⟨c, rest ++ "Operations".toList, ?_, hopens, ?_⟩
    · rw [accessorName, String.toList_append, htext, List.cons_append]
    · have hsuffix : ∀ d ∈ "Operations".toList, isIdentifierPart d = true :=
        List.all_eq_true.mp (by decide)
      intro d hd
      rcases List.mem_append.mp hd with hd | hd
      · exact hrest d hd
      · exact hsuffix d hd
  · intro hkeyword
    have hshort : ∀ word ∈ keywords, ¬"Operations".toList <:+ word.toList := by decide
    refine hshort _ hkeyword ⟨text.toList, ?_⟩
    rw [accessorName, String.toList_append]

/-! ### Names of keys -/

section Key

variable {key : Key}

theorem isName_snakeName (hkey : key.Plain) : IsName key.snakeName.toList :=
  isName_snakeCase (Key.isName_paramName hkey)

/-- A keyword becomes a raw identifier, or another word where it cannot be raw. -/
theorem exists_keyIdent (hkey : key.Plain) :
    ∃ i, keyIdent key = .ok i ∧ i.isDeclarable = true := by
  have hname := isName_snakeName hkey
  have hword := isWord_of_isWordText (isWordText_of_isName hname)
  unfold keyIdent
  split
  · exact ⟨_, rfl, by decide⟩
  · unfold paramIdent
    split
    · next hidentifier => exact declares_of_isName hname hidentifier
    · split
      · next hnever =>
          have hall : ∀ word ∈ neverRaw,
              Ident.isWord (word ++ "_") = true ∧ word ++ "_" ∉ keywords := by decide
          obtain ⟨hword, hkeyword⟩ := hall _ (List.contains_iff_mem.mp hnever)
          exact declares_of_isWord hword hkeyword
      · next hraw =>
          have hraw : Ident.rawOfName? key.snakeName = some ⟨key.snakeName, true⟩ := by
            rw [List.contains_iff_mem] at hraw
            simp [Ident.rawOfName?, hword, hraw]
          rw [hraw]
          exact ⟨_, rfl, rfl⟩

/-- No parameter is spelled like the accessor or like another parameter, be it raw or not. -/
theorem keyIdent_name_notMem (hkey : key.Plain) (hidentity : key.isIdentity = false)
    (hreserved : key.snakeName ∉ reservedParams) {i : Ident} (hi : keyIdent key = .ok i) :
    i.name ∉ ["self", "id", "body", "options"] := by
  have hname := isName_snakeName hkey
  have hword : identOf key.snakeName = .ok ⟨key.snakeName, false⟩ :=
    identOf_of_isWord (isWord_of_isWordText (isWordText_of_isName hname))
  simp only [keyIdent, hidentity, Bool.false_eq_true, if_false, paramIdent] at hi
  split at hi
  · next hidentifier =>
      have hself : key.snakeName ≠ "self" := by
        intro hself
        have hdeclarable := (declares_of_isName hname hidentifier).isDeclarable hword
        rw [hself] at hdeclarable
        revert hdeclarable
        decide
      obtain rfl := Except.ok.inj (hword.symm.trans hi)
      exact List.not_mem_cons_of_ne_of_not_mem hself hreserved
  · split at hi
    · next hnever =>
        have hall : ∀ word ∈ neverRaw, ((identOf (word ++ "_")).toOption.map fun i =>
            decide (i.name ∈ ["self", "id", "body", "options"])) = some false := by decide
        have hnone := hall _ (List.contains_iff_mem.mp hnever)
        rw [hi] at hnone
        simpa [Except.toOption] using hnone
    · next hnever =>
        split at hi
        · next raw hraw =>
            obtain rfl := Except.ok.inj hi
            unfold Ident.rawOfName? at hraw
            split at hraw
            · obtain rfl := Option.some.inj hraw
              have hself : key.snakeName ≠ "self" := by
                intro hself
                rw [hself] at hnever
                exact hnever (by decide)
              exact List.not_mem_cons_of_ne_of_not_mem hself hreserved
            · cases hraw
        · cases hi

theorem keyIdent_notMem (hkey : key.Plain) (hidentity : key.isIdentity = false)
    (hreserved : key.snakeName ∉ reservedParams) {i : Ident} (hi : keyIdent key = .ok i) :
    i ∉ ["self", "id", "body", "options"].map Ident.ofWord := by
  intro hmem
  obtain ⟨name, hname, rfl⟩ := List.mem_map.mp hmem
  exact keyIdent_name_notMem hkey hidentity hreserved hi hname

theorem declares_byKey (hkey : key.Plain) : Declares ("read_all_by_" ++ key.snakeName) := by
  have hopening : IsName "read_all_by_".toList :=
    ⟨⟨'r', rfl, by decide⟩, List.all_eq_true.mp (by decide)⟩
  have hname : IsName ("read_all_by_" ++ key.snakeName).toList := by
    rw [String.toList_append]
    exact hopening.append (isName_snakeName hkey).parts
  refine declares_of_isWord (isWord_of_isWordText (isWordText_of_isName hname)) fun hkeyword => ?_
  have hnone : ∀ word ∈ keywords, ¬"read_all_by_".toList <+: word.toList := by decide
  refine hnone _ hkeyword ⟨key.snakeName.toList, ?_⟩
  rw [String.toList_append]

end Key

end DocAccess.Emission
