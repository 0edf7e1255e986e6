import DocAccess.Partition.Key
import DocAccess.Proofs.Text.Pieces

/-!
# Plain names and derived keys

A key that is derived from a path has at least one segment, and each of its segments is a plain
name.  So the texts built from it, the name of its parameter and its path in a query, are made of
plain names and dots only, and the name of its parameter tells whether the key is the identifier.
-/

namespace DocAccess.Text

/-! ### Characters of plain names -/

theorem toNat_lt_of_isNamePart {c : Char} (hc : isNamePart c = true) : c.toNat < 128 := by
  have hkinds : ((c.isUpper = true ∨ c.isLower = true) ∨ c.isDigit = true) ∨
      (c == '_') = true := by
    rw [← Bool.or_eq_true, ← Bool.or_eq_true, ← Bool.or_eq_true]
    exact hc
  rcases hkinds with ((hupper | hlower) | hdigit) | hunderscore
  · have hrange : 65 ≤ c.toNat ∧ c.toNat ≤ 90 := of_decide_eq_true hupper
    omega
  · have hrange : c.toNat ≤ 122 := of_decide_eq_true ((Bool.and_eq_true _ _).mp hlower).2
    omega
  · have hrange : c.toNat ≤ 57 := of_decide_eq_true ((Bool.and_eq_true _ _).mp hdigit).2
    omega
  · rw [beq_iff_eq.mp hunderscore]
    decide

/-- What holds of the first 128 characters, checked one by one, holds of each of them. -/
theorem holds_of_ascii {p : Char → Bool}
    (hall : ((List.range 128).all fun n => p (Char.ofNat n)) = true) {c : Char}
    (hc : c.toNat < 128) : p c = true := by
  have hmem : c.toNat ∈ List.range 128 := List.mem_range.mpr hc
  have hp := List.all_eq_true.mp hall c.toNat hmem
  rwa [Char.ofNat_toNat] at hp

theorem isNamePart_of_isNameStart {c : Char} (hc : isNameStart c = true) :
    isNamePart c = true := by
  simp only [isNameStart, isNamePart, Char.isAlphanum, Bool.or_eq_true] at hc ⊢
  exact hc.imp_left .inl

theorem isLower_toUpper {c : Char} (hc : isNamePart c = true) : c.toUpper.isLower = false := by
  have h := holds_of_ascii (p := fun c => !c.toUpper.isLower) (by decide)
    (toNat_lt_of_isNamePart hc)
  exact (Bool.not_eq_true' _).mp h

theorem isNamePart_toUpper {c : Char} (hc : isNamePart c = true) :
    isNamePart c.toUpper = true := by
  have hascii := toNat_lt_of_isNamePart hc
  have h := holds_of_ascii (p := fun c => !isNamePart c || isNamePart c.toUpper)
    (by decide) hascii
  simpa [hc] using h

/-! ### Characters of plain texts -/

/-- Characters that a plain name may consist of: the first may open one, the others continue it. -/
structure IsName (cs : List Char) : Prop where
  start : ∃ c ∈ cs.head?, isNameStart c = true
  parts : ∀ c ∈ cs, isNamePart c = true

namespace IsName

variable {cs ds : List Char}

theorem exists_cons (hcs : IsName cs) :
    ∃ c rest, cs = c :: rest ∧ isNameStart c = true ∧ ∀ d ∈ rest, isNamePart d = true := by
  obtain ⟨c, hc, hstart⟩ := hcs.start
  cases cs with
  | nil => simp at hc
  | cons d rest =>
      obtain rfl : d = c := by simpa using hc
      exact ⟨d, rest, rfl, hstart, fun e he => hcs.parts e (List.mem_cons_of_mem _ he)⟩

theorem append (hcs : IsName cs) (hds : ∀ d ∈ ds, isNamePart d = true) : IsName (cs ++ ds) := by
  obtain ⟨c, rest, rfl, hstart, hrest⟩ := hcs.exists_cons
  refine ⟨⟨c, rfl, hstart⟩, fun d hd => ?_⟩
  rcases List.mem_append.mp hd with hd | hd
  · exact hcs.parts d hd
  · exact hds d hd

end IsName

theorem isName_of_isPlainName {text : String} (h : isPlainName text = true) :
    IsName text.toList := by
  unfold isPlainName at h
  split at h
  · cases h
  · next c rest htext =>
      simp only [Bool.and_eq_true, List.all_eq_true] at h
      obtain ⟨⟨hstart, -⟩, hrest⟩ := h
      rw [htext]
      refine ⟨⟨c, rfl, hstart⟩, fun d hd => ?_⟩
      rcases List.mem_cons.mp hd with rfl | hd
      · exact isNamePart_of_isNameStart hstart
      · exact hrest d hd

theorem toList_capitalize {text : String} {c : Char} {rest : List Char}
    (hc : isNamePart c = true) (htext : text.toList = c :: rest) :
    (capitalize text).toList = c.toUpper :: rest := by
  have hupper : upperChar c = [c.toUpper] := by
    rw [upperChar, if_pos (toNat_lt_of_isNamePart hc)]
  simp [capitalize, htext, hupper]

/-- A capital at the front keeps the characters of a name. -/
theorem isNamePart_of_mem_capitalize {text : String} (h : IsName text.toList) :
    ∀ c ∈ (capitalize text).toList, isNamePart c = true := by
  obtain ⟨c, rest, htext, hstart, hrest⟩ := h.exists_cons
  have hpart := isNamePart_of_isNameStart hstart
  intro d hd
  rw [toList_capitalize hpart htext] at hd
  rcases List.mem_cons.mp hd with rfl | hd
  · exact isNamePart_toUpper hpart
  · exact hrest d hd

end DocAccess.Text

namespace DocAccess.Partition.Key

open DocAccess.Text

variable {key : Key}

/-! ### Derived keys -/

theorem derive?_eq_ok_iff {path : String} :
    derive? path = .ok key ↔
      key.chain = segments path ∧ key.chain ≠ [] ∧ ∀ s ∈ key.chain, isPlainName s = true := by
  unfold derive?
  split
  · next hnone =>
      constructor
      · exact fun h => nomatch h
      · rintro ⟨hsame, hne, -⟩
        exact absurd (hsame.trans hnone) hne
  · next chain hchain =>
      split
      · next s hfound =>
          have hbad := List.find?_some hfound
          have hmem := List.mem_of_find?_eq_some hfound
          constructor
          · exact fun h => nomatch h
          -- the offending segment is one of the chain
          · rintro ⟨hsame, -, hplain⟩
            rw [← hsame] at hmem
            simp [hplain s hmem] at hbad
      · next hfound =>
          have hplain : ∀ s ∈ segments path, isPlainName s = true := by
            simpa using List.find?_eq_none.mp hfound
          constructor
          · rintro ⟨⟩
            exact ⟨rfl, hchain, hplain⟩
          · rintro ⟨hsame, -, -⟩
            rw [← hsame]

/-- A key with at least one segment whose segments are plain names. -/
structure Plain (key : Key) : Prop where
  nonempty : key.chain ≠ []
  names : ∀ s ∈ key.chain, IsName s.toList

theorem Plain.of_isPlainName (hne : key.chain ≠ [])
    (hplain : ∀ s ∈ key.chain, isPlainName s = true) : key.Plain :=
  ⟨hne, fun s hs => isName_of_isPlainName (hplain s hs)⟩

theorem plain_of_derive? {path : String} (h : derive? path = .ok key) : key.Plain := by
  obtain ⟨-, hne, hplain⟩ := derive?_eq_ok_iff.mp h
  exact .of_isPlainName hne hplain

/-! ### Texts of a key -/

/-- The canonical path of a key has the segments that the key is derived from. -/
theorem segments_path (hkey : key.Plain) : segments key.path = key.chain := by
  refine segments_slash_intercalate hkey.nonempty fun name hname => ⟨?_, fun hslash => ?_⟩
  · rintro rfl
    obtain ⟨c, hc, -⟩ := (hkey.names "" hname).start
    cases hc
  · have hpart := (hkey.names name hname).parts '/' hslash
    revert hpart
    decide

/-- Names with a dot in front of each. -/
def dotted (chain : List String) : List Char := chain.flatMap fun s => '.' :: s.toList

theorem toList_fieldPath (hne : key.chain ≠ []) :
    key.fieldPath.toList = 'c' :: dotted key.chain := by
  have hjoined : ∀ (s : String) (rest : List String),
      (['.'].intercalate ((s :: rest).map String.toList)) = s.toList ++ dotted rest := by
    intro s rest
    induction rest generalizing s with
    | nil => simp [dotted]
    | cons t rest ih =>
        rw [List.map_cons, List.map_cons, List.intercalate_cons_cons, ← List.map_cons, ih t]
        simp [dotted]
  cases hchain : key.chain with
  | nil => exact absurd hchain hne
  | cons s rest =>
      have htext := hjoined s rest
      simpa [fieldPath, hchain, dotted, String.toList_intercalate] using htext

theorem toList_paramName {first : String} {rest : List String}
    (hchain : key.chain = first :: rest) :
    key.paramName.toList = first.toList ++ (rest.map capitalize).flatMap String.toList := by
  simp [paramName, hchain, List.flatMap]

theorem isName_paramName (hkey : key.Plain) : IsName key.paramName.toList := by
  obtain ⟨hne, hnames⟩ := hkey
  cases hchain : key.chain with
  | nil => exact absurd hchain hne
  | cons first rest =>
      rw [hchain] at hnames
      rw [toList_paramName hchain]
      refine (hnames first List.mem_cons_self).append fun d hd => ?_
      obtain ⟨capital, hcapital, hd⟩ := List.mem_flatMap.mp hd
      obtain ⟨s, hs, rfl⟩ := List.mem_map.mp hcapital
      exact isNamePart_of_mem_capitalize (hnames s (List.mem_cons_of_mem _ hs)) d hd

/-- Only the identifier itself counts as the identifier: a segment behind the first puts a capital
into the name of the parameter. -/
theorem isIdentity_iff_chain (hkey : key.Plain) : key.isIdentity = true ↔ key.chain = ["id"] := by
  obtain ⟨first, rest, hchain⟩ := List.exists_cons_of_ne_nil hkey.nonempty
  have hname : key.isIdentity = true ↔ key.paramName.toList = ['i', 'd'] := by
    rw [isIdentity, beq_iff_eq, ← String.toList_inj]
    rfl
  rw [hname, toList_paramName hchain, hchain]
  cases rest with
  | nil =>
      rw [List.map_nil, List.flatMap_nil, List.append_nil, List.cons.injEq, ← String.toList_inj]
      exact (and_iff_left rfl).symm
  | cons s later =>
      have hfirst := hkey.names first (hchain ▸ List.mem_cons_self)
      have hs := hkey.names s (hchain ▸ List.mem_cons_of_mem _ List.mem_cons_self)
      obtain ⟨a, as, hopening, -, -⟩ := hfirst.exists_cons
      obtain ⟨c, cs, htext, hstart, -⟩ := hs.exists_cons
      have hpart := isNamePart_of_isNameStart hstart
      constructor
      · intro hid
        rw [List.map_cons, List.flatMap_cons, toList_capitalize hpart htext, hopening] at hid
        -- the first segment takes one letter, so the next has to give a small one
        obtain ⟨-, hid⟩ := List.cons.inj hid
        cases as with
        | nil =>
            have hlower := isLower_toUpper hpart
            rw [(List.cons.inj hid).1] at hlower
            exact absurd hlower (by decide)
        | cons b bs =>
            have hlength := congrArg List.length hid
            simp at hlength
      · intro hsingle
        simp at hsingle

theorem toList_partitionQuery (hne : key.chain ≠ []) :
    key.partitionQuery.toList =
      "SELECT * FROM c WHERE c".toList ++ (dotted key.chain ++ (" = @".toList ++
        key.paramName.toList)) := by
  have htext : key.partitionQuery =
      "SELECT * FROM c WHERE " ++ key.fieldPath ++ " = " ++ ("@" ++ key.paramName) := rfl
  have hfront : "SELECT * FROM c WHERE c".toList = "SELECT * FROM c WHERE ".toList ++ ['c'] := by
    decide
  have hmiddle : " = @".toList = " = ".toList ++ "@".toList := by decide
  rw [htext, hfront, hmiddle]
  simp only [String.toList_append, toList_fieldPath hne, List.append_assoc, List.cons_append,
    List.nil_append]

end DocAccess.Partition.Key
