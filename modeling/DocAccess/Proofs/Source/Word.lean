import DocAccess.Proofs.Partition.Key
import DocAccess.Proofs.Source.Reading
import DocAccess.Source.Items
import Mathlib.Data.List.TakeWhile

/-!
# Words in source text

A text that is spelled like a word is one token, whatever letters it has behind its first one.  So
it is an identifier exactly if it is no keyword: quotation marks and hash marks, which turn the
letters in front of them into the opening of a literal or of a raw word, are no part of a word.
-/

namespace DocAccess.Source

open DocAccess.Text

/-! ### Characters of words -/

/-- Characters that are spelled like a word with a plain first letter. -/
structure IsWordText (cs : List Char) : Prop where
  start : ∃ c ∈ cs.head?, isNameStart c = true
  parts : ∀ c ∈ cs, isIdentifierPart c = true

theorem isIdentifierPart_of_isNamePart {c : Char} (hc : isNamePart c = true) :
    isIdentifierPart c = true := by
  have hascii := toNat_lt_of_isNamePart hc
  rwa [isIdentifierPart, if_pos hascii]

theorem opensWord_of_isNameStart {c : Char} (hc : isNameStart c = true) : opensWord c = true := by
  have hascii := toNat_lt_of_isNamePart (isNamePart_of_isNameStart hc)
  rw [isNameStart, Bool.or_comm] at hc
  rwa [opensWord, isIdentifierStart, if_pos hascii]

/-- What opens a name is no blank, no mark and no bracket. -/
theorem not_special_of_isNameStart {c : Char} (hc : isNameStart c = true) :
    isGap c = false ∧ c.isDigit = false ∧ c ∉ marks ∧ c ∉ ['(', '[', '{', ')', ']', '}', '"'] ∧
      c.toNat ≠ 0xFEFF := by
  have hascii := toNat_lt_of_isNamePart (isNamePart_of_isNameStart hc)
  have h := holds_of_ascii
    (p := fun c => !isNameStart c || (!isGap c && !c.isDigit && !marks.contains c &&
      !(['(', '[', '{', ')', ']', '}', '"'].contains c))) (by decide) hascii
  simp only [hc, Bool.not_true, Bool.false_or, Bool.and_eq_true, Bool.not_eq_true',
    List.contains_eq_mem, decide_eq_false_iff_not] at h
  exact ⟨h.1.1.1, h.1.1.2, h.1.2, h.2, by omega⟩

/-- No quotation mark or hash mark continues a word. -/
theorem ne_of_isIdentifierPart {c : Char} (hc : isIdentifierPart c = true) :
    c ≠ '"' ∧ c ≠ '#' ∧ c ≠ '\'' := by
  refine ⟨?_, ?_, ?_⟩
  all_goals
    rintro rfl
    exact absurd hc (by decide)

namespace IsWordText

variable {cs : List Char}

theorem exists_cons (h : IsWordText cs) :
    ∃ c rest, cs = c :: rest ∧ isNameStart c = true ∧ ∀ d ∈ rest, isIdentifierPart d = true := by
  obtain ⟨c, hc, hstart⟩ := h.start
  cases cs with
  | nil => simp at hc
  | cons d rest =>
      obtain rfl : d = c := by simpa using hc
      exact ⟨d, rest, rfl, hstart, fun e he => h.parts e (List.mem_cons_of_mem _ he)⟩

end IsWordText

/-! ### No literal -/

variable {c : Char} {rest : List Char}

theorem behind?_letter {letter : String} {l : Char} (hletter : letter.toList = [l]) :
    behind? letter (c :: rest) = if l = c then some rest else none := by
  simp [behind?, hletter, List.isPrefixOf]

/-- What opens a literal or a raw word goes beyond a word behind its first letter. -/
theorem behind?_eq_none {opening : String} (hrest : ∀ d ∈ rest, isIdentifierPart d = true)
    (hopening : (opening.toList.tail.all isIdentifierPart) = false) :
    behind? opening (c :: rest) = none := by
  obtain ⟨d, hd, hmark⟩ := List.all_eq_false.mp hopening
  have hnot : ¬opening.toList <+: c :: rest := by
    cases hchars : opening.toList with
    | nil => simp [hchars] at hd
    | cons l tail =>
        rw [hchars] at hd
        intro hprefix
        obtain ⟨-, htail⟩ := List.cons_prefix_cons.mp hprefix
        exact hmark (hrest d (htail.subset hd))
  rw [behind?, if_neg]
  rwa [List.isPrefixOf_iff_prefix]

/-- Neither a quotation mark nor a hash mark comes first. -/
def QuoteFree (cs : List Char) : Prop := ∀ d ∈ cs.head?, d ≠ '"' ∧ d ≠ '#' ∧ d ≠ '\''

theorem QuoteFree.of_parts (hrest : ∀ d ∈ rest, isIdentifierPart d = true) : QuoteFree rest :=
  fun d hd => ne_of_isIdentifierPart (hrest d (List.mem_of_mem_head? hd))

theorem string?_eq_none {cs : List Char} (hcs : QuoteFree cs) (form : StringForm) (raw : Bool) :
    string? form cs raw = none := by
  cases cs with
  | nil => cases raw <;> rfl
  | cons d tail =>
      obtain ⟨hquote, hhash, -⟩ := hcs d rfl
      cases raw with
      | true =>
          have hopening : rawOpening? 0 (d :: tail) = none := by
            unfold rawOpening?
            split
            · next heq => exact absurd (List.cons.inj heq).1 hquote
            · next heq => exact absurd (List.cons.inj heq).1 hhash
            · rfl
          simp [string?, hopening]
      | false =>
          unfold string?
          split
          · next htrue => cases htrue
          · split
            · next heq => exact absurd (List.cons.inj heq).1 hquote
            · rfl

section Literal

variable (hstart : isNameStart c = true) (hrest : ∀ d ∈ rest, isIdentifierPart d = true)

include hstart in
theorem QuoteFree.of_start : QuoteFree (c :: rest) := by
  rintro d hd
  obtain rfl : c = d := by simpa using hd
  exact ne_of_isIdentifierPart (isIdentifierPart_of_isNamePart (isNamePart_of_isNameStart hstart))

include hrest in
theorem formLiteral?_word (form : StringForm) {letter : String} {l : Char}
    (hletter : letter.toList = [l]) : formLiteral? form letter (c :: rest) = none := by
  have hbehind : behind? letter (c :: rest) = if l = c then some rest else none :=
    behind?_letter hletter
  by_cases hl : l = c
  · rw [if_pos hl] at hbehind
    have htail := QuoteFree.of_parts hrest
    cases rest with
    | nil =>
        have hraw : behind? "r" [] = none := rfl
        simp [formLiteral?, hbehind, hraw, string?_eq_none htail]
    | cons d tail =>
        have hlater := QuoteFree.of_parts fun e he => hrest e (List.mem_cons_of_mem d he)
        have hraw : behind? "r" (d :: tail) = if 'r' = d then some tail else none :=
          behind?_letter rfl
        by_cases hd : 'r' = d
        · rw [if_pos hd] at hraw
          simp [formLiteral?, hbehind, hraw, string?_eq_none hlater]
        · rw [if_neg hd] at hraw
          simp [formLiteral?, hbehind, hraw, string?_eq_none htail]
  · rw [if_neg hl] at hbehind
    simp [formLiteral?, hbehind]

include hstart in
/-- A word may start like a hexadecimal number, but no decimal digit opens it. -/
theorem number?_word : number? (c :: rest) = none := by
  obtain ⟨-, hdigit, -⟩ := not_special_of_isNameStart hstart
  have hfloat : behindFloat? (c :: rest) = none := by simp [behindFloat?, hdigit]
  have hvalue : ∀ d ∈ hexDigit? c, ¬d < 10 := by
    intro d hd
    have hascii := toNat_lt_of_isNamePart (isNamePart_of_isNameStart hstart)
    have h := holds_of_ascii
      (p := fun c => !isNameStart c || (hexDigit? c).all fun d => !decide (d < 10))
      (by decide) hascii
    rw [hstart, Option.mem_def.mp hd] at h
    simpa using h
  have hdigits : behindDigits? 10 true (c :: rest) = none := by
    by_cases hgap : c = '_'
    · simp [behindDigits?, hgap]
    · cases hhex : hexDigit? c with
      | none => simp [behindDigits?, hgap, hhex]
      | some d => simp [behindDigits?, hgap, hhex, hvalue d hhex, hdigit]
  have hinteger : behindInteger? (c :: rest) = none := by
    unfold behindInteger?
    split
    case h_4 => exact hdigits
    -- a base is written behind a zero
    all_goals
      next heq =>
        rw [(List.cons.inj heq).1] at hdigit
        cases hdigit
  simp [number?, hfloat, hinteger]

include hstart hrest

/-- A letter in front of a word opens no string: the quotation mark is missing. -/
theorem textLiteral?_word : textLiteral? (c :: rest) = none := by
  have hword : QuoteFree (c :: rest) := QuoteFree.of_start hstart
  have htail := QuoteFree.of_parts hrest
  have hletter : behind? "r" (c :: rest) = if 'r' = c then some rest else none :=
    behind?_letter rfl
  by_cases hc : 'r' = c
  · rw [if_pos hc] at hletter
    simp [textLiteral?, hletter, string?_eq_none htail]
  · rw [if_neg hc] at hletter
    simp [textLiteral?, hletter, string?_eq_none hword]

theorem character?_word :
    character? .byte "b'" (c :: rest) = none ∧ character? .text "'" (c :: rest) = none := by
  have hword : QuoteFree (c :: rest) := QuoteFree.of_start hstart
  have hhead : ¬ '\'' = c := fun h => (hword c rfl).2.2 h.symm
  have hbyte : behind? "b'" (c :: rest) = none :=
    behind?_eq_none hrest (by decide)
  have htext : behind? "'" (c :: rest) = none := by
    rw [behind?_letter (l := '\'') rfl, if_neg hhead]
  constructor
  · simp [character?, hbyte]
  · simp [character?, htext]

theorem literal?_word : literal? (c :: rest) = none := by
  obtain ⟨hbyte, hcharacter⟩ := character?_word hstart hrest
  have hbytes : formLiteral? .byte "b" (c :: rest) = none :=
    formLiteral?_word hrest .byte rfl
  have hended : formLiteral? .zeroEnded "c" (c :: rest) = none :=
    formLiteral?_word hrest .zeroEnded rfl
  rw [literal?, textLiteral?_word hstart hrest, hbytes, hended, hbyte, hcharacter,
    number?_word hstart]
  rfl

/-! ### One token -/

theorem leaf?_word :
    leaf? (c :: rest) = some (.word (String.ofList (c :: rest)) false, []) := by
  obtain ⟨-, -, hmark, -⟩ := not_special_of_isNameStart hstart
  have hfree : QuoteFree (c :: rest) := QuoteFree.of_start hstart
  have hquote : c ≠ '\'' := (hfree c rfl).2.2
  have hstarts : startsMark (c :: rest) = false := by simp [startsMark, hmark]
  have hopenings : literalOpenings.any (begins · (c :: rest)) = false := by
    rw [List.any_eq_false]
    intro opening hopening
    have hmarked : ∀ opening ∈ literalOpenings,
        opening.toList.tail.all isIdentifierPart = false := by
      decide
    rw [begins, behind?_eq_none hrest (hmarked opening hopening)]
    exact Bool.false_ne_true
  have hraw : behind? "r#" (c :: rest) = none :=
    behind?_eq_none hrest (by decide)
  have hall : rest.takeWhile isIdentifierPart = rest ∧ rest.dropWhile isIdentifierPart = [] :=
    ⟨List.takeWhile_eq_self_iff.mpr hrest, List.dropWhile_eq_nil_iff.mpr hrest⟩
  have hword : wordTree? (c :: rest) = some (.word (String.ofList (c :: rest)) false, []) := by
    simp [wordTree?, hraw, word?, opensWord_of_isNameStart hstart, hall]
  -- neither a literal nor a mark starts here, so that only a word is left
  unfold leaf?
  rw [literal?_word hstart hrest]
  split
  · next hsome => cases hsome
  · split
    · next heq => exact absurd (List.cons.inj heq).1 hquote
    · next heq =>
        obtain ⟨rfl, rfl⟩ := List.cons.inj heq
        simp [hstarts, hopenings, hword]
    · next heq => cases heq

end Literal

/-- No comment starts with the first letter of a word. -/
theorem begins_eq_false (hstart : isNameStart c = true) {opening : String}
    (hopening : opening.toList.head? = some '/') : begins opening (c :: rest) = false := by
  obtain ⟨-, -, hmark, -⟩ := not_special_of_isNameStart hstart
  have hslash : '/' ∈ marks := by decide
  have hne : c ≠ '/' := fun heq => hmark (heq ▸ hslash)
  have hnot : ¬opening.toList <+: c :: rest := by
    rintro ⟨more, hmore⟩
    have hhead := congrArg List.head? hmore
    rw [List.head?_append, hopening] at hhead
    exact hne (Option.some.inj hhead).symm
  rw [begins, behind?, if_neg]
  · rfl
  · rwa [List.isPrefixOf_iff_prefix]

theorem skipGapsFrom_word (fuel : Nat) (hstart : isNameStart c = true) :
    skipGapsFrom fuel (c :: rest) = c :: rest := by
  obtain ⟨hgap, -⟩ := not_special_of_isNameStart hstart
  have hslash (opening : String) (hopening : opening.toList.head? = some '/') :
      begins opening (c :: rest) = false := begins_eq_false hstart hopening
  have hcomment : behindComment? (c :: rest) = none := by
    simp [behindComment?, hslash "//" rfl, hslash "/**/" rfl, hslash "/*" rfl]
  cases fuel with
  | zero => rfl
  | succ fuel => simp [skipGapsFrom, hcomment, hgap]

theorem trees?_of_isWordText {text : String} (h : IsWordText text.toList) :
    trees? text = some [.word text false] := by
  obtain ⟨c, rest, htext, hstart, hrest⟩ := h.exists_cons
  obtain ⟨hgap, -, hmark, hbracket, horder⟩ := not_special_of_isNameStart hstart
  have hmark : skipOrderMark (c :: rest) = c :: rest := by
    rw [skipOrderMark, if_neg]
    simpa using horder
  have hname : String.ofList (c :: rest) = text := by rw [← htext, String.ofList_toList]
  have hslash (opening : String) (hopening : opening.toList.head? = some '/') :
      begins opening (c :: rest) = false := begins_eq_false hstart hopening
  have hdocs : documentation? (c :: rest) = none := by
    simp [documentation?, hslash "//!" rfl, hslash "/*!" rfl, hslash "///" rfl, hslash "/**" rfl]
  simp only [List.mem_cons, List.not_mem_nil, or_false, not_or] at hbracket
  obtain ⟨hparen, hsquare, hbrace, hparen', hsquare', hbrace', -⟩ := hbracket
  have hopening : opening? (c :: rest) = none := by
    unfold opening?
    split
    · next heq => exact absurd (List.cons.inj heq).1 hparen
    · next heq => exact absurd (List.cons.inj heq).1 hsquare
    · next heq => exact absurd (List.cons.inj heq).1 hbrace
    · rfl
  have hclosing : closing? (c :: rest) = none := by
    unfold closing?
    split
    · next heq => exact absurd (List.cons.inj heq).1 hparen'
    · next heq => exact absurd (List.cons.inj heq).1 hsquare'
    · next heq => exact absurd (List.cons.inj heq).1 hbrace'
    · rfl
  have hend : ∀ fuel, treesFrom? (fuel + 1) [] [.word text false] [] = some [.word text false] :=
    fun _ => rfl
  -- nothing in front of the word is skipped, and nothing stands behind it
  rw [trees?, htext, hmark, treesFrom?]
  simp [skipGapsFrom_word _ hstart, hdocs, hopening, hclosing, leaf?_word hstart hrest, hname, hend]

/-! ### Identifiers -/

/-- A text that is spelled like a word is an identifier unless it is a keyword. -/
theorem isIdentifier_of_isWordText {text : String} (h : IsWordText text.toList) :
    isIdentifier text = !keywords.contains text := by
  have hword := Reading.identifier_word text false []
  unfold isIdentifier readText?
  rw [trees?_of_isWordText h, Option.bind_eq_bind, Option.bind_some]
  simp only [hword]
  have hidentifier : (Tree.word text false).isIdentifier = !keywords.contains text := by
    rw [Tree.isIdentifier, Bool.false_or]
  rw [hidentifier]
  cases keywords.contains text with
  | true => rfl
  | false => rfl

end DocAccess.Source
