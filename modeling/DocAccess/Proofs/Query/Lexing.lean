import DocAccess.Proofs.Partition.Key
import DocAccess.Query.Lexer

/-!
# Lexing selections

How the lexer reads a selection with one comparison: words, parameters, points, marks and literals.
A letter that may open a literal opens a word all the same where no quotation mark follows it, and no
mark takes in the first letter of a name.
-/

namespace DocAccess.Query

open DocAccess.Text DocAccess.Partition

/-! ### The tokens of a text -/

/-- The tokens of some characters, found whatever the bound on the number of steps, as long as it
is no less than the number of characters. -/
def Lexes (cs : List Char) (ts : List Token) : Prop :=
  ∀ fuel, cs.length ≤ fuel → tokensFrom? fuel cs = some ts

theorem Lexes.nil : Lexes [] [] := by
  intro fuel _
  cases fuel <;> rfl

/-- One step of the lexer, which never gives characters back. -/
theorem Lexes.step {c : Char} {cs rest : List Char} {t : Option Token} {ts : List Token}
    (hread : readToken? c cs = some (t, rest)) (hshorter : rest.length ≤ cs.length)
    (hrest : Lexes rest ts) : Lexes (c :: cs) (t.toList ++ ts) := by
  intro fuel hfuel
  cases fuel with
  | zero => simp at hfuel
  | succ fuel =>
      have hbound : rest.length ≤ fuel := by
        rw [List.length_cons] at hfuel
        omega
      have htail := hrest fuel hbound
      cases t <;> simp [tokensFrom?, hread, htail]

theorem Lexes.tokens? {text : String} {ts : List Token} (h : Lexes text.toList ts) :
    tokens? text = some ts := h _ (Nat.le_refl _)

/-! ### Blanks, signs and points -/

theorem Lexes.blank {cs : List Char} {ts : List Token} (h : Lexes cs ts) : Lexes (' ' :: cs) ts :=
  Lexes.step (t := none) rfl (Nat.le_refl _) h

theorem Lexes.star {cs : List Char} {ts : List Token} (h : Lexes (' ' :: cs) ts) :
    Lexes ('*' :: ' ' :: cs) (.mark "*" :: ts) :=
  Lexes.step (t := some _) rfl (Nat.le_refl _) h

/-- The signs of a comparison. -/
def compareSigns : List String := ["=", "<>"]

theorem Lexes.sign {sign : String} (hsign : sign ∈ compareSigns) {cs : List Char} {ts : List Token}
    (h : Lexes (' ' :: cs) ts) : Lexes (sign.toList ++ ' ' :: cs) (.mark sign :: ts) := by
  simp only [compareSigns, List.mem_cons, List.not_mem_nil, or_false] at hsign
  rcases hsign with rfl | rfl
  · exact Lexes.step (c := '=') (t := some _) rfl (Nat.le_refl _) h
  · exact Lexes.step (c := '<') (t := some _) rfl (Nat.le_succ _) h

/-! ### Characters of names -/

/-- Whether a character may open a name: a letter of any script or a low line. -/
def opensName (c : Char) : Bool := isAlphabetic c || c == '_'

/-- The characters of a name in a query: the first opens one, the others may continue a word. -/
def IsField (cs : List Char) : Prop :=
  ∃ c tail, cs = c :: tail ∧ opensName c = true ∧ ∀ d ∈ tail, isWordPart d = true

theorem isWordPart_of_isNamePart {c : Char} (hc : isNamePart c = true) : isWordPart c = true := by
  have hascii := toNat_lt_of_isNamePart hc
  simp only [isNamePart, Char.isAlphanum, Bool.or_eq_true] at hc
  simp only [isWordPart, isAlphabetic, if_pos hascii, Bool.or_eq_true]
  rcases hc with (hc | hc) | hc <;> simp [hc]

theorem opensName_of_isNameStart {c : Char} (hc : isNameStart c = true) : opensName c = true := by
  have hascii := toNat_lt_of_isNamePart (isNamePart_of_isNameStart hc)
  simpa only [opensName, isAlphabetic, if_pos hascii, isNameStart] using hc

/-- A plain name is a name in a query. -/
theorem isField_of_isName {cs : List Char} (hcs : IsName cs) : IsField cs := by
  obtain ⟨c, tail, rfl, hstart, htail⟩ := hcs.exists_cons
  exact ⟨c, tail, rfl, opensName_of_isNameStart hstart,
    fun d hd => isWordPart_of_isNamePart (htail d hd)⟩

theorem isField_of_isPlainName {w : String} (hw : isPlainName w = true) : IsField w.toList :=
  isField_of_isName (isName_of_isPlainName hw)

theorem isWordStart_of_opensName {c : Char} (hc : opensName c = true) : isWordStart c = true := by
  simp only [opensName, Bool.or_eq_true] at hc
  simp only [isWordStart, Bool.or_eq_true]
  exact .inl (.inl hc)

/-- No digit opens a name: digits are ASCII characters, and of these only letters are alphabetic. -/
theorem isDigit_of_opensName {c : Char} (hc : opensName c = true) : c.isDigit = false := by
  by_cases hascii : c.toNat < 128
  · have h := holds_of_ascii (p := fun c => !opensName c || !c.isDigit) (by decide +kernel) hascii
    simpa [hc] using h
  · rw [Char.isDigit, Bool.and_eq_false_iff]
    have hnine : ¬ c ≤ '9' := fun h => by
      have hle : c.toNat ≤ 57 := h
      omega
    exact .inr (decide_eq_false hnine)

/-- A character that does not open a name is none that does. -/
theorem beq_eq_false_of_opensName {c d : Char} (hc : opensName c = true)
    (hd : opensName d = false) : (c == d) = false := by
  rw [beq_eq_false_iff_ne]
  rintro rfl
  simp [hc] at hd

/-! ### Words -/

/-- Whether the end of a word is behind it: the end of the text, a blank or a point. -/
def EndsWord (rest : List Char) : Prop := ∀ c ∈ rest.head?, c = ' ' ∨ c = '.'

/-- A point in front of a name is a mark: only a digit would make it a number. -/
theorem Lexes.point {cs rest : List Char} {ts : List Token} (hcs : IsField cs)
    (h : Lexes (cs ++ rest) ts) : Lexes ('.' :: (cs ++ rest)) (.mark "." :: ts) := by
  obtain ⟨c, tail, rfl, hstart, -⟩ := hcs
  have hdigit := isDigit_of_opensName hstart
  have hread : readNumber ('.' :: (c :: tail ++ rest)) = (.mark ".", c :: tail ++ rest) := by
    have hpoint : '.'.isDigit = false := by decide
    simp [readNumber, hpoint, hdigit]
  have htoken : readToken? '.' (c :: tail ++ rest) =
      some (some (readNumber ('.' :: (c :: tail ++ rest))).1,
        (readNumber ('.' :: (c :: tail ++ rest))).2) := rfl
  rw [hread] at htoken
  exact Lexes.step htoken (Nat.le_refl _) h

/-- A word goes up to its end and is no number, as it has a character that no number has. -/
theorem readWord_of_endsWord {start cs rest : List Char} {c : Char} (hc : c ∈ start)
    (hword : (c.isDigit || c == '.') = false) (hcs : ∀ d ∈ cs, isWordPart d = true)
    (hrest : EndsWord rest) :
    readWord start (cs ++ rest) = (Token.ofWord (start ++ cs), rest) := by
  have hend : rest.takeWhile isWordPart = [] ∧ rest.dropWhile isWordPart = rest := by
    cases rest with
    | nil => exact ⟨rfl, rfl⟩
    | cons d rest =>
        have hd : isWordPart d = false := by
          rcases hrest d rfl with rfl | rfl <;> decide
        simp [hd]
  have hnumber : ((start ++ cs).all fun d => d.isDigit || d == '.') = false := by
    rw [List.all_eq_false]
    exact ⟨c, List.mem_append_left _ hc, by simp [hword]⟩
  simp only [readWord, List.takeWhile_append_of_pos hcs, List.dropWhile_append_of_pos hcs,
    hend, List.append_nil, hnumber]
  rfl

/-- A letter opens a literal only in front of a quotation mark or an ampersand. -/
theorem readLettered?_eq_readWord {letter : Char} {cs : List Char}
    (hcs : ∀ c ∈ cs.head?, c ≠ '\'' ∧ c ≠ '"' ∧ c ≠ '&') :
    readLettered? letter cs = some (readWord [letter] cs) := by
  unfold readLettered?
  split
  case h_9 => rfl
  -- each of the other cases starts with one of the three characters
  all_goals simp at hcs

/-- Every long mark has two characters or more, and no character of a name is among the first two of
a mark that starts with an at sign, nor the first one of any mark. -/
theorem longMarks_start : ∀ m ∈ longMarks, ∃ a b tail, m.toList = a :: b :: tail ∧
    opensName a = false ∧ (a = '@' → opensName b = false) := by
  have hall : (longMarks.all fun m => m.toList.head?.any fun a => m.toList.tail.head?.any fun b =>
      !opensName a && (a != '@' || !opensName b)) = true := by decide +kernel
  intro m hm
  have hmark := List.all_eq_true.mp hall m hm
  cases htext : m.toList with
  | nil => simp [htext] at hmark
  | cons a rest =>
      cases rest with
      | nil => simp [htext] at hmark
      | cons b tail =>
          simp only [htext, List.head?_cons, List.tail_cons, Option.any_some, Bool.and_eq_true,
            Bool.not_eq_true', Bool.or_eq_true, bne_iff_ne] at hmark
          exact ⟨a, b, tail, rfl, hmark.1, fun ha => hmark.2.resolve_left (not_not_intro ha)⟩

theorem readMark?_of_opensName {c : Char} {cs : List Char} (hc : opensName c = true) :
    readMark? (c :: cs) = none := by
  have hlong : (longMarks.findSome? fun m => (behind? m.toList (c :: cs)).map fun rest =>
      (m, rest)) = none := by
    rw [List.findSome?_eq_none_iff]
    intro m hm
    obtain ⟨a, b, tail, htext, ha, -⟩ := longMarks_start m hm
    have hne : a ≠ c := fun h => by simp [h, hc] at ha
    simp [htext, behind?, hne]
  have hshort : shortMarks.contains c = false := by
    have hall : (shortMarks.all fun d => !opensName d) = true := by decide +kernel
    rw [List.contains_eq_mem, decide_eq_false_iff_not]
    intro hmem
    have hnot := List.all_eq_true.mp hall c hmem
    rw [hc] at hnot
    cases hnot
  rw [readMark?, hlong]
  simp only [hshort]
  rfl

theorem readMark?_at {c : Char} {cs : List Char} (hc : opensName c = true) :
    readMark? ('@' :: c :: cs) = none := by
  have hlong : (longMarks.findSome? fun m => (behind? m.toList ('@' :: c :: cs)).map fun rest =>
      (m, rest)) = none := by
    rw [List.findSome?_eq_none_iff]
    intro m hm
    obtain ⟨a, b, tail, htext, -, hb⟩ := longMarks_start m hm
    by_cases ha : a = '@'
    · have hne : b ≠ c := fun h => by simp [← h, hb ha] at hc
      simp [htext, behind?, hne]
    · simp [htext, behind?, ha]
  have hshort : shortMarks.contains '@' = false := by decide
  rw [readMark?, hlong]
  simp only [hshort]
  rfl

/-- The first character of a name is none of those that the lexer looks for before marks. -/
theorem readToken?_of_opensName {c : Char} {cs : List Char} (hc : opensName c = true)
    (hcs : ∀ d ∈ cs.head?, d ≠ '\'' ∧ d ≠ '"' ∧ d ≠ '&') :
    readToken? c cs = some (some (readWord [c] cs).1, (readWord [c] cs).2) := by
  have hother : ∀ d, opensName d = false → (c == d) = false := fun d hd =>
    beq_eq_false_of_opensName hc hd
  have hmark : readMark? (c :: cs) = none := readMark?_of_opensName hc
  have hdigit := isDigit_of_opensName hc
  have hword := isWordStart_of_opensName hc
  simp only [readToken?, hother ' ' (by decide), hother '\t' (by decide), hother '\n' (by decide),
    hother '\r' (by decide), hother '\'' (by decide), hother '"' (by decide),
    hother (Char.ofNat 96) (by decide), hother '.' (by decide), hother '-' (by decide),
    hother '/' (by decide), hother '#' (by decide), hother '@' (by decide),
    hother '?' (by decide), hdigit, hmark, hword, readLettered?_eq_readWord hcs,
    Bool.or_false, Bool.false_and, Bool.false_eq_true, if_false, if_true, Option.map_some]
  split <;> rfl

/-- No character of a word is one that makes a literal of the letter in front of it. -/
theorem not_opensLiteral_of_isWordPart {c : Char} (hc : isWordPart c = true) :
    c ≠ '\'' ∧ c ≠ '"' ∧ c ≠ '&' := by
  refine ⟨?_, ?_, ?_⟩ <;> rintro rfl <;> exact absurd hc (by decide)

theorem Lexes.word {cs rest : List Char} {ts : List Token} (hcs : IsField cs)
    (hrest : EndsWord rest) (h : Lexes rest ts) : Lexes (cs ++ rest) (Token.ofWord cs :: ts) := by
  obtain ⟨c, tail, rfl, hstart, htail⟩ := hcs
  have hpoint : (c.isDigit || c == '.') = false := by
    rw [isDigit_of_opensName hstart, beq_eq_false_of_opensName hstart (by decide), Bool.or_false]
  have hread := readWord_of_endsWord (List.mem_singleton_self c) hpoint htail hrest
  have hnext : ∀ d ∈ (tail ++ rest).head?, d ≠ '\'' ∧ d ≠ '"' ∧ d ≠ '&' := by
    intro d hd
    cases tail with
    | nil => rcases hrest d hd with rfl | rfl <;> decide
    | cons e tail =>
        obtain rfl : e = d := by simpa using hd
        exact not_opensLiteral_of_isWordPart (htail e List.mem_cons_self)
  have htoken := readToken?_of_opensName hstart hnext
  rw [hread] at htoken
  exact Lexes.step (t := some _) htoken (by simp) h

/-- A parameter is a word that starts with its at sign. -/
theorem Lexes.parameter {cs rest : List Char} {ts : List Token} (hcs : IsField cs)
    (hrest : EndsWord rest) (h : Lexes rest ts) :
    Lexes ('@' :: (cs ++ rest)) (Token.ofWord ('@' :: cs) :: ts) := by
  obtain ⟨c, tail, rfl, hstart, htail⟩ := hcs
  have hmark : readMark? ('@' :: c :: (tail ++ rest)) = none := readMark?_at hstart
  have hread : readAt (c :: tail ++ rest) = (Token.ofWord ('@' :: c :: tail), rest) := by
    have hword : readWord ['@', c] (tail ++ rest) = (Token.ofWord ('@' :: c :: tail), rest) :=
      readWord_of_endsWord List.mem_cons_self (by decide) htail hrest
    rw [List.cons_append, readAt]
    · exact hword
    -- the first character of a name is neither a blank nor an at sign
    all_goals
      intros
      subst_vars
      exact absurd hstart (by decide)
  have htoken : readToken? '@' (c :: tail ++ rest) =
      some (some (readAt (c :: tail ++ rest)).1, (readAt (c :: tail ++ rest)).2) := by
    rw [List.cons_append, readToken?, hmark]
    rfl
  rw [hread] at htoken
  have hshorter : rest.length ≤ (c :: tail ++ rest).length := by
    rw [List.length_append]
    omega
  exact Lexes.step htoken hshorter h

/-! ### A selection with one comparison -/

/-- The tokens of names with a dot in front of each. -/
def dottedTokens (chain : List String) : List Token :=
  chain.flatMap fun s => [.mark ".", Token.ofWord s.toList]

theorem endsWord_nil : EndsWord [] := by
  rintro c ⟨⟩

theorem endsWord_blank (cs : List Char) : EndsWord (' ' :: cs) := by
  rintro c ⟨⟩
  exact .inl rfl

theorem endsWord_dotted (chain : List String) {rest : List Char} (hrest : EndsWord rest) :
    EndsWord (Key.dotted chain ++ rest) := by
  cases chain with
  | nil => exact hrest
  | cons s chain =>
      rintro c ⟨⟩
      exact .inr rfl

theorem Lexes.dotted {chain : List String} {rest : List Char} {ts : List Token}
    (hnames : ∀ s ∈ chain, IsField s.toList) (hrest : EndsWord rest) (h : Lexes rest ts) :
    Lexes (Key.dotted chain ++ rest) (dottedTokens chain ++ ts) := by
  induction chain with
  | nil => exact h
  | cons s chain ih =>
      have hs := hnames s List.mem_cons_self
      have htail := ih fun t ht => hnames t (List.mem_cons_of_mem _ ht)
      have hword := Lexes.word hs (endsWord_dotted chain hrest) htail
      have hpoint := Lexes.point hs hword
      simpa [Key.dotted, dottedTokens] using hpoint

/-- The tokens of a selection of everything from the source `c`, in front of its condition. -/
def selectWhere (ts : List Token) : List Token :=
  .word ⟨"SELECT", none⟩ "SELECT" :: .mark "*" :: .word ⟨"FROM", none⟩ "FROM" ::
    .word ⟨"c", none⟩ "C" :: .word ⟨"WHERE", none⟩ "WHERE" :: ts

/-- The tokens of a selection under a comparison of a path with what some tokens say. -/
def comparisonTokens (chain : List String) (sign : String) (ts : List Token) : List Token :=
  selectWhere (.word ⟨"c", none⟩ "C" :: (dottedTokens chain ++ .mark sign :: ts))

/-- The selection of the documents under a comparison of a path with an operand. -/
def comparisonText (chain : List String) (sign : String) (operand : List Char) : String :=
  String.ofList ("SELECT * FROM c WHERE c".toList ++ (Key.dotted chain ++
    ' ' :: (sign.toList ++ ' ' :: operand)))

theorem toList_comparisonText (chain : List String) (sign : String) (operand : List Char) :
    (comparisonText chain sign operand).toList = "SELECT * FROM c WHERE c".toList ++
      (Key.dotted chain ++ ' ' :: (sign.toList ++ ' ' :: operand)) := String.toList_ofList

/-- A selection under a comparison of a path is cut into its words, marks and names and into the
tokens of what the path is compared with. -/
theorem tokens?_comparison {sign : String} {chain : List String} {operand : List Char}
    {ts : List Token} (hnames : ∀ s ∈ chain, IsField s.toList) (hsign : sign ∈ compareSigns)
    (hoperand : Lexes operand ts) :
    tokens? (comparisonText chain sign operand) = some (comparisonTokens chain sign ts) := by
  have hname : ∀ {w : String}, isPlainName w = true → IsField w.toList := isField_of_isPlainName
  have hblank := endsWord_blank
  have hpath := Lexes.dotted hnames (hblank _) (Lexes.sign hsign hoperand.blank).blank
  -- the fixed words in front of the path, last one first
  have hc := Lexes.word (hname (w := "c") (by decide)) (endsWord_dotted chain (hblank _)) hpath
  have hwhere := Lexes.word (hname (w := "WHERE") (by decide)) (hblank _) hc.blank
  have hsource := Lexes.word (hname (w := "c") (by decide)) (hblank _) hwhere.blank
  have hfrom := Lexes.word (hname (w := "FROM") (by decide)) (hblank _) hsource.blank
  have hselect := Lexes.word (hname (w := "SELECT") (by decide)) (hblank _) hfrom.blank.star.blank
  have hwords : [Token.ofWord "SELECT".toList, .mark "*", Token.ofWord "FROM".toList,
      Token.ofWord "c".toList, Token.ofWord "WHERE".toList, Token.ofWord "c".toList] =
      selectWhere [.word ⟨"c", none⟩ "C"] := by decide +kernel
  refine Lexes.tokens? ?_
  rw [toList_comparisonText, show comparisonTokens chain sign ts =
    selectWhere [.word ⟨"c", none⟩ "C"] ++ (dottedTokens chain ++ .mark sign :: ts) from rfl, ← hwords]
  exact hselect

end DocAccess.Query
