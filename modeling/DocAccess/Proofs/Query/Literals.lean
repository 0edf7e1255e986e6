import DocAccess.Proofs.Document.NumberText
import DocAccess.Proofs.Query.Parsing

/-!
# Literals

The scalars of documents and how a query spells them.  A literal behind a comparison is one token to
the lexer and one operand to the parser, and it stands for the scalar that it spells, except that the
text of a double may read back as another double.

* `Spelled` — scalars with their spellings.
* `ofText?_literal` — what a comparison with a literal stands for.
-/

namespace DocAccess.Query

open DocAccess.Document DocAccess.Partition DocAccess.Query.Reading DocAccess.Text

/-! ### Quoted texts -/

/-- A text with its quotation marks doubled. -/
def quoteDoubled (text : List Char) : List Char :=
  text.flatMap fun c => if c = '\'' then ['\'', '\''] else [c]

/-- A text is read up to the mark behind it. -/
theorem readDoubled?_quoteDoubled (text : List Char) :
    readDoubled? '\'' (quoteDoubled text ++ ['\'']) = some (text, []) := by
  induction text with
  | nil => rfl
  | cons c text ih =>
      have hcons : quoteDoubled (c :: text) =
          (if c = '\'' then ['\'', '\''] else [c]) ++ quoteDoubled text := List.flatMap_cons
      rw [hcons]
      by_cases hc : c = '\''
      · subst hc
        rw [if_pos rfl]
        show readDoubled? '\'' ('\'' :: '\'' :: (quoteDoubled text ++ ['\''])) = _
        simp [readDoubled?, ih]
      · rw [if_neg hc, List.append_assoc, List.singleton_append]
        -- what is behind an ordinary character is not empty, as the last mark is there
        cases htail : quoteDoubled text ++ ['\''] with
        | nil => simp at htail
        | cons d rest =>
            rw [htail] at ih
            simp [readDoubled?, hc, ih]

theorem Lexes.quoted (text : List Char) :
    Lexes ('\'' :: (quoteDoubled text ++ ['\''])) [.string .single (String.ofList text)] := by
  have hletter : isLiteralLetter '\'' = false := by decide
  have htoken : readToken? '\'' (quoteDoubled text ++ ['\'']) =
      some (some (.string .single (String.ofList text)), []) := by
    simp [readToken?, hletter, readDoubled?_quoteDoubled]
  exact Lexes.step htoken (Nat.zero_le _) Lexes.nil

/-! ### Numbers -/

theorem exponentPart_text {e : Option (Bool × List Char)}
    (he : ∀ x ∈ e, Number.AreDigits x.2) :
    exponentPart (Number.exponentText e) = Number.exponentText e := by
  cases e with
  | none => rfl
  | some e =>
      obtain ⟨negative, digits⟩ := e
      have hdigits : Number.AreDigits digits := he _ rfl
      have htake := Number.takeWhile_digits hdigits.isDigit Number.endsDigits_nil
      have hempty : digits.isEmpty = false := by simpa using hdigits.ne_nil
      rw [List.append_nil] at htake
      cases negative <;> simp [Number.exponentText, exponentPart, htake, hempty]

/-- A digit is none of the characters that the lexer looks for before numbers. -/
theorem readToken?_of_isDigit {c : Char} (hc : c.isDigit = true) (cs : List Char) :
    readToken? c cs = some (some (readNumber (c :: cs)).1, (readNumber (c :: cs)).2) := by
  have hascii : c.toNat < 128 := by
    have hbounds := Number.isDigit_iff.mp hc
    omega
  have hother := holds_of_ascii
    (p := fun c => !c.isDigit || (!(c == ' ' || c == '\t' || c == '\n' || c == '\r') &&
      !isLiteralLetter c && !(c == '\'') && !(c == '"' || c == Char.ofNat 96)))
    (by decide +kernel) hascii
  simp only [hc, Bool.not_true, Bool.false_or, Bool.and_eq_true, Bool.not_eq_true'] at hother
  obtain ⟨⟨⟨hblank, hletter⟩, hquote⟩, hword⟩ := hother
  simp only [readToken?, hblank, hletter, hquote, hword, hc, Bool.true_or, Bool.false_and,
    Bool.false_eq_true, if_false, if_true, Option.map_some]

section Numbers

variable {p : Number.Parts} (hp : p.WellFormed)

include hp

theorem readNumber_spelling :
    readNumber p.spelling = (.number (String.ofList p.spelling) false, []) := by
  obtain ⟨negative, whole, fraction, exponent⟩ := p
  have hends := Number.endsDigits_fractionText fraction exponent
  have htake := Number.takeWhile_digits hp.whole.isDigit hends
  have hdrop := Number.dropWhile_digits hp.whole.isDigit hends
  have hexponent := exponentPart_text hp.exponent
  dsimp only at htake hdrop hexponent
  have hmark : ∀ rest, whole ++ rest ≠ ['.'] := by
    intro rest hpoint
    cases whole with
    | nil => exact hp.whole.ne_nil rfl
    | cons c cs =>
        have hdigit := hp.whole.isDigit c List.mem_cons_self
        rw [(List.cons.inj hpoint).1] at hdigit
        exact absurd hdigit (by decide)
  have hwhole := hmark []
  rw [List.append_nil] at hwhole
  rw [readNumber, Number.Parts.spelling]
  dsimp only
  rw [htake, hdrop]
  split
  · next hhex =>
      -- neither a fraction nor an exponent starts with the letter of a hexadecimal number
      cases fraction <;> cases exponent <;> simp [Number.fractionText, Number.exponentText] at hhex
  · cases fraction with
    | none =>
        cases exponent with
        | none => simp [Number.fractionText, Number.exponentText, hwhole, exponentPart, readLong]
        | some e =>
            obtain ⟨rest, hrest⟩ : ∃ rest, Number.exponentText (some e) = 'e' :: rest := ⟨_, rfl⟩
            rw [hrest] at hexponent ⊢
            simp [Number.fractionText, hwhole, hexponent, readLong]
    | some digits =>
        have hdigits := (hp.fraction _ rfl).isDigit
        have hfraction := Number.takeWhile_digits hdigits (Number.endsDigits_exponentText exponent)
        have hrest := Number.dropWhile_digits hdigits (Number.endsDigits_exponentText exponent)
        simp [Number.fractionText, hfraction, hrest, hmark, hexponent, readLong]

theorem Lexes.number : Lexes p.spelling [.number (String.ofList p.spelling) false] := by
  have hread := readNumber_spelling hp
  cases htext : p.spelling with
  | nil => exact absurd (List.append_eq_nil_iff.mp htext).1 hp.whole.ne_nil
  | cons c cs =>
      have hdigit : c.isDigit = true := by
        cases hwhole : p.whole with
        | nil => exact absurd hwhole hp.whole.ne_nil
        | cons d rest =>
            rw [Number.Parts.spelling, hwhole, List.cons_append] at htext
            rw [← (List.cons.inj htext).1]
            exact hp.whole.isDigit d (by simp [hwhole])
      rw [htext] at hread
      have htoken := readToken?_of_isDigit hdigit cs
      rw [hread] at htoken
      exact Lexes.step htoken (Nat.zero_le _) Lexes.nil

end Numbers

/-! ### Scalars -/

/-- The scalars that one token spells, with their spellings: the numbers among them have no sign. -/
inductive Spelled : Value → List Char → Prop
  | null : Spelled .null "null".toList
  | bool (flag : Bool) : Spelled (.bool flag) (toString flag).toList
  | integer {n : Nat} (hn : n ≤ Number.maxSignificand) :
      Spelled (.number (.integer n)) (Number.integer n).text.toList
  | double {d : Decimal.Double} (hfits : d.Fits) (hsign : d.negative = false) :
      Spelled (.number (.double d)) (Number.double d).text.toList
  | string (text : String) : Spelled (.string text) ('\'' :: (quoteDoubled text.toList ++ ['\'']))

/-- The scalar that is read where another was spelled: only numbers are read from a text. -/
def readBack : Value → Value
  | .number n => .number ((Number.ofText? n.text).getD n)
  | value => value

/-- A literal stands for the scalar that is read back from it. -/
theorem Spelled.reads {v : Value} {cs : List Char} (h : Spelled v cs) :
    ∃ t e, Lexes cs [t] ∧ ReadsOperand t e ∧ e.operand? = .ok (.literal (readBack v)) := by
  have hword : ∀ {w : String} {l : Literal}, isPlainName w = true →
      (String.ofList (upper w.toList), l) ∈ literalWords →
      ∃ t e, Lexes w.toList [t] ∧ ReadsOperand t e ∧ e.operand? = l.operand? := by
    intro w l hplain hl
    have hlexes := Lexes.word (isField_of_isPlainName hplain) endsWord_nil Lexes.nil
    rw [List.append_nil] at hlexes
    exact ⟨_, _, hlexes, readsOperand_word hl _, rfl⟩
  -- each kind of literal is one token, and the token alone is an operand
  cases h with
  | null => exact hword (w := "null") (l := .null) (by decide) (by decide +kernel)
  | bool flag =>
      cases flag with
      | false => exact hword (w := "false") (l := .boolean false) (by decide) (by decide +kernel)
      | true => exact hword (w := "true") (l := .boolean true) (by decide) (by decide +kernel)
  | @integer n hn =>
      have hlexes := Lexes.number (Number.wellFormed_integerParts n)
      rw [Number.spelling_integerParts, String.ofList_toList] at hlexes
      refine ⟨_, _, hlexes, readsOperand_number _ _, ?_⟩
      simp [Expr.operand?, Literal.operand?, readBack, Number.ofText?_integer hn]
  | @double d hfits hsign =>
      have hlexes := Lexes.number (Number.wellFormed_doubleParts hfits)
      rw [Number.spelling_doubleParts hsign, String.ofList_toList] at hlexes
      obtain ⟨r, hr⟩ := Number.exists_ofText?_double hfits hsign
      refine ⟨_, _, hlexes, readsOperand_number _ _, ?_⟩
      simp [Expr.operand?, Literal.operand?, readBack, hr]
  | string text =>
      have hlexes := Lexes.quoted text.toList
      rw [String.ofList_toList] at hlexes
      exact ⟨_, _, hlexes, readsOperand_string text, rfl⟩

/-- Only doubles may be read back as something else. -/
theorem Spelled.readBack_eq {v : Value} {cs : List Char} (h : Spelled v cs)
    (hv : ∀ d, v ≠ .number (.double d)) : readBack v = v := by
  cases h with
  | integer hn => simp [readBack, Number.ofText?_integer hn]
  | double => exact absurd rfl (hv _)
  | _ => rfl

/-- A double is read back as a double. -/
theorem Spelled.readBack_double {d : Decimal.Double} {cs : List Char}
    (h : Spelled (.number (.double d)) cs) :
    ∃ r, Number.ofText? (Number.double d).text = some (.double r) ∧
      readBack (.number (.double d)) = .number (.double r) := by
  cases h with
  | double hfits hsign =>
      obtain ⟨r, hr⟩ := Number.exists_ofText?_double hfits hsign
      exact ⟨r, hr, by simp [readBack, hr]⟩

/-! ### Comparisons -/

/-- A selection under a comparison with a literal. -/
theorem ofText?_literal {chain : List String} {sign : String} {v : Value} {cs : List Char}
    (hne : chain ≠ []) (hnames : ∀ s ∈ chain, IsField s.toList) (hsign : sign ∈ compareSigns)
    (hv : Spelled v cs) :
    Filter.ofText? (comparisonText chain sign cs) =
      .ok [.compare chain (sign == "<>") (.literal (readBack v))] := by
  obtain ⟨t, e, hlexes, ht, he⟩ := hv.reads
  exact ofText?_comparison hne hnames hsign hlexes ht he

end DocAccess.Query
