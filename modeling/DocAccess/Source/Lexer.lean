import DocAccess.Source.Token
import DocAccess.Text.Blank
import DocAccess.Text.Letter

/-!
# From source text to token trees

Blanks and comments are skipped; a documentation comment becomes an attribute.  A character that
starts no token, a literal that does not end, and brackets that do not match are errors.
-/

namespace DocAccess.Source

open DocAccess.Text

/-- The rest of a text behind what it begins with. -/
def behind? (start : String) (cs : List Char) : Option (List Char) :=
  let start := start.toList
  if start.isPrefixOf cs then some (cs.drop start.length) else none

/-- Whether a text begins with another. -/
def begins (start : String) (cs : List Char) : Bool := (behind? start cs).isSome

/-! ### Blanks and comments -/

/-- Whether a character is blank in source text: white space, or a mark of writing direction. -/
def isGap (c : Char) : Bool := isBlank c || c.toNat == 0x200E || c.toNat == 0x200F

/-- A line up to its end, and the text from its end on; a return before the end is dropped. -/
def lineOf : List Char → List Char × List Char
  | [] => ([], [])
  | '\n' :: rest => ([], '\n' :: rest)
  | '\r' :: '\n' :: rest => ([], '\n' :: rest)
  | c :: rest =>
      let (line, rest) := lineOf rest
      (c :: line, rest)

/-- The text behind a block comment whose nested comments are open to a depth. -/
def behindBlock? : Nat → List Char → Option (List Char)
  | depth, '/' :: '*' :: rest => behindBlock? (depth + 1) rest
  | 0, '*' :: '/' :: _ => none
  | 1, '*' :: '/' :: rest => some rest
  | depth + 2, '*' :: '/' :: rest => behindBlock? (depth + 1) rest
  | depth, _ :: rest => behindBlock? depth rest
  | _, [] => none

/-- The text behind a plain comment, if one starts here. -/
def behindComment? (cs : List Char) : Option (List Char) :=
  if begins "//" cs && (!begins "///" cs || begins "////" cs) && !begins "//!" cs then
    some (lineOf cs).2
  else if begins "/**/" cs then some (cs.drop 4)
  else if begins "/*" cs && (!begins "/**" cs || begins "/***" cs) && !begins "/*!" cs then
    behindBlock? 0 cs
  else none

/-- The text behind blanks and plain comments, given a bound on their number. -/
def skipGapsFrom : Nat → List Char → List Char
  | 0, cs => cs
  | fuel + 1, cs =>
      match behindComment? cs with
      | some rest => skipGapsFrom fuel rest
      | none =>
          match cs with
          | c :: rest => if isGap c then skipGapsFrom fuel rest else c :: rest
          | [] => []

/-- Whether a return is followed by something else than the end of a line. -/
def hasBareReturn : List Char → Bool
  | '\r' :: '\n' :: rest => hasBareReturn rest
  | '\r' :: _ => true
  | _ :: rest => hasBareReturn rest
  | [] => false

/-- The attribute that a documentation comment stands for. -/
def documentation (inner : Bool) : List Tree :=
  let content : List Tree :=
    [.word "doc" false, .mark '=' false, .literal (.string "")]
  if inner then [.mark '#' false, .mark '!' false, .group .bracket content]
  else [.mark '#' false, .group .bracket content]

/-- A documentation comment, if one starts here. -/
def documentation? (cs : List Char) : Option (List Tree × List Char) := do
  let block (inner : Bool) : Option (List Tree × List Char) := do
    let rest ← behindBlock? 0 cs
    if hasBareReturn (cs.take (cs.length - rest.length)) then none
    else return (documentation inner, rest)
  let line (inner : Bool) : Option (List Tree × List Char) :=
    let (text, rest) := lineOf cs
    if hasBareReturn text then none else some (documentation inner, rest)
  if begins "//!" cs then line true
  else if begins "/*!" cs then block true
  else if begins "///" cs then if begins "////" cs then none else line false
  else if begins "/**" cs && !begins "/***" cs then block false
  else none

/-! ### Words -/

/-- Whether a character may open a word. -/
def opensWord (c : Char) : Bool := c == '_' || isIdentifierStart c

/-- A word at the front of a text. -/
def word? : List Char → Option (List Char × List Char)
  | c :: rest =>
      if opensWord c then
        some (c :: rest.takeWhile isIdentifierPart, rest.dropWhile isIdentifierPart)
      else none
  | [] => none

/-- A word, perhaps raw. -/
def wordTree? (cs : List Char) : Option (Tree × List Char) :=
  match behind? "r#" cs with
  | some rest => do
      let (name, rest) ← word? rest
      let name := String.ofList name
      if neverRaw.contains name then none else return (.word name true, rest)
  | none => do
      let (name, rest) ← word? cs
      return (.word (String.ofList name) false, rest)

/-- The openings of literals, which no word has. -/
def literalOpenings : List String :=
  ["r\"", "r#\"", "r##", "b\"", "b'", "br\"", "br#", "c\"", "cr\"", "cr#"]

/-- The text behind the suffix of a literal. -/
def skipSuffix (cs : List Char) : List Char :=
  match word? cs with
  | some (_, rest) => rest
  | none => cs

/-! ### Escapes -/

/-- What the strings of a form may hold. -/
structure StringForm where
  /-- Whether every character is a byte. -/
  bytes : Bool
  /-- Whether escapes by code point are allowed. -/
  unicode : Bool
  /-- Whether the zero character is allowed. -/
  zero : Bool

/-- Strings of characters. -/
def StringForm.text : StringForm := ⟨false, true, true⟩
/-- Strings of bytes. -/
def StringForm.byte : StringForm := ⟨true, false, true⟩
/-- Strings that a zero ends. -/
def StringForm.zeroEnded : StringForm := ⟨false, true, false⟩

/-- The value of a hexadecimal digit. -/
def hexDigit? (c : Char) : Option Nat :=
  if '0' ≤ c ∧ c ≤ '9' then some (c.toNat - '0'.toNat)
  else if 'a' ≤ c ∧ c ≤ 'f' then some (c.toNat - 'a'.toNat + 10)
  else if 'A' ≤ c ∧ c ≤ 'F' then some (c.toNat - 'A'.toNat + 10)
  else none

/-- Reads a code point up to its closing brace: one to six digits, underscores between them. -/
def codePoint? (value digits : Nat) : List Char → Option (Char × List Char)
  | [] => none
  | c :: rest =>
      match hexDigit? c with
      | some d => if digits == 6 then none else codePoint? (value * 16 + d) (digits + 1) rest
      | none =>
          if digits == 0 then none
          else if c == '_' then codePoint? value digits rest
          else if c == '\x7d' then
            if value.isValidChar then some (Char.ofNat value, rest) else none
          else none

/-- The character behind a backslash that stands for one character. -/
def simpleEscape? (form : StringForm) (c : Char) : Option Char :=
  match c with
  | 'n' => some '\n'
  | 'r' => some '\r'
  | 't' => some '\t'
  | '\\' => some '\\'
  | '\'' => some '\''
  | '"' => some '"'
  | '0' => if form.zero then some (Char.ofNat 0) else none
  | _ => none

/-- Reads the escape behind a backslash. -/
def escape? (form : StringForm) : List Char → Option (Char × List Char)
  | 'x' :: high :: low :: rest => do
      let value := (← hexDigit? high) * 16 + (← hexDigit? low)
      if form.zero && !form.bytes && value ≥ 128 then none
      else if !form.zero && value == 0 then none
      else return (Char.ofNat value, rest)
  | 'u' :: '{' :: rest => do
      if !form.unicode then none
      else
        let (c, rest) ← codePoint? 0 0 rest
        if !form.zero && c.toNat == 0 then none else return (c, rest)
  | c :: rest => do return (← simpleEscape? form c, rest)
  | [] => none

/-- The text behind the blanks at the start of a continued line; a return must be followed by the
end of a line, and the text may not end. -/
def behindContinuation? : List Char → Option (List Char)
  | '\r' :: '\n' :: rest => behindContinuation? rest
  | '\r' :: _ => none
  | c :: rest =>
      if c == ' ' || c == '\t' || c == '\n' then behindContinuation? rest else some (c :: rest)
  | [] => none

/-! ### Strings and characters -/

/-- Reads a string up to its closing quote; `reading` holds its characters, last first. -/
def cooked? (form : StringForm) : Nat → List Char → List Char → Option (List Char × List Char)
  | 0, _, _ => none
  | fuel + 1, reading, cs =>
      match cs with
      | '"' :: rest => some (reading.reverse, rest)
      | '\r' :: '\n' :: rest => cooked? form fuel ('\n' :: reading) rest
      | '\r' :: _ => none
      | '\\' :: '\n' :: rest => do cooked? form fuel reading (← behindContinuation? rest)
      | '\\' :: '\r' :: rest => do cooked? form fuel reading (← behindContinuation? ('\r' :: rest))
      | '\\' :: rest => do
          let (c, rest) ← escape? form rest
          cooked? form fuel (c :: reading) rest
      | c :: rest =>
          if form.bytes && c.toNat ≥ 128 then none
          else if !form.zero && c.toNat == 0 then none
          else cooked? form fuel (c :: reading) rest
      | [] => none

/-- The number of hash marks before an opening quote and the text behind it. -/
def rawOpening? : Nat → List Char → Option (Nat × List Char)
  | marks, '"' :: rest => if marks > 255 then none else some (marks, rest)
  | marks, '#' :: rest => rawOpening? (marks + 1) rest
  | _, _ => none

/-- Reads a string without escapes up to a quote and hash marks. -/
def rawBody? (form : StringForm) (marks : List Char) : List Char → Option (List Char × List Char)
  | '\r' :: '\n' :: rest => do
      let (text, rest) ← rawBody? form marks rest
      return ('\r' :: '\n' :: text, rest)
  | '\r' :: _ => none
  | c :: rest =>
      if c == '"' && marks.isPrefixOf rest then some ([], rest.drop marks.length)
      else if form.bytes && c.toNat ≥ 128 then none
      else if !form.zero && c.toNat == 0 then none
      else do
        let (text, rest) ← rawBody? form marks rest
        return (c :: text, rest)
  | [] => none

/-- A string of a form whose letters, if it has any, were taken. -/
def string? (form : StringForm) (cs : List Char) (raw : Bool) : Option (List Char × List Char) := do
  let (text, rest) ←
    if raw then do
      let (marks, rest) ← rawOpening? 0 cs
      rawBody? form (List.replicate marks '#') rest
    else
      match cs with
      | '"' :: rest => cooked? form (rest.length + 1) [] rest
      | _ => none
  return (text, skipSuffix rest)

/-- The text behind a character in single quotes, from behind the opening one. -/
def behindCharacter? (form : StringForm) (cs : List Char) : Option (List Char) := do
  let rest ← match cs with
    | '\\' :: rest => do
        let (_, rest) ← escape? form rest
        pure rest
    | c :: rest => if form.bytes && c.toNat ≥ 128 then none else pure rest
    | [] => none
  match rest with
  | '\'' :: rest => return skipSuffix rest
  | _ => none

/-! ### Numbers -/

/-- The text behind a number, unless a word goes on there. -/
def endOfNumber? (cs : List Char) : Option (List Char) :=
  let rest := skipSuffix cs
  if (rest.head?.map isIdentifierPart).getD false then none else some rest

/-- Whether a character is a decimal digit or an underscore. -/
def isDigitOrGap (c : Char) : Bool := c.isDigit || c == '_'

/-- The text behind an exponent, from behind its letter: signs before the first digit, one at most,
and at least one digit. -/
def behindExponent? (signed valued : Bool) : List Char → Option (List Char)
  | c :: rest =>
      if c == '+' || c == '-' then
        if valued then some (c :: rest)
        else if signed then none
        else behindExponent? true valued rest
      else if c.isDigit then behindExponent? signed true rest
      else if c == '_' then behindExponent? signed valued rest
      else if valued then some (c :: rest)
      else none
  | [] => if valued then some [] else none

/-- The text behind the digits of a number with a point or an exponent. -/
def behindFloat? (cs : List Char) : Option (List Char) :=
  if !(cs.head?.map Char.isDigit).getD false then none
  else
    match cs.dropWhile isDigitOrGap with
    | '.' :: rest =>
        if (rest.head?.map fun c => c == '.' || opensWord c).getD false then none
        else
          match rest.dropWhile isDigitOrGap with
          | c :: after =>
              if c == 'e' || c == 'E' then
                some ((behindExponent? false false after).getD (c :: after))
              else some (c :: after)
          | [] => some []
    | c :: rest => if c == 'e' || c == 'E' then behindExponent? false false rest else none
    | [] => none

/-- The text behind digits of a base, at least one; underscores may stand between them. -/
def behindDigits? (base : Nat) (empty : Bool) : List Char → Option (List Char)
  | [] => if empty then none else some []
  | c :: rest =>
      let stop : Option (List Char) := if empty then none else some (c :: rest)
      if c == '_' then if empty && base == 10 then none else behindDigits? base empty rest
      else
        match hexDigit? c with
        | some d =>
            if d < base then behindDigits? base false rest
            else if c.isDigit then none
            else stop
        | none => stop

/-- The text behind the digits of a whole number. -/
def behindInteger? (cs : List Char) : Option (List Char) :=
  match cs with
  | '0' :: 'x' :: rest => behindDigits? 16 true rest
  | '0' :: 'o' :: rest => behindDigits? 8 true rest
  | '0' :: 'b' :: rest => behindDigits? 2 true rest
  | cs => behindDigits? 10 true cs

/-- A number. -/
def number? (cs : List Char) : Option (Literal × List Char) := do
  let rest ← (do endOfNumber? (← behindFloat? cs)) <|> (do endOfNumber? (← behindInteger? cs))
  return (.number (String.ofList (cs.take (cs.length - rest.length))), rest)

/-! ### Tokens -/

/-- A string of characters. -/
def textLiteral? (cs : List Char) : Option (Literal × List Char) := do
  let (text, rest) ← match behind? "r" cs with
    | some rest => string? .text rest true
    | none => string? .text cs false
  return (.string (String.ofList text), rest)

/-- A string of another form, given its letter. -/
def formLiteral? (form : StringForm) (letter : String) (cs : List Char) :
    Option (Literal × List Char) := do
  let rest ← behind? letter cs
  let (_, rest) ← match behind? "r" rest with
    | some rest => string? form rest true
    | none => string? form rest false
  return (.other, rest)

/-- A character or byte. -/
def character? (form : StringForm) (opening : String) (cs : List Char) :
    Option (Literal × List Char) := do
  return (.other, ← behindCharacter? form (← behind? opening cs))

/-- A literal. -/
def literal? (cs : List Char) : Option (Literal × List Char) :=
  textLiteral? cs <|> formLiteral? .byte "b" cs <|> formLiteral? .zeroEnded "c" cs
    <|> character? .byte "b'" cs <|> character? .text "'" cs <|> number? cs

/-- The characters that are marks. -/
def marks : List Char := "~!@#$%^&*-=+|;:,<.>/?'".toList

/-- Whether a mark starts here; a comment is none. -/
def startsMark (cs : List Char) : Bool :=
  match cs with
  | c :: _ => marks.contains c && !begins "//" cs && !begins "/*" cs
  | [] => false

/-- A lifetime, from behind its quote. -/
def lifetime? (cs : List Char) : Option (Tree × List Char) := do
  match ← wordTree? cs with
  | (.word name _, rest) =>
      match rest with
      | '\'' :: _ => none
      | '#' :: _ => if begins "r#" cs then return (.lifetime name, rest) else none
      | _ => return (.lifetime name, rest)
  | _ => none

/-- The stand-in for an erroneous literal, which is a literal itself. -/
def erroneous : String := "(/*ERROR*/)"

/-- A token that is no bracket. -/
def leaf? (cs : List Char) : Option (Tree × List Char) :=
  match literal? cs with
  | some (value, rest) => some (.literal value, rest)
  | none =>
      match cs with
      | '\'' :: rest => lifetime? rest
      | c :: rest =>
          if startsMark cs then some (.mark c (startsMark rest), rest)
          else if literalOpenings.any (begins · cs) then none
          else wordTree? cs <|> (behind? erroneous cs).map (.literal .other, ·)
      | [] => none

/-- The pair that a character opens. -/
def opening? (cs : List Char) : Option Delimiter :=
  match cs with
  | '(' :: _ => if begins erroneous cs then none else some .paren
  | '[' :: _ => some .bracket
  | '{' :: _ => some .brace
  | _ => none

/-- The pair that a character closes. -/
def closing? : List Char → Option Delimiter
  | ')' :: _ => some .paren
  | ']' :: _ => some .bracket
  | '}' :: _ => some .brace
  | _ => none

/-- Reads trees inside the open brackets `open`, each with the trees before it, last first; `trees`
holds those of the innermost one. -/
def treesFrom? : Nat → List (Delimiter × List Tree) → List Tree → List Char → Option (List Tree)
  | 0, _, _, _ => none
  | fuel + 1, opened, trees, cs =>
      let cs := skipGapsFrom (fuel + 1) cs
      match documentation? cs with
      | some (doc, rest) => treesFrom? fuel opened (doc.reverse ++ trees) rest
      | none =>
          if cs.isEmpty then if opened.isEmpty then some trees.reverse else none
          else
            match opening? cs, closing? cs with
            | some d, _ => treesFrom? fuel ((d, trees) :: opened) [] (cs.drop 1)
            | none, some d =>
                match opened with
                | (d', before) :: opened =>
                    if d = d' then
                      treesFrom? fuel opened (.group d trees.reverse :: before) (cs.drop 1)
                    else none
                | [] => none
            | none, none =>
                match leaf? cs with
                | some (tree, rest) => treesFrom? fuel opened (tree :: trees) rest
                | none => none

/-- The text behind a byte order mark. -/
def skipOrderMark : List Char → List Char
  | c :: rest => if c.toNat == 0xFEFF then rest else c :: rest
  | [] => []

/-- The trees of a text. -/
def trees? (text : String) : Option (List Tree) :=
  let cs := skipOrderMark text.toList
  treesFrom? (cs.length + 1) [] [] cs

end DocAccess.Source
