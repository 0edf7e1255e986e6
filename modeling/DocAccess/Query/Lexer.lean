import DocAccess.Query.Token
import DocAccess.Text.Blank
import DocAccess.Text.Letter

/-!
# Cutting a query into tokens

Each reader takes the characters behind the one that selected it and returns a token with the rest
of the text, or `none` where a literal or a comment is not closed.
-/

namespace DocAccess.Query

open DocAccess.Text

/-! ### Character classes -/

/-- Whether a character may open a word. -/
def isWordStart (c : Char) : Bool := isAlphabetic c || c == '_' || c == '#' || c == '@'

/-- Whether a character may continue a word. -/
def isWordPart (c : Char) : Bool :=
  isAlphabetic c || c.isDigit || c == '@' || c == '$' || c == '#' || c == '_'

/-- The value of a digit in base sixteen. -/
def hexDigit? (c : Char) : Option Nat :=
  if c.isDigit then some (c.toNat - 48)
  else if 'a' ≤ c ∧ c ≤ 'f' then some (c.toNat - 87)
  else if 'A' ≤ c ∧ c ≤ 'F' then some (c.toNat - 55)
  else none

/-- The character of a code point, if it is one. -/
def charOfPoint? (n : Nat) : Option Char :=
  if n.isValidChar then some (Char.ofNat n) else none

/-- The number of a run of digits in base sixteen, if all of them are digits. -/
def hexNumber? (cs : List Char) : Option Nat :=
  cs.foldlM (fun n c => do return n * 16 + (← hexDigit? c)) 0

/-! ### Literals -/

/-- A text up to a quotation mark; a doubled mark stands for one. -/
def readDoubled? (quote : Char) : List Char → Option (List Char × List Char)
  | [] => none
  | [c] => if c == quote then some ([], []) else none
  | c :: d :: rest =>
      if c == quote then
        if d == quote then (readDoubled? quote rest).map fun (text, rest) => (c :: text, rest)
        else some ([], d :: rest)
      else (readDoubled? quote (d :: rest)).map fun (text, rest) => (c :: text, rest)

/-- The character that a backslash and a letter stand for in a national or hexadecimal string. -/
def backslashed (c : Char) : Char :=
  match c with
  | '0' => Char.ofNat 0
  | 'a' => Char.ofNat 7
  | 'b' => Char.ofNat 8
  | 'f' => Char.ofNat 12
  | 'n' => '\n'
  | 'r' => '\r'
  | 't' => '\t'
  | 'Z' => Char.ofNat 26
  | c => c

/-- A text up to a single quotation mark, with doubled marks and backslashes. -/
def readBackslashed? : List Char → Option (List Char × List Char)
  | [] => none
  | ['\''] => some ([], [])
  | ['\\'] => none
  | '\'' :: '\'' :: rest => (readBackslashed? rest).map fun (text, rest) => ('\'' :: text, rest)
  | '\'' :: d :: rest => some ([], d :: rest)
  | '\\' :: d :: rest => (readBackslashed? rest).map fun (text, rest) => (backslashed d :: text, rest)
  | c :: rest => (readBackslashed? rest).map fun (text, rest) => (c :: text, rest)

/-- A byte value below 128, which no zero may be. -/
def charOfByte? (n : Nat) : Option Char :=
  if n < UInt32.size ∧ 0 < n % 256 ∧ n % 256 < 128 then some (Char.ofNat (n % 256)) else none

/-- The number of hexadecimal digits behind an optional plus sign. -/
def signedHex? (cs : List Char) : Option Nat :=
  match cs with
  | ['+'] => none
  | '+' :: digits => hexNumber? digits
  | digits => hexNumber? digits

/-- The character of a code point other than zero, written with exactly `width` digits. -/
def readPoint? (width : Nat) (cs : List Char) : Option (Char × List Char) :=
  if cs.length < width then none
  else do
    let c ← charOfPoint? (← signedHex? (cs.take width))
    if c.toNat = 0 then none else return (c, cs.drop width)

/-- What stands behind the backslash of an escape string: the character and the rest. -/
def readEscape? : List Char → Option (Char × List Char)
  | [] => none
  | 'b' :: rest => some (Char.ofNat 8, rest)
  | 'f' :: rest => some (Char.ofNat 12, rest)
  | 'n' :: rest => some ('\n', rest)
  | 'r' :: rest => some ('\r', rest)
  | 't' :: rest => some ('\t', rest)
  | 'u' :: rest => readPoint? 4 rest
  | 'U' :: rest => readPoint? 8 rest
  | 'x' :: rest =>
      let digits := (rest.take 2).takeWhile fun c => (hexDigit? c).isSome
      if digits.isEmpty then some ('x', rest)
      else do return (← charOfByte? (← hexNumber? digits), rest.drop digits.length)
  | c :: rest =>
      if '0' ≤ c ∧ c ≤ '7' then
        let more := (rest.take 2).takeWhile fun c => '0' ≤ c ∧ c ≤ '7'
        let value := (c :: more).foldl (fun n c => n * 8 + (c.toNat - 48)) 0
        do return (← charOfByte? value, rest.drop more.length)
      else if c.toNat = 0 then none else some (c, rest)

/-- The text of an escape string up to its closing mark. -/
def readEscaped? : Nat → List Char → Option (List Char × List Char)
  | 0, _ => none
  | _ + 1, [] => none
  | fuel + 1, '\'' :: '\'' :: rest =>
      (readEscaped? fuel rest).map fun (text, rest) => ('\'' :: text, rest)
  | _ + 1, '\'' :: rest => some ([], rest)
  | fuel + 1, '\\' :: rest => do
      let (c, rest) ← readEscape? rest
      (readEscaped? fuel rest).map fun (text, rest) => (c :: text, rest)
  | fuel + 1, c :: rest => (readEscaped? fuel rest).map fun (text, rest) => (c :: text, rest)

/-- The character of exactly `width` hexadecimal digits. -/
def readCodePoint? (width : Nat) (cs : List Char) : Option (Char × List Char) :=
  if cs.length < width then none
  else do return (← charOfPoint? (← hexNumber? (cs.take width)), cs.drop width)

/-- The text of a string of code points up to its closing mark. -/
def readUnicode? : Nat → List Char → Option (List Char × List Char)
  | 0, _ => none
  | _ + 1, [] => none
  | fuel + 1, '\'' :: '\'' :: rest =>
      (readUnicode? fuel rest).map fun (text, rest) => ('\'' :: text, rest)
  | _ + 1, '\'' :: rest => some ([], rest)
  | fuel + 1, '\\' :: '\\' :: rest =>
      (readUnicode? fuel rest).map fun (text, rest) => ('\\' :: text, rest)
  | fuel + 1, '\\' :: '+' :: rest => do
      let (c, rest) ← readCodePoint? 6 rest
      (readUnicode? fuel rest).map fun (text, rest) => (c :: text, rest)
  | fuel + 1, '\\' :: rest => do
      let (c, rest) ← readCodePoint? 4 rest
      (readUnicode? fuel rest).map fun (text, rest) => (c :: text, rest)
  | fuel + 1, c :: rest => (readUnicode? fuel rest).map fun (text, rest) => (c :: text, rest)

/-- A text up to three quotation marks in a row; `run` counts the marks just passed. -/
def readTripled? (quote : Char) (run : Nat) (reading : List Char) :
    List Char → Option (List Char × List Char)
  | [] => none
  | c :: rest =>
      if c == quote then
        if run == 2 then some ((reading.drop 2).reverse, rest)
        else readTripled? quote (run + 1) (c :: reading) rest
      else readTripled? quote 0 (c :: reading) rest

/-- A raw string, in one or three quotation marks; the first mark has been read. -/
def readRaw? (quote : Char) (cs : List Char) : Option (Token × List Char) :=
  let one := String.ofList [quote]
  match cs with
  | c :: rest =>
      if c == quote then
        match rest with
        | d :: rest' =>
            if d == quote then
              (readTripled? quote 0 [] rest').map fun (text, rest) =>
                (.string (.lettered 'R' (one ++ one ++ one)) (String.ofList text), rest)
            else some (.string (.lettered 'R' one) "", rest)
        | [] => some (.string (.lettered 'R' one) "", [])
      else
        (readDoubled? quote cs).map fun (text, rest) =>
          (.string (.lettered 'R' one) (String.ofList text), rest)
  | [] => none

/-! ### Dollar texts -/

/-- Removes a tag and a dollar sign from the front; on a mismatch, the characters passed and the
rest.  `none` where the text ends inside the tag. -/
def matchTag? (passed : List Char) : List Char → List Char → Option (Sum (List Char) (List Char × List Char))
  | [], rest =>
      match rest with
      | '$' :: rest => some (.inl rest)
      | rest => some (.inr (passed.reverse, rest))
  | _ :: _, [] => none
  | t :: tag, c :: rest =>
      if c == t then matchTag? (c :: passed) tag rest
      else some (.inr ((c :: passed).reverse, rest))

/-- A text up to its closing dollar tag. -/
def readTagged? (tag : List Char) : Nat → List Char → Option (List Char × List Char)
  | 0, _ => none
  | fuel + 1, cs =>
      let front := cs.takeWhile (· ≠ '$')
      match cs.dropWhile (· ≠ '$') with
      | [] => none
      | _ :: rest => do
          match ← matchTag? ['$'] tag rest with
          | .inl rest => return (front, rest)
          | .inr (passed, rest) =>
              let (text, rest) ← readTagged? tag fuel rest
              return (front ++ passed ++ text, rest)

/-- A text up to two dollar signs in a row; `afterDollar` tells whether one was just passed. -/
def readUntagged? (afterDollar : Bool) : List Char → Option (List Char × List Char)
  | [] => none
  | c :: rest =>
      if afterDollar && c == '$' then some ([], rest)
      else
        let shown := if afterDollar then ['$', c] else if c == '$' then [] else [c]
        (readUntagged? (c == '$') rest).map fun (text, rest) => (shown ++ text, rest)

/-- What a dollar sign opens: a text between tags or a placeholder. -/
def readDollar? (cs : List Char) : Option (Token × List Char) :=
  match cs with
  | '$' :: rest =>
      (readUntagged? false rest).map fun (text, rest) =>
        (.string (.dollar "") (String.ofList text), rest)
  | cs =>
      let isTagPart (c : Char) : Bool := isAlphabetic c || isNumeric c || c == '_'
      let tag := cs.takeWhile isTagPart
      match cs.dropWhile isTagPart with
      | '$' :: rest =>
          (readTagged? tag (rest.length + 1) rest).map fun (text, rest) =>
            (.string (.dollar (String.ofList tag)) (String.ofList text), rest)
      | rest => some (.placeholder (String.ofList ('$' :: tag)), rest)

/-! ### Words and numbers -/

/-- The rest of a word that starts with the given characters. -/
def readWord (start cs : List Char) : Token × List Char :=
  let text := start ++ cs.takeWhile isWordPart
  let rest := cs.dropWhile isWordPart
  if text.all fun c => c.isDigit || c == '.' then
    let isNumberPart (c : Char) : Bool := c.isDigit || c == '.'
    (.number (String.ofList (text ++ rest.takeWhile isNumberPart)) false, rest.dropWhile isNumberPart)
  else (Token.ofWord text, rest)

/-- The exponent at the front of a text, empty where its digits are missing. -/
def exponentPart (cs : List Char) : List Char :=
  match cs with
  | e :: rest =>
      if e == 'e' || e == 'E' then
        let (sign, rest) := match rest with
          | '+' :: rest => (['+'], rest)
          | '-' :: rest => (['-'], rest)
          | rest => ([], rest)
        let digits := rest.takeWhile Char.isDigit
        if digits.isEmpty then [] else e :: (sign ++ digits)
      else []
  | [] => []

/-- The mark that tells a long number from the others. -/
def readLong : List Char → Bool × List Char
  | 'L' :: rest => (true, rest)
  | rest => (false, rest)

/-- A number, or a single point. -/
def readNumber (cs : List Char) : Token × List Char :=
  let whole := cs.takeWhile Char.isDigit
  let rest := cs.dropWhile Char.isDigit
  -- only a single zero opens a hexadecimal number
  match whole, rest with
  | ['0'], 'x' :: rest =>
      let isHex (c : Char) : Bool := (hexDigit? c).isSome
      (.string .hexadecimal (String.ofList (rest.takeWhile isHex)), rest.dropWhile isHex)
  | _, _ =>
      let (point, rest) := match rest with
        | '.' :: rest => (['.'], rest)
        | rest => ([], rest)
      let text := whole ++ point ++ rest.takeWhile Char.isDigit
      let rest := rest.dropWhile Char.isDigit
      if text == ['.'] then (.mark ".", rest)
      else
        let exponent := exponentPart rest
        let (long, rest) := readLong (rest.drop exponent.length)
        (.number (String.ofList (text ++ exponent)) long, rest)

/-! ### Marks -/

/-- The marks that are longer than one character, longest first. -/
def longMarks : List String :=
  ["!~~*", "#>>", "->>", "||/", "<=>", "!~*", "!~~", "~~*",
   "->", "|/", "||", "=>", "==", "!=", "!!", "!~", "<=", "<>", "<<", "<@", ">=", ">>", "::", ":=",
   "&&", "^@", "~*", "~~", "#-", "#>", "@>", "@?", "//"]

/-- The marks of one character. -/
def shortMarks : List Char :=
  ['(', ')', ',', '-', '/', '+', '*', '%', '|', '=', '!', '<', '>', ':', ';', '\\', '[', ']', '&', '^',
   Char.ofNat 123, Char.ofNat 125, '~']

/-- The rest of a text behind a mark. -/
def behind? (mark cs : List Char) : Option (List Char) :=
  match mark, cs with
  | [], cs => some cs
  | _ :: _, [] => none
  | m :: mark, c :: cs => if m == c then behind? mark cs else none

/-- The mark at the front of a text; both signs of inequality are one mark. -/
def readMark? (cs : List Char) : Option (Token × List Char) :=
  match longMarks.findSome? fun m => (behind? m.toList cs).map fun rest => (m, rest) with
  | some (m, rest) => some (.mark (if m == "!=" then "<>" else m), rest)
  | none =>
      match cs with
      | c :: rest => if shortMarks.contains c then some (.mark (String.ofList [c]), rest) else none
      | [] => none

/-- What a hash sign opens: a mark, or a word that takes in the next character. -/
def readHash (cs : List Char) : Token × List Char :=
  match cs with
  | [] => (.mark "#", [])
  | ' ' :: rest => (.mark "#", ' ' :: rest)
  | c :: rest => readWord ['#', c] rest

/-- What an at sign opens: a mark, or a word that takes in the next character. -/
def readAt (cs : List Char) : Token × List Char :=
  match cs with
  | [] => (.mark "@", [])
  | ' ' :: rest => (.mark "@", ' ' :: rest)
  | ['@'] => (.mark "@@", [])
  | '@' :: ' ' :: rest => (.mark "@@", ' ' :: rest)
  | '@' :: c :: rest => readWord ['@', '@', c] rest
  | c :: rest => readWord ['@', c] rest

/-! ### Comments -/

/-- Skips a comment up to the star and slash that close it; `depth` counts the open ones. -/
def skipComment? (depth : Nat) (previous : Char) : List Char → Option (List Char)
  | [] => none
  | c :: rest =>
      if previous == '/' && c == '*' then skipComment? (depth + 1) c rest
      else if previous == '*' && c == '/' then
        if depth ≤ 1 then some rest else skipComment? (depth - 1) c rest
      else skipComment? depth c rest

/-! ### The lexer -/

/-- A string literal in front of which a letter stands, or the word that the letter starts. -/
def readLettered? (letter : Char) (cs : List Char) : Option (Token × List Char) :=
  let literal (form : StringForm) (read : Option (List Char × List Char)) :=
    read.map fun (text, rest) => (Token.string form (String.ofList text), rest)
  match letter.toUpper, cs with
  | 'B', '\'' :: rest => literal (.lettered 'B' "'") (readDoubled? '\'' rest)
  | 'B', '"' :: rest => literal (.lettered 'B' "\"") (readDoubled? '"' rest)
  | 'R', '\'' :: rest => readRaw? '\'' rest
  | 'R', '"' :: rest => readRaw? '"' rest
  | 'N', '\'' :: rest => literal .national (readBackslashed? rest)
  | 'E', '\'' :: rest => literal .escaped (readEscaped? (rest.length + 1) rest)
  | 'U', '&' :: '\'' :: rest => literal .unicode (readUnicode? (rest.length + 1) rest)
  | 'X', '\'' :: rest => literal .hexadecimal (readBackslashed? rest)
  | _, cs => some (readWord [letter] cs)

/-- Whether a letter may stand in front of a string literal. -/
def isLiteralLetter (c : Char) : Bool := ['B', 'R', 'N', 'E', 'U', 'X'].contains c.toUpper

/-- What is read at the front of a text: a token, or nothing for a blank or a comment. -/
def readToken? (c : Char) (rest : List Char) : Option (Option Token × List Char) :=
  let token (read : Option (Token × List Char)) := read.map fun (t, rest) => (some t, rest)
  if c == ' ' || c == '\t' || c == '\n' || c == '\r' then some (none, rest)
  -- a letter may open a literal, which comes before the word that it starts
  else if isLiteralLetter c && c.toNat < 128 then token (readLettered? c rest)
  else if c == '\'' then
    token ((readDoubled? '\'' rest).map fun (text, rest) =>
      (.string .single (String.ofList text), rest))
  else if c == '"' || c == '`' then
    token ((readDoubled? c rest).map fun (text, rest) => (Token.ofQuoted c text, rest))
  else if c.isDigit || c == '.' then token (some (readNumber (c :: rest)))
  else if c == '-' && rest.head? == some '-' then some (none, rest.dropWhile (· ≠ '\n'))
  else if c == '/' && rest.head? == some '*' then
    (skipComment? 1 ' ' (rest.drop 1)).map fun rest => (none, rest)
  else
    match readMark? (c :: rest) with
    | some (t, rest) => some (some t, rest)
    | none =>
        if c == '#' then token (some (readHash rest))
        else if c == '@' then token (some (readAt rest))
        else if c == '?' then
          token (some (.placeholder (String.ofList ('?' :: rest.takeWhile isNumeric)),
            rest.dropWhile isNumeric))
        else if isWordStart c then token (some (readWord [c] rest))
        else if c == '$' then token (readDollar? rest)
        else if isBlank c then some (none, rest)
        else some (some (.stray c), rest)

/-- The tokens of a text. -/
def tokensFrom? : Nat → List Char → Option (List Token)
  | _, [] => some []
  | 0, _ :: _ => none
  | fuel + 1, c :: rest => do
      let (token, rest) ← readToken? c rest
      let tokens ← tokensFrom? fuel rest
      return match token with
        | some token => token :: tokens
        | none => tokens

/-- The tokens of a query text, or `none` where a literal or comment is not closed. -/
def tokens? (text : String) : Option (List Token) :=
  let cs := text.toList
  tokensFrom? cs.length cs

end DocAccess.Query
