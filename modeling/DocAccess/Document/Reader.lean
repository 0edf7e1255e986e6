import DocAccess.Document.Value

/-!
# Reading a document from its text

A recursive reader over characters.  Every step takes at least one character, so the length of the
text bounds the depth of the recursion.
-/

namespace DocAccess.Document

/-- Whether a character may stand between the parts of a document. -/
def isSpace (c : Char) : Bool := c == ' ' || c == '\n' || c == '\r' || c == '\t'

/-- The value of a hexadecimal digit. -/
def hexValue? (c : Char) : Option Nat :=
  if '0' ≤ c ∧ c ≤ '9' then some (c.toNat - '0'.toNat)
  else if 'a' ≤ c ∧ c ≤ 'f' then some (c.toNat - 'a'.toNat + 10)
  else if 'A' ≤ c ∧ c ≤ 'F' then some (c.toNat - 'A'.toNat + 10)
  else none

/-- Reads four hexadecimal digits. -/
def readUnit? : List Char → Option (Nat × List Char)
  | a :: b :: c :: d :: rest => do
      let n := (((← hexValue? a) * 16 + (← hexValue? b)) * 16 + (← hexValue? c)) * 16 + (← hexValue? d)
      return (n, rest)
  | _ => none

/-- The character behind a backslash other than `u`. -/
def shortEscape? (c : Char) : Option Char :=
  match c with
  | '"' => some '"'
  | '\\' => some '\\'
  | '/' => some '/'
  | 'b' => some (Char.ofNat 8)
  | 'f' => some (Char.ofNat 12)
  | 'n' => some '\n'
  | 'r' => some '\r'
  | 't' => some '\t'
  | _ => none

/-- Reads the characters of a string up to its closing quote; `reading` holds the ones read, last
first. -/
def readString? : Nat → List Char → List Char → Option (List Char × List Char)
  | 0, _, _ => none
  | _ + 1, reading, '"' :: rest => some (reading.reverse, rest)
  | fuel + 1, reading, '\\' :: 'u' :: rest => do
      let (high, rest) ← readUnit? rest
      if 0xD800 ≤ high ∧ high < 0xDC00 then
        match rest with
        | '\\' :: 'u' :: rest => do
            let (low, rest) ← readUnit? rest
            if 0xDC00 ≤ low ∧ low < 0xE000 then
              let point := 0x10000 + (high - 0xD800) * 0x400 + (low - 0xDC00)
              readString? fuel (Char.ofNat point :: reading) rest
            else none
        | _ => none
      else if 0xDC00 ≤ high ∧ high < 0xE000 then none
      else readString? fuel (Char.ofNat high :: reading) rest
  | fuel + 1, reading, '\\' :: c :: rest => do
      readString? fuel ((← shortEscape? c) :: reading) rest
  | fuel + 1, reading, c :: rest =>
      if c.toNat < 32 then none else readString? fuel (c :: reading) rest
  | _ + 1, _, [] => none

/-- Removes an expected text from the front. -/
def expect? : List Char → List Char → Option (List Char)
  | [], rest => some rest
  | c :: cs, d :: rest => if c == d then expect? cs rest else none
  | _ :: _, [] => none

mutual

/-- Reads one document. -/
def readValue? : Nat → List Char → Option (Value × List Char)
  | 0, _ => none
  | fuel + 1, cs =>
      match cs.dropWhile isSpace with
      | '"' :: rest => do
          let (text, rest) ← readString? (rest.length + 1) [] rest
          return (.string (String.ofList text), rest)
      | '[' :: rest =>
          match rest.dropWhile isSpace with
          | ']' :: rest => some (.array [], rest)
          | rest => do
              let (items, rest) ← readItems? fuel rest
              return (.array items, rest)
      | '{' :: rest =>
          match rest.dropWhile isSpace with
          | '}' :: rest => some (.object [], rest)
          | rest => do
              let (fields, rest) ← readFields? fuel [] rest
              return (.object fields, rest)
      | 't' :: rest => (expect? "rue".toList rest).map (.bool true, ·)
      | 'f' :: rest => (expect? "alse".toList rest).map (.bool false, ·)
      | 'n' :: rest => (expect? "ull".toList rest).map (.null, ·)
      | cs => (Number.read? cs).map fun (n, rest) => (.number n, rest)

/-- Reads the items of an array up to its closing bracket. -/
def readItems? : Nat → List Char → Option (List Value × List Char)
  | 0, _ => none
  | fuel + 1, cs => do
      let (item, cs) ← readValue? fuel cs
      match cs.dropWhile isSpace with
      | ',' :: rest => do
          let (items, rest) ← readItems? fuel rest
          return (item :: items, rest)
      | ']' :: rest => some ([item], rest)
      | _ => none

/-- Reads the fields of an object up to its closing brace, adding them to those read before. -/
def readFields? : Nat → Fields → List Char → Option (Fields × List Char)
  | 0, _, _ => none
  | fuel + 1, fields, cs =>
      match cs.dropWhile isSpace with
      | '"' :: rest => do
          let (name, rest) ← readString? (rest.length + 1) [] rest
          match rest.dropWhile isSpace with
          | ':' :: rest => do
              let (value, rest) ← readValue? fuel rest
              let fields := Fields.insert (String.ofList name) value fields
              match rest.dropWhile isSpace with
              | ',' :: rest => readFields? fuel fields rest
              | '}' :: rest => some (fields, rest)
              | _ => none
          | _ => none
      | _ => none

end

/-- The document that a whole text denotes. -/
def Value.ofText? (text : String) : Option Value :=
  let cs := text.toList
  match readValue? (cs.length + 1) cs with
  | some (value, rest) => if rest.all isSpace then some value else none
  | none => none

end DocAccess.Document
