import DocAccess.Query.Reading

/-!
# Types named in a query

Types occur in casts and in front of typed strings.  They are kept by their displays, with the two
distinctions that typed strings make: an interval and a name of no known type.
-/

namespace DocAccess.Query.Reading

/-- A type, by its display. -/
inductive DataType where
  | known (display : String)
  | interval
  | named (display : String)

/-- The display of a type. -/
def DataType.display : DataType → String
  | known display => display
  | interval => "INTERVAL"
  | named display => display

/-- Types that nothing follows, with their displays. -/
def simpleTypes : List (String × String) :=
  [("BOOLEAN", "BOOLEAN"), ("BOOL", "BOOL"), ("REAL", "REAL"), ("FLOAT4", "FLOAT4"),
   ("FLOAT32", "Float32"), ("FLOAT64", "FLOAT64"), ("FLOAT8", "FLOAT8"), ("INT16", "Int16"),
   ("INT32", "Int32"), ("INT64", "INT64"), ("INT128", "Int128"), ("INT256", "Int256"),
   ("UINT8", "UInt8"), ("UINT16", "UInt16"), ("UINT32", "UInt32"), ("UINT64", "UInt64"),
   ("UINT128", "UInt128"), ("UINT256", "UInt256"), ("UUID", "UUID"), ("DATE", "DATE"),
   ("DATE32", "Date32"), ("JSON", "JSON"), ("JSONB", "JSONB"), ("REGCLASS", "REGCLASS"),
   ("TEXT", "TEXT"), ("BYTEA", "BYTEA"), ("TRIGGER", "TRIGGER")]

/-- Types that a length in parentheses may follow. -/
def sizedTypes : List String :=
  ["FLOAT", "CLOB", "BINARY", "VARBINARY", "BLOB", "BYTES", "DATETIME", "STRING"]

/-- Integer types, which a width and `UNSIGNED` may follow. -/
def integerTypes : List String :=
  ["TINYINT", "INT2", "SMALLINT", "MEDIUMINT", "INT", "INT4", "INT8", "INTEGER", "BIGINT"]

/-- Types of exact numbers. -/
def exactTypes : List String := ["NUMERIC", "DECIMAL", "DEC", "BIGNUMERIC", "BIGDECIMAL"]

/-- A number in parentheses, if a parenthesis is next, by its display. -/
def precision? : Reading (Option String) := do
  if ← mark? "(" then
    let n ← count
    expectMark ")"
    return some n
  else return none

/-- The display of an optional number in parentheses. -/
def precisionText : Reading String := do
  return ((← precision?).map fun n => "(" ++ n ++ ")").getD ""

/-- The length of a character type. -/
def lengthText : Reading String := do
  if ← mark? "(" then
    if ← keyword? "MAX" then
      expectMark ")"
      return "(MAX)"
    else
      let n ← count
      let unit := ((← oneOf? ["CHARACTERS", "OCTETS"]).map (" " ++ ·)).getD ""
      expectMark ")"
      return "(" ++ n ++ unit ++ ")"
  else return ""

/-- The precision and scale of an exact number. -/
def exactText : Reading String := do
  if ← mark? "(" then
    let p ← count
    let scale ← if ← mark? "," then
      let s ← count
      pure ("," ++ s)
    else pure ""
    expectMark ")"
    return "(" ++ p ++ scale ++ ")"
  else return ""

/-- The time zone of a time type. -/
def zoneText : Reading String := do
  if ← keyword? "WITH" then
    expectKeywords ["TIME", "ZONE"]
    return " WITH TIME ZONE"
  else if ← keyword? "WITHOUT" then
    expectKeywords ["TIME", "ZONE"]
    return " WITHOUT TIME ZONE"
  else return ""

/-- The rest of a character type. -/
def characterText (start : String) : Reading String := do
  if ← keyword? "VARYING" then return start ++ " VARYING" ++ (← lengthText)
  else if ← keywords? ["LARGE", "OBJECT"] then return start ++ " LARGE OBJECT" ++ (← precisionText)
  else return start ++ (← lengthText)

/-- Values of an enumerated type. -/
def stringValues : Reading String := do
  let values ← inParens (commaList do
    match ← next with
    | .string .single text => return quotedWith '\'' text
    | _ => failure)
  return "(" ++ commaJoined values ++ ")"

/-- A word or literal that modifies a named type. -/
def modifier : Reading (Option String) := do
  match ← next with
  | .word i _ => return some i.display
  | .number text _ => return some text
  | .string .single text => return some text
  | .mark "," => return none
  | _ => failure

/-- Whether a closing parenthesis is not next. -/
def modifier? : Reading (Option (Option String)) := do
  if ← mark? ")" then return none else return some (← modifier)

/-- The modifiers of a named type. -/
def modifiersText : Reading String := do
  if ← mark? "(" then
    let items ← whileSome modifier? ((← remaining) + 1)
    let items := items.filterMap id
    return if items.isEmpty then "" else "(" ++ commaJoined items ++ ")"
  else return ""

/-- The array suffixes of a type, given a bound on their number. -/
def arraySuffix (start : String) : Nat → Reading String
  | 0 => return start
  | fuel + 1 => do
      if ← mark? "[" then
        let size := (← attempt count).getD ""
        expectMark "]"
        arraySuffix (start ++ "[" ++ size ++ "]") fuel
      else return start

/-- Closes an angle bracket; a double bracket closes two, the second of which is still owed. -/
def closeAngle (owed : Bool) : Reading Bool := do
  if owed then return false
  else if ← mark? ">" then return false
  else if ← mark? ">>" then return true
  else failure

mutual

/-- A type, and whether a closing angle bracket is already passed; the bound is on the nesting. -/
def dataTypeFrom : Nat → Reading (DataType × Bool)
  | 0 => failure
  | fuel + 1 => do
      let k ← peekKeyword 0
      let size := (← remaining) + 1
      let known (p : Reading String) : Reading (DataType × Bool) := do
        return (.known (← arraySuffix (← p) size), false)
      if let some (_, display) := simpleTypes.find? (·.1 == k) then
        let _ ← next
        known (return display)
      else if sizedTypes.contains k then
        let _ ← next
        known do return k ++ (← precisionText)
      else if integerTypes.contains k then
        let _ ← next
        known do
          let width ← precisionText
          return k ++ width ++ (if ← keyword? "UNSIGNED" then " UNSIGNED" else "")
      else if exactTypes.contains k then
        let _ ← next
        known do return k ++ (← exactText)
      else if k == "DOUBLE" then
        let _ ← next
        known do return if ← keyword? "PRECISION" then "DOUBLE PRECISION" else "DOUBLE"
      else if k == "VARCHAR" || k == "NVARCHAR" then
        let _ ← next
        known do return k ++ (← lengthText)
      else if k == "CHAR" || k == "CHARACTER" then
        let _ ← next
        known (characterText k)
      else if k == "TIMESTAMP" || k == "TIME" then
        let _ ← next
        known do
          let p ← precisionText
          return k ++ p ++ (← zoneText)
      else if k == "TIMESTAMPTZ" || k == "TIMETZ" then
        let _ ← next
        known do return k ++ (← precisionText)
      else if k == "DATETIME64" then
        let _ ← next
        known do
          expectMark "("
          let p ← count
          let zone ← if ← mark? "," then
            match ← next with
            | .string .single text => pure (", '" ++ text ++ "'")
            | _ => failure
          else pure ""
          expectMark ")"
          return "DateTime64(" ++ p ++ zone ++ ")"
      else if k == "FIXEDSTRING" then
        let _ ← next
        known do
          expectMark "("
          let n ← count
          expectMark ")"
          return "FixedString(" ++ n ++ ")"
      else if k == "ENUM" || k == "SET" then
        let _ ← next
        known do return k ++ (← stringValues)
      else if k == "INTERVAL" then
        let _ ← next
        let text ← arraySuffix "INTERVAL" size
        return (if text == "INTERVAL" then .interval else .known text, false)
      else if k == "ARRAY" then
        let _ ← next
        expectMark "<"
        let (inner, owed) ← dataTypeFrom fuel
        let owed ← closeAngle owed
        return (.known (← arraySuffix ("ARRAY<" ++ inner.display ++ ">") size), owed)
      else if k == "STRUCT" then
        let _ ← next
        if (← peek) == some (.mark "<") then
          let (fields, owed) ← structFields fuel
          return (.known (← arraySuffix ("STRUCT<" ++ fields ++ ">") size), owed)
        else return (.known (← arraySuffix "STRUCT" size), false)
      else if k == "NULLABLE" || k == "LOWCARDINALITY" then
        let _ ← next
        expectMark "("
        let (inner, owed) ← dataTypeFrom fuel
        if owed then failure
        expectMark ")"
        let start := if k == "NULLABLE" then "Nullable(" else "LowCardinality("
        return (.known (← arraySuffix (start ++ inner.display ++ ")") size), false)
      else if k == "MAP" then
        let _ ← next
        expectMark "("
        let (key, owed) ← dataTypeFrom fuel
        if owed then failure
        expectMark ","
        let (value, owed) ← dataTypeFrom fuel
        if owed then failure
        expectMark ")"
        return (.known (← arraySuffix ("Map(" ++ key.display ++ ", " ++ value.display ++ ")") size),
          false)
      else if ["NESTED", "TUPLE", "UNION"].contains k then failure
      else
        match ← peek with
        | some (.word _ _) =>
            let text ← nameText
            let modifiers ← modifiersText
            let start := text ++ modifiers
            let full ← arraySuffix start size
            return (if full == start then .named start else .known full, false)
        | _ => failure

/-- The fields of a structure type, in angle brackets. -/
def structFields : Nat → Reading (String × Bool)
  | 0 => failure
  | fuel + 1 => do
      expectMark "<"
      let (text, owed) ← structFieldsFrom fuel
      return (text, ← closeAngle owed)

/-- The fields of a structure type from the next one on. -/
def structFieldsFrom : Nat → Reading (String × Bool)
  | 0 => failure
  | fuel + 1 => do
      let named := match (← peekAt 0), (← peekAt 1) with
        | some (.word _ _), some (.word _ _) => true
        | _, _ => false
      let label ← if named then
        let i ← ident
        pure (i.display ++ " ")
      else pure ""
      let (type, owed) ← dataTypeFrom fuel
      let text := label ++ type.display
      if owed then return (text, true)
      else if ← mark? "," then
        let (rest, owed) ← structFieldsFrom fuel
        return (text ++ ", " ++ rest, owed)
      else return (text, false)

end

/-- A type. -/
def dataType : Reading DataType := do
  let (type, owed) ← dataTypeFrom ((← remaining) + 1)
  if owed then failure
  return type

/-- The display of a type. -/
def dataTypeText : Reading String := do
  return (← dataType).display

/-! ### Fields of a date -/

/-- Fields of a date or time that a qualifier may name. -/
def unitFields : List String :=
  ["YEAR", "MONTH", "WEEK", "DAY", "HOUR", "MINUTE", "SECOND", "CENTURY", "DECADE", "DOW", "DOY",
   "EPOCH", "ISODOW", "ISOYEAR", "JULIAN", "MICROSECOND", "MICROSECONDS", "MILLENIUM", "MILLENNIUM",
   "MILLISECOND", "MILLISECONDS", "NANOSECOND", "NANOSECONDS", "QUARTER", "TIMEZONE",
   "TIMEZONE_HOUR", "TIMEZONE_MINUTE"]

/-- Fields of a date or time that are displayed in uppercase. -/
def dateFields : List String :=
  unitFields ++ ["DAYOFWEEK", "DAYOFYEAR", "DATE", "DATETIME", "ISOWEEK", "TIME", "TIMEZONE_ABBR",
    "TIMEZONE_REGION"]

/-- A field of a date or time, by its display. -/
def dateField : Reading String := do
  match ← next with
  | .word i keyword =>
      if keyword == "WEEK" then
        if ← mark? "(" then
          let day ← ident
          expectMark ")"
          return "WEEK(" ++ day.display ++ ")"
        else return "WEEK"
      else if dateFields.contains keyword then return keyword
      else return i.display
  | .string .single text => return quotedWith '\'' text
  | _ => failure

end DocAccess.Query.Reading
