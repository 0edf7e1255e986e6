import DocAccess.Query.Grammar.Call

/-!
# Expressions

An expression is an operand followed by operators that bind tighter than the place it stands in
asks for.  Only the forms that a filter looks into become trees.
-/

namespace DocAccess.Query.Reading

/-! ### Operands with a syntax of their own -/

/-- A choice by cases, behind `CASE`. -/
def caseExpr (r : Rules) : Reading Expr := do
  let operand ← if ← keyword? "WHEN" then pure ""
    else
      let e ← r.anyExpr
      expectKeyword "WHEN"
      pure (" " ++ e.display)
  let branch : Reading String := do
    let condition ← r.anyExpr
    expectKeyword "THEN"
    let result ← r.anyExpr
    return " WHEN " ++ condition.display ++ " THEN " ++ result.display
  let first ← branch
  let more ← whileSome (do if ← keyword? "WHEN" then return some (← branch) else return none)
    (← remaining)
  let last ← if ← keyword? "ELSE" then pure (" ELSE " ++ (← r.anyExpr).display) else pure ""
  expectKeyword "END"
  return .other ("CASE" ++ operand ++ first ++ String.join more ++ last ++ " END")

/-- A conversion, behind `CONVERT`. -/
def convertExpr (r : Rules) : Reading Expr := inParens do
  let e ← r.anyExpr
  if ← keyword? "USING" then
    return .other ("CONVERT(" ++ e.display ++ " USING " ++ (← nameText) ++ ")")
  else
    expectMark ","
    let type ← dataTypeText
    let charset ← if ← keywords? ["CHARACTER", "SET"] then pure (" CHARACTER SET " ++ (← nameText))
      else pure ""
    return .other ("CONVERT(" ++ e.display ++ ", " ++ type ++ charset ++ ")")

/-- A cast, behind its keyword. -/
def castExpr (r : Rules) (k : String) : Reading Expr := inParens do
  let e ← r.anyExpr
  expectKeyword "AS"
  let type ← dataTypeText
  let format ← if ← keyword? "FORMAT" then
    let f ← literal
    let zone ← if ← keywords? ["AT", "TIME", "ZONE"] then
      pure (" AT TIME ZONE " ++ (← literal).display)
    else pure ""
    pure (" FORMAT " ++ f.display ++ zone)
  else pure ""
  return .other (k ++ "(" ++ e.display ++ " AS " ++ type ++ format ++ ")")

/-- A test for results, behind `EXISTS`. -/
def existsExpr (r : Rules) (negation : String) : Reading Expr := inParens do
  return .other (negation ++ "EXISTS (" ++ (← r.query).display ++ ")")

/-- A part of a date, behind `EXTRACT`. -/
def extractExpr (r : Rules) : Reading Expr := inParens do
  let field ← dateField
  let between ← if ← keyword? "FROM" then pure " FROM "
    else
      expectMark ","
      pure ", "
  return .other ("EXTRACT(" ++ field ++ between ++ (← r.anyExpr).display ++ ")")

/-- A rounding, behind its keyword. -/
def roundingExpr (r : Rules) (k : String) : Reading Expr := inParens do
  let e ← r.anyExpr
  let target ← if ← keyword? "TO" then pure (" TO " ++ (← dateField))
    else
      if ← mark? "," then
        match ← literal with
        | .number text long => pure (", " ++ (Literal.number text long).display)
        | _ => failure
      else pure ""
  return .other (k ++ "(" ++ e.display ++ target ++ ")")

/-- A position, behind a word that a parenthesis follows. -/
def positionExpr (r : Rules) (word : Ident) : Reading Expr := do
  let special ← attempt (inParens do
    let e ← r.expr 20
    expectKeyword "IN"
    return Expr.other ("POSITION(" ++ e.display ++ " IN " ++ (← r.anyExpr).display ++ ")"))
  match special with
  | some e => return e
  | none => call r [word]

/-- A part of a text, behind `SUBSTRING`. -/
def substringExpr (r : Rules) : Reading Expr := inParens do
  let e ← r.anyExpr
  let special ← mark? ","
  let start ← if special then pure (", " ++ (← r.anyExpr).display)
    else
      if ← keyword? "FROM" then pure (" FROM " ++ (← r.anyExpr).display) else pure ""
  let hasLength ← if ← keyword? "FOR" then pure true else mark? ","
  let length ← if hasLength then
    pure ((if special then ", " else " FOR ") ++ (← r.anyExpr).display)
  else pure ""
  return .other ("SUBSTRING(" ++ e.display ++ start ++ length ++ ")")

/-- A replacement, behind `OVERLAY`. -/
def overlayExpr (r : Rules) : Reading Expr := inParens do
  let e ← r.anyExpr
  expectKeyword "PLACING"
  let what ← r.anyExpr
  expectKeyword "FROM"
  let start ← r.anyExpr
  let length ← if ← keyword? "FOR" then pure (" FOR " ++ (← r.anyExpr).display) else pure ""
  return .other ("OVERLAY(" ++ e.display ++ " PLACING " ++ what.display ++ " FROM " ++
    start.display ++ length ++ ")")

/-- A trimming, behind `TRIM`. -/
def trimExpr (r : Rules) : Reading Expr := inParens do
  let side := ((← oneOf? ["BOTH", "LEADING", "TRAILING"]).map (· ++ " ")).getD ""
  let e ← r.anyExpr
  if ← keyword? "FROM" then
    return .other ("TRIM(" ++ side ++ e.display ++ " FROM " ++ (← r.anyExpr).display ++ ")")
  else if ← mark? "," then
    return .other ("TRIM(" ++ e.display ++ ", " ++ (← exprItems r) ++ ")")
  else return .other ("TRIM(" ++ side ++ e.display ++ ")")

/-- A full-text search, behind `MATCH`. -/
def matchExpr : Reading Expr := do
  let names ← columns
  expectKeyword "AGAINST"
  expectMark "("
  let value ← literal
  let mode ← if ← keywords? ["IN", "NATURAL", "LANGUAGE", "MODE"] then
    if ← keywords? ["WITH", "QUERY", "EXPANSION"] then
      pure " IN NATURAL LANGUAGE MODE WITH QUERY EXPANSION"
    else pure " IN NATURAL LANGUAGE MODE"
  else
    if ← keywords? ["IN", "BOOLEAN", "MODE"] then pure " IN BOOLEAN MODE"
    else
      if ← keywords? ["WITH", "QUERY", "EXPANSION"] then pure " WITH QUERY EXPANSION" else pure ""
  expectMark ")"
  return .other ("MATCH (" ++ names ++ ") AGAINST (" ++ value.display ++ mode ++ ")")

/-- A structure, behind `STRUCT`. -/
def structExpr (r : Rules) : Reading Expr := do
  let type ← if (← peek) == some (.mark "<") then
    let (fields, owed) ← structFields ((← remaining) + 1)
    if owed then failure
    pure ("<" ++ fields ++ ">")
  else pure ""
  let values ← inParens (commaList do
    let e ← r.anyExpr
    if ← keyword? "AS" then
      if type != "" then failure
      return e.display ++ " AS " ++ (← ident).display
    else return e.display)
  return .other ("STRUCT" ++ type ++ "(" ++ commaJoined values ++ ")")

/-- An opening brace. -/
def openBrace : String := "\x7b"

/-- A closing brace. -/
def closeBrace : String := "\x7d"

/-- A map from keys to values, behind `MAP`. -/
def mapExpr (r : Rules) : Reading Expr := do
  expectMark openBrace
  let entries ← commaListUntil closeBrace do
    let key ← r.anyExpr
    expectMark ":"
    return key.display ++ ": " ++ (← r.anyExpr).display
  expectMark closeBrace
  return .other ("MAP " ++ openBrace ++ commaJoined entries ++ closeBrace)

/-- A dictionary. -/
def dictionaryExpr (r : Rules) : Reading Expr := do
  expectMark openBrace
  let entries ← commaList do
    let key ← ident
    expectMark ":"
    return key.display ++ ": " ++ (← r.anyExpr).display
  expectMark closeBrace
  return .other (openBrace ++ commaJoined entries ++ closeBrace)

/-- The items of an array behind its opening bracket. -/
def arrayExpr (r : Rules) (start : String) : Reading Expr := do
  let items ← commaListUntil "]" r.anyExpr
  expectMark "]"
  return .other (start ++ "[" ++ displayExprs items ++ "]")

/-- A subquery, a group of expressions, or one expression in parentheses. -/
def parenExpr (r : Rules) : Reading Expr := do
  expectMark "("
  let k ← peekKeyword 0
  let e ← if k == "SELECT" || k == "WITH" then
    pure (Expr.other ("(" ++ (← r.query).display ++ ")"))
  else
    match ← commaList r.anyExpr with
    | [e] => pure (Expr.nested e)
    | es => pure (Expr.other ("(" ++ displayExprs es ++ ")"))
  expectMark ")"
  if ← mark? "." then
    match ← next with
    | .word key _ => return .other (e.display ++ "." ++ key.display)
    | _ => failure
  else return e

/-- The parts of a dotted name behind its first one. -/
def pathParts : Nat → List Ident → Reading (List Ident)
  | 0, _ => failure
  | fuel + 1, parts => do
      if ← mark? "." then
        match ← next with
        | .word i _ => pathParts fuel (parts ++ [i])
        | .string .single text => pathParts fuel (parts ++ [⟨text, some '\''⟩])
        | _ => failure
      else return parts

/-- A name behind its first word: a path, a call or a single name. -/
def nameExpr (r : Rules) (word : Ident) : Reading Expr := do
  match ← peek with
  | some (.mark ".") =>
      let parts ← pathParts ((← remaining) + 1) [word]
      if (← peek) == some (.mark "(") then call r parts else return .path parts
  | some (.mark "(") => call r [word]
  | some (.string form text) =>
      if word.text.startsWith "_" && (form == .single || form == .hexadecimal) then
        let _ ← next
        return .other (word.text ++ " " ++ form.display text)
      else return .name word
  | _ => return .name word

/-- Keywords that call a function without parentheses. -/
def userFunctions : List String := ["CURRENT_CATALOG", "CURRENT_USER", "SESSION_USER", "USER"]

/-- Keywords that call a function with or without parentheses. -/
def timeFunctions : List String :=
  ["CURRENT_TIMESTAMP", "CURRENT_TIME", "CURRENT_DATE", "LOCALTIME", "LOCALTIMESTAMP"]

/-- A negation, behind `NOT`. -/
def notExpr (r : Rules) : Reading Expr := do
  if ← keyword? "EXISTS" then existsExpr r "NOT "
  else return .other ("NOT " ++ (← r.expr 15).display)

/-! ### Operators -/

/-- The precedence of the operator that a token opens, given the keywords of the two tokens behind
it; zero where no operator starts. -/
def precedence (token : Token) (second third : String) : Nat :=
  match token with
  | .word _ k =>
      if k == "OR" then 5
      else if k == "AND" then 10
      else if k == "XOR" then 24
      else if k == "AT" then if second == "TIME" && third == "ZONE" then 41 else 0
      else if k == "NOT" then
        if second == "IN" || second == "BETWEEN" then 20
        else if ["LIKE", "ILIKE", "RLIKE", "REGEXP", "SIMILAR"].contains second then 19
        else 0
      else if k == "IS" then 17
      else if k == "IN" || k == "BETWEEN" || k == "OPERATOR" then 20
      else if ["LIKE", "ILIKE", "RLIKE", "REGEXP", "SIMILAR"].contains k then 19
      else if k == "DIV" then 40
      else 0
  | .mark m =>
      if ["=", "<", "<=", "<>", ">", ">=", "==", "~", "~*", "!~", "!~*", "~~", "~~*", "!~~",
          "!~~*", "<=>"].contains m then 20
      else if m == "|" then 21
      else if ["^", "#", ">>", "<<"].contains m then 22
      else if m == "&" then 23
      else if m == "+" || m == "-" then 30
      else if ["*", "/", "//", "%", "||"].contains m then 40
      else if ["::", "!", "[", "&&", "^@"].contains m then 50
      else if ["->", "->>", "#>", "#>>", "@>", "<@", "#-", "@?", "@@"].contains m then 16
      else 0
  | _ => 0

/-- The precedence of the operator that comes next. -/
def nextPrecedence : Reading Nat := do
  match ← peek with
  | some t => return precedence t (← peekKeyword 1) (← peekKeyword 2)
  | none => return 0

/-- Marks that join two operands. -/
def binaryMarks : List String :=
  ["<=>", "==", "=", "<>", ">", ">=", "<", "<=", "+", "-", "*", "%", "||", "|", "^", "&", "/", "//",
   "<<", ">>", "&&", "^@", "~", "~*", "!~", "!~*", "~~", "~~*", "!~~", "!~~*", "->", "->>", "#>",
   "#>>", "@>", "<@", "#-", "@?", "@@"]

/-- The display of a binary operator that a token stands for. -/
def binaryOperator? : Token → Option String
  | .word _ k => if k == "AND" || k == "OR" || k == "XOR" then some k else none
  | .mark m => if m == "==" then some "=" else if binaryMarks.contains m then some m else none
  | _ => none

/-- The parts of a custom operator, behind its opening parenthesis. -/
def operatorParts : Nat → Reading (List String)
  | 0 => failure
  | fuel + 1 => do
      let t ← next
      if ← mark? "." then return t.display :: (← operatorParts fuel) else return [t.display]

/-- The right side of a binary operator. -/
def rightSide (r : Rules) (left : Expr) (operator : String) (precedence : Nat) : Reading Expr := do
  match ← oneOf? ["ANY", "ALL"] with
  | some k =>
      expectMark "("
      let start ← peekKeyword 0
      let right ← if start == "SELECT" || start == "WITH" then
        pure ("(" ++ (← r.query).display ++ ")")
      else pure ("(" ++ (← r.expr precedence).display ++ ")")
      expectMark ")"
      if [">", "<", ">=", "<=", "=", "<>"].contains operator then
        return .other (left.display ++ " " ++ operator ++ " " ++ k ++ right)
      else failure
  | none => return .binary left operator (← r.expr precedence)

/-- A test behind `IS`. -/
def isTest (r : Rules) (left : Expr) : Reading Expr := do
  let plain := ["NULL", "TRUE", "FALSE", "UNKNOWN"]
  if let some k ← oneOf? plain then return .other (left.display ++ " IS " ++ k)
  else
    let negated ← keyword? "NOT"
    if negated then
      if let some k ← oneOf? plain then return .other (left.display ++ " IS NOT " ++ k)
    expectKeywords ["DISTINCT", "FROM"]
    let right ← r.anyExpr
    return .other (left.display ++ (if negated then " IS NOT" else " IS") ++ " DISTINCT FROM " ++
      right.display)

/-- The escape character of a pattern. -/
def escapeText : Reading String := do
  if ← keyword? "ESCAPE" then return " ESCAPE '" ++ (← literalText) ++ "'" else return ""

/-- A test for membership, behind `IN`. -/
def inTest (r : Rules) (left : String) : Reading Expr := do
  if ← keyword? "UNNEST" then
    let e ← inParens r.anyExpr
    return .other (left ++ " IN UNNEST(" ++ e.display ++ ")")
  else inParens do
    let k ← peekKeyword 0
    if k == "SELECT" || k == "WITH" then
      return .other (left ++ " IN (" ++ (← r.query).display ++ ")")
    else return .other (left ++ " IN (" ++ (← exprItems r) ++ ")")

/-- A test for a range, behind `BETWEEN`. -/
def betweenTest (r : Rules) (left : String) : Reading Expr := do
  let low ← r.expr 20
  expectKeyword "AND"
  let high ← r.expr 20
  return .other (left ++ " BETWEEN " ++ low.display ++ " AND " ++ high.display)

/-- A test with a pattern, a list or a range. -/
def patternTest (r : Rules) (left : Expr) : Reading Expr := do
  let negated ← keyword? "NOT"
  let start := left.display ++ (if negated then " NOT" else "")
  if let some k ← oneOf? ["REGEXP", "RLIKE"] then
    return .other (start ++ " " ++ k ++ " " ++ (← r.expr 19).display)
  else if ← keyword? "IN" then inTest r start
  else if ← keyword? "BETWEEN" then betweenTest r start
  else if let some k ← oneOf? ["LIKE", "ILIKE"] then
    let pattern ← r.expr 19
    return .other (start ++ " " ++ k ++ " " ++ pattern.display ++ (← escapeText))
  else
    expectKeywords ["SIMILAR", "TO"]
    let pattern ← r.expr 19
    return .other (start ++ " SIMILAR TO " ++ pattern.display ++ (← escapeText))

/-- An index or a slice, behind its opening bracket. -/
def subscript (r : Rules) : Reading String := do
  let colon ← mark? ":"
  let lower ← if colon then pure "" else pure (← r.anyExpr).display
  if ← mark? "]" then return if colon then ":" else lower
  else
    if !colon then expectMark ":"
    if ← mark? "]" then return lower ++ ":"
    else
      let upper := (← r.anyExpr).display
      if ← mark? "]" then return lower ++ ":" ++ upper
      else
        expectMark ":"
        if ← mark? "]" then return lower ++ ":" ++ upper
        else
          let stride := (← r.anyExpr).display
          expectMark "]"
          return lower ++ ":" ++ upper ++ ":" ++ stride

/-- Applies the operator that comes next to its left side. -/
def infixExpr (r : Rules) (left : Expr) (precedence : Nat) : Reading Expr := do
  let k ← peekKeyword 0
  if ["NOT", "IN", "BETWEEN", "LIKE", "ILIKE", "SIMILAR", "REGEXP", "RLIKE"].contains k then
    patternTest r left
  else
    let t ← next
    if let some operator := binaryOperator? t then rightSide r left operator precedence
    else if k == "OPERATOR" then
      let parts ← inParens (do operatorParts ((← remaining) + 1))
      rightSide r left ("OPERATOR(" ++ ".".intercalate parts ++ ")") precedence
    else if k == "IS" then isTest r left
    else if k == "AT" then
      expectKeywords ["TIME", "ZONE"]
      return .other (left.display ++ " AT TIME ZONE " ++ (← r.expr precedence).display)
    else if t == .mark "::" then return .other (left.display ++ "::" ++ (← dataTypeText))
    else if t == .mark "!" then return .other (left.display ++ "!")
    else if t == .mark "[" then return .other (left.display ++ "[" ++ (← subscript r) ++ "]")
    else failure

/-- Applies operators as long as they bind tighter than `floor`, given a bound on their number;
`stops` are keywords that end the expression. -/
def operators (r : Rules) (floor : Nat) (stops : List String) : Nat → Expr → Reading Expr
  | 0, e => return e
  | fuel + 1, e => do
      let p ← nextPrecedence
      if floor ≥ p || stops.contains (← peekKeyword 0) then return e
      else operators r floor stops fuel (← infixExpr r e p)

/-! ### Operands -/

/-- The unit of an interval behind its value. -/
def intervalUnit : Reading String := do
  let k ← peekKeyword 0
  let unit ← if unitFields.contains k then
    let field ← dateField
    pure (some field)
  else pure none
  if unit == some "SECOND" then
    if ← mark? "(" then
      let first ← count
      let second ← if ← mark? "," then
        let n ← count
        pure (some n)
      else pure none
      expectMark ")"
      return match second with
        | some second => " SECOND (" ++ first ++ ", " ++ second ++ ")"
        | none => " SECOND (" ++ first ++ ")"
    else return " SECOND"
  else
    let leading := ((← precision?).map fun n => " (" ++ n ++ ")").getD ""
    if ← keyword? "TO" then
      let last ← dateField
      let fraction ← if last == "SECOND" then
        pure (((← precision?).map fun n => " (" ++ n ++ ")").getD "")
      else pure ""
      return spaced unit ++ leading ++ " TO " ++ last ++ fraction
    else return spaced unit ++ leading

/-- An interval behind its keyword, given the reader of operands. -/
def interval (r : Rules) (operand : Reading Expr) : Reading Expr := do
  let first ← operand
  let value ← operators r 0 ["AND", "OR", "XOR"] ((← remaining) + 1) first
  return .other ("INTERVAL " ++ value.display ++ (← intervalUnit))

/-- A string behind the type it is read as, or an interval. -/
def typedString (r : Rules) (operand : Reading Expr) : Reading Expr := do
  match ← dataType with
  | .interval => interval r operand
  | .known type => return .other (type ++ " " ++ quotedWith '\'' (← literalText))
  | .named _ => failure

/-- The operand that a word opens. -/
def wordExpr (r : Rules) (operand : Reading Expr) (word : Ident) (k : String) : Reading Expr := do
  let following ← peek
  if r.hierarchical && k == "PRIOR" then return .other ("PRIOR " ++ (← r.expr 30).display)
  else if k == "TRUE" then return .literal (.boolean true)
  else if k == "FALSE" then return .literal (.boolean false)
  else if k == "NULL" then return .literal .null
  else if userFunctions.contains k then return .call [word] "" .absent ""
  else if timeFunctions.contains k then
    if ← mark? "(" then
      let (args, _) ← arguments r
      return .call [word] "" args ""
    else return .call [word] "" .absent ""
  else if k == "CASE" then caseExpr r
  else if k == "CONVERT" then convertExpr r
  else if k == "CAST" || k == "TRY_CAST" || k == "SAFE_CAST" then castExpr r k
  else if k == "EXISTS" then existsExpr r ""
  else if k == "EXTRACT" then extractExpr r
  else if k == "CEIL" || k == "FLOOR" then roundingExpr r k
  else if k == "POSITION" && following == some (.mark "(") then positionExpr r word
  else if k == "SUBSTRING" then substringExpr r
  else if k == "OVERLAY" then overlayExpr r
  else if k == "TRIM" then trimExpr r
  else if k == "INTERVAL" then interval r operand
  else if k == "ARRAY" && following == some (.mark "[") then
    expectMark "["
    arrayExpr r "ARRAY"
  else if k == "ARRAY" && following == some (.mark "(") then
    let q ← inParens r.query
    return .call [word] "" (.subquery q.display) ""
  else if k == "NOT" then notExpr r
  else if k == "MATCH" then matchExpr
  else if k == "STRUCT" then structExpr r
  else if k == "MAP" && following == some (.mark openBrace) then mapExpr r
  else nameExpr r word

/-- The operand that the next token opens, without what may follow it. -/
def plainOperand (r : Rules) (operand : Reading Expr) : Reading Expr := do
  match ← peek with
  | some (.word word k) =>
      let _ ← next
      wordExpr r operand word k
  | some (.mark m) =>
      if m == "[" then
        let _ ← next
        arrayExpr r ""
      else if m == "+" || m == "-" then
        let _ ← next
        return .other (m ++ (← r.expr 40).display)
      else if m == "(" then parenExpr r
      else if m == ":" || m == "@" then return .literal (← literal)
      else if m == openBrace then dictionaryExpr r
      else failure
  | some (.number _ _) | some (.string _ _) | some (.placeholder _) => return .literal (← literal)
  | _ => failure

/-- An operand, given a bound on the nesting of intervals. -/
def operandFrom (r : Rules) : Nat → Reading Expr
  | 0 => failure
  | fuel + 1 => do
      match ← attempt (typedString r (operandFrom r fuel)) with
      | some e => return e
      | none =>
          let e ← plainOperand r (operandFrom r fuel)
          if ← keyword? "COLLATE" then
            return .other (e.display ++ " COLLATE " ++ (← nameText))
          else return e

/-- An expression whose operators bind tighter than `floor`. -/
def expr (r : Rules) (floor : Nat) : Reading Expr := do
  let size ← remaining
  let e ← operandFrom r (size + 1)
  operators r floor [] (size + 1) e

end DocAccess.Query.Reading
