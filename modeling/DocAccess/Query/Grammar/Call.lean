import DocAccess.Query.Grammar.DataType

/-!
# Calls

Argument lists, windows, and the orders that may stand in both.
-/

namespace DocAccess.Query.Reading

/-- Text behind a blank, if there is any. -/
def spaced (text : Option String) : String := (text.map (" " ++ ·)).getD ""

/-- An expression of an order, by its display. -/
def orderItem (r : Rules) : Reading String := do
  let e ← r.anyExpr
  let direction := spaced (← oneOf? ["ASC", "DESC"])
  let nulls ← if ← keywords? ["NULLS", "FIRST"] then pure " NULLS FIRST"
    else
      if ← keywords? ["NULLS", "LAST"] then pure " NULLS LAST" else pure ""
  let fill ← if ← keywords? ["WITH", "FILL"] then
    let bound (k : String) : Reading String := do
      if ← keyword? k then return " " ++ k ++ " " ++ (← r.anyExpr).display else return ""
    let start ← bound "FROM"
    let stop ← bound "TO"
    let step ← bound "STEP"
    pure (" WITH FILL" ++ start ++ stop ++ step)
  else pure ""
  return e.display ++ direction ++ nulls ++ fill

/-- A list of expressions of an order, by its display. -/
def orderItems (r : Rules) : Reading String := do
  return commaJoined (← commaList (orderItem r))

/-- A list of expressions, by its display. -/
def exprItems (r : Rules) : Reading String := do
  return displayExprs (← commaList r.anyExpr)

/-! ### Windows -/

/-- A bound of a window frame. -/
def frameBound (r : Rules) : Reading String := do
  if ← keywords? ["CURRENT", "ROW"] then return "CURRENT ROW"
  else
    let size ← if ← keyword? "UNBOUNDED" then pure "UNBOUNDED" else pure (← r.anyExpr).display
    return size ++ " " ++ (← expectOneOf ["PRECEDING", "FOLLOWING"])

/-- A window frame. -/
def frame (r : Rules) : Reading String := do
  let unit ← expectOneOf ["ROWS", "RANGE", "GROUPS"]
  if ← keyword? "BETWEEN" then
    let start ← frameBound r
    expectKeyword "AND"
    let stop ← frameBound r
    return unit ++ " BETWEEN " ++ start ++ " AND " ++ stop
  else return unit ++ " " ++ (← frameBound r)

/-- The description of a window up to its closing parenthesis. -/
def windowSpec (r : Rules) : Reading String := do
  let base ← match ← peek with
    | some (.word i keyword) =>
        if isPlainWord keyword then
          let _ ← next
          pure [i.display]
        else pure []
    | _ => pure []
  let partition ← if ← keywords? ["PARTITION", "BY"] then pure ["PARTITION BY " ++ (← exprItems r)]
    else pure []
  let order ← if ← keywords? ["ORDER", "BY"] then pure ["ORDER BY " ++ (← orderItems r)] else pure []
  let frame ← if ← mark? ")" then pure []
    else
      let text ← frame r
      expectMark ")"
      pure [text]
  return " ".intercalate (base ++ partition ++ order ++ frame)

/-! ### Arguments -/

/-- The parts of a dotted name behind its first one, or the star that ends it. -/
def starParts : Nat → List Ident → Reading (Option (List Ident))
  | 0, _ => failure
  | fuel + 1, parts => do
      if ← mark? "." then
        match ← next with
        | .word i _ => starParts fuel (parts ++ [i])
        | .string .single text => starParts fuel (parts ++ [⟨text, some '\''⟩])
        | .mark "*" => return some parts
        | _ => failure
      else return none

/-- A star or a qualified star. -/
inductive Star where
  | all
  | qualified (parts : List Ident)

/-- A dotted name that may end in a star. -/
def starName : Reading (Option (List Ident)) := do
  let first ← ident
  starParts ((← remaining) + 1) [first]

/-- A qualified star, or nothing; a malformed dotted name fails. -/
def qualifiedStar? : Reading (Option Star) := fun ts =>
  match starName ts with
  | none => none
  | some (some parts, rest) => some (some (.qualified parts), rest)
  | some (none, _) => some (none, ts)

/-- A star, a qualified star, or nothing; a malformed dotted name fails. -/
def star? : Reading (Option Star) := do
  match (← peekAt 0), (← peekAt 1) with
  | some (.mark "*"), _ =>
      let _ ← next
      return some .all
  | some (.word _ _), some (.mark ".") => qualifiedStar?
  | some (.string .single _), some (.mark ".") => qualifiedStar?
  | _, _ => return none

/-- The display of a star. -/
def Star.display : Star → String
  | all => "*"
  | qualified parts => displayName parts ++ ".*"

/-- A star or an expression. -/
def starOrExpr (r : Rules) : Reading Argument := do
  match ← star? with
  | some star => return .other star.display
  | none => return .plain (← r.anyExpr)

/-- One argument of a call. -/
def argument (r : Rules) : Reading Argument := do
  match ← peekAt 1 with
  | some (.mark "=>") =>
      let label ← ident
      expectMark "=>"
      return .other (label.display ++ " => " ++ (← starOrExpr r).display)
  | some (.mark ":=") =>
      let label ← ident
      expectMark ":="
      return .other (label.display ++ " := " ++ (← r.anyExpr).display)
  | _ => starOrExpr r

/-- How a call treats nulls. -/
def nullTreatment? : Reading (Option String) := do
  match ← oneOf? ["RESPECT", "IGNORE"] with
  | some k =>
      expectKeyword "NULLS"
      return some (k ++ " NULLS")
  | none => return none

/-- What a list aggregate does on overflow. -/
def overflow? : Reading (Option String) := do
  if ← keywords? ["ON", "OVERFLOW"] then
    if ← keyword? "ERROR" then return some "ON OVERFLOW ERROR"
    else
      expectKeyword "TRUNCATE"
      let filler ← match ← peekKeyword 0 with
        | "WITH" | "WITHOUT" => pure ""
        | _ => do
            match ← peek with
            | some (.string _ _) | some (.number _ _) => pure (" " ++ (← literal).display)
            | _ => failure
      let k ← expectOneOf ["WITH", "WITHOUT"]
      expectKeyword "COUNT"
      return some ("ON OVERFLOW TRUNCATE" ++ filler ++ " " ++ k ++ " COUNT")
  else return none

/-- The arguments of a call behind its opening parenthesis, and whether they treat nulls. -/
def arguments (r : Rules) : Reading (Arguments × Bool) := do
  if ← mark? ")" then return (.list "" [] "", false)
  else
    let all ← keyword? "ALL"
    let distinct ← keyword? "DISTINCT"
    if all && distinct then failure
    let quantifier := if all then "ALL " else if distinct then "DISTINCT " else ""
    let items ← commaList (argument r)
    let nulls ← nullTreatment?
    let order ← if ← keywords? ["ORDER", "BY"] then pure ["ORDER BY " ++ (← orderItems r)] else pure []
    let limit ← if ← keyword? "LIMIT" then pure ["LIMIT " ++ (← r.anyExpr).display] else pure []
    let having ← if ← keyword? "HAVING" then
      let k ← expectOneOf ["MIN", "MAX"]
      pure ["HAVING " ++ k ++ " " ++ (← r.anyExpr).display]
    else pure []
    let separator ← if ← keyword? "SEPARATOR" then pure ["SEPARATOR " ++ (← literal).display]
      else pure []
    let overflow ← overflow?
    expectMark ")"
    let clauses := nulls.toList ++ order ++ limit ++ having ++ separator ++ overflow.toList
    return (.list quantifier items (" ".intercalate clauses), nulls.isSome)

/-- The call of a function behind its name. -/
def call (r : Rules) (function : List Ident) : Reading Expr := do
  expectMark "("
  let (first, firstNulls) ← arguments r
  let (parameters, args, nulls) ← if ← mark? "(" then
    let (second, secondNulls) ← arguments r
    pure (first.display, second, secondNulls)
  else pure ("", first, firstNulls)
  let within ← if ← keywords? ["WITHIN", "GROUP"] then
    expectMark "("
    expectKeywords ["ORDER", "BY"]
    let order ← orderItems r
    expectMark ")"
    pure (" WITHIN GROUP (ORDER BY " ++ order ++ ")")
  else pure ""
  let treatment ← if nulls then pure none else nullTreatment?
  let window ← if ← keyword? "OVER" then
    if ← mark? "(" then pure (" OVER (" ++ (← windowSpec r) ++ ")")
    else pure (" OVER " ++ (← ident).display)
  else pure ""
  return .call function parameters args (within ++ spaced treatment ++ window)

end DocAccess.Query.Reading
