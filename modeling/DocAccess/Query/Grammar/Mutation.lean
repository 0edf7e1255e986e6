import DocAccess.Query.Grammar.Projection

/-!
# Mutations

Insertions and changes, which may also be the body of a query, and removals and merges, which are
statements only.  The readers of what may be part of a query give its display.
-/

namespace DocAccess.Query.Reading

/-- Ignores what a reader gives. -/
def skip {α : Type} (p : Reading α) : Reading Unit := do
  let _ ← p

/-- Reads something if its keyword is next. -/
def clause {α : Type} (k : String) (p : Reading α) : Reading Unit := do
  if ← keyword? k then skip p

/-! ### Parts -/

/-- One target and its new value. -/
def assignment (r : Rules) : Reading String := do
  let target ← if (← peek) == some (.mark "(") then pure ("(" ++ (← inParens (commaList nameText)
      >>= fun names => pure (commaJoined names)) ++ ")")
    else nameText
  expectMark "="
  return target ++ " = " ++ (← r.anyExpr).display

/-- Targets and their new values. -/
def assignments (r : Rules) : Reading String := do
  return commaJoined (← commaList (assignment r))

/-- What a mutation gives back. -/
def returning (r : Rules) : Reading String := do
  if ← keyword? "RETURNING" then
    return " RETURNING " ++ commaJoined ((← commaList (selectItem r)).map Item.display)
  else return ""

/-- A condition, if `WHERE` is next. -/
def condition (r : Rules) : Reading String := do
  if ← keyword? "WHERE" then return " WHERE " ++ (← r.anyExpr).display else return ""

/-! ### Insertions -/

/-- What an insertion does about an existing row. -/
def onConflict (r : Rules) : Reading String := do
  if ← keyword? "ON" then
    if ← keyword? "CONFLICT" then
      let target ← if ← keywords? ["ON", "CONSTRAINT"] then pure (" ON CONSTRAINT " ++ (← nameText))
        else pure (((← columns?).map fun names => "(" ++ names ++ ")").getD "")
      expectKeyword "DO"
      if ← keyword? "NOTHING" then return " ON CONFLICT" ++ target ++ " DO NOTHING"
      else
        expectKeywords ["UPDATE", "SET"]
        let changes ← assignments r
        return " ON CONFLICT" ++ target ++ " DO UPDATE SET " ++ changes ++ (← condition r)
    else
      expectKeywords ["DUPLICATE", "KEY", "UPDATE"]
      return " ON DUPLICATE KEY UPDATE " ++ (← assignments r)
  else return ""

/-- Whether a selection in parentheses is next. -/
def selectionNext : Reading Bool := do
  return (← peekAt 0) == some (.mark "(") && (← peekKeyword 1) == "SELECT"

/-- The columns, the partition and the rows of an insertion. -/
def insertedRows (r : Rules) : Reading String := do
  if ← keywords? ["DEFAULT", "VALUES"] then return "DEFAULT VALUES"
  else
    let front ← if ← selectionNext then pure "" else
      let names := ((← columns?).map fun names => "(" ++ names ++ ") ").getD ""
      let partition ← if ← keyword? "PARTITION" then
        pure ("PARTITION (" ++ (← inParens (exprItems r)) ++ ") ")
      else pure ""
      pure (names ++ partition)
    return front ++ (← r.query).display

/-- An insertion behind its keyword `verb`. -/
def insertion (r : Rules) (verb : String) : Reading String := do
  let urgency := spaced (← oneOf? ["LOW_PRIORITY", "DELAYED", "HIGH_PRIORITY"])
  let ignore := if ← keyword? "IGNORE" then " IGNORE" else ""
  let action := spaced (← oneOf? ["INTO", "OVERWRITE"])
  let table := if ← keyword? "TABLE" then " TABLE" else ""
  let target ← nameText
  let rows ← insertedRows r
  let label ← if ← keyword? "AS" then
    let name ← nameText
    pure (" AS " ++ name ++ ((← columns?).map fun names => " (" ++ names ++ ")").getD "")
  else pure ""
  let conflict ← onConflict r
  return verb ++ urgency ++ ignore ++ action ++ table ++ " " ++ target ++ " " ++ rows ++ label ++
    conflict ++ (← returning r)

/-! ### Changes -/

/-- A change behind `UPDATE`. -/
def change (r : Rules) : Reading String := do
  let table ← joinedSource r
  expectKeyword "SET"
  let changes ← assignments r
  let source ← if ← keyword? "FROM" then pure (" FROM " ++ (← joinedSource r).display) else pure ""
  let condition ← condition r
  return "UPDATE " ++ table.display ++ " SET " ++ changes ++ source ++ condition ++ (← returning r)

/-! ### Removals and merges -/

/-- A removal behind `DELETE`. -/
def deletion (r : Rules) : Reading Unit := do
  let _ ← keyword? "FROM"
  skip (commaList (joinedSource r))
  clause "USING" (commaList (joinedSource r))
  skip (condition r)
  skip (returning r)
  if ← keywords? ["ORDER", "BY"] then skip (orderItems r)
  if ← keyword? "LIMIT" then
    if !(← keyword? "ALL") then skip r.anyExpr

/-- What a merge does about a row, behind `THEN`; `matched` says whether the target has the row. -/
def mergeAction (r : Rules) (matched : Bool) : Reading Unit := do
  if matched then
    if ← keyword? "UPDATE" then
      expectKeyword "SET"
      skip (assignments r)
    else expectKeyword "DELETE"
  else
    expectKeyword "INSERT"
    skip columns?
    if !(← keyword? "ROW") then
      expectKeyword "VALUES"
      skip (valueRows r)

/-- One case of a merge, unless the statement ends. -/
def mergeCase? (r : Rules) : Reading (Option Unit) := do
  match ← peek with
  | none | some (.mark ";") => return none
  | _ =>
      expectKeyword "WHEN"
      let absent ← keyword? "NOT"
      expectKeyword "MATCHED"
      let bySource ← if absent then
        if ← keywords? ["BY", "SOURCE"] then pure true
        else
          let _ ← keywords? ["BY", "TARGET"]
          pure false
      else pure false
      clause "AND" r.anyExpr
      expectKeyword "THEN"
      mergeAction r (!absent || bySource)
      return some ()

/-- A merge behind `MERGE`. -/
def merging (r : Rules) : Reading Unit := do
  let _ ← keyword? "INTO"
  skip (factorFrom r ((← remaining) + 1))
  expectKeyword "USING"
  skip (factorFrom r ((← remaining) + 1))
  expectKeyword "ON"
  skip r.anyExpr
  skip (whileSome (mergeCase? r) ((← remaining) + 1))

end DocAccess.Query.Reading
