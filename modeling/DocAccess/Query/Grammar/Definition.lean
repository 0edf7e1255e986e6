import DocAccess.Query.Grammar.Selection

/-!
# Definitions

Statements that create, alter and drop named things.  Only it matters whether they are well-formed,
so their readers give nothing.
-/

namespace DocAccess.Query.Reading

/-- How far a removal reaches. -/
def reach : Reading Unit := skip (oneOf? ["CASCADE", "RESTRICT"])

/-! ### Dropping -/

/-- An argument of a function that is named with its signature. -/
def signatureArgument (r : Rules) : Reading Unit := do
  let _ ← oneOf? ["IN", "OUT", "INOUT"]
  match ← dataType with
  | .named _ => skip dataType
  | _ => pure ()
  if ← either? (keyword? "DEFAULT") (mark? "=") then skip r.anyExpr

/-- A function that is named with its signature. -/
def signature (r : Rules) : Reading Unit := do
  skip name
  if ← mark? "(" then
    skip (commaListUntil ")" (signatureArgument r))
    expectMark ")"

/-- Removal of named things, behind `DROP`. -/
def dropping (r : Rules) : Reading Unit := do
  let _ ← keyword? "TEMPORARY"
  match ← expectOneOf ["TABLE", "VIEW", "INDEX", "ROLE", "SCHEMA", "DATABASE", "SEQUENCE", "STAGE",
      "FUNCTION", "PROCEDURE", "TRIGGER"] with
  | "FUNCTION" | "PROCEDURE" =>
      let _ ← keywords? ["IF", "EXISTS"]
      skip (commaList (signature r))
      reach
  | "TRIGGER" =>
      let _ ← keywords? ["IF", "EXISTS"]
      skip name
      expectKeyword "ON"
      skip name
      reach
  | k =>
      let _ ← keywords? ["IF", "EXISTS"]
      skip (commaList name)
      let cascade ← keyword? "CASCADE"
      let restrict ← keyword? "RESTRICT"
      let purge ← keyword? "PURGE"
      if cascade && restrict then failure
      if k == "ROLE" && (cascade || restrict || purge) then failure

/-! ### Columns and constraints -/

/-- What a foreign key does when its target changes. -/
def keyAction : Reading Unit := do
  match ← expectOneOf ["RESTRICT", "CASCADE", "SET", "NO"] with
  | "SET" => skip (expectOneOf ["NULL", "DEFAULT"])
  | "NO" => expectKeyword "ACTION"
  | _ => pure ()

/-- What a foreign key refers to, behind `REFERENCES`. -/
def keyTarget : Reading Unit := do
  skip name
  skip columns?
  skip (whileSome (do
    if ← keywords? ["ON", "DELETE"] then return some (← keyAction)
    else if ← keywords? ["ON", "UPDATE"] then return some (← keyAction)
    else return none) (← remaining))

/-- One property of a column. -/
def columnOption? (r : Rules) : Reading (Option Unit) := do
  if ← keyword? "CONSTRAINT" then skip ident
  if ← keywords? ["NOT", "NULL"] then return some ()
  else if ← keyword? "NULL" then return some ()
  else if ← keyword? "DEFAULT" then
    skip r.anyExpr
    return some ()
  else if ← keywords? ["PRIMARY", "KEY"] then return some ()
  else if ← keyword? "UNIQUE" then return some ()
  else if ← keyword? "CHECK" then
    skip (inParens r.anyExpr)
    return some ()
  else if ← keyword? "REFERENCES" then
    keyTarget
    return some ()
  else if ← keyword? "COMMENT" then
    skip literal
    return some ()
  else if ← keyword? "COLLATE" then
    skip name
    return some ()
  else if ← keyword? "AUTO_INCREMENT" then return some ()
  else if ← keyword? "AUTOINCREMENT" then return some ()
  else return none

/-- A column or a constraint of a table. -/
def column (r : Rules) : Reading Unit := do
  if ← keyword? "CONSTRAINT" then skip ident
  if ← keywords? ["PRIMARY", "KEY"] then skip columns
  else if ← keyword? "UNIQUE" then
    let _ ← keyword? "KEY"
    skip columns
  else if ← keyword? "CHECK" then skip (inParens r.anyExpr)
  else if ← keywords? ["FOREIGN", "KEY"] then
    skip columns
    expectKeyword "REFERENCES"
    keyTarget
  else
    skip ident
    match ← peek with
    | some (.mark ",") | some (.mark ")") => pure ()
    | _ =>
        skip dataType
        skip (whileSome (columnOption? r) (← remaining))

/-- Options in parentheses, each a name and its value. -/
def options (r : Rules) : Reading Unit := skip (inParens (commaList do
  skip ident
  expectMark "="
  skip r.anyExpr))

/-! ### Creating -/

/-- A table, behind `TABLE`. -/
def tableDefinition (r : Rules) : Reading Unit := do
  let _ ← keywords? ["IF", "NOT", "EXISTS"]
  skip name
  if (← oneOf? ["LIKE", "ILIKE"]).isSome then skip name
  if ← keyword? "CLONE" then skip name
  if ← mark? "(" then
    skip (commaListUntil ")" (column r))
    expectMark ")"
  if ← keyword? "WITH" then options r
  if ← keyword? "AS" then skip r.query

/-- An index, behind `INDEX`. -/
def indexDefinition (r : Rules) : Reading Unit := do
  let _ ← keyword? "CONCURRENTLY"
  let present ← keywords? ["IF", "NOT", "EXISTS"]
  if present || (← peekKeyword 0) != "ON" then skip name
  expectKeyword "ON"
  skip name
  if ← keyword? "USING" then skip ident
  skip (inParens (orderItems r))
  clause "WHERE" r.anyExpr

/-- Creation of a named thing, behind `CREATE`. -/
def creation (r : Rules) : Reading Unit := do
  let replaced ← keywords? ["OR", "REPLACE"]
  let _ ← oneOf? ["GLOBAL", "LOCAL"]
  let temporary := (← oneOf? ["TEMP", "TEMPORARY"]).isSome
  let absent : Reading Unit := skip (keywords? ["IF", "NOT", "EXISTS"])
  if ← keyword? "TABLE" then tableDefinition r
  else if ← either? (keywords? ["MATERIALIZED", "VIEW"]) (keyword? "VIEW") then
    absent
    skip name
    skip columns?
    if ← keyword? "WITH" then options r
    expectKeyword "AS"
    skip r.query
  else if replaced then failure
  else if ← keyword? "SEQUENCE" then
    absent
    skip name
  else if temporary then failure
  else if ← keyword? "DATABASE" then
    absent
    skip name
  else if ← keyword? "SCHEMA" then
    absent
    if ← keyword? "AUTHORIZATION" then skip ident
    else
      skip name
      clause "AUTHORIZATION" ident
  else if ← keyword? "ROLE" then
    absent
    skip (commaList name)
    skip (keyword? "WITH")
  else if ← keyword? "TYPE" then
    skip name
    expectKeyword "AS"
    skip (inParens (commaListUntil ")" do
      skip ident
      skip dataType
      clause "COLLATE" name))
  else
    let _ ← keyword? "UNIQUE"
    expectKeyword "INDEX"
    indexDefinition r

/-! ### Altering -/

/-- A change of a column, behind its name. -/
def columnChange (r : Rules) : Reading Unit := do
  if ← keywords? ["SET", "NOT", "NULL"] then return ()
  else if ← keywords? ["DROP", "NOT", "NULL"] then return ()
  else if ← keywords? ["SET", "DEFAULT"] then skip r.anyExpr
  else if ← keywords? ["DROP", "DEFAULT"] then return ()
  else
    if !(← keywords? ["SET", "DATA", "TYPE"]) then expectKeyword "TYPE"
    skip dataType
    clause "USING" r.anyExpr

/-- One change of a table. -/
def tableChange (r : Rules) : Reading Unit := do
  match ← expectOneOf ["ADD", "DROP", "RENAME", "ALTER"] with
  | "ADD" =>
      let _ ← keyword? "COLUMN"
      let _ ← keywords? ["IF", "NOT", "EXISTS"]
      column r
  | "DROP" =>
      if ← keywords? ["PRIMARY", "KEY"] then return ()
      else
        let _ ← oneOf? ["COLUMN", "CONSTRAINT"]
        let _ ← keywords? ["IF", "EXISTS"]
        skip ident
        reach
  | "RENAME" =>
      if ← keyword? "TO" then skip name
      else
        let _ ← keyword? "COLUMN"
        skip ident
        expectKeyword "TO"
        skip ident
  | _ =>
      let _ ← keyword? "COLUMN"
      skip ident
      columnChange r

/-- A change of a named thing, behind `ALTER`. -/
def alteration (r : Rules) : Reading Unit := do
  match ← expectOneOf ["TABLE", "VIEW", "INDEX"] with
  | "TABLE" =>
      let _ ← keywords? ["IF", "EXISTS"]
      let _ ← keyword? "ONLY"
      skip name
      skip (commaList (tableChange r))
  | "VIEW" =>
      skip name
      skip columns?
      if ← keyword? "WITH" then options r
      expectKeyword "AS"
      skip r.query
  | _ =>
      skip name
      expectKeywords ["RENAME", "TO"]
      skip name

/-- A cut of tables to nothing, behind `TRUNCATE`. -/
def truncation (r : Rules) : Reading Unit := do
  let _ ← keyword? "TABLE"
  let _ ← keyword? "ONLY"
  skip (commaList name)
  if ← keyword? "PARTITION" then skip (inParens (exprItems r))
  if (← oneOf? ["RESTART", "CONTINUE"]).isSome then expectKeyword "IDENTITY"
  reach

end DocAccess.Query.Reading
