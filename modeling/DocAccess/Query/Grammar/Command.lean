import DocAccess.Query.Grammar.Definition

/-!
# Commands

Statements about transactions, rights, cursors, settings and files.  Only it matters whether they
are well-formed, so their readers give nothing.
-/

namespace DocAccess.Query.Reading

/-! ### Transactions -/

/-- A property of a transaction. -/
def transactionMode? : Reading Bool := do
  if ← keywords? ["ISOLATION", "LEVEL"] then
    if ← keywords? ["READ", "UNCOMMITTED"] then return true
    else if ← keywords? ["READ", "COMMITTED"] then return true
    else if ← keywords? ["REPEATABLE", "READ"] then return true
    else
      expectKeyword "SERIALIZABLE"
      return true
  else if ← keywords? ["READ", "ONLY"] then return true
  else keywords? ["READ", "WRITE"]

/-- Properties of a transaction, with or without commas between them, given a bound on their
number; `required` says whether a comma asks for another one. -/
def transactionModesFrom (required : Bool) : Nat → Reading Unit
  | 0 => failure
  | fuel + 1 => do
      if ← transactionMode? then transactionModesFrom (← mark? ",") fuel
      else if required then failure

/-- Properties of a transaction. -/
def transactionModes : Reading Unit := do
  transactionModesFrom false ((← remaining) + 1)

/-- The end of a transaction, behind its keyword. -/
def transactionEnd : Reading Unit := do
  let _ ← oneOf? ["TRANSACTION", "WORK"]
  if ← keyword? "AND" then
    let _ ← keyword? "NO"
    expectKeyword "CHAIN"

/-- The end of a transaction that undoes it, behind `ROLLBACK`. -/
def rollback : Reading Unit := do
  transactionEnd
  if ← keyword? "TO" then
    let _ ← keyword? "SAVEPOINT"
    skip ident

/-! ### Rights -/

/-- A right that may be granted. -/
def privilege : Reading Unit := do
  match ← expectOneOf ["CONNECT", "CREATE", "DELETE", "EXECUTE", "INSERT", "REFERENCES", "SELECT",
      "TEMPORARY", "TRIGGER", "TRUNCATE", "UPDATE", "USAGE"] with
  | "INSERT" | "REFERENCES" | "SELECT" | "UPDATE" => skip columns?
  | _ => pure ()

/-- Rights and what they are about. -/
def privileges : Reading Unit := do
  if ← keyword? "ALL" then skip (keyword? "PRIVILEGES") else skip (commaList privilege)
  expectKeyword "ON"
  if ← keywords? ["ALL", "TABLES", "IN", "SCHEMA"] then skip (commaList name)
  else if ← keywords? ["ALL", "SEQUENCES", "IN", "SCHEMA"] then skip (commaList name)
  else
    let _ ← oneOf? ["SEQUENCE", "SCHEMA", "TABLE"]
    skip (commaList name)

/-- A grant of rights, behind `GRANT`. -/
def grant : Reading Unit := do
  privileges
  expectKeyword "TO"
  skip (commaList ident)
  let _ ← keywords? ["WITH", "GRANT", "OPTION"]
  if ← keywords? ["GRANTED", "BY"] then skip ident

/-- The end of rights, behind `REVOKE`. -/
def revocation : Reading Unit := do
  privileges
  expectKeyword "FROM"
  skip (commaList ident)
  if ← keywords? ["GRANTED", "BY"] then skip ident
  let cascade ← keyword? "CASCADE"
  if cascade && (← keyword? "RESTRICT") then failure
  if !cascade then skip (keyword? "RESTRICT")

/-! ### Cursors -/

/-- A cursor, behind `DECLARE`. -/
def cursor (r : Rules) : Reading Unit := do
  skip ident
  let _ ← keyword? "BINARY"
  let _ ← oneOf? ["INSENSITIVE", "ASENSITIVE"]
  if !(← keyword? "SCROLL") then skip (keywords? ["NO", "SCROLL"])
  expectKeyword "CURSOR"
  if (← oneOf? ["WITH", "WITHOUT"]).isSome then expectKeyword "HOLD"
  expectKeyword "FOR"
  skip r.query

/-- A number or a placeholder. -/
def numberOrPlaceholder : Reading Unit := do
  match ← literal with
  | .number _ _ | .placeholder _ => pure ()
  | _ => failure

/-- A fetch of rows from a cursor, behind `FETCH`. -/
def fetching : Reading Unit := do
  match ← oneOf? ["NEXT", "PRIOR", "FIRST", "LAST", "ABSOLUTE", "RELATIVE", "FORWARD", "BACKWARD",
      "ALL"] with
  | some "ABSOLUTE" | some "RELATIVE" | none => numberOrPlaceholder
  | some "FORWARD" | some "BACKWARD" => if !(← keyword? "ALL") then numberOrPlaceholder
  | some _ => pure ()
  let _ ← expectOneOf ["FROM", "IN"]
  skip ident
  clause "INTO" name

/-! ### Settings and listings -/

/-- A role, behind `SET`. -/
def role : Reading Unit := do
  expectKeyword "ROLE"
  if !(← keyword? "NONE") then skip ident

/-- Values of a setting, if they follow. -/
def settingValues? (r : Rules) : Reading Bool := do
  if ← either? (mark? "=") (keyword? "TO") then
    skip (commaList r.anyExpr)
    return true
  else return false

/-- A setting that has a name, behind `SET`. -/
def namedSetting (r : Rules) (modified : Bool) : Reading Unit := do
  let n ← if ← keywords? ["TIME", "ZONE"] then pure "TIMEZONE" else nameText
  let lower := String.ofList (Text.lower n.toList)
  if lower == "names" then
    if !(← keyword? "DEFAULT") then
      skip literalText
      clause "COLLATE" literalText
  else if ← settingValues? r then return ()
  else if lower == "timezone" then skip r.anyExpr
  else if n == "CHARACTERISTICS" then
    expectKeywords ["AS", "TRANSACTION"]
    transactionModes
  else if n == "TRANSACTION" && !modified then
    if ← keyword? "SNAPSHOT" then skip literal else transactionModes
  else failure

/-- A setting, behind `SET`. -/
def setting (r : Rules) : Reading Unit := do
  match ← oneOf? ["SESSION", "LOCAL", "HIVEVAR"] with
  | some "HIVEVAR" =>
      expectMark ":"
      namedSetting r true
  | modifier =>
      if (← attempt role).isNone then namedSetting r modifier.isSome

/-- What narrows a listing. -/
def listingFilter (r : Rules) : Reading Unit := do
  if (← oneOf? ["LIKE", "ILIKE"]).isSome then skip literalText else clause "WHERE" r.anyExpr

/-- The tokens from the first equals sign on. -/
def fromEquals : List Token → List Token
  | [] => []
  | t :: ts => if t == .mark "=" then t :: ts else fromEquals ts

/-- A listing, behind `SHOW`.  A variable takes everything up to an equals sign. -/
def listing (r : Rules) : Reading Unit := do
  let extended ← keyword? "EXTENDED"
  let full ← keyword? "FULL"
  let _ ← keyword? "SESSION"
  let _ ← keyword? "GLOBAL"
  if (← oneOf? ["COLUMNS", "FIELDS"]).isSome then
    let _ ← expectOneOf ["FROM", "IN"]
    skip name
    if (← oneOf? ["FROM", "IN"]).isSome then skip ident
    listingFilter r
  else if ← keyword? "TABLES" then
    if (← oneOf? ["FROM", "IN"]).isSome then skip ident
    listingFilter r
  else if ← keyword? "FUNCTIONS" then listingFilter r
  else if extended || full then failure
  else if ← keyword? "CREATE" then
    let _ ← expectOneOf ["TABLE", "TRIGGER", "FUNCTION", "PROCEDURE", "EVENT", "VIEW"]
    skip name
  else if (← oneOf? ["COLLATION", "VARIABLES", "STATUS"]).isSome then listingFilter r
  else modify fromEquals

/-- A setting of the engine, behind `PRAGMA`. -/
def pragma : Reading Unit := do
  skip name
  let value : Reading Unit := do
    match ← literal with
    | .number _ _ | .string _ | .placeholder _ => pure ()
    | .other text => if !text.startsWith "\"" then failure
    | _ => failure
  if ← mark? "(" then
    value
    expectMark ")"
  else if ← mark? "=" then value

/-! ### Tables as a whole -/

/-- Statistics of a table, behind `ANALYZE`. -/
def analysis (r : Rules) : Reading Unit := do
  expectKeyword "TABLE"
  skip name
  skip (whileSome (do
    match ← oneOf? ["PARTITION", "NOSCAN", "FOR", "CACHE", "COMPUTE"] with
    | some "PARTITION" => return some (← skip (inParens (exprItems r)))
    | some "FOR" =>
        expectKeyword "COLUMNS"
        return some (← skip (attempt (commaList ident)))
    | some "CACHE" => return some (← expectKeyword "METADATA")
    | some "COMPUTE" => return some (← expectKeyword "STATISTICS")
    | some _ => return some ()
    | none => return none) (← remaining))

/-- A repair of what is known about a table, behind `MSCK`. -/
def repair : Reading Unit := do
  let _ ← keyword? "REPAIR"
  expectKeyword "TABLE"
  skip name
  skip (attempt do
    let _ ← oneOf? ["ADD", "DROP", "SYNC"]
    expectKeyword "PARTITIONS")

/-- A reordering of a table, behind `OPTIMIZE`. -/
def optimization (r : Rules) : Reading Unit := do
  expectKeyword "TABLE"
  skip name
  if ← keywords? ["ON", "CLUSTER"] then skip ident
  if ← keyword? "PARTITION" then
    if ← keyword? "ID" then skip ident else skip r.anyExpr
  let _ ← keyword? "FINAL"
  if ← keyword? "DEDUPLICATE" then clause "BY" r.anyExpr

/-- A table that is kept at hand, behind `CACHE`. -/
def caching (r : Rules) : Reading Unit := do
  if !(← keyword? "TABLE") then
    skip name
    expectKeyword "TABLE"
  skip name
  if ← keyword? "OPTIONS" then options r
  if (← peek).isSome then
    let _ ← keyword? "AS"
    skip r.query

/-- Caches to write out, behind `FLUSH`. -/
def flushing : Reading Unit := do
  let _ ← oneOf? ["NO_WRITE_TO_BINLOG", "LOCAL"]
  match ← expectOneOf ["BINARY", "ENGINE", "ERROR", "GENERAL", "HOSTS", "PRIVILEGES",
      "OPTIMIZER_COSTS", "RELAY", "SLOW", "STATUS", "USER_RESOURCES", "LOGS", "TABLES"] with
  | "BINARY" | "ENGINE" | "ERROR" | "GENERAL" | "SLOW" => expectKeyword "LOGS"
  | "RELAY" =>
      expectKeyword "LOGS"
      if ← keywords? ["FOR", "CHANNEL"] then skip name
  | "TABLES" =>
      skip (whileSome (do
        match ← peek with
        | some (.word _ k) =>
            if isPlainWord k then return some (← skip (commaList name))
            else
              let _ ← next
              if k == "WITH" then skip (keywords? ["READ", "LOCK"])
              else if k == "FOR" then skip (keyword? "EXPORT")
              return some ()
        | _ => return none) (← remaining))
      if (← peek).isSome then skip next
  | _ => pure ()

/-! ### Files -/

/-- A single character in quotes. -/
def character : Reading Unit := do
  if (← literalText).length != 1 then failure

/-- An option of a copy, in the list behind `WITH`. -/
def copyOption : Reading Unit := do
  match ← expectOneOf ["FORMAT", "FREEZE", "DELIMITER", "NULL", "HEADER", "QUOTE", "ESCAPE",
      "FORCE_QUOTE", "FORCE_NOT_NULL", "FORCE_NULL", "ENCODING"] with
  | "FORMAT" => skip ident
  | "FREEZE" | "HEADER" => skip (oneOf? ["TRUE", "FALSE"])
  | "DELIMITER" | "QUOTE" | "ESCAPE" => character
  | "FORCE_QUOTE" | "FORCE_NOT_NULL" | "FORCE_NULL" => skip columns
  | _ => skip literalText

/-- An option of a copy with separated values, behind `CSV`. -/
def valuesOption : Reading Unit := do
  match ← expectOneOf ["HEADER", "QUOTE", "ESCAPE", "FORCE"] with
  | "HEADER" => pure ()
  | "FORCE" =>
      if !(← keywords? ["NOT", "NULL"]) then expectKeyword "QUOTE"
      skip (commaList ident)
  | _ =>
      let _ ← keyword? "AS"
      character

/-- An option of a copy outside of a list. -/
def looseCopyOption : Reading Unit := do
  match ← expectOneOf ["BINARY", "DELIMITER", "NULL", "CSV"] with
  | "BINARY" => pure ()
  | "DELIMITER" =>
      let _ ← keyword? "AS"
      character
  | "NULL" =>
      let _ ← keyword? "AS"
      skip literalText
  | _ => skip (whileSome (attempt valuesOption) (← remaining))

/-- A copy between a table and a file, behind `COPY`.  Rows that stand in the text itself follow a
semicolon and take the rest of it. -/
def copying (r : Rules) : Reading Unit := do
  let fromQuery ← mark? "("
  if fromQuery then
    skip r.query
    expectMark ")"
  else
    skip name
    skip columns?
  let direction ← expectOneOf ["FROM", "TO"]
  if fromQuery && direction == "FROM" then failure
  let target ← oneOf? ["STDIN", "STDOUT", "PROGRAM"]
  if target.isNone || target == some "PROGRAM" then skip literalText
  let _ ← keyword? "WITH"
  if ← mark? "(" then
    skip (commaList copyOption)
    expectMark ")"
  skip (whileSome (attempt looseCopyOption) (← remaining))
  if target == some "STDIN" then
    expectMark ";"
    modify fun _ => []

/-- A query whose results are written away, behind `UNLOAD`. -/
def unloading (r : Rules) : Reading Unit := do
  skip (inParens r.query)
  expectKeyword "TO"
  skip ident
  if ← keyword? "WITH" then options r

/-! ### Databases and calls -/

/-- A database that is made known, behind `ATTACH`. -/
def attaching (r : Rules) : Reading Unit := do
  let _ ← keyword? "DATABASE"
  skip r.anyExpr
  expectKeyword "AS"
  skip ident

/-- A database that is no longer known, behind `DETACH`. -/
def detaching : Reading Unit := do
  let _ ← keyword? "DATABASE"
  let _ ← keywords? ["IF", "EXISTS"]
  skip ident

/-- A call of a procedure, behind `CALL`. -/
def calling (r : Rules) : Reading Unit := do
  let n ← name
  if (← peek) == some (.mark "(") then skip (call r n)

/-- The end of a session's work, behind `KILL`. -/
def killing : Reading Unit := do
  let _ ← oneOf? ["CONNECTION", "QUERY", "MUTATION"]
  skip count

/-- A claim that is to hold, behind `ASSERT`. -/
def asserting (r : Rules) : Reading Unit := do
  skip r.anyExpr
  clause "AS" r.anyExpr

/-- The reader of what follows the first keyword of a command, if that keyword opens one. -/
def command? (r : Rules) (k : String) : Option (Reading Unit) :=
  match k with
  | "DELETE" => some (deletion r)
  | "INSERT" | "REPLACE" => some (skip (insertion r k))
  | "UPDATE" => some (skip (change r))
  | "MERGE" => some (merging r)
  | "CREATE" => some (creation r)
  | "ALTER" => some (alteration r)
  | "DROP" => some (dropping r)
  | "TRUNCATE" => some (truncation r)
  | "BEGIN" => some do
      let _ ← oneOf? ["DEFERRED", "IMMEDIATE", "EXCLUSIVE"]
      let _ ← oneOf? ["TRANSACTION", "WORK"]
      transactionModes
  | "START" => some do
      expectKeyword "TRANSACTION"
      transactionModes
  | "COMMIT" | "END" => some transactionEnd
  | "ROLLBACK" => some rollback
  | "SAVEPOINT" => some (skip ident)
  | "RELEASE" => some do
      let _ ← keyword? "SAVEPOINT"
      skip ident
  | "GRANT" => some grant
  | "REVOKE" => some revocation
  | "DECLARE" => some (cursor r)
  | "FETCH" => some fetching
  | "CLOSE" => some do
      if !(← keyword? "ALL") then skip ident
  | "SET" => some (setting r)
  | "SHOW" => some (listing r)
  | "USE" => some (skip name)
  | "PRAGMA" => some pragma
  | "DISCARD" => some (skip (expectOneOf ["ALL", "PLANS", "SEQUENCES", "TEMP", "TEMPORARY"]))
  | "ANALYZE" => some (analysis r)
  | "MSCK" => some repair
  | "OPTIMIZE" => some (optimization r)
  | "CACHE" => some (caching r)
  | "UNCACHE" => some do
      expectKeyword "TABLE"
      let _ ← keywords? ["IF", "EXISTS"]
      skip name
  | "FLUSH" => some flushing
  | "COPY" => some (copying r)
  | "UNLOAD" => some (unloading r)
  | "ATTACH" => some (attaching r)
  | "DETACH" => some detaching
  | "CALL" => some (calling r)
  | "KILL" => some killing
  | "ASSERT" => some (asserting r)
  | "DEALLOCATE" => some do
      let _ ← keyword? "PREPARE"
      skip ident
  | "EXECUTE" => some do
      skip ident
      if (← peek) == some (.mark "(") then skip (inParens (exprItems r))
  | "INSTALL" | "LOAD" => some (skip ident)
  | _ => none

end DocAccess.Query.Reading
