import DocAccess.Query.Grammar.Mutation

/-!
# Selections and queries

A query is a body with what orders and limits its results.  The recursion of the grammar is closed
here: `rules` builds the readers of expressions and queries level by level, one level for every
recursion that is still allowed.
-/

namespace DocAccess.Query.Reading

/-! ### Clauses of a selection -/

/-- Whether rows are kept apart. -/
def distinctText (r : Rules) : Reading String := do
  let all ← keyword? "ALL"
  if ← keyword? "DISTINCT" then
    if all then failure
    if ← keyword? "ON" then
      expectMark "("
      let items ← commaListUntil ")" r.anyExpr
      expectMark ")"
      return " DISTINCT ON (" ++ displayExprs items ++ ")"
    else return " DISTINCT"
  else return ""

/-- A limit in front of the items. -/
def topText (r : Rules) : Reading String := do
  if ← keyword? "TOP" then
    let quantity ← if (← peek) == some (.mark "(") then pure ("(" ++ (← inParens r.anyExpr).display ++ ")")
      else count
    let percent := if ← keyword? "PERCENT" then " PERCENT" else ""
    let ties := if ← keywords? ["WITH", "TIES"] then " WITH TIES" else ""
    return " TOP " ++ quantity ++ percent ++ ties
  else return ""

/-- Where the rows are written. -/
def intoText : Reading String := do
  if ← keyword? "INTO" then
    let temporary := if (← oneOf? ["TEMP", "TEMPORARY"]).isSome then " TEMPORARY" else ""
    let unlogged := if ← keyword? "UNLOGGED" then " UNLOGGED" else ""
    let table := if ← keyword? "TABLE" then " TABLE" else ""
    return " INTO" ++ temporary ++ unlogged ++ table ++ " " ++ (← nameText)
  else return ""

/-- A clause with an expression, if its keyword is next. -/
def exprClause (r : Rules) (k : String) : Reading String := do
  if ← keyword? k then return " " ++ k ++ " " ++ (← r.anyExpr).display else return ""

/-- A clause with expressions, if its two keywords are next. -/
def listClause (r : Rules) (k : String) : Reading String := do
  if ← keywords? [k, "BY"] then return " " ++ k ++ " BY " ++ (← exprItems r) else return ""

/-- A view beside the sources. -/
def lateralView? (r : Rules) : Reading (Option String) := do
  if ← keywords? ["LATERAL", "VIEW"] then
    let outer := if ← keyword? "OUTER" then " OUTER" else ""
    let e ← r.anyExpr
    let n ← nameText
    let names ← commaList (alias? ["WHERE", "GROUP", "CLUSTER", "HAVING", "LATERAL"])
    let names := (names.filterMap id).map Ident.display
    return some (" LATERAL VIEW" ++ outer ++ " " ++ e.display ++ " " ++ n ++
      (if names.isEmpty then "" else " AS " ++ commaJoined names))
  else return none

/-- Expressions in parentheses, or one without. -/
def grouping (r : Rules) : Reading String := do
  if (← peek) == some (.mark "(") then
    expectMark "("
    let items ← commaListUntil ")" r.anyExpr
    expectMark ")"
    return "(" ++ displayExprs items ++ ")"
  else return "(" ++ (← r.anyExpr).display ++ ")"

/-- An expression that rows are grouped by. -/
def groupItem (r : Rules) : Reading String := do
  if ← keywords? ["GROUPING", "SETS"] then
    return "GROUPING SETS (" ++ commaJoined (← inParens (commaList (grouping r))) ++ ")"
  else if let some k ← oneOf? ["CUBE", "ROLLUP"] then
    return k ++ " (" ++ commaJoined (← inParens (commaList (grouping r))) ++ ")"
  else
    match (← peekAt 0), (← peekAt 1) with
    | some (.mark "("), some (.mark ")") =>
        let _ ← next
        let _ ← next
        return "()"
    | _, _ => return (← r.anyExpr).display

/-- The grouping of rows. -/
def groupClause (r : Rules) : Reading String := do
  if ← keywords? ["GROUP", "BY"] then
    let items ← if ← keyword? "ALL" then pure "ALL" else pure (commaJoined (← commaList (groupItem r)))
    let modifiers ← whileSome
      (do if ← keyword? "WITH" then return some (" WITH " ++ (← expectOneOf ["ROLLUP", "CUBE", "TOTALS"]))
          else return none)
      (← remaining)
    return " GROUP BY " ++ items ++ String.join modifiers
  else return ""

/-- Named windows. -/
def windowClause (r : Rules) : Reading String := do
  if ← keyword? "WINDOW" then
    let items ← commaList do
      let i ← ident
      expectKeyword "AS"
      if ← mark? "(" then return i.display ++ " AS (" ++ (← windowSpec r) ++ ")"
      else return i.display ++ " AS " ++ (← ident).display
    return " WINDOW " ++ commaJoined items
  else return ""

/-- Named windows and a condition on them, in any order. -/
def qualifyClause (r : Rules) : Reading String := do
  let windows ← windowClause r
  let condition ← exprClause r "QUALIFY"
  if windows == "" then return condition ++ (← windowClause r) else return windows ++ condition

/-- A hierarchy of rows. -/
def hierarchyClause (r : Rules) : Reading String := do
  if ← keywords? ["CONNECT", "BY"] then
    let relations ← commaList r.related
    expectKeywords ["START", "WITH"]
    return " START WITH " ++ (← r.anyExpr).display ++ " CONNECT BY " ++ displayExprs relations
  else if ← keyword? "START" then
    expectKeyword "WITH"
    let condition ← r.anyExpr
    expectKeywords ["CONNECT", "BY"]
    return " START WITH " ++ condition.display ++ " CONNECT BY " ++
      displayExprs (← commaList r.related)
  else if ← keyword? "CONNECT" then failure
  else return ""

/-- A selection behind `SELECT`. -/
def selection (r : Rules) : Reading (Body × String) := do
  let distinct ← distinctText r
  let top ← topText r
  let items ← commaList (selectItem r)
  let into ← intoText
  let sources ← if ← keyword? "FROM" then commaList (joinedSource r) else pure []
  let views ← whileSome (lateralView? r) (← remaining)
  let prewhere ← exprClause r "PREWHERE"
  let condition ← if ← keyword? "WHERE" then
    let e ← r.anyExpr
    pure (some e)
  else pure none
  let group ← groupClause r
  let cluster ← listClause r "CLUSTER"
  let distribute ← listClause r "DISTRIBUTE"
  let sort ← listClause r "SORT"
  let having ← exprClause r "HAVING"
  let qualify ← qualifyClause r
  let hierarchy ← hierarchyClause r
  let display := "SELECT" ++ distinct ++ top ++ " " ++ commaJoined (items.map Item.display) ++ into ++
    (if sources.isEmpty then "" else " FROM " ++ commaJoined (sources.map Joined.display)) ++
    String.join views ++ prewhere ++
    ((condition.map fun e => " WHERE " ++ e.display).getD "") ++
    group ++ cluster ++ distribute ++ sort ++ having ++ qualify ++ hierarchy
  return (.select items sources condition, display)

/-! ### Bodies -/

/-- How a set operation treats equal rows. -/
def setQuantifier (operator : String) : Reading String := do
  if operator == "UNION" then
    if ← keywords? ["DISTINCT", "BY", "NAME"] then return " DISTINCT BY NAME"
    else if ← keywords? ["BY", "NAME"] then return " BY NAME"
    else if ← keywords? ["ALL", "BY", "NAME"] then return " ALL BY NAME"
    else return spaced (← oneOf? ["ALL", "DISTINCT"])
  else return spaced (← oneOf? ["ALL", "DISTINCT"])

mutual

/-- A body whose set operations bind tighter than `floor`, given a bound on their number. -/
def bodyFrom (r : Rules) (floor : Nat) : Nat → Reading (Body × String)
  | 0 => failure
  | fuel + 1 => do
      let first ← if ← keyword? "SELECT" then selection r
        else
          if (← peek) == some (.mark "(") then
            let q ← inParens r.query
            pure (.other, "(" ++ q.display ++ ")")
          else
            if ← keyword? "VALUES" then
              let rows ← valueRows r
              pure (.other, rows)
            else
              expectKeyword "TABLE"
              let n ← nameText
              pure (.other, "TABLE " ++ n)
      setOperations r floor fuel first

/-- Set operations behind a body. -/
def setOperations (r : Rules) (floor : Nat) : Nat → Body × String → Reading (Body × String)
  | 0, left => return left
  | fuel + 1, left => do
      let k ← peekKeyword 0
      let p := if k == "UNION" || k == "EXCEPT" then 10 else if k == "INTERSECT" then 20 else 0
      if floor ≥ p then return left
      else
        let _ ← next
        let quantifier ← setQuantifier k
        let (_, right) ← bodyFrom r p fuel
        setOperations r floor fuel (.other, left.2 ++ " " ++ k ++ quantifier ++ " " ++ right)

end

/-! ### Queries -/

/-- A named query in front of the others. -/
def namedQuery (r : Rules) : Reading String := do
  let i ← ident
  let names ← if (← peekKeyword 0) == "AS" then pure "" else
    match ← columns? with
    | some text => pure (" (" ++ text ++ ")")
    | none => pure ""
  expectKeyword "AS"
  let q ← inParens r.query
  let source ← if ← keyword? "FROM" then pure (" FROM " ++ (← ident).display) else pure ""
  return i.display ++ names ++ " AS (" ++ q.display ++ ")" ++ source

/-- The named queries in front of a query. -/
def withClause (r : Rules) : Reading String := do
  if ← keyword? "WITH" then
    let recursive := if ← keyword? "RECURSIVE" then "RECURSIVE " else ""
    return "WITH " ++ recursive ++ commaJoined (← commaList (namedQuery r)) ++ " "
  else return ""

/-- The order of the results. -/
def orderClause (r : Rules) : Reading String := do
  if ← keywords? ["ORDER", "BY"] then
    let items ← orderItems r
    let interpolate ← if ← keyword? "INTERPOLATE" then
      if ← mark? "(" then
        let columns ← commaListUntil ")" do
          let i ← ident
          if ← keyword? "AS" then return i.display ++ " AS " ++ (← r.anyExpr).display
          else return i.display
        expectMark ")"
        pure (if columns.isEmpty then " INTERPOLATE" else " INTERPOLATE (" ++ commaJoined columns ++ ")")
      else pure " INTERPOLATE"
    else pure ""
    return " ORDER BY " ++ items ++ interpolate
  else return ""

/-- A limit and an offset, each still open or already read. -/
structure Bounds where
  limit : Option String
  offset : Option String

/-- Reads a limit, an offset, or a pair of them. -/
def bounds (r : Rules) (b : Bounds) : Reading Bounds := do
  let limit ← if ← onlyIf b.limit.isNone (keyword? "LIMIT") then
    if ← keyword? "ALL" then pure none else pure (some (← r.anyExpr).display)
  else pure b.limit
  let offset ← if ← onlyIf b.offset.isNone (keyword? "OFFSET") then
    let e ← r.anyExpr
    pure (some (e.display ++ spaced (← oneOf? ["ROW", "ROWS"])))
  else pure b.offset
  if limit.isSome && offset.isNone then
    if ← mark? "," then return ⟨some (← r.anyExpr).display, limit⟩
    else return ⟨limit, offset⟩
  else return ⟨limit, offset⟩

/-- A limit behind `FETCH`. -/
def fetchClause : Reading String := do
  if ← keyword? "FETCH" then
    let _ ← expectOneOf ["FIRST", "NEXT"]
    let quantity ← if (← oneOf? ["ROW", "ROWS"]).isSome then pure ""
      else
        let q ← literal
        let percent := if ← keyword? "PERCENT" then " PERCENT" else ""
        let _ ← expectOneOf ["ROW", "ROWS"]
        pure (" " ++ q.display ++ percent)
    if ← keyword? "ONLY" then return " FETCH FIRST" ++ quantity ++ " ROWS ONLY"
    else
      expectKeywords ["WITH", "TIES"]
      return " FETCH FIRST" ++ quantity ++ " ROWS WITH TIES"
  else return ""

/-- A text in parentheses between quotes, if a parenthesis is next. -/
def quotedName? : Reading String := do
  if (← peek) == some (.mark "(") then return "('" ++ (← inParens literalText) ++ "')" else return ""

/-- The options of an output form that stand behind commas, in the order of `order`; a word that
is no option is left where it is. -/
def outputOptions (option? : Reading (Option (String × String))) (order : List String) :
    Reading String := do
  let found ← whileSome (do if ← mark? "," then return some (← option?) else return none)
    (← remaining)
  let found := (found.filterMap id).reverse
  return String.join (order.filterMap fun k => (found.find? (·.1 == k)).map (", " ++ ·.2))

/-- The root of an output form, behind `ROOT`. -/
def rootOption : Reading (Option (String × String)) := do
  return some ("ROOT", "ROOT('" ++ (← inParens literalText) ++ "')")

/-- Output as markup, behind `XML`. -/
def markupForm : Reading String := do
  let k ← expectOneOf ["RAW", "AUTO", "EXPLICIT", "PATH"]
  let element ← if k == "RAW" || k == "PATH" then quotedName? else pure ""
  let options ← outputOptions (do
    match ← oneOf? ["ELEMENTS", "BINARY", "ROOT", "TYPE"] with
    | some "BINARY" =>
        expectKeyword "BASE64"
        return some ("BINARY", "BINARY BASE64")
    | some "ROOT" => rootOption
    | some k => return some (k, k)
    | none => return none) ["BINARY", "TYPE", "ROOT", "ELEMENTS"]
  return "XML " ++ k ++ element ++ options

/-- Output as documents, behind `JSON`. -/
def documentForm : Reading String := do
  let k ← expectOneOf ["AUTO", "PATH"]
  let options ← outputOptions (do
    match ← oneOf? ["ROOT", "INCLUDE_NULL_VALUES", "WITHOUT_ARRAY_WRAPPER"] with
    | some "ROOT" => rootOption
    | some k => return some (k, k)
    | none => return none) ["ROOT", "INCLUDE_NULL_VALUES", "WITHOUT_ARRAY_WRAPPER"]
  return "JSON " ++ k ++ options

/-- A lock, behind `FOR`. -/
def lock : Reading String := do
  let k ← expectOneOf ["UPDATE", "SHARE"]
  let target ← if ← keyword? "OF" then pure (" OF " ++ (← nameText)) else pure ""
  let wait ← if ← keyword? "NOWAIT" then pure " NOWAIT"
    else
      if ← keywords? ["SKIP", "LOCKED"] then pure " SKIP LOCKED" else pure ""
  return k ++ target ++ wait

/-- Locks, or an output form that ends them, each behind `FOR`, given a bound on their number. -/
def forClauses : Nat → Reading String
  | 0 => return ""
  | fuel + 1 => do
      if ← keyword? "FOR" then
        if ← keyword? "XML" then return " FOR " ++ (← markupForm)
        else if ← keyword? "JSON" then return " FOR " ++ (← documentForm)
        else if ← keyword? "BROWSE" then return " FOR BROWSE"
        else
          let first ← lock
          return " FOR " ++ first ++ (← forClauses fuel)
      else return ""

/-- The form of the output. -/
def formatClause : Reading String := do
  if ← keyword? "FORMAT" then
    if ← keyword? "NULL" then return " FORMAT NULL" else return " FORMAT " ++ (← ident).display
  else return ""

/-- A query whose body is a selection or is built from selections, behind its named queries. -/
def selecting (r : Rules) (named : String) : Reading QueryForm := do
  let (body, display) ← bodyFrom r 0 ((← remaining) + 1)
  let order ← orderClause r
  let first ← bounds r ⟨none, none⟩
  let b ← bounds r first
  let limitBy ← if ← keyword? "BY" then pure (" BY " ++ (← exprItems r)) else pure ""
  let settings ← settings?
  let fetch ← fetchClause
  let locks ← forClauses (← remaining)
  let format ← formatClause
  let limit := (b.limit.map (" LIMIT " ++ ·)).getD ""
  let offset := (b.offset.map (" OFFSET " ++ ·)).getD ""
  return ⟨body, named ++ display ++ order ++ limit ++ offset ++ limitBy ++ settings ++ fetch ++
    locks ++ format⟩

/-- A query.  Its body may also be an insertion or a change, behind which nothing else follows. -/
def query (r : Rules) : Reading QueryForm := do
  let named ← withClause r
  if ← keyword? "INSERT" then return ⟨.other, named ++ (← insertion r "INSERT")⟩
  else if ← keyword? "UPDATE" then return ⟨.other, named ++ (← change r)⟩
  else selecting r named

/-! ### Closing the recursion -/

/-- The readers of expressions and queries when so many recursions are still allowed: outside and
inside of an expression that relates a row to the row above it. -/
def rulesPair : Nat → Rules × Rules
  | 0 => (Rules.closed false, Rules.closed true)
  | depth + 1 =>
      let (flat, tree) := rulesPair depth
      (⟨expr flat, query flat, expr tree 0, false⟩, ⟨expr tree, query tree, expr tree 0, true⟩)

/-- The readers of expressions and queries when so many recursions are still allowed. -/
def rules (depth : Nat) : Rules := (rulesPair depth).1

end DocAccess.Query.Reading
