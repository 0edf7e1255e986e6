import DocAccess.Query.Grammar.Expression

/-!
# Sources of a query

What may stand behind `FROM`: containers, calls, subqueries and their joins.
-/

namespace DocAccess.Query.Reading

/-- The alias of a source, if there is one. -/
def sourceAlias? : Reading (Option SourceAlias) := do
  match ← alias? reservedForSource with
  | some i => return some ⟨i, (← columns?).getD ""⟩
  | none => return none

/-- A source that is no plain container. -/
def otherFactor (front : String) : Reading Factor := do
  return ⟨none, false, front, ← sourceAlias?, ""⟩

/-- Rows of values, behind `VALUES`. -/
def valueRows (r : Rules) : Reading String := do
  let rows ← commaList do
    let start := if ← keyword? "ROW" then "ROW(" else "("
    let items ← inParens (exprItems r)
    return start ++ items ++ ")"
  return "VALUES " ++ commaJoined rows

/-- A subquery in parentheses, the first of which has been read. -/
def derived (r : Rules) (start : String) : Reading Factor := do
  let q ← r.query
  expectMark ")"
  otherFactor (start ++ "(" ++ q.display ++ ")")

/-- A call of a function that gives rows. -/
def rowsCall (r : Rules) (start : String) : Reading Factor := do
  let f ← nameText
  expectMark "("
  let (args, _) ← arguments r
  otherFactor (start ++ f ++ args.display)

/-- The settings that close the arguments of a source. -/
def settings? : Reading String := do
  if ← keyword? "SETTINGS" then
    let items ← commaList do
      let key ← ident
      expectMark "="
      return key.display ++ " = " ++ (← literal).display
    return " SETTINGS " ++ commaJoined items
  else return ""

/-- The arguments of a container, behind the opening parenthesis. -/
def containerArguments (r : Rules) : Reading String := do
  if ← mark? ")" then return "()"
  else
    let items ← commaList (argument r)
    expectMark ")"
    return "(" ++ displayArguments items ++ ")"

/-- A plain container. -/
def container (r : Rules) : Reading Factor := do
  let n ← nameText
  let partitions ← if ← keyword? "PARTITION" then pure (" PARTITION (" ++ (← columns) ++ ")")
    else pure ""
  let args ← if ← mark? "(" then containerArguments r else pure ""
  let ordinality ← if ← keywords? ["WITH", "ORDINALITY"] then pure " WITH ORDINALITY" else pure ""
  let a ← sourceAlias?
  let hints ← match (← peekKeyword 0), (← peekAt 1) with
    | "WITH", some (.mark "(") => do
        let _ ← next
        let items ← inParens (exprItems r)
        pure (" WITH (" ++ items ++ ")")
    | _, _ => pure ""
  return ⟨some n, false, n ++ partitions ++ args ++ ordinality, a, hints⟩

/-- The condition of a join. -/
def joinConstraint (r : Rules) (natural : Bool) : Reading String := do
  if natural then return ""
  else if ← keyword? "ON" then return " ON " ++ (← r.anyExpr).display
  else if ← keyword? "USING" then return " USING(" ++ (← columns) ++ ")"
  else return ""

/-- The keywords of a join whose condition may follow, by their display. -/
def joinKind? (natural : Bool) : Reading (Option String) := do
  match ← peekKeyword 0 with
  | "INNER" | "JOIN" =>
      let _ ← keyword? "INNER"
      expectKeyword "JOIN"
      return some "JOIN"
  | "FULL" =>
      let _ ← next
      let _ ← keyword? "OUTER"
      expectKeyword "JOIN"
      return some "FULL JOIN"
  | "OUTER" => failure
  | k =>
      if k == "LEFT" || k == "RIGHT" then
        let _ ← next
        match ← expectOneOf ["OUTER", "SEMI", "ANTI", "JOIN"] with
        | "JOIN" => return some (k ++ " JOIN")
        | side =>
            expectKeyword "JOIN"
            return some (if side == "OUTER" then k ++ " JOIN" else k ++ " " ++ side ++ " JOIN")
      else if natural then failure
      else return none

/-- A join behind the first source, given the reader of sources. -/
def join? (r : Rules) (factor : Reading Factor) : Reading (Option String) := do
  let global := if ← keyword? "GLOBAL" then "GLOBAL " else ""
  if ← keyword? "CROSS" then
    let k ← expectOneOf ["JOIN", "APPLY"]
    return some (" " ++ global ++ "CROSS " ++ k ++ " " ++ (← factor).display)
  else if ← keyword? "OUTER" then
    expectKeyword "APPLY"
    return some (" " ++ global ++ "OUTER APPLY " ++ (← factor).display)
  else if ← keyword? "ASOF" then
    expectKeyword "JOIN"
    let f ← factor
    expectKeyword "MATCH_CONDITION"
    let condition ← inParens r.anyExpr
    let constraint ← joinConstraint r false
    return some (" " ++ global ++ "ASOF JOIN " ++ f.display ++ " MATCH_CONDITION (" ++
      condition.display ++ ")" ++ constraint)
  else
    let natural ← keyword? "NATURAL"
    match ← joinKind? natural with
    | some kind =>
        let f ← factor
        let constraint ← joinConstraint r natural
        return some (" " ++ global ++ (if natural then "NATURAL " else "") ++ kind ++ " " ++
          f.display ++ constraint)
    | none => return none

/-- A source with its joins, given the reader of sources. -/
def joinedWith (r : Rules) (factor : Reading Factor) : Reading Joined := do
  let first ← factor
  let joins ← whileSome (join? r factor) ((← remaining) + 1)
  return ⟨first, joins⟩

/-- What stands in parentheses and is no subquery, given the reader of sources. -/
def parenthesised (r : Rules) (factor : Reading Factor) : Reading Factor := do
  let inner ← joinedWith r factor
  expectMark ")"
  let outer ← sourceAlias?
  if !inner.joins.isEmpty || inner.factor.joined then
    return ⟨none, true, "(" ++ inner.display ++ ")", outer, ""⟩
  else
    match outer, inner.factor.label with
    | none, _ => return inner.factor
    | some a, none => return { inner.factor with label := some a }
    | some _, some _ => failure

/-- An array read as rows, behind `UNNEST`. -/
def unnest (r : Rules) : Reading Factor := do
  let items ← inParens (exprItems r)
  let ordinality ← if ← keywords? ["WITH", "ORDINALITY"] then pure " WITH ORDINALITY" else pure ""
  let a ← sourceAlias?
  let offset ← if ← keywords? ["WITH", "OFFSET"] then
    match ← alias? reservedForColumn with
    | some i => pure (" WITH OFFSET AS " ++ i.display)
    | none => pure " WITH OFFSET"
  else pure ""
  return ⟨none, false, "UNNEST(" ++ items ++ ")" ++ ordinality, a, offset⟩

/-! ### Turned sources -/

/-- An expression with the name that may follow it. -/
def labelled (e : Reading Expr) : Reading String := do
  let display := (← e).display
  if ← keyword? "AS" then return display ++ " AS " ++ (← ident).display else return display

/-- An aggregate of a turned source. -/
def aggregate (r : Rules) : Reading String := labelled do
  match ← next with
  | .word i _ => call r [⟨i.text, none⟩]
  | _ => failure

/-- The values that become columns. -/
def turnedValues (r : Rules) : Reading String := do
  if ← keyword? "ANY" then
    if ← keywords? ["ORDER", "BY"] then return "ANY ORDER BY " ++ (← orderItems r) else return "ANY"
  else
    let k ← peekKeyword 0
    if k == "SELECT" || k == "WITH" then return (← r.query).display
    else return commaJoined (← commaList (labelled r.anyExpr))

/-- A source whose rows become columns, behind `PIVOT`. -/
def pivoted (r : Rules) (source : Factor) : Reading Factor := do
  let inner ← inParens do
    let aggregates ← commaList (aggregate r)
    expectKeyword "FOR"
    let column ← nameText
    expectKeyword "IN"
    let values ← inParens (turnedValues r)
    let default ← if ← keywords? ["DEFAULT", "ON", "NULL"] then
      pure (" DEFAULT ON NULL (" ++ (← inParens r.anyExpr).display ++ ")")
    else pure ""
    return commaJoined aggregates ++ " FOR " ++ column ++ " IN (" ++ values ++ ")" ++ default
  otherFactor (source.display ++ " PIVOT(" ++ inner ++ ")")

/-- A source whose columns become rows, behind `UNPIVOT`. -/
def unpivoted (source : Factor) : Reading Factor := do
  let inner ← inParens do
    let value ← ident
    expectKeyword "FOR"
    let name ← ident
    expectKeyword "IN"
    return value.display ++ " FOR " ++ name.display ++ " IN (" ++ (← columns) ++ ")"
  otherFactor (source.display ++ " UNPIVOT(" ++ inner ++ ")")

/-- Turns a source as often as it is asked for, given a bound. -/
def turned (r : Rules) : Nat → Factor → Reading Factor
  | 0, source => return source
  | fuel + 1, source => do
      match ← oneOf? ["PIVOT", "UNPIVOT"] with
      | some "PIVOT" => turned r fuel (← pivoted r source)
      | some _ => turned r fuel (← unpivoted source)
      | none => return source

/-! ### Any source -/

/-- A source, given a bound on the nesting of parentheses. -/
def factorFrom (r : Rules) : Nat → Reading Factor
  | 0 => failure
  | fuel + 1 => do
      if ← keyword? "LATERAL" then
        if ← mark? "(" then derived r "LATERAL " else rowsCall r "LATERAL "
      else if ← keyword? "TABLE" then
        let e ← inParens r.anyExpr
        otherFactor ("TABLE(" ++ e.display ++ ")")
      else if ← mark? "(" then
        match ← attempt (derived r "") with
        | some f => turned r (← remaining) f
        | none => parenthesised r (factorFrom r fuel)
      else
        match (← peekKeyword 0), (← peekAt 1) with
        | "VALUES", some (.mark "(") =>
            let _ ← next
            otherFactor ("(" ++ (← valueRows r) ++ ")")
        | "UNNEST", _ =>
            let _ ← next
            unnest r
        | _, _ => turned r (← remaining) (← container r)

/-- A source with its joins. -/
def joinedSource (r : Rules) : Reading Joined := do
  joinedWith r (factorFrom r ((← remaining) + 1))

end DocAccess.Query.Reading
