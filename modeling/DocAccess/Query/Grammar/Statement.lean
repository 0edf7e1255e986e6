import DocAccess.Query.Grammar.Command

/-!
# Statements

A text is a list of statements with semicolons between them.  Queries are read in full; of the
other statements only it matters whether they are well-formed.
-/

namespace DocAccess.Query.Reading

/-- The recursions that the grammar allows in one statement. -/
def recursionLimit : Nat := 50

/-- Keywords that open an explanation. -/
def explanations : List String := ["EXPLAIN", "DESCRIBE", "DESC"]

/-- What an explanation explains, given the reader of statements: a statement that is no
explanation itself, or a table. -/
def explained (statement : Reading Statement) : Reading Unit := do
  let _ ← keyword? "ANALYZE"
  let _ ← keyword? "VERBOSE"
  if ← keyword? "FORMAT" then skip (expectOneOf ["TEXT", "JSON", "GRAPHVIZ"])
  let k ← peekKeyword 0
  match ← attempt statement with
  | some _ => if explanations.contains k then failure
  | none =>
      let _ ← oneOf? ["EXTENDED", "FORMATTED"]
      let _ ← keyword? "TABLE"
      skip name

/-- A statement that is given a name, behind `PREPARE`, given the reader of statements. -/
def prepared (statement : Reading Statement) : Reading Unit := do
  skip ident
  if (← peek) == some (.mark "(") then skip (inParens (commaList dataType))
  expectKeyword "AS"
  skip statement

/-- A statement, given a bound on the nesting of explanations. -/
def statementFrom (r : Rules) : Nat → Reading Statement
  | 0 => failure
  | fuel + 1 => do
      let k ← peekKeyword 0
      if (← peek) == some (.mark "(") || ["SELECT", "WITH", "VALUES"].contains k then
        return .query (← r.query)
      else
        let _ ← next
        if explanations.contains k then explained (statementFrom r fuel)
        else if k == "PREPARE" then prepared (statementFrom r fuel)
        else match command? r k with
          | some p => p
          | none => failure
        return .other

/-- A statement. -/
def statement : Reading Statement := do
  statementFrom (rules (recursionLimit - 1)) ((← remaining) + 1)

/-- Skips semicolons. -/
def skipSemicolons : List Token → List Token
  | t :: ts => if t == .mark ";" then skipSemicolons ts else t :: ts
  | [] => []

/-- The statements up to the end of the text, given a bound on their number.  A statement that
starts with `END` ends the list if no semicolon stands in front of it. -/
def statementsFrom : Nat → List Token → Option (List Statement)
  | 0, _ => none
  | fuel + 1, ts =>
      match skipSemicolons ts with
      | [] => some []
      | ts => do
          let (first, rest) ← statement ts
          match rest with
          | [] => return [first]
          | t :: _ =>
              if t == .mark ";" then return first :: (← statementsFrom fuel rest)
              else if keywordOf t == "END" then return [first]
              else failure

end Reading

/-- The statements of a text, or `none` where it does not follow the grammar. -/
def statements? (tokens : List Token) : Option (List Statement) :=
  Reading.statementsFrom (tokens.length + 1) tokens

end DocAccess.Query
