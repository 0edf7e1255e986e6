import DocAccess.Source.Grammar.Pattern

/-!
# Expressions

Operands are joined by operators of ascending precedence.  Where a block follows, as behind `if`, a
structure literal may not end an expression.
-/

namespace DocAccess.Source

open Reading

/-- How tightly an operator binds. -/
inductive Precedence where
  | lowest
  | assign
  | range
  | or
  | and
  | binding
  | compare
  | bitOr
  | bitXor
  | bitAnd
  | shift
  | sum
  | product
  | cast
  deriving DecidableEq

/-- The rank of a precedence. -/
def Precedence.rank : Precedence → Nat
  | lowest => 0
  | assign => 1
  | range => 2
  | or => 3
  | and => 4
  | binding => 5
  | compare => 6
  | bitOr => 7
  | bitXor => 8
  | bitAnd => 9
  | shift => 10
  | sum => 11
  | product => 12
  | cast => 13

/-- The binary operators in the order in which they are tried. -/
def binaryOperators : List (String × Precedence) :=
  [("+=", .assign), ("-=", .assign), ("*=", .assign), ("/=", .assign), ("%=", .assign),
    ("^=", .assign), ("&=", .assign), ("|=", .assign), ("<<=", .assign), (">>=", .assign),
    ("&&", .and), ("||", .or), ("<<", .shift), (">>", .shift), ("==", .compare), ("<=", .compare),
    ("!=", .compare), (">=", .compare), ("+", .sum), ("-", .sum), ("*", .product), ("/", .product),
    ("%", .product), ("^", .bitXor), ("&", .bitAnd), ("|", .bitOr), ("<", .compare),
    (">", .compare)]

/-- The binary operator that is next. -/
def operatorAt? (ts : List Tree) : Option (String × Precedence) :=
  binaryOperators.find? fun (text, _) => atMarks text ts

/-- Whether an assignment is next. -/
def atAssign (ts : List Tree) : Bool := atMarks "=" ts && !atMarks "=>" ts

/-- The precedence of what is next. -/
def precedenceAt (ts : List Tree) : Precedence :=
  match operatorAt? ts with
  | some (_, precedence) => precedence
  | none =>
      if atAssign ts then .assign
      else if atMarks ".." ts then .range
      else if atWord "as" ts then .cast
      else .lowest

/-- Whether an expression may start here. -/
def atExpression (ts : List Tree) : Bool :=
  atAnyWord ts || atGroup .paren ts || atGroup .bracket ts || atGroup .brace ts || atLiteral ts
    || (atMarks "!" ts && !atMarks "!=" ts)
    || (atMarks "-" ts && !atMarks "-=" ts && !atMarks "->" ts)
    || (atMarks "*" ts && !atMarks "*=" ts) || (atMarks "|" ts && !atMarks "|=" ts)
    || (atMarks "&" ts && !atMarks "&=" ts) || atMarks ".." ts
    || (atMarks "<" ts && !atMarks "<=" ts && !atMarks "<<=" ts) || atMarks "::" ts
    || atLifetime ts || atMarks "#" ts

/-- Whether bound lifetimes of a closure are next. -/
def atBoundLifetimes (ts : List Tree) : Bool :=
  atWord "for" ts && second (atMarks "<") ts && third (fun ts => atLifetime ts || atMarks ">" ts) ts

namespace Rules

variable (r : Rules)

/-! ### Operators -/

/-- Whether a range ends here without an upper bound. -/
def atRangeEnd (allowStruct : Bool) (ts : List Tree) : Bool :=
  atEnd ts || atMarks "," ts || atMarks ";" ts || atDot ts || atMarks "?" ts || atMarks "=>" ts
    || (!allowStruct && atGroup .brace ts) || atMarks "=" ts || atMarks "+" ts || atMarks "/" ts
    || atMarks "%" ts || atMarks "^" ts || atMarks ">" ts || atMarks "<=" ts || atMarks "!=" ts
    || atMarks "-=" ts || atMarks "*=" ts || atMarks "&=" ts || atMarks "|=" ts
    || atMarks "<<=" ts || atWord "as" ts

/-- Whether what follows a cast is no part of it. -/
def atCastTrailer (ts : List Tree) : Bool :=
  atDot ts || atMarks "?" ts || atGroup .bracket ts || atGroup .paren ts

mutual

/-- Operators and operands behind the expression `left` while they bind as tightly as `base`. -/
def operatorsFrom (allowStruct : Bool) : Nat → ExprForm → Precedence → Reading ExprForm
  | 0, _, _ => failure
  | fuel + 1, left, base => do
      if left == .range then return left
      match ← (fun ts => some (operatorAt? ts, ts) : Reading (Option (String × Precedence))) with
      | some (text, precedence) =>
          if precedence.rank < base.rank then return left
          else if precedence == .compare && left == .comparison then failure
          else
            marks text
            rightSide allowStruct fuel precedence
            operatorsFrom allowStruct fuel
              (if precedence == .compare then .comparison else .other) base
      | none =>
          if base.rank ≤ Precedence.assign.rank && (← look atAssign) then
            marks "="
            rightSide allowStruct fuel .assign
            operatorsFrom allowStruct fuel .other base
          else if base.rank ≤ Precedence.range.rank && (← look (atMarks "..")) then
            let closed ← rangeMarks false
            if closed || !(← look (atRangeEnd allowStruct)) then rightSide allowStruct fuel .range
            return .range
          else if base.rank ≤ Precedence.cast.rank && (← look (atWord "as")) then
            word "as"
            discard (r.type false)
            if ← look atCastTrailer then failure
            operatorsFrom allowStruct fuel .other base
          else return left

/-- What stands to the right of an operator. -/
def rightSide (allowStruct : Bool) : Nat → Precedence → Reading Unit
  | 0, _ => failure
  | fuel + 1, precedence => do
      let form ← r.operand allowStruct
      rightSideFrom allowStruct fuel precedence form

/-- Tighter operators to the right of an operator. -/
def rightSideFrom (allowStruct : Bool) : Nat → Precedence → ExprForm → Reading Unit
  | 0, _, _ => failure
  | fuel + 1, precedence, form => do
      let following ← (fun ts => some (precedenceAt ts, ts) : Reading Precedence)
      if following.rank > precedence.rank || (following == precedence && precedence == .assign) then
        let before ← remaining
        let form ← operatorsFrom allowStruct fuel form following
        if (← remaining) == before then return () else rightSideFrom allowStruct fuel precedence form
      else return ()

end

/-- Operators and operands behind an expression. -/
def operators (allowStruct : Bool) (left : ExprForm) (base : Precedence) : Reading ExprForm := do
  r.operatorsFrom allowStruct (3 * (← remaining) + 3) left base

/-- An expression at this level of the grammar. -/
def exprHere (allowStruct : Bool) : Reading ExprForm := do
  r.operators allowStruct (← r.operand allowStruct) .lowest

/-! ### Calls, fields and indices -/

/-- Arguments of a call. -/
def callExpressions : Reading Unit := inGroup .paren (commaList (discard (r.expr true)))

/-- A number behind a dot with a dot of its own stands for two fields; gives whether a field name
is still to come. -/
def fieldNumbers? : Reading (Option Bool) := fun ts =>
  match ts with
  | .literal (.number text) :: rest =>
      if text.toList.contains '.' then
        let parts := text.splitOn "."
        let trailing := parts.getLast? == some ""
        let parts := if trailing then parts.dropLast else parts
        if parts.all isFieldNumber then some (some trailing, rest) else none
      else some (none, ts)
  | _ => some (none, ts)

/-- What follows a dot. -/
def behindDot : Reading Unit := do
  if (← fieldNumbers?) == some false then return ()
  else if ← word? "await" then return ()
  else
    let named ← member
    let turbofish ← look fun ts => named && atMarks "::" ts
    if turbofish then
      marks "::"
      r.angled
      r.callExpressions
    else if named && (← look (atGroup .paren)) then r.callExpressions

/-- Calls, fields, indices and question marks behind an expression. -/
def trailersFrom : Nat → ExprForm → Reading ExprForm
  | 0, _ => failure
  | fuel + 1, form => do
      if ← look (atGroup .paren) then
        r.callExpressions
        trailersFrom fuel .other
      else if form != .range && (← look atDot) then
        marks "."
        r.behindDot
        trailersFrom fuel .other
      else if ← look (atGroup .bracket) then
        inGroup .bracket (discard (r.expr true))
        trailersFrom fuel .other
      else if ← onlyIf (form != .range) (marks? "?") then trailersFrom fuel .other
      else return form

/-- Calls, fields, indices and question marks behind an expression. -/
def trailers (form : ExprForm) : Reading ExprForm := do
  r.trailersFrom ((← remaining) + 1) form

/-! ### Control flow -/

/-- A condition with its block and further branches, given a bound on their number. -/
def ifFrom : Nat → Reading Unit
  | 0 => failure
  | fuel + 1 => do
      word "if"
      discard (r.expr false)
      r.block
      if ← word? "else" then
        if ← look (atWord "if") then ifFrom fuel else r.block

/-- An arm of a match. -/
def arm : Reading Unit := do
  r.outerAttributes
  discard (r.patterns true)
  if ← word? "if" then discard (r.expr true)
  marks "=>"
  let body ← r.statement
  if body != .block && !(← look atEnd) then marks "," else discard (marks? ",")

/-- A label in front of a loop or block, if there is one. -/
def label? : Reading Unit := do
  if ← take? atLifetime 1 then marks ":"

/-- An expression that ends with a block: a branch, a loop or a block itself. -/
def blockExpression : Reading Unit := do
  label?
  if ← look (atWord "if") then r.ifFrom ((← remaining) + 1)
  else if ← word? "while" then
    discard (r.expr false)
    r.block
  else if ← word? "for" then
    discard (r.patterns true)
    word "in"
    discard (r.expr false)
    r.block
  else if ← word? "loop" then r.block
  else if ← word? "match" then
    discard (r.expr false)
    inGroup .brace do
      r.innerAttributes
      untilEnd r.arm
  else
    discard (take? (atOneOf ["try", "unsafe", "const"]) 1)
    r.block

/-- Whether an expression that ends with a block is next and goes first. -/
def atBlockExpression (ts : List Tree) : Bool :=
  atOneOf ["if", "while", "loop", "match", "unsafe"] ts
    || (atWord "for" ts && !atBoundLifetimes ts)
    || (atOneOf ["try", "const"] ts && second (atGroup .brace) ts) || atGroup .brace ts
    || atLifetime ts

/-- A loop or block behind its label. -/
def labelled : Reading Unit := do
  if ← look (fun ts => atLifetime ts && third (fun ts =>
      atOneOf ["while", "for", "loop"] ts || atGroup .brace ts) ts) then r.blockExpression
  else failure

/-! ### Closures, structures and groups -/

/-- A closure. -/
def closure (allowStruct : Bool) : Reading Unit := do
  discard r.boundLifetimes?
  for name in ["const", "static", "async", "move"] do
    discard (word? name)
  marks "|"
  separated (atMarks "|") "," do
    r.outerAttributes
    discard r.pattern
    if ← marks? ":" then discard (r.type true)
  marks "|"
  if ← marks? "->" then
    discard (r.type true)
    r.block
  else discard (r.expr allowStruct)

/-- The fields of a structure literal, given a bound on their number. -/
def fieldValuesFrom : Nat → Reading Unit
  | 0 => failure
  | fuel + 1 => do
      if ← look atEnd then return ()
      if ← marks? ".." then
        if ← look atEnd then return () else discard (r.expr true)
      else
        r.outerAttributes
        let named ← member
        if !named || (← look (atMarks ":")) then
          marks ":"
          discard (r.expr true)
        if ← look atEnd then return ()
        marks ","
        fieldValuesFrom fuel

/-- An expression that starts with a path. -/
def pathExpression (allowStruct : Bool) : Reading ExprForm := do
  let (qualified, form) ← r.qualifiedPath true
  if !qualified && !form.anyAngled && (← look fun ts => atMarks "!" ts && !atMarks "!=" ts) then
    marks "!"
    return .invocation (← anyGroup)
  else if allowStruct && (← look (atGroup .brace)) then
    inGroup .brace do
      r.fieldValuesFrom ((← remaining) + 1)
    return .other
  else return .other

/-- An array, or an element and how often it is repeated. -/
def array : Reading Unit := inGroup .bracket do
  if ← look atEnd then return ()
  discard (r.expr true)
  if ← marks? ";" then discard (r.expr true)
  else if ← look atEnd then return ()
  else
    marks ","
    commaList (discard (r.expr true))

/-- An operand of a jump, if there is one. -/
def jumpOperand? : Reading Unit := do
  if ← look atExpression then discard (r.expr true)

/-- The rest of a break. -/
def behindBreak (allowStruct : Bool) : Reading Unit := do
  if ← look (fun ts => atLifetime ts && second (atMarks ":") ts) then failure
  discard (take? atLifetime 1)
  if ← look (fun ts => atExpression ts && (allowStruct || !atGroup .brace ts)) then
    discard (r.expr true)

/-- A pattern that an expression is tested against. -/
def letExpression (allowStruct : Bool) : Reading Unit := do
  discard (r.patterns true)
  marks "="
  discard (r.operators allowStruct (← r.operand allowStruct) .compare)

/-- Whether a closure is next. -/
def atClosure (ts : List Tree) : Bool :=
  atMarks "|" ts || atOneOf ["move", "static"] ts || atBoundLifetimes ts
    || (atWord "const" ts && !second (atGroup .brace) ts)
    || (atWord "async" ts && second (fun ts => atMarks "|" ts || atWord "move" ts) ts)

/-- An operand without marks in front or behind. -/
def atom (allowStruct : Bool) : Reading ExprForm := do
  let other (p : Reading Unit) : Reading ExprForm := do
    p
    return .other
  let atAsync (ts : List Tree) : Bool :=
    atWord "async" ts && (second (atGroup .brace) ts
      || (second (atWord "move") ts && third (atGroup .brace) ts))
  let atPath (ts : List Tree) : Bool :=
    atIdentifier ts || atMarks "::" ts || atMarks "<" ts || atPathWord ts
      || (atWord "try" ts && second (fun ts => atMarks "!" ts || atMarks "::" ts) ts)
  if ← look atLiteral then literal
  else if ← look atAsync then other do
    word "async"
    discard (word? "move")
    r.block
  else if ← look (fun ts => atWord "try" ts && second (atGroup .brace) ts) then
    r.blockExpression
    return .block
  else if ← look atClosure then other (r.closure allowStruct)
  else if ← look atPath then r.pathExpression allowStruct
  else if ← look (atGroup .paren) then other (inGroup .paren (commaList (discard (r.expr true))))
  else if ← word? "break" then other (r.behindBreak allowStruct)
  else if ← word? "continue" then other (discard (take? atLifetime 1))
  else if ← take? (atOneOf ["return", "become", "yield"]) 1 then other r.jumpOperand?
  else if ← look (atGroup .bracket) then other r.array
  else if ← word? "let" then other (r.letExpression allowStruct)
  else if ← look (fun ts => atBlockExpression ts && !atLifetime ts) then
    r.blockExpression
    return .block
  else if ← look (atMarks "..") then
    let closed ← rangeMarks false
    if closed || !(← look (atRangeEnd allowStruct)) then
      r.rightSide allowStruct (3 * (← remaining) + 3) .range
    return .range
  else if ← word? "_" then return .other
  else if ← look atLifetime then
    r.labelled
    return .block
  else failure

/-- An operand at this level of the grammar. -/
def operandHere (allowStruct : Bool) : Reading ExprForm := do
  let attributed ← look (atMarks "#")
  r.outerAttributes
  if ← marks? "&" then
    let atRaw (ts : List Tree) : Bool :=
      atWord "raw" ts && second (atOneOf ["mut", "const"]) ts
    if !(← take? atRaw 2) then discard (word? "mut")
    discard (r.operand allowStruct)
    return .other
  else if ← take? (fun ts => atMarks "*" ts || atMarks "!" ts || atMarks "-" ts) 1 then
    discard (r.operand allowStruct)
    return .other
  else
    let form ← r.trailers (← r.atom allowStruct)
    if attributed && form == .range then failure
    return form

/-- An expression at this level of the grammar that ends with its block if it starts with one and
no field, call or question mark follows. -/
def statementHere : Reading ExprForm := do
  r.outerAttributes
  if ← look (fun ts => atBlockExpression ts) then
    if ← look atLifetime then r.labelled else r.blockExpression
    if ← look (fun ts => atDot ts || atMarks "?" ts) then
      r.operators true (← r.trailers .block) .lowest
    else return .block
  else
    let form ← r.operand true
    if form == .block then return .block else r.operators true form .lowest

end Rules

end DocAccess.Source
