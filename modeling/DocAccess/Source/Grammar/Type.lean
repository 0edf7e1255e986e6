import DocAccess.Source.Grammar.Path

/-!
# Types and generic parameters
-/

namespace DocAccess.Source

open Reading

namespace Rules

variable (r : Rules)

/-! ### Type arguments -/

/-- A constant as a type argument. -/
def constantArgument : Reading Unit := do
  if ← look atLiteral then discard literal else r.block

/-- What stands between the angle brackets of a path: a lifetime, a constant, a type, or an
associated name with its type, constant or bounds. -/
def argumentHere : Reading Unit := do
  let atConstant (ts : List Tree) : Bool := atLiteral ts || atGroup .brace ts
  if ← look (fun ts => atLifetime ts && !second (atMarks "+") ts) then lifetime
  else if ← look atConstant then r.constantArgument
  else
    let form ← r.type true
    if form == .path true then
      if ← marks? "=" then
        if ← look atConstant then r.constantArgument else discard (r.type true)
      else if ← marks? ":" then r.boundsUntil fun ts => atMarks "," ts || atMarks ">" ts

/-! ### Functions as types -/

/-- The linkage of a function, if it is given. -/
def linkage? : Reading Unit := do
  if ← word? "extern" then discard (take? atString 1)

/-- What a function gives, if it is written. -/
def returnType (plus : Bool) : Reading Unit := do
  if ← marks? "->" then discard (r.type plus)

/-- An argument of a function type. -/
def functionArgument (allowSelf : Bool) : Reading Unit := do
  r.outerAttributes
  let atSelf (ts : List Tree) : Bool := allowSelf && atWord "self" ts
  let mutSelf ← look (fun ts => allowSelf && atWord "mut" ts && second (atWord "self") ts)
  if mutSelf then word "mut"
  let atName (ts : List Tree) : Bool :=
    (atIdentifier ts || atWord "_" ts || atSelf ts) && second atColon ts
  if ← look atName then
    anyWord
    marks ":"
    discard (r.type true)
  else if mutSelf then word "self"
  else discard (r.type true)

/-- The arguments of a function type, given a bound on their number. -/
def functionArgumentsFrom : Nat → Bool → Reading Unit
  | 0, _ => failure
  | fuel + 1, isFirst => do
      if ← look atEnd then return ()
      r.outerAttributes
      let atVariadic (ts : List Tree) : Bool :=
        atMarks "..." ts || ((atIdentifier ts || atWord "_" ts)
          && second (fun ts => atMarks ":" ts && second (atMarks "...") ts) ts)
      if ← look atVariadic then
        if !(← marks? "...") then
          anyWord
          marks ":"
          marks "..."
        discard (marks? ",")
      else
        r.functionArgument isFirst
        if ← look atEnd then return ()
        marks ","
        functionArgumentsFrom fuel false

/-- A function as a type. -/
def functionType : Reading Unit := do
  discard (word? "unsafe")
  linkage?
  word "fn"
  inGroup .paren do
    r.functionArgumentsFrom ((← remaining) + 1) true
  r.returnType false

/-! ### Types -/

/-- Takes further bounds behind plus signs. -/
def plusBounds : Reading Unit := whileAt (atMarks "+") do
  marks "+"
  discard (r.bound false)

/-- A type in parentheses or a tuple of types, and what may follow. -/
def groupedType (plus : Bool) : Reading TypeForm := do
  let inside : Reading (Option TypeForm × Bool) := do
    if ← look atEnd then return (none, false)
    else if ← look atLifetime then
      discard (r.traitBounds true false)
      return (none, false)
    else if ← look (atMarks "?") then
      r.traitBound
      return (none, true)
    else
      let first ← r.type true
      if ← marks? "," then
        commaList (discard (r.type true))
        return (none, false)
      else return (some first, false)
  match ← inGroup .paren inside with
  | (_, true) =>
      r.plusBounds
      return .bounds false
  | (some form, _) =>
      let joins := match form with
        | .path _ => true
        | .bounds lone => lone
        | _ => false
      if plus && joins && (← look (atMarks "+")) then
        r.plusBounds
        return .bounds false
      else return .paren
  | (none, _) => return .other

/-- Further call-like arguments and segments behind a type path; gives whether a call is last. -/
def calledPathFrom : Nat → PathForm → Reading Bool
  | 0, _ => failure
  | fuel + 1, form => do
      if !form.angled && (← look atCallArguments) then
        discard (marks? "::")
        match ← r.callArguments with
        | none | some .paren =>
            let form ← r.restOfPath false { form with angled := true }
            calledPathFrom fuel form
        | _ => return true
      else return false

/-- A type that starts with a path. -/
def pathType (plus bound : Bool) : Reading TypeForm := do
  let (qualified, form) ← r.qualifiedPath false
  let calls ← look fun ts => !form.angled && atCallArguments ts
  discard (r.calledPathFrom ((← remaining) + 1) form)
  if qualified then return .other
  else if !form.anyAngled && !calls && (← look fun ts => atMarks "!" ts && !atMarks "!=" ts) then
    marks "!"
    discard anyGroup
    return .other
  else if bound || (plus && (← look (atMarks "+"))) then
    let more : Reading Bool := do
      if ← onlyIf plus (marks? "+") then
        if ← look atMoreBounds then
          discard (r.bound false)
          return true
        else return false
      else return false
    let alone ← look (fun ts => !(plus && atMarks "+" ts))
    repeatWhile more
    return .bounds alone
  else return .path (form.size == 1 && !form.absolute && !calls)

/-- A type at this level of the grammar. -/
def typeHere (plus : Bool) : Reading TypeForm := do
  let bound ← r.boundLifetimes?
  let atFunction : List Tree → Bool := atOneOf ["fn", "unsafe", "extern"]
  let atPath (ts : List Tree) : Bool :=
    atIdentifier ts || atPathWord ts || atMarks "::" ts || atMarks "<" ts
  if bound && !(← look fun ts => atIdentifier ts || atPathWord ts || atFunction ts) then failure
  if ← look (atGroup .paren) then r.groupedType plus
  else if ← look atFunction then
    r.functionType
    return .other
  else if ← look atPath then r.pathType plus bound
  else if ← word? "dyn" then
    discard (marks? "*")
    discard (r.traitBounds plus false)
    return .other
  else if ← look (atGroup .bracket) then
    inGroup .bracket do
      discard (r.type true)
      if ← marks? ";" then discard (r.expr true)
    return .other
  else if ← marks? "*" then
    expect (atOneOf ["const", "mut"]) 1
    discard (r.type false)
    return .other
  else if ← marks? "&" then
    discard (take? atLifetime 1)
    discard (word? "mut")
    discard (r.type false)
    return .other
  else if ← marks? "!" then return .other
  else if ← word? "impl" then
    discard (r.traitBounds plus true)
    return .other
  else if ← word? "_" then return .other
  else if ← look atLifetime then
    return .bounds (← r.traitBounds true false)
  else failure

/-! ### Generic parameters -/

/-- A parameter: a lifetime, a constant or a type. -/
def genericParameter : Reading Unit := do
  r.outerAttributes
  let atStop (ts : List Tree) : Bool := atMarks "," ts || atMarks ">" ts
  if ← take? atLifetime 1 then
    if ← marks? ":" then summed atStop lifetime
  else if ← word? "const" then
    discard identifier
    marks ":"
    discard (r.type true)
    if ← marks? "=" then
      if ← look (fun ts => atLiteral ts || atGroup .brace ts) then r.constantArgument
      else discard identifier
  else if ← word? "_" then return ()
  else
    discard identifier
    if ← marks? ":" then r.boundsUntil fun ts => atEnd ts || atStop ts || atMarks "=" ts
    if ← marks? "=" then discard (r.type true)

/-- Generic parameters, if there are any; gives whether there are. -/
def generics? : Reading Bool := do
  if ← marks? "<" then
    separated (atMarks ">") "," r.genericParameter
    marks ">"
    return true
  else return false

/-- A condition on generic parameters. -/
def wherePredicate : Reading Unit := do
  let atStop (ts : List Tree) : Bool :=
    atEnd ts || atGroup .brace ts || atMarks "," ts || atMarks ";" ts || atMarks "=" ts
  if ← look (fun ts => atLifetime ts && second (atMarks ":") ts) then
    lifetime
    marks ":"
    summed (fun ts => atStop ts || atMarks ":" ts) lifetime
  else
    discard r.boundLifetimes?
    discard (r.type true)
    marks ":"
    r.boundsUntil fun ts => atStop ts || atColon ts

/-- Conditions on generic parameters, if there are any; gives whether there are. -/
def where? : Reading Bool := do
  if ← word? "where" then
    repeatWhile do
      let atStop (ts : List Tree) : Bool :=
        atEnd ts || atGroup .brace ts || atMarks "," ts || atMarks ";" ts || atColon ts
          || atMarks "=" ts
      if ← look atStop then return false
      else
        r.wherePredicate
        marks? ","
    return true
  else return false

end Rules

end DocAccess.Source
