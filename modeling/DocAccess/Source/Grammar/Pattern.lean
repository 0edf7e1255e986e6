import DocAccess.Source.Grammar.Type

/-!
# Patterns
-/

namespace DocAccess.Source

open Reading

/-- Whether an alternative of a pattern follows. -/
def atAlternative (ts : List Tree) : Bool :=
  atMarks "|" ts && !atMarks "||" ts && !atMarks "|=" ts

/-- The number of a field: decimal digits, perhaps with underscores between them. -/
def isFieldNumber (text : String) : Bool :=
  match text.toList with
  | c :: rest =>
      c.isDigit && rest.all (fun c => c.isDigit || c == '_')
        && Nat.ofDigitChars 10 ((c :: rest).filter (· != '_')) 0 < UInt32.size
  | [] => false

/-- A field by name or number; gives whether it has a name. -/
def member : Reading Bool := do
  if ← look atIdentifier then
    discard identifier
    return true
  else
    match ← next with
    | .literal (.number text) => if isFieldNumber text then return false else failure
    | _ => failure

/-- The marks between the bounds of a range; gives whether the end belongs to it. -/
def rangeMarks (obsolete : Bool) : Reading Bool := do
  if ← marks? "..=" then return true
  else if ← look (atMarks "...") then
    if obsolete then
      marks "..."
      return true
    else failure
  else
    marks ".."
    return false

namespace Rules

variable (r : Rules)

/-- A pattern with alternatives, perhaps after a leading mark; gives the form of a lone one. -/
def patterns (leading : Bool) : Reading PatternForm := do
  let lead ← if leading then marks? "|" else pure false
  let first ← r.pattern
  if lead || (← look atAlternative) then
    whileAt atAlternative do
      marks "|"
      discard r.pattern
    return .other
  else return first

/-- The bound of a range, if there is one. -/
def rangeBound? : Reading Bool := do
  let atStop (ts : List Tree) : Bool :=
    atEnd ts || atMarks "|" ts || atMarks "=" ts || atColon ts || atMarks "," ts || atMarks ";" ts
      || atWord "if" ts
  if ← look atStop then return false
  else if ← look atLiteral then
    discard literal
    return true
  else if ← look (fun ts => atIdentifier ts || atMarks "::" ts || atMarks "<" ts || atPathWord ts) then
    discard (r.qualifiedPath true)
    return true
  else if ← word? "const" then
    r.block
    return true
  else failure

/-- The rest of a range behind its start. -/
def rangeRest : Reading PatternForm := do
  let closed ← rangeMarks true
  if ← r.rangeBound? then return .other
  else if closed then failure
  else return .halfRange

/-- The field of a structure pattern. -/
def fieldPattern : Reading Unit := do
  let boxed ← word? "box"
  let byRef ← word? "ref"
  let mutable ← word? "mut"
  if boxed || byRef || mutable then discard identifier
  else
    let named ← member
    if !named || (← look (atMarks ":")) then
      marks ":"
      discard (r.patterns true)

/-- The fields of a structure pattern, given a bound on their number. -/
def fieldPatternsFrom : Nat → Reading Unit
  | 0 => failure
  | fuel + 1 => do
      if ← look atEnd then return ()
      r.outerAttributes
      if ← marks? ".." then return ()
      r.fieldPattern
      if ← look atEnd then return ()
      marks ","
      fieldPatternsFrom fuel

/-- A pattern that starts with a path. -/
def pathPattern : Reading PatternForm := do
  let (qualified, form) ← r.qualifiedPath true
  if !qualified && !form.anyAngled && (← look fun ts => atMarks "!" ts && !atMarks "!=" ts) then
    marks "!"
    discard anyGroup
    return .other
  else if ← look (atGroup .brace) then
    inGroup .brace do
      r.fieldPatternsFrom ((← remaining) + 1)
    return .other
  else if ← look (atGroup .paren) then
    inGroup .paren (commaList (discard (r.patterns true)))
    return .other
  else if ← look (atMarks "..") then r.rangeRest
  else return .other

/-- Patterns in parentheses. -/
def groupedPattern : Reading PatternForm := do
  inGroup .paren (commaList (discard (r.patterns true)))
  return .other

/-- Patterns in square brackets, of which none is a range without a bound. -/
def slicePattern : Reading PatternForm := do
  inGroup .bracket (commaList do if (← r.patterns true) == .halfRange then failure)
  return .other

/-- A name with an optional pattern behind it. -/
def namePattern : Reading PatternForm := do
  discard (word? "ref")
  discard (word? "mut")
  identifierOr ["self"]
  if ← marks? "@" then discard r.pattern
  return .other

/-- A pattern at this level of the grammar. -/
def patternHere : Reading PatternForm := do
  let atPath (ts : List Tree) : Bool :=
    (atIdentifier ts && second (fun ts => atMarks "::" ts || atMarks "!" ts || atGroup .brace ts
        || atGroup .paren ts || atMarks ".." ts) ts)
      || (atWord "self" ts && second (atMarks "::") ts) || atMarks "::" ts || atMarks "<" ts
      || atOneOf ["Self", "super", "crate"] ts
  if ← look atPath then r.pathPattern
  else if ← word? "_" then return .other
  else if ← word? "box" then
    discard r.pattern
    return .other
  else if ← look (fun ts => atMarks "-" ts || atLiteral ts || atWord "const" ts) then
    if ← r.rangeBound? then
      if ← look (atMarks "..") then r.rangeRest else return .other
    else failure
  else if ← look (fun ts => atOneOf ["ref", "mut", "self"] ts || atIdentifier ts) then r.namePattern
  else if ← marks? "&" then
    discard (word? "mut")
    discard r.pattern
    return .other
  else if ← look (atGroup .paren) then r.groupedPattern
  else if ← look (atGroup .bracket) then r.slicePattern
  else if ← look (fun ts => atMarks ".." ts && !atMarks "..." ts) then
    let closed ← rangeMarks false
    if ← r.rangeBound? then return .halfRange
    else if closed then failure
    else return .rest
  else failure

end Rules

end DocAccess.Source
