import DocAccess.Source.Reading

/-!
# Attributes, paths and bounds
-/

namespace DocAccess.Source

open Reading

/-- What a path looks like. -/
structure PathForm where
  /-- Whether the last segment has type arguments. -/
  angled : Bool
  /-- Whether any segment has type arguments. -/
  anyAngled : Bool
  /-- The number of segments. -/
  size : Nat
  absolute : Bool

/-- A path of words without type arguments. -/
def plainPath : Reading Unit := do
  discard (marks? "::")
  let atSegment (ts : List Tree) : Bool := atIdentifier ts || atPathWord ts
  expect atSegment 1
  repeatWhile do
    if ← marks? "::" then
      expect atSegment 1
      return true
    else return false

namespace Rules

variable (r : Rules)

/-! ### Attributes -/

/-- What is behind the mark of an attribute. -/
def attributeBody : Reading Unit := inGroup .bracket do
  if !(← word? "unsafe") then plainPath
  let atArguments (ts : List Tree) : Bool :=
    atGroup .paren ts || atGroup .bracket ts || atGroup .brace ts
  let lone : Reading Unit := do
    discard literal
    expect atEnd 0
  if ← take? atArguments 1 then return ()
  else if ← marks? "=" then
    if ← look (succeeds lone) then lone
    else if ← look (fun ts => atMarks "#" ts && second (atGroup .bracket) ts) then failure
    else discard (r.expr true)

/-- Attributes of what follows. -/
def outerAttributes : Reading Unit := whileAt (atMarks "#") do
  marks "#"
  r.attributeBody

/-- Attributes of what is around. -/
def innerAttributes : Reading Unit :=
  whileAt (fun ts => atMarks "#" ts && second (atMarks "!") ts) do
    marks "#"
    marks "!"
    r.attributeBody

/-! ### Paths -/

/-- Type arguments in angle brackets. -/
def angled : Reading Unit := do
  marks "<"
  separated (atMarks ">") "," r.argument
  marks ">"

/-- A segment of a path; gives whether it has type arguments.  In an expression these need a path
separator in front. -/
def segment (inExpression : Bool) : Reading Bool := do
  if ← take? (atOneOf ["super", "self", "crate", "try"]) 1 then return false
  else
    identifierOr ["Self"]
    let atAngle (ts : List Tree) : Bool :=
      (!inExpression && atMarks "<" ts && !atMarks "<=" ts && !atMarks "<<=" ts)
        || (atMarks "::" ts && third (atMarks "<") ts)
    if ← look atAngle then
      discard (marks? "::")
      r.angled
      return true
    else return false

/-- More segments behind a path, given a bound on their number. -/
def restOfPathFrom (inExpression : Bool) : Nat → PathForm → Reading PathForm
  | 0, _ => failure
  | fuel + 1, form => do
      if ← look (fun ts => atMarks "::" ts && !third (atGroup .paren) ts) then
        marks "::"
        let angled ← r.segment inExpression
        restOfPathFrom inExpression fuel
          { form with angled, anyAngled := form.anyAngled || angled, size := form.size + 1 }
      else return form

/-- More segments behind a path. -/
def restOfPath (inExpression : Bool) (form : PathForm) : Reading PathForm := do
  r.restOfPathFrom inExpression ((← remaining) + 1) form

/-- A path. -/
def path (inExpression : Bool) : Reading PathForm := do
  let absolute ← marks? "::"
  let angled ← r.segment inExpression
  r.restOfPath inExpression ⟨angled, angled, 1, absolute⟩

/-- A path that may start at a type; gives whether it does. -/
def qualifiedPath (inExpression : Bool) : Reading (Bool × PathForm) := do
  if ← marks? "<" then
    discard (r.type true)
    if ← word? "as" then discard (r.path false)
    marks ">"
    marks "::"
    let angled ← r.segment inExpression
    let rest : Reading Unit := repeatWhile do
      if ← marks? "::" then
        discard (r.segment inExpression)
        return true
      else return false
    rest
    return (true, ⟨angled, true, 2, false⟩)
  else return (false, ← r.path inExpression)

/-! ### Bounds -/

/-- Lifetimes bound by a word; gives whether it is there. -/
def boundLifetimes? : Reading Bool := do
  if ← word? "for" then
    marks "<"
    separated (atMarks ">") "," do
      r.outerAttributes
      lifetime
      if ← marks? ":" then summed (fun ts => atMarks "," ts || atMarks ">" ts) lifetime
    marks ">"
    return true
  else return false

/-- The types that a call-like path takes, and the form of the one that it gives. -/
def callArguments : Reading (Option TypeForm) := do
  inGroup .paren (commaList (discard (r.type true)))
  if ← marks? "->" then return some (← r.type false) else return none

/-- Whether a call-like argument list is next. -/
def atCallArguments (ts : List Tree) : Bool :=
  atGroup .paren ts || (atMarks "::" ts && third (atGroup .paren) ts)

/-- A bound by a trait. -/
def traitBound : Reading Unit := do
  let bound ← r.boundLifetimes?
  if ← look (atGroup .bracket) then inGroup .bracket (word "const")
  else if ← look (fun ts => atMarks "~" ts && second (atWord "const") ts) then
    marks "~"
    word "const"
  else discard (word? "const")
  let optional ← marks? "?"
  if optional && !bound then discard r.boundLifetimes?
  let form ← r.path false
  if !form.angled then
    if ← look atCallArguments then
      discard (marks? "::")
      discard r.callArguments

/-- A bound: a lifetime, captured parameters where they are allowed, or a trait; gives whether it
is a trait. -/
def bound (capture : Bool) : Reading Bool := do
  if ← take? atLifetime 1 then return false
  else if ← word? "use" then
    if !capture then failure
    marks "<"
    separated (atMarks ">") "," (do if !(← take? atLifetime 1) then identifierOr ["Self"])
    marks ">"
    return false
  else if ← look (atGroup .paren) then
    inGroup .paren r.traitBound
    return true
  else
    r.traitBound
    return true

/-- Bounds joined by plus signs up to a test. -/
def boundsUntil (stop : List Tree → Bool) : Reading Unit := summed stop (discard (r.bound false))

/-- Whether a bound may follow a plus sign. -/
def atMoreBounds (ts : List Tree) : Bool :=
  atAnyWord ts || atMarks "::" ts || atMarks "?" ts || atLifetime ts || atGroup .paren ts
    || atMarks "~" ts

/-- Bounds joined by plus signs, if these are allowed; gives their number, whether a plus sign ends
them, and whether a trait is among them. -/
def boundsFrom (plus capture : Bool) : Nat → Reading (Nat × Bool × Bool)
  | 0 => failure
  | fuel + 1 => do
      let isTrait ← r.bound capture
      if ← onlyIf plus (marks? "+") then
        if ← look atMoreBounds then
          let (size, trailing, anyTrait) ← boundsFrom plus capture fuel
          return (size + 1, trailing, isTrait || anyTrait)
        else return (1, true, isTrait)
      else return (1, false, isTrait)

/-- Bounds of which one at least is a trait; gives whether there is a lone one. -/
def traitBounds (plus capture : Bool) : Reading Bool := do
  let (size, trailing, anyTrait) ← r.boundsFrom plus capture ((← remaining) + 1)
  if anyTrait then return size == 1 && !trailing else failure

end Rules

end DocAccess.Source
