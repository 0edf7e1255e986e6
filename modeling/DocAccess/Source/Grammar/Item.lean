import DocAccess.Source.Grammar.Expression

/-!
# Statements and items
-/

namespace DocAccess.Source

open Reading

/-- How widely an item is visible. -/
inductive Visibility where
  | everyone
  | restricted
  | inherited
  deriving DecidableEq

/-- How widely an item is visible. -/
def visibility : Reading Visibility := do
  if ← word? "pub" then
    let within : Reading Unit := inGroup .paren (expect (atOneOf ["crate", "self", "super"]) 1)
    let atIn (ts : List Tree) : Bool :=
      match ts with
      | .group .paren trees :: _ => atWord "in" trees
      | _ => false
    if ← look (succeeds within) then
      within
      return .restricted
    else if ← look atIn then
      inGroup .paren do
        word "in"
        plainPath
      return .restricted
    else return .everyone
  else return .inherited

/-- Whether the signature of a function is next; `safe` allows the word of that name. -/
def atSignature (safe : Bool) (ts : List Tree) : Bool :=
  let front : Reading Unit := do
    discard (word? "const")
    discard (word? "async")
    if !(← onlyIf safe (word? "safe")) then discard (word? "unsafe")
    Rules.linkage?
    word "fn"
  succeeds front ts

/-- Whether a path of an invocation may start here. -/
def atInvocation (ts : List Tree) : Bool :=
  atIdentifier ts || atOneOf ["self", "super", "crate"] ts || atMarks "::" ts

namespace Rules

variable (r : Rules)

/-! ### Statements -/

/-- The arguments of an invocation that is a statement. -/
def invocationArguments : Reading Unit := do
  marks "!"
  discard anyGroup
  discard (marks? ";")

/-- A binding; a diverging branch may follow unless a brace ends the value. -/
def binding : Reading Unit := do
  word "let"
  discard r.pattern
  if ← marks? ":" then discard (r.type true)
  if ← marks? "=" then
    let before : List Tree ← get
    discard (r.expr true)
    let taken := before.length - (← remaining)
    let braced := match before[taken - 1]? with
      | some (.group .brace _) => true
      | _ => false
    if !braced then
      if ← word? "else" then r.block
  marks ";"

/-- Whether an invocation with braces is next as a statement of its own. -/
def atBracedInvocation (ts : List Tree) : Bool :=
  match plainPath ts with
  | some (_, rest) =>
      atMarks "!" rest && second (atGroup .brace) rest
        && !third (fun ts => atDot ts || atMarks "?" ts) rest
  | none => false

/-- Whether an invocation that defines a name is next. -/
def atDefinition (ts : List Tree) : Bool :=
  match plainPath ts with
  | some (_, rest) =>
      atMarks "!" rest && second (fun ts => atIdentifier ts || atWord "try" ts) rest
  | none => false

/-- Whether a statement is an item. -/
def atItem (ts : List Tree) : Bool :=
  atOneOf ["pub", "extern", "use", "fn", "mod", "type", "struct", "enum", "trait", "impl", "macro"] ts
    || (atWord "crate" ts && !second (atMarks "::") ts)
    || (atWord "static" ts && second (fun ts => atWord "mut" ts || atIdentifier ts) ts)
    || (atWord "const" ts && !second (fun ts => atGroup .brace ts || atWord "static" ts
        || (atWord "async" ts && !second (atOneOf ["unsafe", "extern", "fn"]) ts)
        || atWord "move" ts || atMarks "|" ts) ts)
    || (atWord "unsafe" ts && !second (atGroup .brace) ts)
    || (atWord "async" ts && second (atOneOf ["unsafe", "extern", "fn"]) ts)
    || (atWord "union" ts && second atIdentifier ts)
    || (atWord "auto" ts && second (atWord "trait") ts)
    || (atWord "default" ts && second (atOneOf ["unsafe", "impl"]) ts)
    || atDefinition ts

/-- A statement; gives whether a semicolon is missing, which only the last one may. -/
def statementOrItem : Reading Bool := do
  let start : List Tree ← get
  r.outerAttributes
  if ← look atBracedInvocation then
    plainPath
    invocationArguments
    return false
  else if ← look (atWord "let") then
    r.binding
    return false
  else if ← look atItem then
    discard r.item
    return false
  else
    set start
    let form ← r.statement
    if ← marks? ";" then return false
    else
      match form with
      | .block | .invocation true => return false
      | _ => return true

/-- Statements up to the end. -/
def statements : Reading Unit := repeatWhile do
  if ← marks? ";" then return true
  else if ← look atEnd then return false
  else if ← r.statementOrItem then
    if ← look atEnd then return false else failure
  else return true

/-- A block at this level of the grammar. -/
def blockHere : Reading Unit := inGroup .brace do
  r.innerAttributes
  r.statements

/-! ### Functions -/

/-- The receiver of a method. -/
def receiver : Reading Unit := do
  let byRef ← marks? "&"
  if byRef then discard (take? atLifetime 1)
  discard (word? "mut")
  word "self"
  if !byRef then
    if ← marks? ":" then discard (r.type true)

/-- Parameters of a function, given a bound on their number; a receiver may come first only. -/
def parametersFrom : Nat → Bool → Reading Unit
  | 0, _ => failure
  | fuel + 1, isFirst => do
      if ← look atEnd then return ()
      r.outerAttributes
      if ← marks? "..." then discard (marks? ",")
      else
        let mut variadic := false
        if (← attempt r.receiver).isSome then
          if !isFirst then failure
        else if ← look (fun ts => atIdentifier ts && second (atMarks "<") ts) then
          discard (r.type true)
        else
          discard r.pattern
          marks ":"
          if ← marks? "..." then variadic := true else discard (r.type true)
        if ← look atEnd then return ()
        marks ","
        if variadic then return () else parametersFrom fuel false

/-- The signature of a function. -/
def signature (safe : Bool) : Reading Unit := do
  discard (word? "const")
  discard (word? "async")
  if !(← onlyIf safe (word? "safe")) then discard (word? "unsafe")
  linkage?
  word "fn"
  discard identifier
  discard r.generics?
  inGroup .paren do
    r.parametersFrom ((← remaining) + 1) true
  r.returnType true
  discard r.where?

/-- A function whose body may be missing. -/
def function (safe : Bool) : Reading Unit := do
  r.signature safe
  if !(← marks? ";") then r.blockHere

/-! ### Parts of items -/

/-- The value of a constant: that of a string literal, if it is one. -/
def value : Reading (Option String) := do
  match ← r.expr true with
  | .text text => return some text
  | _ => return none

/-- A constant behind its word; one with generic parameters, conditions or no value is none. -/
def constant : Reading Item := do
  let name ← if ← word? "_" then pure "_" else identifier
  let generic ← r.generics?
  marks ":"
  discard (r.type true)
  let given ← marks? "="
  let text ← if given then r.value else pure none
  let conditional ← r.where?
  marks ";"
  return if given && !generic && !conditional then .constant name text else .other

/-- A type with an optional definition behind its word; conditions may stand in front of the
definition or behind it.  Gives its name and whether it is defined without bounds. -/
def typeDefinition (conditionsFirst : Bool) : Reading (String × Bool) := do
  word "type"
  let name ← identifier
  discard r.generics?
  let bounded ← marks? ":"
  let atStop (ts : List Tree) : Bool := atWord "where" ts || atMarks "=" ts || atMarks ";" ts
  if bounded then
    separated atStop "+" (discard (r.bound false))
  if conditionsFirst then discard r.where?
  let defined ← marks? "="
  if defined then discard (r.type true)
  if !conditionsFirst then discard r.where?
  marks ";"
  return (name, defined && !bounded)

/-- A named field of a structure. -/
def namedField : Reading Unit := do
  r.outerAttributes
  discard visibility
  identifierOr ["_"]
  marks ":"
  discard (r.type true)

/-- A field without a name. -/
def positionalField : Reading Unit := do
  r.outerAttributes
  discard visibility
  discard (r.type true)

/-- Named fields in braces. -/
def namedFields : Reading Unit := inGroup .brace (commaList r.namedField)

/-- Fields without names in parentheses. -/
def positionalFields : Reading Unit := inGroup .paren (commaList r.positionalField)

/-- What is behind the name and parameters of a structure. -/
def structureBody : Reading Unit := do
  let conditional ← r.where?
  if !conditional && (← look (atGroup .paren)) then
    r.positionalFields
    discard r.where?
    marks ";"
  else if ← look (atGroup .brace) then r.namedFields
  else marks ";"

/-- A variant of an enumeration. -/
def variant : Reading Unit := do
  r.outerAttributes
  discard visibility
  discard identifier
  if ← look (atGroup .brace) then r.namedFields
  else if ← look (atGroup .paren) then r.positionalFields
  if ← marks? "=" then discard (r.expr true)

/-- An invocation as an item; `named` allows a name in front of its arguments. -/
def invocation (named : Bool) : Reading Unit := do
  plainPath
  marks "!"
  if named then
    if !(← word? "try") then
      if ← look atIdentifier then discard identifier
  if !(← anyGroup) then marks ";"

/-- An item of a foreign block. -/
def foreignItem : Reading Unit := do
  r.outerAttributes
  let scope ← visibility
  let atStatic (ts : List Tree) : Bool :=
    atWord "static" ts || (atOneOf ["unsafe", "safe"] ts && second (atWord "static") ts)
  if ← look (atSignature true) then r.function true
  else if ← look atStatic then
    discard (take? (atOneOf ["unsafe", "safe"]) 1)
    word "static"
    discard (word? "mut")
    discard identifier
    marks ":"
    discard (r.type true)
    if ← marks? "=" then discard (r.expr true)
    marks ";"
  else if ← look (atWord "type") then discard (r.typeDefinition true)
  else if scope == .inherited && (← look atInvocation) then invocation false
  else failure

/-- An item of a trait or an implementation. -/
def memberItem : Reading Unit := do
  r.outerAttributes
  let scope ← visibility
  let byDefault ← take? (fun ts => atWord "default" ts && !second (atMarks "!") ts) 1
  if ← look (atSignature false) then r.function false
  else if ← word? "const" then discard r.constant
  else if ← look (atWord "type") then
    discard (r.typeDefinition false)
  else if scope == .inherited && !byDefault && (← look atInvocation) then invocation false
  else failure

/-- Member items in braces. -/
def memberItems : Reading Unit := inGroup .brace do
  r.innerAttributes
  untilEnd r.memberItem

/-- What is behind the name and parameters of a trait. -/
def traitBody : Reading Unit := do
  let atStop (ts : List Tree) : Bool := atWord "where" ts || atGroup .brace ts
  if ← marks? ":" then separated atStop "+" (discard (r.bound false))
  discard r.where?
  r.memberItems

/-- A trait or the alias of bounds, behind its word. -/
def traitOrAlias (aliased : Bool) : Reading Unit := do
  discard identifier
  discard r.generics?
  if ← onlyIf aliased (marks? "=") then
    separated (fun ts => atWord "where" ts || atMarks ";" ts) "+" (discard (r.bound false))
    discard r.where?
    marks ";"
  else r.traitBody

/-- Whether the angle brackets behind `impl` hold parameters and not a type. -/
def atParameters (ts : List Tree) : Bool :=
  atMarks "<" ts && (second (fun ts => atMarks ">" ts || atMarks "#" ts || atWord "const" ts) ts
    || (second (fun ts => atLifetime ts || atIdentifier ts) ts
      && third (fun ts => atMarks ">" ts || atMarks "," ts || atColon ts || atMarks "=" ts) ts))

/-- An implementation. -/
def implementation : Reading Unit := do
  discard (word? "default")
  discard (word? "unsafe")
  word "impl"
  if ← look atParameters then discard r.generics?
  if ← look (fun ts => atWord "const" ts || (atMarks "?" ts && second (atWord "const") ts)) then
    discard (marks? "?")
    word "const"
  discard (take? (fun ts => atMarks "!" ts && !second (atGroup .brace) ts) 1)
  discard (r.type true)
  if ← word? "for" then discard (r.type true)
  discard r.where?
  r.memberItems

/-! ### Imports and modules -/

/-- What an import names, given a bound on its depth; `rooted` allows absolute paths in braces. -/
def importTreeFrom : Nat → Bool → Reading Unit
  | 0, _ => failure
  | fuel + 1, rooted => do
      if ← look (fun ts => atIdentifier ts || atOneOf ["self", "super", "crate", "try"] ts) then
        anyWord
        if ← marks? "::" then importTreeFrom fuel false
        else if ← word? "as" then identifierOr ["_"]
      else if ← marks? "*" then return ()
      else inGroup .brace (commaList do
        let absolute ← if rooted then marks? "::" else pure false
        importTreeFrom fuel (rooted && !absolute))

/-- An import behind its word. -/
def importItem (bound : Nat) : Reading Unit := do
  let absolute ← marks? "::"
  importTreeFrom bound (!absolute)
  marks ";"

/-- A module behind its word. -/
def moduleItem : Reading Unit := do
  identifierOr ["try"]
  if !(← marks? ";") then
    inGroup .brace do
      r.innerAttributes
      untilEnd do
        r.outerAttributes
        discard r.item

/-- An external crate behind its words. -/
def externalCrate : Reading Unit := do
  identifierOr ["self"]
  if ← word? "as" then identifierOr ["_"]
  marks ";"

/-- A foreign block. -/
def foreignBlock : Reading Unit := do
  discard (word? "unsafe")
  linkage?
  inGroup .brace do
    r.innerAttributes
    untilEnd r.foreignItem

/-- A static behind its word. -/
def staticItem : Reading Unit := do
  discard (word? "mut")
  discard identifier
  if ← marks? "=" then discard (r.expr true)
  else
    marks ":"
    discard (r.type true)
    if ← marks? "=" then discard (r.expr true)
  marks ";"

/-- A declarative definition behind its word. -/
def declarativeItem : Reading Unit := do
  discard identifier
  discard (take? (atGroup .paren) 1)
  expect (atGroup .brace) 1

/-! ### Items -/

/-- An item at this level of the grammar, behind its attributes; `depth` bounds the depth of the
braces of an import. -/
def itemHere (depth : Nat) : Reading Item := do
  let scope ← visibility
  let other (p : Reading Unit) : Reading Item := do
    p
    return .other
  if ← look (atSignature false) then other (r.function false)
  else if ← look (fun ts => atWord "extern" ts && second (atWord "crate") ts) then other do
    word "extern"
    word "crate"
    externalCrate
  else if ← look (atWord "extern") then
    if scope == .inherited then other r.foreignBlock else failure
  else if ← word? "use" then other (importItem depth)
  else if ← word? "static" then other r.staticItem
  else if ← word? "const" then r.constant
  else if ← look (fun ts => atWord "unsafe" ts && second (fun ts => atWord "trait" ts
      || (atWord "auto" ts && second (atWord "trait") ts)) ts) then other do
    word "unsafe"
    discard (word? "auto")
    word "trait"
    r.traitOrAlias false
  else if ← look (fun ts => atWord "unsafe" ts && second (atWord "impl") ts) then
    other r.implementation
  else if ← look (fun ts => atWord "unsafe" ts && second (atWord "extern") ts) then
    if scope == .inherited then other r.foreignBlock else failure
  else if ← take? (fun ts => atWord "unsafe" ts && second (atWord "mod") ts) 2 then
    other r.moduleItem
  else if ← word? "mod" then other r.moduleItem
  else if ← look (atWord "type") then
    let (name, defined) ← r.typeDefinition true
    return if defined then .type name (scope == .everyone) else .other
  else if ← word? "struct" then
    let name ← identifier
    discard r.generics?
    r.structureBody
    return .type name (scope == .everyone)
  else if ← word? "enum" then
    let name ← identifier
    discard r.generics?
    discard r.where?
    inGroup .brace (commaList r.variant)
    return .type name (scope == .everyone)
  else if ← take? (fun ts => atWord "union" ts && second atIdentifier ts) 1 then other do
    discard identifier
    discard r.generics?
    discard r.where?
    r.namedFields
  else if ← word? "trait" then other (r.traitOrAlias true)
  else if ← take? (fun ts => atWord "auto" ts && second (atWord "trait") ts) 2 then
    other (r.traitOrAlias false)
  else if ← look (fun ts => atWord "impl" ts
      || (atWord "default" ts && !second (atMarks "!") ts)) then other r.implementation
  else if ← word? "macro" then other declarativeItem
  else if scope == .inherited && (← look atInvocation) then other (invocation true)
  else failure

end Rules

/-- The rules of the grammar down to a depth of recursion. -/
def rules : Nat → Rules
  | 0 => .closed
  | depth + 1 =>
      let r := rules depth
      ⟨r.typeHere, r.argumentHere, r.exprHere, r.statementHere, r.operandHere, r.patternHere,
        r.blockHere, r.itemHere (depth + 1)⟩

end DocAccess.Source
