import DocAccess.Query.Grammar.Source

/-!
# Projections

The items that a selection gives, and that a change may give back.
-/

namespace DocAccess.Query.Reading

/-- A name and the name it is given. -/
def renamed : Reading String := do
  let i ← ident
  let _ ← keyword? "AS"
  return i.display ++ " AS " ++ (← ident).display

/-- Items in parentheses, or a single one without. -/
def someOrOne (item : Reading String) : Reading String := do
  if (← peek) == some (.mark "(") then return "(" ++ commaJoined (← inParens (commaList item)) ++ ")"
  else item

/-- What narrows a star. -/
def starOptions (r : Rules) : Reading String := do
  let identText : Reading String := do return (← ident).display
  let ilike ← if ← keyword? "ILIKE" then
    match ← next with
    | .string .single text => pure (" ILIKE " ++ quotedWith '\'' text)
    | _ => failure
  else
    if ← keyword? "EXCLUDE" then pure (" EXCLUDE " ++ (← someOrOne identText)) else pure ""
  let except ← if ← keyword? "EXCEPT" then
    if (← peek) == some (.mark "(") then pure (" EXCEPT (" ++ (← columns) ++ ")")
    else pure (" EXCEPT (" ++ (← identText) ++ ")")
  else pure ""
  let replace ← if ← keyword? "REPLACE" then
    let items ← inParens (commaList do
      let e ← r.anyExpr
      let middle := if ← keyword? "AS" then " AS " else " "
      return e.display ++ middle ++ (← ident).display)
    pure (" REPLACE (" ++ commaJoined items ++ ")")
  else pure ""
  let rename ← if ← keyword? "RENAME" then pure (" RENAME " ++ (← someOrOne renamed)) else pure ""
  return ilike ++ except ++ replace ++ rename

/-- One selected item. -/
def selectItem (r : Rules) : Reading Item := do
  match ← star? with
  | some .all => return .star (← starOptions r)
  | some (.qualified parts) => return .other ((Star.qualified parts).display ++ (← starOptions r))
  | none =>
      match ← r.anyExpr with
      | .name ⟨text, none⟩ =>
          if String.ofList (Text.lower text.toList) == "from" then failure
          else return .other (text ++ (← aliasText))
      | e => return .other (e.display ++ (← aliasText))
where
  /-- The alias of an item. -/
  aliasText : Reading String := do
    match ← alias? reservedForColumn with
    | some i => return " AS " ++ i.display
    | none => return ""

end DocAccess.Query.Reading
