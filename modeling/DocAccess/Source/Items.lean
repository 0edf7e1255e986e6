import DocAccess.Source.Grammar.Item
import DocAccess.Source.Lexer
import DocAccess.Text.Name

/-!
# Names, paths and items of source texts

What is asked of a source text: whether it is an identifier or a path, and which items a file holds.
-/

namespace DocAccess.Source

open Reading

mutual

/-- The number of trees of a tree, itself included. -/
def Tree.size : Tree → Nat
  | .group _ trees => sizeOfTrees trees + 1
  | _ => 1

/-- The number of trees of a list, at any depth. -/
def sizeOfTrees : List Tree → Nat
  | [] => 0
  | t :: ts => t.size + sizeOfTrees ts

end

/-- What a reader makes of a whole text. -/
def readText? {α : Type} (reader : Rules → Reading α) (text : String) : Option α := do
  let trees ← trees? text
  match reader (rules (sizeOfTrees trees + 1)) trees with
  | some (a, []) => some a
  | _ => none

/-- Whether a text is an identifier; blanks and comments around it do not matter. -/
def isIdentifier (text : String) : Bool := (readText? (fun _ => identifier) text).isSome

/-- Whether a text is a path, perhaps with type arguments. -/
def isPath (text : String) : Bool := (readText? (fun r => r.path false) text).isSome

/-- Whether a text is the name of a type: an identifier that an uppercase ASCII letter opens. -/
def isTypeName (text : String) : Bool :=
  isIdentifier text && (text.toList.head?.map Char.isUpper).getD false

/-- Whether a text is a lowercase name that is no keyword. -/
def isModuleName (text : String) : Bool := Text.isLowercaseName text && isIdentifier text

/-! ### Files -/

/-- The text behind the line that names an interpreter, if it is there. -/
def skipInterpreter (cs : List Char) : List Char :=
  match behind? "#!" cs with
  | some rest =>
      if begins "[" (skipGapsFrom rest.length rest) then cs else cs.dropWhile (· != '\n')
  | none => cs

/-- Items up to the end, given a bound on their number. -/
def itemsFrom (r : Rules) : Nat → Reading (List Item)
  | 0 => failure
  | fuel + 1 => do
      if ← look atEnd then return []
      r.outerAttributes
      let item ← r.item
      return item :: (← itemsFrom r fuel)

/-- The items of a file behind the attributes of the file itself. -/
def fileItems (r : Rules) : Reading (List Item) := do
  r.innerAttributes
  itemsFrom r ((← remaining) + 1)

/-- The items of the text of a file, or `none` if it is no source text. -/
def items? (text : String) : Option (List Item) :=
  readText? fileItems (String.ofList (skipInterpreter (skipOrderMark text.toList)))

end DocAccess.Source
