import DocAccess.Query.Expr
import DocAccess.Query.Keyword

/-!
# Reading tokens

Readers take tokens off the front of a list and may fail.  The grammar is recursive through
expressions and queries only, and a guard counts these recursions down, so the two recursive
readers reach the others as a record `Rules`.
-/

namespace DocAccess.Query

/-- A reader of tokens. -/
abbrev Reading := StateT (List Token) Option

namespace Reading

/-- The readers that the grammar recurs through. -/
structure Rules where
  /-- An expression whose operators bind tighter than a precedence. -/
  expr : Nat → Reading Expr
  query : Reading QueryForm
  /-- An expression that relates a row to the row above it. -/
  related : Reading Expr
  /-- Whether such an expression is being read, so that `PRIOR` is an operator. -/
  hierarchical : Bool

/-- Rules that read nothing: the recursion limit is reached. -/
def Rules.closed (hierarchical : Bool) : Rules := ⟨fun _ => failure, failure, failure, hierarchical⟩

/-- An expression with any operators. -/
def Rules.anyExpr (r : Rules) : Reading Expr := r.expr 0

/-! ### Tokens -/

/-- The next token, if there is one, without taking it. -/
def peek : Reading (Option Token) := fun ts => some (ts.head?, ts)

/-- The token at a distance, without taking any. -/
def peekAt (n : Nat) : Reading (Option Token) := fun ts => some (ts[n]?, ts)

/-- Takes a token. -/
def next : Reading Token
  | [] => none
  | t :: ts => some (t, ts)

/-- The number of tokens left. -/
def remaining : Reading Nat := fun ts => some (ts.length, ts)

/-- Runs a reader; a failure takes no token. -/
def attempt {α : Type} (p : Reading α) : Reading (Option α) := fun ts =>
  match p ts with
  | some (a, rest) => some (some a, rest)
  | none => some (none, ts)

/-- The keyword that a token may stand for. -/
def keywordOf : Token → String
  | .word _ keyword => keyword
  | _ => ""

/-- The keyword at a distance, or nothing. -/
def peekKeyword (n : Nat) : Reading String := fun ts => some ((ts[n]?.map keywordOf).getD "", ts)

/-- Takes a keyword if it is next. -/
def keyword? (k : String) : Reading Bool
  | t :: ts => if keywordOf t == k then some (true, ts) else some (false, t :: ts)
  | [] => some (false, [])

/-- Takes a run of keywords if it is next. -/
def keywords? (ks : List String) : Reading Bool := fun ts =>
  if (ts.take ks.length).map keywordOf == ks then some (true, ts.drop ks.length)
  else some (false, ts)

/-- Takes one of some keywords if it is next. -/
def oneOf? (ks : List String) : Reading (Option String)
  | t :: ts => if ks.contains (keywordOf t) then some (some (keywordOf t), ts) else some (none, t :: ts)
  | [] => some (none, [])

/-- Takes a keyword or fails. -/
def expectKeyword (k : String) : Reading Unit := do
  if !(← keyword? k) then failure

/-- Takes a run of keywords or fails. -/
def expectKeywords (ks : List String) : Reading Unit := do
  if !(← keywords? ks) then failure

/-- Takes one of some keywords or fails. -/
def expectOneOf (ks : List String) : Reading String := do
  match ← oneOf? ks with
  | some k => return k
  | none => failure

/-- Takes a mark if it is next. -/
def mark? (m : String) : Reading Bool
  | t :: ts => if t == .mark m then some (true, ts) else some (false, t :: ts)
  | [] => some (false, [])

/-- Takes a mark or fails. -/
def expectMark (m : String) : Reading Unit := do
  if !(← mark? m) then failure

/-- Takes something under a condition; nothing is taken where the condition fails. -/
def onlyIf (condition : Bool) (p : Reading Bool) : Reading Bool :=
  if condition then p else return false

/-- Takes the first of two alternatives that is next. -/
def either? (p q : Reading Bool) : Reading Bool := do
  if ← p then return true else q

/-! ### Lists -/

/-- Items with commas between them, given a bound on their number. -/
def commaListFrom {α : Type} (item : Reading α) : Nat → Reading (List α)
  | 0 => failure
  | fuel + 1 => do
      let first ← item
      if ← mark? "," then
        let rest ← commaListFrom item fuel
        return first :: rest
      else return [first]

/-- One or more items with commas between them. -/
def commaList {α : Type} (item : Reading α) : Reading (List α) := do
  commaListFrom item ((← remaining) + 1)

/-- Items with commas between them, none if the closing mark is next. -/
def commaListUntil {α : Type} (closing : String) (item : Reading α) : Reading (List α) := do
  if (← peek) == some (.mark closing) then return [] else commaList item

/-- An item in parentheses. -/
def inParens {α : Type} (item : Reading α) : Reading α := do
  expectMark "("
  let a ← item
  expectMark ")"
  return a

/-- Repeats a reader while it finds something, given a bound. -/
def whileSome {α : Type} (item : Reading (Option α)) : Nat → Reading (List α)
  | 0 => return []
  | fuel + 1 => do
      match ← item with
      | some a => return a :: (← whileSome item fuel)
      | none => return []

/-! ### Names and small literals -/

/-- An identifier: a word or a quoted string. -/
def ident : Reading Ident := do
  match ← next with
  | .word i _ => return i
  | .string .single text => return ⟨text, some '\''⟩
  | _ => failure

/-- The parts of a dotted name, given a bound on their number. -/
def namePartsFrom : Nat → Reading (List Ident)
  | 0 => failure
  | fuel + 1 => do
      let first ← ident
      if ← mark? "." then return first :: (← namePartsFrom fuel) else return [first]

/-- A dotted name. -/
def name : Reading (List Ident) := do
  namePartsFrom ((← remaining) + 1)

/-- The display of a dotted name. -/
def nameText : Reading String := do
  return displayName (← name)

/-- A whole number of at most 64 bits, by its display. -/
def count : Reading String := do
  match ← next with
  | .number text _ =>
      if text.toList.all Char.isDigit && !text.isEmpty then
        let n := Nat.ofDigitChars 10 text.toList 0
        if n < UInt64.size then return toString n else failure
      else failure
  | _ => failure

/-- The text of a string literal, for which a plain word may stand too. -/
def literalText : Reading String := do
  match ← next with
  | .word i keyword => if isPlainWord keyword then return i.text else failure
  | .string .single text => return text
  | .string .escaped text => return text
  | .string .unicode text => return text
  | _ => failure

/-- A literal value. -/
def literal : Reading Literal := do
  match ← next with
  | .word i keyword =>
      if keyword == "TRUE" then return .boolean true
      else if keyword == "FALSE" then return .boolean false
      else if keyword == "NULL" then return .null
      else if i.quote == some '"' then return .doubleQuoted i.text
      else failure
  | .number text long => return .number text long
  | .string .single text => return .string text
  | .string form text => return .other (form.display text)
  | .placeholder text => return .placeholder text
  | .mark m =>
      if m == ":" || m == "@" then
        match ← next with
        | .word i _ => return .placeholder (m ++ i.text)
        | .number text false => return .placeholder (m ++ text)
        | _ => failure
      else failure
  | .stray _ => failure

/-- A parenthesised list of identifiers, by its display; `none` if no parenthesis is next. -/
def columns? : Reading (Option String) := do
  if (← peek) == some (.mark "(") then
    let names ← inParens (commaList ident)
    return some (commaJoined (names.map Ident.display))
  else return none

/-- A parenthesised list of identifiers, by its display. -/
def columns : Reading String := do
  match ← columns? with
  | some text => return text
  | none => failure

/-- An alias, unless the next word is reserved and `AS` is not in front of it. -/
def alias? (reserved : List String) : Reading (Option Ident) := do
  let afterAs ← keyword? "AS"
  match ← peek with
  | some (.word i keyword) =>
      if afterAs || !reserved.contains keyword then
        let _ ← next
        return some i
      else return none
  | some (.string .single text) =>
      let _ ← next
      return some ⟨text, some '\''⟩
  | _ => if afterAs then failure else return none

end Reading

end DocAccess.Query
