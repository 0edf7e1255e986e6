import DocAccess.Source.Token

/-!
# Reading token trees

Readers take trees off the front of a list and may fail.  The grammar recurs through types,
expressions, patterns, blocks and items, which readers reach as a record `Rules`; every recursion
takes at least one token, so the number of tokens bounds its depth.
-/

namespace DocAccess.Source

/-- A reader of token trees. -/
abbrev Reading := StateT (List Tree) Option

/-- What a type looks like, as far as its surroundings depend on it. -/
inductive TypeForm where
  /-- A path that does not start at a type; a short one is a single name without a call. -/
  | path (short : Bool)
  /-- Bounds without a keyword in front; a lone one may be joined with others. -/
  | bounds (lone : Bool)
  | paren
  | other
  deriving DecidableEq

/-- What an expression looks like, as far as its surroundings depend on it. -/
inductive ExprForm where
  | text (value : String)
  | range
  | comparison
  /-- An expression that ends with a block and is a statement of its own. -/
  | block
  | invocation (braced : Bool)
  | other
  deriving DecidableEq

/-- What a pattern looks like, as far as its surroundings depend on it. -/
inductive PatternForm where
  | rest
  /-- A range that lacks a bound. -/
  | halfRange
  | other
  deriving DecidableEq

/-- An item, as far as a model file is concerned. -/
inductive Item where
  /-- A constant with its value, if that is a string literal. -/
  | constant (name : String) (value : Option String)
  /-- A structure, an enumeration or an alias. -/
  | type (name : String) (isPublic : Bool)
  | other
  deriving DecidableEq

/-- The readers that the grammar recurs through. -/
structure Rules where
  /-- A type; the flag allows bounds joined by plus signs. -/
  type : Bool → Reading TypeForm
  /-- What stands between the angle brackets of a path. -/
  argument : Reading Unit
  /-- An expression; the flag allows a structure literal at its end. -/
  expr : Bool → Reading ExprForm
  /-- An expression that ends with its block if it starts with one. -/
  statement : Reading ExprForm
  /-- An operand with its marks in front and behind. -/
  operand : Bool → Reading ExprForm
  /-- A pattern without alternatives. -/
  pattern : Reading PatternForm
  /-- A block in braces. -/
  block : Reading Unit
  /-- An item behind its attributes. -/
  item : Reading Item

/-- Rules that read nothing. -/
def Rules.closed : Rules :=
  ⟨fun _ => failure, failure, fun _ => failure, failure, fun _ => failure, failure, failure, failure⟩

namespace Reading

/-! ### Looking at trees -/

/-- Whether a word is next. -/
def atWord (name : String) : List Tree → Bool
  | .word n raw :: _ => !raw && n == name
  | _ => false

/-- Whether one of some words is next. -/
def atOneOf (names : List String) : List Tree → Bool
  | .word n raw :: _ => !raw && names.contains n
  | _ => false

/-- Whether an identifier is next. -/
def atIdentifier : List Tree → Bool
  | t :: _ => t.isIdentifier
  | [] => false

/-- Whether any word is next. -/
def atAnyWord : List Tree → Bool
  | .word _ _ :: _ => true
  | _ => false

/-- Whether marks are next, all but the last joined to the one behind. -/
def atMarksOf : List Char → List Tree → Bool
  | [], _ => true
  | c :: cs, .mark d joint :: rest => c == d && (cs.isEmpty || (joint && atMarksOf cs rest))
  | _, _ => false

/-- Whether an operator is next; a longer one that starts with it counts too. -/
def atMarks (text : String) : List Tree → Bool := atMarksOf text.toList

/-- Whether brackets of a pair are next. -/
def atGroup (d : Delimiter) : List Tree → Bool
  | .group d' _ :: _ => d == d'
  | _ => false

/-- Whether a lifetime is next. -/
def atLifetime : List Tree → Bool
  | .lifetime _ :: _ => true
  | _ => false

/-- Whether a literal is next: true, false and numbers with a minus sign are literals too. -/
def atLiteral : List Tree → Bool
  | .literal _ :: _ => true
  | .word n raw :: _ => !raw && (n == "true" || n == "false")
  | .mark '-' _ :: .literal (.number _) :: _ => true
  | _ => false

/-- Whether a string literal is next. -/
def atString : List Tree → Bool
  | .literal (.string _) :: _ => true
  | _ => false

/-- Whether a single dot is next. -/
def atDot (ts : List Tree) : Bool := atMarks "." ts && !atMarks ".." ts

/-- Whether a single colon is next. -/
def atColon (ts : List Tree) : Bool := atMarks ":" ts && !atMarks "::" ts

/-- Whether a word that starts a path is next, other than a plain identifier. -/
def atPathWord : List Tree → Bool := atOneOf ["self", "Self", "super", "crate"]

/-- Looks at the trees without taking any. -/
def look (test : List Tree → Bool) : Reading Bool := fun ts => some (test ts, ts)

/-- Looks at the trees behind the first one. -/
def second (test : List Tree → Bool) (ts : List Tree) : Bool := test (ts.drop 1)

/-- Looks at the trees behind the first two. -/
def third (test : List Tree → Bool) (ts : List Tree) : Bool := test (ts.drop 2)

/-- Whether nothing is left. -/
def atEnd (ts : List Tree) : Bool := ts.isEmpty

/-! ### Taking trees -/

/-- Takes a tree. -/
def next : Reading Tree
  | [] => none
  | t :: ts => some (t, ts)

/-- Takes what is looked for or fails. -/
def expect (test : List Tree → Bool) (size : Nat) : Reading Unit := fun ts =>
  if test ts then some ((), ts.drop size) else none

/-- Takes what is looked for if it is next. -/
def take? (test : List Tree → Bool) (size : Nat) : Reading Bool := fun ts =>
  if test ts then some (true, ts.drop size) else some (false, ts)

/-- Takes a word or fails. -/
def word (name : String) : Reading Unit := expect (atWord name) 1

/-- Takes a word if it is next. -/
def word? (name : String) : Reading Bool := take? (atWord name) 1

/-- Takes marks or fails. -/
def marks (text : String) : Reading Unit := expect (atMarks text) text.length

/-- Takes marks if they are next. -/
def marks? (text : String) : Reading Bool := take? (atMarks text) text.length

/-- Takes something under a condition; nothing is taken where the condition fails. -/
def onlyIf (condition : Bool) (p : Reading Bool) : Reading Bool :=
  if condition then p else return false

/-- Takes a lifetime or fails. -/
def lifetime : Reading Unit := expect atLifetime 1

/-- Takes an identifier and gives its spelling. -/
def identifier : Reading String := do
  match ← next with
  | .word name raw =>
      if (Tree.word name raw).isIdentifier then return (if raw then "r#" ++ name else name)
      else failure
  | _ => failure

/-- Takes any word. -/
def anyWord : Reading Unit := expect atAnyWord 1

/-- Takes an identifier or one of some words. -/
def identifierOr (names : List String) : Reading Unit := do
  if ← take? (atOneOf names) 1 then return () else discard identifier

/-- Takes a literal. -/
def literal : Reading ExprForm := do
  match ← next with
  | .literal (.string value) => return .text value
  | .literal _ => return .other
  | .word name raw => if !raw && (name == "true" || name == "false") then return .other else failure
  | .mark '-' _ => do
      match ← next with
      | .literal (.number _) => return .other
      | _ => failure
  | _ => failure

/-- Reads all that is between brackets. -/
def inGroup {α : Type} (d : Delimiter) (p : Reading α) : Reading α := fun ts =>
  match ts with
  | .group d' trees :: rest =>
      if d = d' then
        match p trees with
        | some (a, []) => some (a, rest)
        | _ => none
      else none
  | _ => none

/-- Takes brackets of any pair; gives whether they are braces. -/
def anyGroup : Reading Bool := do
  match ← next with
  | .group d _ => return d == .brace
  | _ => failure

/-- Runs a reader; a failure takes no tree. -/
def attempt {α : Type} (p : Reading α) : Reading (Option α) := fun ts =>
  match p ts with
  | some (a, rest) => some (some a, rest)
  | none => some (none, ts)

/-- Whether a reader succeeds here, without taking trees. -/
def succeeds {α : Type} (p : Reading α) (ts : List Tree) : Bool := (p ts).isSome

/-- The number of trees left. -/
def remaining : Reading Nat := fun ts => some (ts.length, ts)

/-! ### Repetitions -/

/-- Repeats a reader until it says that it is done, given a bound. -/
def repeatFrom (step : Reading Bool) : Nat → Reading Unit
  | 0 => failure
  | fuel + 1 => do
      if ← step then repeatFrom step fuel else return ()

/-- Repeats a reader while it says that there is more. -/
def repeatWhile (step : Reading Bool) : Reading Unit := do
  repeatFrom step ((← remaining) + 1)

/-- Repeats a reader while a test holds. -/
def whileAt (test : List Tree → Bool) (step : Reading Unit) : Reading Unit :=
  repeatWhile do
    if ← look test then
      step
      return true
    else return false

/-- Items with separators between them up to a test, perhaps with a separator at the end. -/
def separated (stop : List Tree → Bool) (separator : String) (step : Reading Unit) : Reading Unit :=
  repeatWhile do
    if ← look stop then return false
    else
      step
      if ← look stop then return false
      else
        marks separator
        return true

/-- Items with plus signs between them up to a test; they end where no sign follows. -/
def summed (stop : List Tree → Bool) (step : Reading Unit) : Reading Unit :=
  repeatWhile do
    if ← look stop then return false
    else
      step
      marks? "+"

/-- Items with commas between them up to the end. -/
def commaList (step : Reading Unit) : Reading Unit := separated atEnd "," step

/-- Items up to the end. -/
def untilEnd (step : Reading Unit) : Reading Unit := whileAt (!atEnd ·) step

end Reading

end DocAccess.Source
