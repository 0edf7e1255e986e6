import DocAccess.Query.Grammar.Statement
import DocAccess.Query.Lexer
import DocAccess.Query.Prepared
import DocAccess.Store.Error

/-!
# Filters

A filter is the conjunction of comparisons and text tests that the condition of a query stands
for.  A document passes when every predicate holds of it; a comparison with a missing field does
not hold, whichever its sign.
-/

namespace DocAccess.Query

open DocAccess.Document DocAccess.Store

/-- What a field is compared with. -/
inductive Operand where
  | parameter (name : String)
  | literal (value : Value)

/-- A test between two texts. -/
inductive TextTest where
  | contains
  | startsWith
  deriving DecidableEq, Repr

/-- One condition on a document. -/
inductive Predicate where
  | compare (path : List String) (negated : Bool) (operand : Operand)
  | test (test : TextTest) (path : List String) (operand : Operand)

/-- A conjunction of conditions; an empty one lets every document pass. -/
abbrev Filter := List Predicate

/-! ### From a query to its filter -/

/-- The operand that a literal stands for. -/
def Literal.operand? : Literal → Except QueryFault Operand
  | .placeholder name => .ok (.parameter name)
  | .string text => .ok (.literal (.string text))
  | .doubleQuoted text => .ok (.literal (.string text))
  | .number text long =>
      -- the suffix of a long number makes no difference
      let _ := long
      match Number.ofText? text with
      | some n => .ok (.literal (.number n))
      | none => .error (.number text)
  | .boolean flag => .ok (.literal (.bool flag))
  | .null => .ok (.literal .null)
  | .other display => .error (.literal display)

/-- Whether a text starts with an at sign. -/
def isParameterName (name : String) : Bool := name.toList.head? == some '@'

/-- The operand that an expression stands for: a parameter, a word in double quotes, or a literal. -/
def Expr.operand? : Expr → Except QueryFault Operand
  | .name ⟨text, none⟩ =>
      if isParameterName text then .ok (.parameter text) else .error (.operand text)
  | .name ⟨text, some quote⟩ =>
      if quote = '"' then .ok (.literal (.string text))
      else .error (.operand (Ident.display ⟨text, some quote⟩))
  | .literal value => value.operand?
  | e => .error (.operand e.display)

/-- The field names of a path that starts at the source. -/
def Expr.path? (source : String) : Expr → Except QueryFault (List String)
  | .path (root :: field :: fields) =>
      if root.text = source then .ok (field.text :: fields.map (·.text))
      else .error (.path (Expr.path (root :: field :: fields)).display source)
  | e => .error (.path e.display source)

/-- The expressions among arguments. -/
def plainArguments? : List Argument → Except QueryFault (List Expr)
  | [] => .ok []
  | .plain e :: rest => do return e :: (← plainArguments? rest)
  | .other display :: _ => .error (.argument display)

/-- The expressions of an argument list. -/
def Arguments.plain? : Arguments → Except QueryFault (List Expr)
  | .list _ items _ => plainArguments? items
  | _ => .error .argumentList

/-- The test that a function name stands for, whatever the case of its letters. -/
def textTest? (name : String) : Option TextTest :=
  let name := name.toList.map Char.toUpper
  if name = "CONTAINS".toList then some .contains
  else if name = "STARTSWITH".toList then some .startsWith
  else none

/-- The predicate of a call. -/
def callPredicate? (source : String) (function : List Ident) (arguments : Arguments) :
    Except QueryFault Predicate := do
  let name := displayName function
  match textTest? name with
  | none => .error (.function name)
  | some test =>
      match ← arguments.plain? with
      | [target, value] => return .test test (← target.path? source) (← value.operand?)
      | _ => .error (.argumentCount name)

/-- The predicates of a condition. -/
def Expr.predicates? (source : String) : Expr → Except QueryFault (List Predicate)
  | .nested inner => inner.predicates? source
  | .binary left operator right =>
      if operator = "AND" then do
        let first ← left.predicates? source
        return first ++ (← right.predicates? source)
      else do
        let negated ←
          if operator = "=" then .ok false
          else if operator = "<>" then .ok true
          else .error (.operator operator)
        return [.compare (← left.path? source) negated (← right.operand?)]
  | .call function _ arguments _ => do return [← callPredicate? source function arguments]
  | e => .error (.condition e.display)

/-- The name that the paths of a condition start with: the alias of the only source, or the display
of its name where it has no alias. -/
def sourceName? : List Joined → Except QueryFault String
  | [⟨⟨some name, _, _, label, _⟩, []⟩] => .ok ((label.map (·.name.text)).getD name)
  | _ => .error .source

/-- The filter of a list of statements. -/
def Filter.ofStatements? : List Statement → Except QueryFault Filter
  | [.query q] =>
      match q.body with
      | .select [.star _] sources condition => do
          let source ← sourceName? sources
          match condition with
          | some e => e.predicates? source
          | none => return []
      | .select _ _ _ => .error .projection
      | .other => .error .notPlainSelect
  | _ => .error .notOneQuery

/-- The filter of a query text. -/
def Filter.ofText? (text : String) : Except QueryFault Filter :=
  match tokens? text with
  | none => .error .malformed
  | some tokens =>
      match statements? tokens with
      | none => .error .malformed
      | some statements => Filter.ofStatements? statements

/-! ### Evaluation -/

/-- The value of an operand. -/
def Operand.resolve? (q : Prepared) : Operand → Except Refusal Value
  | .literal value => .ok value
  | .parameter name =>
      match q.parameter? name with
      | some value => .ok value
      | none => .error (.unbound name)

/-- Equality as a comparison sees it: numbers by their nearest doubles, all else field by field. -/
def comparesEqual : Value → Value → Bool
  | .number a, .number b => a.nearlySame b
  | a, b => a.same b

/-- Whether the first text occurs in the second. -/
def occursIn (part : List Char) : List Char → Bool
  | [] => part.isEmpty
  | c :: rest => part.isPrefixOf (c :: rest) || occursIn part rest

/-- Whether a text test holds between two texts. -/
def TextTest.holds (test : TextTest) (whole part : List Char) : Bool :=
  match test with
  | .startsWith => part.isPrefixOf whole
  | .contains => occursIn part whole

/-- Whether a predicate holds of a document. -/
def Predicate.holds? (q : Prepared) (document : Value) : Predicate → Except Refusal Bool
  | .compare path negated operand => do
      let expected ← operand.resolve? q
      return match document.follow? path with
        | some actual => comparesEqual actual expected != negated
        | none => false
  | .test kind path operand => do
      return match ← operand.resolve? q, document.follow? path with
        | .string part, some (.string whole) => kind.holds whole.toList part.toList
        | _, _ => false

/-- Whether a document passes a filter; predicates behind a failing one are not looked at. -/
def Filter.passes? (q : Prepared) (document : Value) : Filter → Except Refusal Bool
  | [] => .ok true
  | p :: rest => do if ← p.holds? q document then passes? q document rest else return false

end DocAccess.Query
