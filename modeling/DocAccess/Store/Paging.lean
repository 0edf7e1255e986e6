import DocAccess.Query.Filter
import DocAccess.Store.Basic

/-!
# Pages of query results

A query answers with the matching documents in ascending order of their addresses, a page at a
time.  A continuation is the number of documents on the pages before, so any text of a number is
one.
-/

namespace DocAccess.Store

open DocAccess.Document DocAccess.Query

/-- One page of results. -/
structure Page where
  items : List Value
  /-- What the next page is asked for with; nothing on the last page. -/
  continuation : Option String

/-- A page without items. -/
def Page.empty : Page := ⟨[], none⟩

/-- The greatest position that a word holds. -/
def maxPosition : Nat := UInt64.size - 1

/-- The number that a continuation stands for: decimal digits, of at most 64 bits, behind an
optional plus sign. -/
def offsetOf? (token : String) : Option Nat :=
  let digits := match token.toList with
    | '+' :: rest => rest
    | cs => cs
  if digits.isEmpty || !digits.all Char.isDigit then none
  else
    let n := Nat.ofDigitChars 10 digits 0
    if n ≤ maxPosition then some n else none

/-- The position of the first item asked for. -/
def startOf? : Option String → Except StoreError Nat
  | none => .ok 0
  | some token =>
      match offsetOf? token with
      | some n => .ok n
      | none => .error (.badRequest (.continuation token))

/-- The sum of two positions, or the greatest one where the sum is beyond it. -/
def saturatingAdd (a b : Nat) : Nat := min (a + b) maxPosition

/-- The items from one position up to another, or `none` where these are out of order or range. -/
def slice? {α : Type} (items : List α) (start stop : Nat) : Option (List α) :=
  if start ≤ stop ∧ stop ≤ items.length then some ((items.drop start).take (stop - start)) else none

/-- The page of some items that starts at a position; a position out of range gives no items. -/
def Page.cut (items : List Value) (start size : Nat) : Page :=
  let stop := min (saturatingAdd start size) items.length
  ⟨(slice? items start stop).getD [], if stop < items.length then some (toString stop) else none⟩

/-- The documents that pass a filter, in order. -/
def matching? (filter : Filter) (q : Prepared) : List Value → Except StoreError (List Value)
  | [] => .ok []
  | document :: rest =>
      match filter.passes? q document with
      | .error cause => .error (.badRequest cause)
      | .ok passes => do
          let more ← matching? filter q rest
          return if passes then document :: more else more

/-- Refuses a query with a parameter that is not named with an at sign. -/
def checkParameters (q : Prepared) : Except StoreError Unit :=
  match q.parameters.find? (!isParameterName ·.name) with
  | some p => .error (.badRequest (.parameterName p.name))
  | none => .ok ()

namespace DocStore

/-- The size of the pages that a request gets, at least one. -/
def pageSizeFor (s : DocStore) (o : Options) : Nat := max (o.maxItems.getD s.pageSize) 1

/-- One page of the documents that a query selects. -/
def query? (s : DocStore) (container : String) (q : Prepared) (continuation : Option String)
    (o : Options) : Except StoreError Page := do
  checkParameters q
  let filter ← match Filter.ofText? q.text with
    | .ok filter => pure filter
    | .error fault => throw (.badRequest (.query fault))
  let start ← startOf? continuation
  let c ← s.collection? container
  let items ← matching? filter q c.items.values
  return Page.cut items start (s.pageSizeFor o)

end DocStore

end DocAccess.Store
