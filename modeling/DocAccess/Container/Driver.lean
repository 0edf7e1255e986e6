import DocAccess.Store.Paging

/-!
# Drivers

A driver is all that container handles know of a store: five operations that run against a state
and answer or fail.
-/

namespace DocAccess.Container

open DocAccess.Document DocAccess.Query DocAccess.Store

/-- An operation on a state that answers or fails; a failing one may change the state too. -/
abbrev Run (σ : Type) := ExceptT StoreError (StateM σ)

/-- The operations of a store. -/
structure Driver (σ : Type) where
  read : String → Address → Options → Run σ Value
  create : String → Value → Options → Run σ Value
  replace : String → Address → Value → Options → Run σ Value
  delete : String → Address → Options → Run σ Unit
  query : String → Prepared → Option String → Options → Run σ Page

/-- Runs a question to the store. -/
def ask {α : Type} (question : DocStore → Except StoreError α) : Run DocStore α :=
  fun s => (question s, s)

/-- Runs a change of the store; a failing one leaves it as it is. -/
def change {α : Type} (operation : DocStore → Except StoreError (α × DocStore)) : Run DocStore α :=
  fun s =>
    match operation s with
    | .ok (a, s') => (.ok a, s')
    | .error e => (.error e, s)

/-- The store in memory as a driver, given the stamp of every write. -/
def memoryDriver (stamps : Nat → Stamp) : Driver DocStore where
  read container a _ := ask fun s => s.read? container a
  create container body _ := change fun s => s.create? container body (stamps s.sequence)
  replace container a body o := change fun s => s.replace? container a body o (stamps s.sequence)
  delete container a o := change fun s => (s.delete? container a o).map fun s => ((), s)
  query container q continuation o := ask fun s => s.query? container q continuation o

end DocAccess.Container
