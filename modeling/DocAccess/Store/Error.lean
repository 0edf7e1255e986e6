/-!
# Errors of a store

What a store refuses and why.  A wording belongs to each cause; `StoreError.message` gives it.
-/

namespace DocAccess.Store

/-- Why a query text is not supported.  Parts of a query are named by their displays. -/
inductive QueryFault where
  /-- The text does not follow the grammar. -/
  | malformed
  /-- The text is not exactly one query. -/
  | notOneQuery
  | notPlainSelect
  | projection
  | source
  | operator (display : String)
  | function (name : String)
  | argumentCount (name : String)
  | argumentList
  | argument (display : String)
  | path (display label : String)
  | operand (display : String)
  | literal (display : String)
  | number (text : String)
  | condition (display : String)
  deriving DecidableEq, Repr

/-- The wording of a fault in a query. -/
def QueryFault.message : QueryFault → String
  | malformed => "sql parser error"
  | notOneQuery => "expected a single SELECT statement"
  | notPlainSelect => "expected a plain SELECT"
  | projection => "only `SELECT *` is supported"
  | source => "expected a single container in FROM"
  | operator display => s!"operator `{display}`"
  | function name => s!"function `{name}`"
  | argumentCount name => s!"`{name}` takes two arguments"
  | argumentList => "expected an argument list"
  | argument display => s!"argument `{display}`"
  | path display label => s!"`{display}` is not a field path of `{label}`"
  | operand display => s!"operand `{display}`"
  | literal display => s!"literal `{display}`"
  | number text => s!"number `{text}`"
  | condition display => s!"condition `{display}`"

/-- Why a request is refused before any document is touched. -/
inductive Refusal where
  | emptyId
  | missingPartition (path : List String)
  | idMismatch (id : String)
  | partitionMismatch (partition : String)
  | parameterName (name : String)
  | unbound (name : String)
  | continuation (token : String)
  | query (fault : QueryFault)
  | bodyNotObject
  /-- An identifier of another kind than a string, by its text. -/
  | idNotString (display : String)
  /-- A refusal in the words of an external driver. -/
  | external (text : String)
  deriving DecidableEq, Repr

/-- The wording of a refusal. -/
def Refusal.message : Refusal → String
  | emptyId => "document id must be a non-empty string"
  | missingPartition path => "document is missing partition key /" ++ "/".intercalate path
  | idMismatch id => s!"replacement body id does not match `{id}`"
  | partitionMismatch partition => s!"replacement body partition key does not match `{partition}`"
  | parameterName name => s!"parameter name `{name}` must start with `@`"
  | unbound name => s!"parameter {name} is not bound"
  | continuation token => s!"invalid continuation `{token}`"
  | query fault => "unsupported query: " ++ fault.message
  | bodyNotObject => "document body must be a JSON object"
  | idNotString display => s!"document id must be a string, got {display}"
  | external text => text

/-- What a store operation fails with. -/
inductive StoreError where
  | notFound (container id : String)
  | conflict (container id : String)
  | preconditionFailed (container id : String)
  | containerNotFound (name : String)
  | badRequest (cause : Refusal)
  /-- A document that does not have the asked shape, and what is wrong with it. -/
  | serialization (fault : String)
  /-- A failure of an external driver, in its words. -/
  | driver (text : String)
  deriving DecidableEq, Repr

namespace StoreError

/-- Whether a missing item is the cause. -/
def isNotFound : StoreError → Bool
  | notFound _ _ => true
  | _ => false

/-- The wording of an error. -/
def message : StoreError → String
  | notFound container id => s!"{container} with id: {id} not found."
  | conflict container id => s!"{container} with id: {id} already exists."
  | preconditionFailed container id =>
      s!"{container} with id: {id} was modified concurrently (etag mismatch)."
  | containerNotFound name => s!"container `{name}` does not exist"
  | badRequest cause => "bad request: " ++ cause.message
  | serialization fault => "serialization failed: " ++ fault
  | driver text => "store driver error: " ++ text

end StoreError

end DocAccess.Store
