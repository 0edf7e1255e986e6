import DocAccess.Generate.Error

/-!
# Faults of a run

Besides failing with an error, a run stops where a text that was accepted as a name is not spelled
like a word, such as one with a blank or a comment around it.
-/

namespace DocAccess.Generate

/-- Why a run gives no result. -/
inductive Fault where
  | error (cause : GenerateError)
  /-- A text is made an identifier, but it is none. -/
  | notIdentifier (text : String)
  deriving DecidableEq, Repr

/-- What a run gives. -/
abbrev Outcome (α : Type) := Except Fault α

/-- A result that may be an error. -/
def Outcome.ofExcept {α : Type} : Except GenerateError α → Outcome α
  | .ok a => .ok a
  | .error cause => .error (.error cause)

end DocAccess.Generate
