import DocAccess.Document.Value
import DocAccess.Text.Blank

/-!
# Queries with parameters

A query text travels with the values of its parameters, which are never spliced into it.
-/

namespace DocAccess.Query

open DocAccess.Document

/-- A parameter, named with its leading at sign, and its value. -/
structure Parameter where
  name : String
  value : Value

/-- A query text with its parameters in the order in which they were bound. -/
structure Prepared where
  text : String
  parameters : List Parameter

namespace Prepared

/-- The text that selects every document. -/
def selectAllText : String := "SELECT * FROM c"

/-- A query without parameters. -/
def ofText (text : String) : Prepared := ⟨text, []⟩

/-- The query that selects every document. -/
def everything : Prepared := ofText selectAllText

/-- The query that selects every document for which a clause holds.  The clause is trimmed and not
checked. -/
def selectAll (clause : String) : Prepared :=
  let clause := Text.trim clause
  if clause.isEmpty then everything else ofText (selectAllText ++ " " ++ clause)

/-- Binds one more parameter. -/
def bind (q : Prepared) (name : String) (value : Value) : Prepared :=
  { q with parameters := q.parameters ++ [⟨name, value⟩] }

/-- The value of a parameter: that of its first binding. -/
def parameter? (q : Prepared) (name : String) : Option Value :=
  (q.parameters.find? (·.name == name)).map (·.value)

/-- The document form of a query. -/
def toValue (q : Prepared) : Value :=
  let parameter (p : Parameter) : Value :=
    .ofFields [("name", .string p.name), ("value", p.value)]
  .ofFields [("query", .string q.text), ("parameters", .array (q.parameters.map parameter))]

@[simp] theorem bind_text (q : Prepared) (name : String) (value : Value) :
    (q.bind name value).text = q.text := rfl

end Prepared

end DocAccess.Query
