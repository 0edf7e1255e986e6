import DocAccess.Document.Number

/-!
# Documents

A document is a tree of fields.  The fields of an object are kept in ascending order of their
names, each name once.
-/

namespace DocAccess.Document

/-- A document or a part of one. -/
inductive Value where
  | null
  | bool (flag : Bool)
  | number (n : Number)
  | string (text : String)
  | array (items : List Value)
  | object (fields : List (String × Value))
  deriving Inhabited

/-- The fields of an object. -/
abbrev Fields := List (String × Value)

/-! ### Fields -/

namespace Fields

/-- The value of a field. -/
def get? (name : String) : Fields → Option Value
  | [] => none
  | (key, value) :: rest => if key = name then some value else get? name rest

/-- Sets a field, in place of the one that has its name. -/
def insert (name : String) (value : Value) : Fields → Fields
  | [] => [(name, value)]
  | (key, old) :: rest =>
      if key = name then (name, value) :: rest
      else if name < key then (name, value) :: (key, old) :: rest
      else (key, old) :: insert name value rest

/-- Removes a field. -/
def erase (name : String) (fields : Fields) : Fields := fields.filter (·.1 ≠ name)

/-- The fields of a list of settings, a later one replacing an earlier one. -/
def ofList (settings : List (String × Value)) : Fields :=
  settings.foldl (fun fields (name, value) => insert name value fields) []

@[simp] theorem get?_insert_self (name : String) (value : Value) (fields : Fields) :
    get? name (insert name value fields) = some value := by
  induction fields with
  | nil => simp [insert, get?]
  | cons field rest ih =>
      obtain ⟨key, old⟩ := field
      simp only [insert]
      split
      · simp [get?]
      · split
        · simp [get?]
        · simp [get?, *]

theorem get?_insert_of_ne {name other : String} (h : other ≠ name) (value : Value)
    (fields : Fields) : get? other (insert name value fields) = get? other fields := by
  induction fields with
  | nil => simp [insert, get?, Ne.symm h]
  | cons field rest ih =>
      obtain ⟨key, old⟩ := field
      simp only [insert]
      split
      · next hk => subst hk; simp [get?, Ne.symm h]
      · split
        · simp [get?, Ne.symm h]
        · simp only [get?, ih]

end Fields

/-! ### Values -/

namespace Value

/-- The field of an object; no other document has fields. -/
def get? (name : String) : Value → Option Value
  | object fields => Fields.get? name fields
  | _ => none

/-- The text of a string. -/
def text? : Value → Option String
  | string text => some text
  | _ => none

/-- What a path of field names leads to, through nested objects. -/
def follow? : List String → Value → Option Value
  | [], value => some value
  | name :: rest, value => (value.get? name).bind (follow? rest)

mutual

/-- Equality of documents, numbers of different kinds being different. -/
def same : Value → Value → Bool
  | null, null => true
  | bool a, bool b => a == b
  | number a, number b => a.same b
  | string a, string b => a == b
  | array a, array b => sameItems a b
  | object a, object b => sameFields a b
  | _, _ => false

/-- Equality of the items of two arrays. -/
def sameItems : List Value → List Value → Bool
  | [], [] => true
  | a :: as, b :: bs => same a b && sameItems as bs
  | _, _ => false

/-- Equality of the fields of two objects. -/
def sameFields : Fields → Fields → Bool
  | [], [] => true
  | a :: as, b :: bs => a.1 == b.1 && same a.2 b.2 && sameFields as bs
  | _, _ => false

end

/-- An object with the given fields. -/
def ofFields (settings : List (String × Value)) : Value := object (Fields.ofList settings)

end Value

end DocAccess.Document
