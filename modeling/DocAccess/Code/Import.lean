import DocAccess.Code.Item
import DocAccess.Source.Items

/-!
# Paths of imports

Settings name the modules that are imported from by their paths.  A path may have type arguments
where a type is expected, but no import has.
-/

namespace DocAccess.Code

open DocAccess.Source DocAccess.Source.Reading

/-- Words with path separators between them, given a bound on their number. -/
def importWordsFrom : Nat → Reading (List Ident)
  | 0 => failure
  | fuel + 1 => do
      match ← next with
      | .word name raw =>
          if ← look atEnd then return [⟨name, raw⟩]
          marks "::"
          return ⟨name, raw⟩ :: (← importWordsFrom fuel)
      | _ => failure

/-- The path of an import. -/
def importPath : Reading ImportPath := do
  let rooted ← marks? "::"
  return ⟨rooted, ← importWordsFrom ((← remaining) + 1)⟩

/-- The path of an import that a text spells. -/
def ImportPath.ofText? (text : String) : Option ImportPath := readText? (fun _ => importPath) text

end DocAccess.Code
