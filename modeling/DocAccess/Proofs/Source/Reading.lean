import DocAccess.Source.Reading
import Mathlib.Tactic.Common

/-!
# What readers read

A reader of source trees gives a value and the trees behind it, or nothing.  These are the rules by
which a row of readers is taken apart, and what the simplest readers make of a first tree.
-/

namespace DocAccess.Source

namespace Reading

variable {α β : Type}

theorem bind_apply (p : Reading α) (q : α → Reading β) (ts : List Tree) :
    (p >>= q) ts = (p ts).bind fun r => q r.1 r.2 := rfl

theorem pure_eq_some_iff (a b : α) (ts rest : List Tree) :
    (pure a : Reading α) ts = some (b, rest) ↔ a = b ∧ ts = rest := by
  change some (a, ts) = some (b, rest) ↔ _
  rw [Option.some.injEq, Prod.mk.injEq]

/-- What a sequence of two readers gives, the second one read behind the first. -/
theorem bind_eq_some_iff (p : Reading α) (q : α → Reading β) (ts rest : List Tree) (b : β) :
    (p >>= q) ts = some (b, rest) ↔
      ∃ a middle, p ts = some (a, middle) ∧ q a middle = some (b, rest) := by
  rw [bind_apply, Option.bind_eq_some_iff]
  constructor
  · rintro ⟨⟨a, middle⟩, hp, hq⟩
    exact ⟨a, middle, hp, hq⟩
  · rintro ⟨a, middle, hp, hq⟩
    exact ⟨(a, middle), hp, hq⟩

theorem identifier_word (name : String) (raw : Bool) (ts : List Tree) :
    Reading.identifier (.word name raw :: ts) =
      if (Tree.word name raw).isIdentifier then some (if raw then "r#" ++ name else name, ts)
      else none := by
  rw [Reading.identifier, Reading.bind_apply]
  simp only [Reading.next, Option.bind_some]
  split
  · rfl
  · rfl

theorem take?_apply (test : List Tree → Bool) (size : Nat) (ts : List Tree) :
    take? test size ts = some (if test ts then (true, ts.drop size) else (false, ts)) := by
  unfold take?
  split
  · rfl
  · rfl

theorem discard_apply (p : Reading α) (ts : List Tree) :
    (discard p : Reading PUnit) ts = (p ts).map fun r => (PUnit.unit, r.2) := by
  change ((p ts).bind fun r => some (PUnit.unit, r.2)) = _
  cases p ts with
  | none => rfl
  | some r => rfl

end Reading

open Reading

theorem atMarks_separator (ts : List Tree) :
    atMarks "::" ts = true ↔ ∃ joint rest, ts = .mark ':' true :: .mark ':' joint :: rest := by
  have hchars : "::".toList = [':', ':'] := rfl
  rw [atMarks, hchars]
  constructor
  · intro h
    unfold atMarksOf at h
    split at h
    · next heq => cases heq
    · next c cs d joint ts heq =>
        obtain ⟨rfl, rfl⟩ := List.cons.inj heq
        simp only [Bool.and_eq_true, beq_iff_eq, List.isEmpty_cons, Bool.false_or] at h
        obtain ⟨rfl, rfl, h⟩ := h
        unfold atMarksOf at h
        split at h
        · next heq => cases heq
        · next c cs d joint ts heq =>
            obtain ⟨rfl, rfl⟩ := List.cons.inj heq
            obtain rfl : ':' = d := by simpa using h
            exact ⟨joint, ts, rfl⟩
        · cases h
    · cases h
  · rintro ⟨joint, rest, rfl⟩
    simp [atMarksOf]

/-- Two marks are read as a path separator if both are colons and the first touches the second. -/
theorem marks_eq_some_iff (ts rest : List Tree) (u : Unit) :
    Reading.marks "::" ts = some (u, rest) ↔
      ∃ joint, ts = .mark ':' true :: .mark ':' joint :: rest := by
  have hlength : "::".length = 2 := rfl
  simp only [Reading.marks, expect, hlength, Option.ite_none_right_eq_some, atMarks_separator,
    Option.some.injEq, Prod.mk.injEq]
  constructor
  · rintro ⟨⟨joint, more, rfl⟩, -, rfl⟩
    exact ⟨joint, rfl⟩
  · rintro ⟨joint, rfl⟩
    exact ⟨⟨joint, rest, rfl⟩, trivial, rfl⟩

end DocAccess.Source
