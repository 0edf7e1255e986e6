import Mathlib.Tactic.Common

/-!
# Rows of checks

A row of checks gives its result if every check lets it pass.  These are the rules by which such a
row is taken apart, one check after the other.
-/

namespace DocAccess

variable {ε α β : Type}

theorem bind_eq_ok_iff (x : Except ε α) (f : α → Except ε β) (b : β) :
    x >>= f = .ok b ↔ ∃ a, x = .ok a ∧ f a = .ok b := by
  cases x with
  | error e => simp [bind, Except.bind]
  | ok a => simp [bind, Except.bind]

/-- A row of checks fails at the first check that does. -/
theorem bind_eq_error_iff (x : Except ε α) (f : α → Except ε β) (e : ε) :
    x >>= f = .error e ↔ x = .error e ∨ ∃ a, x = .ok a ∧ f a = .error e := by
  cases x with
  | error other => simp [bind, Except.bind]
  | ok a => simp [bind, Except.bind]

theorem map_eq_ok_iff (f : α → β) (x : Except ε α) (b : β) :
    x.map f = .ok b ↔ ∃ a, x = .ok a ∧ f a = b := by
  cases x with
  | error e => simp [Except.map]
  | ok a => simp [Except.map]

/-- A check that refuses lets nothing pass. -/
theorem ite_error_eq_ok_iff (p : Prop) [Decidable p] (e : ε) (x : Except ε α) (a : α) :
    (if p then .error e else x) = .ok a ↔ ¬p ∧ x = .ok a := by
  by_cases hp : p
  · simp [hp]
  · simp [hp]

/-- A check that refuses gives its error, one that does not leaves it to those behind it. -/
theorem ite_error_eq_error_iff (p : Prop) [Decidable p] (e e' : ε) (x : Except ε α) :
    (if p then .error e else x) = .error e' ↔ p ∧ e = e' ∨ ¬p ∧ x = .error e' := by
  by_cases hp : p
  · simp [hp]
  · simp [hp]

theorem map_eq_error_iff (f : α → β) (x : Except ε α) (e : ε) :
    x.map f = .error e ↔ x = .error e := by
  cases x with
  | error e' => simp [Except.map]
  | ok a => simp [Except.map]

theorem toOption_eq_some_iff (x : Except ε α) (a : α) : x.toOption = some a ↔ x = .ok a := by
  cases x with
  | error e => simp [Except.toOption]
  | ok b => simp [Except.toOption]

/-! ### Two rows -/

/-- Whether two rows of checks both pass, with results that belong together, or are both refused,
for reasons that do. -/
inductive Alike {ε' : Type} (E : ε → ε' → Prop) (R : α → β → Prop) :
    Except ε α → Except ε' β → Prop
  | passed {a : α} {b : β} (hresult : R a b) : Alike E R (.ok a) (.ok b)
  | refused {e : ε} {e' : ε'} (hreason : E e e') : Alike E R (.error e) (.error e')

namespace Alike

variable {ε' γ δ : Type} {E : ε → ε' → Prop} {R : α → β → Prop} {S : γ → δ → Prop}
  {x : Except ε α} {y : Except ε' β}

theorem refl {E : ε → ε → Prop} (hsame : ∀ e, E e e) (x : Except ε α) :
    Alike E (fun a b => b = a) x x := by
  cases x with
  | error e => exact .refused (hsame e)
  | ok a => exact .passed rfl

/-- If one row passes, so does the other. -/
theorem exists_of_ok {a : α} (h : Alike E R (.ok a) y) : ∃ b, y = .ok b ∧ R a b := by
  cases h with
  | passed hresult => exact ⟨_, rfl, hresult⟩

theorem imp {R' : α → β → Prop} (hxy : Alike E R x y) (himp : ∀ a b, R a b → R' a b) :
    Alike E R' x y := by
  cases hxy with
  | passed hresult => exact .passed (himp _ _ hresult)
  | refused hreason => exact .refused hreason

theorem bind {f : α → Except ε γ} {g : β → Except ε' δ} (hxy : Alike E R x y)
    (hrest : ∀ a b, R a b → Alike E S (f a) (g b)) : Alike E S (x >>= f) (y >>= g) := by
  cases hxy with
  | passed hresult => exact hrest _ _ hresult
  | refused hreason => exact .refused hreason

/-- A check that two rows begin with leaves the rest to what is behind it. -/
theorem bind_same {E : ε → ε → Prop} (hsame : ∀ e, E e e) {f : α → Except ε γ}
    {g : α → Except ε δ} (hrest : ∀ a, x = .ok a → Alike E S (f a) (g a)) :
    Alike E S (x >>= f) (x >>= g) := by
  cases x with
  | error e => exact .refused (hsame e)
  | ok a => exact hrest a rfl

theorem map {f : α → γ} {g : β → δ} (hxy : Alike E R x y)
    (hresult : ∀ a b, R a b → S (f a) (g b)) : Alike E S (x.map f) (y.map g) := by
  cases hxy with
  | passed h => exact .passed (hresult _ _ h)
  | refused hreason => exact .refused hreason

/-- Two rows are both refused by one test, or it lets both pass. -/
theorem ite {p : Prop} [Decidable p] {e : ε} {e' : ε'} (hreason : E e e') (hxy : Alike E R x y) :
    Alike E R (if p then .error e else x) (if p then .error e' else y) := by
  split
  · exact .refused hreason
  · exact hxy

end Alike

end DocAccess
