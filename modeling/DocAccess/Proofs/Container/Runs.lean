import DocAccess.Container.Driver

/-!
# One run after another

A run that answers hands its answer and its state to the next one; a run that fails is the end.
-/

namespace DocAccess.Container

variable {ε σ β γ : Type} {run : ExceptT ε (StateM σ) β} {f : β → ExceptT ε (StateM σ) γ} {s s' : σ}

theorem lift_apply (x : Except ε β) (s : σ) : (liftM x : ExceptT ε (StateM σ) β) s = (x, s) := by
  cases x with
  | error e => rfl
  | ok b => rfl

theorem run_bind_ok {b : β} (h : run s = (.ok b, s')) : (run >>= f) s = f b s' := by
  simp only [bind, ExceptT.bind, ExceptT.mk, StateT.bind, h]
  rfl

theorem run_bind_error {e : ε} (h : run s = (.error e, s')) : (run >>= f) s = (.error e, s') := by
  simp only [bind, ExceptT.bind, ExceptT.mk, StateT.bind, h]
  rfl

end DocAccess.Container
