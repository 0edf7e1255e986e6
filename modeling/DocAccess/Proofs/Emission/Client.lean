import DocAccess.Proofs.Emission.Declarations

/-!
# The table and the client of a module

Running a generated module shows what its table lists and what its function makes.  The table has a
row for each model.  A client has a field for each model, with an accessor whose container has been
acquired from the database by the name that the accessor declares.
-/

namespace DocAccess.Emission

open DocAccess.Code DocAccess.Container DocAccess.Generate DocAccess.Operations DocAccess.Store
open Program

variable {σ α : Type} {P : Program α} {n : Names} {scope : Scope σ α}

/-! ### The table -/

/-- The row of a model in the table. -/
def Names.definition (n : Names) : Definition := ⟨n.set.container, n.set.key.path⟩

theorem eval_containerRow (n : Names) :
    P.eval scope n.containerRow = pure (.definition n.definition) := by
  have hargs : P.evalAll scope [.literal n.set.container, .literal n.set.key.path] =
      pure [.text n.set.container, .text n.set.key.path] :=
    evalAll_eq (.cons rfl (.cons rfl .nil))
  rw [Names.containerRow, Expr.ofWords, eval_call, hargs]
  rfl

theorem eval_containerTable (models : List Names) :
    P.eval scope (containerTable models).value =
      pure (.array (models.map fun n => .definition n.definition)) := by
  have hrows : P.evalAll scope (models.map Names.containerRow) =
      pure (models.map fun n => .definition n.definition) := by
    refine evalAll_eq ?_
    rw [List.forall₂_map_left_iff, List.forall₂_map_right_iff, List.forall₂_same]
    exact fun n _ => eval_containerRow n
  rw [containerTable, eval_reference, eval_array, hrows, map_pure]

/-! ### The client -/

/-- A path of two words stands for what the module declares there. -/
theorem valueOf_own {first : Ident} (hfirst : first ≠ .ofWord "Self") (second : Ident) :
    scope.valueOf [first, second] none = scope.own [first, second] [] := by
  unfold Scope.valueOf
  split
  -- what has a meaning of its own is one word
  · next hpath _ => simp at hpath
  · next hpath _ => simp at hpath
  · rw [Scope.resolve, if_neg hfirst]

/-- A value that is no text is for a function of the module. -/
theorem onPath_own {first : Ident} (hfirst : first ≠ .ofWord "Self") (rest : List Ident)
    {v : Val σ α} (htext : ∀ t, v ≠ .text t) :
    P.onPath scope (first :: rest) none [v] = scope.own (first :: rest) [v] := by
  have hnone : P.ofRuntime ((first :: rest).map Ident.text) none [v] = none := by
    unfold ofRuntime
    split <;> simp_all
  rw [onPath, hnone]
  dsimp only
  rw [Scope.resolve, if_neg hfirst]

/-- The field of a model in a new client. -/
def Names.acquired (n : Names) (d : Driver σ) : Ident × Val σ α :=
  (n.field, n.access ⟨d, n.set.container⟩)

variable (depth : Nat)

/-- An accessor is made of an acquired container. -/
theorem call_accessorNew (hd : Offers P n) (h : Handle σ) :
    P.call (depth + 1) [n.accessor, .ofWord "new"] [.container h] = pure (n.access h) := by
  have hnew := hd.members _ (List.mem_append_left _
    (List.mem_cons_of_mem _ (List.mem_cons_of_mem _ List.mem_cons_self)))
  exact (call_function hnew rfl depth).trans rfl

theorem eval_clientValue (hd : Offers P n) (hself : n.accessor ≠ .ofWord "Self") {d : Driver σ}
    (hown : scope.own = P.call (depth + 1))
    (hdatabase : scope.vars.lookup (.ofWord "database") = some (.database d)) :
    P.evalField scope n.clientValue = pure (n.acquired d) := by
  have hname : P.evalAll scope [.path [n.accessor, .ofWord "CONTAINER"] none] =
      pure [.text n.set.container] := by
    refine evalAll_eq (.cons ?_ .nil)
    rw [eval_path, valueOf_own hself, hown, call_container hd]
  have hhandle : P.eval scope (.method (.ofWord "database") (.ofWord "container") none
      [.path [n.accessor, .ofWord "CONTAINER"] none]) =
        pure (.container ⟨d, n.set.container⟩) := by
    rw [eval_methodOn hname (by simp), Expr.ofWord, eval_bound hdatabase]
    rfl
  have hargs := evalAll_eq (.cons hhandle .nil)
  rw [Names.clientValue, evalField_some, eval_call, hargs, pure_bind,
    onPath_own hself _ (v := .container _) (by simp), hown, call_accessorNew depth hd]
  rfl

/-- Fields that have values are run one after the other. -/
theorem evalFields_eq {fs : List (Ident × Option Expr)} {vs : List (Ident × Val σ α)}
    (h : List.Forall₂ (fun f v => P.evalField scope f = pure v) fs vs) :
    P.evalFields scope fs = pure vs := by
  induction h with
  | nil => rfl
  | cons hf _ ih => rw [evalFields_cons, hf, ih, pure_bind, pure_bind]

variable {models : List Names} {client : ClientNames} {runtime typePath : ImportPath}
  (hcode : P.code = moduleItems runtime typePath client models) (h : Apart models client)
  (haccepted : ∀ n ∈ models, Accepted n) (d : Driver σ)

include hcode

/-- The table has a row for each model. -/
theorem call_containers :
    (P.call (depth + 1) [.ofWord "CONTAINERS"] [] : Eval σ (Val σ α)) =
      pure (.array (models.map fun n => .definition n.definition)) := by
  have htable : declared? P.code [.ofWord "CONTAINERS"] = _ := hcode ▸ declared?_containers _ _
  exact (call_constant htable depth).trans (eval_containerTable models)

include h haccepted

/-- A new client has a field for each model. -/
theorem call_clientNew :
    P.call (depth + 2) [client.type, .ofWord "new"] [.database d] =
      pure (.record client.type (models.map fun n => n.acquired d)) := by
  have hvars : bindings? (clientNew models) [.database d] = some
      [(.ofWord (if models.isEmpty then "_database" else "database"), (.database d : Val σ α))] :=
    rfl
  have hfields : P.evalFields
      ⟨P.call (depth + 1), client.type,
        [(.ofWord (if models.isEmpty then "_database" else "database"), .database d)]⟩
      (models.map Names.clientValue) = pure (models.map fun n => n.acquired d) := by
    refine evalFields_eq ?_
    rw [List.forall₂_map_left_iff, List.forall₂_map_right_iff, List.forall₂_same]
    intro n hn
    have hoffers : Offers P n := offers _ _ h hcode hn (haccepted n hn)
    refine eval_clientValue depth hoffers (haccepted n hn).ne_self rfl ?_
    -- where there is a model, the parameter is not left unused
    rw [List.isEmpty_eq_false_iff_exists_mem.mpr ⟨n, hn⟩]
    rfl
  have hnew : declared? P.code [client.type, .ofWord "new"] = _ := hcode ▸ declared?_new _ _ h
  rw [call_function hnew hvars, clientNew, runBody_give, List.headD_cons, eval_record, hfields]
  rfl

theorem call_factory (hself : client.type ≠ .ofWord "Self") :
    P.call (depth + 3) [client.factory] [.database d] =
      pure (.record client.type (models.map fun n => n.acquired d)) := by
  have hvars : bindings? (factory client) [.database d] = some
      [(.ofWord "database", (.database d : Val σ α))] := rfl
  have hargs : P.evalAll ⟨P.call (depth + 2), client.factory,
      [(.ofWord "database", .database d)]⟩ [.ofWord "database"] = pure [.database d] :=
    evalAll_eq (.cons (eval_bound rfl) .nil)
  have hfactory : declared? P.code [client.factory] = _ := hcode ▸ declared?_factory _ _ h
  rw [call_function hfactory hvars, factory, runBody_give, List.headD_cons, eval_call, hargs,
    pure_bind, onPath_own hself _ (v := .database d) (by simp)]
  exact congrArg settle (call_clientNew depth hcode h haccepted d)

end DocAccess.Emission
