import DocAccess.Emission.Module
import DocAccess.Proofs.Container.Runs
import DocAccess.Proofs.Emission.Running
import Mathlib.Data.List.Forall2

/-!
# What the bodies of methods do

A method of a generated accessor gives what the operation of an accessor gives that has the same
container, key and type of items.  Its body is run from the inside out: the variables it reads are
looked up, the call that it makes on its container is told apart, and what follows the call depends
on the answer alone.
-/

namespace DocAccess.Emission

open DocAccess.Accessors DocAccess.Code DocAccess.Container DocAccess.Document DocAccess.Operations
open DocAccess.Store Program
open DocAccess.Query (Parameter Prepared)

variable {σ α : Type}

/-! ### Calls of methods -/

/-- Options that may be left out, as a value. -/
def Val.ofOptions? : Option Options → Val σ α
  | some o => .present (.options o)
  | none => .absent

/-- Options that may be left out, as a request has them. -/
def orNoOptions (o : Option Options) : Options := o.getD Options.none

/-- A call of a method of an accessor, with arguments of the types that it takes.  The key does not
matter where items are their own partition. -/
inductive MethodCall (α : Type) where
  | create (item : α) (o : Option Options)
  | read (id key : String) (o : Option Options)
  | readOrThrow (id key : String) (o : Option Options)
  | readAll (o : Option Options)
  | readAllByKey (key : String) (o : Option Options)
  | replace (id key : String) (item : α) (o : Option Options)
  | delete (id key : String) (o : Option Options)
  | query (clause : String) (ps : List Parameter)

/-- The accessor of a model as a value. -/
def Names.access (n : Names) (h : Handle σ) : Val σ α :=
  .record n.accessor [(.ofWord "container", .container h)]

namespace MethodCall

/-- The kind of operation that is called. -/
def kind : MethodCall α → Kind
  | create .. => .create
  | read .. => .read
  | readOrThrow .. => .readOrThrow
  | readAll .. => .readAll
  | readAllByKey .. => .readAllByKey
  | replace .. => .replace
  | delete .. => .delete
  | query .. => .query

/-- The values that address an item. -/
def addressing (key : Partition.Key) (id partition : String) : List (Val σ α) :=
  if key.isIdentity then [.text id] else [.text id, .text partition]

/-- The arguments of a call behind the accessor itself. -/
def args (n : Names) : MethodCall α → List (Val σ α)
  | create item o => [.item n.entity item, .ofOptions? o]
  | read id key o | readOrThrow id key o | delete id key o =>
      addressing n.set.key id key ++ [.ofOptions? o]
  | readAll o => [.ofOptions? o]
  | readAllByKey key o => [.text key, .ofOptions? o]
  | replace id key item o =>
      addressing n.set.key id key ++ [.item n.entity item, .ofOptions? o]
  | query clause ps => [.text clause, .parameters ps]

/-- What the operation of an accessor gives. -/
def outcome (n : Names) (fresh : String) (x : Accessor σ α) : MethodCall α → Eval σ (Val σ α)
  | create item o => attempt (x.create fresh item (orNoOptions o)) (.item n.entity)
  | read id key o => attempt (x.read? id key (orNoOptions o)) fun
      | some item => .present (.item n.entity item)
      | none => .absent
  | readOrThrow id key o => attempt (x.read id key (orNoOptions o)) (.item n.entity)
  | readAll o => return .feed n.entityType (x.readAll (orNoOptions o))
  | readAllByKey key o => return .feed n.entityType (x.readPartition key (orNoOptions o))
  | replace id key item o => attempt (x.replace id key item (orNoOptions o)) (.item n.entity)
  | delete id key o => attempt (x.delete id key (orNoOptions o)) fun _ => .unit
  | query clause ps => return .feed (.ofWord "JsonValue" []) (x.query clause ps)

end MethodCall

/-- The accessor that a model stands for. -/
def Names.toAccessor (n : Names) (P : Program α) (h : Handle σ) : Accessor σ α :=
  ⟨h, n.set.key, P.entity n.entity⟩

variable {P : Program α} {n : Names}

/-! ### Expressions -/

section Expressions

variable {scope : Scope σ α} {h : Handle σ} {vs : List (Val σ α)} {args : List Expr}

theorem eval_bound {name : Ident} {v : Val σ α} (hv : scope.vars.lookup name = some v) :
    P.eval scope (.var name) = pure v := by
  rw [eval_var, hv, orStuck]

/-- Arguments that have values are run one after the other. -/
theorem evalAll_eq (hargs : List.Forall₂ (fun e v => P.eval scope e = pure v) args vs) :
    P.evalAll scope args = pure vs := by
  induction hargs with
  | nil => rfl
  | cons he _ ih => rw [evalAll_cons, he, ih, pure_bind, pure_bind]

theorem eval_methodOn {receiver : Expr} {name : Ident} {type : Option Ty}
    (hargs : P.evalAll scope args = pure vs) (hplain : ∀ e, args ≠ [.closure e]) :
    P.eval scope (.method receiver name type args) =
      P.eval scope receiver >>= fun v => P.onAny scope v name type vs := by
  simp only [eval_method hplain, hargs, pure_bind]

/-- A method that works on its container asks the runtime for what its arguments say. -/
theorem eval_onContainer (hself : scope.vars.lookup (.ofWord "self") = some (n.access h))
    {method : String} {type : Option Ty} (hargs : P.evalAll scope args = pure vs)
    (hplain : ∀ e, args ≠ [.closure e]) :
    P.eval scope (Names.onContainer method type args) = P.onContainer h method type vs := by
  have hfield : P.eval scope Names.container = pure (.container h) := by
    rw [Names.container, eval_field, Expr.ofWord, eval_bound hself]
    rfl
  rw [Names.onContainer, eval_methodOn hargs hplain, hfield]
  rfl

end Expressions

/-! ### The runtime -/

section Runtime

variable (h : Handle σ) (id key : String) (type : Ident) (item : α) (o : Option Options)

theorem onContainer_create :
    P.onContainer h "create_item" none [.item type item, .ofOptions? o] =
      attempt (h.create P.fresh ((P.entity type).encode item) (orNoOptions o)) .document := by
  cases o <;> rfl

theorem onContainer_read :
    P.onContainer h "read_item" none [.text id, .text key, .ofOptions? o] =
      attempt (h.read? ⟨key, id⟩ (orNoOptions o)) Val.ofDocument? := by
  cases o <;> rfl

theorem onContainer_replace :
    P.onContainer h "replace_item" none
        [.text id, .text key, .item type item, .ofOptions? o] =
      attempt (h.replace ⟨key, id⟩ ((P.entity type).encode item) (orNoOptions o)) .document := by
  cases o <;> rfl

theorem onContainer_delete :
    P.onContainer h "delete_item" none [.text id, .text key, .ofOptions? o] =
      attempt (h.delete ⟨key, id⟩ (orNoOptions o)) fun _ => .unit := by
  cases o <;> rfl

theorem onContainer_readAll (ty : Ty) :
    P.onContainer h "read_all" (some ty) [.ofOptions? o] =
      pure (.feed ty (h.readAll (orNoOptions o))) := by
  cases o <;> rfl

theorem onContainer_query (ty : Ty) (q : Prepared) :
    P.onContainer h "query" (some ty) [.query q, .ofOptions? o] =
      pure (.feed ty (h.query q (orNoOptions o))) := by
  cases o <;> rfl

end Runtime

/-! ### The ends of bodies -/

section Ends

variable {β γ : Type} {run : Run σ β} {value : β → Val σ α} {s s' : σ}

theorem attempt_ok {b : β} (hrun : run s = (.ok b, s')) :
    attempt run value s = (.ok (.succeeded (value b)), s') := by
  simp only [attempt, ExceptT.run, hrun]

theorem attempt_error {e : StoreError} (hrun : run s = (.error e, s')) :
    attempt run value s = (.ok (.failed e), s') := by
  simp only [attempt, ExceptT.run, hrun]

variable (run value)

theorem settle_attempt : settle (attempt run value) = attempt run value := by
  funext s
  rcases hrun : run s with ⟨answer, s'⟩
  cases answer with
  | ok b => rw [settle, attempt_ok hrun]
  | error e => rw [settle, attempt_error hrun]

/-- What a body asks for first decides whether the rest of it runs. -/
theorem settle_unwrap {next : β → Run σ γ} {value' : γ → Val σ α}
    {rest : Val σ α → Eval σ (Val σ α)}
    (hrest : ∀ b, settle (rest (value b)) = attempt (next b) value') :
    settle (attempt run value >>= unwrap >>= rest) = attempt (run >>= next) value' := by
  funext s
  rcases hrun : run s with ⟨answer, s'⟩
  cases answer with
  | error e =>
      have hfirst : (attempt run value >>= unwrap) s = (.error (.left e), s') :=
        run_bind_ok (attempt_error hrun)
      rw [settle, run_bind_error hfirst, attempt_error (run_bind_error hrun)]
  | ok b =>
      have hfirst : (attempt run value >>= unwrap) s = (.ok (value b), s') :=
        run_bind_ok (attempt_ok hrun)
      rw [settle, run_bind_ok hfirst]
      simp only [attempt, ExceptT.run, run_bind_ok hrun]
      exact congrFun (hrest b) s'

/-- A document that is read as an item ends a body as reading it ends an operation. -/
theorem settle_read (type : Ident) (d : Value) :
    settle (pure (P.read type d) : Eval σ (Val σ α)) =
      attempt (liftM (fromResource (P.entity type).decode d) : Run σ α) (.item type) := by
  funext s
  unfold Program.read
  cases fromResource (P.entity type).decode d with
  | ok a => rfl
  | error e => rfl

/-- A document that may be missing is read as an item that may be missing. -/
theorem settle_transpose (scope : Scope σ α) (type : Ident) (d : Option Value) :
    settle (P.onAny scope (Val.ofDocument? d) (.ofWord "map") none [.reader type] >>= fun v =>
        P.onAny scope v (.ofWord "transpose") none []) =
      attempt (match d with
        | some d => return some (← fromResource (P.entity type).decode d)
        | none => return none : Run σ (Option α)) fun
          | some item => .present (.item type item)
          | none => .absent := by
  funext s
  cases d with
  | none => rfl
  | some d =>
      have hmap : P.onAny scope (Val.ofDocument? (some d)) (.ofWord "map") none [.reader type] =
          pure (.present (P.read type d)) := rfl
      rw [hmap, pure_bind]
      dsimp only
      unfold Program.read
      cases fromResource (P.entity type).decode d with
      | ok a => rfl
      | error e => rfl

end Ends

/-! ### Bodies -/

section Bodies

variable {scope : Scope σ α} {h : Handle σ} {id key : String} {item : α} {o : Option Options}
  (hself : scope.vars.lookup (.ofWord "self") = some (n.access h))
  (hid : scope.vars.lookup (.ofWord "id") = some (.text id))
  (hkey : scope.vars.lookup n.keyParam =
    some (.text (if n.set.key.isIdentity then id else key)))
  (hbody : scope.vars.lookup (.ofWord "body") = some (.item n.entity item))
  (hoptions : scope.vars.lookup (.ofWord "options") = some (.ofOptions? o))

include hself hbody hoptions in
theorem runBody_create :
    settle (P.runBody scope (n.body .create)) =
      (MethodCall.create item o).outcome n P.fresh (n.toAccessor P h) := by
  have hargs : P.evalAll scope [.ofWord "body", .ofWord "options"] =
      pure [.item n.entity item, .ofOptions? o] :=
    evalAll_eq (.cons (eval_bound hbody) (.cons (eval_bound hoptions) .nil))
  rw [Names.body, Names.storing, runBody_bind, eval_check, eval_await, eval_onContainer hself hargs (by simp),
    onContainer_create]
  exact settle_unwrap _ _ fun d => settle_read _ d

include hself hid hkey hbody hoptions in
theorem runBody_replace :
    settle (P.runBody scope (n.body .replace)) =
      (MethodCall.replace id key item o).outcome n P.fresh (n.toAccessor P h) := by
  have hargs : P.evalAll scope [.ofWord "id", n.keyArg, .ofWord "body", .ofWord "options"] =
      pure [.text id, .text (if n.set.key.isIdentity then id else key), .item n.entity item,
        .ofOptions? o] :=
    evalAll_eq (.cons (eval_bound hid) (.cons (eval_bound hkey)
      (.cons (eval_bound hbody) (.cons (eval_bound hoptions) .nil))))
  rw [Names.body, Names.storing, runBody_bind, eval_check, eval_await, eval_onContainer hself hargs (by simp),
    onContainer_replace]
  exact settle_unwrap _ _ fun d => settle_read _ d

include hid hkey hoptions in
theorem evalAll_itemArgs :
    P.evalAll scope [.ofWord "id", n.keyArg, .ofWord "options"] =
      pure [.text id, .text (if n.set.key.isIdentity then id else key), .ofOptions? o] :=
  evalAll_eq (.cons (eval_bound hid) (.cons (eval_bound hkey) (.cons (eval_bound hoptions) .nil)))

include hself hid hkey hoptions in
theorem runBody_delete :
    settle (P.runBody scope (n.body .delete)) =
      (MethodCall.delete id key o).outcome n P.fresh (n.toAccessor P h) := by
  rw [Names.body, runBody_give, eval_await,
    eval_onContainer hself (evalAll_itemArgs hid hkey hoptions) (by simp), onContainer_delete]
  exact settle_attempt _ _

include hself hid hkey hoptions in
theorem runBody_read :
    settle (P.runBody scope (n.body .read)) =
      (MethodCall.read id key o).outcome n P.fresh (n.toAccessor P h) := by
  have hreader : P.evalAll scope [n.fromResource] = pure [.reader n.entity] :=
    evalAll_eq (.cons rfl .nil)
  rw [Names.body, runBody_give, Names.readBody, eval_methodOn (evalAll_eq .nil) (by simp),
    eval_methodOn hreader (by simp [Names.fromResource]), eval_check, eval_await,
    eval_onContainer hself (evalAll_itemArgs hid hkey hoptions) (by simp), onContainer_read]
  rw [bind_assoc]
  exact settle_unwrap _ _ fun d => settle_transpose scope n.entity d

include hself hoptions in
theorem runBody_readAll :
    settle (P.runBody scope (n.body .readAll)) =
      (MethodCall.readAll o).outcome n P.fresh (n.toAccessor P h) := by
  have hargs : P.evalAll scope [.ofWord "options"] = pure [.ofOptions? o] :=
    evalAll_eq (.cons (eval_bound hoptions) .nil)
  rw [Names.body, runBody_give, eval_onContainer hself hargs (by simp [Expr.ofWord]),
    onContainer_readAll]
  rfl

/-- A body that runs a query gives the feed of its answers. -/
theorem runBody_querying {type : Ty} {query options : Expr} {q : Prepared}
    (hself : scope.vars.lookup (.ofWord "self") = some (n.access h))
    (hquery : P.eval scope query = pure (.query q))
    (hoptions : ∀ v, P.eval { scope with vars := (.ofWord "query", v) :: scope.vars } options =
      pure (.ofOptions? o)) :
    settle (P.runBody scope (Names.querying type query options)) =
      pure (.feed type (h.query q (orNoOptions o))) := by
  have hargs : P.evalAll { scope with vars := (.ofWord "query", .query q) :: scope.vars }
      [.ofWord "query", options] = pure [.query q, .ofOptions? o] :=
    evalAll_eq (.cons (eval_bound rfl) (.cons (hoptions _) .nil))
  rw [Names.querying, runBody_bind, hquery, pure_bind, runBody_give,
    eval_onContainer (h := h) (n := n) ?_ hargs (by simp), onContainer_query]
  · rfl
  · rw [← hself]
    rfl

include hself hoptions in
theorem runBody_readAllByKey (hparam : scope.vars.lookup n.keyParam = some (.text key)) :
    settle (P.runBody scope (n.body .readAllByKey)) =
      (MethodCall.readAllByKey key o).outcome n P.fresh (n.toAccessor P h) := by
  have hnew :
      P.eval scope (.call (.ofWords ["SqlQuery", "new"]) [.literal n.set.key.partitionQuery]) =
        pure (.query (Prepared.ofText n.set.key.partitionQuery)) := by
    have hargs : P.evalAll scope [.literal n.set.key.partitionQuery] =
        pure [.text n.set.key.partitionQuery] := evalAll_eq (.cons rfl .nil)
    rw [Expr.ofWords, eval_call, hargs]
    rfl
  have hquery : P.eval scope n.partitionQuery =
      pure (.query (Accessor.partitionQuery n.set.key key)) := by
    have hargs : P.evalAll scope [.literal n.set.key.queryParameter, n.keyArg] =
        pure [.text n.set.key.queryParameter, .text key] :=
      evalAll_eq (.cons rfl (.cons (eval_bound hparam) .nil))
    rw [Names.partitionQuery, eval_methodOn hargs (by simp), hnew]
    rfl
  refine runBody_querying hself hquery fun v => eval_bound ?_
  rw [← hoptions]
  rfl

include hself in
theorem runBody_query {clause : String} {ps : List Parameter}
    (hfilter : scope.vars.lookup (.ofWord "filter") = some (.text clause))
    (hparameters : scope.vars.lookup (.ofWord "parameters") = some (.parameters ps)) :
    settle (P.runBody scope (n.body .query)) =
      (MethodCall.query clause ps).outcome n P.fresh (n.toAccessor P h) := by
  have hall : P.eval scope (.call (.ofWords ["SqlQuery", "select_all"]) [.ofWord "filter"]) =
      pure (.query (Prepared.selectAll clause)) := by
    have hargs : P.evalAll scope [.ofWord "filter"] = pure [.text clause] :=
      evalAll_eq (.cons (eval_bound hfilter) .nil)
    rw [Expr.ofWords, eval_call, hargs]
    rfl
  have hquery : P.eval scope Names.filterQuery =
      pure (.query { Prepared.selectAll clause with parameters := ps }) := by
    have hargs : P.evalAll scope [.ofWord "parameters"] = pure [.parameters ps] :=
      evalAll_eq (.cons (eval_bound hparameters) .nil)
    -- nothing is bound before
    have hnone : (Prepared.selectAll clause).parameters = [] := by
      unfold Prepared.selectAll
      dsimp only
      split <;> rfl
    rw [Names.filterQuery, eval_methodOn hargs (by simp [Expr.ofWord]), hall, pure_bind]
    show (pure (.query { Prepared.selectAll clause with
      parameters := (Prepared.selectAll clause).parameters ++ ps }) : Eval σ (Val σ α)) = _
    rw [hnone, List.nil_append]
  exact runBody_querying (o := none) hself hquery fun _ => rfl

include hid hkey hoptions in
/-- The arguments with which a method reads through another. -/
theorem evalAll_readArgs :
    P.evalAll scope n.readArgs =
      pure (MethodCall.addressing n.set.key id key ++ [.ofOptions? o]) := by
  cases hidentity : n.set.key.isIdentity with
  | true =>
      simp only [Names.readArgs, MethodCall.addressing, hidentity, if_true]
      exact evalAll_eq (.cons (eval_bound hid) (.cons (eval_bound hoptions) .nil))
  | false =>
      rw [hidentity] at hkey
      simp only [Names.readArgs, MethodCall.addressing, hidentity, Bool.false_eq_true, if_false]
      exact evalAll_eq
        (.cons (eval_bound hid) (.cons (eval_bound hkey) (.cons (eval_bound hoptions) .nil)))

/-- What there is, or a failure. -/
def orElse (cause : StoreError) : Val σ α → Eval σ (Val σ α)
  | .present v => return .succeeded v
  | .absent => return .failed cause
  | _ => stuck

theorem eval_orElse {receiver e : Expr} {cause : StoreError}
    (he : P.eval scope e = pure (.error cause)) :
    P.eval scope (.method receiver (.ofWord "ok_or_else") none [.closure e]) =
      P.eval scope receiver >>= orElse cause := by
  rw [eval, he]
  refine congrArg (P.eval scope receiver >>= ·) (funext fun v => ?_)
  cases v <;> rfl

/-- The item of an identifier; a missing one is an error that names some container. -/
def demand (x : Accessor σ α) (container id partition : String) (o : Options) : Run σ α := do
  match ← x.read? id partition o with
  | some item => return item
  | none => throw (.notFound container id)

include hself hid hkey hoptions in
/-- A method that reads through another fails on a missing item, in the name of its model's
container. -/
theorem runBody_readOrThrow
    (hread : scope.own [n.accessor, .ofWord "read"]
        (n.access h :: (MethodCall.read id key o : MethodCall α).args n) =
      (MethodCall.read id key o).outcome n P.fresh (n.toAccessor P h))
    (hcontainer : scope.own [scope.self, .ofWord "CONTAINER"] [] = pure (.text n.set.container)) :
    settle (P.runBody scope (n.body .readOrThrow)) =
      attempt (demand (n.toAccessor P h) n.set.container id key (orNoOptions o))
        (.item n.entity) := by
  have hfound : P.eval scope (.method (.ofWord "self") (.ofWord "read") none n.readArgs) =
      (MethodCall.read id key o).outcome n P.fresh (n.toAccessor P h) := by
    rw [eval_methodOn (evalAll_readArgs hid hkey hoptions) ?_, Expr.ofWord, eval_bound hself, pure_bind]
    · exact hread
    · intro e
      simp [Names.readArgs]
  -- what the closure gives if the item is missing
  have hmissing : P.eval scope (.call (.ofWords ["StoreError", "not_found"])
      [.ofWords ["Self", "CONTAINER"], .ofWord "id"]) =
        pure (.error (.notFound n.set.container id)) := by
    have hargs : P.evalAll scope [.ofWords ["Self", "CONTAINER"], .ofWord "id"] =
        pure [.text n.set.container, .text id] := by
      refine evalAll_eq (.cons ?_ (.cons (eval_bound hid) .nil))
      exact hcontainer
    rw [Expr.ofWords, eval_call, hargs]
    rfl
  rw [Names.body, runBody_give, Names.readOrErrBody, eval_orElse hmissing, eval_check, eval_await,
    hfound]
  refine settle_unwrap _ _ fun item => ?_
  cases item with
  | none => rfl
  | some item => rfl

end Bodies

end DocAccess.Emission
