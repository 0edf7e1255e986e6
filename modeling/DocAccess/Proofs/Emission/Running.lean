import DocAccess.Accessors.Basic
import DocAccess.Code.Item

/-!
# Running generated code

What a module does when its functions are called, given what the runtime does.  Each form of
expression has one rule; a form that stands where it has no meaning leaves the code stuck.  The
functions of the module call each other to a bounded depth, which is small, as none of them calls
itself.
-/

namespace DocAccess.Emission

open DocAccess.Accessors DocAccess.Code DocAccess.Container DocAccess.Document DocAccess.Store
open DocAccess.Query (Parameter Prepared)

/-! ### Values -/

/-- A value of running code.  The items of all models are of one type. -/
inductive Val (σ α : Type) where
  | text (t : String)
  | item (type : Ident) (a : α)
  | document (d : Value)
  | options (o : Options)
  | parameters (ps : List Parameter)
  | query (q : Prepared)
  | definition (d : Definition)
  | database (d : Driver σ)
  | container (h : Handle σ)
  | feed (item : Ty) (f : Feed)
  | error (e : StoreError)
  /-- The function that reads documents as items of a type. -/
  | reader (type : Ident)
  | unit
  | absent
  | present (v : Val σ α)
  | succeeded (v : Val σ α)
  | failed (e : StoreError)
  | array (items : List (Val σ α))
  | record (type : Ident) (fields : List (Ident × Val σ α))

/-- Why running code gives no value. -/
inductive Halt where
  /-- A body is left with an error of the store. -/
  | left (e : StoreError)
  /-- What is run has no meaning. -/
  | stuck

/-- Running code that may change the store. -/
abbrev Eval (σ β : Type) := ExceptT Halt (StateM σ) β

/-- A module, how the items of its types are read and written, and the identifier that the runtime
draws next. -/
structure Program (α : Type) where
  code : Module
  entity : Ident → Entity α
  fresh : String

variable {σ α : Type}

/-- Code without meaning. -/
def stuck {β : Type} : Eval σ β := throw .stuck

/-- A value, if there is one. -/
def orStuck {β : Type} : Option β → Eval σ β
  | some b => pure b
  | none => stuck

/-! ### The runtime -/

/-- What an operation of the runtime gives: a value or an error, both as values. -/
def attempt {β : Type} (run : Run σ β) (value : β → Val σ α) : Eval σ (Val σ α) := fun s =>
  match run.run s with
  | (.ok b, s) => (.ok (.succeeded (value b)), s)
  | (.error e, s) => (.ok (.failed e), s)

/-- A document or nothing. -/
def Val.ofDocument? : Option Value → Val σ α
  | some d => .present (.document d)
  | none => .absent

/-- The options of a request; those left out are no options. -/
def Val.options? : Val σ α → Option Options
  | .absent => some Options.none
  | .present (.options o) => some o
  | _ => none

namespace Program

variable (P : Program α)

/-- Reads a document as an item of a type. -/
def read (type : Ident) (d : Value) : Val σ α :=
  match fromResource (P.entity type).decode d with
  | .ok a => .succeeded (.item type a)
  | .error e => .failed e

/-- A method of a container. -/
def onContainer (h : Handle σ) (method : String) (type : Option Ty) (args : List (Val σ α)) :
    Eval σ (Val σ α) :=
  match method, type, args with
  | "create_item", none, [.item type a, o] => do
      let o ← orStuck o.options?
      attempt (h.create P.fresh ((P.entity type).encode a) o) .document
  | "read_item", none, [.text id, .text key, o] => do
      let o ← orStuck o.options?
      attempt (h.read? ⟨key, id⟩ o) Val.ofDocument?
  | "replace_item", none, [.text id, .text key, .item type a, o] => do
      let o ← orStuck o.options?
      attempt (h.replace ⟨key, id⟩ ((P.entity type).encode a) o) .document
  | "delete_item", none, [.text id, .text key, o] => do
      let o ← orStuck o.options?
      attempt (h.delete ⟨key, id⟩ o) fun _ => .unit
  | "read_all", some item, [o] => do
      let o ← orStuck o.options?
      return .feed item (h.readAll o)
  | "query", some item, [.query q, o] => do
      let o ← orStuck o.options?
      return .feed item (h.query q o)
  | _, _, _ => stuck

/-- A method of a value that is neither a container nor a record. -/
def onValue (v : Val σ α) (method : String) (args : List (Val σ α)) : Eval σ (Val σ α) :=
  match v, method, args with
  | .database d, "container", [.text name] => return .container ⟨d, name⟩
  | .query q, "with_parameter", [.text name, .text value] =>
      return .query (q.bind name (.string value))
  | .query q, "with_parameters", [.parameters ps] =>
      return .query { q with parameters := q.parameters ++ ps }
  | .absent, "map", [.reader _] => return .absent
  | .present (.document d), "map", [.reader type] => return .present (P.read type d)
  | .absent, "transpose", [] => return .succeeded .absent
  | .present (.succeeded v), "transpose", [] => return .succeeded (.present v)
  | .present (.failed e), "transpose", [] => return .failed e
  | _, _, _ => stuck

/-- A function of the runtime, if it is one. -/
def ofRuntime (function : List String) (type : Option Ty) (args : List (Val σ α)) :
    Option (Val σ α) :=
  match function, type, args with
  | ["ContainerDefinition", "new"], none, [.text name, .text path] =>
      some (.definition ⟨name, path⟩)
  | ["SqlQuery", "new"], none, [.text t] => some (.query (Prepared.ofText t))
  | ["SqlQuery", "select_all"], none, [.text clause] => some (.query (Prepared.selectAll clause))
  | ["StoreError", "not_found"], none, [.text container, .text id] =>
      some (.error (.notFound container id))
  | ["from_resource"], some (.named type []), [.document d] => some (P.read type d)
  | _, _, _ => none

/-! ### Expressions -/

/-- What the code around an expression gives it: the functions of the module, the type that it
belongs to, and the variables. -/
structure Scope (σ α : Type) where
  own : List Ident → List (Val σ α) → Eval σ (Val σ α)
  self : Ident
  vars : List (Ident × Val σ α)

namespace Scope

/-- A path of the module, with the type that the code belongs to in place of `Self`. -/
def resolve (scope : Scope σ α) : List Ident → List Ident
  | first :: rest => (if first = .ofWord "Self" then scope.self else first) :: rest
  | [] => []

/-- What a path stands for that is not called.  The function that reads documents is taken for
granted: a variable of its name would hide it, and the code would not compile. -/
def valueOf (scope : Scope σ α) (path : List Ident) (type : Option Ty) : Eval σ (Val σ α) :=
  match path.map Ident.text, type with
  | ["None"], none => return .absent
  | ["from_resource"], some (.named type []) => return .reader type
  | _, _ => scope.own (scope.resolve path) []

end Scope

/-- A call of a method. -/
def onAny (scope : Scope σ α) (v : Val σ α) (method : Ident) (type : Option Ty)
    (args : List (Val σ α)) : Eval σ (Val σ α) :=
  match v with
  | .container h => P.onContainer h method.text type args
  | .record owner _ => scope.own [owner, method] (v :: args)
  | _ => P.onValue v method.text args

/-- A call of a function by its path. -/
def onPath (scope : Scope σ α) (path : List Ident) (type : Option Ty) (args : List (Val σ α)) :
    Eval σ (Val σ α) :=
  match P.ofRuntime (path.map Ident.text) type args with
  | some v => return v
  | none => scope.own (scope.resolve path) args

/-- The value of a field. -/
def fieldOf (name : Ident) : Val σ α → Option (Val σ α)
  | .record _ fields => fields.lookup name
  | _ => none

/-- What stands in a result, or leaving the body with its error. -/
def unwrap : Val σ α → Eval σ (Val σ α)
  | .succeeded v => return v
  | .failed e => throw (.left e)
  | _ => stuck

mutual

/-- The value of an expression. -/
def eval (scope : Scope σ α) : Expr → Eval σ (Val σ α)
  | .var name => orStuck (scope.vars.lookup name)
  | .path names type => scope.valueOf names type
  | .literal t => return .text t
  | .field base name => do orStuck (fieldOf name (← eval scope base))
  | .method receiver name _ [.closure e] => do
      match ← eval scope receiver, name.text with
      | .present v, "ok_or_else" => return .succeeded v
      | .absent, "ok_or_else" =>
          match ← eval scope e with
          | .error cause => return .failed cause
          | _ => stuck
      | _, _ => stuck
  | .method receiver name type args => do
      let v ← eval scope receiver
      P.onAny scope v name type (← evalAll scope args)
  | .call (.path names type) args => do P.onPath scope names type (← evalAll scope args)
  | .call _ _ => stuck
  | .await e => eval scope e
  | .check e => do unwrap (← eval scope e)
  | .closure _ => stuck
  | .reference e => eval scope e
  | .array items => return .array (← evalAll scope items)
  | .record fields => return .record scope.self (← evalFields scope fields)

/-- The values of expressions, in order. -/
def evalAll (scope : Scope σ α) : List Expr → Eval σ (List (Val σ α))
  | [] => return []
  | e :: es => return (← eval scope e) :: (← evalAll scope es)

/-- The values of fields, in order. -/
def evalFields (scope : Scope σ α) : List (Ident × Option Expr) → Eval σ (List (Ident × Val σ α))
  | [] => return []
  | f :: fs => return (← evalField scope f) :: (← evalFields scope fs)

/-- The value of a field. -/
def evalField (scope : Scope σ α) : Ident × Option Expr → Eval σ (Ident × Val σ α)
  | (name, some e) => return (name, ← eval scope e)
  | (name, none) => return (name, ← orStuck (scope.vars.lookup name))

end

section Rules

variable {P} {scope : Scope σ α}

@[simp] theorem eval_var (name : Ident) :
    P.eval scope (.var name) = orStuck (scope.vars.lookup name) := rfl

@[simp] theorem eval_path (names : List Ident) (type : Option Ty) :
    P.eval scope (.path names type) = scope.valueOf names type := rfl

@[simp] theorem eval_literal (t : String) : P.eval scope (.literal t) = pure (.text t) := rfl

@[simp] theorem eval_field (base : Expr) (name : Ident) :
    P.eval scope (.field base name) = P.eval scope base >>= fun v => orStuck (fieldOf name v) := rfl

@[simp] theorem eval_call (names : List Ident) (type : Option Ty) (args : List Expr) :
    P.eval scope (.call (.path names type) args) =
      P.evalAll scope args >>= P.onPath scope names type := rfl

@[simp] theorem eval_await (e : Expr) : P.eval scope (.await e) = P.eval scope e := rfl

@[simp] theorem eval_check (e : Expr) : P.eval scope (.check e) = P.eval scope e >>= unwrap := rfl

@[simp] theorem eval_reference (e : Expr) : P.eval scope (.reference e) = P.eval scope e := rfl

@[simp] theorem eval_array (items : List Expr) :
    P.eval scope (.array items) = Val.array <$> P.evalAll scope items := rfl

@[simp] theorem eval_record (fields : List (Ident × Option Expr)) :
    P.eval scope (.record fields) = Val.record scope.self <$> P.evalFields scope fields := rfl

/-- A method that takes something else than a function is one of its receiver. -/
theorem eval_method {receiver : Expr} {name : Ident} {type : Option Ty} {args : List Expr}
    (hplain : ∀ e, args ≠ [.closure e]) :
    P.eval scope (.method receiver name type args) =
      P.eval scope receiver >>= fun v => P.evalAll scope args >>= P.onAny scope v name type := by
  rw [eval]
  exact hplain

@[simp] theorem evalAll_nil : P.evalAll scope [] = pure [] := rfl

@[simp] theorem evalAll_cons (e : Expr) (es : List Expr) :
    P.evalAll scope (e :: es) =
      (do return (← P.eval scope e) :: (← P.evalAll scope es)) := rfl

@[simp] theorem evalFields_nil : P.evalFields scope [] = pure [] := rfl

@[simp] theorem evalFields_cons (f : Ident × Option Expr) (fs : List (Ident × Option Expr)) :
    P.evalFields scope (f :: fs) =
      (do return (← P.evalField scope f) :: (← P.evalFields scope fs)) := rfl

@[simp] theorem evalField_some (name : Ident) (e : Expr) :
    P.evalField scope (name, some e) = (name, ·) <$> P.eval scope e := rfl

end Rules

/-! ### Calls -/

/-- What is declared under a name by an item. -/
def itemNamed? (name : Ident) : Item → Option Member
  | .constant c => if c.name = name then some (.constant c) else none
  | .function f => if f.name = name then some (.function f) else none
  | _ => none

/-- What is declared under a name as belonging to a type by an item. -/
def memberNamed? (type name : Ident) : Item → Option Member
  | .members owner members => if owner = type then members.find? (·.name = name) else none
  | _ => none

/-- What a module declares at a path. -/
def declared? (code : Module) : List Ident → Option Member
  | [name] => code.findSome? (itemNamed? name)
  | [type, name] => code.findSome? (memberNamed? type name)
  | _ => none

/-- The variables of a function that is called. -/
def bindings? (f : Function) (args : List (Val σ α)) : Option (List (Ident × Val σ α)) :=
  let names := (if f.takesSelf then [.ofWord "self"] else []) ++ f.params.map (·.1)
  if names.length = args.length then some (names.zip args) else none

/-- A body that is left with an error gives the error. -/
def settle (run : Eval σ (Val σ α)) : Eval σ (Val σ α) := fun s =>
  match run s with
  | (.error (.left e), s) => (.ok (.failed e), s)
  | other => other

/-- Runs statements up to the first that gives a value. -/
def runBody (scope : Scope σ α) : List Stmt → Eval σ (Val σ α)
  | [] => return .unit
  | .bind name value :: rest => do
      let v ← P.eval scope value
      runBody { scope with vars := (name, v) :: scope.vars } rest
  | .give value :: _ => P.eval scope value

/-- Calls what the module declares at a path; calls inside are bounded in depth. -/
def call : Nat → List Ident → List (Val σ α) → Eval σ (Val σ α)
  | 0, _, _ => stuck
  | depth + 1, path, args =>
      let self := path.headD (.ofWord "Self")
      match declared? P.code path with
      | some (.constant c) => P.eval ⟨call depth, self, []⟩ c.value
      | some (.function f) => do
          let vars ← orStuck (bindings? f args)
          settle (P.runBody ⟨call depth, self, vars⟩ f.body)
      | none => stuck

section Rules

variable {P} {scope : Scope σ α} {path : List Ident} {args : List (Val σ α)}

theorem runBody_bind (name : Ident) (value : Expr) (rest : List Stmt) :
    P.runBody scope (.bind name value :: rest) =
      P.eval scope value >>= fun v =>
        P.runBody { scope with vars := (name, v) :: scope.vars } rest := rfl

theorem runBody_give (value : Expr) (rest : List Stmt) :
    P.runBody scope (.give value :: rest) = P.eval scope value := rfl

theorem call_constant {c : Constant} (hc : declared? P.code path = some (.constant c))
    (depth : Nat) :
    P.call (depth + 1) path args =
      P.eval ⟨P.call depth, path.headD (.ofWord "Self"), []⟩ c.value := by
  rw [call, hc]

theorem call_function {f : Function} {vars : List (Ident × Val σ α)}
    (hf : declared? P.code path = some (.function f)) (hvars : bindings? f args = some vars)
    (depth : Nat) :
    P.call (depth + 1) path args =
      settle (P.runBody ⟨P.call depth, path.headD (.ofWord "Self"), vars⟩ f.body) := by
  rw [call, hf]
  dsimp only
  rw [hvars, orStuck, pure_bind]

end Rules

end Program

end DocAccess.Emission
