import DocAccess.Proofs.Emission.Bodies

/-!
# Calls of generated methods

A method that a module declares is called with an accessor and arguments of the types that it takes.
Its parameters give the variables that its body reads, and the parameter for the key is none of the
others, so that every call gives what the operation of an accessor gives.
-/

namespace DocAccess.Emission

open DocAccess.Accessors DocAccess.Code DocAccess.Container DocAccess.Operations DocAccess.Store
open Program

variable {σ α : Type} {P : Program α} {n : Names}

/-! ### What is known of a model -/

/-- Whether a program has the operations of a model, with every member at its path. -/
structure Offers (P : Program α) (n : Names) : Prop where
  operations : n.set.operations = (kindsFor n.set.key).map (.ofKind n.set.key)
  members : ∀ member ∈ n.members, declared? P.code [n.accessor, member.name] = some member

/-- Whether the parameter for the key is none of the others, unless it is the identifier. -/
structure KeyApart (n : Names) : Prop where
  identity : n.set.key.isIdentity = true → n.keyParam = .ofWord "id"
  other : n.set.key.isIdentity = false →
    n.keyParam ∉ ["self", "id", "body", "options"].map Ident.ofWord

/-! ### Variables -/

/-- The variables of a method that addresses an item. -/
def itemVars (n : Names) (h : Handle σ) (id key : String) (rest : List (Ident × Val σ α)) :
    List (Ident × Val σ α) :=
  (.ofWord "self", n.access h) :: (.ofWord "id", .text id) ::
    ((if n.set.key.isIdentity then [] else [(n.keyParam, .text key)]) ++ rest)

section Variables

variable {h : Handle σ} {id key : String} {rest : List (Ident × Val σ α)}

theorem KeyApart.ne (hkey : KeyApart n) (hidentity : n.set.key.isIdentity = false) {name : String}
    (hname : name ∈ ["self", "id", "body", "options"]) : n.keyParam ≠ .ofWord name := by
  intro heq
  exact hkey.other hidentity (heq ▸ List.mem_map_of_mem hname)

theorem lookup_keyParam (hkey : KeyApart n) :
    (itemVars n h id key rest).lookup n.keyParam =
      some (.text (if n.set.key.isIdentity then id else key)) := by
  cases hidentity : n.set.key.isIdentity with
  | true =>
      rw [hkey.identity hidentity]
      rfl
  | false =>
      have hself : (n.keyParam == .ofWord "self") = false :=
        beq_false_of_ne (hkey.ne hidentity (by decide))
      have hid : (n.keyParam == .ofWord "id") = false :=
        beq_false_of_ne (hkey.ne hidentity (by decide))
      simp [itemVars, hidentity, List.lookup_cons, hself, hid]

theorem lookup_rest (hkey : KeyApart n) {name : String} (hname : name ∈ ["body", "options"]) :
    (itemVars n h id key rest).lookup (.ofWord name) = rest.lookup (.ofWord name) := by
  have hself : (Ident.ofWord name == Ident.ofWord "self") = false := by
    rcases List.mem_pair.mp hname with rfl | rfl <;> rfl
  have hid : (Ident.ofWord name == Ident.ofWord "id") = false := by
    rcases List.mem_pair.mp hname with rfl | rfl <;> rfl
  cases hidentity : n.set.key.isIdentity with
  | true => simp [itemVars, hidentity, List.lookup_cons, hself, hid]
  | false =>
      have hmem : name ∈ ["self", "id", "body", "options"] := by
        rcases List.mem_pair.mp hname with rfl | rfl <;> decide
      have hapart := beq_false_of_ne (hkey.ne hidentity hmem).symm
      simp [itemVars, hidentity, List.lookup_cons, hself, hid, hapart]

/-- The arguments of a method on one item give its variables. -/
theorem bindings?_item {kind : Kind} (extra : List Param) {vs : List (Val σ α)}
    (hkind : kind.params n.set.key = addressed n.set.key extra)
    (hlength : vs.length = extra.length + 1) :
    bindings? (n.method (.ofKind n.set.key kind))
        (n.access h :: (MethodCall.addressing n.set.key id key ++ vs)) =
      some (itemVars n h id key
        (((extra ++ [Param.options]).map fun p => (n.param p).1).zip vs)) := by
  cases hidentity : n.set.key.isIdentity with
  | true =>
      simp [bindings?, Names.method, Operation.ofKind, hkind, addressed, addressing,
        MethodCall.addressing, hidentity, itemVars, Names.param, hlength, Function.comp_def]
  | false =>
      simp [bindings?, Names.method, Operation.ofKind, hkind, addressed, addressing,
        MethodCall.addressing, hidentity, itemVars, Names.param, hlength, Function.comp_def]

end Variables

/-! ### Methods -/

section Methods

variable (hd : Offers P n) (hkey : KeyApart n)

theorem mem_kindsFor_iff (kind : Kind) (key : Partition.Key) :
    kind ∈ kindsFor key ↔ (kind = .readAllByKey → key.isIdentity = false) := by
  have hall : kind ∈ Kind.all := by cases kind <;> decide
  by_cases hkind : kind = .readAllByKey
  · simp [kindsFor, hkind, emitsReadAllByKey, Kind.all]
  · simp [kindsFor, hkind, hall]

include hd

theorem Offers.method {kind : Kind} (hkind : kind ∈ kindsFor n.set.key) :
    declared? P.code [n.accessor, n.methodName kind] =
      some (.function (n.method (.ofKind n.set.key kind))) := by
  refine hd.members (.function (n.method (.ofKind n.set.key kind)))
    (List.mem_append_right _ (List.mem_map.mpr ⟨.ofKind n.set.key kind, ?_, rfl⟩))
  rw [hd.operations]
  exact List.mem_map_of_mem hkind

/-- A method is run with the variables that its parameters give. -/
theorem call_eq {kind : Kind} (hkind : kind ∈ kindsFor n.set.key) {args : List (Val σ α)}
    {vars : List (Ident × Val σ α)}
    (hvars : bindings? (n.method (.ofKind n.set.key kind)) args = some vars) (depth : Nat) :
    P.call (depth + 1) [n.accessor, n.methodName kind] args =
      settle (P.runBody ⟨P.call depth, n.accessor, vars⟩ (n.body kind)) :=
  call_function (hd.method hkind) hvars depth

theorem call_container (depth : Nat) :
    (P.call (depth + 1) [n.accessor, .ofWord "CONTAINER"] [] : Eval σ (Val σ α)) =
      pure (.text n.set.container) :=
  call_constant (hd.members _ (List.mem_append_left _ List.mem_cons_self)) depth

include hkey

theorem call_read (h : Handle σ) (id key : String) (o : Option Options) (depth : Nat) :
    P.call (depth + 1) [n.accessor, .ofWord "read"]
        (n.access h :: (MethodCall.read id key o : MethodCall α).args n) =
      (MethodCall.read id key o).outcome n P.fresh (n.toAccessor P h) := by
  have hkind : Kind.read ∈ kindsFor n.set.key := (mem_kindsFor_iff _ _).mpr nofun
  have hvars : bindings? (n.method (.ofKind n.set.key .read))
      (n.access h :: (MethodCall.read id key o : MethodCall α).args n) = _ :=
    bindings?_item [] rfl rfl
  refine (call_eq hd hkind hvars depth).trans ?_
  exact runBody_read rfl rfl (lookup_keyParam hkey) (lookup_rest hkey (by decide))

/-- The method that fails on a missing item names the container of its model, whatever container its
accessor has. -/
theorem call_readOrThrow (h : Handle σ) (id key : String) (o : Option Options) (depth : Nat) :
    P.call (depth + 2) [n.accessor, n.methodName .readOrThrow]
        (n.access h :: (MethodCall.readOrThrow id key o : MethodCall α).args n) =
      attempt (demand (n.toAccessor P h) n.set.container id key (orNoOptions o))
        (.item n.entity) := by
  have hkind : Kind.readOrThrow ∈ kindsFor n.set.key := (mem_kindsFor_iff _ _).mpr nofun
  have hvars : bindings? (n.method (.ofKind n.set.key .readOrThrow))
      (n.access h :: (MethodCall.readOrThrow id key o : MethodCall α).args n) = _ :=
    bindings?_item [] rfl rfl
  refine (call_eq hd hkind hvars _).trans ?_
  exact runBody_readOrThrow rfl rfl (lookup_keyParam hkey) (lookup_rest hkey (by decide))
    (call_read hd hkey h id key o _) (call_container hd _)

/-- A method that is called with an accessor and arguments of its types gives what the operation of
the accessor gives. -/
theorem call_outcome (h : Handle σ) (c : MethodCall α)
    (hname : c.kind = .readOrThrow → h.name = n.set.container)
    (hc : c.kind ∈ kindsFor n.set.key) (depth : Nat) :
    P.call (depth + 2) [n.accessor, n.methodName c.kind] (n.access h :: c.args n) =
      c.outcome n P.fresh (n.toAccessor P h) := by
  -- a call runs a body over the arguments that it binds, and each body has a lemma of its own
  cases c with
  | create item o =>
      have hvars : bindings? (n.method (.ofKind n.set.key .create))
          (n.access h :: (MethodCall.create item o).args n) = some
            [(.ofWord "self", n.access h), (.ofWord "body", .item n.entity item),
              (.ofWord "options", .ofOptions? o)] := rfl
      refine (call_eq hd hc hvars _).trans ?_
      exact runBody_create rfl rfl rfl
  | read id key o => exact call_read hd hkey h id key o _
  | readOrThrow id key o =>
      refine (call_readOrThrow hd hkey h id key o depth).trans ?_
      rw [← hname rfl]
      rfl
  | readAll o =>
      have hvars : bindings? (n.method (.ofKind n.set.key .readAll))
          (n.access h :: (MethodCall.readAll o : MethodCall α).args n) = some
            [(.ofWord "self", n.access h), (.ofWord "options", .ofOptions? o)] := rfl
      refine (call_eq hd hc hvars _).trans ?_
      exact runBody_readAll rfl rfl
  | readAllByKey key o =>
      have hidentity := (mem_kindsFor_iff _ _).mp hc rfl
      have hvars : bindings? (n.method (.ofKind n.set.key .readAllByKey))
          (n.access h :: (MethodCall.readAllByKey key o : MethodCall α).args n) = some
            [(.ofWord "self", n.access h), (n.keyParam, .text key),
              (.ofWord "options", .ofOptions? o)] := rfl
      refine (call_eq hd hc hvars _).trans ?_
      -- the one argument that is named after a path hides none of the others
      have hself : (n.keyParam == .ofWord "self") = false :=
        beq_false_of_ne (hkey.ne hidentity (by decide))
      have hoptions : (.ofWord "options" == n.keyParam) = false :=
        beq_false_of_ne (hkey.ne hidentity (by decide)).symm
      refine runBody_readAllByKey rfl ?_ ?_
      · have hword : (Ident.ofWord "options" == Ident.ofWord "self") = false := rfl
        simp [List.lookup_cons, hword, hoptions]
      · simp [List.lookup_cons, hself]
  | replace id key item o =>
      have hvars : bindings? (n.method (.ofKind n.set.key .replace))
          (n.access h :: (MethodCall.replace id key item o).args n) = _ :=
        bindings?_item [.body] rfl rfl
      refine (call_eq hd hc hvars _).trans ?_
      exact runBody_replace rfl rfl (lookup_keyParam hkey) (lookup_rest hkey (by decide))
        (lookup_rest hkey (by decide))
  | delete id key o =>
      have hvars : bindings? (n.method (.ofKind n.set.key .delete))
          (n.access h :: (MethodCall.delete id key o : MethodCall α).args n) = _ :=
        bindings?_item [] rfl rfl
      refine (call_eq hd hc hvars _).trans ?_
      exact runBody_delete rfl rfl (lookup_keyParam hkey) (lookup_rest hkey (by decide))
  | query clause ps =>
      have hvars : bindings? (n.method (.ofKind n.set.key .query))
          (n.access h :: (MethodCall.query clause ps : MethodCall α).args n) = some
            [(.ofWord "self", n.access h), (.ofWord "filter", .text clause),
              (.ofWord "parameters", .parameters ps)] := rfl
      refine (call_eq hd hc hvars _).trans ?_
      exact runBody_query rfl rfl rfl

end Methods

end DocAccess.Emission
