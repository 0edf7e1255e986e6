import DocAccess.Proofs.Emission.Declarations

/-!
# Local names of generated methods

The arguments of a method follow from its operation, and its body is written for the kind of that
operation; the two have only names in common.  A name that a body reads refers to what is bound to
it closest by: a variable that was bound earlier in the body, or else an argument.  The argument for
the key is named after a path, so it may have the name of such a variable, and a keyword is made
raw.  A raw identifier is spelled like others, so names are told apart by their spelling alone.

* `find?_argument` — an argument is found under its name.
* `referents_method` — what the names in the body of a method refer to.
* `fromResource_hidden_iff` — the one function of the module that the argument for a key can hide.
* `bound_as_meant` — members and arguments are told apart, and every name refers to what it is
  meant to.
-/

namespace DocAccess.Code

/-! ### What names refer to -/

/-- What a local name may refer to. -/
inductive Referent where
  /-- The value that a method belongs to. -/
  | receiver
  | argument (name : Ident)
  /-- A variable of the body. -/
  | bound (name : Ident)
  deriving DecidableEq

/-- The spellings of local names with what they refer to, the closest in front. -/
abbrev Scope := List (String × Referent)

/-- What a name refers to. -/
def Scope.find? (scope : Scope) (name : Ident) : Option Referent :=
  (List.find? (fun entry => entry.1 = name.name) scope).map (·.2)

theorem Scope.find?_cons (spelling : String) (referent : Referent) (scope : Scope) (name : Ident) :
    Scope.find? ((spelling, referent) :: scope) name =
      if spelling = name.name then some referent else scope.find? name := by
  by_cases h : spelling = name.name
  · simp [Scope.find?, h]
  · simp [Scope.find?, h]

/-- A name that is bound is found. -/
theorem Scope.find?_ne_none_iff (scope : Scope) (name : Ident) :
    scope.find? name ≠ none ↔ name.name ∈ scope.map (·.1) := by
  simp [Scope.find?]

/-- What the names that statements read refer to, in order; `none` for names without a referent. -/
def referents (scope : Scope) : List Stmt → List (Option Referent)
  | [] => []
  | .bind name value :: rest =>
      value.reads.map scope.find? ++ referents ((name.name, .bound name) :: scope) rest
  | .give value :: rest => value.reads.map scope.find? ++ referents scope rest

namespace Function

variable {f : Function}

/-- The names that a body finds. -/
def scope (f : Function) : Scope :=
  (if f.takesSelf then [("self", .receiver)] else []) ++
    f.params.map fun p => (p.1.name, .argument p.1)

/-- What the names in the body of a function refer to. -/
def referents (f : Function) : List (Option Referent) := Code.referents f.scope f.body

/-- Whether the arguments of a function are told apart, also from the value that it belongs to. -/
def TellsApart (f : Function) : Prop := ("self" :: f.params.map (·.1.name)).Nodup

theorem map_scope (f : Function) :
    f.scope.map (·.1) = (if f.takesSelf then ["self"] else []) ++ f.params.map (·.1.name) := by
  rw [scope, List.map_append, List.map_map]
  cases f.takesSelf with
  | true | false => rfl

theorem TellsApart.nodup_scope (h : f.TellsApart) : (f.scope.map (·.1)).Nodup := by
  rw [map_scope]
  cases f.takesSelf with
  | true => exact h
  | false => exact h.of_cons

end Function

end DocAccess.Code

namespace DocAccess.Emission

open DocAccess.Code DocAccess.Generate DocAccess.Operations

section Scope

variable {f : Function}

theorem find?_of_mem_scope (h : f.TellsApart) {name : Ident} {referent : Referent}
    (hmem : (name.name, referent) ∈ f.scope) : f.scope.find? name = some referent := by
  have hfind := find?_of_nodup h.nodup_scope hmem
  rw [Scope.find?, hfind]
  rfl

theorem find?_receiver (h : f.TellsApart) (hself : f.takesSelf = true) :
    f.scope.find? (.ofWord "self") = some .receiver := by
  refine find?_of_mem_scope h ?_
  rw [Function.scope, hself]
  exact List.mem_cons_self

theorem find?_argument (h : f.TellsApart) {i : Ident} (hi : i ∈ f.params.map (·.1)) :
    f.scope.find? i = some (.argument i) := by
  obtain ⟨p, hp, rfl⟩ := List.mem_map.mp hi
  exact find?_of_mem_scope h (List.mem_append_right _ (List.mem_map.mpr ⟨p, hp, rfl⟩))

end Scope

/-! ### Methods -/

variable {n : Names}

/-- Whether the argument for the key is spelled like no other one, unless it is the identifier. -/
structure KeySpelledApart (n : Names) : Prop where
  identity : n.set.key.isIdentity = true → n.keyParam = .ofWord "id"
  other : n.set.key.isIdentity = false → n.keyParam.name ∉ ["self", "id", "body", "options"]

/-- What the names in the body for a kind of operation are meant to refer to, in order. -/
def Names.meant (n : Names) : Kind → List Referent
  | .create => [.receiver, .argument (.ofWord "body"), .argument (.ofWord "options"),
      .bound (.ofWord "resource")]
  | .read | .delete => [.receiver, .argument (.ofWord "id"), .argument n.keyParam,
      .argument (.ofWord "options")]
  | .readOrThrow => .receiver :: .argument (.ofWord "id") ::
      ((if n.set.key.isIdentity then [] else [.argument n.keyParam]) ++
        [.argument (.ofWord "options"), .argument (.ofWord "id")])
  | .readAll => [.receiver, .argument (.ofWord "options")]
  | .readAllByKey => [.argument n.keyParam, .receiver, .bound (.ofWord "query"),
      .argument (.ofWord "options")]
  | .replace => [.receiver, .argument (.ofWord "id"), .argument n.keyParam,
      .argument (.ofWord "body"), .argument (.ofWord "options"), .bound (.ofWord "resource")]
  | .query => [.argument (.ofWord "filter"), .argument (.ofWord "parameters"), .receiver,
      .bound (.ofWord "query")]

theorem map_params_method (kind : Kind) :
    (n.method (.ofKind n.set.key kind)).params.map (·.1.name) =
      (kind.params n.set.key).map fun p => (n.param p).1.name := by
  simp [Names.method, Operation.ofKind]

/-- What is passed on for reading are the arguments of the method that reads, in order. -/
theorem readArgs_eq :
    n.readArgs = (n.method (.ofKind n.set.key .read)).params.map fun p => .var p.1 := by
  unfold Names.readArgs
  simp only [Names.method, Operation.ofKind, Kind.params, addressed, addressing]
  cases n.set.key.isIdentity with
  | true | false => rfl

/-- A body that stores an item reads at last what the store has answered. -/
theorem referents_storing (scope : Scope) (method : String) (args : List Expr) :
    Code.referents scope (n.storing (Names.onContainer method none args)) =
      scope.find? (.ofWord "self") :: ((Expr.readsOfAll args).map scope.find? ++
        [some (.bound (.ofWord "resource"))]) := by
  simp [Names.storing, Names.onContainer, Names.container, Names.fromResource, Code.referents,
    Expr.reads, Expr.readsOfAll, Expr.ofWord, Scope.find?_cons]

/-- A body that runs a query reads the query after it was made, and the options. -/
theorem referents_querying (scope : Scope) (item : Ty) (query options : Expr)
    (hoptions : ∀ i ∈ options.reads, i.name ≠ "query") :
    Code.referents scope (Names.querying item query options) =
      query.reads.map scope.find? ++ scope.find? (.ofWord "self") ::
        some (.bound (.ofWord "query")) :: options.reads.map scope.find? := by
  have hreads : (Names.onContainer "query" (some item) [.ofWord "query", options]).reads =
      .ofWord "self" :: .ofWord "query" :: (options.reads ++ []) := rfl
  have hsame : options.reads.map
      (Scope.find? (((Ident.ofWord "query").name, .bound (.ofWord "query")) :: scope)) =
        options.reads.map scope.find? := by
    refine List.map_congr_left fun i hi => ?_
    exact (Scope.find?_cons _ _ _ _).trans (if_neg (hoptions i hi).symm)
  rw [Names.querying, Code.referents, Code.referents, Code.referents, hreads, List.append_nil,
    List.append_nil, List.map_cons, List.map_cons, hsame, Scope.find?_cons, Scope.find?_cons,
    if_neg (by decide), if_pos rfl]

section Methods

variable (hkey : KeySpelledApart n)

include hkey

theorem tellsApart_method (kind : Kind) : (n.method (.ofKind n.set.key kind)).TellsApart := by
  rw [Function.TellsApart, map_params_method]
  cases hidentity : n.set.key.isIdentity with
  | true =>
      have hparam := hkey.identity hidentity
      cases kind <;>
        simp [Kind.params, addressed, addressing, hidentity, Names.param, hparam, Ident.ofWord]
  | false =>
      have hother := hkey.other hidentity
      simp only [List.mem_cons, List.not_mem_nil, or_false, not_or] at hother
      obtain ⟨hself, hid, hbody, hoptions⟩ := hother
      cases kind <;>
        simp [Kind.params, addressed, addressing, hidentity, Names.param, Ident.ofWord,
          Ne.symm hself, Ne.symm hid, hbody, hoptions]

/-- A parameter of an operation is found as an argument of its method. -/
theorem find?_param (kind : Kind) (p : Param) (hp : p ∈ kind.params n.set.key) :
    (n.method (.ofKind n.set.key kind)).scope.find? (n.param p).1 =
      some (.argument (n.param p).1) := by
  refine find?_argument (tellsApart_method hkey kind) ?_
  exact List.mem_map_of_mem (List.mem_map_of_mem hp)

/-- What addresses an item is found; an identifier that is the key is found for both. -/
theorem find?_addressed (kind : Kind) (extra : List Param)
    (hkind : kind.params n.set.key = addressed n.set.key extra) :
    ∀ i ∈ .ofWord "id" :: n.keyParam :: (extra ++ [Param.options]).map fun p => (n.param p).1,
      (n.method (.ofKind n.set.key kind)).scope.find? i = some (.argument i) := by
  have hparam := find?_param hkey kind
  rw [hkind, addressed, addressing] at hparam
  intro i hi
  rcases List.mem_cons.mp hi with rfl | hi
  · refine hparam .id ?_
    split <;> simp
  rcases List.mem_cons.mp hi with rfl | hi
  · cases hidentity : n.set.key.isIdentity with
    | true =>
        rw [hkey.identity hidentity]
        exact hparam .id (by simp [hidentity])
    | false => exact hparam .partitionKey (by simp [hidentity])
  · obtain ⟨p, hp, rfl⟩ := List.mem_map.mp hi
    exact hparam p (by rw [List.append_assoc]; exact List.mem_append_right _ hp)

theorem referents_method (kind : Kind) :
    (n.method (.ofKind n.set.key kind)).referents = (n.meant kind).map some := by
  have hself := find?_receiver (tellsApart_method hkey kind) rfl
  have hparam := find?_param hkey kind
  have hbody : (n.method (.ofKind n.set.key kind)).body = n.body kind := rfl
  rw [Function.referents, hbody]
  -- the bodies that bind a variable have lemmas of their own; the others read arguments only
  cases kind with
  | create =>
      simp only [Kind.params, List.forall_mem_cons, Names.param] at hparam
      rw [Names.body, referents_storing, hself]
      simp [Expr.readsOfAll, Expr.reads, Expr.ofWord, Names.meant, hparam]
  | read =>
      have haddressed := find?_addressed hkey .read [] rfl
      simp only [List.forall_mem_cons, List.nil_append, List.map_cons, Names.param] at haddressed
      simp [Names.body, Names.readBody, Names.onContainer, Names.container, Names.keyArg,
        Names.fromResource, Code.referents, Expr.readsOfAll, Expr.reads, Expr.ofWord, Names.meant,
        hself, haddressed]
  | readOrThrow =>
      have haddressed := find?_addressed hkey .readOrThrow [] rfl
      simp only [List.forall_mem_cons, List.nil_append, List.map_cons, Names.param] at haddressed
      cases hidentity : n.set.key.isIdentity with
      | true | false =>
          simp [Names.body, Names.readOrErrBody, Names.readArgs, Names.keyArg, Code.referents,
            Expr.readsOfAll, Expr.reads, Expr.ofWord, Expr.ofWords, Names.meant, hidentity, hself,
            haddressed]
  | readAll =>
      simp only [Kind.params, List.forall_mem_cons, Names.param] at hparam
      simp [Names.body, Names.onContainer, Names.container, Code.referents, Expr.readsOfAll,
        Expr.reads, Expr.ofWord, Names.meant, hself, hparam]
  | readAllByKey =>
      simp only [Kind.params, List.forall_mem_cons, Names.param] at hparam
      have hoptions : ∀ i ∈ (Expr.ofWord "options").reads, i.name ≠ "query" := by
        simp [Expr.reads, Expr.ofWord, Ident.ofWord]
      rw [Names.body, referents_querying _ _ _ _ hoptions, hself]
      simp [Names.partitionQuery, Names.keyArg, Expr.readsOfAll, Expr.reads, Expr.ofWord,
        Expr.ofWords, Names.meant, hparam]
  | replace =>
      have haddressed := find?_addressed hkey .replace [.body] rfl
      simp only [List.forall_mem_cons, List.cons_append, List.nil_append, List.map_cons,
        Names.param] at haddressed
      rw [Names.body, referents_storing, hself]
      simp [Names.keyArg, Expr.readsOfAll, Expr.reads, Expr.ofWord, Names.meant, haddressed]
  | delete =>
      have haddressed := find?_addressed hkey .delete [] rfl
      simp only [List.forall_mem_cons, List.nil_append, List.map_cons, Names.param] at haddressed
      simp [Names.body, Names.onContainer, Names.container, Names.keyArg, Code.referents,
        Expr.readsOfAll, Expr.reads, Expr.ofWord, Names.meant, hself, haddressed]
  | query =>
      simp only [Kind.params, List.forall_mem_cons, Names.param] at hparam
      have hoptions : ∀ i ∈ (Expr.ofWords ["None"]).reads, i.name ≠ "query" := by
        simp [Expr.reads, Expr.ofWords]
      rw [Names.body, referents_querying _ _ _ _ hoptions, hself]
      simp [Names.filterQuery, Expr.readsOfAll, Expr.reads, Expr.ofWord, Expr.ofWords, Names.meant,
        hparam]

/-- Reading and replacing call a function that the module imports.  The argument for the key hides
it there if it is spelled the same, and such a module does not compile.  Running code does not see
that: `Program.eval` takes the name for the imported function wherever it stands, so what is shown by
running the methods of such a model is about code that no compiler accepts. -/
theorem fromResource_hidden_iff {kind : Kind} (hkind : kind = .read ∨ kind = .replace) :
    (n.method (.ofKind n.set.key kind)).scope.find? (.ofWord "from_resource") ≠ none ↔
      n.keyParam.name = "from_resource" := by
  rw [Scope.find?_ne_none_iff, Function.map_scope, map_params_method]
  cases hidentity : n.set.key.isIdentity with
  | true =>
      have hparam := hkey.identity hidentity
      rcases hkind with rfl | rfl <;>
        simp [Names.method, Kind.params, addressed, addressing, hidentity, Names.param, hparam,
          Ident.ofWord]
  | false =>
      rcases hkind with rfl | rfl <;>
        simp [Names.method, Kind.params, addressed, addressing, hidentity, Names.param,
          Ident.ofWord, eq_comm]

end Methods

/-! ### Accessors -/

/-- Whether the accessor of a model names its members and arguments apart, and every name that the
body of a member reads refers to what it is meant to. -/
structure BoundAsMeant (n : Names) : Prop where
  members : (n.members.map (·.name.name)).Nodup
  arguments : ∀ f, .function f ∈ n.members → f.TellsApart
  bound : ∀ f, .function f ∈ n.members → none ∉ f.referents
  meant : ∀ o ∈ n.set.operations, (n.method o).referents = (n.meant o.kind).map some
  /-- Reading or failing passes its arguments on to reading. -/
  passedOn : ∃ missing, n.body .readOrThrow =
    [.give (.method (.check (.await (.method (.ofWord "self") (n.methodName .read) none
      ((n.method (.ofKind n.set.key .read)).params.map fun p => .var p.1))))
      (.ofWord "ok_or_else") none [.closure missing])]

theorem exists_kind_of_accepted (hn : Accepted n) {o : Operation} (ho : o ∈ n.set.operations) :
    ∃ kind, o = .ofKind n.set.key kind := by
  rw [hn.operations] at ho
  obtain ⟨kind, -, rfl⟩ := List.mem_map.mp ho
  exact ⟨kind, rfl⟩

/-- No member has a raw name, so members of different names are spelled differently. -/
theorem raw_of_mem_members (hn : Accepted n) {member : Member} (hmember : member ∈ n.members) : member.name.raw = false := by
  rcases List.mem_append.mp hmember with hfixed | hmethod
  · simp only [Names.fixedMembers, List.mem_cons, List.not_mem_nil, or_false] at hfixed
    rcases hfixed with rfl | rfl | rfl | rfl <;> rfl
  · obtain ⟨o, ho, rfl⟩ := List.mem_map.mp hmethod
    obtain ⟨kind, rfl⟩ := exists_kind_of_accepted hn ho
    cases kind with
    | readAllByKey => exact congrArg Ident.raw hn.byKey
    | _ => rfl

theorem nodup_name_members (hn : Accepted n) : (n.members.map (·.name.name)).Nodup := by
  rw [← Function.comp_def Ident.name, ← List.map_map]
  refine hn.nodup_members.map_on fun i hi j hj hsame => ?_
  obtain ⟨member, hmember, rfl⟩ := List.mem_map.mp hi
  obtain ⟨other, hother, rfl⟩ := List.mem_map.mp hj
  have hraw := (raw_of_mem_members hn hmember).trans (raw_of_mem_members hn hother).symm
  exact Ident.mk.injEq .. ▸ ⟨hsame, hraw⟩

/-- A function of an accessor is one of the two that all accessors have, or a method. -/
theorem function_mem_members (hn : Accepted n) {f : Function} (hf : .function f ∈ n.members) :
    .function f ∈ n.fixedMembers ∨ ∃ kind, f = n.method (.ofKind n.set.key kind) := by
  refine (List.mem_append.mp hf).imp_right fun hmethod => ?_
  obtain ⟨o, ho, hsame⟩ := List.mem_map.mp hmethod
  obtain ⟨kind, rfl⟩ := exists_kind_of_accepted hn ho
  exact ⟨kind, (Member.function.inj hsame).symm⟩

theorem wellBound_fixedMembers {f : Function} (hf : .function f ∈ n.fixedMembers) :
    f.TellsApart ∧ none ∉ f.referents := by
  simp only [Names.fixedMembers, List.mem_cons, reduceCtorEq, Member.function.injEq,
    List.not_mem_nil, or_false, false_or] at hf
  rcases hf with rfl | rfl
  · exact ⟨by simp [Function.TellsApart, Ident.ofWord], by decide⟩
  · exact ⟨by simp [Function.TellsApart], by decide⟩

theorem boundAsMeant_of_accepted (hn : Accepted n) (hkey : KeySpelledApart n) :
    BoundAsMeant n where
  members := nodup_name_members hn
  arguments f hf := by
    rcases function_mem_members hn hf with hfixed | ⟨kind, rfl⟩
    · exact (wellBound_fixedMembers hfixed).1
    · exact tellsApart_method hkey kind
  bound f hf := by
    rcases function_mem_members hn hf with hfixed | ⟨kind, rfl⟩
    · exact (wellBound_fixedMembers hfixed).2
    · rw [referents_method hkey kind]
      simp
  meant o ho := by
    obtain ⟨kind, rfl⟩ := exists_kind_of_accepted hn ho
    exact referents_method hkey kind
  passedOn := ⟨_, by rw [← readArgs_eq]; rfl⟩

variable {specs : List Model.Spec} {c : Config} {m : ModuleDef} {set : OperationSet}

/-- In the accessor of a model, members are told apart, and so are the arguments of each member.
Every name that a body reads refers to the argument or the variable that it is meant to, whatever
the key is called, and reading or failing passes its arguments on to reading.  The accessor is part
of the module. -/
theorem bound_as_meant (hm : ModuleDef.assemble specs c = .ok m) (hset : set ∈ m.models)
    (hn : Names.ofSet set = .ok n) :
    BoundAsMeant n ∧ ∀ code, codeOf m = .ok code → n.accessorItems ⊆ code := by
  obtain ⟨-, sets, hsets, -, rfl⟩ := (assemble_eq_ok_iff _ _ _).mp hm
  obtain ⟨rfl, -⟩ := (ofSet_eq_ok_iff _ _).mp hn
  have haccepted := accepted_of_ofSet hsets hset hn
  have hkey : KeySpelledApart n :=
    ⟨haccepted.keyApart.identity, keyParam_name_notMem hsets hset hn⟩
  refine ⟨boundAsMeant_of_accepted haccepted hkey, fun code hcode => ?_⟩
  obtain ⟨-, -, models, hmodels, client, -, runtime, -, typePath, -, -, rfl⟩ :=
    (codeOf_eq_ok_iff _ code).mp hcode
  obtain ⟨hmap, hnames⟩ := ofSet_of_namesOf hmodels
  have hmodel : n.set ∈ models.map (·.set) := hmap ▸ hset
  obtain ⟨n', hn', hsame⟩ := List.mem_map.mp hmodel
  obtain rfl : n' = n := by
    have hown := hnames n' hn'
    rw [hsame, hn] at hown
    exact (Except.ok.inj hown).symm
  intro item hitem
  have hitems : item ∈ models.flatMap Names.accessorItems := List.mem_flatMap.mpr ⟨n', hn', hitem⟩
  simp [moduleItems, hitems]

/-- Models whose keys are named like variables of bodies, like a keyword and like the identifier. -/
def hardKeys : List Model.Spec :=
  [⟨"note", "Note", "/query", none⟩, ⟨"draft", "Draft", "/resource", none⟩,
    ⟨"post", "Post", "/type", none⟩, ⟨"user", "User", "/id", none⟩]

theorem bound_as_meant_hardKeys :
    ∃ m models, ModuleDef.assemble hardKeys .default = .ok m ∧ namesOf m.models = .ok models ∧
      models.map (·.keyParam.text) = ["query", "resource", "r#type", "id"] ∧
      ∀ n ∈ models, BoundAsMeant n := by
  have hrun : ((ModuleDef.assemble hardKeys .default).toOption.bind fun m =>
      (namesOf m.models).toOption.map (·.map (·.keyParam.text))) =
        some ["query", "resource", "r#type", "id"] := by decide +kernel
  obtain ⟨m, hm, hnames⟩ := Option.bind_eq_some_iff.mp hrun
  obtain ⟨models, hmodels, hkeys⟩ := Option.map_eq_some_iff.mp hnames
  rw [toOption_eq_some_iff] at hm hmodels
  obtain ⟨hsets, hofSet⟩ := ofSet_of_namesOf hmodels
  refine ⟨m, models, hm, hmodels, hkeys, fun n hn => ?_⟩
  exact (bound_as_meant hm (hsets ▸ List.mem_map_of_mem hn) (hofSet n hn)).1

end DocAccess.Emission
