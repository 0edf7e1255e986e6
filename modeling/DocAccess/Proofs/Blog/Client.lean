import DocAccess.Proofs.Accessors.Widening
import DocAccess.Proofs.Blog.Catalogues
import DocAccess.Proofs.Emission.Replies

/-!
# The generated client of a blog

The models of a blog are declared, and a module is emitted for them.  Its table says which containers
a store has to have, and its function makes a client of such a store.  Each call goes through the
field of its model and the method of the accessor there.  Method by method this comes to what the
accessors of a blog do, whose answers are those of three catalogues.

* `Model.EmittedAs` — what a declaration is emitted as.
* `clientAnswer_eq` — a call of the client.
* `answers_eq_catalogues_answers` — runs of calls.
-/

namespace DocAccess.Blog

open DocAccess.Accessors DocAccess.Code DocAccess.Container DocAccess.Document DocAccess.Emission
open DocAccess.Generate DocAccess.Operations DocAccess.Partition DocAccess.Store
open DocAccess.Model (Spec)

/-! ### Declarations -/

namespace Model

/-- How a model is declared. -/
def spec : Model → Spec
  | comment => ⟨"comment", "Comment", "/post/id", none⟩
  | post => ⟨"post", "Post", "/user/id", none⟩
  | user => ⟨"user", "User", "/id", none⟩

/-- The models in the order of their names. -/
def all : List Model := [comment, post, user]

theorem mem_all (M : Model) : M ∈ all := by cases M <;> decide

/-- The type of the items of a model. -/
def type (M : Model) : Ident := ⟨M.spec.typeName, false⟩

/-- The field of a model in the client. -/
def field (M : Model) : Ident := ⟨M.spec.name, false⟩

theorem derive?_spec (M : Model) : Key.derive? M.spec.path = .ok M.kind.key := by
  cases M with
  | comment | post | user => decide +kernel

end Model

/-- The models of a blog as they are declared. -/
def specs : List Spec := Model.all.map Model.spec

/-- An item of any model. -/
abbrev AnyItem := Σ M : Model, M.Item

/-- How the items of a type are read, and any item written. -/
def entityOf (type : Ident) : Entity AnyItem where
  decode d :=
    match Model.all.find? (·.type = type) with
    | some M => (M.kind.entity.decode d).map (Sigma.mk M)
    | none => .error (.wrongKind type.name "an item of a blog")
  encode x := x.1.kind.entity.encode x.2

theorem widens_entityOf (M : Model) : (entityOf M.type).Widens (Sigma.mk M) M.kind.entity := by
  refine ⟨fun d => ?_, fun _ => rfl⟩
  have hfind : Model.all.find? (·.type = M.type) = some M := by
    cases M with
    | comment | post | user => decide
  rw [entityOf, hfind]

/-- The code of a blog, where an identifier is drawn next. -/
def program (code : Module) (fresh : String) : Program AnyItem := ⟨code, entityOf, fresh⟩

/-! ### Calls of the client -/

namespace Call

/-- The model of a call. -/
def model : Call → Model
  | item M _ => M
  | partition M _ _ _ => M

/-- The identifier that is drawn for a call. -/
def fresh : Call → String
  | item _ call => freshOf call
  | partition _ _ _ _ => ""

/-- The method that is called. -/
def method : Call → Ident
  | item _ (.create _ _ _) => .ofWord "create"
  | item _ (.read _ _ _) => .ofWord "read"
  | item _ (.readOrErr _ _ _) => .ofWord "read_or_err"
  | item _ (.replace _ _ _ _) => .ofWord "replace"
  | item _ (.delete _ _ _) => .ofWord "delete"
  | item _ (.readAll _) => .ofWord "read_all"
  | partition M _ _ _ => .ofWord ("read_all_by_" ++ M.kind.key.snakeName)

/-- The arguments that the method is called with. -/
def args : Call → List (Val DocStore AnyItem)
  | item M (.create _ x p) => [.item M.type ⟨M, x⟩, .ofOptions? (p.map Preferences.options)]
  | item M (.read id key p) | item M (.readOrErr id key p)
  | item M (.delete id key p) =>
      MethodCall.addressing M.kind.key id key ++ [.ofOptions? (p.map Preferences.options)]
  | item M (.replace id key x p) =>
      MethodCall.addressing M.kind.key id key ++
        [.item M.type ⟨M, x⟩, .ofOptions? (p.map Preferences.options)]
  | item _ (.readAll p) => [.ofOptions? (p.map Preferences.options)]
  | partition _ _ key p => [.text key, .ofOptions? (p.map Preferences.options)]

end Call

/-- What a call tells the one who calls. -/
abbrev Reply := Except StoreError (ItemAnswer AnyItem)

/-- An answer with items of any model. -/
def Answer.reply (a : Answer) : Reply := a.2.map (ItemAnswer.map (Sigma.mk a.1))

/-- Whether a module lists some containers in its table, and its function makes a client of a store
in memory. -/
structure Opens (code : Module) (c : Config) (stamps : Nat → Stamp) (rows : List Definition)
    (client : Val DocStore AnyItem) : Prop where
  table : (program code "").call 1 [.ofWord "CONTAINERS"] [] =
    (pure (.array (rows.map .definition)) : Eval DocStore (Val DocStore AnyItem))
  client : (program code "").call 3 [⟨c.factoryName, false⟩] [.database (memoryDriver stamps)] =
    pure client

section Client

variable (code : Module) (stamps : Nat → Stamp) (client : Val DocStore AnyItem)

/-- The answer of a client to a call, and the store behind it. -/
def clientAnswer (s : DocStore) (call : Call) : Option Reply × DocStore :=
  match Program.fieldOf call.model.field client with
  | some (.record owner fields) =>
      let P := program code call.fresh
      replyOf P (memoryDriver stamps)
        (P.call 2 [owner, call.method] (.record owner fields :: call.args)) s
  | _ => (none, s)

/-- The answers of a client to a run of calls. -/
def clientAnswers (s : DocStore) : List Call → List (Option Reply)
  | [] => []
  | call :: calls =>
      (clientAnswer code stamps client s call).1 ::
        clientAnswers (clientAnswer code stamps client s call).2 calls

end Client

/-! ### What is emitted for a blog -/

/-- Whether names are those that a model is emitted with. -/
structure Model.EmittedAs (M : Model) (n : Names) : Prop where
  model : n.set.model = M.spec
  key : n.set.key = M.kind.key
  container : n.set.container = M.kind.container
  entity : n.entity = M.type
  byKey : n.byKey = .ofWord ("read_all_by_" ++ M.kind.key.snakeName)

theorem Model.EmittedAs.toAccessor {M : Model} {n : Names} (hM : M.EmittedAs n) (code : Module)
    (fresh : String) (stamps : Nat → Stamp) :
    n.toAccessor (program code fresh) ⟨memoryDriver stamps, n.set.container⟩ =
      (M.accessor stamps).widened (entityOf M.type) := by
  rw [M.accessor_eq, Names.toAccessor, hM.key, hM.container, program, hM.entity]
  rfl

theorem Model.widens_accessor (M : Model) (stamps : Nat → Stamp) :
    (entityOf M.type).Widens (Sigma.mk M) (M.accessor stamps).entity := by
  rw [M.accessor_eq]
  exact widens_entityOf M

theorem freshOf_map {α β : Type} (f : α → β) (call : ItemCall α) :
    freshOf (call.map f) = freshOf call := by
  cases call <;> rfl

section Requests

variable {M : Model} {n : Names} {code : Module} (hM : M.EmittedAs n) (hkey : KeyApart n)
  (stamps : Nat → Stamp) (s : DocStore)

include hM

/-- A call on items asks for the method of its kind with its arguments. -/
theorem request_item (call : ItemCall M.Item) :
    (Call.item M call).method =
        n.methodName (MethodCall.ofItemCall (call.map (Sigma.mk M))).kind ∧
      (Call.item M call).args = (MethodCall.ofItemCall (call.map (Sigma.mk M))).args n := by
  cases call with
  | create | read | readOrErr | replace | delete | readAll =>
      refine ⟨rfl, ?_⟩
      simp only [Call.args, ItemCall.map, MethodCall.ofItemCall, MethodCall.args, hM.key,
        hM.entity]

include hkey

theorem reply_item (call : ItemCall M.Item) (hoffers : Offers (program code (freshOf call)) n) :
    replyOf (program code (freshOf call)) (memoryDriver stamps)
        ((program code (freshOf call)).call 2 [n.accessor, (Call.item M call).method]
          (n.access ⟨memoryDriver stamps, n.set.container⟩ :: (Call.item M call).args)) s =
      (((M.accessor stamps).answer s call).1.map (·.map (ItemAnswer.map (Sigma.mk M))),
        ((M.accessor stamps).answer s call).2) := by
  obtain ⟨hmethod, hargs⟩ := request_item hM call
  have hkind : (MethodCall.ofItemCall (call.map (Sigma.mk M))).kind ∈ kindsFor n.set.key := by
    refine (mem_kindsFor_iff _ _).mpr fun hlists => ?_
    cases call <;> cases hlists
  have houtcome := call_outcome hoffers hkey ⟨memoryDriver stamps, n.set.container⟩
    (MethodCall.ofItemCall (call.map (Sigma.mk M))) (fun _ => rfl) hkind 0
  rw [hmethod, hargs, houtcome, ← Accessor.answer_widened (M.widens_accessor stamps),
    ← hM.toAccessor code (freshOf call)]
  have hreply := reply_outcome (P := program code (freshOf call)) (n := n)
    (h := ⟨memoryDriver stamps, n.set.container⟩) rfl s (call.map (Sigma.mk M))
  rwa [freshOf_map] at hreply

theorem reply_partition (hpartition : emitsReadAllByKey M.kind.key = true) (partition : String)
    (p : Option Preferences) (hoffers : Offers (program code "") n) :
    replyOf (program code "") (memoryDriver stamps)
        ((program code "").call 2
          [n.accessor, (Call.partition M hpartition partition p).method]
          (n.access ⟨memoryDriver stamps, n.set.container⟩ ::
            (Call.partition M hpartition partition p).args)) s =
      (((M.accessor stamps).drained ((M.accessor stamps).readPartition partition (optionsOf p))
          s).1.map (·.map (ItemAnswer.map (Sigma.mk M))),
        ((M.accessor stamps).drained ((M.accessor stamps).readPartition partition (optionsOf p))
          s).2) := by
  have hmethod : (Call.partition M hpartition partition p).method =
      n.methodName .readAllByKey := hM.byKey.symm
  have hkind : Kind.readAllByKey ∈ kindsFor n.set.key := by
    refine (mem_kindsFor_iff _ _).mpr fun _ => ?_
    rw [hM.key]
    simpa [emitsReadAllByKey] using hpartition
  have houtcome := call_outcome hoffers hkey ⟨memoryDriver stamps, n.set.container⟩
    (.readAllByKey partition (p.map Preferences.options)) (fun _ => rfl) hkind 0
  rw [hmethod]
  refine (congrArg (replyOf _ _ · s) houtcome).trans ?_
  refine (reply_readAllByKey rfl s _ partition p).trans ?_
  rw [hM.toAccessor code]
  exact Accessor.drained_widened (M.widens_accessor stamps) s _

end Requests

/-- The client has the accessor of each model in the field of that model. -/
theorem fieldOf_client (d : Driver DocStore) (type : Ident) (M : Model) :
    Program.fieldOf M.field (.record type (specs.map (acquired d)) : Val DocStore AnyItem) =
      some (acquired d M.spec).2 := by
  cases M <;> rfl

section Emitted

variable {c : Config} {code : Module} {models : List Names} {client : ClientNames}
  (h : EmittedFrom code specs c models client)

include h

theorem emittedAs_of_model {n : Names} (hn : n ∈ models) {M : Model}
    (hmodel : n.set.model = M.spec) : M.EmittedAs n := by
  have haccepted := h.accepted n hn
  have hkey : n.set.key = M.kind.key := by
    have hderived := haccepted.derived
    rw [hmodel, M.derive?_spec] at hderived
    exact (Except.ok.inj hderived).symm
  refine ⟨hmodel, hkey, ?_, ?_, ?_⟩
  · rw [haccepted.container, hmodel]
    cases M <;> rfl
  · rw [haccepted.entity, hmodel]
    rfl
  · rw [haccepted.byKey, hkey]
    rfl

theorem exists_emittedAs (M : Model) : ∃ n ∈ models, M.EmittedAs n := by
  have hspec : M.spec ∈ models.map (·.set.model) :=
    h.models_eq ▸ List.mem_map_of_mem M.mem_all
  obtain ⟨n, hn, hmodel⟩ := List.mem_map.mp hspec
  exact ⟨n, hn, emittedAs_of_model h hn hmodel⟩

/-- The table lists the containers of a blog. -/
theorem definitions_eq_containers : models.map Names.definition = containers := by
  have hrows : models.map Names.definition =
      specs.map fun s => ⟨s.name, ((Key.derive? s.path).map Key.path).toOption.getD ""⟩ := by
    rw [← h.models_eq, List.map_map]
    refine List.map_congr_left fun n hn => ?_
    rw [Names.definition, (h.accepted n hn).container, Function.comp_apply,
      (h.accepted n hn).derived]
    rfl
  rw [hrows]
  decide +kernel

/-- A call of the client has the answer of the accessor of its model. -/
theorem clientAnswer_eq (type : Ident) (stamps : Nat → Stamp) (s : DocStore) (call : Call) :
    clientAnswer code stamps (.record type (specs.map (acquired (memoryDriver stamps)))) s call =
      ((Blog.answer stamps s call).1.map Answer.reply, (Blog.answer stamps s call).2) := by
  obtain ⟨n, hn, hM⟩ := exists_emittedAs h call.model
  obtain ⟨runtime, typePath, hitems⟩ := h.items
  have haccepted := h.accepted n hn
  have hoffers : Offers (program code call.fresh) n :=
    offers runtime typePath h.apart hitems hn haccepted
  have hvalue : (acquired (memoryDriver stamps) call.model.spec).2 =
      (n.access ⟨memoryDriver stamps, n.set.container⟩ : Val DocStore AnyItem) := by
    rw [← hM.model, acquired, Names.access, haccepted.accessor, haccepted.container]
  rw [clientAnswer, fieldOf_client, hvalue]
  cases call with
  | item M call =>
      refine (reply_item hM haccepted.keyApart stamps s call hoffers).trans ?_
      rw [Blog.answer, Option.map_map]
      rfl
  | partition M hkey partition p =>
      refine (reply_partition hM haccepted.keyApart stamps s hkey partition p hoffers).trans ?_
      rw [Blog.answer, Option.map_map]
      rfl

/-! ### Runs -/

theorem clientAnswers_eq (type : Ident) (stamps : Nat → Stamp) (s : DocStore) (calls : List Call) :
    clientAnswers code stamps (.record type (specs.map (acquired (memoryDriver stamps)))) s calls =
      (Blog.answers stamps s calls).map (·.map Answer.reply) := by
  induction calls generalizing s with
  | nil => rfl
  | cons call calls ih =>
      rw [clientAnswers, clientAnswer_eq h, ih, Blog.answers, List.map_cons]

end Emitted

/-- Whether a reply is no failure for want of a container or because of a document that is no
item. -/
def Reply.IsPlain (r : Reply) : Prop :=
  ∀ e, r = .error e → (∀ name, e ≠ .containerNotFound name) ∧ ∀ fault, e ≠ .serialization fault

theorem Answer.IsPlain.reply {a : Answer} (ha : a.IsPlain) : a.reply.IsPlain := by
  intro e he
  refine ha e ?_
  rw [Answer.reply] at he
  cases hanswer : a.2 with
  | ok x =>
      rw [hanswer] at he
      cases he
  | error cause =>
      rw [hanswer] at he
      exact congrArg Except.error (Except.error.inj he)

/-- For every module that is emitted for a blog, whatever its other settings: over one store that is
provisioned with the rows of its table, every run of calls of the client that its function makes is
answered as by three independent maps from partition and identifier to items, whatever the size of
the pages and the stamps of the writes.  So no call meets a container that is not there or a document
that is no item.  A listing needs positions for its documents, which are counted in a word. -/
theorem answers_eq_catalogues_answers {c : Config} {m : ModuleDef} {code : Module}
    (hm : ModuleDef.assemble specs c = .ok m) (hcode : codeOf m = .ok code)
    (stamps : Nat → Stamp) (pageSize : Nat) (calls : List Call)
    (hroom : ∀ before, before <+: calls → (Catalogues.empty.after before).Fits) :
    ∃ rows client, Opens code c stamps rows client ∧
      clientAnswers code stamps client ((DocStore.withContainers rows).withPageSize pageSize)
          calls = (Catalogues.empty.answers calls).map (some ·.reply) ∧
      ∀ r, some r ∈ clientAnswers code stamps client
          ((DocStore.withContainers rows).withPageSize pageSize) calls → r.IsPlain := by
  obtain ⟨models, names, -, h⟩ := exists_emittedFrom hm hcode
  have hlists := h.lists entityOf ""
  rw [definitions_eq_containers h] at hlists
  have hanswers := clientAnswers_eq h ⟨c.clientType, false⟩ stamps
    ((DocStore.withContainers containers).withPageSize pageSize) calls
  rw [(mirrors_empty pageSize).answers stamps hroom, List.map_map] at hanswers
  refine ⟨containers, _, ⟨hlists.table DocStore, hlists.accessors DocStore _⟩, hanswers, ?_⟩
  intro r hr
  rw [hanswers, List.mem_map] at hr
  obtain ⟨a, ha, hsame⟩ := hr
  obtain rfl := Option.some.inj hsame
  exact (Catalogues.isPlain_of_mem ha).reply

/-- A user who gets an identifier and is then there already, with a post that cannot be moved to
another user. -/
def firstCalls : List Call :=
  [.item .user (.create ⟨"u1", by decide⟩ (⟨"", "Ann", "ann@blog"⟩ : User) none),
    .item .user (.create ⟨"u2", by decide⟩ (⟨"u1", "Bob", "bob@blog"⟩ : User) none),
    .item .post (.create ⟨"p1", by decide⟩ (⟨"", "Hello", "", true, "u1"⟩ : Post) none),
    .item .post (.replace "p1" "u1" (⟨"p1", "Hello", "", true, "u2"⟩ : Post) none),
    .partition .post rfl "u1" (some ⟨none, some 1⟩),
    .item .comment (.readOrErr "c1" "p1" none)]

/-- The answers of the client to these calls, read off the catalogues. -/
theorem answers_eq_catalogues_answers_first :
    ∃ m code, ModuleDef.assemble specs Config.default = .ok m ∧ codeOf m = .ok code ∧
      (∀ before, before <+: firstCalls → (Catalogues.empty.after before).Fits) ∧
      ∃ rows client, Opens code Config.default (fun _ => ⟨"tag", 7⟩) rows client ∧
        clientAnswers code (fun _ => ⟨"tag", 7⟩) client
            ((DocStore.withContainers rows).withPageSize 1) firstCalls =
          [some (.ok (.item ⟨.user, (⟨"u1", "Ann", "ann@blog"⟩ : User)⟩)),
            some (.error (.conflict "user" "u1")),
            some (.ok (.item ⟨.post, (⟨"p1", "Hello", "", true, "u1"⟩ : Post)⟩)),
            some (.error (.badRequest (.partitionMismatch "u1"))),
            some (.ok (.items [⟨.post, (⟨"p1", "Hello", "", true, "u1"⟩ : Post)⟩])),
            some (.error (.notFound "comment" "c1"))] := by
  obtain ⟨m, code, hm, hcode, -⟩ : ∃ m code, ModuleDef.assemble specs Config.default = .ok m ∧
      codeOf m = .ok code ∧ True := exists_code (P := fun _ _ => True) (by decide +kernel)
  have hroom : ∀ before, before <+: firstCalls → (Catalogues.empty.after before).Fits :=
    Catalogues.fits_of_length (by decide)
  obtain ⟨rows, client, hopens, hanswers, -⟩ :=
    answers_eq_catalogues_answers hm hcode (fun _ => ⟨"tag", 7⟩) 1 firstCalls hroom
  refine ⟨m, code, hm, hcode, hroom, rows, client, hopens, hanswers.trans ?_⟩
  cbv

end DocAccess.Blog
