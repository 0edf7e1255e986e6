import DocAccess.Blog.Models
import DocAccess.Operations.Set
import DocAccess.Proofs.Accessors.Calls
import Mathlib

/-!
# A blog as three catalogues

Comments, posts and users are kinds of items, each with a container of its own.  Whatever is asked
of their accessors, in any order, is answered as by three maps that know nothing of each other.
-/

namespace DocAccess.Blog

open DocAccess.Accessors DocAccess.Container DocAccess.Document DocAccess.Partition DocAccess.Store

/-! ### Kinds -/

/-- Comments lie in the partition of their post. -/
def commentKind : ItemKind Comment where
  container := "comment"
  key := ⟨["post", "id"]⟩
  entity := commentEntity
  id := Comment.id
  withId id c := { c with id }
  partition := Comment.post
  plain := .of_isPlainName (by decide) (by decide +kernel)
  unstamped := by decide +kernel
  id_withId _ _ := rfl
  get?_id _ := rfl
  assignId?_encode := by
    rintro fresh ⟨id, body, post, author⟩ rfl
    rfl
  follow?_key _ := rfl
  decode_encode _ := rfl

/-- Posts lie in the partition of their user. -/
def postKind : ItemKind Post where
  container := "post"
  key := ⟨["user", "id"]⟩
  entity := postEntity
  id := Post.id
  withId id p := { p with id }
  partition := Post.user
  plain := .of_isPlainName (by decide) (by decide +kernel)
  unstamped := by decide +kernel
  id_withId _ _ := rfl
  get?_id _ := rfl
  assignId?_encode := by
    rintro fresh ⟨id, title, body, published, user⟩ rfl
    rfl
  follow?_key _ := rfl
  decode_encode _ := rfl

/-- Each user is a partition. -/
def userKind : ItemKind User where
  container := "user"
  key := ⟨["id"]⟩
  entity := userEntity
  id := User.id
  withId id u := { u with id }
  partition := User.id
  plain := .of_isPlainName (by decide) (by decide +kernel)
  unstamped := by decide +kernel
  id_withId _ _ := rfl
  get?_id _ := rfl
  assignId?_encode := by
    rintro fresh ⟨id, name, email⟩ rfl
    rfl
  follow?_key _ := rfl
  decode_encode _ := rfl

/-- The models of a blog. -/
inductive Model where
  | comment
  | post
  | user
  deriving DecidableEq

namespace Model

/-- The items of a model. -/
def Item : Model → Type
  | comment => Comment
  | post => Post
  | user => User

/-- How the items of a model are kept. -/
def kind : (M : Model) → ItemKind M.Item
  | comment => commentKind
  | post => postKind
  | user => userKind

/-- The accessor of a model to a store in memory. -/
def accessor (stamps : Nat → Stamp) : (M : Model) → Accessor DocStore M.Item
  | comment => comments (memoryDriver stamps)
  | post => posts (memoryDriver stamps)
  | user => users (memoryDriver stamps)

theorem accessor_eq (stamps : Nat → Stamp) (M : Model) :
    M.accessor stamps = M.kind.accessor stamps := by
  cases M with
  | comment => rfl
  | post => rfl
  | user => rfl

theorem container_ne {M N : Model} (h : N ≠ M) : N.kind.container ≠ M.kind.container := by
  revert h
  cases M <;> cases N <;> simp [kind, commentKind, postKind, userKind]

end Model

/-! ### Calls of the client -/

/-- What can be asked of the accessors of a blog. -/
inductive Call where
  | item (M : Model) (call : ItemCall M.Item)
  /-- Lists a partition; only accessors whose items are not their own partitions do that. -/
  | partition (M : Model) (hkey : Operations.emitsReadAllByKey M.kind.key = true)
      (partition : String) (p : Option Preferences)

/-- The model of a call and what the call gives. -/
abbrev Answer := Σ M : Model, Except StoreError (ItemAnswer M.Item)

/-- A catalogue for each model. -/
abbrev Catalogues := (M : Model) → Catalogue M.Item

namespace Catalogues

/-- The answer to a call, and the catalogues behind it. -/
def answer (b : Catalogues) : Call → Answer × Catalogues
  | .item M call => (⟨M, (M.kind.answer (b M) call).1⟩,
      Function.update b M (M.kind.answer (b M) call).2)
  | .partition M _ partition _ => (⟨M, .ok (.items (Catalogue.itemsIn (b M) partition))⟩, b)

/-- The answers to a run of calls. -/
def answers (b : Catalogues) : List Call → List Answer
  | [] => []
  | call :: calls => (b.answer call).1 :: answers (b.answer call).2 calls

/-- The catalogues behind a run of calls. -/
def after (b : Catalogues) : List Call → Catalogues
  | [] => b
  | call :: calls => after (b.answer call).2 calls

/-- Catalogues without items. -/
def empty : Catalogues := fun _ => ∅

/-- Whether the items of each catalogue can be counted by positions. -/
def Fits (b : Catalogues) : Prop := ∀ M, (b M).keys.card ≤ maxPosition

end Catalogues

/-- The answer of a store to a call, and the store behind it. -/
def answer (stamps : Nat → Stamp) (s : DocStore) : Call → Option Answer × DocStore
  | .item M call =>
      (((M.accessor stamps).answer s call).1.map (⟨M, ·⟩), ((M.accessor stamps).answer s call).2)
  | .partition M _ partition p =>
      let f := (M.accessor stamps).readPartition partition (optionsOf p)
      (((M.accessor stamps).drained f s).1.map (⟨M, ·⟩), ((M.accessor stamps).drained f s).2)

/-- The answers of a store to a run of calls. -/
def answers (stamps : Nat → Stamp) (s : DocStore) : List Call → List (Option Answer)
  | [] => []
  | call :: calls => (answer stamps s call).1 :: answers stamps (answer stamps s call).2 calls

/-- Whether the container of each model holds the items of its catalogue. -/
def Mirrors (b : Catalogues) (s : DocStore) : Prop := ∀ M : Model, M.kind.Mirrors (b M) s

theorem mirrors_empty (pageSize : Nat) :
    Mirrors .empty ((DocStore.withContainers containers).withPageSize pageSize) := by
  intro M
  cases M with
  | comment => exact ⟨.ofPath "/post/id", rfl, rfl, fun _ => .none, fun _ _ h => nomatch h⟩
  | post => exact ⟨.ofPath "/user/id", rfl, rfl, fun _ => .none, fun _ _ h => nomatch h⟩
  | user => exact ⟨.ofPath "/id", rfl, rfl, fun _ => .none, fun _ _ h => nomatch h⟩

/-- What one accessor does leaves the containers of the other models alone. -/
theorem Mirrors.of_agrees {b : Catalogues} {s : DocStore} (h : Mirrors b s) {M : Model}
    {expected : Except StoreError (ItemAnswer M.Item) × Catalogue M.Item}
    {actual : Option (Except StoreError (ItemAnswer M.Item)) × DocStore}
    (hagrees : M.kind.Agrees s expected actual) :
    Mirrors (Function.update b M expected.2) actual.2 := by
  intro N
  by_cases hN : N = M
  · subst hN
    rw [Function.update_self]
    exact hagrees.mirrors
  · obtain ⟨c, hc, hreflects⟩ := h N
    rw [Function.update_of_ne hN]
    exact ⟨c, (hagrees.others _ (Model.container_ne hN)).trans hc, hreflects⟩

/-- Each call of a blog is answered as by the catalogues, and leaves the store to mirror those
behind the call. -/
theorem Mirrors.answer {b : Catalogues} {s : DocStore} (h : Mirrors b s) (hroom : b.Fits)
    (stamps : Nat → Stamp) (call : Call) :
    (Blog.answer stamps s call).1 = some (b.answer call).1 ∧
      Mirrors (b.answer call).2 (Blog.answer stamps s call).2 := by
  cases call with
  | item M call =>
      have hagrees : M.kind.Agrees s (M.kind.answer (b M) call)
          ((M.accessor stamps).answer s call) := by
        rw [M.accessor_eq]
        exact (h M).answer (hroom M) call
      refine ⟨?_, h.of_agrees hagrees⟩
      rw [Blog.answer, hagrees.answer]
      rfl
  | partition M hkey partition p =>
      have hagrees : M.kind.Agrees s (.ok (.items (Catalogue.itemsIn (b M) partition)), b M)
          ((M.accessor stamps).drained ((M.accessor stamps).readPartition partition (optionsOf p))
            s) := by
        rw [M.accessor_eq]
        exact (h M).readPartition (hroom M) partition (optionsOf p)
      have hmirrors := h.of_agrees hagrees
      rw [Function.update_eq_self] at hmirrors
      refine ⟨?_, hmirrors⟩
      rw [Blog.answer, hagrees.answer]
      rfl

/-! ### Runs -/

theorem Mirrors.answers {b : Catalogues} {s : DocStore} (h : Mirrors b s) (stamps : Nat → Stamp)
    {calls : List Call} (hroom : ∀ before, before <+: calls → (b.after before).Fits) :
    Blog.answers stamps s calls = (b.answers calls).map some := by
  induction calls generalizing b s with
  | nil => rfl
  | cons call calls ih =>
      obtain ⟨hanswer, hnext⟩ := h.answer (hroom [] (List.nil_prefix)) stamps call
      have hrest := ih hnext fun before hbefore =>
        hroom (call :: before) (List.cons_prefix_cons.mpr ⟨rfl, hbefore⟩)
      rw [Blog.answers, Catalogues.answers, hanswer, hrest, List.map_cons]

/-- Whether an answer is no failure for want of a container or because of a document that is no
item. -/
def Answer.IsPlain (a : Answer) : Prop :=
  ∀ e, a.2 = .error e → (∀ name, e ≠ .containerNotFound name) ∧ ∀ fault, e ≠ .serialization fault

theorem Catalogues.isPlain_of_mem {b : Catalogues} {calls : List Call} {a : Answer}
    (h : a ∈ b.answers calls) : a.IsPlain := by
  induction calls generalizing b with
  | nil => cases h
  | cons call calls ih =>
      rcases List.mem_cons.mp h with rfl | hrest
      · intro e he
        cases call with
        | item M call => exact (M.kind.outcome_answer (b M) call).error he
        | partition M hkey partition p => cases he
      · exact ih hrest

/-- A run of no more calls than there are positions brings no more items than that. -/
theorem Catalogues.fits_of_length {calls : List Call} (hlength : calls.length ≤ maxPosition) :
    ∀ before, before <+: calls → (Catalogues.empty.after before).Fits := by
  -- each call brings at most one item
  have hcard : ∀ (b : Catalogues) (calls : List Call) (M : Model),
      (b.after calls M).keys.card ≤ (b M).keys.card + calls.length := by
    intro b calls
    induction calls generalizing b with
    | nil => exact fun _ => Nat.le_refl _
    | cons call calls ih =>
        intro M
        have hrest := ih (b.answer call).2 M
        have hfirst : ((b.answer call).2 M).keys.card ≤ (b M).keys.card + 1 := by
          cases call with
          | item N call =>
              by_cases hM : M = N
              · subst hM
                simp only [Catalogues.answer, Function.update_self]
                exact (M.kind.outcome_answer (b M) call).card_le
              · simp only [Catalogues.answer, Function.update_of_ne hM]
                exact Nat.le_succ _
          | partition N hkey partition p => exact Nat.le_succ _
        rw [List.length_cons]
        exact hrest.trans (by omega)
  intro before hbefore M
  have hzero : (Catalogues.empty M).keys.card = 0 := rfl
  have hle := hcard .empty before M
  have hprefix := hbefore.length_le
  omega

end DocAccess.Blog
