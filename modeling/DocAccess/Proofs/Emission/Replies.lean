import DocAccess.Proofs.Accessors.Catalogue
import DocAccess.Proofs.Emission.Relay

/-!
# What generated methods answer

A method that is called gives a value: a result, an item, or a feed that can be drained.  Taken
apart, the value is the answer of the accessor whose method it is.

* `Val.reply` — what a value tells the one who called.
* `reply_outcome`, `reply_readAllByKey` — it is the answer of the accessor.
-/

namespace DocAccess.Emission

open DocAccess.Accessors DocAccess.Code DocAccess.Container DocAccess.Document DocAccess.Store

variable {α : Type} {P : Program α} {d : Driver DocStore} {n : Names}

/-- What a value tells the one who called a method: a failure, an item, or all items of a feed, which
is drained to its end; nothing if it is none of these. -/
def Val.reply (P : Program α) (d : Driver DocStore) :
    Val DocStore α → DocStore → Option (Except StoreError (ItemAnswer α)) × DocStore
  | .failed e, s => (some (.error e), s)
  | .succeeded (.item _ x), s => (some (.ok (.item x)), s)
  | .succeeded .absent, s => (some (.ok (.found none)), s)
  | .succeeded (.present (.item _ x)), s => (some (.ok (.found (some x))), s)
  | .succeeded .unit, s => (some (.ok .done), s)
  | .feed (.named type []) f, s => drainedBy d (P.entity type).decode f s
  | _, s => (none, s)

/-- What running code tells the one who runs it. -/
def replyOf (P : Program α) (d : Driver DocStore) (run : Eval DocStore (Val DocStore α))
    (s : DocStore) : Option (Except StoreError (ItemAnswer α)) × DocStore :=
  match run s with
  | (.ok v, s) => v.reply P d s
  | (.error _, s) => (none, s)

/-- The method for what is asked of an accessor. -/
def MethodCall.ofItemCall : ItemCall α → MethodCall α
  | .create _ item p => .create item (p.map Preferences.options)
  | .read id partition p => .read id partition (p.map Preferences.options)
  | .readOrErr id partition p => .readOrThrow id partition (p.map Preferences.options)
  | .replace id partition item p => .replace id partition item (p.map Preferences.options)
  | .delete id partition p => .delete id partition (p.map Preferences.options)
  | .readAll p => .readAll (p.map Preferences.options)

/-- The identifier that is drawn for a call, if one is. -/
def freshOf : ItemCall α → String
  | .create fresh _ _ => fresh
  | _ => ""

/-- What is attempted is told as it is. -/
theorem replyOf_attempt {β : Type} {value : β → Val DocStore α} {answer : β → ItemAnswer α}
    (hvalue : ∀ b s, (Val.succeeded (value b)).reply P d s = (some (.ok (answer b)), s))
    (run : Run DocStore β) (s : DocStore) :
    replyOf P d (attempt run value) s = Accessor.reply answer run s := by
  rcases hanswer : run s with ⟨result, s'⟩
  rw [replyOf, attempt_eq hanswer, Accessor.reply, hanswer]
  cases result with
  | ok b => exact hvalue b s'
  | error e => rfl

variable {h : Handle DocStore} (hdriver : h.driver = d) (s : DocStore)

include hdriver

/-- A feed of items is told as the accessor drains it. -/
theorem replyOf_feed (f : Feed) :
    replyOf P d (return .feed n.entityType f) s = (n.toAccessor P h).drained f s := by
  subst hdriver
  rfl

/-- What a method tells the one who calls it is what the accessor answers. -/
theorem reply_outcome (call : ItemCall α) :
    replyOf P d ((MethodCall.ofItemCall call).outcome n (freshOf call) (n.toAccessor P h)) s =
      (n.toAccessor P h).answer s call := by
  cases call with
  | create fresh item p => exact replyOf_attempt (fun _ _ => rfl) _ s
  | read id partition p =>
      refine replyOf_attempt (fun found _ => ?_) _ s
      cases found with
      | none => rfl
      | some item => rfl
  | readOrErr id partition p => exact replyOf_attempt (fun _ _ => rfl) _ s
  | replace id partition item p => exact replyOf_attempt (fun _ _ => rfl) _ s
  | delete id partition p => exact replyOf_attempt (fun _ _ => rfl) _ s
  | readAll p => exact replyOf_feed hdriver s _

theorem reply_readAllByKey (fresh partition : String) (p : Option Preferences) :
    replyOf P d ((MethodCall.readAllByKey partition (p.map Preferences.options)).outcome n fresh
        (n.toAccessor P h)) s =
      (n.toAccessor P h).drained
        ((n.toAccessor P h).readPartition partition (optionsOf p)) s :=
  replyOf_feed hdriver s _

end DocAccess.Emission
