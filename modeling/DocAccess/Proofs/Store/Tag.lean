import DocAccess.Proofs.Store.History

/-!
# Tags

A request may ask that the stored document still has a tag that the client has seen.  Whatever
clients do in whatever order, a tag is good for one such request at most, and the document that
this request overwrites or removes is the very version that was answered with the tag.  All that is
asked of the tags is that the store never draws one twice; fields of that name in the bodies of
clients do not matter.
-/

namespace DocAccess.Store

open DocAccess.Document

/-- Whether a request at a place asks for a tag and is carried out. -/
def Event.Spends (e : Event) (tag : String) (p : Place) : Prop :=
  match e.action with
  | .request (.replace container a _ o _) =>
      p = ⟨container, a⟩ ∧ o.ifMatch = some tag ∧ ∃ r, e.answer = .ok r
  | .request (.delete container a o) =>
      p = ⟨container, a⟩ ∧ o.ifMatch = some tag ∧ ∃ r, e.answer = .ok r
  | _ => False

/-- A passed check of a tag means that the stored document has it. -/
theorem document?_of_checkTag {s : DocStore} {container id tag : String} {a : Address}
    {c : Collection} {stored : Value} {o : Options}
    (hfind : s.collections.find? container = some c) (hstored : c.items.find? a = some stored)
    (htag : o.ifMatch = some tag) (hcheck : checkTag container id stored o = .ok ()) :
    ∃ d, s.document? ⟨container, a⟩ = some d ∧ d.get? "_etag" = some (.string tag) := by
  refine ⟨stored, (DocStore.document?_of_find? hfind).trans hstored, ?_⟩
  have htext := (checkTag_eq_ok_iff container id stored o).mp hcheck tag htag
  obtain ⟨v, hv, htext⟩ := Option.bind_eq_some_iff.mp htext
  -- only a string has a text, so a tag of another kind never passes
  cases v with
  | string text =>
      obtain rfl := Option.some.inj htext
      exact hv
  | _ => cases htext

namespace Event

/-- A request that spends a tag meets a document that has it, and changes what is at its place. -/
theorem Spends.stored {e : Event} {tag : String} {p : Place} (hspends : e.Spends tag p) :
    (∃ d, e.store.document? p = some d ∧ d.get? "_etag" = some (.string tag)) ∧
      e.Changes p := by
  obtain ⟨s, x⟩ := e
  -- only replacing and deleting spend a tag, and only if they are accepted
  cases x with
  | request r =>
      cases r with
      | replace container a body o stamp =>
          obtain ⟨rfl, htag, r, hr⟩ := hspends
          cases hreplace : s.replace? container a body o stamp with
          | error cause =>
              rw [answer, DocStore.perform_replace_error hreplace] at hr
              cases hr
          | ok d =>
              obtain ⟨c, stored, -, hfind, hstored, hcheck, -, -⟩ :=
                (DocStore.replace?_eq_ok_iff s container a body o stamp d).mp hreplace
              refine ⟨document?_of_checkTag hfind hstored htag hcheck, Or.inl ⟨d.1, rfl, ?_⟩⟩
              rw [answer, DocStore.perform_replace_ok hreplace]
      | delete container a o =>
          obtain ⟨rfl, htag, r, hr⟩ := hspends
          cases hdelete : s.delete? container a o with
          | error cause =>
              rw [answer, DocStore.perform_delete_error hdelete] at hr
              cases hr
          | ok s' =>
              obtain ⟨c, stored, hfind, hstored, hcheck, -⟩ :=
                (DocStore.delete?_eq_ok_iff s container a o s').mp hdelete
              refine ⟨document?_of_checkTag hfind hstored htag hcheck, Or.inr ⟨rfl, ?_⟩⟩
              rw [answer, DocStore.perform_delete_ok hdelete]
      | _ => exact hspends.elim
  | _ => exact hspends.elim

/-- What is written has the tag that is issued with it, whatever its body says. -/
theorem Writes.etag {e : Event} {p : Place} {d : Value} (hwrites : e.Writes p d) :
    ∃ tag, e.issued? = some tag ∧ d.get? "_etag" = some (.string tag) := by
  obtain ⟨container, id, stamp, fields, hissued, rfl⟩ := hwrites.exists_stamped
  exact ⟨stamp.etag, hissued, get?_etag_stamped _ _ _ _ _⟩

/-- An event writes one document at one place. -/
theorem Writes.place_unique {e : Event} {p q : Place} {d d' : Value} (hwrites : e.Writes p d)
    (hwrites' : e.Writes q d') : p = q := by
  obtain ⟨r, c, body, stamp, -, -, -, hiff⟩ := hwrites.written
  exact ((hiff p d).mp hwrites).1.trans ((hiff q d').mp hwrites').1.symm

end Event

/-! ### The tags of a history -/

theorem issuedTags_concat (history : List Event) (e : Event) :
    issuedTags (history ++ [e]) = issuedTags history ++ e.issued?.toList := by
  rw [issuedTags, List.filterMap_append]
  cases hissued : e.issued? with
  | none => simp [issuedTags, hissued]
  | some tag => simp [issuedTags, hissued]

/-- What a history and the store behind it say about tags. -/
structure TagsKept (history : List Event) (s : DocStore) : Prop where
  /-- No document has a tag of its own making. -/
  issued : ∀ p d, s.document? p = some d →
    ∃ tag ∈ issuedTags history, d.get? "_etag" = some (.string tag)
  injective : ∀ p q d d', s.document? p = some d → s.document? q = some d' →
    d.get? "_etag" = d'.get? "_etag" → p = q
  /-- A spent tag was issued, so that it is not drawn again, and no document has it any more. -/
  spent : ∀ e ∈ history, ∀ tag p, e.Spends tag p → tag ∈ issuedTags history ∧
    ∀ q d, s.document? q = some d → d.get? "_etag" ≠ some (.string tag)

theorem TagsKept.empty : TagsKept [] .empty where
  issued _ _ hd := by cases hd
  injective _ _ _ _ hd := by cases hd
  spent _ he := by cases he

/-- Every event keeps it, if the tag that the event draws is a new one. -/
theorem TagsKept.concat {history : List Event} {e : Event} (hkept : TagsKept history e.store)
    (hnew : ∀ tag, e.issued? = some tag → tag ∉ issuedTags history) :
    TagsKept (history ++ [e]) e.after := by
  have hfresh : ∀ p d tag, e.Writes p d → d.get? "_etag" = some (.string tag) →
      tag ∉ issuedTags history := by
    intro p d tag hwrites htag
    obtain ⟨tag', hissued, htag'⟩ := hwrites.etag
    rw [htag, Option.some.injEq, Value.string.injEq] at htag'
    exact hnew tag (htag' ▸ hissued)
  constructor
  · intro p d hd
    rw [issuedTags_concat]
    rcases (e.document?_after p d).mp hd with hwrites | ⟨hold, -⟩
    · obtain ⟨tag, hissued, htag⟩ := hwrites.etag
      exact ⟨tag, List.mem_append_right _ (by simp [hissued]), htag⟩
    · obtain ⟨tag, hmem, htag⟩ := hkept.issued p d hold
      exact ⟨tag, List.mem_append_left _ hmem, htag⟩
  · intro p q d d' hd hd' hsame
    rcases (e.document?_after p d).mp hd with hwrites | ⟨hold, -⟩
    · rcases (e.document?_after q d').mp hd' with hwrites' | ⟨hold', -⟩
      · exact hwrites.place_unique hwrites'
      · obtain ⟨tag, hmem, htag⟩ := hkept.issued q d' hold'
        exact absurd hmem (hfresh p d tag hwrites (hsame.trans htag))
    · rcases (e.document?_after q d').mp hd' with hwrites' | ⟨hold', -⟩
      · obtain ⟨tag, hmem, htag⟩ := hkept.issued p d hold
        exact absurd hmem (hfresh q d' tag hwrites' (hsame.symm.trans htag))
      · exact hkept.injective p q d d' hold hold' hsame
  · intro f hf tag p hspends
    rw [issuedTags_concat]
    rcases List.mem_append.mp hf with hf | hf
    · obtain ⟨hmem, hgone⟩ := hkept.spent f hf tag p hspends
      refine ⟨List.mem_append_left _ hmem, ?_⟩
      intro q d hd htag
      rcases (e.document?_after q d).mp hd with hwrites | ⟨hold, -⟩
      · exact hfresh q d tag hwrites htag hmem
      · exact hgone q d hold htag
    · obtain rfl := List.mem_singleton.mp hf
      obtain ⟨⟨stored, hstored, hstoredTag⟩, hchanges⟩ := hspends.stored
      obtain ⟨tag', hmem, htag'⟩ := hkept.issued p stored hstored
      rw [hstoredTag, Option.some.injEq, Value.string.injEq] at htag'
      subst htag'
      refine ⟨List.mem_append_left _ hmem, ?_⟩
      intro q d hd htag
      -- a document that still had the tag would be the stored one, and that one is gone
      rcases (f.document?_after q d).mp hd with hwrites | ⟨hold, hnot⟩
      · exact hfresh q d tag hwrites htag hmem
      · obtain rfl := hkept.injective q p d stored hold hstored (htag.trans hstoredTag.symm)
        exact hnot hchanges

theorem tagsKept_final (xs : List Action)
    (hdistinct : (issuedTags (DocStore.empty.trace xs)).Nodup) :
    TagsKept (DocStore.empty.trace xs) (DocStore.empty.final xs) := by
  induction xs using List.reverseRecOn with
  | nil => exact TagsKept.empty
  | append_singleton xs x ih =>
      rw [DocStore.trace_concat, issuedTags_concat, List.nodup_append] at hdistinct
      obtain ⟨hbefore, -, hapart⟩ := hdistinct
      rw [DocStore.trace_concat, DocStore.final_concat]
      refine TagsKept.concat (ih hbefore) ?_
      intro tag hissued hmem
      exact hapart tag hmem tag (by simp [hissued]) rfl

/-! ### Conditional requests -/

theorem spends_pairwise (xs : List Action)
    (hdistinct : (issuedTags (DocStore.empty.trace xs)).Nodup) (tag : String) :
    (DocStore.empty.trace xs).Pairwise fun e e' =>
      ∀ p q, e.Spends tag p → ¬ e'.Spends tag q := by
  induction xs using List.reverseRecOn with
  | nil => simp
  | append_singleton xs x ih =>
      rw [DocStore.trace_concat, issuedTags_concat, List.nodup_append] at hdistinct
      obtain ⟨hbefore, -, -⟩ := hdistinct
      rw [DocStore.trace_concat, List.pairwise_append]
      refine ⟨ih hbefore, List.pairwise_singleton _ _, ?_⟩
      intro e he e' he' p q hspends hspends'
      obtain rfl := List.mem_singleton.mp he'
      obtain ⟨⟨stored, hstored, htag⟩, -⟩ := hspends'.stored
      obtain ⟨-, hgone⟩ := (tagsKept_final xs hbefore).spent e he tag p hspends
      exact hgone q stored hstored htag

/-- If the store never draws a tag twice, then of all the requests of a run that ask for one tag at
most one is carried out, and it finds the document that was answered, with this tag, by the write
that drew it, unchanged since. -/
theorem tag_spent_once (xs : List Action)
    (hdistinct : (issuedTags (DocStore.empty.trace xs)).Nodup) (tag : String) :
    ((DocStore.empty.trace xs).Pairwise fun e e' =>
      ∀ p q, e.Spends tag p → ¬ e'.Spends tag q) ∧
    ∀ before e later p, DocStore.empty.trace xs = before ++ e :: later → e.Spends tag p →
      ∃ first w between d, before = first ++ w :: between ∧ w.issued? = some tag ∧
        w.Writes p d ∧ d.get? "_etag" = some (.string tag) ∧
        (∀ x ∈ between, ¬ x.Changes p) ∧ e.store.document? p = some d := by
  refine ⟨spends_pairwise xs hdistinct tag, ?_⟩
  intro before e later p hsplit hspends
  obtain ⟨ys, x, rfl, rfl⟩ := DocStore.split_trace hsplit
  obtain ⟨⟨d, hd, htag⟩, -⟩ := hspends.stored
  have hlast := (document?_final_iff (s := .empty) (fun _ => rfl) ys p d).mp hd
  obtain ⟨first, w, between, hbefore, hwrites, hbetween⟩ := hlast
  obtain ⟨tag', hissued, htag'⟩ := hwrites.etag
  rw [htag, Option.some.injEq, Value.string.injEq] at htag'
  subst htag'
  exact ⟨first, w, between, d, hbefore, hissued, hwrites, htag, hbetween, hd⟩

/-- Overwrites a document on the condition that it still has its first tag. -/
def overwrite (body : Fields) (stamp : Stamp) : Action :=
  .request (.replace "user" ⟨"a", "a"⟩ (.object body)
    { Options.none with ifMatch := some "first" } stamp)

/-- Two clients overwrite the version that both have read.  The body of the first brings the tag of
that version, which the stamp replaces. -/
def sharedVersion : List Action :=
  [.install ⟨"user", "/id"⟩,
    .request (.create "user" (.object [("id", .string "a")]) ⟨"first", 7⟩),
    overwrite [("_etag", .string "first"), ("id", .string "a")] ⟨"second", 8⟩,
    overwrite [("id", .string "a")] ⟨"third", 9⟩]

theorem tag_spent_once_sharedVersion :
    (issuedTags (DocStore.empty.trace sharedVersion)).Nodup ∧
      ∃ before e f, DocStore.empty.trace sharedVersion = before ++ [e, f] ∧
        e.Spends "first" ⟨"user", ⟨"a", "a"⟩⟩ ∧ ¬ f.Spends "first" ⟨"user", ⟨"a", "a"⟩⟩ ∧
        ∃ w d, w ∈ before ∧ w.Writes ⟨"user", ⟨"a", "a"⟩⟩ d ∧ w.issued? = some "first" ∧
          e.store.document? ⟨"user", ⟨"a", "a"⟩⟩ = some d := by
  have hdistinct : (issuedTags (DocStore.empty.trace sharedVersion)).Nodup := by decide +kernel
  obtain ⟨honce, hversion⟩ := tag_spent_once sharedVersion hdistinct "first"
  have hsplit : DocStore.empty.trace sharedVersion =
      DocStore.empty.trace (sharedVersion.take 2) ++
        [⟨DocStore.empty.final (sharedVersion.take 2), sharedVersion[2]⟩,
          ⟨DocStore.empty.final (sharedVersion.take 3), sharedVersion[3]⟩] := rfl
  have hspends : Event.Spends ⟨DocStore.empty.final (sharedVersion.take 2), sharedVersion[2]⟩
      "first" ⟨"user", ⟨"a", "a"⟩⟩ := ⟨rfl, rfl, _, rfl⟩
  refine ⟨hdistinct, _, _, _, hsplit, hspends, ?_, ?_⟩
  · rw [hsplit, List.pairwise_append] at honce
    exact List.rel_of_pairwise_cons honce.2.1 (List.mem_singleton.mpr rfl) _ _ hspends
  · obtain ⟨first, w, between, d, hbefore, hissued, hwrites, -, -, hd⟩ :=
      hversion _ _ _ _ hsplit hspends
    exact ⟨w, d, by simp [hbefore], hwrites, hissued, hd⟩

end DocAccess.Store
