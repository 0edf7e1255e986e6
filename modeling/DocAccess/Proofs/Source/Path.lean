import DocAccess.Code.Import
import DocAccess.Code.Validity
import DocAccess.Proofs.Source.Reading

/-!
# Paths and imports

A setting is accepted if it is a path, which may have type arguments and may go through the type
that the code belongs to.  An import has neither.  The words of an import that is accepted as a path
as well are therefore identifiers, or one of the few keywords that a path may hold.
-/

namespace DocAccess.Source

open DocAccess.Code Reading

/-! ### Words with separators between them -/

/-- Trees that spell words with path separators between them. -/
inductive SpellsWords : List Tree → List Ident → Prop
  | one (i : Ident) : SpellsWords [.word i.name i.raw] [i]
  | cons (i : Ident) (joint : Bool) {ts : List Tree} {is : List Ident} (hrest : SpellsWords ts is) :
      SpellsWords (.word i.name i.raw :: .mark ':' true :: .mark ':' joint :: ts) (i :: is)

/-- The first word, and what is behind it: nothing, or a separator and more words. -/
theorem SpellsWords.exists_word {ts : List Tree} {is : List Ident} (h : SpellsWords ts is) :
    ∃ name raw rest, ts = .word name raw :: rest := by
  cases h with
  | one i => exact ⟨_, _, _, rfl⟩
  | cons i joint hrest => exact ⟨_, _, _, rfl⟩

theorem importWordsFrom_eq_some {fuel : Nat} {ts : List Tree} {is : List Ident}
    (h : importWordsFrom fuel ts = some (is, [])) : SpellsWords ts is := by
  induction fuel generalizing ts is with
  | zero => cases h
  | succ fuel ih =>
      rw [importWordsFrom, bind_eq_some_iff] at h
      obtain ⟨t, middle, hnext, h⟩ := h
      cases ts with
      | nil => cases hnext
      | cons t' ts =>
          obtain ⟨rfl, rfl⟩ : t' = t ∧ ts = middle := by simpa [next] using hnext
          split at h
          · next name raw =>
              rw [bind_eq_some_iff] at h
              obtain ⟨last, middle, hlook, h⟩ := h
              obtain ⟨rfl, rfl⟩ : atEnd ts = last ∧ ts = middle := by simpa [look] using hlook
              split at h
              · next hend =>
                  obtain ⟨rfl, rfl⟩ := (pure_eq_some_iff _ _ _ _).mp h
                  exact .one ⟨name, raw⟩
              · simp only [bind_eq_some_iff, marks_eq_some_iff] at h
                obtain ⟨-, middle, ⟨joint, rfl⟩, others, last, hothers, h⟩ := h
                obtain ⟨rfl, rfl⟩ := (pure_eq_some_iff _ _ _ _).mp h
                exact .cons ⟨name, raw⟩ joint (ih hothers)
          · cases h

/-! ### The words of a path -/

/-- The words that a path may hold: identifiers and a few keywords. -/
def IsPathWord (i : Ident) : Prop :=
  i.isDeclarable = true ∨ i.isOneOf ["super", "self", "crate", "try", "Self"] = true

variable (r : Rules)

/-- What may stand behind a word without type arguments. -/
def EndsSegment (rest : List Tree) : Prop :=
  rest = [] ∨ ∃ joint name raw more,
    rest = .mark ':' true :: .mark ':' joint :: .word name raw :: more

theorem isOneOf_mono {names others : List String} (hsubset : names ⊆ others) {i : Ident}
    (h : i.isOneOf names = true) : i.isOneOf others = true := by
  simp only [Ident.isOneOf, Bool.and_eq_true, List.contains_iff_mem] at h ⊢
  exact ⟨h.1, hsubset h.2⟩

theorem atOneOf_word (names : List String) (i : Ident) (rest : List Tree) :
    atOneOf names (.word i.name i.raw :: rest) = i.isOneOf names := rfl

theorem identifierOr_word {i : Ident} {rest middle : List Tree} {u : Unit}
    (h : identifierOr ["Self"] (.word i.name i.raw :: rest) = some (u, middle)) :
    IsPathWord i ∧ middle = rest := by
  rw [identifierOr, bind_eq_some_iff] at h
  obtain ⟨special, behind, hspecial, h⟩ := h
  rw [take?_apply, atOneOf_word] at hspecial
  by_cases hself : i.isOneOf ["Self"] = true
  · rw [if_pos hself, Option.some.injEq, Prod.mk.injEq] at hspecial
    obtain ⟨rfl, rfl⟩ := hspecial
    refine ⟨.inr (isOneOf_mono (by decide) hself), ?_⟩
    exact ((pure_eq_some_iff _ _ _ _).mp h).2.symm
  · rw [if_neg hself, Option.some.injEq, Prod.mk.injEq] at hspecial
    obtain ⟨rfl, rfl⟩ := hspecial
    simp only [Bool.false_eq_true, if_false, discard_apply, identifier_word,
      Option.map_eq_some_iff, Prod.mk.injEq] at h
    obtain ⟨⟨text, behind⟩, hword, -, rfl⟩ := h
    obtain ⟨hidentifier, hword⟩ := Option.ite_none_right_eq_some.mp hword
    refine ⟨.inl hidentifier, ?_⟩
    exact (Prod.mk.inj (Option.some.inj hword)).2.symm

/-- Behind such a word no type arguments open. -/
theorem look_angle {rest : List Tree} (hrest : EndsSegment rest) :
    (!false && atMarks "<" rest && !atMarks "<=" rest && !atMarks "<<=" rest
      || atMarks "::" rest && third (atMarks "<") rest) = false := by
  have hangle : "<".toList = ['<'] := rfl
  rcases hrest with rfl | ⟨joint, name, raw, more, rfl⟩
  · simp [atMarks, hangle, atMarksOf, third]
  · simp [atMarks, hangle, atMarksOf, third]

theorem segment_word {i : Ident} {rest middle : List Tree} {angled : Bool}
    (hrest : EndsSegment rest)
    (h : r.segment false (.word i.name i.raw :: rest) = some (angled, middle)) :
    IsPathWord i ∧ middle = rest := by
  rw [Rules.segment, bind_eq_some_iff] at h
  obtain ⟨special, behind, hspecial, h⟩ := h
  rw [take?_apply, atOneOf_word] at hspecial
  by_cases hkeyword : i.isOneOf ["super", "self", "crate", "try"] = true
  · rw [if_pos hkeyword, Option.some.injEq, Prod.mk.injEq] at hspecial
    obtain ⟨rfl, rfl⟩ := hspecial
    refine ⟨.inr (isOneOf_mono (by decide) hkeyword), ?_⟩
    obtain ⟨-, rfl⟩ := (pure_eq_some_iff _ _ _ _).mp h
    rfl
  · rw [if_neg hkeyword, Option.some.injEq, Prod.mk.injEq] at hspecial
    obtain ⟨rfl, rfl⟩ := hspecial
    simp only [Bool.false_eq_true, if_false, bind_eq_some_iff] at h
    obtain ⟨u, behind, hident, opens, later, hlook, h⟩ := h
    obtain ⟨hword, rfl⟩ := identifierOr_word hident
    rw [look, look_angle hrest, Option.some.injEq, Prod.mk.injEq] at hlook
    obtain ⟨rfl, rfl⟩ := hlook
    refine ⟨hword, ?_⟩
    obtain ⟨-, rfl⟩ := (pure_eq_some_iff _ _ _ _).mp h
    rfl

theorem isPathWord_of_restOfPath {ts : List Tree} {is : List Ident} (hspells : SpellsWords ts is) :
    ∀ {fuel : Nat} {form last : PathForm} {angled : Bool} {middle : List Tree},
      r.segment false ts = some (angled, middle) →
        r.restOfPathFrom false fuel form middle = some (last, []) → ∀ i ∈ is, IsPathWord i := by
  induction hspells with
  | one i =>
      intro fuel form last angled middle hsegment hrest j hj
      obtain rfl := List.mem_singleton.mp hj
      exact (segment_word r (.inl rfl) hsegment).1
  | @cons i joint ts is hspells ih =>
      intro fuel form last angled middle hsegment hrest
      obtain ⟨name, raw, more, rfl⟩ := hspells.exists_word
      obtain ⟨hi, rfl⟩ := segment_word r (.inr ⟨joint, name, raw, more, rfl⟩) hsegment
      cases fuel with
      | zero => cases hrest
      | succ fuel =>
          rw [Rules.restOfPathFrom, bind_eq_some_iff] at hrest
          obtain ⟨goesOn, behind, hlook, hrest⟩ := hrest
          have hat := (atMarks_separator _).mpr ⟨joint, .word name raw :: more, rfl⟩
          rw [look, hat, Option.some.injEq, Prod.mk.injEq] at hlook
          obtain ⟨rfl, rfl⟩ := hlook
          -- what stands behind the marks is a word and not a group
          have hparen : (true && !third (atGroup .paren)
              (.mark ':' true :: .mark ':' joint :: .word name raw :: more)) = true := rfl
          rw [if_pos hparen] at hrest
          simp only [bind_eq_some_iff, marks_eq_some_iff] at hrest
          obtain ⟨-, later, ⟨other, heq⟩, angled', middle', hsegment', hrest⟩ := hrest
          obtain ⟨rfl, rfl⟩ : joint = other ∧ .word name raw :: more = later := by simpa using heq
          intro j hj
          rcases List.mem_cons.mp hj with rfl | hj
          · exact hi
          · exact ih hsegment' hrest j hj

theorem isPathWord_of_path {ts : List Tree} {is : List Ident} {form : PathForm} {rooted : Bool}
    {words : List Tree} (hspells : SpellsWords words is)
    (hrooted : marks? "::" ts = some (rooted, words))
    (h : r.path false ts = some (form, [])) : ∀ i ∈ is, IsPathWord i := by
  rw [Rules.path, bind_eq_some_iff] at h
  obtain ⟨absolute, middle, hmarks, h⟩ := h
  obtain ⟨rfl, rfl⟩ : rooted = absolute ∧ words = middle := by
    rw [hrooted] at hmarks
    simpa using hmarks
  simp only [bind_eq_some_iff, Rules.restOfPath] at h
  obtain ⟨angled, middle, hsegment, size, behind, hremaining, h⟩ := h
  obtain ⟨-, rfl⟩ : middle.length = size ∧ middle = behind := by simpa [remaining] using hremaining
  exact isPathWord_of_restOfPath r hspells hsegment h

theorem readText?_eq_some_iff {α : Type} (reader : Rules → Reading α) (text : String) (a : α) :
    readText? reader text = some a ↔
      ∃ ts, trees? text = some ts ∧ reader (rules (sizeOfTrees ts + 1)) ts = some (a, []) := by
  unfold readText?
  rw [Option.bind_eq_bind, Option.bind_eq_some_iff]
  constructor
  · rintro ⟨ts, hts, h⟩
    refine ⟨ts, hts, ?_⟩
    split at h
    · next hread => rwa [Option.some.inj h] at hread
    · cases h
  · rintro ⟨ts, hts, h⟩
    exact ⟨ts, hts, by rw [h]⟩

theorem importPath_eq_some {ts : List Tree} {p : ImportPath} (h : importPath ts = some (p, [])) :
    ∃ words, marks? "::" ts = some (p.rooted, words) ∧ SpellsWords words p.words := by
  simp only [importPath, bind_eq_some_iff] at h
  obtain ⟨rooted, words, hrooted, size, behind, hremaining, is, last, hwords, h⟩ := h
  obtain ⟨-, rfl⟩ : words.length = size ∧ words = behind := by simpa [remaining] using hremaining
  obtain ⟨rfl, rfl⟩ := (pure_eq_some_iff _ _ _ _).mp h
  exact ⟨words, hrooted, importWordsFrom_eq_some hwords⟩

/-- The words of an import that is also a path: each is an identifier or a keyword of paths. -/
theorem isPathWord_of_ofText? {text : String} {p : ImportPath} (hpath : isPath text = true)
    (himport : ImportPath.ofText? text = some p) : ∀ i ∈ p.words, IsPathWord i := by
  obtain ⟨form, hform⟩ := Option.isSome_iff_exists.mp hpath
  obtain ⟨ts, hts, hpath⟩ := (readText?_eq_some_iff _ _ _).mp hform
  obtain ⟨ts', hts', himport⟩ := (readText?_eq_some_iff _ _ _).mp himport
  obtain rfl : ts = ts' := Option.some.inj (hts.symm.trans hts')
  obtain ⟨words, hrooted, hspells⟩ := importPath_eq_some himport
  exact isPathWord_of_path _ hspells hrooted hpath

/-- The keyword of paths that no import may hold: the type that the code belongs to. -/
def selfType : Ident := .ofWord "Self"

/-- Such an import is valid unless it goes through the type that the code belongs to. -/
theorem isValid_iff_of_isPath {text : String} {p : ImportPath} (hpath : isPath text = true)
    (himport : ImportPath.ofText? text = some p) : p.isValid = true ↔ selfType ∉ p.words := by
  have hwords := isPathWord_of_ofText? hpath himport
  rw [ImportPath.isValid, List.all_eq_true]
  constructor
  · intro hvalid hself
    have hself := hvalid _ hself
    revert hself
    decide
  · intro hself i hi
    rw [Ident.isImportable, Bool.or_eq_true]
    rcases hwords i hi with hident | hkeyword
    · exact .inl hident
    · obtain ⟨name, raw⟩ := i
      simp only [Ident.isOneOf, Bool.and_eq_true, Bool.not_eq_true', List.contains_iff_mem,
        List.mem_cons, List.not_mem_nil, or_false] at hkeyword ⊢
      obtain ⟨rfl, hkeyword⟩ := hkeyword
      have hne : name ≠ "Self" := by
        rintro rfl
        exact hself hi
      tauto

end DocAccess.Source
