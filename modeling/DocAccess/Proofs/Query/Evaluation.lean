import DocAccess.Proofs.Query.Condition
import Mathlib.Data.List.Infix

/-!
# What conditions say

A filter tries the predicates of a condition one after the other and stops at the first that fails.
Here a condition is read as a tree instead: a conjunction says what both of its sides say, and
parentheses add nothing.  As long as every parameter is bound, the two readings agree, so that
neither the order nor the grouping nor the repetition of conjuncts makes a difference.

* `Filter.passes?_leaves` — the filter of a condition lets pass the documents of which it holds.
* `Condition.Rearranged.mem_leaves_iff` — rearranging a condition keeps its predicates.
* `Writes.renamed` — the tree of a condition does not depend on the name of its source.
-/

namespace DocAccess.Query

open DocAccess.Document DocAccess.Store

/-! ### Meaning -/

/-- What an operand denotes: a literal itself, and a parameter what it is bound to first. -/
inductive Operand.Denotes (q : Prepared) : Operand → Value → Prop
  | literal (value : Value) : Denotes q (.literal value) value
  | parameter {name : String} {value : Value} {before after : List Parameter}
      (hsplit : q.parameters = before ++ ⟨name, value⟩ :: after)
      (hfirst : ∀ p ∈ before, p.name ≠ name) : Denotes q (.parameter name) value

/-- What a text test asks of a part and a whole. -/
def TextTest.Relates : TextTest → List Char → List Char → Prop
  | contains, part, whole => part <:+: whole
  | startsWith, part, whole => part <+: whole

/-- What a predicate says of a document.  Whatever its form, it says nothing true of a document in
which its path leads nowhere. -/
def Predicate.Holds (q : Prepared) (document : Value) : Predicate → Prop
  | .compare path negated operand =>
      ∃ actual expected, document.follow? path = some actual ∧ operand.Denotes q expected ∧
        (comparesEqual actual expected = true ↔ negated = false)
  | .test kind path operand =>
      ∃ whole part, document.follow? path = some (.string whole) ∧
        operand.Denotes q (.string part) ∧ kind.Relates part.toList whole.toList

/-- What a condition says of a document. -/
def Condition.Holds (q : Prepared) (document : Value) : Condition → Prop
  | leaf predicate => predicate.Holds q document
  | group inner => inner.Holds q document
  | both left right => left.Holds q document ∧ right.Holds q document

/-- The path of a predicate. -/
def Predicate.path : Predicate → List String
  | .compare path _ _ => path
  | .test _ path _ => path

/-- A predicate does not hold of a document in which its path leads nowhere, whatever its form. -/
theorem Predicate.not_holds_of_missing (q : Prepared) {p : Predicate} {document : Value}
    (hmissing : document.follow? p.path = none) : ¬ p.Holds q document := by
  cases p with
  | compare path negated operand =>
      rintro ⟨actual, expected, hfollow, -⟩
      exact nomatch hmissing.symm.trans hfollow
  | test kind path operand =>
      rintro ⟨whole, part, hfollow, -⟩
      exact nomatch hmissing.symm.trans hfollow

/-- A condition holds if each of its predicates does. -/
theorem Condition.holds_iff (q : Prepared) (document : Value) (t : Condition) :
    t.Holds q document ↔ ∀ p ∈ t.leaves, p.Holds q document := by
  induction t with
  | leaf predicate => simp [Holds, leaves]
  | group inner ih => exact ih
  | both left right ihleft ihright => simp [Holds, leaves, ihleft, ihright, or_imp, forall_and]

/-! ### Bound parameters -/

/-- The operand of a predicate. -/
def Predicate.operand : Predicate → Operand
  | .compare _ _ operand => operand
  | .test _ _ operand => operand

/-- Whether a query binds an operand, if that is a parameter. -/
def Operand.Bound (q : Prepared) : Operand → Prop
  | .literal _ => True
  | .parameter name => ∃ p ∈ q.parameters, p.name = name

/-- Whether a query binds the parameters of a filter. -/
def Filter.Bound (q : Prepared) (f : Filter) : Prop := ∀ p ∈ f, p.operand.Bound q

instance (q : Prepared) (operand : Operand) : Decidable (operand.Bound q) :=
  match operand with
  | .literal _ => inferInstanceAs (Decidable True)
  | .parameter name => inferInstanceAs (Decidable (∃ p ∈ q.parameters, p.name = name))

instance (q : Prepared) (f : Filter) : Decidable (f.Bound q) :=
  inferInstanceAs (Decidable (∀ p ∈ f, p.operand.Bound q))

/-- Whether a query binds the parameters of a condition. -/
def Condition.Bound (q : Prepared) (t : Condition) : Prop := Filter.Bound q t.leaves

theorem Operand.resolve?_eq_ok_iff (q : Prepared) (operand : Operand) (value : Value) :
    operand.resolve? q = .ok value ↔ operand.Denotes q value := by
  cases operand with
  | literal own =>
      constructor
      · rintro ⟨⟩
        exact .literal value
      · rintro ⟨⟩
        rfl
  | parameter name =>
      have hresolve : (Operand.parameter name).resolve? q = .ok value ↔
          q.parameter? name = some value := by
        simp only [Operand.resolve?]
        cases q.parameter? name with
        | none => simp
        | some bound => simp
      rw [hresolve, Prepared.parameter?, Option.map_eq_some_iff]
      constructor
      · rintro ⟨⟨own, bound⟩, hfind, rfl⟩
        -- of several parameters with the name the first one counts
        obtain ⟨hname, before, after, hsplit, hbefore⟩ := List.find?_eq_some_iff_append.mp hfind
        obtain rfl : own = name := by simpa using hname
        refine .parameter hsplit fun p hp => ?_
        simpa using hbefore p hp
      · intro h
        cases h with
        | parameter hsplit hfirst =>
            refine ⟨⟨name, value⟩, List.find?_eq_some_iff_append.mpr ?_, rfl⟩
            refine ⟨by simp, _, _, hsplit, fun p hp => ?_⟩
            simpa using hfirst p hp

theorem Operand.exists_denotes {q : Prepared} {operand : Operand} (hbound : operand.Bound q) :
    ∃ value, operand.Denotes q value := by
  cases operand with
  | literal value => exact ⟨value, .literal value⟩
  | parameter name =>
      obtain ⟨p, hp, hname⟩ := hbound
      cases hfind : q.parameter? name with
      | some value =>
          refine ⟨value, (Operand.resolve?_eq_ok_iff q _ value).mp ?_⟩
          simp only [Operand.resolve?, hfind]
      | none =>
          rw [Prepared.parameter?, Option.map_eq_none_iff, List.find?_eq_none] at hfind
          exact absurd (by simpa using hname) (hfind p hp)

theorem Operand.Denotes.unique {q : Prepared} {operand : Operand} {value other : Value}
    (h : operand.Denotes q value) (hother : operand.Denotes q other) : value = other := by
  have hvalue := (Operand.resolve?_eq_ok_iff q operand value).mpr h
  have hsame := (Operand.resolve?_eq_ok_iff q operand other).mpr hother
  exact Except.ok.inj (hvalue.symm.trans hsame)

/-- The two comparisons of a path that leads somewhere are complementary. -/
theorem Predicate.holds_differ_iff {q : Prepared} {operand : Operand} (hbound : operand.Bound q)
    {path : List String} {document actual : Value} (hfollow : document.follow? path = some actual) :
    Predicate.Holds q document (.compare path true operand) ↔
      ¬ Predicate.Holds q document (.compare path false operand) := by
  obtain ⟨expected, hdenotes⟩ := Operand.exists_denotes hbound
  have hiff : ∀ negated, Predicate.Holds q document (.compare path negated operand) ↔
      (comparesEqual actual expected = true ↔ negated = false) := by
    intro negated
    constructor
    · rintro ⟨found, other, hfound, hother, h⟩
      obtain rfl := Option.some.inj (hfollow.symm.trans hfound)
      rwa [hdenotes.unique hother]
    · intro h
      exact ⟨actual, expected, hfollow, hdenotes, h⟩
  simp [hiff]

/-! ### Evaluation -/

theorem occursIn_iff (part whole : List Char) : occursIn part whole = true ↔ part <:+: whole := by
  induction whole with
  | nil => simp [occursIn]
  | cons c rest ih =>
      rw [occursIn, Bool.or_eq_true, ih, List.isPrefixOf_iff_prefix, List.infix_cons_iff]

theorem TextTest.holds_iff (test : TextTest) (part whole : List Char) :
    test.holds whole part = true ↔ test.Relates part whole := by
  cases test with
  | contains => exact occursIn_iff part whole
  | startsWith => exact List.isPrefixOf_iff_prefix

/-- A predicate whose parameter is bound can be evaluated, and to what it says. -/
theorem Predicate.holds?_of_bound {q : Prepared} {p : Predicate} (hbound : p.operand.Bound q)
    (document : Value) :
    ∃ holds, p.holds? q document = .ok holds ∧ (holds = true ↔ p.Holds q document) := by
  obtain ⟨expected, hdenotes⟩ := Operand.exists_denotes hbound
  have hresolve := (Operand.resolve?_eq_ok_iff q _ expected).mpr hdenotes
  cases p with
  | compare path negated operand =>
      -- the operand is resolved first, so that a missing field does not hide an unbound parameter
      simp only [Predicate.operand] at hdenotes hresolve
      simp only [Predicate.holds?, hresolve, Predicate.Holds, bind, Except.bind, pure, Except.pure]
      refine ⟨_, rfl, ?_⟩
      cases hfollow : document.follow? path with
      | none => simp
      | some actual =>
          constructor
          · intro hcompare
            refine ⟨actual, expected, rfl, hdenotes, ?_⟩
            revert hcompare
            cases negated <;> simp
          · rintro ⟨found, other, hfound, hother, hiff⟩
            cases hfound
            obtain rfl := hdenotes.unique hother
            cases negated <;> simpa using hiff
  | test kind path operand =>
      simp only [Predicate.operand] at hdenotes hresolve
      simp only [Predicate.holds?, hresolve, Predicate.Holds, bind, Except.bind, pure, Except.pure]
      refine ⟨_, rfl, ?_⟩
      constructor
      · intro hmatch
        split at hmatch
        · next part whole hfollow =>
            exact ⟨whole, part, hfollow, hdenotes, (kind.holds_iff _ _).mp hmatch⟩
        · cases hmatch
      · rintro ⟨whole, part, hfollow, hother, hrelates⟩
        obtain rfl := hdenotes.unique hother
        simp only [hfollow]
        exact (kind.holds_iff _ _).mpr hrelates

/-- A filter whose parameters are bound lets a document pass if all of its predicates hold.  The
predicates behind a failing one are not tried, but could not change the outcome. -/
theorem Filter.passes?_of_bound {q : Prepared} {f : Filter} (hbound : f.Bound q)
    (document : Value) :
    ∃ passes, f.passes? q document = .ok passes ∧
      (passes = true ↔ ∀ p ∈ f, p.Holds q document) := by
  induction f with
  | nil => exact ⟨true, rfl, by simp⟩
  | cons p rest ih =>
      obtain ⟨hp, hrest⟩ := List.forall_mem_cons.mp hbound
      obtain ⟨holds, hholds, hiff⟩ := Predicate.holds?_of_bound hp document
      obtain ⟨passes, hpasses, hall⟩ := ih hrest
      rw [Filter.passes?, hholds]
      cases holds with
      | false =>
          -- one predicate that fails decides, whatever the others say
          have hnot : ¬ p.Holds q document := fun h => Bool.false_ne_true (hiff.mpr h)
          exact ⟨false, rfl, by simp [hnot]⟩
      | true =>
          have hyes : p.Holds q document := hiff.mp rfl
          refine ⟨passes, hpasses, ?_⟩
          rw [hall, List.forall_mem_cons]
          exact (and_iff_right hyes).symm

/-- The filter of a condition lets pass the documents of which the condition holds. -/
theorem Filter.passes?_leaves {q : Prepared} {t : Condition} (hbound : t.Bound q)
    (document : Value) :
    ∃ passes, Filter.passes? q document t.leaves = .ok passes ∧
      (passes = true ↔ t.Holds q document) := by
  simp only [t.holds_iff]
  exact Filter.passes?_of_bound hbound document

/-- A comparison on its own, with an operand that has a value. -/
theorem Filter.passes?_comparison {q : Prepared} {operand : Operand} {expected : Value}
    (hresolve : operand.resolve? q = .ok expected) (path : List String) (negated : Bool)
    (document : Value) :
    Filter.passes? q document [.compare path negated operand] =
      .ok (match document.follow? path with
        | some actual => comparesEqual actual expected != negated
        | none => false) := by
  have hholds : Predicate.holds? q document (.compare path negated operand) =
      .ok (match document.follow? path with
        | some actual => comparesEqual actual expected != negated
        | none => false) := by
    rw [Predicate.holds?, hresolve]
    rfl
  rw [Filter.passes?, hholds]
  cases document.follow? path with
  | none => rfl
  | some actual => cases h : comparesEqual actual expected != negated <;> simp [h] <;> rfl

/-- Whatever its parameters, a filter lets a document pass only if each of its predicates does. -/
theorem Filter.passes?_eq_true_iff (q : Prepared) (f : Filter) (document : Value) :
    f.passes? q document = .ok true ↔ ∀ p ∈ f, p.holds? q document = .ok true := by
  induction f with
  | nil => simp [Filter.passes?]
  | cons p rest ih =>
      rw [Filter.passes?, bind_eq_ok_iff, List.forall_mem_cons, ← ih]
      constructor
      · rintro ⟨holds, hholds, hrest⟩
        cases holds with
        | false => cases hrest
        | true => exact ⟨hholds, hrest⟩
      · rintro ⟨hholds, hrest⟩
        exact ⟨true, hholds, hrest⟩

/-- Filters with the same predicates, in whatever order and however often, say the same. -/
theorem Filter.passes?_of_mem_iff {q : Prepared} {f f' : Filter} (hbound : f.Bound q)
    (hmem : ∀ p, p ∈ f ↔ p ∈ f') (document : Value) :
    f'.passes? q document = f.passes? q document := by
  have hbound' : f'.Bound q := fun p hp => hbound p ((hmem p).mpr hp)
  obtain ⟨passes, hpasses, hall⟩ := Filter.passes?_of_bound hbound document
  obtain ⟨passes', hpasses', hall'⟩ := Filter.passes?_of_bound hbound' document
  have hsame : passes' = passes := by
    rw [Bool.eq_iff_iff, hall, hall']
    simp only [hmem]
  rw [hpasses, hpasses', hsame]

/-! ### Queries with the same parameters -/

section Parameters

variable {q q' : Prepared} (hsame : q'.parameters = q.parameters)

include hsame

theorem Operand.resolve?_congr (operand : Operand) : operand.resolve? q' = operand.resolve? q := by
  cases operand with
  | literal value => rfl
  | parameter name => simp only [Operand.resolve?, Prepared.parameter?, hsame]

theorem Predicate.holds?_congr (p : Predicate) (document : Value) :
    p.holds? q' document = p.holds? q document := by
  cases p with
  | compare path negated operand => simp only [Predicate.holds?, Operand.resolve?_congr hsame]
  | test kind path operand => simp only [Predicate.holds?, Operand.resolve?_congr hsame]

/-- Evaluation looks at the parameters of a query and not at its text. -/
theorem Filter.passes?_congr (f : Filter) (document : Value) :
    f.passes? q' document = f.passes? q document := by
  induction f with
  | nil => rfl
  | cons p rest ih => rw [Filter.passes?, Filter.passes?, Predicate.holds?_congr hsame, ih]

end Parameters

/-! ### Other forms of a condition -/

/-- Conditions that differ in the order of conjuncts, in their grouping, in parentheses and in how
often a conjunct is stated, anywhere in the tree. -/
inductive Condition.Rearranged : Condition → Condition → Prop
  | refl (t : Condition) : Rearranged t t
  | symm {t u : Condition} (h : Rearranged t u) : Rearranged u t
  | trans {t u v : Condition} (h : Rearranged t u) (h' : Rearranged u v) : Rearranged t v
  | reorder (t u : Condition) : Rearranged (.both t u) (.both u t)
  | regroup (t u v : Condition) : Rearranged (.both (.both t u) v) (.both t (.both u v))
  | parenthesise (t : Condition) : Rearranged t (.group t)
  | restate (t : Condition) : Rearranged t (.both t t)
  | group {t u : Condition} (h : Rearranged t u) : Rearranged (.group t) (.group u)
  | both {t t' u u' : Condition} (hleft : Rearranged t t') (hright : Rearranged u u') :
      Rearranged (.both t u) (.both t' u')

/-- Rearranging a condition keeps its predicates. -/
theorem Condition.Rearranged.mem_leaves_iff {t u : Condition} (h : t.Rearranged u)
    (p : Predicate) : p ∈ t.leaves ↔ p ∈ u.leaves := by
  induction h with
  | refl => exact Iff.rfl
  | symm _ ih => exact ih.symm
  | trans _ _ ih ih' => exact ih.trans ih'
  | reorder t u => simp only [leaves, List.mem_append, or_comm]
  | regroup t u v => simp only [leaves, List.mem_append, or_assoc]
  | parenthesise t => exact Iff.rfl
  | restate t => simp only [leaves, List.mem_append, or_self]
  | group _ ih => exact ih
  | both _ _ ihleft ihright => simp only [leaves, List.mem_append, ihleft, ihright]

/-- A path with another name of its source. -/
def Expr.rerooted (root : Ident) : Expr → Expr
  | .path (_ :: fields) => .path (root :: fields)
  | e => e

/-- A condition with another name of its source, in every path. -/
def Expr.renamed (root : Ident) : Expr → Expr
  | .nested inner => .nested (inner.renamed root)
  | .binary left operator right =>
      if operator = "AND" then .binary (left.renamed root) operator (right.renamed root)
      else .binary (left.rerooted root) operator right
  | .call function parameters (.list quantifier (.plain target :: rest) clauses) suffix =>
      .call function parameters (.list quantifier (.plain (target.rerooted root) :: rest) clauses)
        suffix
  | e => e

theorem WritesPath.rerooted {source : String} {e : Expr} {path : List String}
    (h : WritesPath source e path) (root : Ident) : WritesPath root.text (e.rerooted root) path := by
  cases h with
  | path _ hne => exact .path rfl hne

/-- A condition is the same condition under another name of its source. -/
theorem Writes.renamed {source : String} {e : Expr} {t : Condition} (h : Writes source e t)
    (root : Ident) : Writes root.text (e.renamed root) t := by
  induction h with
  | equal hpath hoperand =>
      rw [Expr.renamed, if_neg (by decide)]
      exact .equal (hpath.rerooted root) hoperand
  | differ hpath hoperand =>
      rw [Expr.renamed, if_neg (by decide)]
      exact .differ (hpath.rerooted root) hoperand
  | test hname hpath hoperand => exact .test hname (hpath.rerooted root) hoperand
  | nested _ ih => exact .nested ih
  | both _ _ ihleft ihright =>
      rw [Expr.renamed, if_pos rfl]
      exact .both ihleft ihright

end DocAccess.Query
