import DocAccess.Proofs.Store.Results

/-!
# Conditions and results

The results of a query depend on its condition only through what the condition says of each
document, read as a tree.  So a query may be written in many ways: with its conjuncts in another
order, in other groups, in parentheses or stated twice, and with another name for its source.  One
more conjunct can only take results away.

* `Evaluates` — a filter says of every document what a tree says of it.
* `KeepsResults` — which changes of a condition leave the results as they are, or shorten them.
* `condition_decides_results` — both hold of every condition that is accepted.
-/

namespace DocAccess.Store

open DocAccess.Document DocAccess.Query

/-! ### Evaluation -/

/-- What it means that a filter, under the parameters of a query, evaluates a condition as a tree.
A comparison does not hold where its path leads nowhere, so that its two signs are opposites only
where the path leads somewhere. -/
structure Evaluates (q : Prepared) (filter : Filter) (t : Condition) : Prop where
  decides : ∀ document, ∃ passes, filter.passes? q document = .ok passes ∧
    (passes = true ↔ t.Holds q document)
  missing : ∀ p ∈ filter, ∀ document : Value, document.follow? p.path = none →
    p.holds? q document = .ok false
  complementary : ∀ path negated operand, .compare path negated operand ∈ filter →
    ∀ document actual : Value, document.follow? path = some actual →
      ∃ equal, Predicate.holds? q document (.compare path false operand) = .ok equal ∧
        Predicate.holds? q document (.compare path true operand) = .ok !equal

/-- The filter of a condition evaluates it wherever its parameters are bound. -/
theorem evaluates_of_bound {q : Prepared} {t : Condition} (hbound : t.Bound q) :
    Evaluates q t.leaves t where
  decides := Filter.passes?_leaves hbound
  missing p hp document hmissing := by
    obtain ⟨holds, hholds, hiff⟩ := Predicate.holds?_of_bound (hbound p hp) document
    have hfalse : holds = false :=
      Bool.eq_false_iff.mpr fun h => Predicate.not_holds_of_missing q hmissing (hiff.mp h)
    rw [hholds, hfalse]
  complementary path negated operand hmem document actual hfollow := by
    have hoperand : operand.Bound q := hbound _ hmem
    obtain ⟨equal, hequal, hiff⟩ :=
      Predicate.holds?_of_bound (p := .compare path false operand) hoperand document
    obtain ⟨differ, hdiffer, hiff'⟩ :=
      Predicate.holds?_of_bound (p := .compare path true operand) hoperand document
    refine ⟨equal, hequal, ?_⟩
    have hopposite : differ = !equal := by
      rw [Bool.eq_iff_iff, hiff', Predicate.holds_differ_iff hoperand hfollow, ← hiff]
      simp
    rw [hdiffer, hopposite]

/-! ### Results -/

/-- What it means that two queries are answered alike: every request for a page of the one gets what
it gets for the other. -/
def SameAnswers (q q' : Prepared) : Prop :=
  ∀ (s : DocStore) (container : String) (token : Option String) (o : Options),
    s.query? container q' token o = s.query? container q token o

/-- What the results of a query keep when its condition is changed and its parameters are not. -/
structure KeepsResults (q : Prepared) (e : Expr) (t : Condition) : Prop where
  rearranged : ∀ q' source' e' t', q'.parameters = q.parameters → q'.Selects source' e' →
    Writes source' e' t' → t.Rearranged t' → SameAnswers q q'
  renamed : ∀ q' root, q'.parameters = q.parameters →
    q'.Selects root.text (e.renamed root) → SameAnswers q q'
  narrowed : ∀ q' source' e' t' u, q'.parameters = q.parameters → q'.Selects source' e' →
    Writes source' e' t' → (Condition.both t u).Rearranged t' →
    ∀ (s : DocStore) container found', s.results? container q' = .ok found' →
      ∃ found, s.results? container q = .ok found ∧ found'.Sublist found

section Changed

variable {q q' : Prepared} {source source' : String} {e e' : Expr} {t t' : Condition}
  (hselects : q.Selects source e) (hwrites : Writes source e t) (hbound : t.Bound q)
  (hsame : q'.parameters = q.parameters) (hselects' : q'.Selects source' e')
  (hwrites' : Writes source' e' t')

include hselects hwrites hbound hsame hselects' hwrites'

/-- A rearranged condition has the same predicates, and a filter does not look at more. -/
theorem sameAnswers_of_rearranged (h : t.Rearranged t') : SameAnswers q q' := by
  refine query?_congr (checkParameters_congr hsame) (hselects.ofText?_eq hwrites)
    (hselects'.ofText?_eq hwrites') ?_
  intro d
  rw [Filter.passes?_congr hsame]
  exact Filter.passes?_of_mem_iff hbound h.mem_leaves_iff d

/-- All predicates of a condition are among those of a conjunction with it, so that what passes the
conjunction passes the condition.  The other side may be unbound where it is not tried. -/
theorem results?_of_narrowed {u : Condition} (h : (Condition.both t u).Rearranged t')
    {s : DocStore} {container : String} {found' : List Value}
    (hfound : s.results? container q' = .ok found') :
    ∃ found, s.results? container q = .ok found ∧ found'.Sublist found := by
  obtain ⟨f', c, hparameters, hfilter, hcontainer, -, rfl⟩ := (results?_eq_ok_iff _ _ _ _).mp hfound
  obtain rfl : t'.leaves = f' := Except.ok.inj ((hselects'.ofText?_eq hwrites').symm.trans hfilter)
  -- the container is there and all of `t` is bound, so that the wider query has results as well
  rw [checkParameters_congr hsame] at hparameters
  refine ⟨_, results?_of_bound hparameters (hselects.ofText?_eq hwrites) hbound hcontainer, ?_⟩
  refine (selected_sublist ?_ c).map _
  intro d hpasses
  rw [selects_eq_true_iff, Filter.passes?_congr hsame, Filter.passes?_eq_true_iff] at hpasses
  rw [selects_eq_true_iff, Filter.passes?_eq_true_iff]
  intro p hp
  exact hpasses p ((h.mem_leaves_iff p).mp (List.mem_append_left _ hp))

end Changed

/-- A condition that is accepted is a tree, and its filter evaluates that tree on every document as
soon as its parameters are bound: conjunctions say what both sides say, parentheses nothing, and a
parameter is what it was bound to first.  Therefore the results of a query stay the same when its
conjuncts are reordered, regrouped, parenthesised or repeated and when its source is renamed, and a
further conjunct adds none. -/
theorem condition_decides_results {source : String} {e : Expr} {filter : Filter}
    (haccepted : e.predicates? source = .ok filter) :
    ∃ t, Writes source e t ∧ (∀ q, t.Bound q → Evaluates q filter t) ∧
      ∀ q, q.Selects source e → t.Bound q → KeepsResults q e t := by
  obtain ⟨t, hwrites, rfl⟩ := (predicates?_eq_ok_iff source e filter).mp haccepted
  refine ⟨t, hwrites, fun q hbound => evaluates_of_bound hbound, fun q hselects hbound => ?_⟩
  constructor
  case rearranged =>
    intro q' source' e' t' hsame hselects' hwrites' h
    exact sameAnswers_of_rearranged hselects hwrites hbound hsame hselects' hwrites' h
  case renamed =>
    intro q' root hsame hselects'
    exact sameAnswers_of_rearranged hselects hwrites hbound hsame hselects' (hwrites.renamed root)
      (.refl t)
  case narrowed =>
    intro q' source' e' t' u hsame hselects' hwrites' h s container found' hfound
    exact results?_of_narrowed hselects hwrites hbound hsame hselects' hwrites' h hfound

/-- A query that binds one of its parameters twice. -/
def citizens : Prepared where
  text := "SELECT * FROM c WHERE c.city = 'Oslo' AND (c.age <> @age)"
  parameters := [⟨"@age", .number (.integer 3)⟩, ⟨"@age", .null⟩]

theorem condition_decides_results_citizens :
    ∃ source e filter t, Filter.ofText? citizens.text = .ok filter ∧ filter.length = 2 ∧
      citizens.Selects source e ∧ Evaluates citizens filter t ∧ KeepsResults citizens e t := by
  have hchecked : (Filter.ofText? citizens.text).toOption.map
      (fun filter => (filter.length, decide (filter.Bound citizens))) = some (2, true) := by
    decide +kernel
  obtain ⟨filter, hsome, hfilter⟩ := Option.map_eq_some_iff.mp hchecked
  obtain ⟨hlength, hbound⟩ := Prod.mk.inj hfilter
  have htext := (toOption_eq_some_iff _ _).mp hsome
  obtain ⟨p, rest, rfl⟩ := List.exists_cons_of_length_eq_add_one hlength
  obtain ⟨source, e, u, hselects, hwrites, hleaves⟩ := Prepared.exists_selects htext
  have haccepted : e.predicates? source = .ok (p :: rest) :=
    (predicates?_eq_ok_iff source e _).mpr ⟨u, hwrites, hleaves.symm⟩
  obtain ⟨t, ht, hevaluates, hkeeps⟩ := condition_decides_results haccepted
  have hsame : t.leaves = p :: rest := by
    have hother := (predicates?_eq_ok_iff source e _).mpr ⟨t, ht, rfl⟩
    exact Except.ok.inj (hother.symm.trans haccepted)
  have ht : t.Bound citizens := by
    rw [Condition.Bound, hsame]
    exact of_decide_eq_true hbound
  exact ⟨source, e, _, t, htext, hlength, hselects, hevaluates _ ht, hkeeps _ hselects ht⟩

end DocAccess.Store
