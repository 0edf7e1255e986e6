import DocAccess.Proofs.Decimal.Whole
import DocAccess.Proofs.Store.Literals

/-!
# Comparisons of integers

A comparison sees two numbers through their nearest doubles.  Integers of at most 53 bits are told
apart from all others, and longer ones only if they differ in what is left of them after rounding.

* `comparesEqual_integer_iff` — integers that compare equal.
* `integers_compare_nearest` — the result for predicates and queries.
* `integers_not_told_apart` — integers that a query takes for each other.
-/

namespace DocAccess.Store

open DocAccess.Decimal DocAccess.Decimal.Double DocAccess.Document DocAccess.Query

/-- Whether a number of a document may be an integer. -/
structure InRange (n : Int) : Prop where
  low : -2 ^ 63 ≤ n
  high : n < 2 ^ 64

instance (n : Int) : Decidable (InRange n) :=
  decidable_of_iff (-2 ^ 63 ≤ n ∧ n < 2 ^ 64) ⟨fun h => ⟨h.1, h.2⟩, fun h => ⟨h.low, h.high⟩⟩

theorem InRange.natAbs_lt {n : Int} (hn : InRange n) : n.natAbs < 2 ^ 64 := by
  obtain ⟨hlow, hhigh⟩ := hn
  omega

section Integers

variable {a b : Int} (ha : InRange a) (hb : InRange b)

include ha hb

theorem comparesEqual_integer_iff :
    comparesEqual (.number (.integer a)) (.number (.integer b)) = true ↔
      nearestInt a = nearestInt b :=
  same_ofInt_iff ha.natAbs_lt hb.natAbs_lt

/-- Integers that share a double are at most one unit of the longest ones apart. -/
theorem abs_sub_le_of_nearestInt (h : nearestInt a = nearestInt b) : |a - b| ≤ 2 ^ 11 := by
  have hunit : ∀ {n : Int}, InRange n → unit n.natAbs ≤ 2 ^ 11 := by
    intro n hn
    have hlog := log2_lt_of_lt (by decide) hn.natAbs_lt
    exact Nat.pow_le_pow_right (by decide) (by omega)
  have hsum := two_mul_abs_sub_le h
  have ha' := hunit ha
  have hb' := hunit hb
  omega

end Integers

/-! ### Pages -/

theorem mem_of_mem_cut {items : List Value} {start size : Nat} {d : Value}
    (h : d ∈ (Page.cut items start size).items) : d ∈ items := by
  unfold Page.cut slice? at h
  dsimp only at h
  split at h
  · exact List.mem_of_mem_drop (List.mem_of_mem_take h)
  · simp at h

/-- What a query returns passes its filter. -/
theorem passes?_of_query? {s : DocStore} {container : String} {q : Prepared}
    {token : Option String} {o : Options} {page : Page} {f : Filter} {d : Value}
    (hfilter : Filter.ofText? q.text = .ok f) (hpage : s.query? container q token o = .ok page)
    (hd : d ∈ page.items) : f.passes? q d = .ok true := by
  simp only [DocStore.query?, hfilter, bind_eq_ok_iff] at hpage
  obtain ⟨-, -, f', hf', start, -, c, -, items, hitems, hcut⟩ := hpage
  obtain rfl := Except.ok.inj hf'
  obtain rfl := Except.ok.inj hcut
  obtain ⟨-, rfl⟩ := (matching?_eq_ok_iff _ _ _ _).mp hitems
  exact (selects_eq_true_iff f q d).mp (List.mem_filter.mp (mem_of_mem_cut hd)).2

/-! ### Comparisons with a parameter -/

/-- How a query that binds a parameter to an integer sees a document that has an integer where a
path leads. -/
structure ComparesNearest (q : Prepared) (name : String) (b : Int) (path : List String)
    (document : Value) (a : Int) : Prop where
  equal : Predicate.holds? q document (.compare path false (.parameter name)) =
    .ok (decide (nearestInt a = nearestInt b))
  differ : Predicate.holds? q document (.compare path true (.parameter name)) =
    .ok (decide (nearestInt a ≠ nearestInt b))
  /-- An integer of at most 53 bits is not taken for another one. -/
  exact : a.natAbs < 2 ^ 53 ∨ b.natAbs < 2 ^ 53 → (nearestInt a = nearestInt b ↔ a = b)
  near : nearestInt a = nearestInt b → |a - b| ≤ 2 ^ 11
  returned : ∀ (f : Filter) (s : DocStore) (container : String) (token : Option String)
    (o : Options) (page : Page), Filter.ofText? q.text = .ok f →
    .compare path false (.parameter name) ∈ f → s.query? container q token o = .ok page →
    document ∈ page.items → nearestInt a = nearestInt b

/-- A document with an integer and a parameter that is bound to one: they compare equal exactly if
they are the same after rounding to 53 bits, so for integers of at most 53 bits exactly if they are
the same.  A query for one integer returns documents that hold another one only if the two are the
same after rounding, and then they are not far from each other. -/
theorem integers_compare_nearest {q : Prepared} {name : String} {path : List String}
    {document : Value} {a b : Int} (ha : InRange a) (hb : InRange b)
    (hfollow : document.follow? path = some (.number (.integer a)))
    (hbound : (Operand.parameter name).Denotes q (.number (.integer b))) :
    ComparesNearest q name b path document a := by
  have hresolve := (Operand.resolve?_eq_ok_iff q _ _).mpr hbound
  have hequal : comparesEqual (.number (.integer a)) (.number (.integer b)) =
      decide (nearestInt a = nearestInt b) := by
    rw [Bool.eq_iff_iff, comparesEqual_integer_iff ha hb, decide_eq_true_iff]
  -- the two signs differ only in whether the result is turned around
  have hholds : ∀ negated, Predicate.holds? q document (.compare path negated (.parameter name)) =
      .ok (decide (nearestInt a = nearestInt b) != negated) := by
    intro negated
    rw [Predicate.holds?, hresolve, hfollow, ← hequal]
    rfl
  refine ⟨?_, ?_, ?_, abs_sub_le_of_nearestInt ha hb, ?_⟩
  · rw [hholds, Bool.bne_false]
  · rw [hholds, Bool.bne_true, decide_not]
  · rintro (hshort | hshort)
    · exact nearestInt_eq_iff hshort
    · rw [eq_comm, nearestInt_eq_iff hshort, eq_comm]
  · intro f s container token o page hfilter hmem hpage hdocument
    have hpasses := passes?_of_query? hfilter hpage hdocument
    have hpredicate := (Filter.passes?_eq_true_iff q f document).mp hpasses _ hmem
    rw [hholds, Bool.bne_false, Except.ok.injEq, decide_eq_true_eq] at hpredicate
    exact hpredicate

/-- A document that holds an integer. -/
def holding (n : Int) : Value := .object [("n", .number (.integer n))]

/-- The query for the documents that hold an integer, or for those that do not. -/
def askInteger (sign : String) (n : Int) : Prepared :=
  boundQuery ["n"] sign "x".toList (.number (.integer n))

/-- An integer of 54 bits is found by the query for the one that it is rounded to, and not by the
query for the next one after that. -/
theorem integers_compare_nearest_long :
    ComparesNearest (askInteger "=" (2 ^ 53)) "@x" (2 ^ 53) ["n"] (holding (2 ^ 53 + 1))
        (2 ^ 53 + 1) ∧
      ComparesNearest (askInteger "=" (2 ^ 53 + 2)) "@x" (2 ^ 53 + 2) ["n"] (holding (2 ^ 53 + 1))
        (2 ^ 53 + 1) ∧
      nearestInt (2 ^ 53 + 1) = nearestInt (2 ^ 53) ∧
      nearestInt (2 ^ 53 + 1) ≠ nearestInt (2 ^ 53 + 2) := by
  have hcompares : ∀ b, InRange b →
      ComparesNearest (askInteger "=" b) "@x" b ["n"] (holding (2 ^ 53 + 1)) (2 ^ 53 + 1) := by
    intro b hb
    have hbound : (Operand.parameter "@x").Denotes (askInteger "=" b) (.number (.integer b)) :=
      (Operand.resolve?_eq_ok_iff _ _ _).mp (resolve?_boundQuery _)
    exact integers_compare_nearest (by decide) hb rfl hbound
  exact ⟨hcompares _ (by decide), hcompares _ (by decide), by decide +kernel, by decide +kernel⟩

/-- Integers that differ, where a query for the one returns documents that hold the other, and a
query for what is not the one does not return them. -/
theorem integers_not_told_apart :
    (askInteger "=" 0).text = "SELECT * FROM c WHERE c.n = @x" ∧
    ∀ p ∈ [((2 : Int) ^ 53, (2 : Int) ^ 53 + 1), (2 ^ 64 - 2, 2 ^ 64 - 1), (-2 ^ 63, -2 ^ 63 + 1)],
      InRange p.1 ∧ InRange p.2 ∧ p.1 ≠ p.2 ∧
        (selection? (askInteger "=" p.1) [holding p.2]).toOption.map List.length = some 1 ∧
        (selection? (askInteger "<>" p.1) [holding p.2]).toOption.map List.length = some 0 := by
  decide +kernel

end DocAccess.Store
