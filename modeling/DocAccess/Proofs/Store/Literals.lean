import DocAccess.Proofs.Query.Literals
import DocAccess.Proofs.Store.Results

/-!
# Literals and bound parameters

A query with a literal answers what the query with a parameter answers in its place, if the parameter
is bound to the scalar that is read back from the literal.  That is the scalar that the literal spells,
unless this is a double; then the two queries answer the same exactly as long as the double that is
read back is the same number.

* `answerAlike_of_comparesEqual` — comparisons with operands that compare alike.
* `comparesEqual_of_answerAlike` — the converse: a document that holds the one operand tells.
* `literal_alike_bound` — the result.
-/

namespace DocAccess.Decimal.Double

theorem same_iff (a b : Double) : a.same b = true ↔ (a.isZero = true ∧ b.isZero = true) ∨ a = b := by
  simp [same]

/-- Numeric equality is an equivalence. -/
theorem same_equivalence : Equivalence fun a b : Double => a.same b = true where
  refl a := (same_iff a a).mpr (.inr rfl)
  symm h := by
    rw [same_iff] at h ⊢
    exact h.imp And.symm Eq.symm
  trans h h' := by
    rw [same_iff] at h h' ⊢
    rcases h with ⟨ha, hb⟩ | rfl
    · rcases h' with ⟨-, hc⟩ | rfl
      · exact .inl ⟨ha, hc⟩
      · exact .inl ⟨ha, hb⟩
    · exact h'

end DocAccess.Decimal.Double

namespace DocAccess.Store

open DocAccess.Decimal DocAccess.Document DocAccess.Query DocAccess.Query.Reading DocAccess.Text

/-! ### Queries that answer alike -/

/-- What an accepted query selects from a row of documents. -/
def selection? (q : Prepared) (documents : List Value) : Except StoreError (List Value) :=
  match Filter.ofText? q.text with
  | .ok f => matching? f q documents
  | .error fault => .error (.badRequest (.query fault))

/-- Two queries are accepted and select the same from every row of documents, and they give the same
pages of every container. -/
structure AnswerAlike (q q' : Prepared) : Prop where
  selects : ∀ documents, ∃ found, selection? q documents = .ok found ∧
    selection? q' documents = .ok found
  pages : ∀ (s : DocStore) (container : String) (token : Option String) (o : Options),
    s.query? container q token o = s.query? container q' token o

theorem selection?_eq {q : Prepared} {f : Filter} (hfilter : Filter.ofText? q.text = .ok f)
    (documents : List Value) : selection? q documents = matching? f q documents := by
  rw [selection?, hfilter]

/-! ### Comparisons -/

/-- A document in which a path leads to a part. -/
theorem exists_follow? (path : List String) (part : Value) :
    ∃ document : Value, document.follow? path = some part := by
  induction path with
  | nil => exact ⟨part, rfl⟩
  | cons name rest ih =>
      obtain ⟨inner, hinner⟩ := ih
      refine ⟨.object [(name, inner)], ?_⟩
      simpa [Value.follow?, Value.get?, Fields.get?] using hinner

section Comparisons

variable {q q' : Prepared} {path : List String} {negated : Bool} {operand operand' : Operand}
  {expected expected' : Value}
  (hfilter : Filter.ofText? q.text = .ok [.compare path negated operand])
  (hfilter' : Filter.ofText? q'.text = .ok [.compare path negated operand'])
  (hresolve : operand.resolve? q = .ok expected) (hresolve' : operand'.resolve? q' = .ok expected')

include hfilter hfilter' hresolve hresolve'

/-- Comparisons of one path with operands that compare alike. -/
theorem answerAlike_of_comparesEqual
    (halike : ∀ actual, comparesEqual actual expected = comparesEqual actual expected')
    (hparameters : checkParameters q = checkParameters q') : AnswerAlike q q' := by
  have hpasses := Filter.passes?_comparison hresolve path negated
  have hpasses' := Filter.passes?_comparison hresolve' path negated
  have hsame : ∀ d, Filter.passes? q d [.compare path negated operand] =
      Filter.passes? q' d [.compare path negated operand'] := by
    intro d
    rw [hpasses, hpasses']
    simp only [halike]
  constructor
  · intro documents
    have hfound := (matching?_eq_ok_iff _ q documents _).mpr ⟨fun d _ => ⟨_, hpasses d⟩, rfl⟩
    refine ⟨_, (selection?_eq hfilter documents).trans hfound, ?_⟩
    rw [selection?_eq hfilter', ← matching?_congr hsame]
    exact hfound
  · intro s container token o
    exact query?_congr hparameters hfilter' hfilter hsame s container token o

/-- Comparisons that answer alike do so of a document in which the path leads to the one operand. -/
theorem comparesEqual_of_answerAlike (halike : AnswerAlike q q')
    (hself : comparesEqual expected' expected' = true) :
    comparesEqual expected' expected = true := by
  obtain ⟨document, hfollow⟩ := exists_follow? path expected'
  have hpasses := Filter.passes?_comparison hresolve path negated document
  have hpasses' := Filter.passes?_comparison hresolve' path negated document
  rw [hfollow] at hpasses hpasses'
  obtain ⟨found, hfound, hfound'⟩ := halike.selects [document]
  rw [selection?_eq hfilter] at hfound
  rw [selection?_eq hfilter'] at hfound'
  have hselects := ((matching?_eq_ok_iff _ q [document] found).mp hfound).2
  rw [((matching?_eq_ok_iff _ q' [document] found).mp hfound').2] at hselects
  -- the one that is compared with itself decides what the other has to say
  simp only [List.filter_cons, List.filter_nil, selects, hpasses, hpasses', hself] at hselects
  cases negated <;> cases hequal : comparesEqual expected' expected <;> simp_all

end Comparisons

/-! ### Literals -/

theorem comparesEqual_congr {a b : Number} (h : a.nearlySame b = true) (actual : Value) :
    comparesEqual actual (.number a) = comparesEqual actual (.number b) := by
  have hequivalence := Double.same_equivalence
  cases actual with
  | number n =>
      rw [Bool.eq_iff_iff]
      exact ⟨fun hn => hequivalence.trans hn h, fun hn => hequivalence.trans hn (hequivalence.symm h)⟩
  | _ => rfl

theorem comparesEqual_self {v : Value} {cs : List Char} (hv : Spelled v cs) :
    comparesEqual v v = true := by
  cases hv with
  | null => rfl
  | bool flag => simp [comparesEqual, Value.same]
  | integer => exact Double.same_equivalence.refl _
  | double => exact Double.same_equivalence.refl _
  | string text => simp [comparesEqual, Value.same]

/-- A query that compares a path with a literal. -/
def literalQuery (chain : List String) (sign : String) (literal : List Char) : Prepared :=
  .ofText (comparisonText chain sign literal)

/-- A query that compares a path with a parameter, which is bound to a value. -/
def boundQuery (chain : List String) (sign : String) (name : List Char) (v : Value) : Prepared :=
  (Prepared.ofText (comparisonText chain sign ('@' :: name))).bind (String.ofList ('@' :: name)) v

section Literals

variable {chain : List String} {sign : String} {name : List Char}

theorem resolve?_boundQuery (v : Value) :
    (Operand.parameter (String.ofList ('@' :: name))).resolve? (boundQuery chain sign name v) =
      .ok v := by
  simp [Operand.resolve?, boundQuery, Prepared.parameter?, Prepared.bind, Prepared.ofText]

theorem checkParameters_boundQuery (v : Value) :
    checkParameters (boundQuery chain sign name v) = .ok () := by
  simp [checkParameters, boundQuery, Prepared.bind, Prepared.ofText, isParameterName]

variable (hne : chain ≠ []) (hnames : ∀ s ∈ chain, IsField s.toList) (hsign : sign ∈ compareSigns)
  (hname : IsField name) {v w : Value} {cs : List Char} (hv : Spelled v cs)

include hne hnames hsign hname hv

/-- A literal answers as what compares like the scalar that is read back from it, and as nothing
else. -/
theorem answerAlike_literal :
    ((∀ actual, comparesEqual actual (readBack v) = comparesEqual actual w) →
      AnswerAlike (literalQuery chain sign cs) (boundQuery chain sign name w)) ∧
    (comparesEqual w w = true →
      AnswerAlike (literalQuery chain sign cs) (boundQuery chain sign name w) →
        comparesEqual w (readBack v) = true) := by
  have hliteral : Filter.ofText? (literalQuery chain sign cs).text =
      .ok [.compare chain (sign == "<>") (.literal (readBack v))] :=
    ofText?_literal hne hnames hsign hv
  have hparameter : Filter.ofText? (boundQuery chain sign name w).text =
      .ok [.compare chain (sign == "<>") (.parameter (String.ofList ('@' :: name)))] :=
    ofText?_parameter hne hnames hsign hname
  have hresolve : (Operand.literal (readBack v)).resolve? (literalQuery chain sign cs) =
      .ok (readBack v) := rfl
  have hbound : (Operand.parameter (String.ofList ('@' :: name))).resolve?
      (boundQuery chain sign name w) = .ok w := resolve?_boundQuery w
  constructor
  · intro halike
    exact answerAlike_of_comparesEqual hliteral hparameter hresolve hbound halike
      (checkParameters_boundQuery w).symm
  · intro hself halike
    exact comparesEqual_of_answerAlike hliteral hparameter hresolve hbound halike hself

/-- A scalar may be written as a literal or bound to a parameter, its path being any names.  Both
queries are accepted, and unless the scalar is a double they answer alike.  The text of a double is
read as a double, and the literal answers as that one does; so the two queries answer alike exactly
if the double is the same number as the one that is read from its text. -/
theorem literal_alike_bound :
    ((∀ d, v ≠ .number (.double d)) →
      AnswerAlike (literalQuery chain sign cs) (boundQuery chain sign name v)) ∧
    ∀ d, v = .number (.double d) →
      ∃ r, Number.ofText? (Number.double d).text = some (.double r) ∧
        AnswerAlike (literalQuery chain sign cs) (boundQuery chain sign name (.number (.double r))) ∧
        (AnswerAlike (literalQuery chain sign cs) (boundQuery chain sign name v) ↔
          d.same r = true) := by
  have halike : ∀ w, (∀ actual, comparesEqual actual (readBack v) = comparesEqual actual w) →
      AnswerAlike (literalQuery chain sign cs) (boundQuery chain sign name w) :=
    fun _ => (answerAlike_literal hne hnames hsign hname hv).1
  constructor
  · intro hother
    apply halike
    intro actual
    rw [hv.readBack_eq hother]
  · rintro d rfl
    obtain ⟨r, hr, hback⟩ := hv.readBack_double
    rw [hback] at halike
    -- the literal answers as what is read back, which leaves that to be compared with the double
    refine ⟨r, hr, halike _ fun _ => rfl, ?_⟩
    constructor
    · intro hboth
      have hequal := (answerAlike_literal hne hnames hsign hname hv).2 (comparesEqual_self hv) hboth
      rw [hback] at hequal
      exact hequal
    · intro hsame
      apply halike
      intro actual
      exact (comparesEqual_congr (a := .double d) (b := .double r) hsame actual).symm

end Literals

theorem literal_alike_bound_quoted :
    (literalQuery ["name"] "<>" "'it''s'".toList).text =
      "SELECT * FROM c WHERE c.name <> 'it''s'" ∧
    AnswerAlike (literalQuery ["name"] "<>" "'it''s'".toList)
      (boundQuery ["name"] "<>" "x".toList (.string "it's")) := by
  have hnames : ∀ s ∈ ["name"], IsField s.toList :=
    List.forall_mem_singleton.mpr (isField_of_isPlainName (w := "name") (by decide))
  have hname : IsField "x".toList := isField_of_isPlainName (w := "x") (by decide)
  have hspelled : Spelled (.string "it's") "'it''s'".toList := by
    have hquoted : '\'' :: (quoteDoubled "it's".toList ++ ['\'']) = "'it''s'".toList := by decide
    rw [← hquoted]
    exact .string "it's"
  have hsign : "<>" ∈ compareSigns := by decide
  refine ⟨by decide +kernel, ?_⟩
  exact (literal_alike_bound (List.cons_ne_nil _ _) hnames hsign hname hspelled).1 (by simp)

/-- The double that is read from the text `7.074640616315e-15`. -/
def drifting : Double := ⟨false, 8968172423670720, -100⟩

/-- A double whose text reads as another double, and a number with a sign: as literals they do not
answer as bound to a parameter. -/
theorem literals_answer_otherwise :
    Number.ofText? "7.074640616315e-15" = some (.double drifting) ∧
    (Number.double drifting).text = "7.0746406163149996e-15" ∧
    ¬ AnswerAlike (.ofText "SELECT * FROM c WHERE c.n = 7.0746406163149996e-15")
      (boundQuery ["n"] "=" "x".toList (.number (.double drifting))) ∧
    ¬ AnswerAlike (.ofText "SELECT * FROM c WHERE c.n = -1")
      (boundQuery ["n"] "=" "x".toList (.number (.integer (-1)))) := by
  have hcount : ∀ {q q' : Prepared}, AnswerAlike q q' → ∀ documents,
      (selection? q documents).toOption.map List.length =
        (selection? q' documents).toOption.map List.length := by
    intro q q' halike documents
    obtain ⟨found, hfound, hfound'⟩ := halike.selects documents
    rw [hfound, hfound']
  refine ⟨by decide +kernel, by decide +kernel, ?_, ?_⟩
  · intro halike
    have hsame := hcount halike [.object [("n", .number (.double drifting))]]
    revert hsame
    decide +kernel
  · intro halike
    have hsame := hcount halike [.object [("n", .number (.integer (-1)))]]
    revert hsame
    decide +kernel

end DocAccess.Store
