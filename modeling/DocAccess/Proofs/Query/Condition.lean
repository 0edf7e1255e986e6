import DocAccess.Proofs.Checks
import DocAccess.Query.Filter

/-!
# Conditions

The conditions that a filter can stand for are a small language: comparisons and text tests, each
of a path of the source with an operand, joined by `AND` and grouped by parentheses.  `Writes` says
which expressions are written in it and what tree each of them is; it is stated without the readers
of filters, one rule for each form.

* `predicates?_eq_ok_iff` — a condition is accepted if and only if it is written in the language,
  and its predicates are the leaves of the tree from left to right.
* `ofStatements?_eq_ok_iff` — the same of a list of statements, which has to be one selection of
  everything from one container.
-/

namespace DocAccess.Query

open DocAccess.Document DocAccess.Store

/-- A condition on documents as a tree. -/
inductive Condition where
  | leaf (predicate : Predicate)
  | group (inner : Condition)
  | both (left right : Condition)

/-- The predicates of a condition from left to right. -/
def Condition.leaves : Condition → List Predicate
  | leaf predicate => [predicate]
  | group inner => inner.leaves
  | both left right => left.leaves ++ right.leaves

/-- The name of a text test. -/
def TextTest.name : TextTest → String
  | contains => "CONTAINS"
  | startsWith => "STARTSWITH"

/-! ### The language -/

/-- The expressions that are operands, and the operand that each of them is. -/
inductive WritesOperand : Expr → Operand → Prop
  /-- An unquoted word with an at sign in front. -/
  | parameter {name : String} (hname : name.toList.head? = some '@') :
      WritesOperand (.name ⟨name, none⟩) (.parameter name)
  /-- A word in double quotes is a text. -/
  | word (text : String) : WritesOperand (.name ⟨text, some '"'⟩) (.literal (.string text))
  | placeholder (name : String) : WritesOperand (.literal (.placeholder name)) (.parameter name)
  | string (text : String) : WritesOperand (.literal (.string text)) (.literal (.string text))
  | doubleQuoted (text : String) :
      WritesOperand (.literal (.doubleQuoted text)) (.literal (.string text))
  | number {text : String} {long : Bool} {n : Number} (hnumber : Number.ofText? text = some n) :
      WritesOperand (.literal (.number text long)) (.literal (.number n))
  | boolean (flag : Bool) : WritesOperand (.literal (.boolean flag)) (.literal (.bool flag))
  | null : WritesOperand (.literal .null) (.literal .null)

/-- The expressions that are paths from a source: dotted names of at least two parts, the first of
which is the name of the source. -/
inductive WritesPath (source : String) : Expr → List String → Prop
  | path {root : Ident} {fields : List Ident} (hroot : root.text = source) (hne : fields ≠ []) :
      WritesPath source (.path (root :: fields)) (fields.map (·.text))

/-- The expressions that are conditions on a source, and the tree of each of them. -/
inductive Writes (source : String) : Expr → Condition → Prop
  | equal {left right : Expr} {path : List String} {operand : Operand}
      (hpath : WritesPath source left path) (hoperand : WritesOperand right operand) :
      Writes source (.binary left "=" right) (.leaf (.compare path false operand))
  | differ {left right : Expr} {path : List String} {operand : Operand}
      (hpath : WritesPath source left path) (hoperand : WritesOperand right operand) :
      Writes source (.binary left "<>" right) (.leaf (.compare path true operand))
  /-- A call with two plain arguments.  What else the call is given makes no difference. -/
  | test {function : List Ident} {parameters quantifier clauses suffix : String}
      {target value : Expr} {test : TextTest} {path : List String} {operand : Operand}
      (hname : (displayName function).toList.map Char.toUpper = test.name.toList)
      (hpath : WritesPath source target path) (hoperand : WritesOperand value operand) :
      Writes source
        (.call function parameters (.list quantifier [.plain target, .plain value] clauses) suffix)
        (.leaf (.test test path operand))
  | nested {inner : Expr} {t : Condition} (hinner : Writes source inner t) :
      Writes source (.nested inner) (.group t)
  | both {left right : Expr} {t u : Condition} (hleft : Writes source left t)
      (hright : Writes source right u) : Writes source (.binary left "AND" right) (.both t u)

/-- The names that the paths of a condition start with: the alias of a container, or its own name
where it has none. -/
inductive Factor.IsCalled (f : Factor) : String → Prop
  | labelled {name : String} {label : SourceAlias} (hcontainer : f.container = some name)
      (hlabel : f.label = some label) : IsCalled f label.name.text
  | plain {name : String} (hcontainer : f.container = some name) (hlabel : f.label = none) :
      IsCalled f name

/-- What it means that statements are one selection of everything from one container without joins,
under a condition if there is one. -/
inductive IsSelection (source : String) (condition : Option Expr) : List Statement → Prop
  | select {options display : String} {f : Factor} (hcalled : f.IsCalled source) :
      IsSelection source condition
        [.query ⟨.select [.star options] [⟨f, []⟩] condition, display⟩]

/-- The predicates of a selection: none without a condition, or the leaves of its tree. -/
inductive States (source : String) : Option Expr → Filter → Prop
  | nothing : States source none []
  | condition {e : Expr} {t : Condition} (hwrites : Writes source e t) :
      States source (some e) t.leaves

/-! ### Operands and paths -/

theorem Literal.operand?_eq_ok_iff (l : Literal) (operand : Operand) :
    l.operand? = .ok operand ↔ WritesOperand (.literal l) operand := by
  constructor
  · intro h
    cases l with
    | number text long =>
        simp only [Literal.operand?] at h
        split at h
        · next n hnumber =>
            cases h
            exact .number hnumber
        · cases h
    | string text => cases h; exact .string text
    | doubleQuoted text => cases h; exact .doubleQuoted text
    | boolean flag => cases h; exact .boolean flag
    | null => cases h; exact .null
    | placeholder name => cases h; exact .placeholder name
    | other display => cases h
  · intro h
    cases h with
    | number hnumber => simp only [Literal.operand?, hnumber]
    | _ => rfl

theorem isParameterName_iff (name : String) :
    isParameterName name = true ↔ name.toList.head? = some '@' := by
  simp [isParameterName]

theorem Expr.operand?_eq_ok_iff (e : Expr) (operand : Operand) :
    e.operand? = .ok operand ↔ WritesOperand e operand := by
  cases e with
  | literal l => exact Literal.operand?_eq_ok_iff l operand
  | name ident =>
      obtain ⟨text, quote⟩ := ident
      cases quote with
      | none =>
          simp only [Expr.operand?, isParameterName_iff]
          constructor
          · intro h
            split at h
            · next hname =>
                cases h
                exact .parameter hname
            · cases h
          · rintro ⟨hname⟩
            rw [if_pos hname]
      | some quote =>
          simp only [Expr.operand?]
          constructor
          · intro h
            split at h
            · next hquote =>
                cases h
                exact hquote ▸ .word text
            · cases h
          · rintro ⟨⟩
            rfl
  -- no other form is an operand
  | _ => exact ⟨nofun, nofun⟩

theorem Expr.path?_eq_ok_iff (source : String) (e : Expr) (path : List String) :
    e.path? source = .ok path ↔ WritesPath source e path := by
  constructor
  · intro h
    unfold Expr.path? at h
    split at h
    · next root field fields =>
        split at h
        · next hroot =>
            cases h
            have hne : field :: fields ≠ [] := List.cons_ne_nil _ _
            exact .path hroot hne
        · cases h
    · cases h
  · rintro ⟨hroot, hne⟩
    obtain ⟨field, fields, rfl⟩ := List.exists_cons_of_ne_nil hne
    simp [Expr.path?, hroot]

/-! ### Calls -/

theorem textTest?_eq_some_iff (name : String) (test : TextTest) :
    textTest? name = some test ↔ name.toList.map Char.toUpper = test.name.toList := by
  have hne : TextTest.contains.name.toList ≠ TextTest.startsWith.name.toList := by decide
  show (if name.toList.map Char.toUpper = TextTest.contains.name.toList then some .contains
    else if name.toList.map Char.toUpper = TextTest.startsWith.name.toList then some .startsWith
    else none) = some test ↔ _
  generalize name.toList.map Char.toUpper = upper
  cases test with
  | contains =>
      by_cases hupper : upper = TextTest.contains.name.toList
      · rw [if_pos hupper]
        exact iff_of_true rfl hupper
      · rw [if_neg hupper]
        refine iff_of_false ?_ hupper
        split <;> nofun
  | startsWith =>
      by_cases hupper : upper = TextTest.startsWith.name.toList
      -- the names of the two tests differ
      · rw [if_neg (hupper.trans_ne hne.symm), if_pos hupper]
        exact iff_of_true rfl hupper
      · rw [if_neg hupper]
        refine iff_of_false ?_ hupper
        split <;> nofun

theorem plainArguments?_eq_ok_iff (items : List Argument) (es : List Expr) :
    plainArguments? items = .ok es ↔ items = es.map Argument.plain := by
  induction items generalizing es with
  | nil =>
      simp [plainArguments?]
  | cons item items ih =>
      cases item with
      | plain e =>
          simp only [plainArguments?, bind_eq_ok_iff, ih, pure, Except.pure, Except.ok.injEq]
          constructor
          · rintro ⟨rest, rfl, rfl⟩
            rfl
          · intro h
            cases es with
            | nil => cases h
            | cons first rest =>
                obtain ⟨hfirst, hrest⟩ := List.cons.inj h
                cases hfirst
                exact ⟨rest, hrest, rfl⟩
      | other display =>
          refine ⟨fun h => (by cases h), fun h => ?_⟩
          cases es with
          | nil => cases h
          | cons first rest => cases (List.cons.inj h).1

theorem Arguments.plain?_eq_ok_iff (arguments : Arguments) (es : List Expr) :
    arguments.plain? = .ok es ↔
      ∃ quantifier clauses, arguments = .list quantifier (es.map Argument.plain) clauses := by
  cases arguments with
  | list quantifier items clauses =>
      simp [Arguments.plain?, plainArguments?_eq_ok_iff]
  | _ => simp [Arguments.plain?]

theorem callPredicate?_eq_ok_iff (source : String) (function : List Ident) (arguments : Arguments)
    (p : Predicate) (parameters suffix : String) :
    callPredicate? source function arguments = .ok p ↔
      Writes source (.call function parameters arguments suffix) (.leaf p) := by
  constructor
  · intro h
    simp only [callPredicate?] at h
    split at h
    · cases h
    · next test htest =>
        obtain ⟨es, hplain, hrest⟩ := (bind_eq_ok_iff _ _ _).mp h
        obtain ⟨quantifier, clauses, rfl⟩ := (arguments.plain?_eq_ok_iff es).mp hplain
        split at hrest
        · next target value =>
            simp only [bind_eq_ok_iff, pure, Except.pure, Except.ok.injEq] at hrest
            obtain ⟨path, hpath, operand, hoperand, rfl⟩ := hrest
            exact .test ((textTest?_eq_some_iff _ test).mp htest)
              ((Expr.path?_eq_ok_iff _ _ _).mp hpath) ((Expr.operand?_eq_ok_iff _ _).mp hoperand)
        · cases hrest
  · intro h
    cases h with
    | @test _ _ quantifier clauses _ target value test path operand hname hpath hoperand =>
        have htest := (textTest?_eq_some_iff _ test).mpr hname
        have hplain : (Arguments.list quantifier [.plain target, .plain value] clauses).plain? =
            .ok [target, value] := (Arguments.plain?_eq_ok_iff _ _).mpr ⟨_, _, rfl⟩
        have hreach := (Expr.path?_eq_ok_iff source target path).mpr hpath
        have hvalue := (Expr.operand?_eq_ok_iff value operand).mpr hoperand
        simp only [callPredicate?, htest, hplain, hreach, hvalue, bind, Except.bind, pure,
          Except.pure]

/-! ### Conditions -/

theorem writes_and_iff (source : String) (left right : Expr) (t : Condition) :
    Writes source (.binary left "AND" right) t ↔
      ∃ u v, Writes source left u ∧ Writes source right v ∧ t = .both u v := by
  constructor
  · intro h
    generalize hoperator : "AND" = operator at h
    cases h with
    | equal => exact absurd hoperator (by decide)
    | differ => exact absurd hoperator (by decide)
    | both hleft hright => exact ⟨_, _, hleft, hright, rfl⟩
  · rintro ⟨u, v, hleft, hright, rfl⟩
    exact .both hleft hright

/-- What a comparison gives, whichever its sign. -/
theorem comparison_eq_ok_iff (source : String) (left right : Expr) (negated : Bool)
    (ps : List Predicate) :
    (do
      let path ← left.path? source
      let operand ← right.operand?
      return [Predicate.compare path negated operand]) = Except.ok (ε := QueryFault) ps ↔
      ∃ t, Writes source (.binary left (if negated then "<>" else "=") right) t ∧
        ps = t.leaves := by
  simp only [bind_eq_ok_iff, Expr.path?_eq_ok_iff, Expr.operand?_eq_ok_iff, pure, Except.pure,
    Except.ok.injEq]
  constructor
  · rintro ⟨path, hpath, operand, hoperand, rfl⟩
    refine ⟨.leaf (.compare path negated operand), ?_, rfl⟩
    cases negated with
    | false => exact .equal hpath hoperand
    | true => exact .differ hpath hoperand
  · rintro ⟨t, hwrites, rfl⟩
    -- the sign in the text tells which of the forms it is
    generalize hoperator : (if negated then "<>" else "=") = operator at hwrites
    cases hwrites with
    | equal hpath hoperand =>
        cases negated with
        | false => exact ⟨_, hpath, _, hoperand, rfl⟩
        | true => exact absurd hoperator (by decide)
    | differ hpath hoperand =>
        cases negated with
        | false => exact absurd hoperator (by decide)
        | true => exact ⟨_, hpath, _, hoperand, rfl⟩
    | both => cases negated <;> exact absurd hoperator (by decide)

/-- A condition is accepted if and only if it is written in the language of conditions, and its
predicates are the leaves of its tree. -/
theorem predicates?_eq_ok_iff (source : String) (e : Expr) (ps : List Predicate) :
    e.predicates? source = .ok ps ↔ ∃ t, Writes source e t ∧ ps = t.leaves := by
  fun_induction Expr.predicates? source e generalizing ps with
  | case1 inner ih =>
      rw [ih]
      constructor
      · rintro ⟨t, hinner, rfl⟩
        exact ⟨.group t, .nested hinner, rfl⟩
      · rintro ⟨t, hwrites, rfl⟩
        cases hwrites with
        | nested hinner => exact ⟨_, hinner, rfl⟩
  | case2 left right ihleft ihright =>
      simp only [bind_eq_ok_iff, ihleft, ihright, pure, Except.pure, Except.ok.injEq]
      constructor
      · rintro ⟨_, ⟨u, hleft, rfl⟩, _, ⟨v, hright, rfl⟩, rfl⟩
        exact ⟨.both u v, .both hleft hright, rfl⟩
      · rintro ⟨t, hwrites, rfl⟩
        obtain ⟨u, v, hleft, hright, rfl⟩ := (writes_and_iff source left right t).mp hwrites
        exact ⟨_, ⟨u, hleft, rfl⟩, _, ⟨v, hright, rfl⟩, rfl⟩
  | case3 left right => exact comparison_eq_ok_iff source left right false ps
  | case4 left right => exact comparison_eq_ok_iff source left right true ps
  -- an operator of no form of the language
  | case5 left operator right hand _ hequal hdiffer =>
      refine iff_of_false nofun ?_
      rintro ⟨t, hwrites, -⟩
      cases hwrites with
      | equal => exact hequal rfl
      | differ => exact hdiffer rfl
      | both => exact hand rfl
  | case6 function parameters arguments suffix =>
      simp only [bind_eq_ok_iff, callPredicate?_eq_ok_iff source function arguments _ parameters suffix,
        pure, Except.pure, Except.ok.injEq]
      constructor
      · rintro ⟨p, hcall, rfl⟩
        exact ⟨.leaf p, hcall, rfl⟩
      · rintro ⟨t, hcall, rfl⟩
        cases hcall with
        | test hname hpath hoperand => exact ⟨_, .test hname hpath hoperand, rfl⟩
  -- an expression that is no condition at all
  | case7 e hnested hbinary hcall =>
      refine iff_of_false nofun ?_
      rintro ⟨t, hwrites, -⟩
      cases hwrites with
      | equal => exact hbinary _ _ _ rfl
      | differ => exact hbinary _ _ _ rfl
      | test => exact hcall _ _ _ _ rfl
      | nested => exact hnested _ rfl
      | both => exact hbinary _ _ _ rfl

/-! ### Statements -/

theorem sourceName?_eq_ok_iff (sources : List Joined) (source : String) :
    sourceName? sources = .ok source ↔ ∃ f : Factor, sources = [⟨f, []⟩] ∧ f.IsCalled source := by
  constructor
  · intro h
    unfold sourceName? at h
    split at h
    · next name joined front label back =>
        cases h
        refine ⟨⟨some name, joined, front, label, back⟩, rfl, ?_⟩
        cases label with
        | none => exact .plain rfl rfl
        | some label => exact .labelled rfl rfl
    · cases h
  · rintro ⟨⟨container, joined, front, label, back⟩, rfl, hcalled⟩
    cases hcalled with
    | labelled hcontainer hlabel =>
        cases hcontainer
        cases hlabel
        rfl
    | plain hcontainer hlabel =>
        cases hcontainer
        cases hlabel
        rfl

/-- A selection whose condition is written in the language has the leaves of it as its filter. -/
theorem ofStatements?_of_isSelection {source : String} {condition : Option Expr}
    {statements : List Statement} {filter : Filter}
    (hselection : IsSelection source condition statements) (hstates : States source condition filter) :
    Filter.ofStatements? statements = .ok filter := by
  obtain ⟨hcalled⟩ := hselection
  have hsource := (sourceName?_eq_ok_iff _ source).mpr ⟨_, rfl, hcalled⟩
  cases hstates with
  | nothing =>
      simp only [Filter.ofStatements?, hsource]
      rfl
  | @condition e t hwrites =>
      simp only [Filter.ofStatements?, hsource]
      exact (predicates?_eq_ok_iff source e _).mpr ⟨t, hwrites, rfl⟩

/-- Only such a selection has a filter. -/
theorem isSelection_of_ofStatements? {statements : List Statement} {filter : Filter}
    (h : Filter.ofStatements? statements = .ok filter) :
    ∃ source condition, IsSelection source condition statements ∧
      States source condition filter := by
  unfold Filter.ofStatements? at h
  split at h
  · next form =>
      obtain ⟨body, display⟩ := form
      split at h
      · next options sources condition hbody =>
          cases hbody
          obtain ⟨source, hsource, hrest⟩ := (bind_eq_ok_iff _ _ _).mp h
          obtain ⟨f, rfl, hcalled⟩ := (sourceName?_eq_ok_iff sources source).mp hsource
          refine ⟨source, condition, .select hcalled, ?_⟩
          cases condition with
          | none =>
              cases hrest
              exact .nothing
          | some e =>
              obtain ⟨t, hwrites, rfl⟩ := (predicates?_eq_ok_iff source e filter).mp hrest
              exact .condition hwrites
      · cases h
      · cases h
  · cases h

/-- A list of statements has a filter if and only if it is one selection of everything from one
container without joins, whose condition, if there is one, is written in the language of conditions
on that container; the filter holds exactly the leaves of the condition from left to right. -/
theorem ofStatements?_eq_ok_iff (statements : List Statement) (filter : Filter) :
    Filter.ofStatements? statements = .ok filter ↔
      ∃ source condition, IsSelection source condition statements ∧
        States source condition filter := by
  constructor
  · exact isSelection_of_ofStatements?
  · rintro ⟨source, condition, hselection, hstates⟩
    exact ofStatements?_of_isSelection hselection hstates

/-- What it means that the text of a query is one selection under a condition. -/
def Prepared.Selects (q : Prepared) (source : String) (e : Expr) : Prop :=
  ∃ tokens statements, tokens? q.text = some tokens ∧ statements? tokens = some statements ∧
    IsSelection source (some e) statements

/-- The filter of a query is read off the tree of its condition. -/
theorem Prepared.Selects.ofText?_eq {q : Prepared} {source : String} {e : Expr} {t : Condition}
    (h : q.Selects source e) (hwrites : Writes source e t) :
    Filter.ofText? q.text = .ok t.leaves := by
  obtain ⟨tokens, statements, htokens, hstatements, hselection⟩ := h
  simp only [Filter.ofText?, htokens, hstatements]
  exact ofStatements?_of_isSelection hselection (.condition hwrites)

/-- Every query with a predicate is such a selection. -/
theorem Prepared.exists_selects {q : Prepared} {p : Predicate} {rest : Filter}
    (h : Filter.ofText? q.text = .ok (p :: rest)) :
    ∃ source e t, q.Selects source e ∧ Writes source e t ∧ t.leaves = p :: rest := by
  unfold Filter.ofText? at h
  split at h
  · cases h
  · next tokens htokens =>
      split at h
      · cases h
      · next statements hstatements =>
          obtain ⟨source, condition, hselection, hstates⟩ := isSelection_of_ofStatements? h
          -- a selection without a condition has no predicate
          generalize hfilter : p :: rest = filter at hstates
          cases hstates with
          | nothing => cases hfilter
          | @condition e t hwrites =>
              exact ⟨source, e, t, ⟨tokens, statements, htokens, hstatements, hselection⟩, hwrites,
                rfl⟩

end DocAccess.Query
