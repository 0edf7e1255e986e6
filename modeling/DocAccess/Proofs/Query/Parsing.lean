import DocAccess.Proofs.Query.Lexing
import DocAccess.Query.Filter

/-!
# Parsing comparisons

How the grammar reads a selection with one condition that compares a dotted name with a parameter or
a literal.  The first word of the name and the parameter are no keywords, so that neither can be
taken for anything but a name; the words behind a dot are read as they are, keywords or not.
-/

namespace DocAccess.Query

namespace Reading

/-! ### Readers on given tokens -/

/-- What a reader takes from given tokens and what it leaves. -/
abbrev Reads {α : Type} (p : Reading α) (ts : List Token) (a : α) (rest : List Token) : Prop :=
  p ts = some (a, rest)

/-- Behind a reader that takes something, the rest of a sequence decides. -/
theorem bind_apply {α β : Type} {p : Reading α} {f : α → Reading β} {ts middle : List Token} {a : α}
    (hp : Reads p ts a middle) : (p >>= f) ts = f a middle := by
  rw [show (p >>= f) ts = (p ts).bind fun (a, ts) => f a ts from rfl, hp]
  rfl

theorem Reads.bind {α β : Type} {p : Reading α} {f : α → Reading β} {ts middle rest : List Token}
    {a : α} {b : β} (hp : Reads p ts a middle) (hf : Reads (f a) middle b rest) :
    Reads (p >>= f) ts b rest :=
  (bind_apply hp).trans hf

/-! ### Dotted names -/

/-- The identifiers of names without quotation marks. -/
def plainIdents (chain : List String) : List Ident := chain.map fun s => ⟨s, none⟩

theorem dottedTokens_cons (s : String) (chain : List String) (rest : List Token) :
    dottedTokens (s :: chain) ++ rest =
      .mark "." :: .word ⟨s, none⟩ (String.ofList (Text.upper s.toList)) ::
        (dottedTokens chain ++ rest) := by
  simp [dottedTokens, Token.ofWord]

theorem length_dottedTokens (chain : List String) :
    (dottedTokens chain).length = 2 * chain.length := by
  induction chain with
  | nil => rfl
  | cons s chain ih =>
      have hcons := congrArg List.length (dottedTokens_cons s chain [])
      simp only [List.append_nil, List.length_cons, ih] at hcons
      rw [List.length_cons, hcons]
      omega

theorem reads_mark?_of_ne {m : String} {ts : List Token} (h : ts.head? ≠ some (.mark m)) :
    Reads (mark? m) ts false ts := by
  cases ts with
  | nil => rfl
  | cons t ts =>
      have hne : (t == .mark m) = false := by simpa using h
      simp [Reads, mark?, hne]

section Names

variable {rest : List Token} (hrest : rest.head? ≠ some (.mark "."))

include hrest

theorem reads_namePartsFrom {fuel : Nat} {i : Ident} {k : String} {chain : List String}
    (hfuel : chain.length < fuel) :
    Reads (namePartsFrom fuel) (.word i k :: (dottedTokens chain ++ rest))
      (i :: plainIdents chain) rest := by
  induction chain generalizing fuel i k with
  | nil =>
      obtain ⟨fuel, rfl⟩ : ∃ n, fuel = n + 1 := ⟨fuel - 1, by omega⟩
      have hpoint := reads_mark?_of_ne hrest
      exact Reads.bind (a := i) rfl (Reads.bind hpoint rfl)
  | cons s chain ih =>
      obtain ⟨fuel, rfl⟩ : ∃ n, fuel = n + 1 := ⟨fuel - 1, by omega⟩
      have htail := ih (i := ⟨s, none⟩) (k := String.ofList (Text.upper s.toList))
        (Nat.lt_of_succ_lt_succ hfuel)
      rw [dottedTokens_cons]
      exact Reads.bind (a := i) rfl (Reads.bind (a := true) rfl (Reads.bind htail rfl))

theorem reads_pathParts {fuel : Nat} {parts : List Ident} {chain : List String}
    (hfuel : chain.length < fuel) :
    Reads (pathParts fuel parts) (dottedTokens chain ++ rest) (parts ++ plainIdents chain)
      rest := by
  induction chain generalizing fuel parts with
  | nil =>
      obtain ⟨fuel, rfl⟩ : ∃ n, fuel = n + 1 := ⟨fuel - 1, by omega⟩
      rw [plainIdents, List.map_nil, List.append_nil]
      exact Reads.bind (reads_mark?_of_ne hrest) rfl
  | cons s chain ih =>
      obtain ⟨fuel, rfl⟩ : ∃ n, fuel = n + 1 := ⟨fuel - 1, by omega⟩
      have htail : Reads (pathParts fuel (parts ++ [⟨s, none⟩])) (dottedTokens chain ++ rest) _
          rest := ih (Nat.lt_of_succ_lt_succ hfuel)
      rw [List.append_assoc] at htail
      rw [dottedTokens_cons]
      exact Reads.bind (a := true) rfl (Reads.bind (a := Token.word ⟨s, none⟩ _) rfl htail)

theorem reads_nameText {i : Ident} {k : String} {chain : List String} :
    Reads nameText (.word i k :: (dottedTokens chain ++ rest))
      (displayName (i :: plainIdents chain)) rest := by
  have hfuel : chain.length < (Token.word i k :: (dottedTokens chain ++ rest)).length + 1 := by
    rw [List.length_cons, List.length_append, length_dottedTokens]
    omega
  have hname : Reads name (.word i k :: (dottedTokens chain ++ rest)) (i :: plainIdents chain)
      rest := Reads.bind (a := _) rfl (reads_namePartsFrom hrest hfuel)
  exact Reads.bind hname rfl

end Names

/-! ### Words that are no keywords -/

/-- Keywords that the readers of operands look for one by one. -/
def operandWords : List String :=
  ["PRIOR", "TRUE", "FALSE", "NULL", "CASE", "CONVERT", "CAST", "TRY_CAST",
   "SAFE_CAST", "EXISTS", "EXTRACT", "CEIL", "FLOOR", "POSITION", "SUBSTRING", "OVERLAY", "TRIM",
   "INTERVAL", "ARRAY", "NOT", "MATCH", "STRUCT", "MAP"]

/-- Keywords of functions that need no parentheses, and those that quantify a comparison. -/
def functionWords : List String := userFunctions ++ (timeFunctions ++ ["ANY", "ALL"])

/-- Keywords of types that are looked for one by one. -/
def singleTypes : List String :=
  ["INTERVAL", "ARRAY", "STRUCT", "MAP", "DOUBLE", "VARCHAR", "NVARCHAR", "CHAR", "CHARACTER",
   "TIMESTAMP", "TIME", "TIMESTAMPTZ", "TIMETZ", "DATETIME64", "FIXEDSTRING", "ENUM", "SET",
   "NULLABLE", "LOWCARDINALITY"]

/-- Keywords of types that are looked up in lists. -/
def typeWords : List String :=
  simpleTypes.map Prod.fst ++
    (sizedTypes ++ (integerTypes ++ (exactTypes ++ ["NESTED", "TUPLE", "UNION"])))

/-- A keyword text that no reader of a type looks for. -/
structure IsNoType (k : String) : Prop where
  single : ∀ w ∈ singleTypes, (k == w) = false
  types : ∀ w ∈ typeWords, w ≠ k

/-- A keyword text that no reader of an operand looks for. -/
structure IsFree (k : String) : Prop extends IsNoType k where
  words : ∀ w ∈ operandWords, (k == w) = false
  functions : ∀ w ∈ functionWords, w ≠ k

/-- The name of the source. -/
theorem isFree_source : IsFree "C" := by
  refine ⟨⟨?_, ?_⟩, ?_, ?_⟩ <;> decide +kernel

/-- The names of parameters: no keyword starts with an at sign. -/
theorem isFree_at (cs : List Char) : IsFree (String.ofList ('@' :: cs)) := by
  have hne : ∀ {w : String}, w.toList.head? ≠ some '@' → w ≠ String.ofList ('@' :: cs) := by
    rintro w hw rfl
    simp at hw
  have hsingle : ∀ w ∈ singleTypes, w.toList.head? ≠ some '@' := by decide +kernel
  have htypes : ∀ w ∈ typeWords, w.toList.head? ≠ some '@' := by decide +kernel
  have hwords : ∀ w ∈ operandWords, w.toList.head? ≠ some '@' := by decide +kernel
  have hfunctions : ∀ w ∈ functionWords, w.toList.head? ≠ some '@' := by decide +kernel
  refine ⟨⟨?_, ?_⟩, ?_, ?_⟩
  · exact fun w hw => beq_eq_false_iff_ne.mpr (hne (hsingle w hw)).symm
  · exact fun w hw => hne (htypes w hw)
  · exact fun w hw => beq_eq_false_iff_ne.mpr (hne (hwords w hw)).symm
  · exact fun w hw => hne (hfunctions w hw)

theorem contains_eq_false {k : String} {ws : List String} (h : ∀ w ∈ ws, w ≠ k) :
    ws.contains k = false := by
  rw [List.contains_eq_mem, decide_eq_false_iff_not]
  exact fun hmem => h k hmem rfl

/-- Such a word is a name, as an operand. -/
theorem wordExpr_of_isFree {k : String} (hk : IsFree k) {r : Rules} {operand : Reading Expr}
    {i : Ident} :
    wordExpr r operand i k = nameExpr r i := by
  obtain ⟨-, hwords, hfunctions⟩ := hk
  simp only [functionWords, List.forall_mem_append] at hfunctions
  have huser := contains_eq_false hfunctions.1
  have htime := contains_eq_false hfunctions.2.1
  simp only [operandWords, List.forall_mem_cons] at hwords
  simp only [wordExpr, hwords, huser, htime, Bool.and_false, Bool.false_and, Bool.or_false,
    Bool.false_eq_true, if_false]
  rfl

/-- A word that names no known type is the name of a type that is not known. -/
theorem reads_dataTypeFrom {k : String} (hk : IsNoType k) {fuel : Nat} {i : Ident} {text : String}
    {ts rest : List Token}
    (htext : Reads nameText (.word i k :: ts) text rest)
    (hmodifiers : Reads modifiersText rest "" rest)
    (hsuffix : ∀ size, Reads (arraySuffix text size) rest text rest) :
    Reads (dataTypeFrom (fuel + 1)) (.word i k :: ts) (.named text, false) rest := by
  obtain ⟨hwords, htypes⟩ := hk
  simp only [typeWords, List.forall_mem_append] at htypes
  obtain ⟨hsimple, hsized, hinteger, hexact, hfailing⟩ := htypes
  have hfind : simpleTypes.find? (fun t => t.1 == k) = none := by
    rw [List.find?_eq_none]
    intro t ht
    simpa using hsimple t.1 (List.mem_map_of_mem ht)
  simp only [singleTypes, List.forall_mem_cons] at hwords
  have hkeyword : Reads (peekKeyword 0) (.word i k :: ts) k (.word i k :: ts) := rfl
  have hsize : Reads remaining (.word i k :: ts) (ts.length + 1) (.word i k :: ts) := rfl
  have hword : Reads peek (.word i k :: ts) (some (.word i k)) (.word i k :: ts) := rfl
  have hfull := hsuffix (ts.length + 1 + 1)
  rw [Reads, dataTypeFrom]
  -- none of the known types, so that the name itself is read
  simp only [bind_apply hkeyword, bind_apply hsize, hwords, hfind, contains_eq_false hsized,
    contains_eq_false hinteger, contains_eq_false hexact, contains_eq_false hfailing,
    bind_apply hword, bind_apply htext, bind_apply hmodifiers, String.append_empty,
    bind_apply hfull, beq_self_eq_true, Bool.or_false, Bool.false_eq_true, if_false, if_true]
  rfl

/-! ### Names as operands -/

/-- Whether an operand ends with the name in front: nothing follows, or a sign of comparison. -/
inductive EndsOperand : List Token → Prop
  | nothing : EndsOperand []
  | equal (ts : List Token) : EndsOperand (.mark "=" :: ts)
  | differ (ts : List Token) : EndsOperand (.mark "<>" :: ts)

theorem EndsOperand.sign {sign : String} (hsign : sign ∈ compareSigns) (ts : List Token) :
    EndsOperand (.mark sign :: ts) := by
  simp only [compareSigns, List.mem_cons, List.not_mem_nil, or_false] at hsign
  rcases hsign with rfl | rfl
  · exact .equal ts
  · exact .differ ts

/-- The expression of a name with further parts behind dots. -/
def nameOf (i : Ident) (chain : List String) : Expr :=
  if chain.isEmpty then .name i else .path (i :: plainIdents chain)

section Operand

variable {rest : List Token} (hrest : EndsOperand rest)

include hrest

theorem EndsOperand.head?_ne {m : String} (hm : m ∉ compareSigns) :
    rest.head? ≠ some (.mark m) := by
  simp only [compareSigns, List.mem_cons, List.not_mem_nil, or_false, not_or] at hm
  cases hrest with
  | nothing => simp
  | equal ts => simpa [eq_comm] using hm.1
  | differ ts => simpa [eq_comm] using hm.2

/-- A name in front of no string is not the type of one. -/
theorem typedString_eq_none {r : Rules} {operand : Reading Expr} {i : Ident} {k : String}
    {chain : List String} (hk : IsNoType k) :
    typedString r operand (.word i k :: (dottedTokens chain ++ rest)) = none := by
  have htext : Reads nameText (.word i k :: (dottedTokens chain ++ rest))
      (displayName (i :: plainIdents chain)) rest :=
    reads_nameText (hrest.head?_ne (by decide))
  have hmodifiers : Reads modifiersText rest "" rest :=
    Reads.bind (reads_mark?_of_ne (hrest.head?_ne (by decide))) rfl
  have hsuffix : ∀ size, Reads (arraySuffix (displayName (i :: plainIdents chain)) size) rest
      (displayName (i :: plainIdents chain)) rest := by
    rintro (_ | size)
    · rfl
    · exact Reads.bind (reads_mark?_of_ne (hrest.head?_ne (by decide))) rfl
  have hdata : Reads dataType (.word i k :: (dottedTokens chain ++ rest))
      (.named (displayName (i :: plainIdents chain))) rest :=
    Reads.bind (a := _) rfl (Reads.bind (reads_dataTypeFrom hk htext hmodifiers hsuffix) rfl)
  rw [typedString, bind_apply hdata]
  rfl

theorem reads_nameExpr {r : Rules} {i : Ident} {chain : List String} :
    Reads (nameExpr r i) (dottedTokens chain ++ rest) (nameOf i chain) rest := by
  cases chain with
  | nil =>
      cases hrest <;> rfl
  | cons s chain =>
      have hfuel : (s :: chain).length < (dottedTokens (s :: chain) ++ rest).length + 1 := by
        rw [List.length_append, length_dottedTokens]
        omega
      have hparts : Reads (pathParts _ [i]) (dottedTokens (s :: chain) ++ rest)
          ([i] ++ plainIdents (s :: chain)) rest :=
        reads_pathParts (hrest.head?_ne (by decide)) hfuel
      have hcall : (rest.head? == some (.mark "(")) = false :=
        beq_eq_false_iff_ne.mpr (hrest.head?_ne (by decide))
      have hpoint : Reads peek (dottedTokens (s :: chain) ++ rest) (some (.mark "."))
          (dottedTokens (s :: chain) ++ rest) := rfl
      have hsize : Reads remaining (dottedTokens (s :: chain) ++ rest)
          (dottedTokens (s :: chain) ++ rest).length (dottedTokens (s :: chain) ++ rest) := rfl
      have hpeek : Reads peek rest rest.head? rest := rfl
      rw [Reads, nameExpr, bind_apply hpoint]
      simp only [bind_apply hsize, bind_apply hparts, bind_apply hpeek, hcall, Bool.false_eq_true,
        if_false]
      rfl

theorem reads_operandFrom {r : Rules} {fuel : Nat} {i : Ident} {k : String} {chain : List String}
    (hk : IsFree k) :
    Reads (operandFrom r (fuel + 1)) (.word i k :: (dottedTokens chain ++ rest)) (nameOf i chain)
      rest := by
  have htyped : Reads (attempt (typedString r (operandFrom r fuel)))
      (.word i k :: (dottedTokens chain ++ rest)) none
      (.word i k :: (dottedTokens chain ++ rest)) := by
    rw [Reads, attempt, typedString_eq_none hrest hk.toIsNoType]
  have hplain : Reads (plainOperand r (operandFrom r fuel))
      (.word i k :: (dottedTokens chain ++ rest)) (nameOf i chain) rest := by
    refine Reads.bind (a := some (.word i k)) rfl (Reads.bind (a := .word i k) rfl ?_)
    rw [wordExpr_of_isFree hk]
    exact reads_nameExpr hrest
  have hcollate : Reads (keyword? "COLLATE") rest false rest := by
    cases hrest <;> rfl
  exact Reads.bind htyped (Reads.bind hplain (Reads.bind hcollate rfl))

end Operand

/-! ### Comparisons -/

/-- What one token says at the end of a comparison. -/
structure ReadsOperand (t : Token) (e : Expr) : Prop where
  operand : ∀ (r : Rules) (fuel : Nat), Reads (operandFrom r (fuel + 1)) [t] e []
  /-- The token does not quantify the comparison. -/
  quantifier : Reads (oneOf? ["ANY", "ALL"]) [t] none [t]

/-- A name that is no keyword. -/
theorem readsOperand_name {i : Ident} {k : String} (hk : IsFree k) :
    ReadsOperand (.word i k) (.name i) where
  operand r fuel := by
    have hname : Reads (operandFrom r (fuel + 1)) (.word i k :: (dottedTokens [] ++ []))
        (nameOf i []) [] := reads_operandFrom .nothing hk
    exact hname
  quantifier := by
    have hfunctions := hk.functions
    simp only [functionWords, List.forall_mem_append] at hfunctions
    have hcontains : ["ANY", "ALL"].contains k = false := contains_eq_false hfunctions.2.2
    rw [Reads, oneOf?]
    simp only [keywordOf, hcontains]
    rfl

theorem readsOperand_number (text : String) (long : Bool) :
    ReadsOperand (.number text long) (.literal (.number text long)) where
  operand _ _ := rfl
  quantifier := rfl

theorem readsOperand_string (text : String) :
    ReadsOperand (.string .single text) (.literal (.string text)) where
  operand _ _ := rfl
  quantifier := rfl

/-- The words of the literals that are not spelled with digits or quotation marks. -/
def literalWords : List (String × Literal) :=
  [("TRUE", .boolean true), ("FALSE", .boolean false), ("NULL", .null)]

theorem readsOperand_word {k : String} {l : Literal} (hk : (k, l) ∈ literalWords) (i : Ident) :
    ReadsOperand (.word i k) (.literal l) where
  operand r fuel := by
    have hnone : IsNoType k := by
      simp only [literalWords, List.mem_cons, Prod.mk.injEq, List.not_mem_nil, or_false] at hk
      rcases hk with ⟨rfl, -⟩ | ⟨rfl, -⟩ | ⟨rfl, -⟩ <;> constructor <;> decide +kernel
    have htyped : typedString r (operandFrom r fuel) (.word i k :: (dottedTokens [] ++ [])) =
        none := typedString_eq_none .nothing hnone
    have hattempt : Reads (attempt (typedString r (operandFrom r fuel))) [.word i k] none
        [.word i k] := by
      rw [dottedTokens, List.flatMap_nil, List.append_nil] at htyped
      rw [Reads, attempt, htyped]
    have hplain : Reads (plainOperand r (operandFrom r fuel)) [.word i k] (.literal l) [] := by
      refine Reads.bind (a := some (.word i k)) rfl (Reads.bind (a := .word i k) rfl ?_)
      simp only [literalWords, List.mem_cons, Prod.mk.injEq, List.not_mem_nil, or_false] at hk
      rcases hk with ⟨rfl, rfl⟩ | ⟨rfl, rfl⟩ | ⟨rfl, rfl⟩ <;> simp [wordExpr] <;> rfl
    exact Reads.bind hattempt (Reads.bind hplain (Reads.bind (a := false) rfl rfl))
  quantifier := by
    simp only [literalWords, List.mem_cons, Prod.mk.injEq, List.not_mem_nil, or_false] at hk
    rcases hk with ⟨rfl, -⟩ | ⟨rfl, -⟩ | ⟨rfl, -⟩ <;> rfl

/-- An operand with nothing behind it is an expression, however tight its operators have to bind. -/
theorem ReadsOperand.reads_expr {t : Token} {e : Expr} (h : ReadsOperand t e) {r : Rules}
    {floor : Nat} : Reads (expr r floor) [t] e [] := by
  refine Reads.bind (a := 1) rfl (Reads.bind (h.operand r 1) ?_)
  exact Reads.bind (a := 0) rfl (Reads.bind (a := "") rfl (by simp; rfl))

/-- A path compared with an operand. -/
theorem reads_expr_compare {r r' : Rules} {i : Ident} {k sign : String} {chain : List String}
    {t : Token} {e : Expr} (hr : r.expr = expr r') (hk : IsFree k) (hsign : sign ∈ compareSigns)
    (ht : ReadsOperand t e) :
    Reads (expr r 0) (.word i k :: (dottedTokens chain ++ [.mark sign, t]))
      (.binary (nameOf i chain) sign e) [] := by
  have hleft : ∀ fuel, Reads (operandFrom r (fuel + 1))
      (.word i k :: (dottedTokens chain ++ [.mark sign, t])) (nameOf i chain)
      [.mark sign, t] := fun fuel => reads_operandFrom (.sign hsign _) hk
  have hright : Reads (rightSide r (nameOf i chain) sign 20) [t]
      (.binary (nameOf i chain) sign e) [] := by
    refine Reads.bind ht.quantifier ?_
    rw [hr]
    exact Reads.bind ht.reads_expr rfl
  have hinfix : Reads (infixExpr r (nameOf i chain) 20) [.mark sign, t]
      (.binary (nameOf i chain) sign e) [] := by
    refine Reads.bind (a := "") rfl (Reads.bind (a := Token.mark sign) rfl ?_)
    simp only [compareSigns, List.mem_cons, List.not_mem_nil, or_false] at hsign
    rcases hsign with rfl | rfl <;> exact hright
  -- behind the operand there is no further operator
  have hlast : ∀ fuel e, Reads (operators r 0 [] fuel e) [] e [] := by
    rintro (_ | fuel) e
    · rfl
    · exact Reads.bind (a := 0) rfl (Reads.bind (a := "") rfl rfl)
  have hprecedence : Reads nextPrecedence [.mark sign, t] 20 [.mark sign, t] := by
    simp only [compareSigns, List.mem_cons, List.not_mem_nil, or_false] at hsign
    rcases hsign with rfl | rfl <;> rfl
  have hoperators : ∀ fuel, Reads (operators r 0 [] (fuel + 1) (nameOf i chain))
      [.mark sign, t] (.binary (nameOf i chain) sign e) [] := fun fuel =>
    Reads.bind hprecedence (Reads.bind (a := "") rfl (Reads.bind hinfix (hlast fuel _)))
  exact Reads.bind (a := _) rfl (Reads.bind (hleft _) (hoperators _))

/-! ### The selection of everything under a condition -/

/-- The source `c`, with neither alias nor joins. -/
def sourceC : Joined := ⟨⟨some "c", false, "c", none, ""⟩, []⟩

section Selection

variable {r : Rules} {e : Expr} {ts : List Token}

theorem reads_selection (he : Reads r.anyExpr ts e []) :
    ∃ display, Reads (selection r) (selectWhere ts).tail
      (.select [.star ""] [sourceC] (some e), display) [] := by
  -- one fact for each part of a selection; all but the items, the source and the condition are
  -- absent
  have hdistinct : Reads (distinctText r) (selectWhere ts).tail "" (selectWhere ts).tail := rfl
  have htop : Reads (topText r) (selectWhere ts).tail "" (selectWhere ts).tail := rfl
  have hitems : Reads (commaList (selectItem r)) (selectWhere ts).tail [.star ""]
    ((selectWhere ts).drop 2) := rfl
  have hinto : Reads intoText ((selectWhere ts).drop 2) "" ((selectWhere ts).drop 2) := rfl
  have hfrom : Reads (keyword? "FROM") ((selectWhere ts).drop 2) true ((selectWhere ts).drop 3) :=
    rfl
  have hsources : Reads (commaList (joinedSource r)) ((selectWhere ts).drop 3)
    [sourceC] ((selectWhere ts).drop 4) := rfl
  have hsize : Reads remaining ((selectWhere ts).drop 4) (ts.length + 1)
    ((selectWhere ts).drop 4) := rfl
  have hviews : Reads (whileSome (lateralView? r) (ts.length + 1)) ((selectWhere ts).drop 4) []
    ((selectWhere ts).drop 4) := rfl
  have hprewhere : Reads (exprClause r "PREWHERE") ((selectWhere ts).drop 4) ""
    ((selectWhere ts).drop 4) := rfl
  have hwhere : Reads (keyword? "WHERE") ((selectWhere ts).drop 4) true ts := rfl
  show ∃ display, selection r (selectWhere ts).tail = some (_, [])
  rw [selection]
  simp only [bind_apply hdistinct, bind_apply htop, bind_apply hitems, bind_apply hinto,
    bind_apply hfrom, if_true, bind_apply hsources, bind_apply hsize, bind_apply hviews,
    bind_apply hprewhere, bind_apply hwhere, bind_apply he]
  exact ⟨_, rfl⟩

theorem reads_query (he : Reads r.anyExpr ts e []) :
    ∃ display, Reads (query r) (selectWhere ts)
      ⟨.select [.star ""] [sourceC] (some e), display⟩ [] := by
  obtain ⟨shown, hselection⟩ := reads_selection he
  have hselect : Reads (keyword? "SELECT") (selectWhere ts) true (selectWhere ts).tail := rfl
  have hbody : Reads (bodyFrom r 0 ((selectWhere ts).length + 1)) (selectWhere ts)
      (.select [.star ""] [sourceC] (some e), shown) [] := by
    rw [Reads, bodyFrom, bind_apply hselect]
    exact Reads.bind hselection rfl
  have hselecting : ∃ display, selecting r "" (selectWhere ts) =
      some (⟨.select [.star ""] [sourceC] (some e), display⟩, []) := by
    have hsize : Reads remaining (selectWhere ts) (selectWhere ts).length (selectWhere ts) := rfl
    rw [selecting, bind_apply hsize, bind_apply hbody]
    exact ⟨_, rfl⟩
  obtain ⟨display, hselecting⟩ := hselecting
  have hnamed : Reads (withClause r) (selectWhere ts) "" (selectWhere ts) := rfl
  have hinsert : Reads (keyword? "INSERT") (selectWhere ts) false (selectWhere ts) := rfl
  have hupdate : Reads (keyword? "UPDATE") (selectWhere ts) false (selectWhere ts) := rfl
  refine ⟨display, ?_⟩
  rw [Reads, query, bind_apply hnamed, bind_apply hinsert]
  simp only [Bool.false_eq_true, if_false]
  rw [bind_apply hupdate]
  exact hselecting

/-! ### Statements -/

theorem query_rules (depth : Nat) : (rules (depth + 1)).query = query (rules depth) := rfl

theorem expr_rules (depth : Nat) : (rules (depth + 1)).expr = expr (rules depth) := rfl

theorem reads_statementFrom {depth fuel : Nat} (he : Reads (rules depth).anyExpr ts e []) :
    ∃ display, Reads (statementFrom (rules (depth + 1)) (fuel + 1)) (selectWhere ts)
      (.query ⟨.select [.star ""] [sourceC] (some e), display⟩) [] := by
  obtain ⟨display, hquery⟩ := reads_query he
  have hkeyword : Reads (peekKeyword 0) (selectWhere ts) "SELECT" (selectWhere ts) := rfl
  have hpeek : Reads peek (selectWhere ts) (selectWhere ts).head? (selectWhere ts) := rfl
  have hopens : ((selectWhere ts).head? == some (.mark "(") ||
      ["SELECT", "WITH", "VALUES"].contains "SELECT") = true := by
    have hcontains : ["SELECT", "WITH", "VALUES"].contains "SELECT" = true := by decide
    rw [hcontains, Bool.or_true]
  refine ⟨display, ?_⟩
  rw [Reads, statementFrom, bind_apply hkeyword, bind_apply hpeek, if_pos hopens, query_rules,
    bind_apply hquery]
  rfl

/-- A statement that takes every token is the only one. -/
theorem statementsFrom_of_reads {fuel : Nat} {t : Token} {ts : List Token} {s : Statement}
    (ht : t ≠ .mark ";") (h : Reads statement (t :: ts) s []) :
    statementsFrom (fuel + 1) (t :: ts) = some [s] := by
  have hskip : skipSemicolons (t :: ts) = t :: ts := by
    rw [skipSemicolons, if_neg (by simpa using ht)]
  rw [statementsFrom, hskip]
  simp only [h]
  rfl

theorem statements?_selectWhere (he : Reads (rules (recursionLimit - 2)).anyExpr ts e []) :
    ∃ display, statements? (selectWhere ts) =
      some [.query ⟨.select [.star ""] [sourceC] (some e), display⟩] := by
  obtain ⟨display, hfrom⟩ := reads_statementFrom he
  have hlimit : recursionLimit - 2 + 1 = recursionLimit - 1 := by decide
  have hsize : Reads remaining (selectWhere ts) (selectWhere ts).length (selectWhere ts) := rfl
  have hstatement : Reads statement (selectWhere ts)
      (.query ⟨.select [.star ""] [sourceC] (some e), display⟩) [] := by
    rw [Reads, statement, bind_apply hsize, ← hlimit]
    exact hfrom
  exact ⟨display, statementsFrom_of_reads (by simp) hstatement⟩

end Selection

/-! ### Filters -/

/-- The path of a dotted name behind the source. -/
theorem path?_nameOf {chain : List String} (hne : chain ≠ []) :
    (nameOf ⟨"c", none⟩ chain).path? "c" = .ok chain := by
  cases chain with
  | nil => exact absurd rfl hne
  | cons s chain => simp [nameOf, plainIdents, Expr.path?, Function.comp_def]

/-- A selection under a comparison stands for one predicate. -/
theorem ofText?_comparison {sign : String} {chain : List String} {cs : List Char} {t : Token}
    {e : Expr} {operand : Operand} (hne : chain ≠ []) (hnames : ∀ s ∈ chain, IsField s.toList)
    (hsign : sign ∈ compareSigns) (hcs : Lexes cs [t]) (ht : ReadsOperand t e)
    (hoperand : e.operand? = .ok operand) :
    Filter.ofText? (comparisonText chain sign cs) =
      .ok [.compare chain (sign == "<>") operand] := by
  have hcondition : Reads (rules (recursionLimit - 2)).anyExpr
      (.word ⟨"c", none⟩ "C" :: (dottedTokens chain ++ [.mark sign, t]))
      (.binary (nameOf ⟨"c", none⟩ chain) sign e) [] :=
    reads_expr_compare (expr_rules 46) isFree_source hsign ht
  obtain ⟨display, hstatements⟩ := statements?_selectWhere hcondition
  rw [Filter.ofText?, tokens?_comparison hnames hsign hcs, comparisonTokens]
  simp only [hstatements]
  show Expr.predicates? "c" (.binary _ sign _) = _
  simp only [compareSigns, List.mem_cons, List.not_mem_nil, or_false] at hsign
  rcases hsign with rfl | rfl
  · rw [Expr.predicates?, if_neg (by decide), if_pos rfl, path?_nameOf hne, hoperand]
    rfl
  · rw [Expr.predicates?, if_neg (by decide), if_neg (by decide), if_pos rfl, path?_nameOf hne,
      hoperand]
    rfl

/-- An at sign is no letter, so that it is its own uppercase form. -/
theorem ofWord_at (name : List Char) :
    Token.ofWord ('@' :: name) = .word ⟨String.ofList ('@' :: name), none⟩
      (String.ofList ('@' :: Text.upper name)) := rfl

/-- A selection under a comparison with a parameter. -/
theorem ofText?_parameter {sign : String} {chain : List String} {name : List Char}
    (hne : chain ≠ []) (hnames : ∀ s ∈ chain, IsField s.toList) (hsign : sign ∈ compareSigns)
    (hname : IsField name) :
    Filter.ofText? (comparisonText chain sign ('@' :: name)) =
      .ok [.compare chain (sign == "<>") (.parameter (String.ofList ('@' :: name)))] := by
  have hlexes := Lexes.parameter hname endsWord_nil Lexes.nil
  rw [List.append_nil, ofWord_at] at hlexes
  have hoperand : (Expr.name ⟨String.ofList ('@' :: name), none⟩).operand? =
      .ok (.parameter (String.ofList ('@' :: name))) := by
    rw [Expr.operand?, if_pos (by simp [isParameterName])]
  exact ofText?_comparison hne hnames hsign hlexes (readsOperand_name (isFree_at _)) hoperand

end Reading

end DocAccess.Query
