import RelationalQuery.Proofs.Sql.Evaluation
import RelationalQuery.Proofs.Sql.Precedence

/-!
# Grouping of conditions

The text of a condition is read back with the grouping of the condition: it has the same truth value
under every assignment of truth values to the leaves.  Groups of AND are written without
parentheses and nested ones in one row, which does not change what they mean.

Main definitions:

- `Condition.truth` is the truth value of a condition, given those of its leaves, and
  `Condition.nodes` are the nodes of its own text.
- `Condition.IsFilter` are the conditions of filters and joins.

Main results:

- `Condition.IsFilter.readsAs`: the parts of a condition are read as parts of its conjunction.
- `Condition.IsFilter.reading_of_build`: the text of a condition is read back as an equivalent tree.
-/

namespace RelationalQuery.Sql

open Token (fixedNodes fixedWords)

/-! ## Parts with separators -/

section

variable {parts : List (List Token)} {nodes : List (List Node)}

/-- Parts between separators are read as the nodes of each of them between the separators. -/
theorem Token.Reads.separated (h : List.Forall₂ Token.Reads parts nodes) (text : String)
    (separator : Token.IsSeparator text) :
    Token.Reads (Token.separated text parts) (List.intercalate (fixedNodes text) nodes) := by
  induction h with
  | nil => exact .nil
  | @cons part partNodes rest restNodes hpart hrest ih =>
    cases hrest with
    | nil => simpa [Token.separated] using hpart
    | cons hnext hothers =>
      have hstep := hpart.between text separator ih
      rw [Token.separated, List.intercalate_cons_cons, List.intercalate_cons_cons,
        List.append_assoc, List.append_assoc]
      exact hstep

/-- The tokens of a conjunction are read as the nodes of its parts with AND between them. -/
theorem reads_conjunction (h : List.Forall₂ Token.Reads parts nodes) :
    Token.Reads (conjunction parts) (conjunctionNodes nodes) := by
  cases h with
  | nil => exact Token.Reads.keyword "TRUE" (by decide)
  | cons hpart hrest =>
    exact Token.Reads.separated (.cons hpart hrest) " AND " (by decide)

/-- Alternatives are read one after the other into the group that encloses them all. -/
theorem nest_alternatives {part : List Token} {partNodes : List Node}
    (hpart : Token.Reads part partNodes) (h : List.Forall₂ Token.Reads parts nodes)
    {rest : List (Mark Char)} (hrest : Opens rest)
    (outer : List (List Node)) (before done : List Node) :
    nest (done :: before :: outer) [] (words
        (Token.allMarks (Token.separated ") OR (" (part :: parts) ++ [.fixed "))"]) ++ rest)) =
      nest outer (before ++ [.group (done ++
        List.intercalate [.keyword "OR"] ((partNodes :: nodes).map fun nodes => [.group nodes]))])
        (words rest) := by
  induction h generalizing part partNodes done with
  | nil =>
    have hclose : Opens (Token.allMarks [.fixed "))"] ++ rest) :=
      Token.opens_append (by decide) hrest
    have hwords : fixedWords "))" = [Word.closing, Word.closing] := by decide
    rw [Token.separated, List.intercalate_singleton, Token.allMarks_append, List.append_assoc,
      hpart _ hclose, Token.words_fixed (.inr (by decide)) hrest, hwords, List.cons_append,
      nest_closing, List.cons_append, nest_closing]
    simp [Token.allMarks]
  | @cons next nextNodes others otherNodes hnext hothers ih =>
    have htokens : Token.separated ") OR (" (part :: next :: others) ++ [.fixed "))"] =
        part ++ .fixed ") OR (" ::
          (Token.separated ") OR (" (next :: others) ++ [.fixed "))"]) := by
      rw [Token.separated, List.intercalate_cons_cons, Token.separated]
      simp
    have hopens : Opens (Token.allMarks (.fixed ") OR (" ::
        (Token.separated ") OR (" (next :: others) ++ [.fixed "))"])) ++ rest) :=
      Token.opens_append (Token.opens_fixed (by decide) _) hrest
    have hwords : fixedWords ") OR (" = [Word.closing, .symbol "OR", Word.opening] := by
      decide
    rw [htokens, Token.allMarks_append, List.append_assoc, hpart _ hopens,
      Token.words_fixed (.inl (by decide)) hrest, hwords, List.cons_append, nest_closing,
      List.cons_append, nest_cons_inner (by decide), List.singleton_append, nest_opening,
      ih hnext, List.map_cons, List.map_cons, List.map_cons, List.intercalate_cons_cons]
    simp [Node.keyword]

/-- The tokens of a disjunction are read as a group of alternatives. -/
theorem reads_disjunction (h : List.Forall₂ Token.Reads parts nodes) :
    Token.Reads (disjunction parts) (disjunctionNodes nodes) := by
  cases h with
  | nil => exact Token.Reads.keyword "FALSE" (by decide)
  | @cons part partNodes others otherNodes hpart hothers =>
    intro rest hrest outer done
    have hwords : fixedWords "((" = [Word.opening, Word.opening] := by decide
    have htokens : disjunction (part :: others) =
        .fixed "((" :: (Token.separated ") OR (" (part :: others) ++ [.fixed "))"]) := rfl
    rw [htokens, Token.words_fixed (.inl (by decide)) hrest, hwords, List.cons_append,
      nest_opening, List.singleton_append, nest_opening,
      nest_alternatives hpart hothers hrest]
    rfl

end

/-! ## Operands -/

/-- The operands of filters and joins: values, columns, and columns of earlier statements. -/
inductive Expr.IsOperand : Expr → Prop
  | null : IsOperand .null
  | parameter {value : Parameter} : IsOperand (.parameter value)
  | column {column : ColumnRef} : IsOperand (.column column)
  | columnText {column : ColumnRef} : IsOperand (.columnText column)
  | reference {source column : String} : IsOperand (.reference source column)

/-- Tokens are read as nodes among which there is no connective. -/
structure ReadsPlain (tokens : List Token) (nodes : List Node) : Prop where
  reads : Token.Reads tokens nodes
  plain : ∀ node ∈ nodes, node.isPlain = true

/-- Plain nodes are no connectives. -/
theorem plain_append {front back : List Node} (hfront : ∀ node ∈ front, node.isPlain = true)
    (hback : ∀ node ∈ back, node.isPlain = true) :
    ∀ node ∈ front ++ back, node.isPlain = true :=
  List.forall_mem_append.2 ⟨hfront, hback⟩

/-- A name is a single token. -/
theorem exists_of_nameTokens {name : String} {tokens : List Token}
    (h : nameTokens name = .ok tokens) : ∃ identifier, tokens = [.name identifier] := by
  simp only [nameTokens, bind_eq_ok_iff, pure_eq_ok_iff] at h
  obtain ⟨identifier, -, rfl⟩ := h
  exact ⟨identifier, rfl⟩

/-- A column with an optional qualifier is read as its names, whatever stands behind it. -/
theorem readsPlain_qualifiedTokens {qualifier? : Option String} {name : String}
    {front back : List Token} {nodes : List Node} (h : qualifiedTokens qualifier? name = .ok front)
    (hback : ReadsPlain back nodes) :
    ∃ first rest, first.isKeyword "NOT" = false ∧ ReadsPlain (front ++ back) (first :: rest) := by
  unfold qualifiedTokens at h
  cases qualifier? with
  | none =>
    obtain ⟨identifier, rfl⟩ := exists_of_nameTokens h
    exact ⟨_, _, rfl, hback.reads.name identifier, List.forall_mem_cons.2 ⟨rfl, hback.plain⟩⟩
  | some qualifier =>
    simp only [bind_eq_ok_iff, pure_eq_ok_iff] at h
    obtain ⟨_, hqualifier, _, hname, rfl⟩ := h
    obtain ⟨outer, rfl⟩ := exists_of_nameTokens hqualifier
    obtain ⟨inner, rfl⟩ := exists_of_nameTokens hname
    refine ⟨_, _, rfl, ((hback.reads.name inner).fixed "." (by decide)
      (.inl (by decide))).name outer, ?_⟩
    exact List.forall_mem_cons.2 ⟨rfl, plain_append (by decide)
      (List.forall_mem_cons.2 ⟨rfl, hback.plain⟩)⟩

/-- The keys of a subscript are read as words without operators between them. -/
theorem readsPlain_subscripts (path : List String) :
    ∃ nodes, ReadsPlain (path.flatMap fun key => [.fixed "[", .literal key, .fixed "]"]) nodes := by
  induction path with
  | nil => exact ⟨[], .nil, by simp⟩
  | cons key rest ih =>
    obtain ⟨nodes, hnodes⟩ := ih
    refine ⟨_, ((hnodes.reads.fixed "]" (by decide) (.inl (by decide))).literal
      key).fixed "[" (by decide) (.inl (by decide)), ?_⟩
    exact plain_append (by decide)
      (List.forall_mem_cons.2 ⟨rfl, plain_append (by decide) hnodes.plain⟩)

/-- The keys behind arrows are read as words without operators between them. -/
theorem readsPlain_arrowTokens (path : List String) :
    ∃ nodes, ReadsPlain (ColumnRef.arrowTokens path) nodes := by
  induction path with
  | nil => exact ⟨[], .nil, by simp⟩
  | cons key rest ih =>
    cases rest with
    | nil =>
      refine ⟨_, (Token.Reads.nil.literal key).fixed "->>" (by decide) (.inr rfl), ?_⟩
      exact plain_append (by decide) (List.forall_mem_singleton.2 rfl)
    | cons next rest =>
      obtain ⟨nodes, hnodes⟩ := ih
      refine ⟨_, (hnodes.reads.literal key).fixed "->" (by decide) (.inr rfl), ?_⟩
      exact plain_append (by decide) (List.forall_mem_cons.2 ⟨rfl, hnodes.plain⟩)

/-- An operand is read as at least one node and does not start with NOT. -/
theorem Expr.IsOperand.readsPlain {expr : Expr} {tokens : List Token} (h : expr.IsOperand)
    (htokens : expr.tokens = .ok tokens) :
    ∃ first rest, first.isKeyword "NOT" = false ∧ ReadsPlain tokens (first :: rest) := by
  cases h with
  | null =>
    rw [Expr.tokens, Except.ok.injEq] at htokens
    subst htokens
    exact ⟨.keyword "NULL", [], by decide, Token.Reads.keyword "null" (by decide),
      by decide⟩
  | parameter =>
    rw [Expr.tokens, Except.ok.injEq] at htokens
    subst htokens
    exact ⟨_, _, rfl, Token.Reads.nil.parameter _, List.forall_mem_singleton.2 rfl⟩
  | column =>
    simp only [Expr.tokens, ColumnRef.tokens, bind_eq_ok_iff, pure_eq_ok_iff] at htokens
    obtain ⟨front, hfront, rfl⟩ := htokens
    obtain ⟨nodes, hnodes⟩ := readsPlain_subscripts _
    exact readsPlain_qualifiedTokens hfront hnodes
  | columnText =>
    simp only [Expr.tokens, ColumnRef.textTokens, bind_eq_ok_iff, pure_eq_ok_iff] at htokens
    obtain ⟨front, hfront, rfl⟩ := htokens
    obtain ⟨nodes, hnodes⟩ := readsPlain_arrowTokens _
    exact readsPlain_qualifiedTokens hfront hnodes
  | reference =>
    rw [Expr.tokens] at htokens
    have hnothing : ReadsPlain [] [] := ⟨.nil, by simp⟩
    have hread := readsPlain_qualifiedTokens htokens hnothing
    rwa [List.append_nil] at hread

/-! ## Truth values of conditions -/

mutual

/-- The truth value of a condition, given those of its leaves.  A membership test of an empty list
is false, and the negated test for rows is the negation of the test. -/
def Condition.truth (leaf : Condition → Truth) : Condition → Truth
  | .and conditions => Truth.all (Condition.truths leaf conditions)
  | .or conditions => Truth.any (Condition.truths leaf conditions)
  | .not condition => (condition.truth leaf).not
  | .inList _ [] => .no
  | .exists query true => (leaf (.exists query false)).not
  | condition => leaf condition

/-- The truth values of several conditions. -/
def Condition.truths (leaf : Condition → Truth) : List Condition → List Truth
  | [] => []
  | condition :: rest => condition.truth leaf :: Condition.truths leaf rest

end

section

variable {V : Type} {I : Interpretation V} {db : Database V} {scope : Scope V}

mutual

/-- The value of a condition over rows is its truth value for the values of its leaves. -/
theorem Condition.truth_of_eval : ∀ {condition : Condition} {truth : Truth},
    condition.eval I db scope = some truth →
      condition.truth (fun leaf => (leaf.eval I db scope).getD .unknown) = truth
  | .and conditions, truth, h => by
    simp only [Condition.eval, Option.bind_eq_bind, Option.bind_eq_some_iff, Option.pure_def,
      Option.some.injEq] at h
    obtain ⟨truths, htruths, rfl⟩ := h
    rw [Condition.truth, Condition.truths_of_evalList htruths]
  | .or conditions, truth, h => by
    simp only [Condition.eval, Option.bind_eq_bind, Option.bind_eq_some_iff, Option.pure_def,
      Option.some.injEq] at h
    obtain ⟨truths, htruths, rfl⟩ := h
    rw [Condition.truth, Condition.truths_of_evalList htruths]
  | .not condition, truth, h => by
    simp only [Condition.eval, Option.bind_eq_bind, Option.bind_eq_some_iff, Option.pure_def,
      Option.some.injEq] at h
    obtain ⟨inner, hinner, rfl⟩ := h
    rw [Condition.truth, Condition.truth_of_eval hinner]
  | .inList _ [], truth, h => by
    rw [Condition.eval, Option.some.injEq] at h
    rw [Condition.truth, h]
  | .exists query true, truth, h => by
    simp only [Condition.eval, Option.bind_eq_bind, Option.bind_eq_some_iff, Option.pure_def,
      Option.some.injEq] at h
    obtain ⟨nonempty, hnonempty, rfl⟩ := h
    rw [Condition.truth, Condition.eval, hnonempty]
    cases nonempty <;> rfl
  | .inList _ (_ :: _), truth, h | .exists _ false, truth, h | .compare _ _ _, truth, h
  | .nullCheck _ _, truth, h | .between _ _ _, truth, h | .startsWith _ _, truth, h
  | .containsText _ _, truth, h | .hasKey _ _, truth, h | .raw _, truth, h => by
    simp only [Condition.truth, h, Option.getD_some]

/-- The values of conditions over rows are their truth values for the values of their leaves. -/
theorem Condition.truths_of_evalList : ∀ {conditions : List Condition} {truths : List Truth},
    Condition.evalList I db conditions scope = some truths →
      Condition.truths (fun leaf => (leaf.eval I db scope).getD .unknown) conditions = truths
  | [], truths, h => by
    rw [Condition.evalList, Option.some.injEq] at h
    rw [Condition.truths, h]
  | condition :: rest, truths, h => by
    simp only [Condition.evalList, Option.bind_eq_bind, Option.bind_eq_some_iff, Option.pure_def,
      Option.some.injEq] at h
    obtain ⟨first, hfirst, others, hothers, rfl⟩ := h
    rw [Condition.truths, Condition.truth_of_eval hfirst, Condition.truths_of_evalList hothers]

end

end

namespace Condition

/-- The nodes of the text of a condition on its own. -/
def nodes (condition : Condition) : List Node :=
  match condition.tokens with
  | .ok tokens => (Token.nodes? tokens).getD []
  | .error _ => []

/-- The truth value of a condition under an assignment to the texts of its leaves. -/
def truthUnder (assign : List Node → Truth) (condition : Condition) : Truth :=
  condition.truth fun leaf => assign leaf.nodes

/-- The conditions of filters and joins: connectives over tests of operands and of related rows. -/
inductive IsFilter : Condition → Prop
  | and {conditions : List Condition} (parts : ∀ condition ∈ conditions, IsFilter condition) :
      IsFilter (.and conditions)
  | or {conditions : List Condition} (parts : ∀ condition ∈ conditions, IsFilter condition) :
      IsFilter (.or conditions)
  | not {condition : Condition} (inner : IsFilter condition) : IsFilter (.not condition)
  | compare {left right : Expr} {comparison : Comparison} (first : left.IsOperand)
      (second : right.IsOperand) : IsFilter (.compare left comparison right)
  | nullCheck {expr : Expr} {isNull : Bool} (tested : expr.IsOperand) :
      IsFilter (.nullCheck expr isNull)
  | inList {expr : Expr} {values : List Expr} (tested : expr.IsOperand)
      (members : ∀ value ∈ values, value.IsOperand) : IsFilter (.inList expr values)
  | between {expr low high : Expr} (tested : expr.IsOperand) (lower : low.IsOperand)
      (upper : high.IsOperand) : IsFilter (.between expr low high)
  | startsWith {expr lead : Expr} (tested : expr.IsOperand) (start : lead.IsOperand) :
      IsFilter (.startsWith expr lead)
  | containsText {expr needle : Expr} (tested : expr.IsOperand) (part : needle.IsOperand) :
      IsFilter (.containsText expr needle)
  | hasKey {column : ColumnRef} {key : String} : IsFilter (.hasKey column key)
  | exists {table label : String} {condition : Condition} {negated : Bool}
      (inner : IsFilter condition) :
      IsFilter (.exists
        ((Select.ofColumns [.plain (.raw "1")] (.aliased table label)).restrict condition) negated)

/-- The parts of a condition are read as parts of a conjunction that has its truth value. -/
def ReadsAs (condition : Condition) (parts : List (List Token)) : Prop :=
  ∃ conjuncts : List (List Node × Reading),
    List.Forall₂ Token.Reads parts (conjuncts.map (·.1)) ∧
    (∀ conjunct ∈ conjuncts, IsConjunct conjunct.1 conjunct.2) ∧
    ∀ assign, Truth.all (conjuncts.map (·.2.truth assign)) = condition.truthUnder assign

/-- A single part is read as a part of a conjunction. -/
theorem ReadsAs.singleton {condition : Condition} {tokens : List Token} {nodes : List Node}
    {reading : Reading} (reads : Token.Reads tokens nodes) (conjunct : IsConjunct nodes reading)
    (truth : ∀ assign, reading.truth assign = condition.truthUnder assign) :
    condition.ReadsAs [tokens] := by
  refine ⟨[(nodes, reading)], .cons reads .nil, List.forall_mem_singleton.2 conjunct,
    fun assign => ?_⟩
  rw [← truth assign]
  simp

/-- A condition with a single part has the nodes of this part. -/
theorem nodes_eq {condition : Condition} {tokens : List Token} {nodes : List Node}
    (hparts : condition.conjuncts = .ok [tokens]) (reads : Token.Reads tokens nodes) :
    condition.nodes = nodes := by
  have htokens : condition.tokens = .ok tokens := by
    have hsingle : conjunction [tokens] = tokens := by simp [conjunction, Token.separated]
    rw [Condition.tokens, hparts]
    exact congrArg Except.ok hsingle
  simp [Condition.nodes, htokens, Token.nodes?_of_reads reads]

/-- What stands alone is a leaf, which has the truth value that is assigned to it. -/
theorem truth_leaf {assign : List Node → Truth} {node : Node} {nodes : List Node}
    (beside : nodes ≠ []) :
    (Reading.leaf (node :: nodes)).truth assign = assign (node :: nodes) := by
  cases nodes with
  | nil => exact absurd rfl beside
  | cons next rest => rfl

/-- A leaf is read as the nodes of its text. -/
theorem readsAs_leaf {condition : Condition} {tokens : List Token} {node : Node}
    {nodes : List Node} (hparts : condition.conjuncts = .ok [tokens])
    (reads : Token.Reads tokens (node :: nodes)) (beside : nodes ≠ [])
    (conjunct : IsConjunct (node :: nodes) (.leaf (node :: nodes)))
    (leaf : ∀ leaf, condition.truth leaf = leaf condition) : condition.ReadsAs [tokens] :=
  .singleton reads conjunct fun assign => by
    rw [truth_leaf beside, truthUnder, leaf, nodes_eq hparts reads]

/-! ## Leaves -/

section

variable {parts : List (List Token)}

/-- A comparison of operands is a leaf. -/
theorem readsAs_compare {left right : Expr} {comparison : Comparison} (first : left.IsOperand)
    (second : right.IsOperand) (h : (compare left comparison right).conjuncts = .ok parts) :
    (compare left comparison right).ReadsAs parts := by
  have hparts := h
  simp only [conjuncts, bind_eq_ok_iff, pure_eq_ok_iff] at h
  obtain ⟨leftTokens, hleft, rightTokens, hright, rfl⟩ := h
  obtain ⟨_, _, affirmed, leftReads, leftPlain⟩ := first.readsPlain hleft
  obtain ⟨_, _, _, rightReads, rightPlain⟩ := second.readsPlain hright
  have hsymbol : Token.IsSeparator (" " ++ comparison.symbol ++ " ") ∧
      ∀ node ∈ fixedNodes (" " ++ comparison.symbol ++ " "), node.isPlain = true := by
    cases comparison <;> decide
  exact readsAs_leaf hparts (leftReads.between _ hsymbol.1 rightReads) (by simp)
    (isConjunct_leaf affirmed (by simp)
      (plain_append leftPlain (plain_append hsymbol.2 rightPlain))) fun _ => rfl

/-- A null check of an operand is a leaf. -/
theorem readsAs_nullCheck {expr : Expr} {isNull : Bool} (tested : expr.IsOperand)
    (h : (nullCheck expr isNull).conjuncts = .ok parts) :
    (nullCheck expr isNull).ReadsAs parts := by
  have hparts := h
  simp only [conjuncts, bind_eq_ok_iff, pure_eq_ok_iff] at h
  obtain ⟨exprTokens, hexpr, rfl⟩ := h
  obtain ⟨_, _, affirmed, reads, plain⟩ := tested.readsPlain hexpr
  have htext : ∀ text ∈ [" IS NULL", " IS NOT NULL"],
      (fixedWords text).all Word.isInner = true ∧
      (Token.fixed text).marks.head?.any isApart = true ∧
      fixedNodes text ≠ [] ∧ ∀ node ∈ fixedNodes text, node.isPlain = true := by
    decide
  obtain ⟨inner, opens, nonempty, textPlain⟩ :=
    htext (if isNull then " IS NULL" else " IS NOT NULL") (by cases isNull <;> simp)
  exact readsAs_leaf hparts (reads.append (.keyword _ inner) (Token.opens_fixed opens []))
    (by simp [nonempty]) (isConjunct_leaf affirmed (by simp [nonempty])
      (plain_append plain textPlain)) fun _ => rfl

/-- The AND of a range belongs to the range, which is a leaf. -/
theorem readsAs_between {expr low high : Expr} (tested : expr.IsOperand) (lower : low.IsOperand)
    (upper : high.IsOperand) (h : (between expr low high).conjuncts = .ok parts) :
    (between expr low high).ReadsAs parts := by
  have hparts := h
  simp only [conjuncts, bind_eq_ok_iff, pure_eq_ok_iff] at h
  obtain ⟨exprTokens, hexpr, lowTokens, hlow, highTokens, hhigh, rfl⟩ := h
  obtain ⟨_, _, affirmed, reads, plain⟩ := tested.readsPlain hexpr
  obtain ⟨_, _, _, lowReads, lowPlain⟩ := lower.readsPlain hlow
  obtain ⟨_, _, _, highReads, highPlain⟩ := upper.readsPlain hhigh
  have hreads := reads.between " BETWEEN " (by decide)
    (lowReads.between " AND " (by decide) highReads)
  rw [← List.cons_append, ← List.append_assoc] at hreads
  exact readsAs_leaf hparts hreads (by simp)
    (isConjunct_between affirmed plain lowPlain highPlain) fun _ => rfl

/-- A test of the start of a text is a leaf. -/
theorem readsAs_startsWith {expr lead : Expr} (tested : expr.IsOperand) (start : lead.IsOperand)
    (h : (startsWith expr lead).conjuncts = .ok parts) :
    (startsWith expr lead).ReadsAs parts := by
  have hparts := h
  simp only [conjuncts, bind_eq_ok_iff, pure_eq_ok_iff] at h
  obtain ⟨exprTokens, hexpr, leadTokens, hlead, rfl⟩ := h
  obtain ⟨_, _, _, reads, _⟩ := tested.readsPlain hexpr
  obtain ⟨_, _, _, leadReads, _⟩ := start.readsPlain hlead
  have hreads := (reads.between ", " (by decide) leadReads).enclosed "starts_with(" ")"
    [.symbol "STARTS_WITH"] [] (by decide)
  exact readsAs_leaf hparts hreads (by simp)
    (isConjunct_leaf (by decide) (by simp)
      (List.forall_mem_cons.2 ⟨by decide, List.forall_mem_cons.2 ⟨rfl, by decide⟩⟩)) fun _ => rfl

/-- A test of the parts of a text is a leaf. -/
theorem readsAs_containsText {expr needle : Expr} (tested : expr.IsOperand)
    (part : needle.IsOperand) (h : (containsText expr needle).conjuncts = .ok parts) :
    (containsText expr needle).ReadsAs parts := by
  have hparts := h
  simp only [conjuncts, bind_eq_ok_iff, pure_eq_ok_iff] at h
  obtain ⟨exprTokens, hexpr, needleTokens, hneedle, rfl⟩ := h
  obtain ⟨_, _, _, reads, _⟩ := tested.readsPlain hexpr
  obtain ⟨_, _, _, needleReads, _⟩ := part.readsPlain hneedle
  have hreads := (reads.between ", " (by decide) needleReads).enclosed "strpos(" ") > 0"
    [.symbol "STRPOS"] [.symbol ">", .symbol "0"] (by decide)
  exact readsAs_leaf hparts hreads (by simp)
    (isConjunct_leaf (by decide) (by simp)
      (List.forall_mem_cons.2 ⟨by decide, List.forall_mem_cons.2 ⟨rfl, by decide⟩⟩)) fun _ => rfl

/-- A test for a key is a leaf. -/
theorem readsAs_hasKey {column : ColumnRef} {key : String}
    (h : (hasKey column key).conjuncts = .ok parts) : (hasKey column key).ReadsAs parts := by
  have hparts := h
  simp only [conjuncts, bind_eq_ok_iff, pure_eq_ok_iff] at h
  obtain ⟨columnTokens, hcolumn, rfl⟩ := h
  obtain ⟨_, _, affirmed, reads, plain⟩ := Expr.IsOperand.column.readsPlain hcolumn
  exact readsAs_leaf hparts
    (reads.between " ? " (by decide) (Token.Reads.nil.literal key)) (by simp)
    (isConjunct_leaf affirmed (by simp) (plain_append plain (plain_append (by decide)
      (List.forall_mem_singleton.2 rfl)))) fun _ => rfl

/-- Operands of a list are read one by one. -/
theorem reads_listTokens {values : List Expr} {parts : List (List Token)}
    (members : ∀ value ∈ values, value.IsOperand) (h : Expr.listTokens values = .ok parts) :
    ∃ nodes, List.Forall₂ Token.Reads parts nodes := by
  induction values generalizing parts with
  | nil =>
    rw [Expr.listTokens, Except.ok.injEq] at h
    exact ⟨[], h ▸ .nil⟩
  | cons value rest ih =>
    simp only [Expr.listTokens, bind_eq_ok_iff, pure_eq_ok_iff] at h
    obtain ⟨tokens, hvalue, others, hothers, rfl⟩ := h
    obtain ⟨first, valueRest, _, reads⟩ :=
      (members value List.mem_cons_self).readsPlain hvalue
    obtain ⟨nodes, hnodes⟩ := ih (fun other hother => members other (List.mem_cons_of_mem _ hother))
      hothers
    exact ⟨_, .cons reads.reads hnodes⟩

/-- A test for the members of a list is a leaf. -/
theorem readsAs_inList {expr : Expr} {values : List Expr} (tested : expr.IsOperand)
    (members : ∀ value ∈ values, value.IsOperand)
    (h : (inList expr values).conjuncts = .ok parts) : (inList expr values).ReadsAs parts := by
  have hparts := h
  cases values with
  | nil =>
    rw [conjuncts, Except.ok.injEq] at h
    subst h
    exact .singleton (.keyword "FALSE" (by decide))
      ⟨by decide, .plain (by decide), rfl⟩ fun _ => rfl
  | cons value values =>
    simp only [conjuncts, bind_eq_ok_iff, pure_eq_ok_iff] at h
    obtain ⟨exprTokens, hexpr, first, hfirst, others, hothers, rfl⟩ := h
    obtain ⟨_, _, affirmed, reads, plain⟩ := tested.readsPlain hexpr
    have hlist : Expr.listTokens (value :: values) = .ok (first :: others) := by
      simp only [Expr.listTokens, hfirst, hothers]
      rfl
    obtain ⟨nodes, hnodes⟩ := reads_listTokens members hlist
    have hgroup := (Token.Reads.separated hnodes ", " (by decide)).enclosed " IN (" ")"
      [.symbol "IN"] [] (by decide)
    have hreads := reads.append hgroup (Token.opens_fixed (by decide) _)
    rw [← List.append_assoc] at hreads
    exact readsAs_leaf hparts hreads (by simp)
      (isConjunct_leaf affirmed (by simp) (plain_append plain
        (plain_append (by decide) (List.forall_mem_singleton.2 rfl)))) fun _ => rfl

/-- The tokens of a selection that tests for related rows. -/
theorem relatedRows_tokens {table label : String} {condition : Condition} {tokens : List Token}
    (h : ((Select.ofColumns [.plain (.raw "1")] (.aliased table label)).restrict condition).tokens =
      .ok tokens) :
    ∃ tableName labelName parts, condition.conjuncts = .ok parts ∧
      tokens = .fixed "SELECT " :: .fixed "1" :: .fixed " FROM " :: .name tableName ::
        .fixed " AS " :: .name labelName :: .fixed " WHERE " :: conjunction parts := by
  have hselect : (Select.ofColumns [.plain (.raw "1")] (.aliased table label)).restrict condition =
      ⟨[⟨.raw "1", none⟩], some (.table table (some label)), some condition, [], none, none⟩ := rfl
  rw [hselect] at h
  simp only [Select.tokens, Projection.listTokens, FromItem.clauseTokens, FromItem.tokens,
    Condition.clauseTokens, OrderTerm.listTokens, Expr.tokens, aliasedTokens, bind_eq_ok_iff,
    pure_eq_ok_iff] at h
  obtain ⟨_, ⟨_, hone, _, rfl, _, hnoColumns, rfl⟩, _, ⟨_, ⟨_, htable, _, hlabel, rfl⟩, rfl⟩, _,
    ⟨parts, hparts, rfl⟩, _, hnoOrder, rfl⟩ := h
  rw [Except.ok.injEq] at hone hnoColumns hnoOrder
  subst hone hnoColumns hnoOrder
  obtain ⟨tableName, rfl⟩ := exists_of_nameTokens htable
  obtain ⟨labelName, rfl⟩ := exists_of_nameTokens hlabel
  exact ⟨tableName, labelName, parts, hparts,
    by simp [Token.separated, Token.clause, countTokens]⟩

/-- A test for related rows is read as a group, if their condition is. -/
theorem reads_relatedRows {table label : String} {condition : Condition} {tokens : List Token}
    (inner : ∀ {parts}, condition.conjuncts = .ok parts → condition.ReadsAs parts)
    (h : ((Select.ofColumns [.plain (.raw "1")] (.aliased table label)).restrict condition).tokens =
      .ok tokens) : ∃ nodes, Token.Reads tokens nodes := by
  obtain ⟨tableName, labelName, parts, hparts, rfl⟩ := relatedRows_tokens h
  obtain ⟨conjuncts, hreads, -, -⟩ := inner hparts
  have hlabel := ((reads_conjunction hreads).fixed " WHERE " (by decide)
    (.inl (by decide))).name labelName
  have htable := (hlabel.fixed " AS " (by decide) (.inl (by decide))).name tableName
  have hrows := htable.fixed " FROM " (by decide) (.inl (by decide))
  have hone := hrows.fixed "1" (by decide)
    (.inr (Token.opens_fixed (by decide) _))
  exact ⟨_, hone.fixed "SELECT " (by decide) (.inl (by decide))⟩

/-- A test for rows of a subquery is a leaf, or the negation of one. -/
theorem readsAs_exists {table label : String} {condition : Condition} {negated : Bool}
    (inner : ∀ {parts}, condition.conjuncts = .ok parts → condition.ReadsAs parts)
    (h : (Condition.exists ((Select.ofColumns [.plain (.raw "1")]
      (.aliased table label)).restrict condition) negated).conjuncts = .ok parts) :
    (Condition.exists ((Select.ofColumns [.plain (.raw "1")]
      (.aliased table label)).restrict condition) negated).ReadsAs parts := by
  generalize hquery : (Select.ofColumns [.plain (.raw "1")]
    (.aliased table label)).restrict condition = query at h ⊢
  simp only [conjuncts, bind_eq_ok_iff, pure_eq_ok_iff] at h
  obtain ⟨tokens, htokens, rfl⟩ := h
  obtain ⟨nodes, hnodes⟩ := reads_relatedRows inner (hquery ▸ htokens)
  have haffirmed : Token.Reads (.fixed "EXISTS (" :: tokens ++ [.fixed ")"])
      [.keyword "EXISTS", .group nodes] :=
    hnodes.enclosed "EXISTS (" ")" [.symbol "EXISTS"] [] (by decide)
  have hconjunct : IsConjunct [.keyword "EXISTS", .group nodes]
      (.leaf [.keyword "EXISTS", .group nodes]) :=
    isConjunct_leaf (by decide) (by simp)
      (List.forall_mem_cons.2 ⟨by decide, List.forall_mem_singleton.2 rfl⟩)
  have hparts : (Condition.exists query false).conjuncts =
      .ok [.fixed "EXISTS (" :: tokens ++ [.fixed ")"]] := by
    rw [conjuncts, htokens]
    rfl
  cases negated with
  | false => exact readsAs_leaf hparts haffirmed (by simp) hconjunct fun _ => rfl
  | true =>
    have hnegated : Token.Reads (.fixed "NOT EXISTS (" :: tokens ++ [.fixed ")"])
        [.keyword "NOT", .keyword "EXISTS", .group nodes] :=
      hnodes.enclosed "NOT EXISTS (" ")" [.symbol "NOT", .symbol "EXISTS"] [] (by decide)
    refine .singleton hnegated hconjunct.not fun assign => ?_
    have htruth : (Condition.exists query true).truthUnder assign =
        (assign (Condition.exists query false).nodes).not := rfl
    rw [htruth, nodes_eq hparts haffirmed, Reading.truth, truth_leaf (by simp)]

end

/-! ## Connectives -/

/-- Parts of a conjunction are read as a condition with the truth value of the conjunction. -/
theorem ReadsAs.conjunction {condition : Condition} {parts : List (List Token)}
    (h : condition.ReadsAs parts) :
    ∃ nodes, Token.Reads (Sql.conjunction parts) nodes ∧
      ∀ assign, (Reading.ofNodes nodes).truth assign = condition.truthUnder assign := by
  obtain ⟨conjuncts, reads, hconjuncts, htruth⟩ := h
  refine ⟨_, reads_conjunction reads, fun assign => ?_⟩
  rw [truth_conjunctionNodes hconjuncts, htruth]

/-- The negation of a condition that is read as it is meant is read as it is meant. -/
theorem readsAs_not {condition : Condition} {parts : List (List Token)}
    (inner : ∀ {parts}, condition.conjuncts = .ok parts → condition.ReadsAs parts)
    (h : (Condition.not condition).conjuncts = .ok parts) :
    (Condition.not condition).ReadsAs parts := by
  simp only [conjuncts, bind_eq_ok_iff, pure_eq_ok_iff] at h
  obtain ⟨innerParts, hinner, rfl⟩ := h
  obtain ⟨nodes, hnodes, htruth⟩ := (inner hinner).conjunction
  have hreads := hnodes.enclosed "NOT (" ")" [.symbol "NOT"] [] (by decide)
  refine .singleton hreads (isConjunct_group nodes).not fun assign => ?_
  rw [Reading.truth, htruth]
  rfl

/-- So is the conjunction of such conditions. -/
theorem readsAs_and {conditions : List Condition} {parts : List (List Token)}
    (inner : ∀ condition ∈ conditions, ∀ {parts}, condition.conjuncts = .ok parts →
      condition.ReadsAs parts)
    (h : (Condition.and conditions).conjuncts = .ok parts) :
    (Condition.and conditions).ReadsAs parts := by
  rw [conjuncts] at h
  induction conditions generalizing parts with
  | nil =>
    rw [allConjuncts, Except.ok.injEq] at h
    exact ⟨[], h ▸ .nil, by simp, fun _ => rfl⟩
  | cons condition rest ih =>
    simp only [allConjuncts, bind_eq_ok_iff, pure_eq_ok_iff] at h
    obtain ⟨first, hfirst, others, hothers, rfl⟩ := h
    obtain ⟨left, hleft, leftConjuncts, leftTruth⟩ := inner condition List.mem_cons_self hfirst
    obtain ⟨right, hright, rightConjuncts, rightTruth⟩ :=
      ih (fun other hother => inner other (List.mem_cons_of_mem _ hother)) hothers
    refine ⟨left ++ right, ?_, List.forall_mem_append.2 ⟨leftConjuncts, rightConjuncts⟩,
      fun assign => ?_⟩
    · rw [List.map_append]
      exact List.rel_append hleft hright
    · rw [List.map_append, Truth.all_append, leftTruth, rightTruth]
      rfl

/-- So is their disjunction. -/
theorem readsAs_or {conditions : List Condition} {parts : List (List Token)}
    (inner : ∀ condition ∈ conditions, ∀ {parts}, condition.conjuncts = .ok parts →
      condition.ReadsAs parts)
    (h : (Condition.or conditions).conjuncts = .ok parts) :
    (Condition.or conditions).ReadsAs parts := by
  simp only [conjuncts, bind_eq_ok_iff, pure_eq_ok_iff] at h
  obtain ⟨alternatives, halternatives, rfl⟩ := h
  have hread : ∃ nodes, List.Forall₂ Token.Reads alternatives nodes ∧ ∀ assign,
      nodes.map (fun nodes => (Reading.ofNodes nodes).truth assign) =
        truths (fun leaf => assign leaf.nodes) conditions := by
    induction conditions generalizing alternatives with
    | nil =>
      rw [listTokens, Except.ok.injEq] at halternatives
      exact ⟨[], halternatives ▸ .nil, fun _ => rfl⟩
    | cons condition rest ih =>
      simp only [listTokens, bind_eq_ok_iff, pure_eq_ok_iff] at halternatives
      obtain ⟨first, hfirst, others, hothers, rfl⟩ := halternatives
      obtain ⟨nodes, hnodes, htruth⟩ := (inner condition List.mem_cons_self hfirst).conjunction
      obtain ⟨otherNodes, hotherNodes, otherTruths⟩ :=
        ih (fun other hother => inner other (List.mem_cons_of_mem _ hother)) others hothers
      refine ⟨nodes :: otherNodes, .cons hnodes hotherNodes, fun assign => ?_⟩
      rw [List.map_cons, htruth, otherTruths]
      rfl
  obtain ⟨nodes, hnodes, htruths⟩ := hread
  obtain ⟨reading, hconjunct, htruth⟩ := isConjunct_disjunctionNodes nodes
  refine .singleton (reads_disjunction hnodes) hconjunct fun assign => ?_
  rw [htruth, htruths]
  rfl

/-! ## Conditions of filters -/

/-- The parts of a condition are read as parts of its conjunction. -/
theorem IsFilter.readsAs {condition : Condition} (h : condition.IsFilter)
    {parts : List (List Token)} (hparts : condition.conjuncts = .ok parts) :
    condition.ReadsAs parts := by
  induction h generalizing parts with
  | and _ ih => exact readsAs_and (fun condition hcondition _ => ih condition hcondition) hparts
  | or _ ih => exact readsAs_or (fun condition hcondition _ => ih condition hcondition) hparts
  | not _ ih => exact readsAs_not ih hparts
  | compare first second => exact readsAs_compare first second hparts
  | nullCheck tested => exact readsAs_nullCheck tested hparts
  | inList tested members => exact readsAs_inList tested members hparts
  | between tested lower upper => exact readsAs_between tested lower upper hparts
  | startsWith tested start => exact readsAs_startsWith tested start hparts
  | containsText tested part => exact readsAs_containsText tested part hparts
  | hasKey => exact readsAs_hasKey hparts
  | «exists» _ ih => exact readsAs_exists ih hparts

end Condition

/-! ## Trusted texts -/

/-- A column writes names and literals alone. -/
theorem ColumnRef.trusted_pieces (column : ColumnRef) :
    ∀ piece ∈ column.pieces, piece.IsTrusted := by
  simp [pieces, qualifiedPieces, namePieces, Piece.IsTrusted, or_imp, forall_and]

/-- Operands hold no trusted text. -/
theorem Expr.IsOperand.trusted {expr : Expr} (h : expr.IsOperand) :
    ∀ piece ∈ expr.pieces, piece.IsTrusted := by
  cases h with
  | null | parameter => simp [Expr.pieces]
  | column | columnText =>
    rw [Expr.pieces]
    exact ColumnRef.trusted_pieces _
  | reference => simp [Expr.pieces, qualifiedPieces, namePieces, Piece.IsTrusted]

namespace Condition

/-- Conditions write trusted pieces together if each of them does. -/
theorem trusted_listPieces {conditions : List Condition}
    (h : ∀ condition ∈ conditions, ∀ piece ∈ condition.pieces, piece.IsTrusted) :
    ∀ piece ∈ listPieces conditions, piece.IsTrusted := by
  induction conditions with
  | nil => simp [listPieces]
  | cons condition rest ih =>
    rw [listPieces, List.forall_mem_append]
    exact ⟨h condition List.mem_cons_self,
      ih fun other hother => h other (List.mem_cons_of_mem _ hother)⟩

/-- Operands write trusted pieces. -/
theorem trusted_listPieces_operands {values : List Expr}
    (h : ∀ value ∈ values, value.IsOperand) :
    ∀ piece ∈ Expr.listPieces values, piece.IsTrusted := by
  induction values with
  | nil => simp [Expr.listPieces]
  | cons value rest ih =>
    rw [Expr.listPieces, List.forall_mem_append]
    exact ⟨(h value List.mem_cons_self).trusted,
      ih fun other hother => h other (List.mem_cons_of_mem _ hother)⟩

/-- The only trusted text of a filter is the column of a test for related rows. -/
theorem IsFilter.trusted {condition : Condition} (h : condition.IsFilter) :
    ∀ piece ∈ condition.pieces, piece.IsTrusted := by
  induction h with
  | and _ ih | or _ ih =>
    rw [pieces]
    exact trusted_listPieces ih
  | not _ ih =>
    rw [pieces]
    exact ih
  | compare first second | startsWith first second | containsText first second =>
    rw [pieces, List.forall_mem_append]
    exact ⟨first.trusted, second.trusted⟩
  | nullCheck tested =>
    rw [pieces]
    exact tested.trusted
  | @inList _ values tested members =>
    cases values with
    | nil => simp [pieces]
    | cons value values =>
      rw [pieces, ← Expr.listPieces, List.forall_mem_append]
      exact ⟨tested.trusted, trusted_listPieces_operands members⟩
  | between tested lower upper =>
    rw [pieces, List.forall_mem_append, List.forall_mem_append]
    exact ⟨⟨tested.trusted, lower.trusted⟩, upper.trusted⟩
  | hasKey =>
    rw [pieces, List.forall_mem_append, List.forall_mem_singleton]
    exact ⟨ColumnRef.trusted_pieces _, trivial⟩
  | @«exists» table label condition negated _ ih =>
    have hpieces : (Condition.exists ((Select.ofColumns [.plain (.raw "1")]
        (.aliased table label)).restrict condition) negated).pieces =
          .raw "1" :: .name table :: .name label :: condition.pieces ++ [] := rfl
    rw [hpieces, List.append_nil, List.forall_mem_cons, List.forall_mem_cons,
      List.forall_mem_cons]
    exact ⟨by simp [Piece.IsTrusted, trustedTexts], trivial, trivial, ih⟩

/-! ## Main result -/

variable {condition : Condition} {style : PlaceholderStyle} {compiled : CompiledQuery}

/-- The text of a condition is read back with its truth value. -/
theorem IsFilter.exists_reading (filter : condition.IsFilter)
    (built : (Tree.condition condition).build style = .ok compiled) :
    ∃ reading, Reading.of? style compiled = some reading ∧
      ∀ assign, reading.truth assign = condition.truthUnder assign := by
  obtain ⟨tokens, htokens, hnodes⟩ := nodes?_of_build built filter.trusted
  have hconjuncts : condition.tokens = .ok tokens := htokens
  simp only [Condition.tokens, bind_eq_ok_iff, pure_eq_ok_iff] at hconjuncts
  obtain ⟨parts, hparts, rfl⟩ := hconjuncts
  obtain ⟨nodes, hreads, htruth⟩ := (filter.readsAs hparts).conjunction
  refine ⟨Reading.ofNodes nodes, ?_, htruth⟩
  rw [Reading.of?, hnodes, Token.nodes?_of_reads hreads]
  rfl

/-- The text of a condition of filters and joins is read back, with the precedence of SQL and its
placeholders standing for the bound parameters, as a tree that has the truth value of the condition
under every assignment to the leaves.  Conditions with the same text and parameters are
equivalent. -/
theorem IsFilter.reading_of_build (filter : condition.IsFilter)
    (built : (Tree.condition condition).build style = .ok compiled) :
    ∃ reading, Reading.of? style compiled = some reading ∧
      (∀ assign, reading.truth assign = condition.truthUnder assign) ∧
      ∀ other : Condition, other.IsFilter →
        (Tree.condition other).build style = .ok compiled →
          ∀ assign, other.truthUnder assign = condition.truthUnder assign := by
  obtain ⟨reading, hread, htruth⟩ := filter.exists_reading built
  refine ⟨reading, hread, htruth, fun other hother otherBuilt assign => ?_⟩
  obtain ⟨otherReading, hotherRead, hotherTruth⟩ := hother.exists_reading otherBuilt
  have hsame : otherReading = reading := by
    rw [hread, Option.some.injEq] at hotherRead
    exact hotherRead.symm
  rw [← hotherTruth, hsame, htruth]

/-- A condition with empty groups, a nested conjunction, the bounds of BETWEEN and negations. -/
def mixedGroups : Condition :=
  .and [
    .or [
      .nullCheck (.columnText ⟨none, "details", ["votes"]⟩) false,
      .and [
        .between (.column (.plain "year")) (.parameter (.plain (.bool false)))
          (.parameter (.plain (.bool true))),
        .equal (.column (.plain "id")) .null],
      .or []],
    .and [],
    .not (.and [
      .inList (.column (.plain "id")) [],
      .exists
        ((Select.ofColumns [.plain (.raw "1")] (.aliased "author" "F0")).restrict
          (.not (.equal (.column (.qualified "F0" "id")) (.column (.qualified "book" "author")))))
        true])]

/-- The text of the condition. -/
def mixedGroupsText : String :=
  "((\"details\"->>'votes' IS NOT NULL) OR (\"year\" BETWEEN $1 AND $2 AND \"id\" = null)" ++
    " OR (FALSE)) AND NOT (FALSE AND NOT EXISTS (SELECT 1 FROM \"author\" AS \"F0\" WHERE " ++
    "NOT (\"F0\".\"id\" = \"book\".\"author\")))"

/-- The condition is one that a filter can be compiled to. -/
theorem isFilter_mixedGroups : mixedGroups.IsFilter := by
  have hjoin : (Condition.equal (.column (.qualified "F0" "id"))
      (.column (.qualified "book" "author"))).IsFilter := .compare .column .column
  have hrange : (Condition.between (.column (.plain "year")) (.parameter (.plain (.bool false)))
      (.parameter (.plain (.bool true)))).IsFilter := .between .column .parameter .parameter
  have hid : (Condition.equal (.column (.plain "id")) .null).IsFilter := .compare .column .null
  refine .and (List.forall_mem_cons.2 ⟨.or ?_, List.forall_mem_cons.2 ⟨.and (by simp),
    List.forall_mem_singleton.2 (.not (.and ?_))⟩⟩)
  · exact List.forall_mem_cons.2 ⟨.nullCheck .columnText, List.forall_mem_cons.2
      ⟨.and (List.forall_mem_cons.2 ⟨hrange, List.forall_mem_singleton.2 hid⟩),
        List.forall_mem_singleton.2 (.or (by simp))⟩⟩
  · exact List.forall_mem_cons.2 ⟨.inList .column (by simp),
      List.forall_mem_singleton.2 (.exists (.not hjoin))⟩

theorem reading_of_build_mixedGroups :
    ∃ compiled reading, compiled.sql = mixedGroupsText ∧
      (Tree.condition mixedGroups).build .dollar = .ok compiled ∧
      Reading.of? .dollar compiled = some reading ∧
      ∀ assign, reading.truth assign = mixedGroups.truthUnder assign := by
  have built : (Tree.condition mixedGroups).build .dollar =
      .ok ⟨mixedGroupsText, [.plain (.bool false), .plain (.bool true)]⟩ := by
    decide +kernel
  obtain ⟨reading, hread, htruth, -⟩ := isFilter_mixedGroups.reading_of_build built
  exact ⟨_, reading, rfl, built, hread, htruth⟩

end Condition

end RelationalQuery.Sql
