import RelationalQuery.Proofs.Sql.Rendered
import RelationalQuery.Proofs.Sql.WellScoped

/-!
# References to earlier statements

A written value may refer to columns of earlier statements of a chain.  The statement that writes it
then reads the rows of those statements, and names them in a clause of its own.

Main definitions:

- `Reference` is a column of an earlier statement.
- `Expr.Writes` says that an expression writes a reference outside of its subqueries, and whether it
  stands in the order of an aggregate there.
- `Statement.written?` are the statements that a new row or an update names, and the values that it
  writes.
- `Statement.ReadsFrom` says which earlier statements the text of a new row or an update reads from.

Main results:

- `Expr.mem_sources_iff`: the sources of an expression are those of the references that it writes
  outside of orders.
- `Expr.Writes.exists_tokens`: what an expression writes stands in its text.
- `Statement.references_listed`: the statements that written values refer to outside of orders are
  read from, each once, and no other ones.
-/

namespace RelationalQuery.Sql

/-! ## References -/

/-- A column of an earlier statement. -/
structure Reference where
  source : String
  column : String
deriving DecidableEq

/-- The tokens of a reference. -/
def Reference.tokens (reference : Reference) : Rendered :=
  qualifiedTokens (some reference.source) reference.column

/-- Where a reference stands in an expression. -/
inductive ReferencePlace where
  /-- In the order of an aggregate. -/
  | order
  /-- Outside of all orders. -/
  | value
deriving DecidableEq

/-- An expression writes a reference outside of its subqueries. -/
inductive Expr.Writes (reference : Reference) : ReferencePlace → Expr → Prop
  | reference : Writes reference .value (.reference reference.source reference.column)
  | cast {place : ReferencePlace} {value : Expr} {type : String}
      (inner : Writes reference place value) : Writes reference place (.cast value type)
  | object {place : ReferencePlace} {entries : List (String × Expr)} {entry : String × Expr}
      (mem : entry ∈ entries) (inner : Writes reference place entry.2) :
      Writes reference place (.object entries)
  | merge {place : ReferencePlace} {target : ColumnRef} {entries : List (String × Expr)}
      {entry : String × Expr} (mem : entry ∈ entries) (inner : Writes reference place entry.2) :
      Writes reference place (.merge target entries)
  | aggregate {place : ReferencePlace} {value : Expr} {order : List OrderTerm}
      (inner : Writes reference place value) : Writes reference place (.aggregate value order)
  | order {place : ReferencePlace} {value : Expr} {order : List OrderTerm} {term : OrderTerm}
      (mem : term ∈ order) (inner : Writes reference place term.expr) :
      Writes reference .order (.aggregate value order)

/-! ## Sources of expressions -/

/-- Entries refer to what their values refer to. -/
theorem Expr.mem_entrySources {entries : List (String × Expr)} {source : String} :
    source ∈ Expr.entrySources entries ↔ ∃ entry ∈ entries, source ∈ entry.2.sources := by
  induction entries with
  | nil => simp [Expr.entrySources]
  | cons entry rest ih => simp [Expr.entrySources, ih]

/-- A record refers to what its values refer to. -/
theorem Record.mem_sources {record : Record} {source : String} :
    source ∈ record.sources ↔ ∃ entry ∈ record.entries, source ∈ entry.2.sources := by
  rw [sources, List.mem_eraseDups, Expr.mem_entrySources]

mutual

/-- A source of an expression is that of a reference outside of orders. -/
theorem Expr.exists_writes_of_mem_sources : ∀ {expr : Expr} {source : String},
    source ∈ expr.sources → ∃ column, expr.Writes ⟨source, column⟩ .value
  | .reference source name, _, h => by
    rw [Expr.sources, List.mem_singleton] at h
    rw [h]
    exact ⟨name, .reference⟩
  | .cast value type, _, h => by
    rw [Expr.sources] at h
    obtain ⟨column, hwrites⟩ := Expr.exists_writes_of_mem_sources h
    exact ⟨column, .cast hwrites⟩
  | .object entries, _, h => by
    rw [Expr.sources] at h
    obtain ⟨entry, hentry, column, hwrites⟩ := Expr.exists_writes_of_mem_entrySources h
    exact ⟨column, .object hentry hwrites⟩
  | .merge target entries, _, h => by
    rw [Expr.sources] at h
    obtain ⟨entry, hentry, column, hwrites⟩ := Expr.exists_writes_of_mem_entrySources h
    exact ⟨column, .merge hentry hwrites⟩
  | .aggregate value order, _, h => by
    rw [Expr.sources] at h
    obtain ⟨column, hwrites⟩ := Expr.exists_writes_of_mem_sources h
    exact ⟨column, .aggregate hwrites⟩
  | .null, _, h | .parameter _, _, h | .column _, _, h | .columnText _, _, h
  | .operation _ _ _ _, _, h | .subquery _, _, h | .raw _, _, h => by
    simp [Expr.sources] at h

/-- A source of entries is that of a reference in one of their values. -/
theorem Expr.exists_writes_of_mem_entrySources :
    ∀ {entries : List (String × Expr)} {source : String}, source ∈ Expr.entrySources entries →
      ∃ entry ∈ entries, ∃ column, entry.2.Writes ⟨source, column⟩ .value
  | [], _, h => by simp [Expr.entrySources] at h
  | (key, value) :: rest, _, h => by
    rw [Expr.entrySources, List.mem_append] at h
    rcases h with h | h
    · obtain ⟨column, hwrites⟩ := Expr.exists_writes_of_mem_sources h
      exact ⟨(key, value), List.mem_cons_self, column, hwrites⟩
    · obtain ⟨entry, hentry, hwrites⟩ := Expr.exists_writes_of_mem_entrySources h
      exact ⟨entry, List.mem_cons_of_mem _ hentry, hwrites⟩

end

/-- A reference outside of orders is one to a source of the expression. -/
theorem Expr.Writes.mem_sources {expr : Expr} {reference : Reference}
    (h : expr.Writes reference .value) : reference.source ∈ expr.sources := by
  generalize hplace : ReferencePlace.value = place at h
  induction h with
  | reference => simp [Expr.sources]
  | cast _ ih | aggregate _ ih => exact ih hplace
  | object hentry _ ih | merge hentry _ ih =>
    exact Expr.mem_entrySources.2 ⟨_, hentry, ih hplace⟩
  | order => cases hplace

/-- The sources of an expression are those of its references outside of orders. -/
theorem Expr.mem_sources_iff {expr : Expr} {source : String} :
    source ∈ expr.sources ↔ ∃ column, expr.Writes ⟨source, column⟩ .value :=
  ⟨Expr.exists_writes_of_mem_sources, fun ⟨_, h⟩ => h.mem_sources⟩

/-! ## References in texts -/

/-- Each part stands between its separators. -/
theorem Token.infix_separated {separator : String} {parts : List (List Token)}
    {part : List Token} (h : part ∈ parts) : part <:+: Token.separated separator parts := by
  unfold Token.separated
  induction parts with
  | nil => simp at h
  | cons first rest ih =>
    cases rest with
    | nil =>
      rw [List.mem_singleton.1 h]
      simp
    | cons next rest =>
      rw [List.intercalate_cons_cons]
      rcases List.mem_cons.1 h with rfl | h
      · exact ((List.prefix_append _ _).trans (List.prefix_append _ _)).isInfix
      · exact (ih h).trans (List.suffix_append _ _).isInfix

/-- A part of a clause stands in it. -/
theorem Token.infix_clause {keyword : String} {parts : List (List Token)} {part : List Token}
    (h : part ∈ parts) : part <:+: Token.clause keyword parts := by
  rw [Token.clause, if_neg (by simpa using List.ne_nil_of_mem h)]
  exact (Token.infix_separated h).trans (List.suffix_cons _ _).isInfix

/-- The value of an entry stands in a part of the object. -/
theorem Expr.exists_of_mem_entries {entries : List (String × Expr)} {parts : List (List Token)}
    (h : Expr.entryTokens entries = .ok parts) {entry : String × Expr} (mem : entry ∈ entries) :
    ∃ tokens, entry.2.tokens = .ok tokens ∧ ∃ part ∈ parts, tokens <:+: part := by
  induction entries generalizing parts with
  | nil => simp at mem
  | cons first rest ih =>
    obtain ⟨key, value⟩ := first
    simp only [Expr.entryTokens, bind_eq_ok_iff, pure_eq_ok_iff] at h
    obtain ⟨tokens, hvalue, others, hothers, rfl⟩ := h
    rcases List.mem_cons.1 mem with rfl | mem
    · refine ⟨tokens, hvalue, _, List.mem_cons_self, ?_⟩
      exact (List.suffix_append [.literal key, .fixed ", "] tokens).isInfix
    · obtain ⟨inner, hinner, part, hpart, hinfix⟩ := ih hothers mem
      exact ⟨inner, hinner, part, List.mem_cons_of_mem _ hpart, hinfix⟩

/-- The expression of a term stands in a part of the order. -/
theorem OrderTerm.exists_of_mem {order : List OrderTerm} {parts : List (List Token)}
    (h : OrderTerm.listTokens order = .ok parts) {term : OrderTerm} (mem : term ∈ order) :
    ∃ tokens, term.expr.tokens = .ok tokens ∧ ∃ part ∈ parts, tokens <:+: part := by
  induction order generalizing parts with
  | nil => simp at mem
  | cons first rest ih =>
    obtain ⟨expr, direction⟩ := first
    simp only [OrderTerm.listTokens, bind_eq_ok_iff, pure_eq_ok_iff] at h
    obtain ⟨tokens, hexpr, others, hothers, rfl⟩ := h
    rcases List.mem_cons.1 mem with rfl | mem
    · exact ⟨tokens, hexpr, _, List.mem_cons_self, (List.prefix_append _ _).isInfix⟩
    · obtain ⟨inner, hinner, part, hpart, hinfix⟩ := ih hothers mem
      exact ⟨inner, hinner, part, List.mem_cons_of_mem _ hpart, hinfix⟩

/-- A reference that an expression writes stands in its text. -/
theorem Expr.Writes.exists_tokens {expr : Expr} {reference : Reference} {place : ReferencePlace}
    (h : expr.Writes reference place) {tokens : List Token} (rendered : expr.tokens = .ok tokens) :
    ∃ part, reference.tokens = .ok part ∧ part <:+: tokens := by
  induction h generalizing tokens with
  | reference => exact ⟨tokens, rendered, List.infix_refl _⟩
  | cast _ ih =>
    simp only [Expr.tokens, bind_eq_ok_iff, pure_eq_ok_iff] at rendered
    obtain ⟨inner, hinner, rfl⟩ := rendered
    obtain ⟨part, hpart, hinfix⟩ := ih hinner
    exact ⟨part, hpart, hinfix.trans (List.infix_append [_] inner [_])⟩
  | object hentry _ ih =>
    simp only [Expr.tokens, bind_eq_ok_iff, pure_eq_ok_iff] at rendered
    obtain ⟨parts, hparts, rfl⟩ := rendered
    obtain ⟨inner, hinner, entry, hmem, hinside⟩ := Expr.exists_of_mem_entries hparts hentry
    obtain ⟨part, hpart, hinfix⟩ := ih hinner
    exact ⟨part, hpart, hinfix.trans (hinside.trans ((Token.infix_separated hmem).trans
      (List.infix_append [_] _ [_])))⟩
  | merge hentry _ ih =>
    simp only [Expr.tokens, bind_eq_ok_iff, pure_eq_ok_iff] at rendered
    obtain ⟨front, hfront, parts, hparts, rfl⟩ := rendered
    obtain ⟨inner, hinner, entry, hmem, hinside⟩ := Expr.exists_of_mem_entries hparts hentry
    obtain ⟨part, hpart, hinfix⟩ := ih hinner
    exact ⟨part, hpart, hinfix.trans (hinside.trans ((Token.infix_separated hmem).trans
      (List.infix_append _ _ [_])))⟩
  | aggregate _ ih =>
    simp only [Expr.tokens, bind_eq_ok_iff, pure_eq_ok_iff] at rendered
    obtain ⟨inner, hinner, order, horder, rfl⟩ := rendered
    obtain ⟨part, hpart, hinfix⟩ := ih hinner
    refine ⟨part, hpart, hinfix.trans ?_⟩
    exact ((List.suffix_cons _ inner).isInfix.trans (List.prefix_append _ _).isInfix).trans
      (List.prefix_append _ _).isInfix
  | order hterm _ ih =>
    simp only [Expr.tokens, bind_eq_ok_iff, pure_eq_ok_iff] at rendered
    obtain ⟨value, hvalue, parts, hparts, rfl⟩ := rendered
    obtain ⟨inner, hinner, entry, hmem, hinside⟩ := OrderTerm.exists_of_mem hparts hterm
    obtain ⟨part, hpart, hinfix⟩ := ih hinner
    exact ⟨part, hpart, hinfix.trans (hinside.trans ((Token.infix_clause hmem).trans
      (List.infix_append (_ :: value) _ _)))⟩

/-! ## Statements -/

/-- The earlier statements that a new row or an update names, and the values that it writes. -/
def Statement.written? : Statement → Option (List String × List Expr)
  | .insert s => s.record?.map fun record => ([], record.entries.map (·.2))
  | .update s => some (s.sources, s.assignments.map (·.value))
  | .select _ | .delete _ => none

/-- A part of a text ends with a value; the clause of earlier statements is not in front of it. -/
def Token.WritesValue (part : List Token) (value : Expr) : Prop :=
  ∃ lead text, part = lead ++ text ∧ value.tokens = .ok text ∧ .fixed " FROM " ∉ lead

/-- A text writes values, and behind them the clause of the earlier statements that it reads from.
Without such statements there is no clause. -/
def Token.WritesFrom (tokens : List Token) (values : List Expr) (listed : List String) : Prop :=
  ∃ front separator parts names back,
    tokens = front ++ Token.separated separator parts ++
      (if listed = [] then [] else .fixed " FROM " :: Token.separated ", " names) ++ back ∧
    List.Forall₂ Token.WritesValue parts values ∧ separator ∈ [",", ", "] ∧
    listed.mapM nameTokens = .ok names ∧
    .fixed " FROM " ∉ front ∧ back.head? ≠ some (.fixed " FROM ")

section

variable {listed : List String} {tokens : List Token}

/-- The clause of earlier statements is there exactly if it lists some. -/
theorem exists_of_sourcesTokens (h : sourcesTokens listed = .ok tokens) :
    ∃ names, listed.mapM nameTokens = .ok names ∧
      tokens = if listed = [] then [] else .fixed " FROM " :: Token.separated ", " names := by
  simp only [sourcesTokens, bind_eq_ok_iff, pure_eq_ok_iff] at h
  obtain ⟨names, hnames, rfl⟩ := h
  refine ⟨names, hnames, ?_⟩
  have hlength := (forall₂_of_mapM_eq_ok hnames).length_eq
  cases listed with
  | nil => simp [Token.clause, List.length_eq_zero_iff.1 hlength.symm]
  | cons => cases names with
    | nil => simp at hlength
    | cons => simp [Token.clause]

/-- A name holds no fixed text. -/
theorem fixed_not_mem_nameTokens {name text : String} (h : nameTokens name = .ok tokens) :
    .fixed text ∉ tokens := by
  simp only [nameTokens, bind_eq_ok_iff, pure_eq_ok_iff] at h
  obtain ⟨identifier, -, rfl⟩ := h
  simp

/-- Names hold no fixed text but what separates them. -/
theorem fixed_not_mem_namesTokens {separator text : String} {names : List String}
    (h : namesTokens separator names = .ok tokens) (other : text ≠ separator) :
    .fixed text ∉ tokens := by
  simp only [namesTokens, bind_eq_ok_iff, pure_eq_ok_iff] at h
  obtain ⟨parts, hparts, rfl⟩ := h
  have hfree : ∀ part ∈ parts, Token.fixed text ∉ part := by
    intro part hpart
    obtain ⟨name, -, hname⟩ := exists_mem_of_forall₂ (forall₂_of_mapM_eq_ok hparts) hpart
    exact fixed_not_mem_nameTokens hname
  unfold Token.separated
  clear hparts
  induction parts with
  | nil => simp
  | cons part rest ih =>
    rw [List.forall_mem_cons] at hfree
    cases rest with
    | nil => simpa using hfree.1
    | cons next rest => simp [List.intercalate_cons_cons, hfree.1, other, ih hfree.2]

end

/-- Text around what is written keeps the clause in its place, if no other one stands there. -/
theorem Token.WritesFrom.enclosed {tokens : List Token} {values : List Expr} {listed : List String}
    (h : Token.WritesFrom tokens values listed) {front back : List Token}
    (frontFree : .fixed " FROM " ∉ front) (backFree : back.head? ≠ some (.fixed " FROM ")) :
    Token.WritesFrom (front ++ tokens ++ back) values listed := by
  obtain ⟨before, separator, parts, names, behind, rfl, hparts, hseparator, hnames, hbefore,
    hbehind⟩ := h
  refine ⟨front ++ before, separator, parts, names, behind ++ back, ?_, hparts, hseparator, hnames,
    ?_, ?_⟩
  · simp only [List.append_assoc]
  · simp [frontFree, hbefore]
  · cases behind with
    | nil => exact backFree
    | cons => exact hbehind

/-- A clause starts with its keyword. -/
theorem head?_clause_ne {keyword text : String} {parts : List (List Token)}
    (other : keyword ≠ text) : (Token.clause keyword parts).head? ≠ some (.fixed text) := by
  unfold Token.clause
  split <;> simp [other]

/-- The members of a list write their values. -/
theorem Expr.writesValue_of_listTokens {exprs : List Expr} {parts : List (List Token)}
    (h : Expr.listTokens exprs = .ok parts) : List.Forall₂ Token.WritesValue parts exprs := by
  induction exprs generalizing parts with
  | nil =>
    rw [Expr.listTokens, Except.ok.injEq] at h
    rw [← h]
    exact .nil
  | cons expr rest ih =>
    simp only [Expr.listTokens, bind_eq_ok_iff, pure_eq_ok_iff] at h
    obtain ⟨text, htext, others, hothers, rfl⟩ := h
    exact .cons ⟨[], text, rfl, htext, by simp⟩ (ih hothers)

/-- A new row is written with its values, and reads from their sources. -/
theorem Record.writesFrom {record : Record} {tokens : List Token} (h : record.tokens = .ok tokens) :
    Token.WritesFrom tokens (record.entries.map (·.2)) record.sources := by
  rcases Record.tokens_cases h with
    ⟨hempty, rfl⟩ | ⟨columns, values, rows, hcolumns, hvalues, rfl, hrows⟩
  · obtain ⟨entries⟩ := record
    obtain rfl : entries = [] := hempty
    refine ⟨[.fixed " DEFAULT VALUES"], ",", [], [], [], ?_, .nil, by decide, rfl, by simp, by simp⟩
    simp [Record.sources, Expr.entrySources, Token.separated]
  · have hfree : Token.fixed " FROM " ∉ columns := fixed_not_mem_namesTokens hcolumns (by decide)
    have hparts := Expr.writesValue_of_listTokens hvalues
    rcases hrows with ⟨hsources, rfl⟩ | ⟨sources, hsources, rfl⟩
    · rw [hsources]
      refine ⟨.fixed " (" :: columns ++ [.fixed ")", .fixed " VALUES ("], ",", values, [],
        [.fixed ")"], ?_, hparts, by decide, rfl, ?_, by simp⟩
      · simp
      · simp [hfree]
    · obtain ⟨names, hnames, rfl⟩ := exists_of_sourcesTokens hsources
      refine ⟨.fixed " (" :: columns ++ [.fixed ")", .fixed " SELECT "], ", ", values, names, [],
        ?_, hparts, by decide, hnames, ?_, by simp⟩
      · simp
      · simp [hfree]

/-- An insert writes the values of its record behind the sources of these. -/
theorem Insert.writesFrom {insert : Insert} {record : Record} {tokens : List Token}
    (given : insert.record? = some record) (h : insert.tokens = .ok tokens) :
    Token.WritesFrom tokens (record.entries.map (·.2)) record.sources := by
  obtain ⟨table, other, name, row, columns, -, hother, hname, hrow, hcolumns, rfl⟩ :=
    Insert.tokens_eq_ok h
  obtain rfl : other = record := Option.some.inj (hother.symm.trans given)
  simp only [returningTokens, bind_eq_ok_iff, pure_eq_ok_iff] at hcolumns
  obtain ⟨items, -, rfl⟩ := hcolumns
  have hfree : Token.fixed " FROM " ∉ name := fixed_not_mem_nameTokens hname
  refine (Record.writesFrom hrow).enclosed ?_ (head?_clause_ne (by decide))
  simp [hfree]

/-- A column holds no clause of rows. -/
theorem fixed_not_mem_columnTokens {column : ColumnRef} {tokens : List Token}
    (h : column.tokens = .ok tokens) : .fixed " FROM " ∉ tokens := by
  obtain ⟨qualifier?, name, path⟩ := column
  simp only [ColumnRef.tokens, bind_eq_ok_iff, pure_eq_ok_iff] at h
  obtain ⟨front, hfront, rfl⟩ := h
  have hfree : Token.fixed " FROM " ∉ front := by
    cases qualifier? with
    | none => exact fixed_not_mem_nameTokens hfront
    | some qualifier =>
      simp only [qualifiedTokens, bind_eq_ok_iff, pure_eq_ok_iff] at hfront
      obtain ⟨first, hfirst, second, hsecond, rfl⟩ := hfront
      simp [fixed_not_mem_nameTokens hfirst, fixed_not_mem_nameTokens hsecond]
  simp [hfree]

/-- An assignment writes its value. -/
theorem Assignment.writesValue_of_tokens {assignment : Assignment} {tokens : List Token}
    (h : assignment.tokens = .ok tokens) : Token.WritesValue tokens assignment.value := by
  obtain ⟨target, text, htarget, htext, rfl⟩ := Assignment.tokens_eq_ok h
  refine ⟨target ++ [.fixed " = "], text, by simp, htext, ?_⟩
  simp [fixed_not_mem_columnTokens htarget]

/-- An update is written with its values, and reads from the statements that it names and from the
sources of the values. -/
theorem Update.writesFrom {update : Update} {tokens : List Token} (h : update.tokens = .ok tokens) :
    Token.WritesFrom tokens (update.assignments.map (·.value)) update.allSources := by
  obtain ⟨table, name, parts, _, condition, _, -, hname, hparts, hsources, hcondition, hcolumns,
    rfl⟩ := Update.tokens_eq_ok h
  simp only [returningTokens, bind_eq_ok_iff, pure_eq_ok_iff] at hcolumns
  obtain ⟨columns, -, rfl⟩ := hcolumns
  have hfree : Token.fixed " FROM " ∉ name := fixed_not_mem_nameTokens hname
  obtain ⟨names, hnames, rfl⟩ := exists_of_sourcesTokens hsources
  refine ⟨.fixed "UPDATE ONLY " :: name ++ [.fixed " SET "],
    ", ", parts, names, condition ++ Token.clause " RETURNING " columns, ?_, ?_, by decide,
    hnames, ?_, ?_⟩
  · simp
  · rw [List.forall₂_map_right_iff]
    exact (forall₂_of_mapM_eq_ok hparts).flip.imp fun _ _ => Assignment.writesValue_of_tokens
  · simp [hfree]
  · rcases hwhere : update.where? with _ | where'
    · rw [hwhere, Condition.clauseTokens, Except.ok.injEq] at hcondition
      rw [← hcondition]
      exact head?_clause_ne (by decide)
    · rw [hwhere] at hcondition
      simp only [Condition.clauseTokens, bind_eq_ok_iff, pure_eq_ok_iff] at hcondition
      obtain ⟨conjuncts, -, rfl⟩ := hcondition
      simp

/-! ## Statements that are read from -/

/-- A statement that writes values reads from the earlier statements that it names and from those
that its values refer to outside of orders, each listed once, and from no others.  Every reference
stands in the text of its value. -/
theorem Statement.references_listed {statement : Statement} {named : List String}
    {values : List Expr} {tokens : List Token}
    (writes : statement.written? = some (named, values))
    (rendered : statement.tokens = .ok tokens) :
    ∃ listed, Token.WritesFrom tokens values listed ∧ listed.Nodup ∧
      (∀ source, source ∈ listed ↔ source ∈ named ∨
        ∃ value ∈ values, ∃ column, value.Writes ⟨source, column⟩ .value) ∧
      ∀ value ∈ values, ∀ reference place, value.Writes reference place →
        (∃ part text, reference.tokens = .ok part ∧ value.tokens = .ok text ∧ part <:+: text) ∧
        (place = .value → reference.source ∈ listed) := by
  have hlisted : ∃ listed, Token.WritesFrom tokens values listed ∧ listed.Nodup ∧
      ∀ source, source ∈ listed ↔ source ∈ named ∨ ∃ value ∈ values, source ∈ value.sources := by
    cases statement with
    | select | delete => simp [Statement.written?] at writes
    | insert insert =>
      obtain ⟨record, hrecord, hwritten⟩ := Option.map_eq_some_iff.1 writes
      obtain ⟨rfl, rfl⟩ := Prod.mk.inj hwritten
      refine ⟨record.sources, Insert.writesFrom hrecord rendered, nodup_eraseDups _, ?_⟩
      intro source
      rw [Record.mem_sources]
      simp only [List.not_mem_nil, false_or]
      constructor
      · rintro ⟨entry, hentry, hsource⟩
        exact ⟨_, List.mem_map_of_mem hentry, hsource⟩
      · rintro ⟨_, hvalue, hsource⟩
        obtain ⟨entry, hentry, rfl⟩ := List.mem_map.1 hvalue
        exact ⟨entry, hentry, hsource⟩
    | update update =>
      obtain ⟨rfl, rfl⟩ := Prod.mk.inj (Option.some.inj writes)
      refine ⟨update.allSources, Update.writesFrom rendered, nodup_eraseDups _, ?_⟩
      intro source
      simp [Update.allSources, Assignment.sources, List.mem_eraseDups]
  obtain ⟨listed, hwrites, hnodup, hmem⟩ := hlisted
  simp only [Expr.mem_sources_iff] at hmem
  refine ⟨listed, hwrites, hnodup, hmem, ?_⟩
  intro value hvalue reference place hreference
  obtain ⟨front, separator, parts, names, back, -, hparts, -⟩ := hwrites
  obtain ⟨_, -, lead, text, -, htext, -⟩ := exists_mem_of_forall₂ hparts hvalue
  obtain ⟨part, hpart, hinfix⟩ := hreference.exists_tokens htext
  refine ⟨⟨part, text, hpart, htext, hinfix⟩, ?_⟩
  rintro rfl
  exact (hmem reference.source).2 (.inr ⟨value, hvalue, reference.column, hreference⟩)

/-- An update of books that names the statement R1 and refers to the statement R0. -/
def linkedUpdate : Statement :=
  .update ⟨some "book",
    [.column "author" (.reference "R0" "id"),
      .column "details" (.object [("writer", .cast (.reference "R0" "name") "text")])],
    ["R1"], none, []⟩

/-- An update reads from the statements that its values refer to. -/
theorem references_listed_update :
    ∃ named values tokens, linkedUpdate.written? = some (named, values) ∧
      linkedUpdate.tokens = .ok tokens ∧
      ∃ listed, Token.WritesFrom tokens values listed ∧ listed.Nodup ∧ "R1" ∈ listed ∧
        "R0" ∈ listed := by
  refine ⟨_, _, _, rfl, rfl, ?_⟩
  obtain ⟨listed, hwrites, hnodup, hmem, -⟩ := Statement.references_listed rfl
    (show linkedUpdate.tokens = .ok _ from rfl)
  exact ⟨listed, hwrites, hnodup, (hmem "R1").2 (by simp),
    (hmem "R0").2 (.inr ⟨_, List.mem_cons_self, "id", .reference⟩)⟩

/-- The number one for each row, in the order of a column of the statement R0. -/
def orderedValue : Expr :=
  .aggregate (.parameter (.plain (Json.ofUInt64 1))) [⟨.reference "R0" "id", .ascending⟩]

/-- The statement that only an order refers to is not read from. -/
theorem order_reference_not_listed :
    orderedValue.Writes ⟨"R0", "id"⟩ .order ∧
      ∃ tokens, (Statement.insert ⟨some "book", some ⟨[("details", orderedValue)]⟩, []⟩).tokens =
          .ok tokens ∧
        Token.fixed " FROM " ∉ tokens :=
  ⟨.order List.mem_cons_self .reference, _, rfl, by decide⟩

end RelationalQuery.Sql
