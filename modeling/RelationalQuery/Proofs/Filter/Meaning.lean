import RelationalQuery.Proofs.Filter.WellScoped
import RelationalQuery.Proofs.Sql.Evaluation

/-!
# The meaning of filters

A filter says something of a row and of the rows that are related to it.  This meaning is read off
the filter without any statement in between, and the compiled condition has the same truth value.

A filter that cannot be compiled means nothing of interest; what the definitions say of it is
arbitrary.

Main definitions:

- `Database.relatedRows` are the rows that a relation joins to a row.
- `FilterOperator.meaning`, `predicateMeaning` and `membersMeaning` are the meanings of operators,
  of the entries of columns, and of filters.

Main results:

- `predicates_meaning`: the conditions of a column mean its entry.
- `FilterContext.Derives.meaning`: the conditions of a derivation mean its part of the filter.
- `FilterContext.condition_meaning`: a compiled filter means what the filter says.
-/

namespace RelationalQuery

open Sql (ColumnRef Condition Database Expr FromItem Interpretation Row Scope Select Truth)

variable {V : Type}

/-! ## Rows and their relations -/

/-- The value of a column in a row. -/
def Sql.Row.value (I : Interpretation V) (row : Row V) (column : String) : V :=
  (List.lookup column row).getD I.null

/-- The rows of a table of a database. -/
def Sql.Database.rowsOf (db : Database V) (table : String) : List (Row V) := (db table).getD []

/-- A row has a value for every column of a table. -/
def Sql.Row.Fits (row : Row V) (table : Table) : Prop :=
  ∀ column, table.schema.contains column = true → (List.lookup column row).isSome = true

/-- A database has the tables of a repository with all of their columns. -/
def Sql.Database.Conforms (db : Database V) (repository : Repository) : Prop :=
  ∀ name table, repository.table? name = some table →
    ∃ rows, db name = some rows ∧ ∀ row ∈ rows, Row.Fits row table

/-- The rows whose source column equals the target column of a row. -/
def Sql.Database.relatedRows (db : Database V) (I : Interpretation V) (relation : Relation)
    (row : Row V) : List (Row V) :=
  (db.rowsOf relation.relatedTable).filter fun related =>
    I.compare .equal (Row.value I related relation.sourceColumn)
      (Row.value I row relation.targetColumn) = .yes

/-! ## Meanings of entries of columns -/

/-- The value of an operand for a column, or for a key inside one. -/
def operandMeaning (I : Interpretation V) (value : Json) (field? : Option Field)
    (path : List String) : V :=
  if value.isNull then I.null
  else if path.isEmpty then
    match Parameter.ofValue value field? with
    | .ok parameter => I.parameter parameter
    | .error _ => I.null
  else I.parameter (.json value)

/-- The value of a column, or the text at a path inside one. -/
def textMeaning (I : Interpretation V) (base : V) (path : List String) : V :=
  if path.isEmpty then base else I.text (I.inside path base)

/-- Whether a column is null, or an object inside it does not have a key. -/
def missingMeaning (I : Interpretation V) (base : V) (path : List String) (isMissing : Bool) :
    Truth :=
  match path.getLast? with
  | none => .ofBool (I.isNull base == isMissing)
  | some key =>
    let hasKey := I.hasKey (I.inside path.dropLast base) key
    if isMissing then hasKey.not else hasKey

/-- What an operator says with its operand of the value at a path inside a column. -/
def FilterOperator.meaning (I : Interpretation V) (operator : FilterOperator) (value : Json)
    (field? : Option Field) (base : V) (path : List String) : Truth :=
  let tested := I.inside path base
  let operand (value : Json) : V := operandMeaning I value field? path
  match operator with
  | .equal =>
    if value.isNull then .ofBool (I.isNull tested) else I.compare .equal tested (operand value)
  | .notEqual =>
    if value.isNull then .ofBool (!I.isNull tested) else I.compare .notEqual tested (operand value)
  | .greater => I.compare .greater tested (operand value)
  | .greaterOrEqual => I.compare .greaterOrEqual tested (operand value)
  | .less => I.compare .less tested (operand value)
  | .lessOrEqual => I.compare .lessOrEqual tested (operand value)
  | .isIn =>
    match value with
    | .array [] => .no
    | .array items => I.isIn tested (items.map operand)
    | _ => .unknown
  | .isBetween =>
    match value with
    | .array [low, high] => I.between tested (operand low) (operand high)
    | _ => .unknown
  | .isNull =>
    match value with
    | .bool flag => .ofBool (I.isNull tested == flag)
    | _ => .unknown
  | .isMissing =>
    match value with
    | .bool flag => missingMeaning I base path flag
    | _ => .unknown
  | .startsWith => I.startsWith (textMeaning I base path) (I.parameter (.plain value))
  | .contains =>
    match value with
    | .string _ => I.containsText (textMeaning I base path) (I.parameter (.plain value))
    | _ => I.compare .contains tested (I.parameter (.json value))

mutual

/-- What the entry of a column says of the value at a path inside the column. -/
def predicateMeaning (I : Interpretation V) (field? : Option Field) (base : V)
    (path : List String) : Json → Truth
  | .null => .ofBool (I.isNull (I.inside path base))
  | .object members => predicateMembersMeaning I field? base path members
  | .bool value => I.compare .equal (I.inside path base) (operandMeaning I (.bool value) field? path)
  | .number value =>
    I.compare .equal (I.inside path base) (operandMeaning I (.number value) field? path)
  | .string value =>
    I.compare .equal (I.inside path base) (operandMeaning I (.string value) field? path)
  | .array items =>
    I.compare .equal (I.inside path base) (operandMeaning I (.array items) field? path)

/-- What the members of the entry of a column say together.  A declared key says something of the
value inside it, an operator of the value itself, and any other key is a key inside it. -/
def predicateMembersMeaning (I : Interpretation V) (field? : Option Field) (base : V)
    (path : List String) : List (String × Json) → Truth
  | [] => .yes
  | (key, value) :: rest =>
    let first : Truth :=
      match field?.bind (·.declared? key) with
      | some child => predicateMeaning I (some child) base (path ++ [key]) value
      | none =>
        match operatorNamed? key with
        | some operator => operator.meaning I value field? base path
        | none => predicateMeaning I none base (path ++ [key]) value
    first.and (predicateMembersMeaning I field? base path rest)

end

/-! ## Meanings of filters -/

mutual

/-- What the entries of a filter over a table say together of a row. -/
def membersMeaning (I : Interpretation V) (db : Database V) (repository : Repository)
    (table : Table) (row : Row V) : List (String × Json) → Truth
  | [] => .yes
  | (key, value) :: rest =>
    (entryMeaning I db repository table row key value).and
      (membersMeaning I db repository table row rest)

/-- What an entry of a filter says of a row.  AND and OR join the filters of an array, NOT negates a
filter, the name of a relation says that there is no related row, or that there is one that fulfils
a filter, and any other key is a column. -/
def entryMeaning (I : Interpretation V) (db : Database V) (repository : Repository) (table : Table)
    (row : Row V) (key : String) (value : Json) : Truth :=
  if key = "AND" then
    match value with
    | .array items => Truth.all (itemsMeaning I db repository table row items)
    | .object members => membersMeaning I db repository table row members
    | _ => .unknown
  else if key = "OR" then
    match value with
    | .array items => Truth.any (itemsMeaning I db repository table row items)
    | .object members => membersMeaning I db repository table row members
    | _ => .unknown
  else if key = "NOT" then
    match value with
    | .object members => (membersMeaning I db repository table row members).not
    | _ => .unknown
  else
    match table.relations.find? (·.name == key) with
    | some relation =>
      match value with
      | .null => .ofBool (db.relatedRows I relation row).isEmpty
      | .object members =>
        match repository.table? relation.relatedTable with
        | some related =>
          .ofBool ((db.relatedRows I relation row).any fun relatedRow =>
            membersMeaning I db repository related relatedRow members = .yes)
        | none => .unknown
      | _ => .unknown
    | none => predicateMeaning I (table.schema.get? key) (Row.value I row key) [] value

/-- What each filter of a group says of a row. -/
def itemsMeaning (I : Interpretation V) (db : Database V) (repository : Repository) (table : Table)
    (row : Row V) : List Json → List Truth
  | [] => []
  | .object members :: rest =>
    membersMeaning I db repository table row members ::
      itemsMeaning I db repository table row rest
  | _ :: rest => .unknown :: itemsMeaning I db repository table row rest

end

/-- What a filter over a table says of a row. -/
def filterMeaning (I : Interpretation V) (db : Database V) (repository : Repository)
    (table : Table) (row : Row V) (filter : Json) : Truth :=
  match filter with
  | .object members => membersMeaning I db repository table row members
  | _ => .unknown

/-! ## Meanings by what keys stand for -/

section

variable {I : Interpretation V} {db : Database V} {repository : Repository} {table : Table}
  {row : Row V} {key : String}

/-- A key inside a column says something of the value inside it. -/
theorem predicateMembersMeaning_nested {field? child? : Option Field} {base : V}
    {path : List String} {value : Json} {rest : List (String × Json)}
    (reading : KeyReading field? key (.nested child?)) :
    predicateMembersMeaning I field? base path ((key, value) :: rest) =
      (predicateMeaning I child? base (path ++ [key]) value).and
        (predicateMembersMeaning I field? base path rest) := by
  cases reading with
  | declared known => simp only [predicateMembersMeaning, known]
  | extension undeclared unnamed => simp only [predicateMembersMeaning, undeclared, unnamed]

/-- An operator says something of the value itself. -/
theorem predicateMembersMeaning_operator {field? : Option Field} {base : V} {path : List String}
    {operator : FilterOperator} {value : Json} {rest : List (String × Json)}
    (reading : KeyReading field? key (.operator operator)) :
    predicateMembersMeaning I field? base path ((key, value) :: rest) =
      (operator.meaning I value field? base path).and
        (predicateMembersMeaning I field? base path rest) := by
  cases reading with
  | operator undeclared named => simp only [predicateMembersMeaning, undeclared, named]

/-- The filters of a group all hold, or some of them do. -/
theorem entryMeaning_group {isDisjunction : Bool} {items : List Json}
    (reading : table.ReadsAs key (.group isDisjunction)) :
    entryMeaning I db repository table row key (.array items) =
      if isDisjunction then Truth.any (itemsMeaning I db repository table row items)
      else Truth.all (itemsMeaning I db repository table row items) := by
  cases reading with
  | conjunction word | disjunction word =>
    subst word
    rw [entryMeaning]
    rfl

/-- A group of one filter says what the filter says. -/
theorem entryMeaning_single {isDisjunction : Bool} {members : List (String × Json)}
    (reading : table.ReadsAs key (.group isDisjunction)) :
    entryMeaning I db repository table row key (.object members) =
      membersMeaning I db repository table row members := by
  cases reading with
  | conjunction word | disjunction word =>
    subst word
    rw [entryMeaning]
    rfl

/-- A negation holds where its members do not. -/
theorem entryMeaning_negation {members : List (String × Json)}
    (reading : table.ReadsAs key .negation) :
    entryMeaning I db repository table row key (.object members) =
      (membersMeaning I db repository table row members).not := by
  cases reading with
  | negation word =>
    subst word
    rw [entryMeaning]
    rfl

/-- No row is related. -/
theorem entryMeaning_unrelated {relation : Relation}
    (reading : table.ReadsAs key (.relation relation)) :
    entryMeaning I db repository table row key .null =
      .ofBool (db.relatedRows I relation row).isEmpty := by
  cases reading with
  | relation word named =>
    simp only [IsGroupWord, not_or] at word
    simp [entryMeaning, word, named]

/-- Some related row fulfils the filter. -/
theorem entryMeaning_related {relation : Relation} {related : Table}
    {members : List (String × Json)} (reading : table.ReadsAs key (.relation relation))
    (known : repository.table? relation.relatedTable = some related) :
    entryMeaning I db repository table row key (.object members) =
      .ofBool ((db.relatedRows I relation row).any fun relatedRow =>
        membersMeaning I db repository related relatedRow members = .yes) := by
  cases reading with
  | relation word named =>
    simp only [IsGroupWord, not_or] at word
    simp [entryMeaning, word, named, known]

/-- The entry of a column is about its value in the row. -/
theorem entryMeaning_column {value : Json} (reading : table.ReadsAs key .column) :
    entryMeaning I db repository table row key value =
      predicateMeaning I (table.schema.get? key) (Row.value I row key) [] value := by
  cases reading with
  | column word unnamed =>
    simp only [IsGroupWord, not_or] at word
    rw [entryMeaning.eq_def]
    simp [word, unnamed]

end

/-! ## Conditions of columns -/

section

variable {I : Interpretation V} {db : Database V} {scope : Scope V} {column : ColumnRef} {base : V}

/-- An operand has its value. -/
theorem operandExpr_eval {value : Json} {field? : Option Field} {expr : Expr}
    (h : operandExpr value field? column = .ok expr) :
    expr.eval I db none scope = some (operandMeaning I value field? column.path) := by
  unfold operandExpr at h
  unfold operandMeaning
  split at h
  · rename_i hnull
    rw [Except.ok.injEq] at h
    rw [← h, if_pos hnull]
    rfl
  · rename_i hnull
    rw [if_neg hnull]
    split at h
    · rename_i hpath
      rw [map_eq_ok_iff] at h
      obtain ⟨parameter, hparameter, rfl⟩ := h
      rw [if_pos hpath, hparameter]
      rfl
    · rename_i hpath
      rw [Except.ok.injEq] at h
      rw [← h, if_neg hpath]
      rfl

/-- The operands of a list are evaluated one by one. -/
theorem operandExprs_eval {values : List Json} {field? : Option Field} {exprs : List Expr}
    (h : List.Forall₂ (fun value expr => operandExpr value field? column = .ok expr) values exprs) :
    Expr.evalList I db exprs scope =
      some (values.map fun value => operandMeaning I value field? column.path) := by
  induction h with
  | nil => rfl
  | cons hvalue _ ih => simp [Expr.evalList, operandExpr_eval hvalue, ih]

/-- A comparison says that the addressed value and the operand are compared; to be equal to null or
not is asked in another way. -/
theorem FilterOperator.meaning_of_comparison {operator : FilterOperator}
    {comparison : Sql.Comparison} {value : Json} {field? : Option Field} {path : List String}
    (named : operator.comparison? = some comparison)
    (ordered : value = .null → operator ≠ .equal ∧ operator ≠ .notEqual) :
    operator.meaning I value field? base path =
      I.compare comparison (I.inside path base) (operandMeaning I value field? path) := by
  cases operator with
  | equal | notEqual =>
    cases named
    cases value with
    | null => simp at ordered
    | bool _ | number _ | string _ | array _ | object _ => rfl
  | greater | greaterOrEqual | less | lessOrEqual =>
    cases named
    rfl
  | isIn | isBetween | isNull | isMissing | startsWith | contains => cases named

variable (hcolumn : scope.resolve column.qualifier? column.name = some base)

include hcolumn

/-- A column has the value inside the row. -/
theorem column_eval :
    (Expr.column column).eval I db none scope = some (I.inside column.path base) := by
  simp [Expr.eval, hcolumn]

/-- The text of a column is the text of this value. -/
theorem textExpr_eval :
    (textExpr column).eval I db none scope = some (textMeaning I base column.path) := by
  unfold textExpr textMeaning
  split
  · rename_i hpath
    rw [column_eval hcolumn, List.isEmpty_iff.1 hpath]
    rfl
  · rename_i hpath
    simp [Expr.eval, hcolumn, hpath]

/-- A check for a missing value asks for one. -/
theorem missingCondition_eval (isMissing : Bool) :
    (missingCondition column isMissing).eval I db scope =
      some (missingMeaning I base column.path isMissing) := by
  unfold missingCondition missingMeaning
  cases hlast : column.path.getLast? with
  | none =>
    have hpath : column.path = [] := List.getLast?_eq_none_iff.1 hlast
    simp [Condition.eval, column_eval hcolumn, hpath, Interpretation.inside]
  | some key => cases isMissing <;> simp [Condition.eval, hcolumn]

/-- The condition of an operator means what the operator says of the addressed value. -/
theorem operatorCondition_eval {operator : FilterOperator} {value : Json}
    {field? : Option Field} {path : String} {condition : Condition}
    (h : operator.condition value field? column path = .ok condition) :
    condition.eval I db scope = some (operator.meaning I value field? base column.path) := by
  have hleft : (Expr.column column).eval I db none scope = some (I.inside column.path base) :=
    column_eval hcolumn
  cases FilterOperator.compiles_of_condition h with
  | equalNull | notEqualNull =>
    -- The meaning of being null or not is told without a comparison of truth values.
    simp [Condition.eval, hleft, FilterOperator.meaning, Json.isNull]
  | isNull =>
    rw [Condition.eval, hleft]
    rfl
  | compare named ordered operand =>
    rw [Condition.eval, hleft, operandExpr_eval operand,
      FilterOperator.meaning_of_comparison named ordered]
    rfl
  | isIn operands =>
    cases operands with
    | nil => rfl
    | cons first others =>
      rw [Condition.eval, hleft, operandExpr_eval first, operandExprs_eval others]
      rfl
  | isBetween lower upper =>
    rw [Condition.eval, hleft, operandExpr_eval lower, operandExpr_eval upper]
    rfl
  | @isMissing flag => exact missingCondition_eval hcolumn flag
  | startsWith | containsText =>
    rw [Condition.eval, textExpr_eval hcolumn]
    rfl
  | containsItems | containsMembers =>
    rw [Condition.eval, hleft]
    rfl

omit hcolumn

mutual

/-- The conditions of the entry of a column mean what the entry says of the addressed value. -/
theorem predicates_meaning : ∀ {field? : Option Field} {column : ColumnRef} {path : String}
    {value : Json} {conditions : List Condition},
    scope.resolve column.qualifier? column.name = some base →
      predicates field? column path value = .ok conditions →
        (Condition.and conditions).eval I db scope =
          some (predicateMeaning I field? base column.path value)
  | field?, column, path, .null, conditions, hcolumn, h => by
    rw [predicates, Except.ok.injEq] at h
    rw [← h, Condition.eval_and_singleton]
    simp [Condition.eval, column_eval hcolumn, predicateMeaning]
  | field?, column, path, .object members, conditions, hcolumn, h => by
    rw [predicates] at h
    rw [predicateMeaning]
    exact memberPredicates_meaning hcolumn h
  | field?, column, path, .array items, conditions, hcolumn, h => by
    rw [predicates] at h
    split at h
    · simp only [bind_eq_ok_iff, pure_eq_ok_iff] at h
      obtain ⟨right, hright, rfl⟩ := h
      rw [Condition.eval_and_singleton]
      simp [Condition.equal, Condition.eval, column_eval hcolumn, operandExpr_eval hright,
        predicateMeaning]
    · simp at h
  | field?, column, path, .bool _, conditions, hcolumn, h
  | field?, column, path, .number _, conditions, hcolumn, h
  | field?, column, path, .string _, conditions, hcolumn, h => by
    simp only [predicates, bind_eq_ok_iff, pure_eq_ok_iff] at h
    obtain ⟨right, hright, rfl⟩ := h
    rw [Condition.eval_and_singleton]
    simp [Condition.equal, Condition.eval, column_eval hcolumn, operandExpr_eval hright,
      predicateMeaning]

/-- The conditions of the members of an entry mean what the members say together. -/
theorem memberPredicates_meaning : ∀ {field? : Option Field} {column : ColumnRef} {path : String}
    {members : List (String × Json)} {conditions : List Condition},
    scope.resolve column.qualifier? column.name = some base →
      memberPredicates field? column path members = .ok conditions →
        (Condition.and conditions).eval I db scope =
          some (predicateMembersMeaning I field? base column.path members)
  | field?, column, path, [], conditions, hcolumn, h => by
    rw [memberPredicates, Except.ok.injEq] at h
    rw [← h]
    rfl
  | field?, column, path, (key, value) :: rest, conditions, hcolumn, h => by
    rw [memberPredicates] at h
    have hreading := keyReading_of_ofKey field? key
    cases hkey : PredicateKey.ofKey field? key with
    | nested child? =>
      simp only [hkey, bind_eq_ok_iff, pure_eq_ok_iff] at h
      obtain ⟨first, hfirst, others, hothers, rfl⟩ := h
      rw [hkey] at hreading
      rw [predicateMembersMeaning_nested hreading]
      have hnested : (Condition.and first).eval I db scope =
          some (predicateMeaning I child? base (column.key key).path value) :=
        predicates_meaning hcolumn hfirst
      exact Condition.eval_and_append hnested (memberPredicates_meaning hcolumn hothers)
    | operator operator =>
      simp only [hkey, bind_eq_ok_iff, pure_eq_ok_iff] at h
      obtain ⟨condition, hcondition, _, rfl, others, hothers, rfl⟩ := h
      rw [hkey] at hreading
      rw [predicateMembersMeaning_operator hreading]
      have hoperator : (Condition.and [condition]).eval I db scope =
          some (operator.meaning I value field? base column.path) :=
        (Condition.eval_and_singleton _).trans (operatorCondition_eval hcolumn hcondition)
      exact Condition.eval_and_append hoperator (memberPredicates_meaning hcolumn hothers)
    | unexpected | unknownOperator => simp [hkey, bind, Except.bind] at h

end

end

/-! ## Rows in scope -/

/-- A row that names all columns of a table fits it. -/
theorem Sql.Row.fits_of_names {row : Row V} {table : Table}
    (h : table.schema.fieldNames ⊆ row.map (·.1)) : Row.Fits row table := by
  intro column hcolumn
  exact Entries.lookup_isSome_iff.2 (h (ObjectSchema.contains_iff.1 hcolumn))

/-- A row that fits a table has a value for each column. -/
theorem Sql.Row.lookup_eq_value {I : Interpretation V} {row : Row V} {table : Table}
    (h : Row.Fits row table) {column : String} (hcolumn : table.schema.contains column = true) :
    List.lookup column row = some (Row.value I row column) := by
  obtain ⟨value, hvalue⟩ := Option.isSome_iff_exists.1 (h column hcolumn)
  rw [Row.value, hvalue]
  rfl

/-- The row of a single item is read under the name of the item. -/
theorem Sql.Row.Fits.reads {I : Interpretation V} {table : Table} {row : Row V}
    (h : Row.Fits row table) (scope : Scope V) (name : String) :
    Reads (scope.push (.ofRow name row)) (some name) table (Row.value I row) :=
  Reads.push (.ofRow name row) (fun _ hcolumn => Row.lookup_eq_value h hcolumn) scope

/-- The join condition compares the row of the item with the row outside of it. -/
theorem Relation.join_eval {I : Interpretation V} {db : Database V} {relation : Relation}
    {scope : Scope V} {scope? : Option String} {table related : Table} {row relatedRow : Row V}
    {inner : String} (reads : Reads scope scope? table (Row.value I row))
    (fits : Row.Fits relatedRow related)
    (source : related.schema.contains relation.sourceColumn = true)
    (target : table.schema.contains relation.targetColumn = true)
    (apart : inner ≠ scope?.getD table.name) :
    (relation.join inner (scope?.getD table.name)).eval I db
        (scope.push (.ofRow inner relatedRow)) =
      some (I.compare .equal (Row.value I relatedRow relation.sourceColumn)
        (Row.value I row relation.targetColumn)) := by
  have hsource := (fits.reads (I := I) scope inner).own _ source
  have htarget := reads.joined_push (.ofRow inner relatedRow) apart target
  simp only [Relation.join, Condition.equal, Condition.eval, Expr.eval, ColumnRef.qualified,
    hsource, htarget]
  rfl

/-- Whether a related row exists that fulfils a condition. -/
theorem relatedRow_eval {I : Interpretation V} {db : Database V} {relation : Relation}
    {scope : Scope V} {inner : String} {condition : Condition} {rows : List (Row V)}
    {truth : Row V → Truth} (hrows : db relation.relatedTable = some rows)
    (htruth : ∀ row ∈ rows,
      condition.eval I db (scope.push (.ofRow inner row)) = some (truth row)) (negated : Bool) :
    (Condition.relatedRow relation inner condition negated).eval I db scope =
      some (.ofBool ((rows.any fun row => truth row = .yes) != negated)) := by
  have hkept : (!(rows.filter fun row => truth row = .yes).isEmpty) =
      rows.any fun row => truth row = .yes := by
    rw [Bool.eq_iff_iff]
    simp
  have hkeep : Condition.keep I db (some condition)
      (scope.pushRow (some (.aliased relation.relatedTable inner))) rows =
        some (rows.filter fun row => truth row = .yes) :=
    Sql.keepTrue_eq htruth
  have hfound : ((Select.ofColumns [.plain (.raw "1")]
      (.aliased relation.relatedTable inner)).restrict condition).nonempty I db scope =
        some (rows.any fun row => truth row = .yes) := by
    simp only [Select.ofColumns, Select.restrict, Condition.added, Select.nonempty,
      FromItem.clauseRows, FromItem.aliased, FromItem.rows, hrows]
    rw [FromItem.aliased] at hkeep
    rw [Option.bind_eq_bind, Option.bind_some, hkeep, ← hkept]
    rfl
  rw [Condition.relatedRow, Condition.eval, hfound]
  rfl

/-! ## Meanings of derivations -/

/-- The condition of entries is their conjunction. -/
theorem Sql.Condition.eval_ofEntries {I : Interpretation V} {db : Database V} {scope : Scope V}
    (conditions : List Condition) :
    (ofEntries conditions).eval I db scope = (Condition.and conditions).eval I db scope := by
  match conditions with
  | [] => rfl
  | [condition] => exact (eval_and_singleton condition).symm
  | _ :: _ :: _ => rfl

/-- Joined rows that fulfil a further condition. -/
theorem Sql.Condition.eval_joinedWith {I : Interpretation V} {db : Database V} {scope : Scope V}
    {join : Condition} {extra? : Option Condition} {a b : Truth}
    (hjoin : join.eval I db scope = some a) (hextra : evalOption I db extra? scope = some b) :
    (join.joinedWith extra?).eval I db scope = some (a.and b) := by
  cases extra? with
  | none =>
    rw [evalOption, Option.some.injEq] at hextra
    rw [← hextra, Truth.and_yes]
    exact hjoin
  | some condition => exact eval_andAlso hjoin hextra

/-- A disjunction of one condition is the condition. -/
theorem Sql.Condition.eval_or_singleton {I : Interpretation V} {db : Database V} {scope : Scope V}
    (condition : Condition) :
    (Condition.or [condition]).eval I db scope = condition.eval I db scope := by
  cases h : condition.eval I db scope <;> simp [eval, evalList, h]

/-- A group of a single filter means that filter. -/
theorem Sql.Condition.eval_ofGroup_singleton {I : Interpretation V} {db : Database V}
    {scope : Scope V} (isDisjunction : Bool) (condition : Condition) :
    (Condition.and (ofGroup isDisjunction [condition])).eval I db scope =
      condition.eval I db scope := by
  cases isDisjunction with
  | false => exact eval_and_singleton condition
  | true => exact (eval_and_singleton _).trans (eval_or_singleton condition)

/-- Whether a row is joined to the row outside and fulfils a further condition. -/
theorem relatedRow_joinedWith_eval {I : Interpretation V} {db : Database V}
    {repository : Repository} (conforms : db.Conforms repository) {relation : Relation}
    {table related : Table} (coherent : relation.Coherent repository table)
    (hrelated : repository.table? relation.relatedTable = some related) {scope : Scope V}
    {scope? : Option String} {row : Row V} (reads : Reads scope scope? table (Row.value I row))
    {inner : String} (apart : inner ≠ scope?.getD table.name) {extra? : Option Condition}
    {truth : Row V → Truth}
    (htruth : ∀ relatedRow, Row.Fits relatedRow related →
      Condition.evalOption I db extra? (scope.push (.ofRow inner relatedRow)) =
        some (truth relatedRow)) (negated : Bool) :
    (Condition.relatedRow relation inner
        ((relation.join inner (scope?.getD table.name)).joinedWith extra?) negated).eval I db scope =
      some (.ofBool (((db.relatedRows I relation row).any fun relatedRow =>
        truth relatedRow = .yes) != negated)) := by
  obtain ⟨rows, hrows, hfits⟩ := conforms _ _ hrelated
  have hsource := coherent.source_of_table? hrelated
  have heval : ∀ relatedRow ∈ rows,
      ((relation.join inner (scope?.getD table.name)).joinedWith extra?).eval I db
          (scope.push (.ofRow inner relatedRow)) =
        some ((I.compare .equal (Row.value I relatedRow relation.sourceColumn)
          (Row.value I row relation.targetColumn)).and (truth relatedRow)) := by
    intro relatedRow hmem
    have hfit := hfits relatedRow hmem
    exact Condition.eval_joinedWith (Relation.join_eval reads hfit hsource coherent.target apart)
      (htruth relatedRow hfit)
  rw [relatedRow_eval hrows heval]
  simp [Database.relatedRows, Database.rowsOf, hrows, Truth.and_eq_yes_iff, List.any_filter]

/-- The conditions of a part of a filter mean what the part says of a row. -/
def FilterTask.Means (I : Interpretation V) (db : Database V) (repository : Repository)
    (table : Table) (scope : Scope V) (row : Row V) (conditions : List Condition) :
    FilterTask → Prop
  | .members entries =>
    (Condition.and conditions).eval I db scope =
      some (membersMeaning I db repository table row entries)
  | .entry key kind value =>
    kind = .ofKey table key →
      (Condition.and conditions).eval I db scope =
        some (entryMeaning I db repository table row key value)
  | .items filters =>
    Condition.evalList I db conditions scope = some (itemsMeaning I db repository table row filters)

namespace FilterContext

variable {I : Interpretation V} {db : Database V} {context : FilterContext}

/-- The conditions of a derivation mean what its part of the filter says, in every scope that gives
the values of a row under a name that is not handed out any more. -/
theorem Derives.meaning (coherent : context.repository.Coherent)
    (conforms : db.Conforms context.repository) {table : Table} {scope? : Option String}
    {task : FilterTask} {conditions : List Condition} {n m : Nat}
    (h : context.Derives table scope? task n conditions m)
    (known : context.repository.table? table.name = some table) {scope : Scope V} {row : Row V}
    (reads : Reads scope scope? table (Row.value I row))
    (fresh : FreshFrom context.stem n (scope?.getD table.name)) :
    task.Means I db context.repository table scope row conditions := by
  induction h generalizing scope row with
  | nil => rfl
  | cons head tail hhead htail =>
    have hrest := htail known reads (fresh.mono head.le)
    exact Condition.eval_and_append (hhead known reads fresh rfl) hrest
  | @group _ _ _ isDisjunction _ parts _ _ _ ih =>
    intro hkind
    rw [entryMeaning_group (Table.readsAs_iff.2 hkind)]
    have hparts := ih known reads fresh
    cases isDisjunction with
    | false => exact Condition.eval_and hparts
    | true =>
      rw [Condition.ofGroup, if_pos rfl, Condition.eval_and_singleton]
      exact Condition.eval_or hparts
  | @single _ _ _ isDisjunction _ parts _ _ _ ih =>
    intro hkind
    rw [entryMeaning_single (Table.readsAs_iff.2 hkind), Condition.eval_ofGroup_singleton,
      Condition.eval_ofEntries, ih known reads fresh]
  | negation _ ih =>
    intro hkind
    rw [entryMeaning_negation (Table.readsAs_iff.2 hkind), Condition.eval_and_singleton,
      Condition.eval, Condition.eval_ofEntries, ih known reads fresh]
    rfl
  | @unrelated table scope? _ relation related n hrelated =>
    intro hkind
    have hcoherent := coherent _ _ known _ (FilterEntry.mem_of_ofKey hkind)
    have hall : ∀ relatedRow, Row.Fits relatedRow related →
        Condition.evalOption I db none
          (scope.push (.ofRow (numberedName context.stem n) relatedRow)) = some .yes :=
      fun _ _ => rfl
    have hrow := relatedRow_joinedWith_eval conforms hcoherent hrelated reads
      (fresh n (Nat.le_refl n)).symm hall true
    have hnone : (((db.relatedRows I relation row).any fun _ => decide (Truth.yes = .yes)) != true) =
        (db.relatedRows I relation row).isEmpty := by
      cases db.relatedRows I relation row <;> rfl
    rw [Condition.eval_and_singleton, entryMeaning_unrelated (Table.readsAs_iff.2 hkind), ← hnone]
    exact hrow
  | @related table scope? _ relation related members parts n _ hrelated inner ih =>
    intro hkind
    have hcoherent := coherent _ _ known _ (FilterEntry.mem_of_ofKey hkind)
    have hknown := Repository.table?_self hrelated
    have hrow := relatedRow_joinedWith_eval conforms hcoherent hrelated reads
      (fresh n (Nat.le_refl n)).symm (fun relatedRow hfit =>
        (Condition.evalOption_all parts).trans
          (ih hknown (hfit.reads scope (numberedName context.stem n))
            (freshFrom_numberedName context.stem n))) false
    rw [Condition.eval_and_singleton, hrow,
      entryMeaning_related (Table.readsAs_iff.2 hkind) hrelated, Bool.bne_false]
  | @column table scope? _ key value parts _ predicates =>
    intro hkind
    simp only [Table.columnConditions, bind_eq_ok_iff] at predicates
    obtain ⟨field, hfield, hparts⟩ := predicates
    have hcolumn := reads.own key (ObjectSchema.contains_of_field hfield)
    have hmeaning : (Condition.and parts).eval I db scope =
        some (predicateMeaning I field (Row.value I row key) [] value) :=
      predicates_meaning hcolumn hparts
    rw [entryMeaning_column (Table.readsAs_iff.2 hkind), ObjectSchema.get?_of_field hfield]
    exact hmeaning
  | noItems => rfl
  | item head tail hhead htail =>
    rw [FilterTask.Means, Condition.evalList, Condition.eval_ofEntries,
      hhead known reads fresh, htail known reads (fresh.mono head.le)]
    rfl

/-- A compiled filter has the truth value that the filter means: for every database with the tables
of an accepted repository, and every row that a scope gives under a name apart from the aliases of
filters.  A filter without a condition is true. -/
theorem condition_meaning (accepted : context.repository.Accepted)
    (conforms : db.Conforms context.repository) {table : Table}
    (known : context.repository.table? table.name = some table) {filter : Json}
    {scope? : Option String} {path : String} {condition? : Option Condition} {n m : Nat}
    (compiled : Returns (context.condition filter table scope? path) n condition? m)
    {scope : Scope V} {row : Row V} (reads : Reads scope scope? table (Row.value I row))
    (apart : ¬ InFamily context.stem (scope?.getD table.name)) :
    Condition.evalOption I db condition? scope =
      some (filterMeaning I db context.repository table row filter) := by
  obtain ⟨members, conditions, rfl, rfl, derives⟩ := derives_of_condition compiled
  rw [Condition.evalOption_all]
  exact derives.meaning accepted.coherent conforms known reads (.of_not_inFamily apart n)

end FilterContext

namespace Library

/-- The row of an author. -/
def ada : Row Json := [("id", Json.ofUInt64 1), ("name", .string "Ada")]

/-- The row of a book of Ada. -/
def bookRow (id year : UInt64) : Row Json :=
  [("author", Json.ofUInt64 1), ("id", Json.ofUInt64 id), ("year", Json.ofUInt64 year)]

/-- One author with four books. -/
def database : Database Json := fun name =>
  if name = "author" then some [ada]
  else if name = "book" then some [bookRow 1 5, bookRow 2 3, bookRow 3 9, bookRow 4 12]
  else none

/-- Authors named Eve or Ada who wrote no book before the year 3, but one after the year 5. -/
def filter : Json :=
  .object [
    ("OR", .array [.object [("name", .string "Eve")], .object [("name", .string "Ada")]]),
    ("NOT", .object [("books", .object [("year", .object [("lt", Json.ofUInt64 3)])])]),
    ("books", .object [("year", .object [("gt", Json.ofUInt64 5)])])]

/-- The row of an author has the columns of authors. -/
theorem ada_fits : Row.Fits ada author := by
  apply Row.fits_of_names
  decide

/-- All rows of the library have the columns of their tables. -/
theorem conforms : database.Conforms repository := by
  intro name table h
  rcases table?_cases h with ⟨rfl, rfl⟩ | ⟨rfl, rfl⟩
  · refine ⟨_, rfl, ?_⟩
    intro row hrow
    rw [List.mem_singleton.1 hrow]
    exact ada_fits
  · refine ⟨_, rfl, ?_⟩
    intro row hrow
    apply Row.fits_of_names
    simp only [List.mem_cons, List.not_mem_nil, or_false] at hrow
    rcases hrow with rfl | rfl | rfl | rfl <;> decide

end Library

namespace FilterContext

/-- The filter finds Ada: of its alternatives one holds, what it negates does not, and one of her
books is after the year 5. -/
theorem condition_meaning_library :
    ∃ condition n,
      Returns ((⟨Library.repository, "W"⟩ : FilterContext).condition Library.filter Library.author
        (some "author") "author") 0 (some condition) n ∧
      condition.eval .json Library.database [[.ofRow "author" Library.ada]] = some .yes := by
  have apart : ¬ InFamily "W" "author" := by
    intro h
    have hprefix := h.startsWith_stem
    revert hprefix
    decide
  have reads : Reads (Scope.push [] (.ofRow "author" Library.ada)) (some "author") Library.author
      (Row.value .json Library.ada) := Library.ada_fits.reads [] "author"
  obtain ⟨condition, n, compiled⟩ : ∃ condition n,
      Returns ((⟨Library.repository, "W"⟩ : FilterContext).condition Library.filter Library.author
        (some "author") "author") 0 (some condition) n := ⟨_, _, rfl⟩
  refine ⟨condition, n, compiled, ?_⟩
  exact condition_meaning Library.accepted Library.conforms rfl compiled reads apart

end FilterContext

end RelationalQuery
