import RelationalQuery.Filter.Basic

/-!
# Keys of filters

What a key of a filter says is fixed by its text and by the place where it stands.  Over a table the
words AND, OR and NOT come first, then the names of relations, and all other keys are columns.
Below a column, the keys that its schema declares come first and then the words of operators; all
other keys are keys inside an extensible object.

These readings are stated here on their own.  The compiler decides what a key stands for in one
place for each of the two, and is shown to agree.

Main definitions:

- `operatorNamed?` is the operator that a word names.
- `KeyReading` says what a key below a column stands for.
- `Table.ReadsAs` says what a key of a filter over a table stands for.

Main results:

- `keyReading_of_ofKey`: keys below columns are compiled as what they stand for.
- `Table.readsAs_iff`: so are the keys of filters over tables.
-/

namespace RelationalQuery

/-! ## Operators -/

/-- The operator that a word names below a column. -/
def operatorNamed? : String → Option FilterOperator
  | "equal" => some .equal
  | "not" => some .notEqual
  | "gt" => some .greater
  | "gte" => some .greaterOrEqual
  | "lt" => some .less
  | "lte" => some .lessOrEqual
  | "isIn" => some .isIn
  | "isBetween" => some .isBetween
  | "isNull" => some .isNull
  | "isMissing" => some .isMissing
  | "startsWith" => some .startsWith
  | "contains" => some .contains
  | _ => none

/-- Operators are found under the words that name them, and under no others. -/
theorem operatorNamed?_eq (word : String) : operatorNamed? word = FilterOperator.ofName? word := by
  unfold operatorNamed?
  split
  case h_13 hother =>
    symm
    rw [FilterOperator.ofName?, List.find?_eq_none]
    intro operator _ hname
    rw [beq_iff_eq] at hname
    cases operator <;> simp_all [FilterOperator.name]
  all_goals decide

/-! ## Keys below columns -/

/-- The field that the schema of an object declares under a key. -/
def Field.declared? (field : Field) (key : String) : Option Field :=
  match field.kind with
  | .object schema => schema.get? key
  | _ => none

/-- What a key below a column stands for: a declared key, or else an operator, or else another key of
an extensible object.  No other key may stand there. -/
inductive KeyReading (field? : Option Field) (key : String) : PredicateKey → Prop
  | declared {child : Field} (known : field?.bind (·.declared? key) = some child) :
      KeyReading field? key (.nested (some child))
  | operator {operator : FilterOperator} (undeclared : field?.bind (·.declared? key) = none)
      (named : operatorNamed? key = some operator) : KeyReading field? key (.operator operator)
  | extension (undeclared : field?.bind (·.declared? key) = none)
      (unnamed : operatorNamed? key = none) (extensible : field?.any Field.isDynamicObject = true) :
      KeyReading field? key (.nested none)
  | refused (undeclared : field?.bind (·.declared? key) = none)
      (unnamed : operatorNamed? key = none) : KeyReading field? key .unexpected
  | unknown (undeclared : field?.bind (·.declared? key) = none)
      (unnamed : operatorNamed? key = none) : KeyReading field? key .unknownOperator

/-- A key is declared if the schema of the column is that of an object that has it. -/
theorem declared?_eq (field? : Option Field) (key : String) :
    field?.bind (·.declared? key) = (field?.bind Field.objectSchema?).bind (·.get? key) := by
  cases field? with
  | none => rfl
  | some field =>
    simp only [Option.bind_some, Field.declared?, Field.objectSchema?]
    cases field.kind <;> rfl

/-- Keys below columns are compiled as what they stand for. -/
theorem keyReading_of_ofKey (field? : Option Field) (key : String) :
    KeyReading field? key (.ofKey field? key) := by
  have hdeclared := declared?_eq field? key
  unfold PredicateKey.ofKey
  rw [← operatorNamed?_eq]
  cases hschema : field?.bind Field.objectSchema? with
  | none =>
    rw [hschema, Option.bind_none] at hdeclared
    cases hnamed : operatorNamed? key with
    | some operator => exact .operator hdeclared hnamed
    | none => exact .unknown hdeclared hnamed
  | some schema =>
    rw [hschema, Option.bind_some] at hdeclared
    simp only
    cases hknown : schema.get? key with
    | some child => exact .declared (hdeclared.trans hknown)
    | none =>
      rw [hknown] at hdeclared
      cases hnamed : operatorNamed? key with
      | some operator => exact .operator hdeclared hnamed
      | none =>
        simp only
        split
        · rename_i hextensible
          exact .extension hdeclared hnamed hextensible
        · exact .refused hdeclared hnamed

/-! ## Keys over tables -/

/-- A key is a word of groups. -/
def IsGroupWord (key : String) : Prop := key = "AND" ∨ key = "OR" ∨ key = "NOT"

/-- What a key of a filter over a table stands for. -/
inductive Table.ReadsAs (table : Table) (key : String) : FilterEntry → Prop
  | conjunction (word : key = "AND") : ReadsAs table key (.group false)
  | disjunction (word : key = "OR") : ReadsAs table key (.group true)
  | negation (word : key = "NOT") : ReadsAs table key .negation
  | relation {relation : Relation} (word : ¬ IsGroupWord key)
      (named : table.relations.find? (·.name == key) = some relation) :
      ReadsAs table key (.relation relation)
  | column (word : ¬ IsGroupWord key)
      (unnamed : table.relations.find? (·.name == key) = none) : ReadsAs table key .column

namespace Table

variable {table : Table} {key : String} {kind : FilterEntry}

/-- The keys of a filter are compiled as what they stand for. -/
theorem readsAs_ofKey (table : Table) (key : String) : table.ReadsAs key (.ofKey table key) := by
  unfold FilterEntry.ofKey
  split
  · rename_i hand
    exact .conjunction hand
  · rename_i hand
    split
    · rename_i hor
      exact .disjunction hor
    · rename_i hor
      split
      · rename_i hnot
        exact .negation hnot
      · rename_i hnot
        have hword : ¬ IsGroupWord key := by
          rintro (h | h | h)
          · exact hand h
          · exact hor h
          · exact hnot h
        split
        · rename_i relation hrelation
          exact .relation hword hrelation
        · rename_i hunnamed
          exact .column hword hunnamed

/-- A key stands for one thing, and this is what it is compiled as. -/
theorem readsAs_iff : table.ReadsAs key kind ↔ kind = .ofKey table key := by
  constructor
  · intro h
    unfold FilterEntry.ofKey
    cases h with
    | conjunction word | disjunction word | negation word => rw [word]; rfl
    | relation word named =>
      simp only [IsGroupWord, not_or] at word
      simp [word, relation?, named]
    | column word unnamed =>
      simp only [IsGroupWord, not_or] at word
      simp [word, relation?, unnamed]
  · rintro rfl
    exact readsAs_ofKey table key

end Table

end RelationalQuery
