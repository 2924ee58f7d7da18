import RelationalQuery.Proofs.Computation
import RelationalQuery.Proofs.Sql.Scope
import RelationalQuery.Proofs.Sql.Truth
import RelationalQuery.Sql.Tree

/-!
# Values of expressions, conditions and selections

An expression is evaluated over a finite database and the rows in its scope, under an interpretation
of values and of the predicates on them.  There is no value where a column is not in scope, or where
a subquery has several rows but stands for one value.  Operations, casts, merged objects and trusted
text occur in written values and in lists of columns only, and are not evaluated here.

Main definitions:

- `Interpretation` gives the values and the predicates on them; `Database` gives the rows of tables.
- `Expr.eval`, `Condition.eval` and `Select.eval` evaluate the trees by recursion on them.
- `Interpretation.json` takes all values from JSON.

Main results:

- `Interpretation.sortBy_eq` and `Interpretation.sortBy_map`: rows whose keys have values are
  sorted.
- `Condition.evalOption_all` and `Condition.eval_andAlso`: joined conditions mean conjunctions.
-/

namespace RelationalQuery.Sql

/-! ## Values and rows -/

/-- The values of columns and of JSON, and the predicates on them.  Values are ordered, and several
of them may have the same place in the order. -/
structure Interpretation (V : Type) where
  null : V
  parameter : Parameter → V
  /-- The value of a key inside a JSON object. -/
  subscript : V → String → V
  /-- A JSON value as text. -/
  text : V → V
  object : List (String × V) → V
  array : List V → V
  isNull : V → Bool
  compare : Comparison → V → V → Truth
  isIn : V → List V → Truth
  between : V → V → V → Truth
  startsWith : V → V → Truth
  containsText : V → V → Truth
  hasKey : V → String → Truth
  notAfter : V → V → Bool
  notAfter_total : ∀ a b, (notAfter a b || notAfter b a) = true
  notAfter_trans : ∀ a b c, notAfter a b = true → notAfter b c = true → notAfter a c = true

/-- The values of a row by column. -/
abbrev Row (V : Type) := List (String × V)

/-- The rows of each table. -/
abbrev Database (V : Type) := String → Option (List (Row V))

variable {V : Type}

namespace Interpretation

/-- The value at a path of keys. -/
def inside (I : Interpretation V) (path : List String) (value : V) : V :=
  path.foldl I.subscript value

/-- A value comes no later than another one in a direction. -/
def directed (I : Interpretation V) : Direction → V → V → Bool
  | .ascending, a, b => I.notAfter a b
  | .descending, a, b => I.notAfter b a

/-- The values of the keys of an order come no later than others; the first key that tells two rows
apart decides. -/
def keysNotAfter (I : Interpretation V) : List Direction → List V → List V → Bool
  | direction :: directions, a :: as, b :: bs =>
    if I.directed direction a b && I.directed direction b a then I.keysNotAfter directions as bs
    else I.directed direction a b
  | _, _, _ => true

/-- Rows in the order of their keys; rows with the same keys keep their order. -/
def sortBy (I : Interpretation V) {α : Type} (directions : List Direction)
    (keys : α → Option (List V)) (rows : List α) : Option (List α) := do
  let keyed ← rows.mapM fun row => do return (← keys row, row)
  return (keyed.mergeSort fun a b => I.keysNotAfter directions a.1 b.1).map (·.2)

end Interpretation

/-- The item for a row. -/
def Item.ofRow (name : String) (row : Row V) : Item V := ⟨name, fun column => List.lookup column row⟩

/-- The rows for which a test is true; there are none to tell when a test has no value. -/
def keepTrue {α : Type} (test : α → Option Truth) : List α → Option (List α)
  | [] => some []
  | row :: rest => do
    let truth ← test row
    let others ← keepTrue test rest
    return if truth = .yes then row :: others else others

/-- The rows that remain after some are skipped and the others are limited in number. -/
def page {α : Type} (limit? offset? : Option UInt64) (rows : List α) : List α :=
  let others := rows.drop (offset?.elim 0 UInt64.toNat)
  limit?.elim others fun limit => others.take limit.toNat

/-- The scope of the clauses of a selection for one of its rows. -/
def Scope.pushRow (scope : Scope V) (from? : Option FromItem) (row : Row V) : Scope V :=
  match from? with
  | none => scope
  | some item => scope.push (.ofRow item.scope row)

/-- The column joins values of all rows. -/
def Projection.isAggregate (column : Projection) : Bool :=
  match column.expr with
  | .aggregate .. => true
  | _ => false

/-- The name of a column of a result. -/
def Projection.name (column : Projection) : String :=
  match column.alias?, column.expr with
  | some label, _ => label
  | none, .column target => target.name
  | none, _ => ""

/-! ## Evaluation -/

mutual

/-- The value of an expression.  An aggregate is taken over the scopes of a group of rows. -/
def Expr.eval (I : Interpretation V) (db : Database V) :
    Expr → Option (List (Scope V)) → Scope V → Option V
  | .null, _, _ => some I.null
  | .parameter value, _, _ => some (I.parameter value)
  | .column column, _, scope => do
    return I.inside column.path (← scope.resolve column.qualifier? column.name)
  | .columnText column, _, scope => do
    let value ← scope.resolve column.qualifier? column.name
    return if column.path.isEmpty then value else I.text (I.inside column.path value)
  | .reference source column, _, scope => scope.resolve (some source) column
  | .object entries, group?, scope => do
    return I.object (← Expr.evalEntries I db entries group? scope)
  | .aggregate value order, some group, _ => do
    let sorted ← I.sortBy (order.map (·.direction)) (OrderTerm.evalKeys I db order) group
    return I.array (← sorted.mapM fun scope => value.eval I db none scope)
  | .subquery query, _, scope => do
    match ← query.eval I db scope with
    | [] => return I.null
    | [[(_, value)]] => return value
    | _ => none
  | _, _, _ => none

/-- The values of entries. -/
def Expr.evalEntries (I : Interpretation V) (db : Database V) :
    List (String × Expr) → Option (List (Scope V)) → Scope V → Option (List (String × V))
  | [], _, _ => some []
  | (key, value) :: rest, group?, scope => do
    let first ← value.eval I db group? scope
    return (key, first) :: (← Expr.evalEntries I db rest group? scope)

/-- The values of a list of expressions. -/
def Expr.evalList (I : Interpretation V) (db : Database V) :
    List Expr → Scope V → Option (List V)
  | [], _ => some []
  | expr :: rest, scope => do
    let first ← expr.eval I db none scope
    return first :: (← Expr.evalList I db rest scope)

/-- The values of the keys of an order. -/
def OrderTerm.evalKeys (I : Interpretation V) (db : Database V) :
    List OrderTerm → Scope V → Option (List V)
  | [], _ => some []
  | ⟨expr, _⟩ :: rest, scope => do
    let first ← expr.eval I db none scope
    return first :: (← OrderTerm.evalKeys I db rest scope)

/-- The values of the columns of a result under their names. -/
def Projection.evalRow (I : Interpretation V) (db : Database V) :
    List Projection → Option (List (Scope V)) → Scope V → Option (Row V)
  | [], _, _ => some []
  | ⟨expr, alias?⟩ :: rest, group?, scope => do
    let first ← expr.eval I db group? scope
    return (Projection.name ⟨expr, alias?⟩, first) :: (← Projection.evalRow I db rest group? scope)

/-- The truth value of a condition. -/
def Condition.eval (I : Interpretation V) (db : Database V) :
    Condition → Scope V → Option Truth
  | .and conditions, scope => do return Truth.all (← Condition.evalList I db conditions scope)
  | .or conditions, scope => do return Truth.any (← Condition.evalList I db conditions scope)
  | .not condition, scope => do return (← condition.eval I db scope).not
  | .compare left comparison right, scope => do
    return I.compare comparison (← left.eval I db none scope) (← right.eval I db none scope)
  | .nullCheck expr isNull, scope => do
    return .ofBool (I.isNull (← expr.eval I db none scope) == isNull)
  | .inList _ [], _ => some .no
  | .inList expr (value :: values), scope => do
    let tested ← expr.eval I db none scope
    let first ← value.eval I db none scope
    return I.isIn tested (first :: (← Expr.evalList I db values scope))
  | .between expr low high, scope => do
    let tested ← expr.eval I db none scope
    let lowValue ← low.eval I db none scope
    return I.between tested lowValue (← high.eval I db none scope)
  | .startsWith expr lead, scope => do
    return I.startsWith (← expr.eval I db none scope) (← lead.eval I db none scope)
  | .containsText expr needle, scope => do
    return I.containsText (← expr.eval I db none scope) (← needle.eval I db none scope)
  | .hasKey column key, scope => do
    return I.hasKey (I.inside column.path (← scope.resolve column.qualifier? column.name)) key
  | .exists query negated, scope => do
    return .ofBool ((← query.nonempty I db scope) != negated)
  | .raw _, _ => none

/-- The truth values of a list of conditions. -/
def Condition.evalList (I : Interpretation V) (db : Database V) :
    List Condition → Scope V → Option (List Truth)
  | [], _ => some []
  | condition :: rest, scope => do
    let first ← condition.eval I db scope
    return first :: (← Condition.evalList I db rest scope)

/-- The rows for which a condition that may be absent is true. -/
def Condition.keep (I : Interpretation V) (db : Database V) :
    Option Condition → (Row V → Scope V) → List (Row V) → Option (List (Row V))
  | none, _, rows => some rows
  | some condition, inner, rows => keepTrue (fun row => condition.eval I db (inner row)) rows

/-- The rows of an item of a FROM clause. -/
def FromItem.rows (I : Interpretation V) (db : Database V) :
    FromItem → Scope V → Option (List (Row V))
  | .table name _, _ => db name
  | .subquery query _, scope => query.eval I db scope
  | .unionAll sources _, _ => do return (← sources.mapM db).flatten

/-- The rows of a FROM clause; without one there is a single row without columns. -/
def FromItem.clauseRows (I : Interpretation V) (db : Database V) :
    Option FromItem → Scope V → Option (List (Row V))
  | none, _ => some [[]]
  | some item, scope => item.rows I db scope

/-- The rows of the result of a selection.  One with an aggregate has a single row. -/
def Select.eval (I : Interpretation V) (db : Database V) :
    Select → Scope V → Option (List (Row V))
  | ⟨columns, from?, where?, order, limit?, offset?⟩, scope => do
    let rows ← FromItem.clauseRows I db from? scope
    let kept ← Condition.keep I db where? (scope.pushRow from?) rows
    if columns.any Projection.isAggregate then
      return page limit? offset?
        [← Projection.evalRow I db columns (some (kept.map (scope.pushRow from?))) scope]
    else
      let sorted ← I.sortBy (order.map (·.direction))
        (fun row => OrderTerm.evalKeys I db order (scope.pushRow from? row)) kept
      let shown := page limit? offset? sorted
      if columns.isEmpty then return shown
      else shown.mapM fun row => Projection.evalRow I db columns none (scope.pushRow from? row)

/-- Whether a selection has a row; its columns are not evaluated for that. -/
def Select.nonempty (I : Interpretation V) (db : Database V) :
    Select → Scope V → Option Bool
  | ⟨columns, from?, where?, _, limit?, offset?⟩, scope => do
    let rows ← FromItem.clauseRows I db from? scope
    let kept ← Condition.keep I db where? (scope.pushRow from?) rows
    if columns.any Projection.isAggregate then return !(page limit? offset? [()]).isEmpty
    else return !(page limit? offset? kept).isEmpty

end

/-- The truth value of a condition that may be absent: then it is true. -/
def Condition.evalOption (I : Interpretation V) (db : Database V) (condition? : Option Condition)
    (scope : Scope V) : Option Truth :=
  match condition? with
  | none => some .yes
  | some condition => condition.eval I db scope

/-! ## Lists of rows -/

section

variable {I : Interpretation V} {α β : Type}

/-- A function that has a value for every row of a list has values for the list. -/
theorem mapM_eq_some {f : α → Option β} {g : α → β} {rows : List α}
    (h : ∀ row ∈ rows, f row = some (g row)) : rows.mapM f = some (rows.map g) := by
  induction rows with
  | nil => rfl
  | cons row rest ih =>
    have hrow := h row (by simp)
    have hrest := ih fun other hother => h other (by simp [hother])
    simp [List.mapM_cons, hrow, hrest]

/-- A test that always has a value keeps the rows for which it is true. -/
theorem keepTrue_eq {test : α → Option Truth} {truth : α → Truth} {rows : List α}
    (h : ∀ row ∈ rows, test row = some (truth row)) :
    keepTrue test rows = some (rows.filter fun row => truth row = .yes) := by
  induction rows with
  | nil => rfl
  | cons row rest ih =>
    have hrow := h row (by simp)
    have hrest := ih fun other hother => h other (by simp [hother])
    by_cases hyes : truth row = .yes <;> simp [keepTrue, hrow, hrest, hyes]

/-- What is made of rows is sorted as the rows are. -/
theorem Interpretation.sortBy_map {directions : List Direction} {keys : β → Option (List V)}
    {f : α → β} {key : α → List V} {notAfter : α → α → Bool} {rows : List α}
    (hkeys : ∀ row ∈ rows, keys (f row) = some (key row))
    (horder : ∀ a b, I.keysNotAfter directions (key a) (key b) = notAfter a b) :
    I.sortBy directions keys (rows.map f) = some ((rows.mergeSort notAfter).map f) := by
  have hkeyed : ((rows.map f).mapM fun row => do return (← keys row, row)) =
      some (rows.map fun row => (key row, f row)) := by
    rw [List.mapM_map]
    apply mapM_eq_some
    intro row hrow
    simp [hkeys row hrow]
  have hsorted : (rows.mergeSort notAfter).map (fun row => (key row, f row)) =
      (rows.map fun row => (key row, f row)).mergeSort
        fun a b => I.keysNotAfter directions a.1 b.1 :=
    List.map_mergeSort fun a _ b _ => (horder a b).symm
  rw [sortBy, hkeyed, Option.bind_eq_bind, Option.bind_some, ← hsorted, List.map_map]
  rfl

/-- If every row has a key and the order of keys is a relation of rows, then rows are merge sorted
by it. -/
theorem Interpretation.sortBy_eq {directions : List Direction} {keys : α → Option (List V)}
    {key : α → List V} {notAfter : α → α → Bool} {rows : List α}
    (hkeys : ∀ row ∈ rows, keys row = some (key row))
    (horder : ∀ a b, I.keysNotAfter directions (key a) (key b) = notAfter a b) :
    I.sortBy directions keys rows = some (rows.mergeSort notAfter) := by
  have h := sortBy_map (I := I) (f := id) hkeys horder
  rwa [List.map_id, List.map_id] at h

/-- A page keeps the order of the rows. -/
theorem page_sublist (limit? offset? : Option UInt64) (rows : List α) :
    (page limit? offset? rows).Sublist rows := by
  have hdrop := List.drop_sublist (offset?.elim 0 UInt64.toNat) rows
  cases limit? with
  | none => exact hdrop
  | some limit => exact (List.take_sublist limit.toNat _).trans hdrop

end

/-! ## Entries and groups of conditions -/

section

variable {I : Interpretation V} {db : Database V} {scope : Scope V}

/-- The row of some columns starts with the value of the first one under its name. -/
theorem Projection.evalRow_cons (column : Projection) (rest : List Projection)
    (group? : Option (List (Scope V))) :
    Projection.evalRow I db (column :: rest) group? scope = do
      let first ← column.expr.eval I db group? scope
      return (column.name, first) :: (← Projection.evalRow I db rest group? scope) := by
  rcases column with ⟨expr, alias?⟩
  rfl

/-- Entries are evaluated one after the other. -/
theorem Expr.evalEntries_append {left right : List (String × Expr)} {values others : Row V}
    (hleft : Expr.evalEntries I db left none scope = some values)
    (hright : Expr.evalEntries I db right none scope = some others) :
    Expr.evalEntries I db (left ++ right) none scope = some (values ++ others) := by
  induction left generalizing values with
  | nil =>
    obtain rfl : [] = values := by simpa [evalEntries] using hleft
    exact hright
  | cons entry rest ih =>
    obtain ⟨key, value⟩ := entry
    simp only [evalEntries, Option.bind_eq_bind, Option.bind_eq_some_iff, Option.pure_def,
      Option.some.injEq] at hleft
    obtain ⟨first, hfirst, middle, hmiddle, rfl⟩ := hleft
    simp [evalEntries, hfirst, ih hmiddle]

namespace Condition

/-- Conditions are evaluated one after the other. -/
theorem evalList_append {left right : List Condition} {truths others : List Truth}
    (hleft : evalList I db left scope = some truths)
    (hright : evalList I db right scope = some others) :
    evalList I db (left ++ right) scope = some (truths ++ others) := by
  induction left generalizing truths with
  | nil =>
    obtain rfl : [] = truths := by simpa [evalList] using hleft
    exact hright
  | cons condition rest ih =>
    simp only [evalList, Option.bind_eq_bind, Option.bind_eq_some_iff, Option.pure_def,
      Option.some.injEq] at hleft
    obtain ⟨first, hfirst, middle, hmiddle, rfl⟩ := hleft
    simp [evalList, hfirst, ih hmiddle]

/-- A conjunction of conditions that have truth values is the conjunction of these. -/
theorem eval_and {conditions : List Condition} {truths : List Truth}
    (h : evalList I db conditions scope = some truths) :
    (Condition.and conditions).eval I db scope = some (Truth.all truths) := by
  simp [eval, h]

/-- Conjunctions are joined by the conjunction of their truth values. -/
theorem eval_and_append {left right : List Condition} {a b : Truth}
    (hleft : (Condition.and left).eval I db scope = some a)
    (hright : (Condition.and right).eval I db scope = some b) :
    (Condition.and (left ++ right)).eval I db scope = some (a.and b) := by
  simp only [eval, Option.bind_eq_bind, Option.bind_eq_some_iff, Option.pure_def,
    Option.some.injEq] at hleft hright
  obtain ⟨truths, htruths, rfl⟩ := hleft
  obtain ⟨others, hothers, rfl⟩ := hright
  rw [eval_and (evalList_append htruths hothers), Truth.all_append]

/-- A disjunction of conditions that have truth values is the disjunction of these. -/
theorem eval_or {conditions : List Condition} {truths : List Truth}
    (h : evalList I db conditions scope = some truths) :
    (Condition.or conditions).eval I db scope = some (Truth.any truths) := by
  simp [eval, h]

/-- A conjunction of one condition is the condition. -/
theorem eval_and_singleton (condition : Condition) :
    (Condition.and [condition]).eval I db scope = condition.eval I db scope := by
  cases h : condition.eval I db scope <;> simp [eval, evalList, h]

/-- A condition is the conjunction of its parts. -/
theorem eval_parts (condition : Condition) :
    (Condition.and condition.parts).eval I db scope = condition.eval I db scope := by
  cases condition with
  | and conditions => rfl
  | or | not | compare | nullCheck | inList | between | startsWith | containsText | hasKey |
    «exists» | raw => exact eval_and_singleton _

/-- Conditions that are joined are a conjunction. -/
theorem evalOption_all (conditions : List Condition) :
    evalOption I db (all conditions) scope = (Condition.and conditions).eval I db scope := by
  match conditions with
  | [] => rfl
  | [condition] => exact (eval_and_singleton condition).symm
  | _ :: _ :: _ => rfl

/-- Groups that are joined into one mean the conjunction of both. -/
theorem eval_andAlso {left right : Condition} {a b : Truth}
    (hleft : left.eval I db scope = some a) (hright : right.eval I db scope = some b) :
    (left.andAlso right).eval I db scope = some (a.and b) := by
  rw [← eval_parts] at hleft hright
  exact eval_and_append hleft hright

end Condition

end

/-! ## Values of JSON -/

namespace Interpretation

/-- Integers come in their order, and before all other values. -/
def jsonNotAfter (a b : Json) : Bool :=
  match a.number?.bind Number.int?, b.number?.bind Number.int? with
  | some x, some y => x ≤ y
  | none, some _ => false
  | _, none => true

/-- Of two values one is not after the other. -/
theorem jsonNotAfter_total (a b : Json) : (jsonNotAfter a b || jsonNotAfter b a) = true := by
  unfold jsonNotAfter
  cases a.number?.bind Number.int? <;> cases b.number?.bind Number.int? <;> simp
  exact Int.le_total _ _

/-- The order of values is transitive. -/
theorem jsonNotAfter_trans (a b c : Json) :
    jsonNotAfter a b = true → jsonNotAfter b c = true → jsonNotAfter a c = true := by
  unfold jsonNotAfter
  cases a.number?.bind Number.int? <;> cases b.number?.bind Number.int? <;>
    cases c.number?.bind Number.int? <;> simp
  exact Int.le_trans

/-- The comparison of two values that are not null; patterns and containment are not told. -/
def compareJson (comparison : Comparison) (a b : Json) : Truth :=
  if a.isNull || b.isNull then .unknown
  else
    match comparison with
    | .equal => .ofBool (a == b)
    | .notEqual => .ofBool (a != b)
    | .greater => .ofBool (!jsonNotAfter a b)
    | .greaterOrEqual => .ofBool (jsonNotAfter b a)
    | .less => .ofBool (!jsonNotAfter b a)
    | .lessOrEqual => .ofBool (jsonNotAfter a b)
    | .like => .unknown
    | .contains => .unknown

/-- A test of two texts. -/
def textTest (test : List Char → List Char → Bool) (a b : Json) : Truth :=
  match a.string?, b.string? with
  | some text, some part => .ofBool (test part.toList text.toList)
  | _, _ => .unknown

/-- All values are JSON, and null is the missing value. -/
def json : Interpretation Json where
  null := .null
  parameter value := value.value
  subscript value key := (value.members?.bind fun members => Members.get? members key).getD .null
  text value := if value.string?.isSome then value else .string value.text
  object := .object
  array := .array
  isNull := Json.isNull
  compare := compareJson
  isIn tested values := Truth.any (values.map (compareJson .equal tested))
  between tested low high :=
    (compareJson .greaterOrEqual tested low).and (compareJson .lessOrEqual tested high)
  startsWith := textTest List.isPrefixOf
  containsText := textTest fun part text => text.tails.any part.isPrefixOf
  hasKey value key :=
    match value with
    | .null => .unknown
    | .object members => .ofBool (Members.contains members key)
    | _ => .no
  notAfter := jsonNotAfter
  notAfter_total := jsonNotAfter_total
  notAfter_trans := jsonNotAfter_trans

end Interpretation

end RelationalQuery.Sql
