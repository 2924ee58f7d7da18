import RelationalQuery.Proofs.Filter.Meaning
import RelationalQuery.Proofs.Projection.Derivation
import RelationalQuery.Proofs.Projection.Trees

/-!
# The meaning of projections

A select and an include tree ask for values of a row: its columns, keys inside them, and the objects
of related rows.  This meaning is read off the two trees without any statement in between, and the
compiled expressions have the same values.

A relation that a select tree names with false is not shown, even if the include tree names it too.

Main definitions:

- `Interpretation.rowNotAfter` compares rows by the keys of an order.
- `nestedFieldsMeaning` are the values of selected keys inside a column.
- `fieldsMeaning` and its companions are the values that two trees ask for, by recursion on both.
- `Row.Single` says that a row has at most one related row where a relation promises that.

Main results:

- `relatedSelect_singular_eval` and `relatedSelect_plural_eval`: the value of the query for the rows
  of a relation; a page of the rows is sorted twice and stays as it is the second time.
- `ProjectionContext.Derives.meaning`: the expressions of a derivation have the values that its part
  of the trees asks for.
- `ProjectionContext.projections_meaning`: compiled output columns give the row that the trees ask
  for.
-/

namespace RelationalQuery

open Sql (ColumnRef Condition Database Direction Expr FromItem Interpretation OrderTerm Projection
  Row Scope Select Truth)

variable {V : Type}

/-! ## Orders of rows -/

/-- A row comes no later than another one in an order; the first column that tells them apart
decides. -/
def Sql.Interpretation.rowNotAfter (I : Interpretation V) :
    List (String × Direction) → Row V → Row V → Bool
  | [], _, _ => true
  | (column, direction) :: rest, a, b =>
    let first := Row.value I a column
    let second := Row.value I b column
    if I.directed direction first second && I.directed direction second first then
      I.rowNotAfter rest a b
    else I.directed direction first second

/-! ## Values that trees ask for -/

mutual

/-- What the entry of a key asks for of its value: nothing, the value, or an object of keys inside
it. -/
def nestedEntryMeaning (I : Interpretation V) (value : V) (key : String) :
    Json → List (String × V)
  | .bool true => [(key, value)]
  | .object members => [(key, I.object (nestedFieldsMeaning I value members))]
  | _ => []

/-- What the entries of a select tree over the keys of an object ask for. -/
def nestedFieldsMeaning (I : Interpretation V) (value : V) :
    List (String × Json) → List (String × V)
  | [] => []
  | (key, entry) :: rest =>
    nestedEntryMeaning I (I.subscript value key) key entry ++ nestedFieldsMeaning I value rest

end

/-- The rows of a relation of a row that a filter leaves. -/
def foundRows (I : Interpretation V) (db : Database V) (repository : Repository)
    (relation : Relation) (related : Table) (filter? : Option Json) (row : Row V) :
    List (Row V) :=
  (db.relatedRows I relation row).filter fun relatedRow =>
    filter?.elim .yes (filterMeaning I db repository related relatedRow) = .yes

mutual

/-- The values that a select and an include tree ask for of a row of a table.  Without a select tree
they are those of all columns. -/
def fieldsMeaning (I : Interpretation V) (db : Database V) (repository : Repository)
    (select? include? : Option Json) (table : Table) (row : Row V) : List (String × V) :=
  match select? with
  | none =>
    (table.schema.fieldNames.map fun column => (column, Row.value I row column)) ++
      includedMeaning I db repository (treeMembers include?) [] table row
  | some (.object members) =>
    selectedMeaning I db repository (treeMembers include?) members table row ++
      includedMeaning I db repository (treeMembers include?) (members.map (·.1)) table row
  | some _ => []
termination_by (Json.sizeOrZero select? + Json.sizeOrZero include?, 1)
decreasing_by
  all_goals
    have := membersSize_treeMembers_le include?
    simp only [Json.sizeOrZero_none, Json.sizeOrZero_some, Json.size, Prod.lex_def]
    omega

/-- The values that the entries of a select tree ask for.  A relation that is not false is shown by
a tree of its own and by its entry in the include tree. -/
def selectedMeaning (I : Interpretation V) (db : Database V) (repository : Repository)
    (includes members : Members) (table : Table) (row : Row V) : List (String × V) :=
  match members with
  | [] => []
  | (key, value) :: rest =>
    let first :=
      match table.relations.find? (·.name == key) with
      | some relation =>
        if value = .bool false then []
        else
          [(key, relationMeaning I db repository relation (ownTree? value)
            (shownAs? includes key) row)]
      | none => nestedEntryMeaning I (Row.value I row key) key value
    first ++ selectedMeaning I db repository includes rest table row
termination_by (Json.membersSize members + Json.membersSize includes, 0)
decreasing_by
  all_goals
    have := size_shownAs?_le includes key
    have := size_ownTree?_le value
    simp only [Json.membersSize, Prod.lex_def]
    omega

/-- The values that the entries of an include tree ask for, without those of names that a select
tree names. -/
def includedMeaning (I : Interpretation V) (db : Database V) (repository : Repository)
    (includes : Members) (named : List String) (table : Table) (row : Row V) :
    List (String × V) :=
  match includes with
  | [] => []
  | (name, entry) :: rest =>
    let first :=
      if entry = .bool false ∨ name ∈ named then []
      else
        match table.relations.find? (·.name == name) with
        | some relation => [(name, relationMeaning I db repository relation none (some entry) row)]
        | none => []
    first ++ includedMeaning I db repository rest named table row
termination_by (Json.membersSize includes, 0)
decreasing_by
  all_goals
    simp only [Json.membersSize, Json.sizeOrZero, Prod.lex_def]
    omega

/-- The value of a relation of a row, with a tree of its own and an entry of options.  It is the
object of the only row that the filter leaves, or null; or it is the array of the objects of the
rows that the filter leaves, in their order and limited to a page.  A tree of its own comes before
the one among the options. -/
def relationMeaning (I : Interpretation V) (db : Database V) (repository : Repository)
    (relation : Relation) (tree? options? : Option Json) (row : Row V) : V :=
  match repository.table? relation.relatedTable with
  | none => I.null
  | some related =>
    let found := foundRows I db repository relation related (entryOption? options? "where") row
    let objectOf (relatedRow : Row V) : V :=
      I.object (fieldsMeaning I db repository (tree? <|> entryOption? options? "select")
        (entryOption? options? "include") related relatedRow)
    if relation.shape.isSingular then (found.map objectOf).headD I.null
    else
      let order := (entryOption? options? "order").elim [] requestedOrder
      I.array ((requestedPage options? (found.mergeSort (I.rowNotAfter order))).map objectOf)
termination_by (Json.sizeOrZero tree? + Json.sizeOrZero options?, 2)
decreasing_by
  have := size_entryOption?_add_le options?
  have := size_orElse_le tree? (entryOption? options? "select")
  simp only [Prod.lex_def]
  omega

end

/-- A row has at most one related row for every relation that promises that. -/
def Sql.Row.Single (I : Interpretation V) (db : Database V) (table : Table) (row : Row V) : Prop :=
  ∀ relation ∈ table.relations, relation.shape.isSingular = true →
    (db.relatedRows I relation row).length ≤ 1

/-- All rows of the tables of a repository have at most one related row where relations promise
that. -/
def Sql.Database.Single (I : Interpretation V) (db : Database V) (repository : Repository) : Prop :=
  ∀ name table, repository.table? name = some table →
    ∀ row ∈ db.rowsOf name, Row.Single I db table row

/-! ## Keys of orders -/

section

variable {I : Interpretation V}

/-- Of two values one is not after the other, in both directions. -/
theorem Sql.Interpretation.directed_total (direction : Direction) (a b : V) :
    (I.directed direction a b || I.directed direction b a) = true := by
  cases direction with
  | ascending => exact I.notAfter_total a b
  | descending => exact I.notAfter_total b a

/-- The order of values is transitive in both directions. -/
theorem Sql.Interpretation.directed_trans (direction : Direction) {a b c : V}
    (hab : I.directed direction a b = true) (hbc : I.directed direction b c = true) :
    I.directed direction a c = true := by
  cases direction with
  | ascending => exact I.notAfter_trans a b c hab hbc
  | descending => exact I.notAfter_trans c b a hbc hab

/-- Of two rows one is not after the other. -/
theorem Sql.Interpretation.rowNotAfter_total (order : List (String × Direction)) (a b : Row V) :
    (I.rowNotAfter order a b || I.rowNotAfter order b a) = true := by
  induction order with
  | nil => rfl
  | cons key rest ih =>
    obtain ⟨column, direction⟩ := key
    have htotal := I.directed_total direction (Row.value I a column) (Row.value I b column)
    simp only [rowNotAfter]
    cases hab : I.directed direction (Row.value I a column) (Row.value I b column) <;>
      cases hba : I.directed direction (Row.value I b column) (Row.value I a column) <;>
      simp_all

/-- The order of rows is transitive. -/
theorem Sql.Interpretation.rowNotAfter_trans (order : List (String × Direction)) (a b c : Row V)
    (hab : I.rowNotAfter order a b = true) (hbc : I.rowNotAfter order b c = true) :
    I.rowNotAfter order a c = true := by
  induction order with
  | nil => rfl
  | cons key rest ih =>
    obtain ⟨column, direction⟩ := key
    simp only [rowNotAfter] at hab hbc ⊢
    have hxy : I.directed direction (Row.value I a column) (Row.value I b column) = true := by
      split at hab
      · rename_i hsame
        exact (Bool.and_eq_true_iff.1 hsame).1
      · exact hab
    have hyz : I.directed direction (Row.value I b column) (Row.value I c column) = true := by
      split at hbc
      · rename_i hsame
        exact (Bool.and_eq_true_iff.1 hsame).1
      · exact hbc
    have hxz := I.directed_trans direction hxy hyz
    -- The outer rows are told apart by this column unless none of the three are.
    by_cases hzx : I.directed direction (Row.value I c column) (Row.value I a column) = true
    · have hyx := I.directed_trans direction hyz hzx
      have hzy := I.directed_trans direction hzx hxy
      simp only [hxy, hyx, Bool.and_self, if_true] at hab
      simp only [hyz, hzy, Bool.and_self, if_true] at hbc
      simp only [hxz, hzx, Bool.and_self, if_true]
      exact ih hab hbc
    · simp [hxz, hzx]

/-- The values of keys are compared as the rows are that they are taken from. -/
theorem Sql.Interpretation.keysNotAfter_map (order : List (String × Direction)) (a b : Row V) :
    I.keysNotAfter (order.map (·.2)) (order.map fun key => Row.value I a key.1)
      (order.map fun key => Row.value I b key.1) = I.rowNotAfter order a b := by
  induction order with
  | nil => rfl
  | cons key rest ih =>
    obtain ⟨column, direction⟩ := key
    simp only [List.map_cons, keysNotAfter, rowNotAfter, ih]

end

/-! ## Compiled orders -/

/-- The objects of a compiled order have the keys that are requested. -/
theorem requestedOrder_of_orderObjects {value : Json} {objects : List Members} {path : String}
    (h : orderObjects value path = .ok objects) :
    requestedOrder value = objects.flatten.filterMap orderKey? := by
  cases value with
  | object members =>
    rw [orderObjects, Except.ok.injEq] at h
    simp [requestedOrder, ← h]
  | array items =>
    rw [orderObjects] at h
    have hall := forall₂_of_mapM_eq_ok h
    rw [requestedOrder]
    refine congrArg (List.filterMap orderKey?) ?_
    clear h
    induction hall with
    | nil => rfl
    | @cons item members _ _ hitem _ ih =>
      rw [List.flatten_cons, List.flatMap_cons, ih]
      cases item with
      | object others =>
        rw [Json.members?, Except.ok.injEq] at hitem
        rw [hitem]
        rfl
      | null | bool _ | number _ | string _ | array _ => cases hitem
  | null | bool _ | number _ | string _ => cases h

/-- The keys of a compiled order are the requested ones, and all of them are columns. -/
theorem orderTerms_eq {value : Json} {table : Table} {scope? : Option String} {path : String}
    {terms : List OrderTerm} (h : orderTerms value table scope? path = .ok terms) :
    terms = (requestedOrder value).map (fun key => ⟨.column ⟨scope?, key.1, []⟩, key.2⟩) ∧
      ∀ key ∈ requestedOrder value, table.schema.contains key.1 = true := by
  simp only [orderTerms, bind_eq_ok_iff] at h
  obtain ⟨objects, hobjects, hterms⟩ := h
  rw [requestedOrder_of_orderObjects hobjects]
  have hall := forall₂_of_mapM_eq_ok hterms
  clear hterms hobjects
  generalize objects.flatten = entries at hall ⊢
  induction hall with
  | nil => simp
  | @cons entry term rest _ hentry _ ih =>
    simp only [orderTerm, bind_eq_ok_iff] at hentry
    obtain ⟨field, hfield, hentry⟩ := hentry
    cases hdirection : entry.2.string?.bind Direction.ofText? with
    | none => simp [hdirection] at hentry
    | some direction =>
      simp only [hdirection, pure_eq_ok_iff] at hentry
      rw [List.filterMap_cons, orderKey?_eq hdirection]
      simp only [List.map_cons, ← hentry, ← ih.1, List.mem_cons]
      refine ⟨trivial, ?_⟩
      rintro key (rfl | hkey)
      · exact ObjectSchema.contains_of_field hfield
      · exact ih.2 key hkey

/-- The terms of an order have the directions that are asked for. -/
theorem directions_of_orderTerms {value? : Option Json} {table : Table} {scope? : Option String}
    {path : String} {terms : List OrderTerm}
    (h : orderTerms? value? table scope? path = .ok terms) :
    terms.map (·.direction) = (value?.elim [] requestedOrder).map (·.2) := by
  cases value? with
  | none =>
    rw [orderTerms?, Except.ok.injEq] at h
    rw [← h]
    rfl
  | some value =>
    rw [(orderTerms_eq h).1]
    simp

/-- The keys of a compiled order have the values of the requested columns. -/
theorem evalKeys_of_orderTerms {I : Interpretation V} {db : Database V} {value? : Option Json}
    {table : Table} {scope? : Option String} {path : String} {terms : List OrderTerm}
    (h : orderTerms? value? table scope? path = .ok terms) {scope : Scope V} {row : Row V}
    (reads : Reads scope scope? table (Row.value I row)) :
    OrderTerm.evalKeys I db terms scope =
      some ((value?.elim [] requestedOrder).map fun key => Row.value I row key.1) := by
  cases value? with
  | none =>
    rw [orderTerms?, Except.ok.injEq] at h
    rw [← h]
    rfl
  | some value =>
    obtain ⟨rfl, hcolumns⟩ := orderTerms_eq h
    rw [Option.elim_some]
    generalize requestedOrder value = order at hcolumns
    induction order with
    | nil => rfl
    | cons key rest ih =>
      have hkey := reads.own key.1 (hcolumns key (by simp))
      have hrest := ih fun other hother => hcolumns other (by simp [hother])
      simp [OrderTerm.evalKeys, Expr.eval, hkey, hrest, Interpretation.inside]

/-! ## Queries for the rows of a relation -/

/-- The page that an entry asks for is the one of its compiled counts. -/
theorem requestedPage_eq {α : Type} (options? : Option Json) (rows : List α) :
    requestedPage options? rows =
      Sql.page (IncludeOptions.ofEntry options?).take? (IncludeOptions.ofEntry options?).skip? rows := by
  rw [IncludeOptions.ofEntry_eq, requestedPage, entryCount?_eq, entryCount?_eq]
  cases (entryOption? options? "skip").bind Json.unsigned? <;>
    cases (entryOption? options? "take").bind Json.unsigned? <;> rfl

section

variable {I : Interpretation V} {db : Database V} {scope : Scope V} {item : FromItem}
  {rows found : List (Row V)} {condition? : Option Condition} {object : List (String × Expr)}
  {values : Row V → List (String × V)} {terms : List OrderTerm}
  {order : List (String × Direction)} {options : IncludeOptions}

/-- Rows are sorted by the keys of an order. -/
theorem sortBy_orderTerms {shown : List (Row V)}
    (hkeys : ∀ row ∈ shown, OrderTerm.evalKeys I db terms (scope.pushRow (some item) row) =
      some (order.map fun key => Row.value I row key.1))
    (hdirections : terms.map (·.direction) = order.map (·.2)) :
    I.sortBy (terms.map (·.direction))
        (fun row => OrderTerm.evalKeys I db terms (scope.pushRow (some item) row)) shown =
      some (shown.mergeSort (I.rowNotAfter order)) := by
  rw [hdirections]
  apply Interpretation.sortBy_eq
  · intro row hrow
    exact hkeys row hrow
  · exact I.keysNotAfter_map order

/-- The array of the objects of rows in an order. -/
theorem aggregate_eval {shown : List (Row V)}
    (hkeys : ∀ row ∈ shown, OrderTerm.evalKeys I db terms (scope.pushRow (some item) row) =
      some (order.map fun key => Row.value I row key.1))
    (hdirections : terms.map (·.direction) = order.map (·.2))
    (hobject : ∀ row ∈ shown,
      Expr.evalEntries I db object none (scope.pushRow (some item) row) = some (values row)) :
    (Expr.aggregate (.object object) terms).eval I db
        (some (shown.map (scope.pushRow (some item)))) scope =
      some (I.array ((shown.mergeSort (I.rowNotAfter order)).map fun row =>
        I.object (values row))) := by
  have hsorted : I.sortBy (terms.map (·.direction)) (OrderTerm.evalKeys I db terms)
      (shown.map (scope.pushRow (some item))) =
        some ((shown.mergeSort (I.rowNotAfter order)).map (scope.pushRow (some item))) := by
    rw [hdirections]
    apply Interpretation.sortBy_map
    · intro row hrow
      exact hkeys row hrow
    · exact I.keysNotAfter_map order
  have hvalues : (((shown.mergeSort (I.rowNotAfter order)).map (scope.pushRow (some item))).mapM
      fun scope => (Expr.object object).eval I db none scope) =
        some ((shown.mergeSort (I.rowNotAfter order)).map fun row => I.object (values row)) := by
    rw [List.mapM_map]
    apply Sql.mapM_eq_some
    intro row hrow
    simp [Expr.eval, hobject row (List.mem_mergeSort.1 hrow)]
  rw [Expr.eval, hsorted, Option.bind_eq_bind, Option.bind_some, hvalues]
  rfl

/-- The value of the query for the only row of a singular relation; counts are not read. -/
theorem relatedSelect_singular_eval (hrows : item.rows I db scope = some rows)
    (hkeep : Condition.keep I db condition? (scope.pushRow (some item)) rows = some found)
    (hsingle : found.length ≤ 1)
    (hkeys : ∀ row ∈ found, OrderTerm.evalKeys I db terms (scope.pushRow (some item) row) =
      some (order.map fun key => Row.value I row key.1))
    (hdirections : terms.map (·.direction) = order.map (·.2))
    (hobject : ∀ row ∈ found,
      Expr.evalEntries I db object none (scope.pushRow (some item) row) = some (values row))
    (group? : Option (List (Scope V))) :
    (Expr.subquery (relatedSelect true options (.object object) item condition? terms)).eval I db
        group? scope =
      some ((found.map fun row => I.object (values row)).headD I.null) := by
  have hsorted := sortBy_orderTerms hkeys hdirections
  have hcases : found = [] ∨ ∃ row, found = [row] := by
    cases found with
    | nil => exact .inl rfl
    | cons row rest =>
      have hrest := List.length_eq_zero_iff.1 (Nat.le_zero.1 (Nat.le_of_succ_le_succ hsingle))
      exact .inr ⟨row, by rw [hrest]⟩
  have hshort : found.mergeSort (I.rowNotAfter order) = found := by
    rcases hcases with rfl | ⟨row, rfl⟩
    · exact List.mergeSort_nil
    · exact List.mergeSort_singleton row
  have hvalues : (found.mapM fun row =>
      Projection.evalRow I db [.plain (.object object)] none (scope.pushRow (some item) row)) =
        some (found.map fun row => [("", I.object (values row))]) := by
    apply Sql.mapM_eq_some
    intro row hrow
    simp [Projection.evalRow, Projection.plain, Projection.name, Expr.eval, hobject row hrow]
  have hselect : (relatedSelect true options (.object object) item condition? terms).eval I db
      scope = some (found.map fun row => [("", I.object (values row))]) := by
    simp only [relatedSelect, if_true, Select.ofColumns, Select.eval, FromItem.clauseRows, hrows,
      hkeep, Option.bind_eq_bind, Option.bind_some, hsorted, hshort]
    exact hvalues
  rw [Expr.eval, hselect]
  rcases hcases with rfl | ⟨row, rfl⟩ <;> rfl

/-- A subquery with an aggregate as its only column has the value of the aggregate. -/
theorem aggregateSubquery_eval {value : Expr} {result : V}
    (hrows : item.rows I db scope = some rows)
    (hkeep : Condition.keep I db condition? (scope.pushRow (some item)) rows = some found)
    (hresult : (Expr.aggregate value terms).eval I db
      (some (found.map (scope.pushRow (some item)))) scope = some result)
    (group? : Option (List (Scope V))) :
    (Expr.subquery ⟨[.plain (.aggregate value terms)], some item, condition?, [], none, none⟩).eval
      I db group? scope = some result := by
  have hrow : Projection.evalRow I db [.plain (.aggregate value terms)]
      (some (found.map (scope.pushRow (some item)))) scope = some [("", result)] := by
    simp [Projection.evalRow, Projection.plain, Projection.name, hresult]
  have haggregate : [Projection.plain (.aggregate value terms)].any Projection.isAggregate = true :=
    rfl
  have hselect : Select.eval I db
      ⟨[.plain (.aggregate value terms)], some item, condition?, [], none, none⟩ scope =
        some [[("", result)]] := by
    simp only [Select.eval, FromItem.clauseRows, hrows, hkeep, Option.bind_eq_bind,
      Option.bind_some, haggregate, if_true, hrow]
    rfl
  rw [Expr.eval, hselect]
  rfl

/-- The value of the query for the rows of a plural relation. -/
theorem relatedSelect_plural_eval (hrows : item.rows I db scope = some rows)
    (hkeep : Condition.keep I db condition? (scope.pushRow (some item)) rows = some found)
    (hkeys : ∀ row ∈ found, OrderTerm.evalKeys I db terms (scope.pushRow (some item) row) =
      some (order.map fun key => Row.value I row key.1))
    (hdirections : terms.map (·.direction) = order.map (·.2))
    (hobject : ∀ row ∈ found,
      Expr.evalEntries I db object none (scope.pushRow (some item) row) = some (values row))
    (group? : Option (List (Scope V))) :
    (Expr.subquery (relatedSelect false options (.object object) item condition? terms)).eval I db
        group? scope =
      some (I.array ((Sql.page options.take? options.skip?
        (found.mergeSort (I.rowNotAfter order))).map fun row => I.object (values row))) := by
  by_cases hpaginated : options.isPaginated = true
  · -- The page is cut out of the sorted rows, and sorting it again changes nothing.
    have hsorted := sortBy_orderTerms hkeys hdirections
    let shown := Sql.page options.take? options.skip? (found.mergeSort (I.rowNotAfter order))
    let query : Select := ⟨[], some item, condition?, terms, options.take?, options.skip?⟩
    have hpage : FromItem.rows I db (.subquery query item.scope) scope = some shown := by
      simp only [FromItem.rows, query, Select.eval, FromItem.clauseRows, hrows, hkeep,
        Option.bind_eq_bind, Option.bind_some, hsorted]
      rfl
    have hsublist : shown.Sublist (found.mergeSort (I.rowNotAfter order)) :=
      Sql.page_sublist _ _ _
    have hmem : ∀ row ∈ shown, row ∈ found := by
      intro row hrow
      exact List.mem_mergeSort.1 (hsublist.subset hrow)
    have hpairwise : shown.Pairwise fun a b => I.rowNotAfter order a b = true :=
      (List.pairwise_mergeSort (I.rowNotAfter_trans order) (I.rowNotAfter_total order)
        found).sublist hsublist
    have harray := aggregate_eval (fun row hrow => hkeys row (hmem row hrow)) hdirections
      fun row hrow => hobject row (hmem row hrow)
    rw [List.mergeSort_of_pairwise hpairwise] at harray
    rw [relatedSelect, if_neg Bool.false_ne_true]
    simp only [hpaginated, if_true]
    have hshown : Condition.keep I db none
        (scope.pushRow (some (.subquery query item.scope))) shown = some shown := rfl
    exact aggregateSubquery_eval hpage hshown harray group?
  · have hcounts : options.take? = none ∧ options.skip? = none := by
      rw [IncludeOptions.isPaginated, Bool.or_eq_true, not_or] at hpaginated
      simpa [and_comm] using hpaginated
    rw [relatedSelect, if_neg Bool.false_ne_true, hcounts.1, hcounts.2]
    simp only [hpaginated]
    exact aggregateSubquery_eval hrows hkeep (aggregate_eval hkeys hdirections hobject) group?

end

/-! ## Values of compiled columns -/

section

variable {I : Interpretation V} {db : Database V} {scope : Scope V} {base : V}

mutual

/-- The output field of the entry of a key has the value that the entry asks for. -/
theorem nestedEntry_eval : ∀ {field? : Option Field} {target : ColumnRef} {key keyPath : String}
    {entry : Json} {fields : List (String × Expr)},
    scope.resolve target.qualifier? target.name = some base →
      nestedEntry field? target key keyPath entry = .ok fields →
        Expr.evalEntries I db fields none scope =
          some (nestedEntryMeaning I (I.inside target.path base) key entry)
  | field?, target, key, keyPath, .bool false, fields, _, h => by
    rw [nestedEntry, Except.ok.injEq] at h
    rw [← h]
    rfl
  | field?, target, key, keyPath, .bool true, fields, htarget, h => by
    rw [nestedEntry, Except.ok.injEq] at h
    rw [← h]
    simp [Expr.evalEntries, Expr.eval, htarget, nestedEntryMeaning]
  | some field, target, key, keyPath, .object members, fields, htarget, h => by
    rw [nestedEntry] at h
    split at h
    · simp only [bind_eq_ok_iff, pure_eq_ok_iff] at h
      obtain ⟨nested, hnested, rfl⟩ := h
      simp [Expr.evalEntries, Expr.eval, nestedFields_eval htarget hnested, nestedEntryMeaning]
    · simp at h
  | none, target, key, keyPath, .object members, fields, _, h
  | field?, target, key, keyPath, .null, fields, _, h
  | field?, target, key, keyPath, .number _, fields, _, h
  | field?, target, key, keyPath, .string _, fields, _, h
  | field?, target, key, keyPath, .array _, fields, _, h => by
    simp [nestedEntry] at h

/-- The entries of the object of a select tree have the values that the tree asks for. -/
theorem nestedFields_eval : ∀ {field : Field} {target : ColumnRef} {path : String}
    {members : List (String × Json)} {fields : List (String × Expr)},
    scope.resolve target.qualifier? target.name = some base →
      nestedFields field target path members = .ok fields →
        Expr.evalEntries I db fields none scope =
          some (nestedFieldsMeaning I (I.inside target.path base) members)
  | field, target, path, [], fields, _, h => by
    rw [nestedFields, Except.ok.injEq] at h
    rw [← h]
    rfl
  | field, target, path, (key, entry) :: rest, fields, htarget, h => by
    simp only [nestedFields, bind_eq_ok_iff, pure_eq_ok_iff] at h
    obtain ⟨child?, -, first, hfirst, others, hothers, rfl⟩ := h
    have hkey : I.inside (target.key key).path base = I.subscript (I.inside target.path base) key := by
      simp [ColumnRef.key, Interpretation.inside]
    have hnested : scope.resolve (target.key key).qualifier? (target.key key).name = some base :=
      htarget
    have hhead := nestedEntry_eval hnested hfirst
    rw [hkey] at hhead
    exact Expr.evalEntries_append hhead (nestedFields_eval htarget hothers)

end

end

/-- All columns of a table have the values of a row. -/
theorem allColumnFields_eval {I : Interpretation V} {db : Database V} {scope : Scope V}
    {name : String} {table : Table} {row : Row V}
    (reads : Reads scope (some name) table (Row.value I row)) :
    Expr.evalEntries I db (allColumnFields table name) none scope =
      some (table.schema.fieldNames.map fun column => (column, Row.value I row column)) := by
  have hall : ∀ column ∈ table.schema.fieldNames,
      scope.resolve (some name) column = some (Row.value I row column) := by
    intro column hcolumn
    exact reads.own column (ObjectSchema.contains_iff.2 hcolumn)
  unfold allColumnFields
  generalize table.schema.fieldNames = names at hall
  induction names with
  | nil => rfl
  | cons column rest ih =>
    have hcolumn := hall column (by simp)
    have hrest := ih fun other hother => hall other (by simp [hother])
    simp only [ColumnRef.qualified] at hrest
    simp [Expr.evalEntries, Expr.eval, ColumnRef.qualified, hcolumn, hrest, Interpretation.inside]

/-! ## Meanings of derivations -/

/-- The values that a part of two trees asks for. -/
def ProjectionTask.meaning (I : Interpretation V) (db : Database V) (repository : Repository)
    (table : Table) (row : Row V) : ProjectionTask → List (String × V)
  | .fields select? include? => fieldsMeaning I db repository select? include? table row
  | .selected includes entries => selectedMeaning I db repository includes entries table row
  | .included includes named => includedMeaning I db repository includes named table row
  | .relation key r selection? included? =>
    [(key, relationMeaning I db repository r selection? included? row)]

namespace ProjectionContext

variable {I : Interpretation V} {db : Database V} {context : ProjectionContext}

/-- The condition of the filter of related rows means the filter, which may be absent. -/
theorem relatedFilter_eval (coherent : context.repository.Coherent)
    (conforms : db.Conforms context.repository) {related : Table}
    (known : context.repository.table? related.name = some related) {inner : String}
    (apart : ¬ InFamily context.config.filterStem inner) {filter? : Option Json}
    {extra? : Option Condition} {n m : Nat}
    (h : context.RelatedFilter related inner filter? n extra? m) {relatedRow : Row V}
    (fits : Row.Fits relatedRow related) (scope : Scope V) :
    Condition.evalOption I db extra? (scope.push (.ofRow inner relatedRow)) =
      some (filter?.elim .yes (filterMeaning I db context.repository related relatedRow)) := by
  cases filter? with
  | none =>
    rw [h.1]
    rfl
  | some filter =>
    obtain ⟨path, h⟩ := h
    obtain ⟨members, conditions, rfl, rfl, derives⟩ := FilterContext.derives_of_condition h
    rw [Condition.evalOption_all]
    exact derives.meaning coherent conforms known (fits.reads scope inner)
      (.of_not_inFamily apart n)

/-- The joined rows that fulfil the filter are the rows that are found. -/
theorem keep_related (coherent : context.repository.Coherent)
    (conforms : db.Conforms context.repository) {table related : Table} {relation : Relation}
    (belongs : relation.Coherent context.repository table)
    (known : context.repository.table? relation.relatedTable = some related) {scope : Scope V}
    {outer inner : String} {row : Row V} (reads : Reads scope (some outer) table (Row.value I row))
    (apart : inner ≠ outer) (apartFilters : ¬ InFamily context.config.filterStem inner)
    {filter? : Option Json} {extra? : Option Condition} {n m : Nat}
    (h : context.RelatedFilter related inner filter? n extra? m) {rows : List (Row V)}
    (hrows : db relation.relatedTable = some rows) (fits : ∀ row ∈ rows, Row.Fits row related) :
    Condition.keep I db (some ((relation.join inner outer).joinedWith extra?))
        (scope.pushRow (some (.aliased relation.relatedTable inner))) rows =
      some (foundRows I db context.repository relation related filter? row) := by
  have hknown := Repository.table?_self known
  have hsource : related.schema.contains relation.sourceColumn = true :=
    belongs.source_of_table? known
  have htruth : ∀ relatedRow ∈ rows,
      ((relation.join inner outer).joinedWith extra?).eval I db
          (scope.pushRow (some (.aliased relation.relatedTable inner)) relatedRow) =
        some ((I.compare .equal (Row.value I relatedRow relation.sourceColumn)
          (Row.value I row relation.targetColumn)).and
            (filter?.elim .yes (filterMeaning I db context.repository related relatedRow))) := by
    intro relatedRow hmem
    have hfit := fits relatedRow hmem
    exact Condition.eval_joinedWith
      (Relation.join_eval reads hfit hsource belongs.target apart)
      (relatedFilter_eval coherent conforms hknown apartFilters h hfit scope)
  have hfound : (rows.filter fun relatedRow =>
      (I.compare .equal (Row.value I relatedRow relation.sourceColumn)
        (Row.value I row relation.targetColumn)).and
          (filter?.elim .yes (filterMeaning I db context.repository related relatedRow)) = .yes) =
      foundRows I db context.repository relation related filter? row := by
    simp [foundRows, Database.relatedRows, Database.rowsOf, hrows, List.filter_filter,
      Truth.and_eq_yes_iff, and_comm]
  rw [Condition.keep, Sql.keepTrue_eq htruth, hfound]

/-- The query for the rows of a relation gives the object of the only row that is found, or the
array of the objects of a page of them. -/
theorem relatedQuery_eval (coherent : context.repository.Coherent)
    (conforms : db.Conforms context.repository) {table related : Table} {relation : Relation}
    (belongs : relation.Coherent context.repository table)
    (known : context.repository.table? relation.relatedTable = some related) {scope : Scope V}
    {outer inner : String} {row : Row V} (reads : Reads scope (some outer) table (Row.value I row))
    (apart : inner ≠ outer) (apartFilters : ¬ InFamily context.config.filterStem inner)
    {options : IncludeOptions} {extra? : Option Condition} {n m : Nat}
    (filter : context.RelatedFilter related inner options.filter? n extra? m) {path : String}
    {terms : List OrderTerm}
    (ordered : orderTerms? options.order? related (some inner) path = .ok terms)
    {object : List (String × Expr)} {values : Row V → List (String × V)}
    (hobject : ∀ relatedRow ∈ db.rowsOf relation.relatedTable, Row.Fits relatedRow related →
      Expr.evalEntries I db object none (scope.push (.ofRow inner relatedRow)) =
        some (values relatedRow))
    (hsingle : relation.shape.isSingular = true → (db.relatedRows I relation row).length ≤ 1) :
    (Expr.subquery (relatedQuery relation options object inner outer extra? terms)).eval I db none
        scope =
      let found := foundRows I db context.repository relation related options.filter? row
      some (if relation.shape.isSingular then
          (found.map fun relatedRow => I.object (values relatedRow)).headD I.null
        else I.array ((Sql.page options.take? options.skip?
          (found.mergeSort (I.rowNotAfter (options.order?.elim [] requestedOrder)))).map
            fun relatedRow => I.object (values relatedRow))) := by
  obtain ⟨rows, hrows, hfits⟩ := conforms _ _ known
  have hkeep := keep_related coherent conforms belongs known reads apart apartFilters filter hrows
    hfits
  have hmem : ∀ relatedRow ∈ foundRows I db context.repository relation related options.filter? row,
      relatedRow ∈ rows := by
    intro relatedRow hfound
    have hjoined := (List.mem_filter.1 hfound).1
    rw [Database.relatedRows, Database.rowsOf, hrows] at hjoined
    exact (List.mem_filter.1 hjoined).1
  have hreads := fun relatedRow hfound =>
    (hfits relatedRow (hmem relatedRow hfound)).reads (I := I) scope inner
  have hvalues := fun relatedRow hfound =>
    hobject relatedRow (by rw [Database.rowsOf, hrows]; exact hmem relatedRow hfound)
      (hfits relatedRow (hmem relatedRow hfound))
  have hdirections := directions_of_orderTerms ordered
  have hitem : FromItem.rows I db (.aliased relation.relatedTable inner) scope = some rows := by
    rw [FromItem.aliased, FromItem.rows]
    exact hrows
  unfold relatedQuery
  cases hshape : relation.shape.isSingular with
  | true =>
    have hlength : (foundRows I db context.repository relation related options.filter? row).length ≤
        1 :=
      Nat.le_trans (List.length_filter_le _ _) (hsingle hshape)
    exact relatedSelect_singular_eval hitem hkeep hlength
      (fun relatedRow hfound => evalKeys_of_orderTerms ordered (hreads relatedRow hfound))
      hdirections hvalues none
  | false =>
    exact relatedSelect_plural_eval hitem hkeep
      (fun relatedRow hfound => evalKeys_of_orderTerms ordered (hreads relatedRow hfound))
      hdirections hvalues none

/-- The expressions of a derivation have the values that its part of the trees asks for, in every
scope that gives the values of a row under a name that is not handed out any more. -/
theorem Derives.meaning (coherent : context.repository.Coherent)
    (conforms : db.Conforms context.repository) (single : db.Single I context.repository)
    (disjoint : DisjointFamilies context.config.projectionStem context.config.filterStem)
    {table : Table} {name : String} {task : ProjectionTask} {fields : List (String × Expr)}
    {a b : Aliases} (h : context.Derives table name task a fields b) {scope : Scope V}
    {row : Row V} (belongs : task.Belongs table)
    (known : context.repository.table? table.name = some table)
    (reads : Reads scope (some name) table (Row.value I row))
    (rowSingle : Row.Single I db table row)
    (fresh : FreshFrom context.config.projectionStem a.projections name)
    (apart : ¬ InFamily context.config.filterStem name) :
    Expr.evalEntries I db fields none scope =
      some (task.meaning I db context.repository table row) := by
  induction h generalizing scope row with
  | @all table name include? included _ _ others ih =>
    have hincluded := ih trivial known reads rowSingle fresh apart
    rw [Expr.evalEntries_append (allColumnFields_eval reads) hincluded, ProjectionTask.meaning,
      ProjectionTask.meaning, fieldsMeaning, treeMembers_eq]
  | tree entries others ihEntries ihOthers =>
    have hselected := ihEntries trivial known reads rowSingle fresh apart
    have hincluded := ihOthers trivial known reads rowSingle (fresh.mono entries.projections_le) apart
    rw [Expr.evalEntries_append hselected hincluded, ProjectionTask.meaning, ProjectionTask.meaning,
      ProjectionTask.meaning, fieldsMeaning, treeMembers_eq]
    rfl
  | nothingSelected =>
    rw [ProjectionTask.meaning, selectedMeaning]
    rfl
  | hidden hrelation _ ih =>
    rw [ih trivial known reads rowSingle fresh apart]
    rw [Table.relation?] at hrelation
    simp [ProjectionTask.meaning, selectedMeaning, hrelation]
  | selectedRelation hrelation shown head tail ihHead ihTail =>
    have hhead := ihHead (Table.mem_of_relation? hrelation) known reads rowSingle fresh apart
    have htail := ihTail trivial known reads rowSingle (fresh.mono head.projections_le) apart
    rw [Expr.evalEntries_append hhead htail, ← ownTree?_eq, ← shownAs?_eq]
    rw [Table.relation?] at hrelation
    simp [ProjectionTask.meaning, selectedMeaning, hrelation, shown]
  | @selectedColumn table name path key value _ _ first _ _ _ unknown head tail ih =>
    have htail := ih trivial known reads rowSingle fresh apart
    simp only [columnFields, bind_eq_ok_iff] at head
    obtain ⟨field, hfield, hentry⟩ := head
    have hcolumn : scope.resolve (ColumnRef.qualified name key).qualifier? key =
        some (Row.value I row key) := reads.own key (ObjectSchema.contains_of_field hfield)
    have hhead : Expr.evalEntries I db first none scope =
        some (nestedEntryMeaning I (I.inside [] (Row.value I row key)) key value) :=
      nestedEntry_eval hcolumn hentry
    rw [Expr.evalEntries_append hhead htail]
    rw [Table.relation?] at unknown
    simp [ProjectionTask.meaning, selectedMeaning, unknown, Interpretation.inside]
  | nothingIncluded =>
    rw [ProjectionTask.meaning, includedMeaning]
    rfl
  | skipped hidden _ ih =>
    rw [ih trivial known reads rowSingle fresh apart]
    rw [List.contains_iff_mem] at hidden
    simp only [ProjectionTask.meaning, includedMeaning, hidden, if_true, List.nil_append]
  | includedRelation shown hrelation head tail ihHead ihTail =>
    have hhead := ihHead (Table.mem_of_relation? hrelation) known reads rowSingle fresh apart
    have htail := ihTail trivial known reads rowSingle (fresh.mono head.projections_le) apart
    rw [Expr.evalEntries_append hhead htail]
    rw [List.contains_iff_mem] at shown
    rw [Table.relation?] at hrelation
    simp only [ProjectionTask.meaning, includedMeaning, hrelation, shown, if_false]
  | @relation table related name key path relation selection? included? object _ _ a _ _ hrelated
      inner filter ordered ih =>
    have hknown := Repository.table?_self hrelated
    have hapart := disjoint _ (inFamily_numberedName context.config.projectionStem a.projections)
    have hobject := fun relatedRow (hrow : relatedRow ∈ db.rowsOf relation.relatedTable) fits =>
      ih trivial hknown
        (Row.Fits.reads fits scope (numberedName context.config.projectionStem a.projections))
        (single _ _ hrelated relatedRow hrow) (freshFrom_numberedName _ a.projections) hapart
    have hquery := relatedQuery_eval coherent conforms (coherent _ _ known _ belongs) hrelated reads
      (fresh a.projections (Nat.le_refl _)).symm hapart filter ordered hobject
      (rowSingle relation belongs)
    simp only [← requestedPage_eq] at hquery
    simp only [Expr.evalEntries, hquery, ProjectionTask.meaning, relationMeaning, hrelated]
    rw [IncludeOptions.ofEntry_eq]
    rfl

/-- An output column has the name of its expression. -/
theorem outputColumn_name (field : String × Expr) : (outputColumn field).name = field.1 := by
  unfold outputColumn
  split
  · rename_i qualifier? name hcolumn
    split
    · rename_i hname
      rw [Projection.plain, Projection.name, hcolumn]
      exact hname
    · rfl
  · rfl

/-- The row of output columns holds the values of the fields. -/
theorem evalRow_outputColumns (fields : List (String × Expr)) (scope : Scope V) :
    Projection.evalRow I db (fields.map outputColumn) none scope =
      Expr.evalEntries I db fields none scope := by
  induction fields with
  | nil => rfl
  | cons field rest ih =>
    rw [List.map_cons, Projection.evalRow_cons, expr_outputColumn, outputColumn_name, ih]
    rfl

/-- Compiled output columns give the row that a select and an include tree ask for: for every
database with the tables of an accepted repository in which singular relations have at most one row,
and every row that a scope gives under a name apart from the aliases of projections and filters. -/
theorem projections_meaning (accepted : context.repository.Accepted)
    (conforms : db.Conforms context.repository) (single : db.Single I context.repository)
    (disjoint : DisjointFamilies context.config.projectionStem context.config.filterStem)
    {select? include? : Option Json} {tableName name : String} {columns : List Projection}
    {a b : Aliases}
    (compiled : Returns (context.projections select? include? tableName name) a columns b)
    {table : Table} (known : context.repository.table? tableName = some table) {scope : Scope V}
    {row : Row V} (reads : Reads scope (some name) table (Row.value I row))
    (rowSingle : Row.Single I db table row)
    (apart : ¬ InFamily context.config.projectionStem name)
    (apartFilters : ¬ InFamily context.config.filterStem name) :
    Projection.evalRow I db columns none scope =
      some (fieldsMeaning I db context.repository select? include? table row) := by
  obtain ⟨other, fields, hother, rfl, derives⟩ := derives_of_projections compiled
  obtain rfl : table = other := by simpa [known] using hother
  have hknown := Repository.table?_self known
  rw [evalRow_outputColumns]
  exact derives.meaning accepted.coherent conforms single disjoint trivial hknown reads rowSingle
    (.of_not_inFamily apart _) apartFilters

end ProjectionContext

namespace Library

/-- The year of a book. -/
def yearTree : Json := .object [("year", .bool true)]

/-- The name of an author with the years of books. -/
def authorTree : Json := .object [("name", .bool true), ("books", yearTree)]

/-- Books before the year 12, the latest first; one is skipped, and the next one is taken. -/
def laterBook : Json :=
  .object [("where", .object [("year", .object [("lt", Json.ofUInt64 12)])]),
    ("order", .object [("year", .string "desc")]), ("skip", Json.ofUInt64 1),
    ("take", Json.ofUInt64 1)]

/-- The books of an author by the options for them. -/
def laterTree : Json := .object [("books", laterBook)]

/-- The context of projections over the library. -/
def projection : ProjectionContext := ⟨repository, .default⟩

/-- No book of the library has two writers. -/
theorem single : database.Single .json repository := by
  intro name table h row hrow
  rcases table?_cases h with ⟨rfl, rfl⟩ | ⟨rfl, rfl⟩
  · intro relation hrelation hshape
    rw [List.mem_singleton.1 hrelation] at hshape
    exact absurd hshape (by decide)
  · intro relation hrelation _
    rw [List.mem_singleton.1 hrelation]
    exact List.length_filter_le _ _

/-- A tree of years is compiled to the column. -/
theorem compiledYears (path : String) :
    Returns (projection.fields (some yearTree) none book (numberedName "S" 0) path) ⟨1, 0⟩
      [("year", .column (.qualified (numberedName "S" 0) "year"))] ⟨1, 0⟩ := by
  rw [yearTree, ProjectionContext.fields]
  simp only [Json.membersOf, ProjectionContext.selectedFields, ProjectionContext.includedFields]
  rfl

/-- The order of the later books is by year, from the last one. -/
theorem compiledOrder (name path : String) :
    orderTerms? (IncludeOptions.ofEntry (some laterBook)).order? book (some name) path =
      .ok [⟨.column ⟨some name, "year", []⟩, .descending⟩] := by
  have hdirection : Direction.ofText? "desc" = some .descending := by decide +kernel
  have hentry : orderTerm book (some name) path ("year", .string "desc") =
      .ok ⟨.column ⟨some name, "year", []⟩, .descending⟩ := by
    simp only [orderTerm, Json.string?, Option.bind_some, hdirection]
    rfl
  have horder : (IncludeOptions.ofEntry (some laterBook)).order? =
      some (.object [("year", .string "desc")]) := rfl
  rw [horder, orderTerms?, orderTerms, orderObjects]
  simp [hentry]

/-- The books of an author are compiled to a subquery. -/
theorem compiledBooks (path : String) :
    ∃ expr, Returns (projection.relationExpr books (some yearTree) (some laterBook) "author" path)
      ⟨0, 0⟩ expr ⟨1, 0⟩ := by
  apply Exists.intro
  have hfilter : (IncludeOptions.ofEntry (some laterBook)).filter? =
      some (.object [("year", .object [("lt", Json.ofUInt64 12)])]) := rfl
  rw [ProjectionContext.relationExpr]
  simp only [returns_bind, returns_monadLift, returns_inProjections, returns_fresh]
  refine ⟨book, _, ⟨rfl, rfl⟩, (), _, ⟨rfl, rfl⟩, _, _, ⟨_, ⟨rfl, rfl⟩, rfl⟩, _, _,
    compiledYears path, ?_⟩
  simp only [hfilter, returns_bind, returns_inFilters, returns_monadLift, returns_pure,
    compiledOrder]
  exact ⟨_, _, ⟨_, rfl, rfl⟩, _, _, ⟨rfl, rfl⟩, _, _, ⟨rfl, rfl⟩, rfl, rfl⟩

/-- The fields of an author with the later books are compiled. -/
theorem compiledAuthor :
    ∃ fields, Returns (projection.fields (some authorTree) (some laterTree) author "author" "author")
      ⟨0, 0⟩ fields ⟨1, 0⟩ := by
  obtain ⟨expr, hbooks⟩ := compiledBooks "author.books"
  refine ⟨[("name", .column (.qualified "author" "name")), ("books", expr)], ?_⟩
  have hname : author.relation? "name" = none := rfl
  have hrelation : author.relation? "books" = some books := rfl
  have hshown : yearTree ≠ .bool false := by decide
  have hentry : includedAs? [("books", laterBook)] "books" = some laterBook := rfl
  have hnamed : laterBook = .bool false ∨
      (Members.keys [("name", .bool true), ("books", yearTree)]).contains "books" = true :=
    .inr (by decide)
  rw [authorTree, laterTree, ProjectionContext.fields]
  simp only [Json.membersOf, ProjectionContext.selectedFields, ProjectionContext.includedFields,
    hname, hrelation, hshown, hentry, hnamed, if_true, if_false, returns_bind, returns_monadLift,
    returns_pure]
  exact ⟨_, _, ⟨rfl, rfl⟩, _, _, ⟨_, _, ⟨rfl, rfl⟩, _, _,
    ⟨_, _, ⟨rfl, rfl⟩, _, _, hbooks, _, _, ⟨rfl, rfl⟩, _, _, ⟨rfl, rfl⟩, rfl, rfl⟩, rfl, rfl⟩,
    _, _, ⟨_, _, ⟨rfl, rfl⟩, _, _, ⟨rfl, rfl⟩, rfl, rfl⟩, rfl, rfl⟩

/-- A tree of years asks for the year of a book. -/
theorem meaning_years (row : Row Json) :
    fieldsMeaning .json database repository (some yearTree) none book row =
      [("year", Row.value .json row "year")] := by
  have hyear : book.relations.find? (·.name == "year") = none := rfl
  rw [yearTree, fieldsMeaning]
  simp only [treeMembers, selectedMeaning, includedMeaning, hyear]
  rfl

/-- The books before the year 12 from the latest to the first. -/
theorem sortedBooks : [bookRow 1 5, bookRow 2 3, bookRow 3 9].mergeSort
    (Interpretation.json.rowNotAfter [("year", .descending)]) =
      [bookRow 3 9, bookRow 1 5, bookRow 2 3] := by
  have hfirst : Interpretation.json.rowNotAfter [("year", .descending)] (bookRow 1 5)
      (bookRow 2 3) = true := rfl
  have hlater : Interpretation.json.rowNotAfter [("year", .descending)] (bookRow 1 5)
      (bookRow 3 9) = false := rfl
  simp [List.mergeSort, hfirst, hlater]

/-- Of the later books of the author one is on the page. -/
theorem meaning_books :
    relationMeaning .json database repository books (some yearTree) (some laterBook) ada =
      .array [.object [("year", Json.ofUInt64 5)]] := by
  have hknown : repository.table? books.relatedTable = some book := rfl
  have hselect : (some yearTree <|> entryOption? (some laterBook) "select") = some yearTree := rfl
  have hinclude : entryOption? (some laterBook) "include" = none := rfl
  have horder : (entryOption? (some laterBook) "order").elim [] requestedOrder =
      [("year", .descending)] := by decide +kernel
  have hfound : foundRows .json database repository books book
      (entryOption? (some laterBook) "where") ada = [bookRow 1 5, bookRow 2 3, bookRow 3 9] := rfl
  rw [relationMeaning]
  simp only [hknown, hselect, hinclude, horder, meaning_years, hfound, sortedBooks]
  rfl

/-- The author has a name and this book. -/
theorem meaning_author :
    fieldsMeaning .json database repository (some authorTree) (some laterTree) author ada =
      [("name", .string "Ada"), ("books", .array [.object [("year", Json.ofUInt64 5)]])] := by
  have hname : author.relations.find? (·.name == "name") = none := rfl
  have hrelation : author.relations.find? (·.name == "books") = some books := rfl
  have hshown : yearTree ≠ .bool false := by decide
  have hentry : shownAs? [("books", laterBook)] "books" = some laterBook := rfl
  have htree : ownTree? yearTree = some yearTree := rfl
  have hnamed : laterBook = .bool false ∨
      "books" ∈ [("name", Json.bool true), ("books", yearTree)].map (·.1) := .inr (by decide)
  rw [authorTree, laterTree, fieldsMeaning]
  simp only [treeMembers, selectedMeaning, includedMeaning, hname, hrelation, hshown, hentry, htree,
    hnamed, if_true, if_false, meaning_books]
  rfl

end Library

namespace ProjectionContext

/-- The author comes with the second latest of the books that the filter leaves. -/
theorem projections_meaning_library :
    ∃ columns next,
      Returns (Library.projection.projections (some Library.authorTree)
        (some Library.laterTree) "author" "author") .start columns next ∧
      Projection.evalRow .json Library.database columns none
          [[.ofRow "author" Library.ada]] =
        some [("name", .string "Ada"),
          ("books", .array [.object [("year", Json.ofUInt64 5)]])] := by
  obtain ⟨fields, hfields⟩ := Library.compiledAuthor
  have hcompiled : Returns (Library.projection.projections (some Library.authorTree)
      (some Library.laterTree) "author" "author") .start
        (fields.map outputColumn) ⟨1, 0⟩ := by
    simp only [projections, returns_bind, returns_monadLift, returns_pure]
    exact ⟨Library.author, _, ⟨rfl, rfl⟩, fields, _, hfields, rfl, rfl⟩
  have hdisjoint : DisjointFamilies "S" "W" :=
    disjointFamilies_of_stems (by decide) (by decide)
  have hsingle : Row.Single .json Library.database Library.author Library.ada :=
    Library.single "author" _ rfl _ (by decide)
  have hknown : Library.repository.table? "author" = some Library.author := rfl
  have hreads : Reads (Scope.push [] (.ofRow "author" Library.ada)) (some "author") Library.author
      (Row.value .json Library.ada) := Library.ada_fits.reads [] "author"
  refine ⟨_, _, hcompiled, ?_⟩
  rw [← Library.meaning_author]
  refine projections_meaning Library.accepted Library.conforms Library.single hdisjoint hcompiled
    hknown hreads hsingle ?_ ?_
  · intro h
    exact absurd h.startsWith_stem (by decide)
  · intro h
    exact absurd h.startsWith_stem (by decide)

end ProjectionContext

end RelationalQuery
