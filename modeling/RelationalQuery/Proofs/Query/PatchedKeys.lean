import RelationalQuery.Proofs.Filter.DeclaredKeys
import RelationalQuery.Proofs.Filter.Meaning
import RelationalQuery.Proofs.Query.PatchForms
import RelationalQuery.Proofs.Query.WriteSet

/-!
# Patched keys and filters on them

An update of a single key in an object column is a patch of this key.  A filter with the same entry
compares the key with the same value.  So a row that the update changes is found by the filter,
whichever form the patch has and whatever the key is called.

Two things are told apart.  Null is stored as JSON null, while a filter for null looks for a missing
value.  And a column can be named like a group of filters, which a filter then takes it for.

Main results:

- `WriteContext.update_of_key`: the statement of an update of a single key.
- `predicates_of_key`: the condition of a filter on a single key.
- `WriteContext.patched_key_found`: the filter finds the rows that the update changes.
- `WriteContext.patched_key_lost`: null and the names of groups are not found.
-/

namespace RelationalQuery

open Sql (Arithmetic Assignment Chain ColumnRef Condition Database Expr Interpretation Item Patch
  Projection Row Scope Stored)

/-- The entry of a single key inside a column, in the data of an update or in a filter. -/
def keyEntry (column key : String) (value : Json) : Members := [(column, .object [(key, value)])]

/-! ## The update -/

namespace WriteContext

variable {context : WriteContext} {table : Table} {column key : String} {value : Json}
  {field : Field} {s t : Progress}

/-- A key of a patch that gets neither an object nor null is bound as JSON. -/
theorem patchExpr_bound {nested : ObjectSchema} {path : String} {qualifier? : Option String}
    {expr : Expr} (scalar : value.members? = none) (nonnull : value.isNull = false)
    (h : Returns (context.patchExpr column nested path qualifier? (key, value)) s expr t) :
    (∃ child, nested.get? key = some child) ∧ expr = .parameter (.json value) := by
  obtain ⟨child, hchild, ⟨members, hmembers, -⟩ | ⟨-, -, rfl⟩⟩ := patchExpr_cases h
  · simp [operationMembers?, scalar] at hmembers
  · refine ⟨⟨child, hchild⟩, ?_⟩
    simp [nonnull]

/-- The entry of a single key in a plain object column is a patch of this key. -/
theorem fieldAssignments_of_key {schema : ObjectSchema} {path : String}
    {qualifier? : Option String} {assignments : List Assignment}
    (known : schema.get? column = some field) (plain : field.isPlainObject = true)
    (scalar : value.members? = none) (nonnull : value.isNull = false)
    (h : Returns (context.fieldAssignments schema path qualifier?
      (column, .object [(key, value)])) s assignments t) :
    ∃ nested child, field.objectSchema? = some nested ∧ nested.get? key = some child ∧
      assignments = (Patch.ofEntries column qualifier?
        [(key, .parameter (.json value))]).assignments nested := by
  obtain ⟨nested, hnested⟩ : ∃ nested, field.objectSchema? = some nested := by
    rw [← Option.isSome_iff_exists]
    simp only [Field.isPlainObject, Field.isObject, Bool.and_eq_true] at plain
    exact plain.1.1
  have hpatched : patched? field (.object [(key, value)]) = some (nested, [(key, value)]) :=
    patched?_eq_some_iff.2 ⟨plain, hnested, rfl⟩
  obtain ⟨found, hfound, hcases⟩ := fieldAssignments_cases h
  obtain rfl : field = found := Option.some.inj (known.symm.trans hfound)
  rcases hcases with ⟨members, expr, hoperation, -⟩ | ⟨_, _, -, hother, hassignments⟩ |
    ⟨_, -, hunpatched, -⟩
  · simp [patched?_of_operation hoperation] at hpatched
  · obtain ⟨rfl, rfl⟩ : nested = _ ∧ [(key, value)] = _ := by
      simpa using hpatched.symm.trans hother
    obtain ⟨entries, hexprs, -, hassigned⟩ := ofEntries_of_patchAssignments hassignments
    obtain ⟨entry, _, ⟨hname, _, _, hexpr⟩, hnil, rfl⟩ := List.forall₂_cons_left_iff.1 hexprs
    obtain rfl := List.forall₂_nil_left_iff.1 hnil
    obtain ⟨⟨child, hchild⟩, hbound⟩ := patchExpr_bound scalar nonnull hexpr
    obtain rfl : entry = (key, .parameter (.json value)) := Prod.ext hname hbound
    rcases hassigned with ⟨hempty, -⟩ | ⟨-, rfl⟩
    · simp at hempty
    · exact ⟨nested, child, hnested, hchild, rfl⟩
  · simp [hunpatched] at hpatched

/-- The data of an update with the entry of a column assigns what its entry does, and nothing
else. -/
theorem alterationPlan_of_column {data : Json} {plan : AlterationPlan}
    (unnamed : table.relation? column = none)
    (h : Returns (context.alterationPlan table [(column, data)]) s plan t) :
    ∃ assignments r, Returns (context.fieldAssignments table.schema table.name none (column, data))
      s assignments r ∧ plan = ⟨assignments, []⟩ := by
  simp only [alterationPlan, List.filter_cons, unnamed, Option.isNone_none, if_true,
    List.filter_nil, List.mapM_cons, List.mapM_nil, returns_bind, returns_pure] at h
  obtain ⟨_, r, ⟨assignments, _, hassignments, _, _, ⟨rfl, rfl⟩, rfl, rfl⟩, hrelations⟩ := h
  refine ⟨assignments, _, hassignments, ?_⟩
  -- No relation has the name of the column.
  refine returns_foldlM_induction hrelations (P := fun plan => plan = ⟨assignments, []⟩) ?_ ?_
  · simp [AlterationPlan.assign, AlterationPlan.empty]
  · intro relation hrelation plan _ next _ hplan hstep
    have hother : relation.name ≠ column := by
      rintro rfl
      rw [Table.relation?, List.find?_eq_none] at unnamed
      simpa using unnamed relation hrelation
    rcases addRelation_cases hstep with ⟨-, rfl, -⟩ | ⟨payload, hpayload, -⟩
    · exact hplan
    · have hfirst : (relation.name == column) = false := beq_false_of_ne hother
      simp [Relation.payload?, Members.get?, List.lookup_cons, hfirst] at hpayload

end WriteContext

/-- An update of a single key of a plain object column is a single statement, which patches the
key. -/
theorem WriteContext.update_of_key {context : WriteContext} {table : Table} {column key : String}
    {value : Json} {field : Field} {filter? select? include? : Option Json} {chain : Chain}
    {s t : Progress} (accepted : context.repository.Accepted)
    (known : context.repository.table? table.name = some table)
    (declared : table.schema.get? column = some field) (plain : field.isPlainObject = true)
    (scalar : value.members? = none) (nonnull : value.isNull = false)
    (compiled : Returns (context.update table.name (.object (keyEntry column key value)) filter?
      select? include?) s chain t) :
    ∃ nested child condition? returning,
      field.objectSchema? = some nested ∧ nested.get? key = some child ∧
      chain.statements = [.update ⟨some table.name,
        (Patch.ofEntries column none [(key, .parameter (.json value))]).assignments nested, [],
        condition?, returning⟩] := by
  obtain ⟨info, _, plan, _, hinfo, hdata, hplan, hchain⟩ := plan_of_update compiled
  obtain rfl : table = info := Option.some.inj (known.symm.trans hinfo)
  obtain rfl := Json.object.inj hdata
  have hunnamed := accepted.relation?_eq_none known (ObjectSchema.contains_of_get? declared)
  obtain ⟨assignments, _, hassignments, rfl⟩ := alterationPlan_of_column hunnamed hplan
  obtain ⟨nested, child, hnested, hchild, rfl⟩ :=
    fieldAssignments_of_key declared plain scalar nonnull hassignments
  obtain ⟨condition?, returning, selections, rfl, hselections⟩ := AlterationPlan.chain_cases hchain
  obtain rfl : selections = [] := by simpa using hselections
  have hassigned : (Patch.ofEntries column none
      [(key, .parameter (.json value))]).assignments nested ≠ [] :=
    Patch.assignments_ne_nil (List.cons_ne_nil _ _) nested
  refine ⟨nested, child, condition?, returning, hnested, hchild, ?_⟩
  simp [AlterationPlan.ownStatement, hassigned]

/-! ## The filter -/

/-- The value of a key is compared with a value that is neither an object nor null. -/
theorem predicates_of_scalar {field? : Option Field} {column : ColumnRef} {path : String}
    {value : Json} (inside : column.path.isEmpty = false) (scalar : value.members? = none)
    (nonnull : value.isNull = false) :
    predicates field? column path value =
      .ok [.equal (.column column) (.parameter (.json value))] := by
  cases value with
  | null => simp [Json.isNull] at nonnull
  | object members => simp [Json.members?] at scalar
  | bool _ | number _ | string _ | array _ =>
    simp [predicates, operandExpr, inside, Json.isNull, pure, Except.pure, bind, Except.bind]

/-- The filter on a single declared key of a column compares it with the value. -/
theorem columnConditions_of_key {table : Table} {column key path : String} {value : Json}
    {field child : Field} {nested : ObjectSchema} (scope? : Option String)
    (known : table.schema.get? column = some field) (object : field.objectSchema? = some nested)
    (declared : nested.get? key = some child) (scalar : value.members? = none)
    (nonnull : value.isNull = false) :
    table.columnConditions scope? path column (.object [(key, value)]) =
      .ok [.equal (.column ⟨scope?, column, [key]⟩) (.parameter (.json value))] := by
  have hkey : PredicateKey.ofKey (some field) key = .nested (some child) := by
    simp [PredicateKey.ofKey, object, declared]
  have hvalue : predicates (some child) ⟨scope?, column, [key]⟩
      (joinPath (joinPath path column) key) value = _ := predicates_of_scalar rfl scalar nonnull
  rw [Table.columnConditions, ObjectSchema.field, known]
  change predicates (some field) ⟨scope?, column, []⟩ _ (.object [(key, value)]) = _
  rw [predicates, memberPredicates, memberPredicates, hkey]
  have hcolumn : (⟨scope?, column, []⟩ : ColumnRef).key key = ⟨scope?, column, [key]⟩ := rfl
  simp only [hcolumn, hvalue]
  rfl

/-! ## Rows that are found -/

/-- A row in scope on its own is read with and without its name. -/
theorem resolve_ofRow {name column : String} {row : Row Stored} {value : Stored}
    (held : List.lookup column row = some value) {scope? : Option String}
    (own : scope? = none ∨ scope? = some name) :
    Scope.resolve [[Item.ofRow name row]] scope? column = some value := by
  rcases own with rfl | rfl
  · exact Scope.resolve_push_none held
  · exact (Scope.resolve_push_self [] (Item.ofRow name row) column).trans held

/-- A row whose column holds an object with a value under a key is found by this value. -/
theorem equal_key_eval {db : Database Stored} {name column key : String} {row : Row Stored}
    {object : Members} {value : Json}
    (held : List.lookup column row = some (some (.object object)))
    (stored : object.get? key = some value) (nonnull : value.isNull = false)
    {scope? : Option String} (own : scope? = none ∨ scope? = some name) :
    (Condition.equal (.column ⟨scope?, column, [key]⟩) (.parameter (.json value))).eval .stored db
      [[Item.ofRow name row]] = some .yes := by
  have hcolumn : (Expr.column ⟨scope?, column, [key]⟩).eval .stored db none
      [[Item.ofRow name row]] = some (some value) := by
    rw [column_eval (resolve_ofRow held own)]
    simp [Stored.get?, Json.members?, stored]
  have hvalue : (Expr.parameter (.json value)).eval .stored db none [[Item.ofRow name row]] =
      some (some value) := by
    simp [Expr.eval, Parameter.json, nonnull]
  simp [Condition.equal, Condition.eval, hcolumn, hvalue, Stored.compare]

/-- The patch of a single key stores its value in the object of the column. -/
theorem Sql.Patch.exists_stored_key {arithmetic : Arithmetic} {db : Database Stored}
    {name column key : String} {value : Json} {row : Row Stored} {current : Stored}
    {members : Members} (nonnull : value.isNull = false)
    (held : List.lookup column row = some current) (object : current.members? = some members)
    (nested : ObjectSchema) :
    ∃ (last : Row Stored) (object : Members), Assignment.executeAll? arithmetic db [[.ofRow name row]]
        ((Patch.ofEntries column none [(key, .parameter (.json value))]).assignments nested) row =
          some last ∧
      List.lookup column last = some (some (.object object)) ∧ object.get? key = some value := by
  have hvalues : ∀ entry ∈ [(key, Expr.parameter (.json value))],
      entry.2.IsPatchValue column none := by
    rw [List.forall_mem_singleton]
    exact .parameter value
  have hassigned : (Expr.parameter (.json value)).assigned? arithmetic db [[.ofRow name row]] =
      some (some value) := by
    simp [Expr.assigned?, Expr.eval, Parameter.json, nonnull]
  obtain ⟨-, -, hsome, heffect⟩ := forms_agree hvalues (List.nodup_singleton key) held
    (resolve_ofRow held (.inl rfl)) object (.inl (List.cons_ne_nil _ _)) arithmetic db nested
  have hentries : (ofEntries column none [(key, .parameter (.json value))]).entries =
      [(key, .parameter (.json value))] := rfl
  rw [hentries, List.forall_mem_singleton, hassigned] at hsome
  obtain ⟨last, hlast⟩ := Option.isSome_iff_exists.1 (hsome.2 rfl)
  obtain ⟨stored, heffect⟩ := heffect last hlast
  obtain ⟨new, hnew, hstored⟩ := heffect.touched _ (List.mem_singleton_self _)
  obtain rfl := Option.some.inj (hassigned.symm.trans hnew)
  exact ⟨last, stored, hlast, heffect.held, hstored⟩

namespace WriteContext

/-- After an update of a single key the filter with the same entry finds the row.  The column is a
plain object and is not named like a group, and the value is neither an object nor null.  The update
is a single statement, which has a result for every row that holds an object or nothing in the
column, and the filter compiles for the table with and without its name. -/
theorem patched_key_found {context : WriteContext} {table : Table} {column key : String}
    {value : Json} {field : Field} {filter? select? include? : Option Json} {chain : Chain}
    {s t : Progress} (accepted : context.repository.Accepted)
    (known : context.repository.table? table.name = some table)
    (declared : table.schema.get? column = some field) (plain : field.isPlainObject = true)
    (word : ¬ IsGroupWord column) (scalar : value.members? = none) (nonnull : value.isNull = false)
    (compiled : Returns (context.update table.name (.object (keyEntry column key value)) filter?
      select? include?) s chain t) :
    ∃ assignments condition? returning,
      chain.statements = [.update ⟨some table.name, assignments, [], condition?, returning⟩] ∧
      ∀ (arithmetic : Arithmetic) (db : Database Stored) (row : Row Stored) (current : Stored)
        (members : Members), List.lookup column row = some current →
          current.members? = some members →
          ∃ last, Assignment.executeAll? arithmetic db [[.ofRow table.name row]] assignments row =
              some last ∧
            ∀ (stem : String) (scope? : Option String) (n : Nat),
              scope? = none ∨ scope? = some table.name →
              ∃ condition, Returns ((⟨context.repository, stem⟩ : FilterContext).conditionOn
                  (.object (keyEntry column key value)) table.name scope?) n (some condition) n ∧
                condition.eval .stored db [[.ofRow table.name last]] = some .yes := by
  obtain ⟨nested, child, condition?, returning, hnested, hchild, hstatements⟩ :=
    update_of_key accepted known declared plain scalar nonnull compiled
  refine ⟨_, condition?, returning, hstatements, ?_⟩
  intro arithmetic db row current members held object
  obtain ⟨last, stored, hlast, hheld, hstored⟩ := Patch.exists_stored_key nonnull held object nested
  refine ⟨last, hlast, ?_⟩
  intro stem scope? n own
  have hunnamed : table.relation? column = none :=
    accepted.relation?_eq_none known (ObjectSchema.contains_of_get? declared)
  have hentry : FilterEntry.ofKey table column = .column :=
    (Table.readsAs_iff.1 (.column word hunnamed)).symm
  have hconditions : table.columnConditions scope? table.name column (.object [(key, value)]) = _ :=
    columnConditions_of_key scope? declared hnested hchild scalar nonnull
  refine ⟨.equal (.column ⟨scope?, column, [key]⟩) (.parameter (.json value)), ?_,
    equal_key_eval hheld hstored nonnull own⟩
  rw [FilterContext.conditionOn, returns_bind]
  exact ⟨table, n, returns_monadLift.2 ⟨Repository.table_eq_ok_iff.2 known, rfl⟩,
    FilterContext.returns_condition_of_column hentry hconditions n⟩

end WriteContext

/-! ## Votes for a book -/

namespace Library

/-- Details with a number of votes that may be null. -/
def countedField : Field := .ofKind (.object ⟨[("votes", { integer with nullable := true })]⟩)

/-- The columns of books with votes, one of them named like a group of filters. -/
def countedSchema : ObjectSchema :=
  ⟨[("AND", countedField), ("details", countedField), ("id", integer)]⟩

/-- Books with votes. -/
def countedBook : Table := ⟨"book", countedSchema, none, []⟩

/-- Books with votes, and nothing else. -/
def counted : Repository := ⟨[countedBook]⟩

theorem counted_accepted : counted.Accepted := ⟨[⟨"book", countedSchema, [], []⟩], rfl⟩

end Library

namespace WriteContext

/-- A book without details is found by its votes after they are set. -/
theorem patched_key_found_library :
    Library.counted.Accepted ∧
      Library.counted.table? Library.countedBook.name = some Library.countedBook ∧
      Library.countedBook.schema.get? "details" = some Library.countedField ∧
      Library.countedField.isPlainObject = true ∧ ¬ IsGroupWord "details" ∧
      (Json.ofUInt64 5).members? = none ∧ (Json.ofUInt64 5).isNull = false ∧
      ∃ chain next, Returns ((Library.checkedWrites Library.counted).update Library.countedBook.name
          (.object (keyEntry "details" "votes" (Json.ofUInt64 5))) none none none) Progress.start
            chain next ∧
        ∃ assignments condition? returning last condition,
          chain.statements = [.update ⟨some "book", assignments, [], condition?, returning⟩] ∧
          Assignment.executeAll? Library.oneMoreVote (fun _ => none)
            [[.ofRow "book" [("details", none)]]] assignments [("details", none)] = some last ∧
          Returns ((⟨Library.counted, "W"⟩ : FilterContext).conditionOn
            (.object (keyEntry "details" "votes" (Json.ofUInt64 5))) "book" (some "book")) 0
              (some condition) 0 ∧
          condition.eval .stored (fun _ => none) [[.ofRow "book" last]] = some .yes := by
  have known : Library.counted.table? Library.countedBook.name = some Library.countedBook := rfl
  have declared : Library.countedBook.schema.get? "details" = some Library.countedField := rfl
  have plain : Library.countedField.isPlainObject = true := rfl
  have word : ¬ IsGroupWord "details" := by
    unfold IsGroupWord
    decide
  have compiled : Returns ((Library.checkedWrites Library.counted).update Library.countedBook.name
      (.object (keyEntry "details" "votes" (Json.ofUInt64 5))) none none none) Progress.start
        _ _ := rfl
  refine ⟨Library.counted_accepted, known, declared, plain, word, rfl, rfl, _, _, compiled, ?_⟩
  obtain ⟨assignments, condition?, returning, hstatements, hrows⟩ :=
    patched_key_found Library.counted_accepted known declared plain word rfl rfl compiled
  obtain ⟨last, hlast, hfilters⟩ :=
    hrows Library.oneMoreVote (fun _ => none) [("details", none)] none [] rfl rfl
  obtain ⟨condition, hcondition, hfound⟩ := hfilters "W" (some "book") 0 (.inr rfl)
  exact ⟨assignments, condition?, returning, last, condition, hstatements, hlast, hcondition, hfound⟩

/-- Votes that are set to null are stored as JSON null, and the filter for null drops the row.  The
filter on a column that is named like a group does not compile. -/
theorem patched_key_lost :
    Library.counted.Accepted ∧
      (∃ chain next assignments condition? returning condition,
        Returns ((Library.checkedWrites Library.counted).update "book"
          (.object (keyEntry "details" "votes" .null)) none none none) Progress.start chain next ∧
        chain.statements = [.update ⟨some "book", assignments, [], condition?, returning⟩] ∧
        Assignment.executeAll? Library.oneMoreVote (fun _ => none)
            [[.ofRow "book" [("details", none)]]] assignments [("details", none)] =
          some (Library.detailed [("votes", .null)]) ∧
        Returns ((⟨Library.counted, "W"⟩ : FilterContext).conditionOn
          (.object (keyEntry "details" "votes" .null)) "book" none) 0 (some condition) 0 ∧
        condition.eval .stored (fun _ => none)
          [[.ofRow "book" (Library.detailed [("votes", .null)])]] = some .no) ∧
      ∃ chain next error,
        Returns ((Library.checkedWrites Library.counted).update "book"
          (.object (keyEntry "AND" "votes" (Json.ofUInt64 5))) none none none) Progress.start
            chain next ∧
        outcome ((⟨Library.counted, "W"⟩ : FilterContext).conditionOn
          (.object (keyEntry "AND" "votes" (Json.ofUInt64 5))) "book" none) 0 = (.error error, 0) :=
  ⟨Library.counted_accepted, ⟨_, _, _, _, _, _, rfl, rfl, rfl, rfl, rfl⟩, _, _, _, rfl, rfl⟩

end WriteContext

end RelationalQuery
