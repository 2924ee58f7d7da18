import RelationalQuery.Proofs.Coherence
import RelationalQuery.Proofs.Computation
import RelationalQuery.Query.Compiler

/-!
# Steps of compiled writes

The data of a write is compiled entry by entry.  For each step this module says once what it can do
if it succeeds: which checks it made, and what it adds.

Main definitions:

- `Relation.payload?` and `Relation.connected?` read the entry of a relation.

Main results:

- `WriteContext.patchExpr_cases`, `WriteContext.patchAssignments_cases`,
  `WriteContext.fieldAssignments_cases`, `WriteContext.connect_cases` and
  `WriteContext.addRelation_cases` open the steps of an update.
- `WriteContext.addForeign_cases` and `WriteContext.childRow_cases` open the steps of an insert.
- `AlterationPlan.chain_cases` and `InsertPlan.chain_cases` say which statements the chain of a plan
  has.
- `WriteContext.insert_cases` and `WriteContext.plan_of_update` split a compiled write into its plan
  and the chain of this plan.
- `ProjectionContext.select_cases` and its companions open the statements of the other queries.
- `WriteContext.compile_cases`: a compiled query is its chain, rendered.
-/

namespace RelationalQuery

open Sql (Assignment Chain Delete Expr Patch Projection Select Statement)

section

variable {validator : Validator} {record : Members} {schema : ObjectSchema} {path : String}
  {mode : ValidationMode} {s t : Progress} {u : Unit}

/-- A check succeeds exactly if the validator accepts the record, and is noted. -/
theorem returns_validate_iff :
    Returns (Compilation.validate validator record schema path mode) s u t ↔
      validator record schema path mode = .ok () ∧
        t = { s with calls := s.calls ++ [⟨path, mode, record, schema⟩] } := by
  change (validator record schema path mode, _) = ((.ok u, t) : Except QueryError Unit × Progress) ↔
    _
  rw [Prod.mk.injEq, eq_comm (a := t)]

/-- A check succeeds if the validator accepts the record, and hands out no aliases. -/
theorem returns_validate
    (h : Returns (Compilation.validate validator record schema path mode) s u t) :
    validator record schema path mode = .ok () ∧ t.aliases = s.aliases := by
  obtain ⟨haccepted, rfl⟩ := returns_validate_iff.1 h
  exact ⟨haccepted, rfl⟩

end

/-- An event is noted and nothing else is changed. -/
theorem returns_emit_iff {event : Event} {s t : Progress} {u : Unit} :
    Returns (Compilation.emit event) s u t ↔ t = { s with events := s.events ++ [event] } := by
  change ((Except.ok (), _) : Except QueryError Unit × Progress) = (.ok u, t) ↔ _
  rw [Prod.mk.injEq, eq_comm (a := t)]
  exact and_iff_right rfl

/-! ## Entries of columns -/

/-- The values of a patch in the order in which they were given. -/
theorem Sql.Patch.foldl_set (patch : Patch) (entries : List (String × Expr)) :
    entries.foldl (fun patch entry => patch.set entry.1 entry.2) patch =
      { patch with
        entries := patch.entries ++ entries.map fun entry => (entry.1, Patch.stored entry.2) } := by
  induction entries generalizing patch with
  | nil => simp
  | cons entry rest ih =>
    rw [List.foldl_cons, ih]
    simp [Patch.set]

/-- A number holds no objects. -/
theorem Field.isObject_of_isNumber {field : Field} (number : field.isNumber = true) :
    field.isObject = false := by
  unfold isNumber at number
  split at number
  · rename_i hkind
    simp [isObject, objectSchema?, hkind]
  · simp at number

namespace WriteContext

variable {context : WriteContext} {schema : ObjectSchema} {qualifier? : Option String}
  {s t : Progress}

/-- A number is not patched. -/
theorem patched?_of_operation {field : Field} {value : Json} {members : Members}
    (h : operationMembers? field value = some members) : patched? field value = none := by
  unfold operationMembers? at h
  split at h
  · rename_i hnumber
    have hplain : field.isPlainObject = false := by
      rw [Field.isPlainObject, Field.isObject_of_isNumber hnumber, Bool.false_and, Bool.false_and]
    rw [patched?, hplain]
    rfl
  · simp at h

/-- What is patched is an object for a plain object with a schema. -/
theorem patched?_eq_some_iff {field : Field} {value : Json} {nested : ObjectSchema}
    {members : Members} : patched? field value = some (nested, members) ↔
      field.isPlainObject = true ∧ field.objectSchema? = some nested ∧
        value = .object members := by
  unfold patched?
  split
  · rename_i hplain
    cases field.objectSchema? <;> cases value <;> simp [hplain, Json.members?]
  · rename_i hplain
    simp [hplain]

/-- The value of a key in a patch is compiled as an operation, or it is checked and bound. -/
theorem patchExpr_cases {column path : String} {nested : ObjectSchema} {entry : String × Json}
    {expr : Expr} (h : Returns (context.patchExpr column nested path qualifier? entry) s expr t) :
    ∃ field, nested.get? entry.1 = some field ∧
      ((∃ members, operationMembers? field entry.2 = some members ∧ t = s ∧
          operationExpr ⟨qualifier?, column, [entry.1]⟩ members field (joinPath path entry.1) =
            .ok expr) ∨
        (operationMembers? field entry.2 = none ∧
          Returns (context.validateField entry.1 entry.2 nested path) s () t ∧
          expr = if entry.2.isNull then .null else .parameter (.json entry.2))) := by
  simp only [patchExpr, returns_bind, returns_monadLift] at h
  obtain ⟨field, _, ⟨hfield, rfl⟩, h⟩ := h
  refine ⟨field, ObjectSchema.get?_of_field hfield, ?_⟩
  cases hoperation : operationMembers? field entry.2 with
  | some members =>
    simp only [hoperation, returns_monadLift] at h
    exact .inl ⟨members, rfl, h.2, h.1⟩
  | none =>
    simp only [hoperation, returns_bind, returns_pure] at h
    obtain ⟨_, _, hvalid, rfl, rfl⟩ := h
    exact .inr ⟨rfl, hvalid, rfl⟩

/-- A patch is compiled key by key, and assigns nothing if it has no keys. -/
theorem patchAssignments_cases {column path : String} {members : Members} {nested : ObjectSchema}
    {assignments : List Assignment}
    (h : Returns (context.patchAssignments column members nested path qualifier?) s assignments t) :
    ∃ (entries : List (String × Expr)) (patch : Patch),
      Returns (members.mapM fun member => do
        return (member.1, ← context.patchExpr column nested path qualifier? member)) s entries t ∧
      List.Forall₂ (fun member entry => entry.1 = member.1 ∧ ∃ s t,
        Returns (context.patchExpr column nested path qualifier? member) s entry.2 t)
          members entries ∧
      patch = ⟨column, qualifier?, entries.map fun entry => (entry.1, Patch.stored entry.2)⟩ ∧
      assignments = if patch.entries.isEmpty then [] else patch.assignments nested := by
  simp only [patchAssignments, returns_bind, returns_pure] at h
  obtain ⟨entries, _, hentries, rfl, rfl⟩ := h
  refine ⟨entries, _, hentries, forall₂_of_returns_mapM hentries ?_,
    Patch.foldl_set (Patch.empty column qualifier?) entries, rfl⟩
  intro member _ s entry t hentry
  simp only [returns_bind, returns_pure] at hentry
  obtain ⟨expr, _, hexpr, rfl, -⟩ := hentry
  exact ⟨rfl, s, _, hexpr⟩

/-- The entry of a column is compiled as an operation, as a patch, or it is checked and bound. -/
theorem fieldAssignments_cases {path : String} {entry : String × Json}
    {assignments : List Assignment}
    (h : Returns (context.fieldAssignments schema path qualifier? entry) s assignments t) :
    ∃ field, schema.get? entry.1 = some field ∧
      ((∃ members expr, operationMembers? field entry.2 = some members ∧ t = s ∧
          operationExpr ⟨qualifier?, entry.1, []⟩ members field (joinPath path entry.1) = .ok expr ∧
          assignments = [.column entry.1 expr]) ∨
        (∃ nested members, operationMembers? field entry.2 = none ∧
          patched? field entry.2 = some (nested, members) ∧
          Returns (context.patchAssignments entry.1 members nested (joinPath path entry.1)
            qualifier?) s assignments t) ∨
        (∃ expr, operationMembers? field entry.2 = none ∧ patched? field entry.2 = none ∧
          Returns (context.validateField entry.1 entry.2 schema path) s () t ∧
          fieldExpr entry.2 field = .ok expr ∧ assignments = [.column entry.1 expr])) := by
  simp only [fieldAssignments, returns_bind, returns_monadLift] at h
  obtain ⟨field, _, ⟨hfield, rfl⟩, h⟩ := h
  refine ⟨field, ObjectSchema.get?_of_field hfield, ?_⟩
  cases hoperation : operationMembers? field entry.2 with
  | some members =>
    simp only [hoperation, returns_bind, returns_pure, returns_monadLift] at h
    obtain ⟨expr, _, ⟨hexpr, rfl⟩, rfl, rfl⟩ := h
    exact .inl ⟨members, expr, rfl, rfl, hexpr, rfl⟩
  | none =>
    cases hpatched : patched? field entry.2 with
    | some patched =>
      simp only [hoperation, hpatched] at h
      exact .inr (.inl ⟨patched.1, patched.2, rfl, rfl, h⟩)
    | none =>
      simp only [hoperation, hpatched, returns_bind, returns_pure, returns_monadLift] at h
      obtain ⟨_, _, hvalid, expr, _, ⟨hexpr, rfl⟩, rfl, rfl⟩ := h
      exact .inr (.inr ⟨expr, rfl, rfl, hvalid, hexpr, rfl⟩)

end WriteContext

/-! ## Entries of relations -/

namespace Relation

/-- The entry of a relation in the data, if it is an object. -/
def payload? (relation : Relation) (data : Members) : Option Members :=
  (data.get? relation.name).bind Json.members?

/-- The key by which an entry connects rows. -/
def connected? (relation : Relation) (payload : Members) : Option Json :=
  Members.get? payload relation.linkColumn

/-- The table holds the key of a row that its own rows refer to. -/
theorem linkColumn_of_owned {relation : Relation} (h : relation.shape.isInverse = false) :
    relation.linkColumn = relation.targetColumn := by
  rw [linkColumn, RelationShape.eq_foreignOwned h]

/-- The related rows hold the key of the row of the table that they refer to. -/
theorem linkColumn_of_inverse {relation : Relation} (h : relation.shape.isInverse = true) :
    relation.linkColumn = relation.sourceColumn := by
  unfold linkColumn
  cases hshape : relation.shape with
  | foreignOwned => simp [hshape, RelationShape.isInverse] at h
  | uniqueInverse | pluralInverse => rfl

end Relation

namespace WriteContext

variable {context : WriteContext} {table : Table} {data : Members} {relation : Relation}
  {plan next : AlterationPlan} {s t : Progress}

/-- Rows are connected by a column on the side that holds the key. -/
theorem connect_cases {path : String} {payload : Members} {key : Json}
    (h : Returns (context.connect table path plan relation payload key) s next t) :
    (relation.shape.isInverse = true ∧ ∃ field expr,
        Returns (context.validate payload relation.relatedSchema path .partialRecord) s () t ∧
        relation.relatedSchema.get? relation.sourceColumn = some field ∧
        fieldExpr key field = .ok expr ∧
        next = plan.change relation [.column relation.sourceColumn expr]) ∨
      (relation.shape.isInverse = false ∧ ∃ field expr,
        Returns (context.validate payload table.schema table.name .partialRecord) s () t ∧
        table.schema.get? relation.targetColumn = some field ∧
        fieldExpr key field = .ok expr ∧
        next = plan.assign [.column relation.targetColumn expr]) := by
  simp only [connect] at h
  split at h
  · simp at h
  · split at h
    · rename_i hinverse
      simp only [returns_bind, returns_pure, returns_monadLift] at h
      obtain ⟨_, _, hvalid, field, _, ⟨hfield, rfl⟩, expr, _, ⟨hexpr, rfl⟩, rfl, rfl⟩ := h
      rw [Relation.linkColumn_of_inverse hinverse] at hfield
      exact .inl ⟨hinverse, field, expr, hvalid, ObjectSchema.get?_of_field hfield, hexpr, rfl⟩
    · rename_i howned
      simp only [returns_bind, returns_pure, returns_monadLift] at h
      obtain ⟨_, _, hvalid, field, _, ⟨hfield, rfl⟩, expr, _, ⟨hexpr, rfl⟩, rfl, rfl⟩ := h
      rw [Bool.not_eq_true] at howned
      rw [Relation.linkColumn_of_owned howned] at hfield ⊢
      exact .inr ⟨howned, field, expr, hvalid, ObjectSchema.get?_of_field hfield, hexpr, rfl⟩

/-- The entry of a relation is absent, connects rows, or changes columns of related rows. -/
theorem addRelation_cases
    (h : Returns (context.addRelation table data plan relation) s next t) :
    (relation.payload? data = none ∧ next = plan ∧ t = s) ∨
      ∃ payload, relation.payload? data = some payload ∧
        ((∃ key, relation.connected? payload = some key ∧
            Returns (context.connect table (joinPath table.name relation.name) plan relation payload
              key) s next t) ∨
          (relation.connected? payload = none ∧ ∃ assignments,
            Returns (payload.mapM (context.fieldAssignments relation.relatedSchema
              (joinPath table.name relation.name) (some relation.relatedTable))) s assignments t ∧
            next = plan.change relation assignments.flatten)) := by
  simp only [addRelation] at h
  unfold Relation.payload? Relation.connected?
  split at h
  · rename_i habsent
    rw [returns_pure] at h
    exact .inl ⟨by rw [habsent]; rfl, h⟩
  · rename_i payload hpayload
    refine .inr ⟨payload, by rw [hpayload]; rfl, ?_⟩
    split at h
    · rename_i key hkey
      exact .inl ⟨key, hkey, h⟩
    · rename_i hkey
      simp only [returns_bind, returns_pure] at h
      obtain ⟨assignments, _, hassignments, rfl, rfl⟩ := h
      exact .inr ⟨hkey, assignments, hassignments, rfl⟩
  · simp at h

end WriteContext

/-! ## Related rows of an insert -/

namespace WriteContext

variable {context : WriteContext} {s t : Progress}

/-- The entry of a relation whose key the new row holds has no row, connects one or creates one. -/
theorem addForeign_cases {table : String} {keys next : ForeignKeys} {entry : Relation × Json}
    (h : Returns (context.addForeign table keys entry) s next t) :
    ∃ payload?, relationPayload entry.2 (joinPath table entry.1.name) = .ok payload? ∧
      ((payload? = none ∧ next = keys ∧ t = s) ∨
        ∃ payload, payload? = some payload ∧ keys.isSet entry.1.targetColumn = false ∧
          ((∃ key, payload.get? entry.1.targetColumn = some key ∧ payload.length ≤ 1 ∧
              next = { keys with own := keys.own.insert entry.1.targetColumn key } ∧ t = s) ∨
            (payload.get? entry.1.targetColumn = none ∧ ∃ record,
              Returns (context.validate payload entry.1.relatedSchema
                (joinPath table entry.1.name) .full) s () t ∧
              encodedRecord payload entry.1.relatedSchema (joinPath table entry.1.name) =
                .ok record ∧
              next = { keys with parents := keys.parents ++ [⟨entry.1, record⟩] }))) := by
  simp only [addForeign, returns_bind, returns_monadLift] at h
  obtain ⟨payload?, _, ⟨hpayload, rfl⟩, h⟩ := h
  refine ⟨payload?, hpayload, ?_⟩
  cases payload? with
  | none =>
    simp only [returns_pure] at h
    exact .inl ⟨rfl, h⟩
  | some payload =>
    simp only at h
    split at h
    · simp at h
    · rename_i hset
      refine .inr ⟨payload, rfl, by simpa using hset, ?_⟩
      cases hkey : payload.get? entry.1.targetColumn with
      | some key =>
        simp only [hkey] at h
        split at h
        · simp at h
        · rename_i hlength
          rw [returns_pure] at h
          exact .inl ⟨key, rfl, Nat.le_of_not_lt hlength, h⟩
      | none =>
        simp only [hkey, returns_bind, returns_pure, returns_monadLift] at h
        obtain ⟨_, _, hvalid, record, _, ⟨hrecord, rfl⟩, rfl, rfl⟩ := h
        exact .inr ⟨rfl, record, hvalid, hrecord, rfl⟩

/-- A row that refers to the new row is checked and bound without the column that links it. -/
theorem childRow_cases {relation : Relation} {payload : String × Members} {row : NewRow}
    (h : Returns (context.childRow relation payload) s row t) :
    payload.2.contains relation.sourceColumn = false ∧
      Returns (context.validate payload.2
        (relation.relatedSchema.withOptional [relation.sourceColumn]) payload.1 .full) s () t ∧
      row.relation = relation ∧
      encodedRecord payload.2 relation.relatedSchema payload.1 = .ok row.record := by
  simp only [childRow] at h
  split at h
  · simp at h
  · rename_i hset
    simp only [returns_bind, returns_pure, returns_monadLift] at h
    obtain ⟨_, _, hvalid, record, _, ⟨hrecord, rfl⟩, rfl, rfl⟩ := h
    exact ⟨by simpa using hset, hvalid, rfl, hrecord⟩

end WriteContext

/-! ## Chains -/

namespace AlterationPlan

variable {plan : AlterationPlan} {context : ProjectionContext} {table : Table}
  {filter? select? include? : Option Json} {chain : Chain} {s t : Progress}

/-- A selection of the compiled trees is added to some statements if there are steps and something
is read. -/
theorem chainOf_cases {statements : List Statement}
    (h : Returns (plan.chainOf context table select? include? statements) s chain t) :
    ∃ selections, chain = ⟨context.config.chainStem, statements ++ selections⟩ ∧
      if !plan.steps.isEmpty && (select?.isSome || include?.isSome) then
        ∃ columns a b, Returns (context.projections select? include? table.name
            (numberedName context.config.chainStem 0)) a columns b ∧
          selections = [.select (.ofColumns columns
            (.table (numberedName context.config.chainStem 0) none))]
      else selections = [] := by
  unfold chainOf at h
  simp only at h
  split at h
  · rename_i hselected
    simp only [returns_bind, returns_pure] at h
    obtain ⟨columns, _, hcolumns, rfl, rfl⟩ := h
    obtain ⟨aliases, hcolumns⟩ := returns_naming hcolumns
    refine ⟨_, rfl, ?_⟩
    rw [if_pos hselected]
    exact ⟨columns, _, aliases, hcolumns, rfl⟩
  · rename_i hunselected
    rw [returns_pure] at h
    refine ⟨[], by rw [List.append_nil]; exact h.1, ?_⟩
    rw [if_neg hunselected]

/-- The main statement returns what later statements read if there are steps, and otherwise the
projection of the trees, or nothing without trees. -/
theorem returning_cases {a b : Aliases} {returning : List Projection}
    (h : Returns (plan.returning context table select? include?) a returning b) :
    (plan.steps ≠ [] ∧
        returning = (plan.carriedColumns table select? include?).map Projection.column) ∨
      (plan.steps = [] ∧ (select?.isSome || include?.isSome) = true ∧
        Returns (context.projections select? include? table.name table.name) a returning b) ∨
      (plan.steps = [] ∧ (select?.isSome || include?.isSome) = false ∧ returning = []) := by
  unfold AlterationPlan.returning at h
  split at h
  · rename_i hsteps
    rw [returns_pure] at h
    exact .inl ⟨by simpa using hsteps, h.1⟩
  · rename_i hsteps
    replace hsteps : plan.steps = [] := by simpa using hsteps
    split at h
    · rename_i hprojected
      exact .inr (.inl ⟨hsteps, hprojected, h⟩)
    · rename_i hprojected
      rw [returns_pure] at h
      exact .inr (.inr ⟨hsteps, Bool.eq_false_iff.2 hprojected, h.1⟩)

/-- The chain of a plan is compiled by its condition, by what its main statement returns, and then
by its statements. -/
theorem chain_steps
    (h : Returns (plan.chain context table filter? select? include?) s chain t) :
    ∃ condition? a returning b r,
      Returns (context.conditionOn? filter? table.name none) s.aliases condition? a ∧
      Returns (plan.returning context table select? include?) a returning b ∧
      r.calls = s.calls ∧
      Returns (plan.chainOf context table select? include?
        (plan.ownStatement table.name condition? returning ::
          plan.steps.map (stepStatement (numberedName context.config.chainStem 0)))) r chain t := by
  simp only [AlterationPlan.chain, returns_bind, returns_naming_iff] at h
  obtain ⟨condition?, _, ⟨a, hcondition, rfl⟩, returning, _, ⟨b, hreturning, rfl⟩, h⟩ := h
  refine ⟨condition?, a, returning, b, ?_⟩
  split at h
  · simp only [returns_bind, returns_emit_iff] at h
    obtain ⟨_, r, hemitted, h⟩ := h
    exact ⟨r, hcondition, hreturning, by rw [hemitted], h⟩
  · exact ⟨{ s with aliases := b }, hcondition, hreturning, rfl, h⟩

/-- The chain of a plan has a statement for the rows of the table and one for each step, and then a
selection of the compiled trees if there are steps and something is read. -/
theorem chain_cases
    (h : Returns (plan.chain context table filter? select? include?) s chain t) :
    ∃ condition? returning selections, chain = ⟨context.config.chainStem,
        plan.ownStatement table.name condition? returning ::
          plan.steps.map (stepStatement (numberedName context.config.chainStem 0)) ++
            selections⟩ ∧
      if !plan.steps.isEmpty && (select?.isSome || include?.isSome) then
        ∃ columns a b, Returns (context.projections select? include? table.name
            (numberedName context.config.chainStem 0)) a columns b ∧
          selections = [.select (.ofColumns columns
            (.table (numberedName context.config.chainStem 0) none))]
      else selections = [] := by
  obtain ⟨condition?, _, returning, _, _, -, -, -, hchain⟩ := chain_steps h
  exact ⟨condition?, returning, chainOf_cases hchain⟩

end AlterationPlan

namespace InsertPlan

variable {plan : InsertPlan} {context : ProjectionContext} {table : Table}
  {select? include? : Option Json} {chain : Chain} {a b : Aliases}

/-- The columns that the statement for the new row returns: a single row returns the projection if
something is read, and otherwise columns that later statements read. -/
def Returning (plan : InsertPlan) (context : ProjectionContext) (table : Table)
    (select? include? : Option Json) (returning : List Projection) : Prop :=
  if plan.isSingle && (select?.isSome || include?.isSome) then
    ∃ a b, Returns (context.projections select? include? table.name table.name) a returning b
  else returning =
    (if plan.isSingle then [] else plan.returnedColumns table select? include?).map .column

/-- The chain of a plan has a statement for each row, and then a selection that reads the created
rows if there are several and something is read. -/
theorem chain_cases (h : Returns (plan.chain context table select? include?) a chain b) :
    ∃ returning selections, chain = ⟨context.config.chainStem,
        plan.parents.map (parentStatement select? include?) ++
          plan.ownStatement context.config.chainStem table returning ::
            plan.children.map (plan.childStatement context.config.chainStem select? include?) ++
              selections⟩ ∧
      plan.Returning context table select? include? returning ∧
      if (select?.isSome || include?.isSome) && !plan.isSingle then
        ∃ select c d, Returns (createdSelect context table (plan.ownName context.config.chainStem)
            (plan.created context.config.chainStem) select? include?) c select d ∧
          selections = [.select select]
      else selections = [] := by
  unfold InsertPlan.chain at h
  simp only at h
  split at h
  · rename_i hsingle
    have hempty : plan.parents = [] ∧ plan.children = [] := by
      simpa [isSingle, List.isEmpty_iff] using hsingle
    have hown : ∃ returning, chain = ⟨context.config.chainStem,
        [plan.ownStatement context.config.chainStem table returning]⟩ ∧
          plan.Returning context table select? include? returning := by
      unfold Returning
      rw [hsingle, Bool.true_and]
      split at h
      · rename_i hprojected
        simp only [returns_bind, returns_pure] at h
        obtain ⟨returning, _, hreturning, hchain, -⟩ := h
        refine ⟨returning, hchain, ?_⟩
        rw [if_pos hprojected]
        exact ⟨_, _, hreturning⟩
      · rename_i hunprojected
        simp only [returns_bind, returns_pure] at h
        obtain ⟨returning, _, ⟨rfl, -⟩, hchain, -⟩ := h
        refine ⟨[], hchain, ?_⟩
        rw [if_neg hunprojected]
        rfl
    obtain ⟨returning, rfl, hreturning⟩ := hown
    refine ⟨returning, [], by rw [hempty.1, hempty.2]; rfl, hreturning, ?_⟩
    rw [hsingle, Bool.not_true, Bool.and_false, if_neg Bool.false_ne_true]
  · rename_i hseveral
    rw [Bool.not_eq_true] at hseveral
    have hreturning : plan.Returning context table select? include?
        ((plan.returnedColumns table select? include?).map Projection.column) := by
      rw [Returning, hseveral, Bool.false_and, if_neg Bool.false_ne_true,
        if_neg Bool.false_ne_true]
    rw [hseveral, Bool.not_false, Bool.and_true]
    split at h
    · rename_i hprojected
      simp only [returns_bind, returns_pure] at h
      obtain ⟨select, _, hselect, rfl, rfl⟩ := h
      refine ⟨_, _, rfl, hreturning, ?_⟩
      rw [if_pos hprojected]
      exact ⟨select, _, _, hselect, rfl⟩
    · rename_i hunprojected
      rw [returns_pure] at h
      refine ⟨_, [], by rw [List.append_nil]; exact h.1, hreturning, ?_⟩
      rw [if_neg hunprojected]

end InsertPlan

/-! ## Compiled writes -/

namespace WriteContext

variable {context : WriteContext} {s t : Progress}

/-- An insert is compiled by a plan for its data, and then by the chain of this plan. -/
theorem insert_cases {table : String} {data : Json} {select? include? : Option Json} {chain : Chain}
    (compiled : Returns (context.insert table data select? include?) s chain t) :
    ∃ info members plan r, context.repository.table? table = some info ∧
      data = .object members ∧ Returns (context.insertPlan info members) s plan r ∧
      Returns (Compilation.naming (plan.chain context.projection info select? include?)) r chain
        t := by
  simp only [insert, returns_bind, returns_monadLift] at compiled
  obtain ⟨info, _, ⟨hinfo, rfl⟩, compiled⟩ := compiled
  cases data with
  | object members =>
    simp only [Json.members?, returns_bind] at compiled
    obtain ⟨plan, r, hplan, hchain⟩ := compiled
    exact ⟨info, members, plan, r, Repository.table_eq_ok_iff.1 hinfo, rfl, hplan, hchain⟩
  | null | bool _ | number _ | string _ | array _ => simp [Json.members?] at compiled

/-- An insert is compiled by a plan for its data, and by the chain of this plan. -/
theorem plan_of_insert {table : String} {data : Json} {select? include? : Option Json}
    {chain : Chain}
    (compiled : Returns (context.insert table data select? include?) s chain t) :
    ∃ info members plan r a b, context.repository.table? table = some info ∧
      data = .object members ∧ Returns (context.insertPlan info members) s plan r ∧
      Returns (plan.chain context.projection info select? include?) a chain b := by
  obtain ⟨info, members, plan, r, hknown, hdata, hplan, hchain⟩ := insert_cases compiled
  obtain ⟨_, hchain⟩ := returns_naming hchain
  exact ⟨info, members, plan, r, _, _, hknown, hdata, hplan, hchain⟩

/-- An update is compiled by a plan for its data, and by the chain of this plan. -/
theorem plan_of_update {table : String} {data : Json} {filter? select? include? : Option Json}
    {chain : Chain}
    (compiled : Returns (context.update table data filter? select? include?) s chain t) :
    ∃ info members plan r, context.repository.table? table = some info ∧
      data = .object members ∧ Returns (context.alterationPlan info members) s plan r ∧
      Returns (plan.chain context.projection info filter? select? include?) r chain t := by
  simp only [update, returns_bind, returns_monadLift] at compiled
  obtain ⟨info, _, ⟨hinfo, rfl⟩, compiled⟩ := compiled
  cases data with
  | object members =>
    simp only [Json.members?, returns_bind] at compiled
    obtain ⟨plan, r, hplan, hchain⟩ := compiled
    exact ⟨info, members, plan, r, Repository.table_eq_ok_iff.1 hinfo, rfl, hplan, hchain⟩
  | null | bool _ | number _ | string _ | array _ => simp [Json.members?] at compiled

end WriteContext

/-! ## Compiled queries -/

namespace ProjectionContext

variable {context : ProjectionContext} {table : String} {a b : Aliases}

/-- A selection has the columns of its trees, its filter and its order. -/
theorem select_cases {query : SelectQuery} {select : Select}
    (h : Returns (context.select table query) a select b) :
    ∃ info columns condition? order r, context.repository.table? table = some info ∧
      Returns (context.projections query.select? query.include? table table) a columns r ∧
      Returns (context.conditionOn? query.filter? table (some table)) r condition? b ∧
      orderTerms? query.order? info (some table) (joinPath table "order") = .ok order ∧
      select =
        ⟨columns, some (.table table none), condition?, order, query.take?, query.skip?⟩ := by
  simp only [ProjectionContext.select, returns_bind, returns_pure, returns_monadLift] at h
  obtain ⟨info, _, ⟨hinfo, rfl⟩, columns, r, hcolumns, condition?, _, hcondition, order, _,
    ⟨horder, rfl⟩, rfl, rfl⟩ := h
  exact ⟨info, columns, condition?, order, r, Repository.table_eq_ok_iff.1 hinfo, hcolumns,
    hcondition, horder, rfl⟩

/-- A delete has its filter, and returns the columns of its trees if there are any trees. -/
theorem delete_cases {query : DeleteQuery} {delete : Delete}
    (h : Returns (context.delete table query) a delete b) :
    ∃ condition? returning r,
      Returns (context.conditionOn? query.filter? table none) a condition? r ∧
      (if query.select?.isSome || query.include?.isSome then
        Returns (context.projections query.select? query.include? table table) r returning b
      else returning = []) ∧
      delete = ⟨some table, condition?, returning⟩ := by
  simp only [ProjectionContext.delete, returns_bind] at h
  obtain ⟨condition?, r, hcondition, h⟩ := h
  split at h
  · rename_i hprojected
    simp only [returns_bind, returns_pure] at h
    obtain ⟨returning, _, hreturning, rfl, rfl⟩ := h
    refine ⟨condition?, returning, r, hcondition, ?_, rfl⟩
    rwa [if_pos hprojected]
  · rename_i hunprojected
    simp only [returns_bind, returns_pure] at h
    obtain ⟨_, _, ⟨rfl, rfl⟩, rfl, rfl⟩ := h
    refine ⟨condition?, [], _, hcondition, ?_, rfl⟩
    rw [if_neg hunprojected]

/-- A count has its filter. -/
theorem count_cases {query : CountQuery} {select : Select}
    (h : Returns (context.count table query) a select b) :
    ∃ condition?, Returns (context.conditionOn? query.filter? table none) a condition? b ∧
      select = { Select.ofColumns [.aliased (.raw "COUNT(1)") "count"] (.table table none) with
        where? := condition? } := by
  simp only [ProjectionContext.count, returns_bind, returns_pure] at h
  obtain ⟨condition?, _, hcondition, rfl, rfl⟩ := h
  exact ⟨condition?, hcondition, rfl⟩

end ProjectionContext

namespace WriteContext

variable {context : WriteContext} {table : String} {chain : Chain} {s t : Progress}

/-- A query that is no write is compiled to a single statement. -/
theorem single_cases {α : Type} {named : Naming α} {statement : α → Statement} {stem : String}
    (h : Returns (do
      let compiled ← Compilation.naming named
      return Chain.single stem (statement compiled)) s chain t) :
    ∃ compiled a b, Returns named a compiled b ∧ chain = .single stem (statement compiled) := by
  simp only [returns_bind, returns_pure] at h
  obtain ⟨compiled, _, hcompiled, rfl, -⟩ := h
  obtain ⟨_, hcompiled⟩ := returns_naming hcompiled
  exact ⟨compiled, _, _, hcompiled, rfl⟩

/-- A compiled query is its chain, rendered. -/
theorem compile_cases {query : Query} {compiled : CompiledQuery}
    (h : Returns (context.compile table query) s compiled t) :
    ∃ chain tokens r, Returns (context.chain table query) s chain r ∧ chain.tokens = .ok tokens ∧
      compiled = .ofTokens context.config.placeholderStyle tokens := by
  simp only [compile, finish, returns_bind, returns_monadLift, returns_emit_iff, returns_pure] at h
  obtain ⟨chain, r, hchain, tokens, _, ⟨htokens, -⟩, _, _, -, _, _, -, rfl, -⟩ := h
  exact ⟨chain, tokens, r, hchain, htokens, rfl⟩

/-- A chain that is rendered is compiled. -/
theorem compiles_of_chain {query : Query} {tokens : List Sql.Token}
    (hchain : Returns (context.chain table query) s chain t) (htokens : chain.tokens = .ok tokens) :
    ∃ next, Returns (context.compile table query) s
      (.ofTokens context.config.placeholderStyle tokens) next := by
  simp only [compile, finish, returns_bind, returns_monadLift, returns_emit_iff, returns_pure]
  exact ⟨_, chain, t, hchain, tokens, t, ⟨htokens, rfl⟩, (), _, rfl, (), _, rfl, rfl, rfl⟩

end WriteContext

end RelationalQuery
