import RelationalQuery.Proofs.Filter.Column
import RelationalQuery.Proofs.Projection.Column
import RelationalQuery.Proofs.Projection.Derivation
import RelationalQuery.Proofs.Sql.Shadows

/-!
# Names that compiled trees shadow

Subqueries of projections and of filters are named by two counters.  Each counter hands a name out
once, so that a subquery never hides another one that was named by the same counter.  What a subquery
can hide is a name that the other counter hands out as well, or the name of rows around the trees.

Main definitions:

- `ProjectionContext.Hides` says that a name can be hidden by the subqueries of two trees.

Main results:

- `FilterContext.Derives.shadows`: what the conditions of a filter hide.
- `ProjectionContext.Derives.shadows`: what the named expressions of two trees hide.
-/

namespace RelationalQuery

open Sql (Condition Expr FromItem OrderTerm Select)

/-- A name that is still handed out belongs to the family of its stem. -/
theorem inFamily_of_not_freshFrom {stem name : String} {index : Nat}
    (h : ¬ FreshFrom stem index name) : InFamily stem name := by
  by_contra hfamily
  exact h (.of_not_inFamily hfamily index)

/-! ## Parts of queries -/

namespace Sql.Condition

variable {name : String} {outer : List String}

theorem shadows_ofEntries (conditions : List Condition) :
    (ofEntries conditions).shadows outer = listShadows outer conditions := by
  rw [← clauseShadows_all, ofEntries]
  cases all conditions with
  | none => rfl
  | some condition => rfl

theorem listShadows_ofGroup (isDisjunction : Bool) (conditions : List Condition) :
    listShadows outer (ofGroup isDisjunction conditions) = listShadows outer conditions := by
  cases isDisjunction with
  | false => rfl
  | true =>
    rw [ofGroup, if_pos rfl, listShadows, listShadows, List.append_nil, shadows]

/-- A condition on related rows hides a name by the alias of these rows, or inside the condition. -/
theorem mem_shadows_relatedRow {relation : Relation} {inner : String} {condition : Condition}
    {negated : Bool} : name ∈ (relatedRow relation inner condition negated).shadows outer ↔
      name ∈ outer ∧ name = inner ∨ name ∈ condition.shadows (inner :: outer) := by
  simp [relatedRow, shadows, Select.restrict, Select.ofColumns, Select.shadows,
    FromItem.clauseShadows, FromItem.aliased, FromItem.scope, clauseShadows,
    Projection.listShadows, Projection.plain, Expr.shadows, OrderTerm.listShadows, added]

/-- A join hides nothing by itself. -/
theorem mem_shadows_joinedWith {relation : Relation} {inner other : String}
    {extra? : Option Condition} :
    name ∈ ((relation.join inner other).joinedWith extra?).shadows outer ↔
      name ∈ clauseShadows outer extra? := by
  cases extra? with
  | none => rfl
  | some condition =>
    rw [joinedWith, mem_shadows_andAlso, clauseShadows]
    exact or_iff_right (List.not_mem_nil)

end Sql.Condition

/-- A clause of rows that has no subquery hides a name only by its own. -/
def Sql.FromItem.IsFlat (rows : FromItem) : Prop :=
  ∀ outer, FromItem.clauseShadows outer (some rows) = outer.filter (· == rows.scope)

/-- The query over related rows hides a name by the name of its rows, in its object or in its
condition. -/
theorem mem_shadows_relatedSelect {isSingular : Bool} {options : IncludeOptions} {object : Expr}
    {rows : FromItem} {condition? : Option Condition} {order : List OrderTerm} {name : String}
    {outer : List String} (flat : rows.IsFlat)
    (plain : ∀ term ∈ order, ∀ outer, term.expr.shadows outer = []) :
    name ∈ (relatedSelect isSingular options object rows condition? order).shadows outer ↔
      name ∈ outer ∧ name = rows.scope ∨ name ∈ object.shadows (rows.scope :: outer) ∨
        name ∈ Condition.clauseShadows (rows.scope :: outer) condition? := by
  have horder : ∀ outer, ¬ ∃ term ∈ order, name ∈ term.expr.shadows outer := by
    rintro outer ⟨term, hterm, hmem⟩
    rw [plain term hterm] at hmem
    cases hmem
  have haggregate : ∀ outer, name ∈ (Expr.aggregate object order).shadows outer ↔
      name ∈ object.shadows outer := by
    intro outer
    rw [Expr.shadows, List.mem_append, OrderTerm.mem_listShadows, or_iff_left (horder outer)]
  have hrows : ∀ outer, name ∈ FromItem.clauseShadows outer (some rows) ↔
      name ∈ outer ∧ name = rows.scope := by
    intro outer
    rw [flat, List.mem_filter, beq_iff_eq]
  have hpage : ∀ query, name ∈ FromItem.clauseShadows outer (some (.subquery query rows.scope)) ↔
      name ∈ outer ∧ name = rows.scope ∨ name ∈ query.shadows outer := by
    intro query
    rw [FromItem.clauseShadows, List.mem_append, List.mem_filter, beq_iff_eq]
  have hscope : ∀ query, (FromItem.subquery query rows.scope).scope = rows.scope := fun _ => rfl
  unfold relatedSelect
  split
  · simp [Select.mem_shadows, Select.ofColumns, hrows, Sql.Projection.plain, horder]
  · simp only
    split
    · simp [Select.mem_shadows, Select.ofColumns, Select.ofRows, hpage, hrows, hscope,
        Condition.clauseShadows, Sql.Projection.plain, haggregate, horder]
      tauto
    · simp [Select.mem_shadows, Select.ofColumns, hrows, Sql.Projection.plain, haggregate]

/-- The keys of an order hide nothing. -/
theorem shadows_orderTerms {value? : Option Json} {table : Table} {scope? : Option String}
    {path : String} {order : List OrderTerm}
    (h : orderTerms? value? table scope? path = .ok order) :
    ∀ term ∈ order, ∀ outer, term.expr.shadows outer = [] := by
  intro term hterm outer
  obtain ⟨_, -, hexpr⟩ := orderTerms_onColumn h term hterm
  exact hexpr.shadows_eq_nil outer

/-! ## Filters -/

namespace FilterContext

variable {context : FilterContext} {table : Table} {name : String} {outer : List String}

/-- The conditions of a filter hide only names of outer rows that are handed out again. -/
theorem Derives.shadows {scope? : Option String} {task : FilterTask}
    {conditions : List Condition} {n m : Nat}
    (h : context.Derives table scope? task n conditions m)
    (hidden : name ∈ Condition.listShadows outer conditions) :
    name ∈ outer ∧ ¬ FreshFrom context.stem n name := by
  induction h generalizing outer with
  | nil | noItems => cases hidden
  | cons head _ ihHead ihTail =>
    rcases Condition.mem_listShadows_append.1 hidden with hidden | hidden
    · exact ihHead hidden
    · exact (ihTail hidden).imp_right fun hlater hfresh => hlater (hfresh.mono head.le)
  | group _ ih =>
    rw [Condition.listShadows_ofGroup] at hidden
    exact ih hidden
  | single _ ih =>
    rw [Condition.listShadows_ofGroup, Condition.listShadows, Condition.listShadows,
      List.append_nil, Condition.shadows_ofEntries] at hidden
    exact ih hidden
  | negation _ ih =>
    rw [Condition.listShadows, Condition.listShadows, List.append_nil, Condition.shadows,
      Condition.shadows_ofEntries] at hidden
    exact ih hidden
  | @unrelated _ _ _ _ _ n =>
    rw [Condition.listShadows, Condition.listShadows, List.append_nil,
      Condition.mem_shadows_relatedRow] at hidden
    rcases hidden with ⟨houter, rfl⟩ | hjoin
    · exact ⟨houter, fun hfresh => hfresh n (Nat.le_refl n) rfl⟩
    · cases hjoin
  | @related _ _ _ _ _ _ _ n _ _ _ ih =>
    rw [Condition.listShadows, Condition.listShadows, List.append_nil,
      Condition.mem_shadows_relatedRow, Condition.mem_shadows_joinedWith,
      Condition.clauseShadows_all] at hidden
    rcases hidden with ⟨houter, rfl⟩ | hidden
    · exact ⟨houter, fun hfresh => hfresh n (Nat.le_refl n) rfl⟩
    · obtain ⟨hmem, hlater⟩ := ih hidden
      -- The alias of the related rows is not handed out again inside of them.
      rcases List.mem_cons.1 hmem with rfl | houter
      · exact absurd (freshFrom_numberedName _ n) hlater
      · exact ⟨houter, fun hfresh => hlater (hfresh.mono (Nat.le_succ n))⟩
  | column predicates =>
    obtain ⟨condition, hcondition, hmem⟩ := Condition.mem_listShadows.1 hidden
    rw [((Table.columnConditions_onColumn predicates).2 condition hcondition).shadows_eq_nil]
      at hmem
    cases hmem
  | item head _ ihHead ihTail =>
    rw [Condition.listShadows, List.mem_append, Condition.shadows_ofEntries] at hidden
    rcases hidden with hidden | hidden
    · exact ihHead hidden
    · exact (ihTail hidden).imp_right fun hlater hfresh => hlater (hfresh.mono head.le)

end FilterContext

/-! ## Projections -/

namespace ProjectionContext

variable {context : ProjectionContext} {table : Table} {name : String} {outer : List String}

/-- A name can be hidden by subqueries of trees from a number on: both counters hand it out, or it
names outer rows and one of the counters hands it out. -/
def Hides (context : ProjectionContext) (outer : List String) (index : Nat) (name : String) : Prop :=
  InFamily context.config.projectionStem name ∧ InFamily context.config.filterStem name ∨
    name ∈ outer ∧ (¬ FreshFrom context.config.projectionStem index name ∨
      InFamily context.config.filterStem name)

theorem Hides.mono {index later : Nat} (h : context.Hides outer later name) (le : index ≤ later) :
    context.Hides outer index name := by
  refine h.imp_right fun ⟨houter, hmade⟩ => ⟨houter, ?_⟩
  exact hmade.imp_left fun hlater hfresh => hlater (hfresh.mono le)

/-- What can be hidden under the next alias can be hidden around it. -/
theorem Hides.of_inside {index : Nat}
    (h : context.Hides (numberedName context.config.projectionStem index :: outer) (index + 1)
      name) : context.Hides outer index name := by
  rcases h with hboth | ⟨hmem, hmade⟩
  · exact .inl hboth
  · rcases List.mem_cons.1 hmem with rfl | houter
    · rcases hmade with hlater | hfilter
      · exact absurd (freshFrom_numberedName _ index) hlater
      · exact .inl ⟨inFamily_numberedName _ index, hfilter⟩
    · refine .inr ⟨houter, hmade.imp_left fun hlater hfresh => ?_⟩
      exact hlater (hfresh.mono (Nat.le_succ index))

/-- The condition of a filter of related rows hides what its counter hands out. -/
theorem RelatedFilter.shadows {related : Table} {inner : String} {filter? : Option Json}
    {n m : Nat} {extra? : Option Condition}
    (h : context.RelatedFilter related inner filter? n extra? m)
    (hidden : name ∈ Condition.clauseShadows outer extra?) :
    name ∈ outer ∧ InFamily context.config.filterStem name := by
  cases filter? with
  | none =>
    obtain ⟨rfl, -⟩ := h
    cases hidden
  | some filter =>
    obtain ⟨_, hfilter⟩ := h
    obtain ⟨members, conditions, -, rfl, derives⟩ := FilterContext.derives_of_condition hfilter
    rw [Condition.clauseShadows_all] at hidden
    exact (derives.shadows hidden).imp_right inFamily_of_not_freshFrom

/-- The named expressions of two trees hide only what they can hide. -/
theorem Derives.shadows {scope : String} {task : ProjectionTask} {fields : List (String × Expr)}
    {a b : Aliases} (h : context.Derives table scope task a fields b) {field : String × Expr}
    (mem : field ∈ fields) (hidden : name ∈ field.2.shadows outer) :
    context.Hides outer a.projections name := by
  induction h generalizing outer field with
  | all _ ih =>
    rcases List.mem_append.1 mem with hcolumn | hincluded
    · obtain ⟨column, -, rfl⟩ := List.mem_map.1 hcolumn
      cases hidden
    · exact ih hincluded hidden
  | tree entries _ ihEntries ihOthers =>
    rcases List.mem_append.1 mem with hmem | hmem
    · exact ihEntries hmem hidden
    · exact (ihOthers hmem hidden).mono entries.projections_le
  | nothingSelected | nothingIncluded => cases mem
  | hidden _ _ ih | skipped _ _ ih => exact ih mem hidden
  | selectedRelation _ _ head _ ihHead ihTail | includedRelation _ _ head _ ihHead ihTail =>
    rcases List.mem_append.1 mem with hmem | hmem
    · exact ihHead hmem hidden
    · exact (ihTail hmem hidden).mono head.projections_le
  | selectedColumn _ head _ ih =>
    rcases List.mem_append.1 mem with hmem | hmem
    · rw [((columnFields_onColumn head).2 field hmem).shadows_eq_nil] at hidden
      cases hidden
    · exact ih hmem hidden
  | @relation _ _ _ _ _ _ _ _ _ _ _ a _ _ _ _ filter ordered ih =>
    obtain rfl := List.mem_singleton.1 mem
    rw [Expr.shadows, relatedQuery, mem_shadows_relatedSelect (fun _ => rfl)
      (shadows_orderTerms ordered), Condition.clauseShadows, Condition.mem_shadows_joinedWith,
      Expr.shadows, Expr.mem_entryShadows] at hidden
    rcases hidden with ⟨houter, rfl⟩ | ⟨entry, hentry, hidden⟩ | hidden
    · exact .inr ⟨houter, .inl fun hfresh => hfresh a.projections (Nat.le_refl _) rfl⟩
    · exact (ih hentry hidden).of_inside
    · obtain ⟨hmem, hfamily⟩ := filter.shadows hidden
      exact Hides.of_inside (.inr ⟨hmem, .inr hfamily⟩)

end ProjectionContext

end RelationalQuery
