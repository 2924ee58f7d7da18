import RelationalQuery.Proofs.Filter.Keyed
import RelationalQuery.Proofs.Projection.Derivation

/-!
# The literals of projections

A select tree becomes objects whose keys are keys of the tree: names of columns and relations, and
keys inside columns.  Without a select tree the keys of an object are the names of all columns of
its table, and each of them stands next to its column.

Main definitions:

- `ProjectionTask.allKeys` are the keys inside a part of two trees.

Main results:

- `ProjectionContext.Derives.keyed`: the literals in the named expressions of two trees are keys of
  the trees, or names of columns next to them.
- `ProjectionContext.keyed_projections` and `ProjectionContext.keyed_conditionOn?`: this holds for
  output columns and for the condition of a statement.
-/

namespace RelationalQuery

open Sql (ColumnRef Condition Expr FromItem Keyed KeyedEntry OrderTerm Select)

/-! ## Keys of trees -/

theorem treeKeys_selectTree?_subset (value : Json) :
    Json.treeKeys (selectTree? value) ⊆ value.allKeys := by
  unfold selectTree?
  split
  · rw [Json.treeKeys_some]
    exact List.Subset.refl _
  · exact List.nil_subset _

theorem treeKeys_bind_selectTree?_subset (value? : Option Json) :
    Json.treeKeys (value?.bind selectTree?) ⊆ Json.treeKeys value? := by
  cases value? with
  | none => exact List.nil_subset _
  | some value =>
    rw [Option.bind_some, Json.treeKeys_some]
    exact treeKeys_selectTree?_subset value

theorem treeKeys_includedAs?_subset (includes : Members) (name : String) :
    Json.treeKeys (includedAs? includes name) ⊆ Json.memberKeys includes := by
  refine List.Subset.trans ?_ (Json.treeKeys_get?_subset includes name)
  unfold includedAs?
  cases includes.get? name with
  | none => exact List.nil_subset _
  | some value =>
    rw [Option.filter]
    split
    · exact List.Subset.refl _
    · exact List.nil_subset _

/-- The trees among the options of an entry have no further keys. -/
theorem IncludeOptions.treeKeys_ofEntry_subset (included? : Option Json) :
    Json.treeKeys (ofEntry included?).filter? ⊆ Json.treeKeys included? ∧
      Json.treeKeys (ofEntry included?).select? ⊆ Json.treeKeys included? ∧
      Json.treeKeys (ofEntry included?).include? ⊆ Json.treeKeys included? := by
  unfold ofEntry
  split
  · rename_i members
    rw [Json.treeKeys_some, Json.allKeys]
    exact ⟨Json.treeKeys_get?_subset members _, Json.treeKeys_get?_subset members _,
      Json.treeKeys_get?_subset members _⟩
  · exact ⟨List.nil_subset _, List.nil_subset _, List.nil_subset _⟩

/-- The keys inside a part of two trees; a relation has its name in front of them. -/
def ProjectionTask.allKeys : ProjectionTask → List String
  | .fields select? include? => Json.treeKeys select? ++ Json.treeKeys include?
  | .selected includes members => Json.memberKeys includes ++ Json.memberKeys members
  | .included includes _ => Json.memberKeys includes
  | .relation key _ selection? included? =>
    key :: Json.treeKeys selection? ++ Json.treeKeys included?

section

variable {P : String → Prop}

/-! ## Columns -/

mutual

/-- The output field of the entry of a key has this key and keys inside the entry. -/
theorem keyed_nestedEntry : ∀ {field? : Option Field} {target : ColumnRef} {key keyPath : String}
    {entry : Json} {fields : List (String × Expr)},
      nestedEntry field? target key keyPath entry = .ok fields → P key →
        (∀ key ∈ target.path, P key) → (∀ key ∈ entry.allKeys, P key) →
          ∀ field ∈ fields, KeyedEntry P field
  | field?, target, key, keyPath, .bool false, fields, h, own, path, keys => by
    rw [nestedEntry, Except.ok.injEq] at h
    rw [← h]
    exact List.forall_mem_nil _
  | field?, target, key, keyPath, .bool true, fields, h, own, path, keys => by
    rw [nestedEntry, Except.ok.injEq] at h
    rw [← h, List.forall_mem_singleton]
    refine .of_key own ?_
    rw [Expr.pieces]
    exact .column path
  | some field, target, key, keyPath, .object members, fields, h, own, path, keys => by
    rw [nestedEntry] at h
    split at h
    · simp only [bind_eq_ok_iff, pure_eq_ok_iff] at h
      obtain ⟨nested, hnested, rfl⟩ := h
      rw [Json.allKeys] at keys
      rw [List.forall_mem_singleton]
      exact .of_key own (.object (keyed_nestedFields hnested path keys))
    · simp at h
  | none, target, key, keyPath, .object members, fields, h, own, path, keys
  | field?, target, key, keyPath, .null, fields, h, own, path, keys
  | field?, target, key, keyPath, .number _, fields, h, own, path, keys
  | field?, target, key, keyPath, .string _, fields, h, own, path, keys
  | field?, target, key, keyPath, .array _, fields, h, own, path, keys => by
    simp [nestedEntry] at h

/-- The entries of the object for a select tree have keys of the tree. -/
theorem keyed_nestedFields : ∀ {field : Field} {base : ColumnRef} {path : String}
    {members : List (String × Json)} {fields : List (String × Expr)},
      nestedFields field base path members = .ok fields → (∀ key ∈ base.path, P key) →
        (∀ key ∈ Json.memberKeys members, P key) → ∀ field ∈ fields, KeyedEntry P field
  | field, base, path, [], fields, h, above, keys => by
    rw [nestedFields, Except.ok.injEq] at h
    rw [← h]
    exact List.forall_mem_nil _
  | field, base, path, (key, value) :: rest, fields, h, above, keys => by
    simp only [nestedFields, bind_eq_ok_iff, pure_eq_ok_iff] at h
    obtain ⟨child?, -, first, hfirst, others, hothers, rfl⟩ := h
    rw [Json.memberKeys, List.forall_mem_append, List.forall_mem_cons] at keys
    have htarget : ∀ inner ∈ (base.key key).path, P inner := by
      rw [ColumnRef.key, List.forall_mem_append, List.forall_mem_singleton]
      exact ⟨above, keys.1.1⟩
    rw [List.forall_mem_append]
    exact ⟨keyed_nestedEntry hfirst keys.1.1 htarget keys.1.2,
      keyed_nestedFields hothers above keys.2⟩

end

theorem keyed_columnFields {table : Table} {scope path key : String} {value : Json}
    {fields : List (String × Expr)} (h : columnFields table scope path key value = .ok fields)
    (own : P key) (keys : ∀ key ∈ value.allKeys, P key) :
    ∀ field ∈ fields, KeyedEntry P field := by
  simp only [columnFields, bind_eq_ok_iff] at h
  obtain ⟨_, -, h⟩ := h
  exact keyed_nestedEntry h own (List.forall_mem_nil _) keys

/-- The name of a column stands next to the column. -/
theorem keyed_allColumnFields (table : Table) (scope : String) :
    ∀ field ∈ allColumnFields table scope, KeyedEntry P field := by
  rw [allColumnFields, List.forall_mem_map]
  intro name hname
  constructor
  · intro text htext
    obtain rfl : text = name := by
      simpa [Expr.pieces, ColumnRef.pieces, ColumnRef.qualified, Sql.qualifiedPieces,
        Sql.namePieces] using htext
    simp [Expr.pieces, ColumnRef.pieces, ColumnRef.qualified, Sql.qualifiedPieces, Sql.namePieces]
  · refine List.forall_mem_cons.2 ⟨trivial, ?_⟩
    rw [Expr.pieces]
    exact (Keyed.plainColumn (P := P) _ _).fixed

/-- The keys of an order are columns. -/
theorem keyed_orderTerms {value? : Option Json} {table : Table} {scope? : Option String}
    {path : String} {order : List OrderTerm}
    (h : orderTerms? value? table scope? path = .ok order) :
    Keyed P (OrderTerm.listPieces order) := by
  cases value? with
  | none =>
    rw [← Except.ok.inj h]
    exact .nil
  | some value =>
    simp only [orderTerms?, orderTerms, bind_eq_ok_iff] at h
    obtain ⟨objects, -, h⟩ := h
    rw [OrderTerm.listPieces_eq_flatMap]
    refine .flatMap fun term hterm => ?_
    obtain ⟨entry, -, hentry⟩ := exists_mem_of_forall₂ (forall₂_of_mapM_eq_ok h) hterm
    simp only [orderTerm, bind_eq_ok_iff] at hentry
    obtain ⟨_, -, hentry⟩ := hentry
    split at hentry
    · rw [← Except.ok.inj hentry, Expr.pieces]
      exact .plainColumn _ _
    · simp at hentry

/-! ## Related rows -/

/-- The query over related rows has the literals of its parts. -/
theorem Sql.Keyed.relatedSelect {isSingular : Bool} {options : IncludeOptions} {object : Expr}
    {rows : FromItem} {condition? : Option Condition} {order : List OrderTerm}
    (hobject : Keyed P object.pieces) (hrows : Keyed P rows.pieces)
    (hcondition : Keyed P (Condition.clausePieces condition?))
    (horder : Keyed P (OrderTerm.listPieces order)) :
    Keyed P (relatedSelect isSingular options object rows condition? order).pieces := by
  have hobjects : ∀ column ∈ [Sql.Projection.plain (.aggregate object order)],
      Keyed P column.expr.pieces := List.forall_mem_singleton.2 (.aggregate hobject horder)
  unfold RelationalQuery.relatedSelect
  split
  · exact .select (.columns (List.forall_mem_singleton.2 hobject)) hrows hcondition horder
  · simp only
    split
    · refine .select (.columns hobjects) ?_ .nil .nil
      exact (Keyed.select .nil hrows hcondition horder).append (.name _)
    · exact .select (.columns hobjects) hrows hcondition .nil

end

/-! ## Trees -/

namespace ProjectionContext

variable {context : ProjectionContext} {a b : Aliases} {P : String → Prop}

theorem RelatedFilter.keyed {related : Table} {inner : String} {filter? : Option Json}
    {n m : Nat} {extra? : Option Condition}
    (h : context.RelatedFilter related inner filter? n extra? m)
    (keys : ∀ key ∈ Json.treeKeys filter?, P key) :
    Keyed P (Condition.clausePieces extra?) := by
  cases filter? with
  | none =>
    obtain ⟨rfl, -⟩ := h
    exact .nil
  | some filter =>
    obtain ⟨_, hfilter⟩ := h
    rw [Json.treeKeys_some] at keys
    exact FilterContext.keyed_condition hfilter keys

/-- The literals in the named expressions of a part of two trees are keys inside this part, or names
of columns next to them. -/
theorem Derives.keyed {table : Table} {scope : String} {task : ProjectionTask}
    {fields : List (String × Expr)} (h : context.Derives table scope task a fields b)
    (keys : ∀ key ∈ task.allKeys, P key) : ∀ field ∈ fields, KeyedEntry P field := by
  induction h with
  | @all table scope include? _ _ _ _ ih =>
    rw [List.forall_mem_append]
    refine ⟨keyed_allColumnFields table scope, ih fun key hkey => keys key ?_⟩
    exact Json.memberKeys_membersOf_subset include? hkey
  | @tree _ _ members include? _ _ _ _ _ _ _ ihEntries ihOthers =>
    have hincluded := Json.memberKeys_membersOf_subset include?
    rw [ProjectionTask.allKeys, List.forall_mem_append, Json.treeKeys_some, Json.allKeys] at keys
    rw [List.forall_mem_append]
    refine ⟨ihEntries (List.forall_mem_append.2 ⟨?_, keys.1⟩), ihOthers ?_⟩
    · exact fun key hkey => keys.2 key (hincluded hkey)
    · exact fun key hkey => keys.2 key (hincluded hkey)
  | nothingSelected | nothingIncluded => exact List.forall_mem_nil _
  | hidden _ _ ih =>
    rw [ProjectionTask.allKeys, Json.memberKeys, List.forall_mem_append, List.forall_mem_append]
      at keys
    exact ih (List.forall_mem_append.2 ⟨keys.1, keys.2.2⟩)
  | @selectedRelation _ _ key _ value includes _ _ _ _ _ _ _ _ _ _ ihHead ihTail =>
    rw [ProjectionTask.allKeys, Json.memberKeys, List.forall_mem_append, List.forall_mem_append,
      List.forall_mem_cons] at keys
    rw [List.forall_mem_append]
    refine ⟨ihHead ?_, ihTail (List.forall_mem_append.2 ⟨keys.1, keys.2.2⟩)⟩
    rw [ProjectionTask.allKeys, List.forall_mem_append, List.forall_mem_cons]
    refine ⟨⟨keys.2.1.1, fun key hkey => ?_⟩, fun key hkey => ?_⟩
    · exact keys.2.1.2 key (treeKeys_selectTree?_subset value hkey)
    · exact keys.1 key (treeKeys_includedAs?_subset includes _ hkey)
  | selectedColumn _ head _ ih =>
    rw [ProjectionTask.allKeys, Json.memberKeys, List.forall_mem_append, List.forall_mem_append,
      List.forall_mem_cons] at keys
    rw [List.forall_mem_append]
    exact ⟨keyed_columnFields head keys.2.1.1 keys.2.1.2,
      ih (List.forall_mem_append.2 ⟨keys.1, keys.2.2⟩)⟩
  | skipped _ _ ih =>
    rw [ProjectionTask.allKeys, Json.memberKeys, List.forall_mem_append] at keys
    exact ih keys.2
  | includedRelation _ _ _ _ ihHead ihTail =>
    rw [ProjectionTask.allKeys, Json.memberKeys, List.forall_mem_append, List.forall_mem_cons]
      at keys
    rw [List.forall_mem_append]
    refine ⟨ihHead ?_, ihTail keys.2⟩
    rw [ProjectionTask.allKeys, List.forall_mem_append, List.forall_mem_cons, Json.treeKeys_none,
      Json.treeKeys_some]
    exact ⟨⟨keys.1.1, List.forall_mem_nil _⟩, keys.1.2⟩
  | @relation _ _ _ _ _ _ selection? included? _ _ _ _ _ _ _ _ filter ordered ih =>
    obtain ⟨hfilter, hselect, hinclude⟩ := IncludeOptions.treeKeys_ofEntry_subset included?
    rw [ProjectionTask.allKeys, List.forall_mem_append, List.forall_mem_cons] at keys
    rw [List.forall_mem_singleton]
    refine .of_key keys.1.1 ?_
    rw [Expr.pieces, relatedQuery]
    refine .relatedSelect (.object (ih ?_)) ?_ ?_ (keyed_orderTerms ordered)
    · rw [ProjectionTask.allKeys, List.forall_mem_append]
      refine ⟨fun key hkey => ?_, fun key hkey => keys.2 key (hinclude hkey)⟩
      rcases List.mem_append.1 (Json.treeKeys_orElse_subset _ _ hkey) with hown | hoption
      · exact keys.1.2 key hown
      · exact keys.2 key (hselect hoption)
    · exact (Keyed.name _).append (.names _)
    · exact .joinedWith _ _ _ (filter.keyed fun key hkey => keys.2 key (hfilter hkey))

/-- The literals in compiled output columns are keys of the trees, or names of columns. -/
theorem keyed_projections {select? include? : Option Json} {name scope : String}
    {columns : List Sql.Projection}
    (compiled : Returns (context.projections select? include? name scope) a columns b)
    (keys : ∀ key ∈ Json.treeKeys select? ++ Json.treeKeys include?, P key) :
    Keyed P (Sql.Projection.listPieces columns) := by
  obtain ⟨table, fields, -, rfl, derives⟩ := derives_of_projections compiled
  refine .columns (List.forall_mem_map.2 fun field hfield => ?_)
  rw [expr_outputColumn]
  exact (derives.keyed keys field hfield).value

/-- The literals in the condition of a statement are keys of its filter. -/
theorem keyed_conditionOn? {filter? : Option Json} {table : String} {scope? : Option String}
    {condition? : Option Condition}
    (compiled : Returns (context.conditionOn? filter? table scope?) a condition? b)
    (keys : ∀ key ∈ Json.treeKeys filter?, P key) :
    Keyed P (Condition.clausePieces condition?) := by
  cases filter? with
  | none =>
    rw [conditionOn?, returns_pure] at compiled
    rw [compiled.1]
    exact .nil
  | some filter =>
    simp only [conditionOn?, FilterContext.conditionOn, returns_inFilters, returns_bind,
      returns_monadLift] at compiled
    obtain ⟨_, ⟨_, _, -, compiled⟩, -⟩ := compiled
    rw [Json.treeKeys_some] at keys
    exact FilterContext.keyed_condition compiled keys

end ProjectionContext

end RelationalQuery
