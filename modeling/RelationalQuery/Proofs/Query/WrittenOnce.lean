import RelationalQuery.Proofs.Query.Rows
import RelationalQuery.Proofs.Query.WriteSet

/-!
# Columns are written once

A database refuses a statement that gives a column two values.  The columns of a new row come from
the data, from keys of connected rows and from links, and an insert checks that they are distinct.
An update makes no such check: the assignments of its main statement come from the columns of the
data and from the keys of all relations, and these may name the same column.

Main definitions:

- `ColumnRef.Overlaps` says that two targets of assignments share a part of a column.
- `Statement.WritesOnce` says that a statement gives no part of a column two values.
- `Table.insertedColumns` and `Table.assignedColumns` are the columns that data gives values for,
  once for each source of a value.

Main results:

- `WriteContext.alterationPlan_once`: a step writes once, and the main statement does if the sources
  of its values are for distinct columns.
- `WriteContext.columns_written_once`: every statement of an insert writes once, and of an update
  every one but the main statement, which does exactly if its sources are for distinct columns.
- `WriteContext.update_assigns_twice`: an update that assigns a column twice.
-/

namespace RelationalQuery

open Sql (Assignment Chain ColumnRef Expr Patch Statement)

/-! ## Statements that write once -/

/-- Two targets are in the same column, and one of them is the other or contains it. -/
def Sql.ColumnRef.Overlaps (first second : ColumnRef) : Prop :=
  first.name = second.name ∧ (first.path <+: second.path ∨ second.path <+: first.path)

/-- The targets of assignments do not overlap, and no assignment writes a key twice. -/
structure Sql.Assignment.Once (assignments : List Assignment) : Prop where
  targets : assignments.Pairwise fun first second => ¬ first.target.Overlaps second.target
  keys : ∀ assignment ∈ assignments, (assignment.writes.map (·.1)).Nodup

/-- A statement gives no part of a column two values. -/
def Sql.Statement.WritesOnce : Statement → Prop
  | .insert s => ∀ record ∈ s.record?, record.columns.Nodup
  | .update s => Assignment.Once s.assignments
  | .select _ | .delete _ => True

namespace Table

/-- The columns that the data of an insert gives values for, once for each source: those of the new
row and of connected rows, and those that refer to created rows. -/
def insertedColumns (table : Table) (data : Members) : List String :=
  (table.ownRow data).keys ++ (table.parentRows data).map (·.relation.targetColumn)

/-- The columns that the data of an update gives values for, once for each source: the entries of
columns, unless they patch nothing, and the keys of connected rows. -/
def assignedColumns (table : Table) (data : Members) : List String :=
  Members.keys ((table.ownMembers data).filter (!table.schema.isEmptyPatch ·)) ++
    (table.relations.flatMap fun relation => relation.ownData table.schema data).map
      (·.place.column)

end Table

/-! ## Assignments -/

namespace Sql.ColumnRef

/-- A whole column overlaps exactly the targets in it. -/
theorem overlaps_whole {first second : ColumnRef} (whole : second.path = []) :
    first.Overlaps second ↔ first.name = second.name := by
  rw [Overlaps, whole]
  simp

end Sql.ColumnRef

namespace Sql.Assignment

variable {left right assignments : List Assignment} {qualifier? : Option String}
  {data : List Datum}

protected theorem Once.nil : Once [] :=
  ⟨.nil, List.forall_mem_nil _⟩

/-- Assignments write once together exactly if those on each side do, and none overlaps one of the
other side. -/
theorem once_append : Once (left ++ right) ↔ Once left ∧ Once right ∧
    ∀ first ∈ left, ∀ second ∈ right, ¬ first.target.Overlaps second.target := by
  constructor
  · rintro ⟨htargets, hkeys⟩
    rw [List.pairwise_append] at htargets
    rw [List.forall_mem_append] at hkeys
    exact ⟨⟨htargets.1, hkeys.1⟩, ⟨htargets.2.1, hkeys.2⟩, htargets.2.2⟩
  · rintro ⟨hleft, hright, hapart⟩
    exact ⟨List.pairwise_append.2 ⟨hleft.targets, hright.targets, hapart⟩,
      List.forall_mem_append.2 ⟨hleft.keys, hright.keys⟩⟩

/-- The places that assignments write are those of the values. -/
theorem Write.places (h : Assignment.Write assignments qualifier? data) :
    (assignments.flatMap Assignment.writes).map (·.1) = data.map (·.place) := by
  have heach := h.each
  clear h
  generalize assignments.flatMap Assignment.writes = writes at heach
  induction heach with
  | nil => rfl
  | cons hwrite _ ih => rw [List.map_cons, List.map_cons, hwrite.1, ih]

/-- No assignment writes a key twice if the places of the values are distinct. -/
theorem Write.keys (h : Assignment.Write assignments qualifier? data)
    (distinct : (data.map (·.place)).Nodup) :
    ∀ assignment ∈ assignments, (assignment.writes.map (·.1)).Nodup := by
  rw [← h.places, List.map_flatMap, List.nodup_flatMap] at distinct
  exact distinct.1

/-- An assignment that writes a whole column has it as its target, and writes nothing else. -/
theorem target_of_whole {assignment : Assignment} {write : Place × Expr}
    (mem : write ∈ assignment.writes) (whole : write.1.key? = none) :
    assignment.target.name = write.1.column ∧ assignment.target.path = [] ∧
      assignment.writes = [write] := by
  unfold writes at mem ⊢
  split
  · rename_i entries hpath hvalue
    rw [hpath, hvalue] at mem
    obtain ⟨entry, -, rfl⟩ := List.mem_map.1 mem
    cases whole
  · rename_i hmerge
    split at mem
    · rename_i hpath hvalue
      exact (hmerge _ _ hpath hvalue).elim
    · obtain rfl := List.mem_singleton.1 mem
      exact ⟨rfl, List.head?_eq_none_iff.1 whole, rfl⟩

/-- An assignment gives the whole column of a value a single value. -/
structure IsWhole (datum : Datum) (assignment : Assignment) : Prop where
  name : assignment.target.name = datum.place.column
  path : assignment.target.path = []
  alone : assignment.writes.length = 1

/-- Values of whole columns are assigned to these columns, one by one. -/
theorem Write.whole (h : Assignment.Write assignments qualifier? data)
    (whole : ∀ datum ∈ data, datum.place.key? = none) :
    List.Forall₂ IsWhole data assignments := by
  induction assignments generalizing data with
  | nil =>
    rw [h.eq_nil_iff.1 rfl]
    exact .nil
  | cons assignment rest ih =>
    obtain ⟨heach, hnonempty⟩ := h
    rw [List.forall_mem_cons] at hnonempty
    obtain ⟨write, hwrite⟩ := List.exists_mem_of_ne_nil _ hnonempty.1
    have hall : ∀ write ∈ (assignment :: rest).flatMap Assignment.writes, write.1.key? = none := by
      intro write hwrite
      obtain ⟨datum, hdatum, hplace, -⟩ := exists_mem_of_forall₂ heach hwrite
      rw [hplace]
      exact whole datum hdatum
    obtain ⟨hname, hpath, hwrites⟩ := target_of_whole hwrite
      (hall write (List.mem_flatMap.2 ⟨assignment, List.mem_cons_self, hwrite⟩))
    rw [List.flatMap_cons, hwrites, List.singleton_append] at heach
    cases heach with
    | cons hfirst hrest =>
      refine .cons ⟨hname.trans (congrArg Place.column hfirst.1), hpath, by rw [hwrites]; rfl⟩ ?_
      exact ih ⟨hrest, hnonempty.2⟩ (List.forall_mem_cons.1 whole).2

/-- A target overlaps none of some whole columns if it is in another column. -/
theorem not_overlaps_iff_of_whole (h : List.Forall₂ IsWhole data assignments) (target : ColumnRef) :
    (∀ assignment ∈ assignments, ¬ target.Overlaps assignment.target) ↔
      target.name ∉ data.map (·.place.column) := by
  induction h with
  | nil => simp
  | cons hfirst _ ih =>
    rw [List.forall_mem_cons, ih, List.map_cons, List.mem_cons, not_or,
      ColumnRef.overlaps_whole hfirst.path, hfirst.name]

/-- Whole columns are assigned once if they are distinct. -/
theorem once_iff_of_whole (h : List.Forall₂ IsWhole data assignments) :
    Once assignments ↔ (data.map (·.place.column)).Nodup := by
  induction h with
  | nil => exact ⟨fun _ => List.nodup_nil, fun _ => .nil⟩
  | @cons datum assignment rest others hfirst hrest ih =>
    have hsingle : Once [assignment] := by
      refine ⟨List.pairwise_singleton _ _, ?_⟩
      obtain ⟨write, hwrite⟩ := List.length_eq_one_iff.1 hfirst.alone
      rw [List.forall_mem_singleton, hwrite]
      exact List.nodup_singleton _
    rw [List.map_cons, List.nodup_cons, ← List.singleton_append, once_append,
      List.forall_mem_singleton, not_overlaps_iff_of_whole hrest, hfirst.name]
    simp [hsingle, ih, and_comm]

end Sql.Assignment

/-! ## Entries of columns -/

/-- The assignments of a patch with distinct keys are in its column, and do not overlap. -/
theorem Sql.Patch.targets_assignments {patch : Patch} (nested : ObjectSchema)
    (distinct : (Entries.names patch.entries).Nodup) :
    ((patch.assignments nested).Pairwise fun first second =>
        ¬ first.target.Overlaps second.target) ∧
      ∀ assignment ∈ patch.assignments nested, assignment.target.name = patch.column := by
  unfold assignments
  split
  · constructor
    · rw [subscriptAssignments, List.pairwise_map]
      refine (List.pairwise_map.1 distinct).imp ?_
      rintro first second hdistinct ⟨-, hprefix⟩
      simp only [ColumnRef.key, ColumnRef.plain, List.nil_append, List.cons_prefix_cons] at hprefix
      rcases hprefix with ⟨hsame, -⟩ | ⟨hsame, -⟩
      · exact hdistinct hsame
      · exact hdistinct hsame.symm
    · intro assignment hassignment
      obtain ⟨entry, -, rfl⟩ := List.mem_map.1 hassignment
      rfl
  · exact ⟨List.pairwise_singleton _ _, List.forall_mem_singleton.2 rfl⟩

/-- The values of an entry are for distinct places. -/
theorem ObjectSchema.nodup_places {schema : ObjectSchema} {entry : String × Json}
    (distinct : entry.2.hasDistinctNames = true) :
    ((schema.data entry).map (·.place)).Nodup := by
  unfold data
  split
  · rename_i nested members hpatched
    obtain ⟨field, -, hpatched⟩ := Option.bind_eq_some_iff.1 hpatched
    obtain ⟨-, -, hmembers⟩ := Field.patch?_eq_some_iff.1 hpatched
    rw [hmembers, Json.hasDistinctNames_object] at distinct
    rw [List.map_map]
    refine List.pairwise_map.2 ((List.pairwise_map.1 distinct.1).imp ?_)
    intro first second hdistinct hsame
    simp only [Function.comp_apply, Place.mk.injEq, Option.some.injEq, true_and] at hsame
    exact hdistinct hsame
  · exact List.nodup_singleton _

namespace WriteContext

variable {context : WriteContext} {schema : ObjectSchema} {path : String}
  {qualifier? : Option String} {s t : Progress}

/-- The entry of a column assigns once, in its own column. -/
theorem fieldAssignments_once {entry : String × Json} {assignments : List Assignment}
    (distinct : entry.2.hasDistinctNames = true)
    (h : Returns (context.fieldAssignments schema path qualifier? entry) s assignments t) :
    Assignment.Once assignments ∧ ∀ assignment ∈ assignments, assignment.target.name = entry.1 := by
  have hkeys := (fieldAssignments_writes h).1.keys (ObjectSchema.nodup_places distinct)
  suffices htargets : (assignments.Pairwise fun first second =>
      ¬ first.target.Overlaps second.target) ∧
        ∀ assignment ∈ assignments, assignment.target.name = entry.1 from
    ⟨⟨htargets.1, hkeys⟩, htargets.2⟩
  clear hkeys
  obtain ⟨field, -, ⟨members, expr, -, -, -, rfl⟩ | ⟨nested, members, -, hpatched, hpatch⟩ |
    ⟨expr, -, -, -, -, rfl⟩⟩ := fieldAssignments_cases h
  · exact ⟨List.pairwise_singleton _ _, List.forall_mem_singleton.2 rfl⟩
  · obtain ⟨-, -, hmembers⟩ := patched?_eq_some_iff.1 hpatched
    rw [hmembers, Json.hasDistinctNames_object] at distinct
    obtain ⟨entries, _, -, hexprs, rfl, rfl⟩ := patchAssignments_cases hpatch
    have hnames : Entries.names entries = members.keys :=
      Entries.names_eq_of_forall₂ (hexprs.imp fun _ _ hexpr => hexpr.1)
    split
    · exact ⟨.nil, List.forall_mem_nil _⟩
    · refine Patch.targets_assignments nested ?_
      rw [Entries.names, List.map_map]
      rw [Entries.names] at hnames
      exact hnames ▸ distinct.1
  · exact ⟨List.pairwise_singleton _ _, List.forall_mem_singleton.2 rfl⟩

/-- The entry of a column assigns in its own column, unless it is an empty patch. -/
theorem fieldAssignments_assigns {entry : String × Json} {assignments : List Assignment}
    (distinct : entry.2.hasDistinctNames = true)
    (h : Returns (context.fieldAssignments schema path qualifier? entry) s assignments t)
    {name : String} : (∃ assignment ∈ assignments, assignment.target.name = name) ↔
      entry.1 = name ∧ schema.isEmptyPatch entry = false := by
  have hnames := (fieldAssignments_once distinct h).2
  have hempty := (fieldAssignments_writes h).1.eq_nil_iff
  rw [ObjectSchema.data_eq_nil_iff] at hempty
  constructor
  · rintro ⟨assignment, hassignment, rfl⟩
    refine ⟨(hnames assignment hassignment).symm, ?_⟩
    rw [← Bool.not_eq_true, ← hempty]
    exact List.ne_nil_of_mem hassignment
  · rintro ⟨rfl, hpatch⟩
    rw [← Bool.not_eq_true, ← hempty] at hpatch
    obtain ⟨assignment, hassignment⟩ := List.exists_mem_of_ne_nil _ hpatch
    exact ⟨assignment, hassignment, hnames assignment hassignment⟩

/-- The entries of columns assign once, in the columns of those that are no empty patches. -/
theorem mapM_fieldAssignments_once {entries : Members} {parts : List (List Assignment)}
    (distinct : (Json.object entries).hasDistinctNames = true)
    (h : Returns (entries.mapM (context.fieldAssignments schema path qualifier?)) s parts t) :
    Assignment.Once parts.flatten ∧ ∀ name, (∃ assignment ∈ parts.flatten,
      assignment.target.name = name) ↔
        name ∈ Members.keys (entries.filter (!schema.isEmptyPatch ·)) := by
  rw [Json.hasDistinctNames_object] at distinct
  obtain ⟨hkeys, hvalues⟩ := distinct
  have hparts := forall₂_of_returns_mapM (R := fun entry part => Assignment.Once part ∧
      ∀ name, (∃ assignment ∈ part, assignment.target.name = name) ↔
        entry.1 = name ∧ schema.isEmptyPatch entry = false) h
    fun entry hentry _ _ _ hpart => ⟨(fieldAssignments_once (hvalues entry hentry) hpart).1,
      fun _ => fieldAssignments_assigns (hvalues entry hentry) hpart⟩
  clear h hvalues
  induction hparts with
  | nil => exact ⟨.nil, fun name => by simp [Members.keys]⟩
  | @cons entry part rest others hpart _ ih =>
    obtain ⟨honce, hnames⟩ := hpart
    rw [Members.keys, List.map_cons, List.nodup_cons] at hkeys
    obtain ⟨hothers, hcolumns⟩ := ih hkeys.2
    rw [List.flatten_cons]
    constructor
    · refine Assignment.once_append.2 ⟨honce, hothers, ?_⟩
      rintro first hfirst second hsecond ⟨hsame, -⟩
      have hname := (hnames _).1 ⟨first, hfirst, rfl⟩
      have hlater := (hcolumns _).1 ⟨second, hsecond, rfl⟩
      rw [← hsame, ← hname.1] at hlater
      exact hkeys.1 ((List.filter_sublist.map _).subset hlater)
    · intro name
      simp only [List.mem_append, or_and_right, exists_or, hcolumns, hnames]
      cases hpatch : schema.isEmptyPatch entry <;>
        simp [hpatch, Members.keys, eq_comm (a := name)]

end WriteContext

/-! ## Plans -/

/-- The entry of a relation has no repeated names if the data has none. -/
theorem Relation.hasDistinctNames_of_payload? {relation : Relation} {data payload : Members}
    (distinct : (Json.object data).hasDistinctNames = true)
    (given : relation.payload? data = some payload) :
    (Json.object payload).hasDistinctNames = true := by
  obtain ⟨value, hvalue, hpayload⟩ := Option.bind_eq_some_iff.1 given
  obtain ⟨_, _, rfl, -⟩ := List.lookup_eq_some_iff.1 hvalue
  cases value with
  | object members =>
    obtain rfl : members = payload := Option.some.inj hpayload
    exact (Json.hasDistinctNames_object.1 distinct).2 (relation.name, .object members) (by simp)
  | null | bool _ | number _ | string _ | array _ => cases hpayload

/-- The keys of connected rows are values of whole columns. -/
theorem Relation.whole_of_mem_ownData {relation : Relation} {schema : ObjectSchema}
    {data : Members} {datum : Datum} (h : datum ∈ relation.ownData schema data) :
    datum.place.key? = none := by
  unfold ownData at h
  split at h
  · split at h
    · cases h
    · rw [List.mem_singleton.1 h]
      rfl
  · cases h

namespace WriteContext

variable {context : WriteContext} {table : Table} {data : Members} {relation : Relation}
  {plan next : AlterationPlan} {s t : Progress}

/-- A further step that writes once can be added. -/
theorem change_once {assignments : List Assignment} (once : Assignment.Once assignments)
    (h : ∀ step ∈ plan.steps, Assignment.Once step.assignments) :
    ∀ step ∈ (plan.change relation assignments).steps, Assignment.Once step.assignments := by
  unfold AlterationPlan.change
  split
  · exact h
  · rw [List.forall_mem_append, List.forall_mem_singleton]
    exact ⟨h, once⟩

/-- The entry of a relation adds at most a step that assigns once. -/
theorem addRelation_once (distinct : (Json.object data).hasDistinctNames = true)
    (h : ∀ step ∈ plan.steps, Assignment.Once step.assignments)
    (added : Returns (context.addRelation table data plan relation) s next t) :
    ∀ step ∈ next.steps, Assignment.Once step.assignments := by
  rcases addRelation_cases added with ⟨-, rfl, -⟩ |
    ⟨payload, hgiven, ⟨key, hkey, hconnect⟩ | ⟨-, assignments, hassignments, rfl⟩⟩
  · exact h
  · rcases connect_cases hconnect with ⟨-, field, expr, -, -, hexpr, rfl⟩ | ⟨-, _, _, -, -, -, rfl⟩
    · have hwrite : Assignment.Write [.column relation.sourceColumn expr] none
          [⟨⟨relation.sourceColumn, none⟩, none, key, true⟩] :=
        Assignment.write_column (isStored_of_holds rfl (fieldExpr_holds hexpr))
      exact change_once ⟨List.pairwise_singleton _ _, hwrite.keys (List.nodup_singleton _)⟩ h
    · exact h
  · have hpayload := relation.hasDistinctNames_of_payload? distinct hgiven
    exact change_once (mapM_fieldAssignments_once hpayload hassignments).1 h

/-- The entries of relations add steps that assign once. -/
theorem foldlM_addRelation_once (distinct : (Json.object data).hasDistinctNames = true)
    {relations : List Relation} (h : ∀ step ∈ plan.steps, Assignment.Once step.assignments)
    (added : Returns (relations.foldlM (context.addRelation table data) plan) s next t) :
    ∀ step ∈ next.steps, Assignment.Once step.assignments :=
  returns_foldlM_induction (P := fun plan => ∀ step ∈ plan.steps, Assignment.Once step.assignments)
    added h fun _ _ _ _ _ _ honce hadded => addRelation_once distinct honce hadded

/-- Every step of a compiled plan assigns once, and so do the assignments to the rows of the table
exactly if the sources of their values are for distinct columns. -/
theorem alterationPlan_once (distinct : (Json.object data).hasDistinctNames = true)
    (h : Returns (context.alterationPlan table data) s plan t) :
    (∀ step ∈ plan.steps, Assignment.Once step.assignments) ∧
      (Assignment.Once plan.own ↔ (table.assignedColumns data).Nodup) := by
  simp only [alterationPlan, returns_bind] at h
  obtain ⟨own, _, hown, hsteps⟩ := h
  have hcolumns : (Json.object (ownEntries table data)).hasDistinctNames = true := by
    rw [Json.hasDistinctNames_object] at distinct ⊢
    exact ⟨distinct.1.sublist (List.filter_sublist.map _),
      fun member hmember => distinct.2 member (List.mem_filter.1 hmember).1⟩
  obtain ⟨honce, hnames⟩ := mapM_fieldAssignments_once hcolumns hown
  obtain ⟨⟨connects, hconnects, hwrite⟩, -⟩ := (foldlM_addRelation_extends hsteps).1
  have hwhole := hwrite.whole fun datum hdatum => by
    obtain ⟨relation, -, hdatum⟩ := List.mem_flatMap.1 hdatum
    exact relation.whole_of_mem_ownData hdatum
  refine ⟨foldlM_addRelation_once distinct (List.forall_mem_nil _) hsteps, ?_⟩
  have hdistinct : (Members.keys
      ((ownEntries table data).filter (!table.schema.isEmptyPatch ·))).Nodup :=
    (Json.hasDistinctNames_object.1 hcolumns).1.sublist (List.filter_sublist.map _)
  rw [hconnects, Table.assignedColumns, Table.ownMembers_eq, Assignment.once_append,
    List.nodup_append]
  refine and_congr (iff_of_true honce hdistinct)
    (and_congr (Assignment.once_iff_of_whole hwhole) ?_)
  simp only [Assignment.not_overlaps_iff_of_whole hwhole]
  constructor
  · rintro hapart _ hcolumn _ hmem rfl
    obtain ⟨assignment, hassignment, rfl⟩ := (hnames _).2 hcolumn
    exact hapart assignment hassignment hmem
  · intro hapart assignment hassignment hmem
    exact hapart _ ((hnames _).1 ⟨assignment, hassignment, rfl⟩) _ hmem rfl

end WriteContext

/-! ## Chains -/

/-- A statement that inserts a row with links writes once. -/
theorem Sql.Statement.InsertsRow.writesOnce {statement : Statement} {table : String}
    {schema : ObjectSchema} {row : Members} {links : List (String × Expr)}
    (h : statement.InsertsRow table schema row links) : statement.WritesOnce := by
  cases h with
  | insert encoded distinct =>
    rintro _ ⟨⟩
    exact distinct

/-- The statements of an insert write once. -/
theorem InsertParts.writesOnce {table : Table} {data : Members} {isProjected : Bool}
    {nameAt : Nat → String} {parents children selections : List Statement} {own : Statement}
    (parts : InsertParts table data isProjected nameAt parents own children selections) :
    ∀ statement ∈ parents ++ own :: children ++ selections, statement.WritesOnce := by
  intro statement hstatement
  simp only [List.mem_append, List.mem_cons] at hstatement
  rcases hstatement with (hparent | rfl | hchild) | hselection
  · obtain ⟨_, -, hinserts⟩ := exists_mem_of_forall₂ parts.before hparent
    exact hinserts.writesOnce
  · exact parts.new.writesOnce
  · obtain ⟨_, -, hinserts⟩ := exists_mem_of_forall₂ parts.after hchild
    exact hinserts.writesOnce
  · have hselected := parts.selected
    split at hselected
    · obtain ⟨select, rfl⟩ := hselected
      rw [List.mem_singleton.1 hselection]
      exact trivial
    · simp [hselected] at hselection

namespace WriteContext

variable {context : WriteContext} {data : Json} {table : String} {select? include? : Option Json}
  {chain : Chain} {s t : Progress}

/-- Every statement of an insert writes once, as the sources of its values are for distinct columns.
-/
theorem insert_writesOnce (distinct : data.hasDistinctNames = true)
    (compiled : Returns (context.insert table data select? include?) s chain t) :
    ∃ info members, context.repository.table? table = some info ∧ data = .object members ∧
      (∀ statement ∈ chain.statements, statement.WritesOnce) ∧
      (info.insertedColumns members).Nodup := by
  obtain ⟨info, members, plan, _, _, _, hknown, rfl, hplan, hchain⟩ := plan_of_insert compiled
  have hdescribes := insertPlan_describes distinct hplan
  obtain ⟨_, _, _, _, -, hstatements, hparts, -⟩ := InsertPlan.parts_of_chain hdescribes hchain
  refine ⟨info, members, hknown, rfl, ?_, ?_⟩
  · rw [hstatements]
    exact hparts.writesOnce
  · have hcolumns := hdescribes.distinct
    have hrelations := InsertPlan.relations_of_creates hdescribes.parents
    have hlinks : plan.parents.map (·.relation.targetColumn) =
        (info.parentRows members).map (·.relation.targetColumn) := by
      simpa only [List.map_map, Function.comp_def] using
        congrArg (List.map (·.targetColumn)) hrelations
    rwa [hlinks] at hcolumns

theorem update_writesOnce (distinct : data.hasDistinctNames = true) {filter? : Option Json}
    (compiled : Returns (context.update table data filter? select? include?) s chain t) :
    ∃ info members main others, context.repository.table? table = some info ∧
      data = .object members ∧ chain.statements = main :: others ∧
      (∀ statement ∈ others, statement.WritesOnce) ∧
      (main.WritesOnce ↔ (info.assignedColumns members).Nodup) := by
  obtain ⟨info, members, plan, _, hknown, rfl, hplan, hchain⟩ := plan_of_update compiled
  obtain ⟨hsteps, hown⟩ := alterationPlan_once distinct hplan
  obtain ⟨condition?, returning, selections, rfl, hselected⟩ := AlterationPlan.chain_cases hchain
  refine ⟨info, members, _, _, hknown, rfl, rfl, ?_, ?_⟩
  · intro statement hstatement
    rcases List.mem_append.1 hstatement with hstep | hselection
    · obtain ⟨step, hmem, rfl⟩ := List.mem_map.1 hstep
      exact hsteps step hmem
    · split at hselected
      · obtain ⟨columns, _, _, -, rfl⟩ := hselected
        rw [List.mem_singleton.1 hselection]
        exact trivial
      · simp [hselected] at hselection
  · rw [← hown, AlterationPlan.ownStatement]
    split
    · rename_i hempty
      rw [List.isEmpty_iff.1 hempty]
      exact iff_of_true trivial .nil
    · exact Iff.rfl

/-- No statement of an insert lists a column twice, and data with two sources for a column is
refused.  No step of an update assigns a part of a column twice, and the main statement does exactly
if the data has two sources for a column. -/
theorem columns_written_once (distinct : data.hasDistinctNames = true) :
    (Returns (context.insert table data select? include?) s chain t →
      ∃ info members, context.repository.table? table = some info ∧ data = .object members ∧
        (∀ statement ∈ chain.statements, statement.WritesOnce) ∧
        (info.insertedColumns members).Nodup) ∧
    ∀ filter?, Returns (context.update table data filter? select? include?) s chain t →
      ∃ info members main others, context.repository.table? table = some info ∧
        data = .object members ∧ chain.statements = main :: others ∧
        (∀ statement ∈ others, statement.WritesOnce) ∧
        (main.WritesOnce ↔ (info.assignedColumns members).Nodup) :=
  ⟨insert_writesOnce distinct, fun _ => update_writesOnce distinct⟩

end WriteContext

/-! ## Writers in a library -/

namespace Library

/-- A book that is connected to its writer. -/
def connectedBook : Members :=
  [("id", Json.ofUInt64 1), ("writer", .object [("author", Json.ofUInt64 2)]),
    ("year", Json.ofUInt64 9)]

/-- Two writers for a book: one by the column itself, and one by the relation. -/
def twoWriters : Members :=
  [("author", Json.ofUInt64 1), ("writer", .object [("author", Json.ofUInt64 2)])]

end Library

namespace WriteContext

/-- The connected book is inserted and updated with every column once. -/
theorem columns_written_once_library :
    (Json.object Library.connectedBook).hasDistinctNames = true ∧
      (∃ own next, Returns ((Library.checkedWrites Library.repository).insert "book"
          (.object Library.connectedBook) none none) Progress.start ⟨"R", [own]⟩ next ∧
        own.WritesOnce) ∧
      ∃ main next, Returns ((Library.checkedWrites Library.repository).update "book"
          (.object Library.connectedBook) none none none) Progress.start ⟨"R", [main]⟩ next ∧
        main.WritesOnce := by
  have hdistinct : (Json.object Library.connectedBook).hasDistinctNames = true := by decide
  refine ⟨hdistinct, ⟨_, _, rfl, ?_⟩, _, _, rfl, ?_⟩
  · have hcompiled : Returns ((Library.checkedWrites Library.repository).insert "book"
      (.object Library.connectedBook) none none) Progress.start _ _ := rfl
    obtain ⟨_, _, -, -, honce, -⟩ := (columns_written_once hdistinct).1 hcompiled
    exact honce _ (List.mem_singleton_self _)
  · have hcompiled : Returns ((Library.checkedWrites Library.repository).update "book"
      (.object Library.connectedBook) none none none) Progress.start _ _ := rfl
    obtain ⟨info, members, main, others, hinfo, hmembers, hstatements, -, hmain⟩ :=
      (columns_written_once hdistinct).2 none hcompiled
    obtain rfl : Library.book = info := Option.some.inj hinfo
    obtain rfl : Library.connectedBook = members := Json.object.inj hmembers
    obtain ⟨rfl, -⟩ := List.cons.inj hstatements
    exact hmain.2 (by decide)

/-- An update with two writers for a book assigns the column of writers twice. -/
theorem update_assigns_twice :
    Library.repository.Accepted ∧ (Json.object Library.twoWriters).hasDistinctNames = true ∧
      ∃ chain next, Returns ((Library.checkedWrites Library.repository).update "book"
          (.object Library.twoWriters) none none none) Progress.start chain next ∧
        ∃ statement ∈ chain.statements, ¬ statement.WritesOnce := by
  refine ⟨Library.accepted, by decide, _, _, rfl, _, List.mem_singleton_self _, ?_⟩
  rintro ⟨htargets, -⟩
  exact (List.pairwise_cons.1 htargets).1 _ (List.mem_singleton_self _)
    ⟨rfl, .inl (List.prefix_refl _)⟩

end WriteContext

end RelationalQuery
