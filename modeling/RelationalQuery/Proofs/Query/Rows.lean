import RelationalQuery.Proofs.Json.DistinctNames
import RelationalQuery.Proofs.Query.WellScoped
import RelationalQuery.Proofs.Query.Writes

/-!
# The rows of an insert

The data of an insert describes rows: the rows that the new row refers to, the new row itself, and
the rows that refer to it.  The chain of a compiled insert has one statement for each of them, in
this order, and it inserts the members that describe the row, one by one and in their order.  Behind
these come the links: the new row refers to the statements of the rows before it, and the rows after
it refer to the statement of the new row.

Main definitions:

- `DescribedRow` is a related row that the data describes.
- `Table.parentRows`, `Table.ownRow` and `Table.childRows` are the rows that data describes.
- `Statement.InsertsRow` says that a statement inserts the members of a row, and links.
- `InsertParts` describes the parts of the chain of an insert.

Main results:

- `WriteContext.insertPlan_describes`: a compiled plan has the described rows and no others.
- `WriteContext.insert_parts`: the chain of a compiled insert consists of its parts.
-/

namespace RelationalQuery

open Sql (Chain Expr Projection Record Statement)

/-! ## Rows that data describes -/

namespace Json

/-- The members that describe a row; null and an object without members describe none. -/
def row? : Json → Option Members
  | .object (member :: rest) => some (member :: rest)
  | _ => none

/-- A value describes at most one row. -/
def IsRow (value : Json) : Prop := value = .null ∨ ∃ members, value = .object members

end Json

namespace Relation

/-- The rows that the entry of a relation describes: those of an array, or a single one. -/
def rows (relation : Relation) (value : Json) : List Members :=
  match relation.shape with
  | .pluralInverse => (value.items?.getD []).filterMap Json.row?
  | .foreignOwned | .uniqueInverse => value.row?.toList

/-- The entry of a relation describes rows and nothing else. -/
def IsDescribed (relation : Relation) (value : Json) : Prop :=
  match relation.shape with
  | .pluralInverse => ∃ items, value = .array items ∧ ∀ item ∈ items, item.IsRow
  | .foreignOwned | .uniqueInverse => value.IsRow

end Relation

/-- A related row that the data of an insert describes. -/
structure DescribedRow where
  relation : Relation
  members : Members

namespace DescribedRow

/-- The row is there already: it is given by the key that the new row holds. -/
def isConnected (row : DescribedRow) : Bool := row.members.contains row.relation.targetColumn

/-- The rows that entries of relations describe. -/
def ofEntries (entries : List (Relation × Json)) : List DescribedRow :=
  entries.flatMap fun entry => (entry.1.rows entry.2).map fun row => ⟨entry.1, row⟩

/-- The rows of entries come one entry after the other. -/
theorem ofEntries_cons (entry : Relation × Json) (rest : List (Relation × Json)) :
    ofEntries (entry :: rest) = ofEntries [entry] ++ ofEntries rest := by
  simp [ofEntries]

/-- The rows that have to be created. -/
def created (rows : List DescribedRow) : List DescribedRow := rows.filter (!·.isConnected)

/-- The keys of the rows that are there already. -/
def keys (rows : List DescribedRow) : Members := (rows.filter (·.isConnected)).flatMap (·.members)

end DescribedRow

namespace Table

/-- The rows that the new row refers to. -/
def foreignRows (table : Table) (data : Members) : List DescribedRow :=
  DescribedRow.ofEntries ((table.relationMembers data).filter (!·.1.shape.isInverse))

/-- The rows that are created before the new row. -/
def parentRows (table : Table) (data : Members) : List DescribedRow :=
  DescribedRow.created (table.foreignRows data)

/-- The new row: its columns in the order of the data, and then the keys of connected rows. -/
def ownRow (table : Table) (data : Members) : Members :=
  table.ownMembers data ++ DescribedRow.keys (table.foreignRows data)

/-- The rows that refer to the new row. -/
def childRows (table : Table) (data : Members) : List DescribedRow :=
  DescribedRow.ofEntries ((table.relationMembers data).filter (·.1.shape.isInverse))

end Table

/-! ## Statements that insert rows -/

/-- A column and its expression stand for a member of a row: null is the literal, and any other
value is bound as the field of the column says. -/
structure ObjectSchema.Encodes (schema : ObjectSchema) (member : String × Json)
    (entry : String × Expr) : Prop where
  column : entry.1 = member.1
  value : ∃ field, schema.get? member.1 = some field ∧
    if member.2.isNull then entry.2 = .null
    else ∃ hint?, Parameter.ofValue member.2 (some field) = .ok ⟨member.2, hint?⟩ ∧
      entry.2 = .parameter ⟨member.2, hint?⟩

/-- A statement inserts a row into a table: a column for each of its members, in their order, and
behind these the columns of links. -/
inductive Sql.Statement.InsertsRow (table : String) (schema : ObjectSchema) (row : Members)
    (links : List (String × Expr)) : Statement → Prop
  | insert {entries : List (String × Expr)} {returning : List Projection}
      (encoded : List.Forall₂ schema.Encodes row entries)
      (distinct : (Entries.names (entries ++ links)).Nodup) :
      InsertsRow table schema row links (.insert ⟨some table, some ⟨entries ++ links⟩, returning⟩)

/-- The links of a row to the rows of relations, which the first statements create. -/
def linksTo (nameAt : Nat → String) (relations : List Relation) : List (String × Expr) :=
  relations.zipIdx.map fun entry =>
    (entry.1.targetColumn, .reference (nameAt entry.2) entry.1.sourceColumn)

/-- The parts of the chain of an insert: statements for the rows that are created before the new
row, for the new row and for those that refer to it, and at last a selection if there are several
rows and something is read. -/
structure InsertParts (table : Table) (data : Members) (isProjected : Bool) (nameAt : Nat → String)
    (parents : List Statement) (own : Statement) (children selections : List Statement) : Prop where
  described : ∀ entry ∈ table.relationMembers data, entry.1.IsDescribed entry.2
  /-- A row is connected by its key and nothing else. -/
  connected : ∀ row ∈ table.foreignRows data, row.isConnected = true →
    ∃ key, row.members = [(row.relation.targetColumn, key)]
  before : List.Forall₂ (fun row statement => statement.InsertsRow row.relation.relatedTable
    row.relation.relatedSchema row.members []) (table.parentRows data) parents
  new : own.InsertsRow table.name table.schema (table.ownRow data)
    (linksTo nameAt ((table.parentRows data).map (·.relation)))
  after : List.Forall₂ (fun row statement => statement.InsertsRow row.relation.relatedTable
    row.relation.relatedSchema row.members
      [(row.relation.sourceColumn, .reference (nameAt parents.length) row.relation.targetColumn)])
    (table.childRows data) children
  selected : if isProjected && !(parents.isEmpty && children.isEmpty) then
      ∃ select, selections = [.select select]
    else selections = []

/-! ## Records -/

namespace Sql.Record

variable {record : Record} {entries : List (String × Expr)}

/-- New columns are appended. -/
theorem setAll_of_nodup (distinct : (Entries.names (record.entries ++ entries)).Nodup) :
    record.setAll entries = ⟨record.entries ++ entries⟩ := by
  rw [← Entries.foldl_put_of_nodup distinct, setAll]
  exact List.foldl_hom Record.mk fun _ _ => rfl

/-- A new column comes behind the others. -/
theorem set_of_not_mem {column : String} {value : Expr}
    (fresh : column ∉ Entries.names record.entries) :
    record.set column value = ⟨record.entries ++ [(column, value)]⟩ := by
  rw [set, Entries.put_of_not_mem fresh]

end Sql.Record

/-- A member is bound as its field says. -/
theorem encodes_of_fieldExpr {schema : ObjectSchema} {member : String × Json} {field : Field}
    {expr : Expr} (known : schema.get? member.1 = some field)
    (h : fieldExpr member.2 field = .ok expr) : schema.Encodes member (member.1, expr) :=
  ⟨rfl, field, known, fieldExpr_eq_ok h⟩

/-- Encoded members have the names of the members. -/
theorem names_of_encodes {schema : ObjectSchema} {members : Members}
    {entries : List (String × Expr)} (h : List.Forall₂ schema.Encodes members entries) :
    Entries.names entries = members.keys :=
  Entries.names_eq_of_forall₂ (h.imp fun _ _ hentry => hentry.column)

/-- A record has a column for each member, in their order. -/
theorem encodes_of_encodedRecord {members : Members} {schema : ObjectSchema} {path : String}
    {record : Record} (distinct : members.keys.Nodup)
    (h : encodedRecord members schema path = .ok record) :
    List.Forall₂ schema.Encodes members record.entries := by
  simp only [encodedRecord, bind_eq_ok_iff, pure_eq_ok_iff] at h
  obtain ⟨entries, hentries, rfl⟩ := h
  have hencoded : List.Forall₂ schema.Encodes members entries := by
    refine (forall₂_of_mapM_eq_ok hentries).imp ?_
    intro member entry hentry
    simp only [bind_eq_ok_iff, pure_eq_ok_iff] at hentry
    obtain ⟨field, hfield, expr, hexpr, rfl⟩ := hentry
    exact encodes_of_fieldExpr (ObjectSchema.get?_of_field hfield) hexpr
  have hdistinct : (Entries.names (Record.empty.entries ++ entries)).Nodup := by
    rw [Record.empty, List.nil_append, names_of_encodes hencoded]
    exact distinct
  rw [Record.ofEntries, Record.setAll_of_nodup hdistinct]
  exact hencoded

/-! ## Entries of relations -/

section

variable {relation : Relation} {value : Json} {path : String}

/-- The payload of an entry is the row that it describes. -/
theorem relationPayload_eq_ok {payload? : Option Members}
    (h : relationPayload value path = .ok payload?) : value.IsRow ∧ value.row? = payload? := by
  unfold relationPayload at h
  split at h
  · exact ⟨.inl rfl, Except.ok.inj h⟩
  · exact ⟨.inr ⟨_, rfl⟩, Except.ok.inj h⟩
  · rename_i members hmembers
    refine ⟨.inr ⟨_, rfl⟩, ?_⟩
    rw [← Except.ok.inj h]
    cases members with
    | nil => exact absurd rfl hmembers
    | cons => rfl
  · cases h

/-- The payloads of items are the rows that these describe. -/
theorem rows_of_items {items : List Json} {payloads : List (Option (String × Members))}
    (h : List.Forall₂ (fun item payload? => item.IsRow ∧ item.row? = payload?.map (·.2)) items
      payloads) :
    (∀ item ∈ items, item.IsRow) ∧
      items.filterMap Json.row? = (payloads.filterMap id).map (·.2) := by
  induction h with
  | nil => exact ⟨List.forall_mem_nil _, rfl⟩
  | @cons item payload? _ _ hitem _ ih =>
    refine ⟨List.forall_mem_cons.2 ⟨hitem.1, ih.1⟩, ?_⟩
    cases payload? with
    | none => rw [List.filterMap_cons_none hitem.2, List.filterMap_cons_none rfl, ih.2]
    | some payload =>
      rw [List.filterMap_cons_some hitem.2, ih.2]
      rfl

/-- The payloads of an entry are the rows that it describes. -/
theorem childPayloads_eq_ok {payloads : List (String × Members)}
    (h : WriteContext.childPayloads relation value path = .ok payloads) :
    relation.IsDescribed value ∧ relation.rows value = payloads.map (·.2) := by
  unfold WriteContext.childPayloads at h
  unfold Relation.IsDescribed Relation.rows
  cases hshape : relation.shape with
  | pluralInverse =>
    cases value with
    | array items =>
      simp only [hshape, Json.items?, bind_eq_ok_iff, pure_eq_ok_iff] at h
      obtain ⟨found, hfound, rfl⟩ := h
      -- The indices of items are only for the paths of errors.
      have hitems : items = items.zipIdx.map (·.1) := (List.zipIdx_map_fst 0 items).symm
      have hrows : (∀ item ∈ items, item.IsRow) ∧
          items.filterMap Json.row? = (found.filterMap id).map (·.2) := by
        rw [hitems]
        refine rows_of_items (List.forall₂_map_left_iff.2 ?_)
        refine (forall₂_of_mapM_eq_ok hfound).imp ?_
        intro item payload? hitem
        simp only [bind_eq_ok_iff, pure_eq_ok_iff] at hitem
        obtain ⟨row?, hpayload, rfl⟩ := hitem
        obtain ⟨hrow, rfl⟩ := relationPayload_eq_ok hpayload
        refine ⟨hrow, ?_⟩
        cases item.1.row? <;> rfl
      exact ⟨⟨items, rfl, hrows.1⟩, hrows.2⟩
    | null | bool _ | number _ | string _ | object _ => simp [hshape, Json.items?] at h
  | foreignOwned | uniqueInverse =>
    simp only [hshape, bind_eq_ok_iff, pure_eq_ok_iff] at h
    obtain ⟨_, ⟨payload?, hpayload, rfl⟩, rfl⟩ := h
    obtain ⟨hrow, hpayload⟩ := relationPayload_eq_ok hpayload
    refine ⟨hrow, ?_⟩
    rw [hpayload]
    cases payload? <;> rfl

end

/-! ## Names of described rows -/

/-- The rows that a value without repeated names describes have no repeated names. -/
theorem Relation.nodup_of_mem_rows {relation : Relation} {value : Json} {row : Members}
    (distinct : value.hasDistinctNames = true) (h : row ∈ relation.rows value) :
    row.keys.Nodup := by
  have hrow : ∀ {value : Json} {row : Members}, value.hasDistinctNames = true →
      value.row? = some row → row.keys.Nodup := by
    intro value row hdistinct hrow
    unfold Json.row? at hrow
    split at hrow
    · cases hrow
      exact (Json.hasDistinctNames_object.1 hdistinct).1
    · cases hrow
  unfold rows at h
  split at h
  · obtain ⟨item, hitem, hitemRow⟩ := List.mem_filterMap.1 h
    cases value with
    | array items => exact hrow (Json.hasDistinctNames_array.1 distinct item hitem) hitemRow
    | null | bool _ | number _ | string _ | object _ => cases hitem
  · exact hrow distinct (Option.mem_toList.1 h)
  · exact hrow distinct (Option.mem_toList.1 h)

/-! ## Collected keys -/

/-- Members hold a key exactly if it is among their keys. -/
theorem Members.contains_iff {members : Members} {key : String} :
    members.contains key = true ↔ key ∈ members.keys :=
  Entries.lookup_isSome_iff

/-- A member of an object that has no other one is all of it. -/
theorem Members.eq_singleton_of_get? {members : Members} {key : String} {value : Json}
    (h : members.get? key = some value) (alone : members.length ≤ 1) :
    members = [(key, value)] := by
  obtain ⟨before, after, rfl, -⟩ := List.lookup_eq_some_iff.1 h
  rw [List.length_append, List.length_cons] at alone
  have hbefore : before = [] := List.eq_nil_of_length_eq_zero (by omega)
  have hafter : after = [] := List.eq_nil_of_length_eq_zero (by omega)
  rw [hbefore, hafter, List.nil_append]

/-- A related row of a plan creates a row that the data describes. -/
structure NewRow.Creates (described : DescribedRow) (row : NewRow) : Prop where
  relation : row.relation = described.relation
  record : List.Forall₂ described.relation.relatedSchema.Encodes described.members
    row.record.entries
  distinct : described.members.keys.Nodup

namespace ForeignKeys

/-- The columns that are set: those of the new row and those of references. -/
def columns (keys : ForeignKeys) : List String := keys.own.keys ++ keys.linked

/-- What some described rows add to the keys that are collected. -/
structure Extends (rows : List DescribedRow) (keys next : ForeignKeys) : Prop where
  connected : ∀ row ∈ rows, row.isConnected = true →
    ∃ key, row.members = [(row.relation.targetColumn, key)]
  own : next.own = keys.own ++ DescribedRow.keys rows
  parents : ∃ parents, next.parents = keys.parents ++ parents ∧
    List.Forall₂ NewRow.Creates (DescribedRow.created rows) parents
  distinct : keys.columns.Nodup → next.columns.Nodup

variable {keys middle next : ForeignKeys} {first second : List DescribedRow}

theorem Extends.refl : Extends [] keys keys where
  connected := List.forall_mem_nil _
  own := (List.append_nil _).symm
  parents := ⟨[], (List.append_nil _).symm, .nil⟩
  distinct := id

/-- Entries that extend what is known one after the other extend it together. -/
theorem Extends.trans (left : Extends first keys middle) (right : Extends second middle next) :
    Extends (first ++ second) keys next where
  connected := List.forall_mem_append.2 ⟨left.connected, right.connected⟩
  own := by
    rw [right.own, left.own, DescribedRow.keys, DescribedRow.keys, DescribedRow.keys,
      List.filter_append, List.flatMap_append, List.append_assoc]
  parents := by
    obtain ⟨before, hbefore, hleft⟩ := left.parents
    obtain ⟨after, hafter, hright⟩ := right.parents
    refine ⟨before ++ after, by rw [hafter, hbefore, List.append_assoc], ?_⟩
    rw [DescribedRow.created, List.filter_append]
    exact List.rel_append hleft hright
  distinct := right.distinct ∘ left.distinct

/-- The columns that are known are those that are set. -/
theorem mem_columns {column : String} : column ∈ keys.columns ↔ keys.isSet column = true := by
  rw [columns, isSet, List.mem_append, Bool.or_eq_true, Members.contains_iff, List.contains_iff_mem]

/-- A connected row adds its key. -/
theorem Extends.connect (row : DescribedRow) {key : Json}
    (fresh : row.relation.targetColumn ∉ keys.columns)
    (members : row.members = [(row.relation.targetColumn, key)]) :
    Extends [row] keys
      { keys with own := Members.insert keys.own row.relation.targetColumn key } := by
  have hconnected : row.isConnected = true := by
    rw [DescribedRow.isConnected, Members.contains_iff, members]
    exact List.mem_singleton_self _
  have hown : Members.insert keys.own row.relation.targetColumn key =
      keys.own ++ [(row.relation.targetColumn, key)] :=
    Entries.put_of_not_mem fun hmem => fresh (List.mem_append_left _ hmem)
  constructor
  · exact List.forall_mem_singleton.2 fun _ => ⟨key, members⟩
  · simp [hown, DescribedRow.keys, hconnected, members]
  · exact ⟨[], (List.append_nil _).symm, by simp [DescribedRow.created, hconnected]⟩
  · intro hdistinct
    rw [columns, linked] at hdistinct fresh ⊢
    rw [hown, Members.keys, List.map_append, List.append_assoc]
    exact List.nodup_middle.2 (List.nodup_cons.2 ⟨fresh, hdistinct⟩)

/-- A row that has to be created adds a parent. -/
theorem Extends.create (described : DescribedRow) {row : NewRow}
    (fresh : described.relation.targetColumn ∉ keys.columns)
    (unconnected : described.isConnected = false) (creates : row.Creates described) :
    Extends [described] keys { keys with parents := keys.parents ++ [row] } := by
  constructor
  · exact List.forall_mem_singleton.2 fun hconnected => by simp [unconnected] at hconnected
  · simp [DescribedRow.keys, unconnected]
  · exact ⟨[row], rfl, by simp [DescribedRow.created, unconnected, creates]⟩
  · intro hdistinct
    rw [columns, linked] at hdistinct fresh ⊢
    rw [List.map_append, ← List.append_assoc]
    refine List.nodup_middle.2 (List.nodup_cons.2 ?_)
    rw [← creates.relation] at fresh
    rw [List.map_nil, List.append_nil]
    exact ⟨fresh, hdistinct⟩

end ForeignKeys

namespace WriteContext

variable {context : WriteContext} {table : Table} {s t : Progress}

/-- The entry of a relation whose key the new row holds adds the rows that it describes. -/
theorem addForeign_extends {keys next : ForeignKeys} {entry : Relation × Json}
    (owned : entry.1.shape.isInverse = false) (distinct : entry.2.hasDistinctNames = true)
    (h : Returns (context.addForeign table.name keys entry) s next t) :
    entry.1.IsDescribed entry.2 ∧
      ForeignKeys.Extends (DescribedRow.ofEntries [entry]) keys next := by
  obtain ⟨relation, value⟩ := entry
  have hshape : relation.shape = .foreignOwned := RelationShape.eq_foreignOwned owned
  obtain ⟨payload?, hpayload, hcases⟩ := addForeign_cases h
  obtain ⟨hrow, rfl⟩ := relationPayload_eq_ok hpayload
  refine ⟨by simpa [Relation.IsDescribed, hshape] using hrow, ?_⟩
  have hrows : DescribedRow.ofEntries [(relation, value)] =
      value.row?.toList.map fun row => ⟨relation, row⟩ := by
    simp [DescribedRow.ofEntries, Relation.rows, hshape]
  rw [hrows]
  rcases hcases with ⟨hmembers, rfl, -⟩ | ⟨payload, hmembers, hset, hcases⟩
  · rw [hmembers]
    exact .refl
  · have hnames : payload.keys.Nodup :=
      relation.nodup_of_mem_rows distinct (by simp [Relation.rows, hshape, hmembers])
    have hfresh : relation.targetColumn ∉ keys.columns := by
      rw [ForeignKeys.mem_columns, hset]
      exact Bool.false_ne_true
    rw [hmembers]
    rcases hcases with ⟨key, hkey, hlength, rfl, -⟩ | ⟨hkey, record, -, hrecord, rfl⟩
    · exact .connect ⟨relation, payload⟩ hfresh (Members.eq_singleton_of_get? hkey hlength)
    · refine .create ⟨relation, payload⟩ hfresh ?_ ⟨rfl, ?_, hnames⟩
      · simp [DescribedRow.isConnected, Members.contains, hkey]
      · exact encodes_of_encodedRecord hnames hrecord

/-- The entries of all relations whose keys the new row holds add the rows that they describe. -/
theorem foldlM_addForeign_extends {keys next : ForeignKeys} {entries : List (Relation × Json)}
    (owned : ∀ entry ∈ entries, entry.1.shape.isInverse = false)
    (distinct : ∀ entry ∈ entries, entry.2.hasDistinctNames = true)
    (h : Returns (entries.foldlM (context.addForeign table.name) keys) s next t) :
    (∀ entry ∈ entries, entry.1.IsDescribed entry.2) ∧
      ForeignKeys.Extends (DescribedRow.ofEntries entries) keys next := by
  refine returns_foldlM_compose (R := fun entries first last =>
    (∀ entry ∈ entries, entry.1.IsDescribed entry.2) ∧
      ForeignKeys.Extends (DescribedRow.ofEntries entries) first.1 last.1) h ?_ ?_ ?_
  · exact fun _ => ⟨List.forall_mem_nil _, .refl⟩
  · rintro entry rest _ _ _ ⟨hentry, hfirst⟩ ⟨hentries, hrest⟩
    refine ⟨List.forall_mem_cons.2 ⟨hentry entry (List.mem_singleton_self _), hentries⟩, ?_⟩
    rw [DescribedRow.ofEntries_cons]
    exact hfirst.trans hrest
  · intro entry hentry _ _ _ _ hstep
    obtain ⟨hdescribed, hextends⟩ :=
      addForeign_extends (owned entry hentry) (distinct entry hentry) hstep
    exact ⟨by simpa using hdescribed, hextends⟩

/-! ## Rows that refer to the new row -/

/-- The row of a payload is created as it is described, without the column that links it. -/
theorem childRow_creates {relation : Relation} {payload : String × Members} {row : NewRow}
    (distinct : payload.2.keys.Nodup) (h : Returns (context.childRow relation payload) s row t) :
    row.Creates ⟨relation, payload.2⟩ ∧ relation.sourceColumn ∉ payload.2.keys := by
  obtain ⟨hset, -, hrow, hrecord⟩ := childRow_cases h
  refine ⟨⟨hrow, encodes_of_encodedRecord distinct hrecord, distinct⟩, ?_⟩
  rw [← Members.contains_iff, hset]
  exact Bool.false_ne_true

/-- A related row of a plan creates a row that the data describes without the column that links
it. -/
def Refers (described : DescribedRow) (row : NewRow) : Prop :=
  row.Creates described ∧ described.relation.sourceColumn ∉ described.members.keys

/-- The rows of the entry of a relation are created as they are described. -/
theorem childRows_creates {entry : Relation × Json} {rows : List NewRow}
    (distinct : entry.2.hasDistinctNames = true)
    (h : Returns (context.childRows table.name entry) s rows t) :
    entry.1.IsDescribed entry.2 ∧
      List.Forall₂ Refers (DescribedRow.ofEntries [entry]) rows := by
  simp only [childRows, returns_bind, returns_monadLift] at h
  obtain ⟨payloads, _, ⟨hpayloads, rfl⟩, h⟩ := h
  obtain ⟨hdescribed, hrows⟩ := childPayloads_eq_ok hpayloads
  refine ⟨hdescribed, ?_⟩
  rw [DescribedRow.ofEntries, List.flatMap_singleton, hrows, List.map_map,
    List.forall₂_map_left_iff]
  refine forall₂_of_returns_mapM h fun payload hpayload _ row _ hrow => ?_
  refine childRow_creates (entry.1.nodup_of_mem_rows distinct ?_) hrow
  rw [hrows]
  exact List.mem_map_of_mem hpayload

/-- The rows of the entries of relations are created as they are described. -/
theorem mapM_childRows_creates {entries : List (Relation × Json)} {rows : List (List NewRow)}
    (distinct : ∀ entry ∈ entries, entry.2.hasDistinctNames = true)
    (h : Returns (entries.mapM (context.childRows table.name)) s rows t) :
    (∀ entry ∈ entries, entry.1.IsDescribed entry.2) ∧
      List.Forall₂ Refers (DescribedRow.ofEntries entries) rows.flatten := by
  have hrows := forall₂_of_returns_mapM (R := fun entry rows => entry.1.IsDescribed entry.2 ∧
      List.Forall₂ Refers (DescribedRow.ofEntries [entry]) rows) h
    fun entry hentry _ _ _ hstep => childRows_creates (distinct entry hentry) hstep
  clear h distinct
  induction hrows with
  | nil => exact ⟨List.forall_mem_nil _, .nil⟩
  | cons hentry _ ih =>
    refine ⟨List.forall_mem_cons.2 ⟨hentry.1, ih.1⟩, ?_⟩
    rw [DescribedRow.ofEntries_cons, List.flatten_cons]
    exact List.rel_append hentry.2 ih.2

/-! ## Plans -/

/-- The rows of a plan are those that the data describes. -/
structure Describes (table : Table) (data : Members) (plan : InsertPlan) : Prop where
  described : ∀ entry ∈ table.relationMembers data, entry.1.IsDescribed entry.2
  connected : ∀ row ∈ table.foreignRows data, row.isConnected = true →
    ∃ key, row.members = [(row.relation.targetColumn, key)]
  parents : List.Forall₂ NewRow.Creates (table.parentRows data) plan.parents
  own : List.Forall₂ table.schema.Encodes (table.ownRow data) plan.own.entries
  distinct : ((table.ownRow data).keys ++ plan.parents.map (·.relation.targetColumn)).Nodup
  children : List.Forall₂ Refers (table.childRows data) plan.children

/-- A compiled plan has the described rows and no others. -/
theorem insertPlan_describes {data : Members} {plan : InsertPlan}
    (distinct : (Json.object data).hasDistinctNames = true)
    (h : Returns (context.insertPlan table data) s plan t) : Describes table data plan := by
  obtain ⟨hnames, hvalues⟩ := Json.hasDistinctNames_object.1 distinct
  have hentries : ∀ entry ∈ table.relationMembers data, entry.2.hasDistinctNames = true := by
    intro entry hentry
    obtain ⟨member, hmember, hrelation⟩ := List.mem_filterMap.1 hentry
    obtain ⟨relation, -, rfl⟩ := Option.map_eq_some_iff.1 hrelation
    exact hvalues member hmember
  simp only [insertPlan, ← Table.relationMembers_eq, ← Table.ownMembers_eq, returns_bind,
    returns_pure, returns_monadLift] at h
  obtain ⟨keys, _, hkeys, _, _, -, own, _, ⟨hown, rfl⟩, children, _, hchildren, rfl, rfl⟩ := h
  obtain ⟨hforeign, hextends⟩ := foldlM_addForeign_extends
    (fun entry hentry => by simpa using (List.mem_filter.1 hentry).2)
    (fun entry hentry => hentries entry (List.mem_filter.1 hentry).1) hkeys
  obtain ⟨hinverse, hrefers⟩ := mapM_childRows_creates
    (fun entry hentry => hentries entry (List.mem_filter.1 hentry).1) hchildren
  obtain ⟨parents, hparents, hcreates⟩ := hextends.parents
  have hrow : keys.own = table.ownRow data := hextends.own
  -- The columns of the data are distinct, and every step adds only columns that are not set.
  have hcolumns : keys.columns.Nodup := by
    refine hextends.distinct ?_
    rw [ForeignKeys.columns, ForeignKeys.linked, List.map_nil, List.append_nil]
    exact hnames.sublist (List.filter_sublist.map _)
  rw [ForeignKeys.columns, hrow] at hcolumns
  rw [hrow] at hown
  constructor
  · intro entry hentry
    cases hshape : entry.1.shape.isInverse with
    | true => exact hinverse entry (List.mem_filter.2 ⟨hentry, hshape⟩)
    | false => exact hforeign entry (List.mem_filter.2 ⟨hentry, by simp [hshape]⟩)
  · exact hextends.connected
  · rw [hparents]
    exact hcreates
  · exact encodes_of_encodedRecord (List.nodup_append.1 hcolumns).1 hown
  · exact hcolumns
  · exact hrefers

end WriteContext

/-! ## Statements -/

/-- A record with the columns of a row, and links behind them, is inserted. -/
theorem insertsRow_of_record {table : String} {schema : ObjectSchema} {row : Members}
    {entries links : List (String × Expr)} {record : Record}
    (columns : record = ⟨entries ++ links⟩) (encoded : List.Forall₂ schema.Encodes row entries)
    (distinct : (row.keys ++ Entries.names links).Nodup) (returning : List Projection) :
    (Statement.insert ⟨some table, some record, returning⟩).InsertsRow table schema row links := by
  rw [columns]
  refine .insert encoded ?_
  rw [← names_of_encodes encoded, Entries.names, Entries.names, ← List.map_append] at distinct
  exact distinct

namespace InsertPlan

variable {plan : InsertPlan} {table : Table} {data : Members} {stem : String}
  {select? include? : Option Json}

/-- The links of a plan refer to its parents in their order. -/
theorem links_eq (plan : InsertPlan) (stem : String) :
    plan.links stem = linksTo (numberedName stem) (plan.parents.map (·.relation)) := by
  rw [links, linksTo, List.zipIdx_map, List.map_map]
  rfl

/-- The links are the columns that refer to created rows. -/
theorem names_links (plan : InsertPlan) (stem : String) :
    Entries.names (plan.links stem) = plan.parents.map (·.relation.targetColumn) := by
  rw [links, Entries.names, List.map_map]
  conv_rhs => rw [← List.zipIdx_map_fst 0 plan.parents, List.map_map]
  rfl

/-- The parents of a plan belong to the relations of the rows that they create. -/
theorem relations_of_creates {described : List DescribedRow} {rows : List NewRow}
    (h : List.Forall₂ NewRow.Creates described rows) :
    rows.map (·.relation) = described.map (·.relation) := by
  induction h with
  | nil => rfl
  | cons hrow _ ih => rw [List.map_cons, List.map_cons, hrow.relation, ih]

/-- The statement for a row before the new one inserts it as it is described. -/
theorem parentStatement_inserts {described : DescribedRow} {row : NewRow}
    (creates : row.Creates described) :
    (parentStatement select? include? row).InsertsRow described.relation.relatedTable
      described.relation.relatedSchema described.members [] := by
  rw [parentStatement, creates.relation]
  refine insertsRow_of_record (congrArg Record.mk (List.append_nil _).symm) creates.record ?_ _
  rw [Entries.names, List.map_nil, List.append_nil]
  exact creates.distinct

/-- The statement for a row that refers to the new one inserts it with its link. -/
theorem childStatement_inserts {described : DescribedRow} {row : NewRow}
    (refers : WriteContext.Refers described row) :
    (plan.childStatement stem select? include? row).InsertsRow described.relation.relatedTable
      described.relation.relatedSchema described.members [(described.relation.sourceColumn,
        .reference (plan.ownName stem) described.relation.targetColumn)] := by
  obtain ⟨creates, hfresh⟩ := refers
  rw [childStatement, childRecord, creates.relation]
  refine insertsRow_of_record (Record.set_of_not_mem ?_) creates.record ?_ _
  · rw [names_of_encodes creates.record]
    exact hfresh
  · exact List.nodup_middle.2 (List.nodup_cons.2 (by simpa using ⟨hfresh, creates.distinct⟩))

/-- The statement for the new row inserts it with its links. -/
theorem ownStatement_inserts (describes : WriteContext.Describes table data plan)
    (returning : List Projection) :
    (plan.ownStatement stem table returning).InsertsRow table.name table.schema (table.ownRow data)
      (linksTo (numberedName stem) ((table.parentRows data).map (·.relation))) := by
  rw [← relations_of_creates describes.parents, ← links_eq, ownStatement, ownRecord]
  have hdistinct : ((table.ownRow data).keys ++ Entries.names (plan.links stem)).Nodup := by
    rw [names_links]
    exact describes.distinct
  refine insertsRow_of_record (Record.setAll_of_nodup ?_) describes.own hdistinct _
  rwa [← names_of_encodes describes.own, Entries.names, Entries.names, ← List.map_append]
    at hdistinct

/-- The statements of a plan are the parts of an insert. -/
theorem insertParts (describes : WriteContext.Describes table data plan)
    (select? include? : Option Json) (returning : List Projection) {isProjected : Bool}
    {selections : List Statement}
    (selected : if isProjected && !plan.isSingle then ∃ select, selections = [.select select]
      else selections = []) :
    InsertParts table data isProjected (numberedName stem)
      (plan.parents.map (parentStatement select? include?))
      (plan.ownStatement stem table returning)
      (plan.children.map (plan.childStatement stem select? include?)) selections where
  described := describes.described
  connected := describes.connected
  before := by
    rw [List.forall₂_map_right_iff]
    exact describes.parents.imp fun _ _ => parentStatement_inserts
  new := ownStatement_inserts describes returning
  after := by
    rw [List.length_map, List.forall₂_map_right_iff]
    exact describes.children.imp fun _ _ => childStatement_inserts
  selected := by
    rw [List.isEmpty_map, List.isEmpty_map]
    exact selected

/-- The chain of a plan has the parts of an insert.  A selection reads the created rows. -/
theorem parts_of_chain {context : ProjectionContext} {a b : Aliases} {chain : Chain}
    (describes : WriteContext.Describes table data plan)
    (h : Returns (plan.chain context table select? include?) a chain b) :
    ∃ parents own children selections, chain.stem = context.config.chainStem ∧
      chain.statements = parents ++ own :: children ++ selections ∧
      InsertParts table data (select?.isSome || include?.isSome) chain.nameAt parents own children
        selections ∧
      ∀ selection, .select selection ∈ selections →
        ∃ c d, Returns (createdSelect context table (chain.nameAt parents.length)
          (plan.created chain.stem) select? include?) c selection d := by
  obtain ⟨returning, selections, rfl, -, hselected⟩ := chain_cases h
  refine ⟨_, _, _, selections, rfl, rfl, insertParts describes select? include? returning ?_, ?_⟩
  · split at hselected
    · rename_i hseveral
      obtain ⟨select, _, _, -, hselections⟩ := hselected
      rw [if_pos hseveral]
      exact ⟨select, hselections⟩
    · rename_i hsingle
      rw [if_neg hsingle]
      exact hselected
  · intro selection hselection
    rw [List.length_map]
    split at hselected
    · obtain ⟨select, c, d, hselect, rfl⟩ := hselected
      obtain rfl := Statement.select.inj (List.mem_singleton.1 hselection)
      exact ⟨c, d, hselect⟩
    · simp [hselected] at hselection

end InsertPlan

/-! ## Chains -/

namespace WriteContext

variable {context : WriteContext} {s t : Progress}

/-- The chain of a compiled insert has statements for the rows that its data describes, and at last
a selection. -/
theorem insert_parts {table : String} {data : Json} {select? include? : Option Json} {chain : Chain}
    (distinct : data.hasDistinctNames = true)
    (compiled : Returns (context.insert table data select? include?) s chain t) :
    ∃ info members parents own children selections,
      context.repository.table? table = some info ∧ data = .object members ∧
      chain.stem = context.config.chainStem ∧
      chain.statements = parents ++ own :: children ++ selections ∧
      InsertParts info members (select?.isSome || include?.isSome) chain.nameAt parents own children
        selections := by
  obtain ⟨info, members, plan, _, _, _, hknown, rfl, hplan, hchain⟩ := plan_of_insert compiled
  obtain ⟨parents, own, children, selections, hstem, hstatements, hparts, -⟩ :=
    InsertPlan.parts_of_chain (insertPlan_describes distinct hplan) hchain
  exact ⟨info, members, parents, own, children, selections, hknown, rfl, hstem, hstatements,
    hparts⟩

end WriteContext

/-! ## An insert in a library -/

namespace Library

/-- A new book with its writer. -/
def newBook : Members :=
  [("writer", .object [("id", Json.ofUInt64 7), ("name", .string "Ada")]), ("id", Json.ofUInt64 1),
    ("year", .null)]

/-- The statement for the writer, which returns the key that the book refers to. -/
def insertedWriter : Statement :=
  .insert ⟨some "author", some ⟨[("id", .parameter ⟨Json.ofUInt64 7, none⟩),
    ("name", .parameter ⟨.string "Ada", none⟩)]⟩, [.column "id"]⟩

/-- The statement for the book: its own columns come first, and then the link to its writer. -/
def insertedBook : Statement :=
  .insert ⟨some "book", some ⟨[("id", .parameter ⟨Json.ofUInt64 1, none⟩), ("year", .null),
    ("author", .reference "R0" "id")]⟩, []⟩

end Library

namespace WriteContext

/-- The writer is inserted first, and the book refers to the statement for the writer. -/
theorem insert_parts_library :
    (Json.object Library.newBook).hasDistinctNames = true ∧
      ∃ next, Returns (Library.writes.insert "book" (.object Library.newBook) none none)
          Progress.start ⟨"R", [Library.insertedWriter, Library.insertedBook]⟩ next ∧
        InsertParts Library.book Library.newBook false (numberedName "R") [Library.insertedWriter]
          Library.insertedBook [] [] := by
  have hdistinct : (Json.object Library.newBook).hasDistinctNames = true := by decide
  have hcompiled : ∃ next, Returns (Library.writes.insert "book" (.object Library.newBook) none
      none) Progress.start ⟨"R", [Library.insertedWriter, Library.insertedBook]⟩ next := ⟨_, rfl⟩
  obtain ⟨next, hcompiled⟩ := hcompiled
  obtain ⟨info, members, parents, own, children, selections, hinfo, hmembers, -, hstatements,
    hparts⟩ := insert_parts hdistinct hcompiled
  obtain rfl : Library.book = info := Option.some.inj hinfo
  obtain rfl : Library.newBook = members := Json.object.inj hmembers
  obtain ⟨first, rfl⟩ : ∃ first, parents = [first] :=
    List.length_eq_one_iff.1 hparts.before.length_eq.symm
  obtain rfl : children = [] := List.length_eq_zero_iff.1 hparts.after.length_eq.symm
  obtain ⟨rfl, rfl, rfl⟩ : Library.insertedWriter = first ∧ Library.insertedBook = own ∧
      [] = selections := by
    simpa using hstatements
  exact ⟨hdistinct, next, hcompiled, hparts⟩

end WriteContext

end RelationalQuery
