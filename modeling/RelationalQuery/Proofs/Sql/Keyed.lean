import RelationalQuery.Proofs.Sql.Pieces

/-!
# Where literals come from

Besides a few fixed texts, a compiled query writes literals for the keys of objects.  Such a key is
given by the query, or it is the name of a column of a table, and then the column is written next to
it.  What is put together of parts with such literals has such literals.

Main definitions:

- `fixedLiterals` are the literals that stand for no key.
- `Keyed` says where the literals of some pieces come from, and that trusted texts and types do not
  hold the character zero; `KeyedEntry` says this of an entry of an object.

Main results:

- `Keyed.append`, `Keyed.flatMap` and their companions: parts are put together.
- `Keyed.select` and `Keyed.chain`: so are selections and chains.
-/

namespace RelationalQuery.Sql

/-! ## Pieces of lists -/

/-- The pieces of a list are those of its members. -/
theorem Expr.listPieces_eq_flatMap (exprs : List Expr) :
    Expr.listPieces exprs = exprs.flatMap Expr.pieces := by
  induction exprs with
  | nil => rfl
  | cons expr rest ih => rw [Expr.listPieces, ih, List.flatMap_cons]

/-- The pieces of entries are their keys and those of their values. -/
theorem Expr.entryPieces_eq_flatMap (entries : List (String × Expr)) :
    Expr.entryPieces entries = entries.flatMap fun entry => .literal entry.1 :: entry.2.pieces := by
  induction entries with
  | nil => rfl
  | cons entry rest ih => rw [Expr.entryPieces, ih, List.flatMap_cons]

/-- The pieces of an order are those of its terms. -/
theorem OrderTerm.listPieces_eq_flatMap (order : List OrderTerm) :
    OrderTerm.listPieces order = order.flatMap fun term => term.expr.pieces := by
  induction order with
  | nil => rfl
  | cons term rest ih =>
    obtain ⟨expr, direction⟩ := term
    rw [OrderTerm.listPieces, ih, List.flatMap_cons]

/-- The pieces of columns are those of their expressions, and their labels. -/
theorem Projection.listPieces_eq_flatMap (columns : List Projection) :
    Projection.listPieces columns =
      columns.flatMap fun column => column.expr.pieces ++ namePieces column.alias?.toList := by
  induction columns with
  | nil => rfl
  | cons column rest ih =>
    obtain ⟨expr, alias?⟩ := column
    rw [Projection.listPieces, ih, List.flatMap_cons]

namespace Condition

/-- The pieces of conditions are those of each of them. -/
theorem listPieces_eq_flatMap (conditions : List Condition) :
    listPieces conditions = conditions.flatMap Condition.pieces := by
  induction conditions with
  | nil => rfl
  | cons condition rest ih => rw [listPieces, ih, List.flatMap_cons]

theorem listPieces_parts (condition : Condition) :
    listPieces condition.parts = condition.pieces := by
  unfold parts
  split
  · rw [pieces]
  · rw [listPieces, listPieces, List.append_nil]

/-- A conjunction has the pieces of its sides. -/
theorem pieces_andAlso (left right : Condition) :
    (left.andAlso right).pieces = left.pieces ++ right.pieces := by
  rw [andAlso, pieces, listPieces_eq_flatMap, List.flatMap_append, ← listPieces_eq_flatMap,
    ← listPieces_eq_flatMap, listPieces_parts, listPieces_parts]

/-- Conditions that are joined have the pieces of each of them. -/
theorem clausePieces_all (conditions : List Condition) :
    clausePieces (all conditions) = listPieces conditions := by
  unfold all
  split
  · rfl
  · rw [clausePieces, listPieces, listPieces, List.append_nil]
  · rw [clausePieces, pieces]

end Condition

/-! ## Literals and fixed texts -/

/-- The literals that stand for no key: the texts of an empty array and of an empty object. -/
def fixedLiterals : List String := ["[]", "\x7b\x7d"]

/-- A literal is fixed, or has a property, or is the name of something that is written too; trusted
texts and types do not hold the character zero. -/
structure Keyed (P : String → Prop) (pieces : List Piece) : Prop where
  literal : ∀ text, .literal text ∈ pieces →
    P text ∨ text ∈ fixedLiterals ∨ .name text ∈ pieces
  fixed : ∀ piece ∈ pieces, piece.IsFixedWithoutNul

namespace Keyed

variable {P : String → Prop} {left right : List Piece}

theorem nil : Keyed P [] := ⟨fun _ h => absurd h List.not_mem_nil, List.forall_mem_nil _⟩

/-- Keyed pieces can be joined. -/
theorem append (hleft : Keyed P left) (hright : Keyed P right) : Keyed P (left ++ right) := by
  constructor
  · intro text htext
    rcases List.mem_append.1 htext with htext | htext
    · exact (hleft.literal text htext).imp_right (.imp_right (List.mem_append_left _))
    · exact (hright.literal text htext).imp_right (.imp_right (List.mem_append_right _))
  · exact List.forall_mem_append.2 ⟨hleft.fixed, hright.fixed⟩

/-- The pieces of several parts are keyed if those of each part are. -/
theorem flatMap {α : Type} {items : List α} {part : α → List Piece}
    (h : ∀ item ∈ items, Keyed P (part item)) : Keyed P (items.flatMap part) := by
  induction items with
  | nil => exact nil
  | cons item rest ih =>
    rw [List.forall_mem_cons] at h
    rw [List.flatMap_cons]
    exact h.1.append (ih h.2)

/-- Names are keyed, as they hold no literals. -/
theorem names (texts : List String) : Keyed P (namePieces texts) := by
  constructor
  · simp [namePieces]
  · simp [namePieces, Piece.IsFixedWithoutNul]

theorem name (text : String) : Keyed P [.name text] := names [text]

/-- So is trusted text without the character zero. -/
theorem raw {text : String} (free : nul ∉ text.toList) : Keyed P [.raw text] :=
  ⟨by simp, List.forall_mem_singleton.2 free⟩

theorem type {word : String} (free : nul ∉ word.toList) : Keyed P [.type word] :=
  ⟨by simp, List.forall_mem_singleton.2 free⟩

/-- Literals with the property are keyed. -/
theorem keys {texts : List String} (h : ∀ text ∈ texts, P text) :
    Keyed P (texts.map .literal) := by
  constructor
  · intro text htext
    exact .inl (h text (by simpa using htext))
  · simp [Piece.IsFixedWithoutNul]

theorem key {text : String} (h : P text) : Keyed P [.literal text] :=
  keys (List.forall_mem_singleton.2 h)

/-- The texts of an empty array and an empty object are keyed. -/
theorem fixedLiteral {text : String} (h : text ∈ fixedLiterals) : Keyed P [.literal text] := by
  constructor
  · intro other hother
    obtain rfl : other = text := by simpa using hother
    exact .inr (.inl h)
  · simp [Piece.IsFixedWithoutNul]

/-! ## Entries of objects -/

end Keyed

/-- The literals of an entry of an object are such literals; its key may be a name in its value. -/
def KeyedEntry (P : String → Prop) (entry : String × Expr) : Prop :=
  Keyed P (.literal entry.1 :: entry.2.pieces)

namespace KeyedEntry

variable {P : String → Prop} {entry : String × Expr}

theorem of_key (key : P entry.1) (inner : Keyed P entry.2.pieces) : KeyedEntry P entry :=
  (Keyed.key key).append inner

/-- A literal in the value is not a name because of the key. -/
theorem value (h : KeyedEntry P entry) : Keyed P entry.2.pieces := by
  constructor
  · intro text htext
    refine (h.literal text (List.mem_cons_of_mem _ htext)).imp_right (.imp_right fun hname => ?_)
    simpa using hname
  · exact (List.forall_mem_cons.1 h.fixed).2

end KeyedEntry

namespace Keyed

variable {P : String → Prop}

/-- The pieces of keyed entries are keyed. -/
theorem entries {entries : List (String × Expr)} (h : ∀ entry ∈ entries, KeyedEntry P entry) :
    Keyed P (Expr.entryPieces entries) := by
  rw [Expr.entryPieces_eq_flatMap]
  exact flatMap h

/-- So are those of an object with keyed entries. -/
theorem object {entries : List (String × Expr)} (h : ∀ entry ∈ entries, KeyedEntry P entry) :
    Keyed P (Expr.object entries).pieces := by
  rw [Expr.pieces]
  exact .entries h

/-! ## Parts of queries -/

/-- A column has the keys of its path. -/
theorem column {column : ColumnRef} (path : ∀ key ∈ column.path, P key) :
    Keyed P column.pieces :=
  (names _).append (keys path)

theorem plainColumn (qualifier? : Option String) (name : String) :
    Keyed P (ColumnRef.pieces ⟨qualifier?, name, []⟩) :=
  column (List.forall_mem_nil _)

/-- The pieces of a list are keyed if those of its members are. -/
theorem listPieces {exprs : List Expr} (h : ∀ expr ∈ exprs, Keyed P expr.pieces) :
    Keyed P (Expr.listPieces exprs) := by
  rw [Expr.listPieces_eq_flatMap]
  exact flatMap h

/-- The pieces of columns are keyed if those of their expressions are. -/
theorem columns {columns : List Projection} (h : ∀ column ∈ columns, Keyed P column.expr.pieces) :
    Keyed P (Projection.listPieces columns) := by
  rw [Projection.listPieces_eq_flatMap]
  exact flatMap fun column hcolumn => (h column hcolumn).append (names _)

/-- The pieces of conditions are keyed if those of each of them are. -/
theorem conditions {conditions : List Condition}
    (h : ∀ condition ∈ conditions, Keyed P condition.pieces) :
    Keyed P (Condition.listPieces conditions) := by
  rw [Condition.listPieces_eq_flatMap]
  exact flatMap h

/-- An array of the objects of all rows has what the object and the order have. -/
theorem aggregate {value : Expr} {order : List OrderTerm} (hvalue : Keyed P value.pieces)
    (horder : Keyed P (OrderTerm.listPieces order)) :
    Keyed P (Expr.aggregate value order).pieces := by
  rw [Expr.pieces]
  exact (hvalue.append horder).append (fixedLiteral (by decide))

/-- A selection has what its parts have. -/
theorem select {select : Select} (hcolumns : Keyed P (Projection.listPieces select.columns))
    (hrows : Keyed P (FromItem.clausePieces select.from?))
    (hcondition : Keyed P (Condition.clausePieces select.where?))
    (horder : Keyed P (OrderTerm.listPieces select.order)) : Keyed P select.pieces := by
  obtain ⟨columns, from?, where?, order, limit?, offset?⟩ := select
  rw [Select.pieces]
  exact ((hcolumns.append hrows).append hcondition).append horder

/-- A selection of columns from the rows of a name has what its columns have. -/
theorem ofTable {columns : List Projection} (h : Keyed P (Projection.listPieces columns))
    (table : String) (alias? : Option String) :
    Keyed P (Select.ofColumns columns (.table table alias?)).pieces := by
  refine select h ?_ nil nil
  exact (name table).append (names _)

/-- A chain has what its statements have. -/
theorem chain {chain : Chain} (h : ∀ statement ∈ chain.statements, Keyed P statement.pieces) :
    Keyed P chain.pieces := by
  have hnamed : ∀ (index : Nat) (statements : List Statement),
      (∀ statement ∈ statements, Keyed P statement.pieces) →
        Keyed P (Chain.namedPieces chain.stem index statements) := by
    intro index statements hstatements
    induction statements generalizing index with
    | nil => exact nil
    | cons statement rest ih =>
      rw [List.forall_mem_cons] at hstatements
      exact ((name _).append hstatements.1).append (ih (index + 1) hstatements.2)
  refine (hnamed 0 _ fun statement hstatement => ?_).append (flatMap fun statement hstatement => ?_)
  · exact h statement (List.dropLast_subset _ hstatement)
  · rw [Option.mem_toList] at hstatement
    exact h statement (List.mem_of_getLast? hstatement)

end Keyed

end RelationalQuery.Sql
