import RelationalQuery.Proofs.Coherence
import RelationalQuery.Proofs.Alias
import RelationalQuery.Proofs.Filter.Keys

/-!
# Derivations of filters

A compiled filter comes with a derivation: which rule gave the conditions of each of its entries,
and how many aliases were handed out before and after.  What holds of all compiled filters is then
shown by induction on derivations, without another look at the compiler.

Main definitions:

- `FilterTask` is a part of a filter that is compiled over a table.
- `FilterContext.Derives` relates a part, the number of aliases before it, its conditions and the
  number of aliases behind it.

Main results:

- `FilterContext.Derives.of_members`: a compiled filter has a derivation.
- `FilterContext.Derives.le`: aliases are only ever handed out.
-/

namespace RelationalQuery

open Sql (Condition)

/-- A key that stands for a relation names one of the relations of the table. -/
theorem FilterEntry.mem_of_ofKey {table : Table} {key : String} {relation : Relation}
    (h : FilterEntry.relation relation = .ofKey table key) : relation ∈ table.relations := by
  cases Table.readsAs_iff.2 h with
  | relation _ named => exact List.mem_of_find?_eq_some named

/-- A part of a filter that is compiled: the entries of a filter, one entry, or the filters of a
group. -/
inductive FilterTask where
  | members (members : List (String × Json))
  | entry (key : String) (kind : FilterEntry) (value : Json)
  | items (items : List Json)

/-- The condition of a relation: its rows are joined, and they fulfil a further condition. -/
def Sql.Condition.joinedWith (join : Condition) (extra? : Option Condition) : Condition :=
  match extra? with
  | some condition => join.andAlso condition
  | none => join

namespace FilterContext

/-- A part of a filter over a table has conditions; the two numbers count the aliases that are
handed out before and behind it. -/
inductive Derives (context : FilterContext) :
    Table → Option String → FilterTask → Nat → List Condition → Nat → Prop
  | nil {table : Table} {scope? : Option String} {n : Nat} :
      Derives context table scope? (.members []) n [] n
  | cons {table : Table} {scope? : Option String} {key : String} {value : Json}
      {rest : List (String × Json)} {first others : List Condition} {n m k : Nat}
      (head : Derives context table scope? (.entry key (.ofKey table key) value) n first m)
      (tail : Derives context table scope? (.members rest) m others k) :
      Derives context table scope? (.members ((key, value) :: rest)) n (first ++ others) k
  | group {table : Table} {scope? : Option String} {key : String} {isDisjunction : Bool}
      {items : List Json} {parts : List Condition} {n m : Nat}
      (inner : Derives context table scope? (.items items) n parts m) :
      Derives context table scope? (.entry key (.group isDisjunction) (.array items)) n
        (Condition.ofGroup isDisjunction parts) m
  | single {table : Table} {scope? : Option String} {key : String} {isDisjunction : Bool}
      {members : List (String × Json)} {parts : List Condition} {n m : Nat}
      (inner : Derives context table scope? (.members members) n parts m) :
      Derives context table scope? (.entry key (.group isDisjunction) (.object members)) n
        (Condition.ofGroup isDisjunction [.ofEntries parts]) m
  | negation {table : Table} {scope? : Option String} {key : String}
      {members : List (String × Json)} {parts : List Condition} {n m : Nat}
      (inner : Derives context table scope? (.members members) n parts m) :
      Derives context table scope? (.entry key .negation (.object members)) n
        [.not (.ofEntries parts)] m
  | unrelated {table : Table} {scope? : Option String} {key : String} {relation : Relation}
      {related : Table} {n : Nat}
      (known : context.repository.table? relation.relatedTable = some related) :
      Derives context table scope? (.entry key (.relation relation) .null) n
        [.relatedRow relation (numberedName context.stem n)
          (relation.join (numberedName context.stem n) (scope?.getD table.name)) true] (n + 1)
  | related {table : Table} {scope? : Option String} {key : String} {relation : Relation}
      {related : Table} {members : List (String × Json)} {parts : List Condition} {n m : Nat}
      (known : context.repository.table? relation.relatedTable = some related)
      (inner : Derives context related (some (numberedName context.stem n)) (.members members)
        (n + 1) parts m) :
      Derives context table scope? (.entry key (.relation relation) (.object members)) n
        [.relatedRow relation (numberedName context.stem n)
          ((relation.join (numberedName context.stem n) (scope?.getD table.name)).joinedWith
            (Condition.all parts)) false] m
  | column {table : Table} {scope? : Option String} {path key : String} {value : Json}
      {parts : List Condition} {n : Nat}
      (predicates : table.columnConditions scope? path key value = .ok parts) :
      Derives context table scope? (.entry key .column value) n parts n
  | noItems {table : Table} {scope? : Option String} {n : Nat} :
      Derives context table scope? (.items []) n [] n
  | item {table : Table} {scope? : Option String} {members : List (String × Json)}
      {rest : List Json} {parts others : List Condition} {n m k : Nat}
      (head : Derives context table scope? (.members members) n parts m)
      (tail : Derives context table scope? (.items rest) m others k) :
      Derives context table scope? (.items (.object members :: rest)) n
        (.ofEntries parts :: others) k

namespace Derives

variable {context : FilterContext} {table : Table} {scope? : Option String} {task : FilterTask}
  {conditions : List Condition} {n m : Nat}

/-- Aliases are only ever handed out. -/
theorem le (h : context.Derives table scope? task n conditions m) : n ≤ m := by
  induction h with
  | nil | noItems | column => exact Nat.le_refl _
  | unrelated => exact Nat.le_succ _
  | cons _ _ head tail | item _ _ head tail => exact Nat.le_trans head tail
  | group _ ih | single _ ih | negation _ ih => exact ih
  | related _ _ ih => exact Nat.le_of_succ_le ih

mutual

/-- Compiled entries of a filter have a derivation. -/
theorem of_members : ∀ {table : Table} {scope? : Option String} {path : String}
    {members : List (String × Json)} {conditions : List Condition} {n m : Nat},
    Returns (context.memberConditions table scope? path members) n conditions m →
      context.Derives table scope? (.members members) n conditions m
  | table, scope?, path, [], conditions, n, m, h => by
    rw [memberConditions, returns_pure] at h
    rw [h.1, h.2]
    exact .nil
  | table, scope?, path, (key, value) :: rest, conditions, n, m, h => by
    rw [memberConditions] at h
    simp only [returns_bind, returns_pure] at h
    obtain ⟨first, k, hfirst, others, _, hothers, rfl, rfl⟩ := h
    exact .cons (of_entry hfirst) (of_members hothers)

/-- A compiled entry of a filter has a derivation. -/
theorem of_entry : ∀ {table : Table} {scope? : Option String} {path key : String}
    {kind : FilterEntry} {value : Json} {conditions : List Condition} {n m : Nat},
    Returns (context.entryConditions table scope? path key kind value) n conditions m →
      context.Derives table scope? (.entry key kind value) n conditions m
  | table, scope?, path, key, .group isDisjunction, .array items, conditions, n, m, h => by
    rw [entryConditions] at h
    simp only [returns_bind, returns_pure] at h
    obtain ⟨parts, _, hparts, rfl, rfl⟩ := h
    exact .group (of_items hparts)
  | table, scope?, path, key, .group isDisjunction, .object members, conditions, n, m, h => by
    rw [entryConditions] at h
    simp only [returns_bind, returns_pure] at h
    obtain ⟨parts, _, hparts, rfl, rfl⟩ := h
    exact .single (of_members hparts)
  | table, scope?, path, key, .negation, .object members, conditions, n, m, h => by
    rw [entryConditions] at h
    simp only [returns_bind, returns_pure] at h
    obtain ⟨parts, _, hparts, rfl, rfl⟩ := h
    exact .negation (of_members hparts)
  | table, scope?, path, key, .relation relation, .null, conditions, n, m, h => by
    rw [entryConditions] at h
    simp only [returns_bind, returns_fresh, returns_monadLift, returns_pure] at h
    obtain ⟨_, _, ⟨rfl, rfl⟩, related, _, ⟨hrelated, rfl⟩, rfl, rfl⟩ := h
    exact .unrelated (Repository.table_eq_ok_iff.1 hrelated)
  | table, scope?, path, key, .relation relation, .object members, conditions, n, m, h => by
    rw [entryConditions] at h
    simp only [returns_bind, returns_fresh, returns_monadLift, returns_pure] at h
    obtain ⟨_, _, ⟨rfl, rfl⟩, related, _, ⟨hrelated, rfl⟩, parts, _, hparts, rfl, rfl⟩ := h
    exact .related (Repository.table_eq_ok_iff.1 hrelated) (of_members hparts)
  | table, scope?, path, key, .column, value, conditions, n, m, h => by
    rw [entryConditions, returns_monadLift] at h
    rw [h.2]
    exact .column h.1
  | table, scope?, path, key, .group isDisjunction, .null, conditions, n, m, h
  | table, scope?, path, key, .group isDisjunction, .bool _, conditions, n, m, h
  | table, scope?, path, key, .group isDisjunction, .number _, conditions, n, m, h
  | table, scope?, path, key, .group isDisjunction, .string _, conditions, n, m, h
  | table, scope?, path, key, .negation, .null, conditions, n, m, h
  | table, scope?, path, key, .negation, .bool _, conditions, n, m, h
  | table, scope?, path, key, .negation, .number _, conditions, n, m, h
  | table, scope?, path, key, .negation, .string _, conditions, n, m, h
  | table, scope?, path, key, .negation, .array _, conditions, n, m, h
  | table, scope?, path, key, .relation relation, .bool _, conditions, n, m, h
  | table, scope?, path, key, .relation relation, .number _, conditions, n, m, h
  | table, scope?, path, key, .relation relation, .string _, conditions, n, m, h
  | table, scope?, path, key, .relation relation, .array _, conditions, n, m, h => by
    simp [entryConditions] at h

/-- The compiled filters of a group have a derivation. -/
theorem of_items : ∀ {table : Table} {scope? : Option String} {path : String} {index : Nat}
    {items : List Json} {conditions : List Condition} {n m : Nat},
    Returns (context.itemConditions table scope? path index items) n conditions m →
      context.Derives table scope? (.items items) n conditions m
  | table, scope?, path, index, [], conditions, n, m, h => by
    rw [itemConditions, returns_pure] at h
    rw [h.1, h.2]
    exact .noItems
  | table, scope?, path, index, .object members :: rest, conditions, n, m, h => by
    rw [itemConditions] at h
    simp only [returns_bind, returns_pure] at h
    obtain ⟨parts, k, hparts, others, _, hothers, rfl, rfl⟩ := h
    exact .item (of_members hparts) (of_items hothers)
  | table, scope?, path, index, .null :: rest, conditions, n, m, h
  | table, scope?, path, index, .bool _ :: rest, conditions, n, m, h
  | table, scope?, path, index, .number _ :: rest, conditions, n, m, h
  | table, scope?, path, index, .string _ :: rest, conditions, n, m, h
  | table, scope?, path, index, .array _ :: rest, conditions, n, m, h => by
    simp [itemConditions] at h

end

end Derives

/-- A compiled filter is an object, and its condition joins the conditions of a derivation. -/
theorem derives_of_condition {context : FilterContext} {filter : Json} {table : Table}
    {scope? : Option String} {path : String} {condition? : Option Condition} {n m : Nat}
    (h : Returns (context.condition filter table scope? path) n condition? m) :
    ∃ members conditions, filter = .object members ∧ condition? = Condition.all conditions ∧
      context.Derives table scope? (.members members) n conditions m := by
  cases filter with
  | object members =>
    simp only [condition, returns_bind, returns_pure] at h
    obtain ⟨conditions, _, hconditions, rfl, rfl⟩ := h
    exact ⟨members, conditions, rfl, rfl, .of_members hconditions⟩
  | null | bool _ | number _ | string _ | array _ => simp [condition] at h

/-- A filter that has the entry of a single column joins the conditions of the column. -/
theorem returns_condition_of_column {context : FilterContext} {table : Table}
    {scope? : Option String} {path key : String} {value : Json} {conditions : List Condition}
    (plain : FilterEntry.ofKey table key = .column)
    (h : table.columnConditions scope? path key value = .ok conditions) (n : Nat) :
    Returns (context.condition (.object [(key, value)]) table scope? path) n
      (Condition.all conditions) n := by
  simp only [condition, memberConditions, plain, entryConditions, h, returns_bind, returns_pure,
    returns_monadLift]
  exact ⟨conditions, n, ⟨conditions, n, ⟨rfl, rfl⟩, [], n, ⟨rfl, rfl⟩, by simp⟩, rfl, rfl⟩

end FilterContext

end RelationalQuery
