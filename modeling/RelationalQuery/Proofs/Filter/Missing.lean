import RelationalQuery.Proofs.Filter.Meaning
import RelationalQuery.Proofs.Sql.Stored

/-!
# Filters for missing values

A filter asks whether a column, or a key inside a column, is missing.  A column is tested for a
missing value, and this test is never unknown.  A key is looked up in the object around it, and the
answer is unknown if that object is missing itself.  So the filters for a missing key and for one
that is there both drop such a row, and together they keep every other row once.

Main definitions:

- `missingEntry` asks whether the value at a path of keys is missing, and `Addresses` says that the
  keys lead from a field into objects.
- `Stored.Lacks` says that a value is missing, and `Stored.HidesLast` that there is no object to
  look into.

Main results:

- `predicates_missingEntry`: what the entry of a column is compiled to.
- `FilterContext.missing_partition`: the rows that the two filters keep.
- `FilterContext.missing_drops_row`: a row that both filters drop.
-/

namespace RelationalQuery

open Sql (ColumnRef Condition Database Interpretation Item Scope Stored Truth)

/-! ## Addressed values -/

/-- The entry that asks of a column whether the value at a path of keys is missing. -/
def missingEntry (isMissing : Bool) : List String → Json
  | [] => .object [(FilterOperator.isMissing.name, .bool isMissing)]
  | key :: rest => .object [(key, missingEntry isMissing rest)]

/-- Each of the keys is one inside the field before it, and the last field can be tested. -/
def Addresses : Option Field → List String → Prop
  | field?, [] => PredicateKey.ofKey field? FilterOperator.isMissing.name = .operator .isMissing
  | field?, key :: rest =>
    ∃ child?, PredicateKey.ofKey field? key = .nested child? ∧ Addresses child? rest

/-- The entry is a test of the addressed value. -/
theorem predicates_missingEntry {field? : Option Field} {keys : List String}
    (addressed : Addresses field? keys) (column : ColumnRef) (path : String) (isMissing : Bool) :
    predicates field? column path (missingEntry isMissing keys) =
      .ok [missingCondition { column with path := column.path ++ keys } isMissing] := by
  induction keys generalizing field? column path with
  | nil =>
    rw [missingEntry, predicates, memberPredicates, memberPredicates, addressed, List.append_nil]
    rfl
  | cons key rest ih =>
    obtain ⟨child?, hchild, hrest⟩ := addressed
    rw [missingEntry, predicates, memberPredicates, memberPredicates, hchild]
    simp only [ih hrest, ColumnRef.key, List.append_assoc, List.cons_append, List.nil_append]
    rfl

namespace Sql.Stored

/-- A value is missing at a path of keys: the column has no value, or the last key is not there. -/
def Lacks (value : Stored) (keys : List String) : Prop :=
  match keys.getLast? with
  | none => value = none
  | some key => (Interpretation.stored.inside keys.dropLast value).hasKey key ≠ .yes

/-- There is no object in which the last key could be. -/
def HidesLast (value : Stored) (keys : List String) : Prop :=
  keys ≠ [] ∧ Interpretation.stored.inside keys.dropLast value = none

/-- If only objects are looked into, then a value is missing where nothing is found. -/
theorem lacks_iff {value : Stored} {keys : List String}
    (looked : keys ≠ [] → ∀ json ∈ Interpretation.stored.inside keys.dropLast value,
      json.items? = none ∧ json.string? = none) :
    value.Lacks keys ↔ Interpretation.stored.inside keys value = none := by
  rcases List.eq_nil_or_concat' keys with rfl | ⟨parents, key, rfl⟩
  · rfl
  · rw [List.dropLast_concat] at looked
    have hkey : (Interpretation.stored.inside parents value).hasKey key = .yes ↔ _ :=
      hasKey_eq_yes_iff (looked (by simp))
    rw [Lacks, List.getLast?_concat, List.dropLast_concat, Interpretation.inside_stored_concat]
    simp only
    rw [Ne, hkey, Ne, not_not]

/-- Without an object to look into the last key is not there. -/
theorem HidesLast.lacks {value : Stored} {keys : List String} (h : value.HidesLast keys) :
    value.Lacks keys := by
  obtain ⟨hkeys, hnone⟩ := h
  rw [Lacks, List.getLast?_eq_some_getLast hkeys, hnone]
  simp [hasKey]

end Sql.Stored

/-! ## The rows that are kept -/

/-- The test for a missing value is true where the value is missing, unless there is no object to
look into. -/
theorem missingMeaning_true_eq_yes_iff {value : Stored} {keys : List String} :
    missingMeaning .stored value keys true = .yes ↔ value.Lacks keys ∧ ¬ value.HidesLast keys := by
  rw [missingMeaning, Stored.Lacks, Stored.HidesLast]
  cases hlast : keys.getLast? with
  | none => simp [List.getLast?_eq_none_iff.1 hlast]
  | some key =>
    have hkeys : keys ≠ [] := by
      rintro rfl
      simp at hlast
    simp only [if_true, Interpretation.hasKey_stored, Truth.not_eq_yes_iff]
    have hunknown : (Interpretation.stored.inside keys.dropLast value).hasKey key = .unknown ↔ _ :=
      Stored.hasKey_eq_unknown_iff
    rw [← hunknown]
    cases (Interpretation.stored.inside keys.dropLast value).hasKey key <;> simp [hkeys]

/-- The test for a value that is there is true where it is. -/
theorem missingMeaning_false_eq_yes_iff {value : Stored} {keys : List String} :
    missingMeaning .stored value keys false = .yes ↔ ¬ value.Lacks keys := by
  rw [missingMeaning, Stored.Lacks]
  cases keys.getLast? with
  | none => cases value <;> simp
  | some key => simp

namespace FilterContext

/-- The two filters for a value that a table lets address compile.  The one for a missing value
keeps the rows in which it is missing, and the other one the rows in which it is not.  Only the rows
in which there is no object for the last key are dropped by both.  Where no array or text is looked
into, a value is missing if nothing is found. -/
theorem missing_partition (context : FilterContext) {table : Table} {key : String} {field : Field}
    {keys : List String} (plain : FilterEntry.ofKey table key = .column)
    (known : table.schema.get? key = some field) (addressed : Addresses (some field) keys)
    (scope? : Option String) (path : String) (n : Nat) :
    ∃ missing present,
      Returns (context.condition (.object [(key, missingEntry true keys)]) table scope? path) n
        (some missing) n ∧
      Returns (context.condition (.object [(key, missingEntry false keys)]) table scope? path) n
        (some present) n ∧
      ∀ (db : Database Stored) (scope : Scope Stored) (value : Stored),
        scope.resolve scope? key = some value →
        ∃ a b, missing.eval .stored db scope = some a ∧ present.eval .stored db scope = some b ∧
          (a = .yes ↔ value.Lacks keys ∧ ¬ value.HidesLast keys) ∧
          (b = .yes ↔ ¬ value.Lacks keys) ∧
          ((a = .yes ↔ b ≠ .yes) ↔ ¬ value.HidesLast keys) ∧
          ((keys ≠ [] → ∀ json ∈ Interpretation.stored.inside keys.dropLast value,
              json.items? = none ∧ json.string? = none) →
            (value.Lacks keys ↔ Interpretation.stored.inside keys value = none)) := by
  have compiled : ∀ isMissing, table.columnConditions scope? path key (missingEntry isMissing keys) =
      .ok [missingCondition ⟨scope?, key, keys⟩ isMissing] := by
    intro isMissing
    rw [Table.columnConditions, ObjectSchema.field, known]
    exact predicates_missingEntry addressed _ _ isMissing
  refine ⟨_, _, returns_condition_of_column plain (compiled true) n,
    returns_condition_of_column plain (compiled false) n, ?_⟩
  intro db scope value hvalue
  refine ⟨_, _, missingCondition_eval hvalue true, missingCondition_eval hvalue false,
    missingMeaning_true_eq_yes_iff, missingMeaning_false_eq_yes_iff, ?_, Stored.lacks_iff⟩
  rw [missingMeaning_true_eq_yes_iff, Ne, missingMeaning_false_eq_yes_iff, not_not]
  constructor
  · intro h hhides
    exact (h.2 hhides.lacks).2 hhides
  · intro hshown
    exact and_iff_left hshown

end FilterContext

/-! ## Details that a book does not have -/

namespace Library

/-- The details of a book with the number of votes in a rating; they may be left out. -/
def detailsField : Field :=
  { Field.ofKind (.object ⟨[("rating", .ofKind (.object ⟨[("votes", integer)]⟩))]⟩) with
    optional := true }

/-- Books that may have no details. -/
def looseBook : Table := ⟨"book", ⟨[("details", detailsField), ("id", integer)]⟩, none, []⟩

/-- Books that may have no details, and nothing else. -/
def looseBooks : Repository := ⟨[looseBook]⟩

theorem looseBooks_accepted : looseBooks.Accepted :=
  ⟨[⟨"book", ⟨[("details", detailsField), ("id", integer)]⟩, [], []⟩], rfl⟩

/-- A book without details. -/
def bareBook : Sql.Row Stored := [("details", none), ("id", some (Json.ofUInt64 1))]

/-- A book with a rating. -/
def votedBook : Sql.Row Stored :=
  [("details", some (.object [("rating", .object [("votes", Json.ofUInt64 3)])])),
    ("id", some (Json.ofUInt64 1))]

theorem addresses_votes : Addresses (some detailsField) ["rating", "votes"] :=
  ⟨_, rfl, _, rfl, rfl⟩

end Library

namespace FilterContext

/-- A book with a rating has a number of votes. -/
theorem missing_partition_library :
    FilterEntry.ofKey Library.looseBook "details" = .column ∧
      Library.looseBook.schema.get? "details" = some Library.detailsField ∧
      Addresses (some Library.detailsField) ["rating", "votes"] ∧
      ∃ missing present,
        Returns ((⟨Library.looseBooks, "W"⟩ : FilterContext).condition
          (.object [("details", missingEntry true ["rating", "votes"])]) Library.looseBook none
            "book") 0 (some missing) 0 ∧
        Returns ((⟨Library.looseBooks, "W"⟩ : FilterContext).condition
          (.object [("details", missingEntry false ["rating", "votes"])]) Library.looseBook none
            "book") 0 (some present) 0 ∧
        missing.eval .stored (fun _ => none) [[.ofRow "book" Library.votedBook]] ≠ some .yes ∧
        present.eval .stored (fun _ => none) [[.ofRow "book" Library.votedBook]] = some .yes := by
  have plain : FilterEntry.ofKey Library.looseBook "details" = .column := rfl
  have known : Library.looseBook.schema.get? "details" = some Library.detailsField := rfl
  refine ⟨plain, known, Library.addresses_votes, ?_⟩
  obtain ⟨missing, present, hmissing, hpresent, hrows⟩ :=
    missing_partition ⟨Library.looseBooks, "W"⟩ plain known Library.addresses_votes none "book" 0
  obtain ⟨a, b, ha, hb, ha_iff, hb_iff, -, -⟩ := hrows (fun _ => none)
    [[.ofRow "book" Library.votedBook]] _ rfl
  refine ⟨missing, present, hmissing, hpresent, ?_, ?_⟩
  · rw [ha, Ne, Option.some.injEq, ha_iff]
    exact fun h => h.1 rfl
  · rw [hb, Option.some.injEq, hb_iff]
    exact fun h => h rfl

/-- Both filters for the rating drop a book without details. -/
theorem missing_drops_row :
    Library.looseBooks.Accepted ∧ ∃ missing present,
      Returns ((⟨Library.looseBooks, "W"⟩ : FilterContext).condition
        (.object [("details", missingEntry true ["rating"])]) Library.looseBook none "book") 0
          (some missing) 0 ∧
      Returns ((⟨Library.looseBooks, "W"⟩ : FilterContext).condition
        (.object [("details", missingEntry false ["rating"])]) Library.looseBook none "book") 0
          (some present) 0 ∧
      List.lookup "details" Library.bareBook = some none ∧
      missing.eval .stored (fun _ => none) [[.ofRow "book" Library.bareBook]] = some .unknown ∧
      present.eval .stored (fun _ => none) [[.ofRow "book" Library.bareBook]] = some .unknown :=
  ⟨Library.looseBooks_accepted, _, _, rfl, rfl, rfl, rfl, rfl⟩

end FilterContext

end RelationalQuery
