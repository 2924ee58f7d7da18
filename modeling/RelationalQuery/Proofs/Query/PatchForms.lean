import RelationalQuery.Proofs.Query.Alteration
import RelationalQuery.Proofs.Sql.Execution

/-!
# Both forms of a patch

A patch is written as one assignment per key, or as one merge with the stored object.  Executed on a
row, both forms have the same effect: the keys of the patch have their values, which are computed
from the old row, and nothing else is changed.  So the form that is chosen makes no difference.

The patch without keys is an exception.  Without assignments a missing object stays missing, while a
merge stores an empty object.  Updates do not assign anything for such a patch.

Main definitions:

- `Patch.ofEntries` is the patch of some entries.
- `Expr.IsPatchValue` says what the values of a patch are.

Main results:

- `Patch.executeAll?_subscript` and `Patch.executeAll?_merge`: what each form does.
- `Patch.forms_agree`: both forms have the effect of the patch.
- `WriteContext.ofEntries_of_patchAssignments`: the patches of updates are patches of this kind.
- `Patch.forms_differ`: they differ for a patch without keys.
-/

namespace RelationalQuery

namespace Sql

/-! ## Patches -/

/-- The patch of some entries, set one after the other. -/
def Patch.ofEntries (column : String) (qualifier? : Option String)
    (entries : List (String × Expr)) : Patch :=
  entries.foldl (fun patch entry => patch.set entry.1 entry.2) (Patch.empty column qualifier?)

/-- The values of a patch of a column: JSON, null, and operations on keys of the column. -/
inductive Expr.IsPatchValue (column : String) (qualifier? : Option String) : Expr → Prop
  | null : IsPatchValue column qualifier? .null
  | jsonNull : IsPatchValue column qualifier? Patch.jsonNull
  | parameter (value : Json) : IsPatchValue column qualifier? (.parameter (.json value))
  | operation (key : String) (operator : ArithmeticOperator) (operand : Parameter)
      (numericType : String) :
      IsPatchValue column qualifier?
        (.operation ⟨qualifier?, column, [key]⟩ operator operand numericType)

section

variable {column : String} {qualifier? : Option String} {entries : List (String × Expr)}
  {arithmetic : Arithmetic} {db : Database Stored} {scope : Scope Stored} {row : Row Stored}
  {current : Stored} {members : Members} {expr : Expr}

theorem Expr.IsPatchValue.of_stored (h : expr.IsPatchValue column qualifier?) :
    (Patch.stored expr).IsPatchValue column qualifier? := by
  cases h with
  | null | jsonNull => exact .jsonNull
  | parameter value => exact .parameter value
  | operation key operator operand numericType => exact .operation key operator operand numericType

/-- The cast of a value inside a merge changes nothing. -/
theorem Expr.IsPatchValue.assigned?_merged (h : expr.IsPatchValue column qualifier?) :
    (Patch.merged expr).assigned? arithmetic db scope = expr.assigned? arithmetic db scope := by
  cases h with
  | null | jsonNull | operation => rfl
  | parameter value =>
    rw [Patch.merged, assigned?, if_pos ⟨rfl, rfl⟩, assigned?]
    all_goals simp

namespace Patch

/-- A patch holds each value as it is stored. -/
theorem ofEntries_eq (column : String) (qualifier? : Option String)
    (entries : List (String × Expr)) :
    ofEntries column qualifier? entries =
      ⟨column, qualifier?, entries.map fun entry => (entry.1, stored entry.2)⟩ :=
  foldl_set (empty column qualifier?) entries

/-- A patch has the keys that it is built from. -/
theorem names_ofEntries (column : String) (qualifier? : Option String)
    (entries : List (String × Expr)) :
    Entries.names (ofEntries column qualifier? entries).entries = Entries.names entries := by
  rw [ofEntries_eq, Entries.names, List.map_map]
  rfl

variable {patch : Patch}

/-- The merged entries of a patch have the same values as the entries. -/
theorem assignedEntries?_merged
    (values : ∀ entry ∈ entries, entry.2.IsPatchValue column qualifier?) :
    Expr.assignedEntries? arithmetic db scope
        (entries.map fun entry => (entry.1, merged entry.2)) =
      Expr.assignedEntries? arithmetic db scope entries := by
  induction entries with
  | nil => rfl
  | cons entry rest ih =>
    rw [List.forall_mem_cons] at values
    rw [List.map_cons, Expr.assignedEntries?, Expr.assignedEntries?, values.1.assigned?_merged,
      ih values.2]

/-- The merge of a patch puts its values into the stored object. -/
theorem executeAll?_merge (held : List.lookup patch.column row = some current)
    (read : scope.resolve patch.qualifier? patch.column = some current)
    (object : current.members? = some members)
    (values : ∀ entry ∈ patch.entries, entry.2.IsPatchValue patch.column patch.qualifier?)
    (distinct : (Entries.names patch.entries).Nodup) :
    Assignment.executeAll? arithmetic db scope [patch.mergeAssignment] row =
      (Expr.assignedEntries? arithmetic db scope patch.entries).map fun values =>
        Entries.put row patch.column (some (.object (members.override values))) := by
  have hread : (Expr.column ⟨patch.qualifier?, patch.column, []⟩).eval .stored db none scope =
      some current := by simp [Expr.eval, read]
  rw [Assignment.executeAll?, List.foldlM_cons, mergeAssignment, Assignment.execute?_column held,
    Expr.assigned?, hread, assignedEntries?_merged values]
  cases hvalues : Expr.assignedEntries? arithmetic db scope patch.entries with
  | none => simp
  | some written =>
    have hnames : written.keys.Nodup := by rwa [Expr.keys_assignedEntries? hvalues]
    simp [object, Members.override_nil hnames]

/-- A patch has turned a row into another one: its column holds an object in which the keys of the
patch have their values, and nothing else is changed. -/
structure Effect (patch : Patch) (value? : Expr → Option Stored) (members object : Members)
    (row last : Row Stored) : Prop where
  held : List.lookup patch.column last = some (some (.object object))
  touched : ∀ entry ∈ patch.entries, ∃ value, value? entry.2 = some value ∧
    object.get? entry.1 = some value.toJson
  untouched : ∀ key, key ∉ Entries.names patch.entries → object.get? key = members.get? key
  others : ∀ other, other ≠ patch.column → List.lookup other last = List.lookup other row

/-- Values that are put into the stored object are the effect of the patch. -/
theorem effect_of_assignedEntries? {values : Members}
    (distinct : (Entries.names patch.entries).Nodup)
    (h : Expr.assignedEntries? arithmetic db scope patch.entries = some values) :
    patch.Effect (Expr.assigned? arithmetic db scope) members (members.override values) row
      (Entries.put row patch.column (some (.object (members.override values)))) := by
  have hkeys := Expr.keys_assignedEntries? h
  rw [← hkeys] at distinct
  constructor
  · rw [Entries.lookup_put, if_pos rfl]
  · intro entry hentry
    obtain ⟨value, hvalue, hmem⟩ := Expr.mem_assignedEntries? h entry hentry
    refine ⟨value, hvalue, ?_⟩
    rw [Members.get?_override distinct, (Members.get?_eq_some_iff distinct).2 hmem, Option.some_or]
  · intro key hkey
    have hnone : values.get? key = none := by
      rw [← hkeys] at hkey
      exact Entries.lookup_eq_none_iff.2 hkey
    rw [Members.get?_override distinct, hnone, Option.none_or]
  · intro other hother
    rw [Entries.lookup_put, if_neg hother]

/-- A patch with keys assigns something. -/
theorem assignments_ne_nil (touched : patch.entries ≠ []) (schema : ObjectSchema) :
    patch.assignments schema ≠ [] := by
  unfold assignments
  cases patch.mode schema with
  | subscript => exact fun h => touched (List.map_eq_nil_iff.1 h)
  | merge => exact List.cons_ne_nil _ _

/-- The form that is chosen for a schema does what the merge does. -/
theorem executeAll?_assignments (schema : ObjectSchema)
    (alike : Assignment.executeAll? arithmetic db scope patch.subscriptAssignments row =
      Assignment.executeAll? arithmetic db scope [patch.mergeAssignment] row) :
    Assignment.executeAll? arithmetic db scope (patch.assignments schema) row =
      Assignment.executeAll? arithmetic db scope [patch.mergeAssignment] row := by
  unfold assignments
  cases patch.mode schema with
  | subscript => exact alike
  | merge => rfl

/-- Both forms of a patch turn a row into the same one, so the form that is chosen for a schema does
not matter.  They fail only where the value of a key cannot be computed, and what they do is the
effect of the patch.  A patch without keys needs a stored object. -/
theorem forms_agree (values : ∀ entry ∈ entries, entry.2.IsPatchValue column qualifier?)
    (distinct : (Entries.names entries).Nodup) (held : List.lookup column row = some current)
    (read : scope.resolve qualifier? column = some current)
    (object : current.members? = some members) (touched : entries ≠ [] ∨ current ≠ none)
    (arithmetic : Arithmetic) (db : Database Stored) (schema : ObjectSchema) :
    let patch := ofEntries column qualifier? entries
    let execute? assignments := Assignment.executeAll? arithmetic db scope assignments row
    execute? patch.subscriptAssignments = execute? [patch.mergeAssignment] ∧
      execute? (patch.assignments schema) = execute? [patch.mergeAssignment] ∧
      ((execute? (patch.assignments schema)).isSome = true ↔ ∀ entry ∈ patch.entries,
        (entry.2.assigned? arithmetic db scope).isSome = true) ∧
      ∀ last, execute? (patch.assignments schema) = some last →
        ∃ object, patch.Effect (Expr.assigned? arithmetic db scope) members object row last := by
  intro patch execute?
  have hpatch : patch = ⟨column, qualifier?, entries.map fun entry => (entry.1, stored entry.2)⟩ :=
    ofEntries_eq column qualifier? entries
  have hvalues : ∀ entry ∈ patch.entries, entry.2.IsPatchValue patch.column patch.qualifier? := by
    rw [hpatch, List.forall_mem_map]
    exact fun entry hentry => (values entry hentry).of_stored
  have hdistinct : (Entries.names patch.entries).Nodup := by rwa [names_ofEntries]
  have htouched : patch.entries ≠ [] ∨ current ≠ none := by
    rwa [hpatch, Ne, List.map_eq_nil_iff]
  replace held : List.lookup patch.column row = some current := by rwa [hpatch]
  replace read : scope.resolve patch.qualifier? patch.column = some current := by rwa [hpatch]
  have hsubscript : execute? patch.subscriptAssignments = _ :=
    Assignment.executeAll?_keys held object htouched
  have hmerge : execute? [patch.mergeAssignment] = _ :=
    executeAll?_merge held read object hvalues hdistinct
  have halike := hsubscript.trans hmerge.symm
  have hchosen : execute? (patch.assignments schema) = execute? [patch.mergeAssignment] :=
    executeAll?_assignments schema halike
  refine ⟨halike, hchosen, ?_, ?_⟩
  · rw [hchosen, hmerge, Option.isSome_map, Expr.isSome_assignedEntries?]
  · intro last hlast
    rw [hchosen, hmerge, Option.map_eq_some_iff] at hlast
    obtain ⟨written, hwritten, rfl⟩ := hlast
    exact ⟨_, effect_of_assignedEntries? hdistinct hwritten⟩

end Patch

end

end Sql

/-! ## Patches of updates -/

namespace WriteContext

open Sql (Assignment Expr Patch)

variable {context : WriteContext} {column path : String} {nested : ObjectSchema}
  {qualifier? : Option String} {s t : Progress}

/-- The value of a key in the patch of an update is one of a patch. -/
theorem patchExpr_isPatchValue {entry : String × Json} {expr : Expr}
    (h : Returns (context.patchExpr column nested path qualifier? entry) s expr t) :
    expr.IsPatchValue column qualifier? := by
  obtain ⟨field, -, ⟨members, -, -, hoperation⟩ | ⟨-, -, rfl⟩⟩ := patchExpr_cases h
  · simp only [operationExpr, bind_eq_ok_iff, pure_eq_ok_iff] at hoperation
    obtain ⟨⟨operator, operand⟩, -, rfl⟩ := hoperation
    exact .operation entry.1 operator operand _
  · split
    · exact .null
    · exact .parameter entry.2

/-- An update that patches an object assigns a patch of its keys, whose form makes no difference.
It assigns nothing for an object without keys, for which the forms would differ. -/
theorem ofEntries_of_patchAssignments {members : Members} {assignments : List Assignment}
    (h : Returns (context.patchAssignments column members nested path qualifier?) s assignments t) :
    ∃ entries : List (String × Expr),
      List.Forall₂ (fun member entry => entry.1 = member.1 ∧ ∃ s t,
        Returns (context.patchExpr column nested path qualifier? member) s entry.2 t)
          members entries ∧
      (∀ entry ∈ entries, entry.2.IsPatchValue column qualifier?) ∧
      (entries = [] ∧ assignments = [] ∨
        entries ≠ [] ∧
          assignments = (Patch.ofEntries column qualifier? entries).assignments nested) := by
  obtain ⟨entries, patch, -, hexprs, hpatch, rfl⟩ := patchAssignments_cases h
  rw [← Patch.ofEntries_eq] at hpatch
  refine ⟨entries, hexprs, ?_, ?_⟩
  · intro entry hentry
    obtain ⟨_, -, -, _, _, hexpr⟩ := exists_mem_of_forall₂ hexprs hentry
    exact patchExpr_isPatchValue hexpr
  · subst hpatch
    rw [Patch.ofEntries_eq]
    cases entries with
    | nil => exact .inl ⟨rfl, rfl⟩
    | cons entry rest => exact .inr ⟨List.cons_ne_nil _ _, rfl⟩

end WriteContext

/-! ## Patches of the details of a book -/

namespace Library

open Sql

/-- Three votes and one more are four; other sums are not needed. -/
def oneMoreVote : Arithmetic := fun operator numericType current operand =>
  if operator = .add ∧ numericType = "bigint" ∧ current = some (.string "3") ∧
      operand = Json.ofUInt64 1 then
    some (some (Json.ofUInt64 4))
  else none

/-- Five stars, no note and one more vote. -/
def starred : List (String × Expr) :=
  [("stars", .parameter (.json (Json.ofUInt64 5))), ("note", .null),
    ("votes", .operation ⟨none, "details", ["votes"]⟩ .add (.plain (Json.ofUInt64 1)) "bigint")]

/-- The row of a book with the given details. -/
def detailed (details : Members) : Row Stored := [("details", some (.object details))]

/-- The details of a book with three votes. -/
def threeVotes : Members := [("votes", Json.ofUInt64 3), ("title", .string "Notes")]

/-- Details that have all their keys. -/
def fullDetails : ObjectSchema := ⟨[("votes", integer)]⟩

/-- Details of which the votes may be left out. -/
def looseDetails : ObjectSchema := ⟨[("votes", { integer with optional := true })]⟩

/-- The values of the patch are for keys inside the details. -/
theorem starred_isPatchValue : ∀ entry ∈ starred, entry.2.IsPatchValue "details" none := by
  intro entry hentry
  simp only [starred, List.mem_cons, List.not_mem_nil, or_false] at hentry
  rcases hentry with rfl | rfl | rfl
  · exact .parameter _
  · exact .null
  · exact .operation _ _ _ _

end Library

namespace Sql.Patch

/-- Both forms of a patch store its values in the details of a book. -/
theorem forms_agree_library :
    (∀ entry ∈ Library.starred, entry.2.IsPatchValue "details" none) ∧
      (Entries.names Library.starred).Nodup ∧
      List.lookup "details" (Library.detailed Library.threeVotes) =
        some (some (.object Library.threeVotes)) ∧
      Scope.resolve [[.ofRow "book" (Library.detailed Library.threeVotes)]] none "details" =
        some (some (.object Library.threeVotes)) ∧
      Stored.members? (some (.object Library.threeVotes)) = some Library.threeVotes ∧
      Library.starred ≠ [] ∧
      let patch := ofEntries "details" none Library.starred
      let execute? assignments := Assignment.executeAll? Library.oneMoreVote (fun _ => none)
        [[.ofRow "book" (Library.detailed Library.threeVotes)]] assignments
        (Library.detailed Library.threeVotes)
      execute? patch.subscriptAssignments = execute? [patch.mergeAssignment] ∧
        execute? [patch.mergeAssignment] = some (Library.detailed
          [("votes", Json.ofUInt64 4), ("title", .string "Notes"), ("stars", Json.ofUInt64 5),
            ("note", .null)]) := by
  have distinct : (Entries.names Library.starred).Nodup := by decide
  have held : List.lookup "details" (Library.detailed Library.threeVotes) =
      some (some (.object Library.threeVotes)) := rfl
  have read : Scope.resolve [[.ofRow "book" (Library.detailed Library.threeVotes)]] none "details" =
      some (some (.object Library.threeVotes)) := rfl
  have touched : Library.starred ≠ [] := by simp [Library.starred]
  have agree := forms_agree Library.starred_isPatchValue distinct held read rfl (.inl touched)
    Library.oneMoreVote (fun _ => none) Library.looseDetails
  exact ⟨Library.starred_isPatchValue, distinct, held, read, rfl, touched, agree.1, rfl⟩

/-- A patch without keys leaves missing details missing in one form, and stores empty ones in the
other form.  The schema decides which form is chosen. -/
theorem forms_differ :
    let patch := ofEntries "details" none []
    let row : Row Stored := [("details", none)]
    let execute? assignments := Assignment.executeAll? Library.oneMoreVote (fun _ => none)
      [[.ofRow "book" row]] assignments row
    patch.mode Library.fullDetails = .subscript ∧ patch.mode Library.looseDetails = .merge ∧
      execute? (patch.assignments Library.fullDetails) = some [("details", none)] ∧
      execute? (patch.assignments Library.looseDetails) = some [("details", some (.object []))] :=
  ⟨rfl, rfl, rfl, rfl⟩

end Sql.Patch

end RelationalQuery
