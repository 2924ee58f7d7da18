/-!
# Truth values

The truth value of a condition may be unknown, because a value may be missing.  A row is kept only
where the condition is true.

Main definitions:

- `Truth` with `Truth.not`, `Truth.and` and `Truth.or`; `Truth.all` and `Truth.any` join lists.

Main results:

- `Truth.all_append`: the parts of a conjunction can be grouped in any way.
-/

namespace RelationalQuery.Sql

/-- The truth value of a condition. -/
inductive Truth where
  | no
  | unknown
  | yes
deriving DecidableEq, Repr

namespace Truth

/-- A truth value that is known. -/
def ofBool (holds : Bool) : Truth := if holds then .yes else .no

/-- The negation, which is unknown for an unknown value. -/
def not : Truth → Truth
  | .no => .yes
  | .unknown => .unknown
  | .yes => .no

/-- Both values are true; one that is false decides. -/
def and : Truth → Truth → Truth
  | .no, _ => .no
  | _, .no => .no
  | .yes, right => right
  | .unknown, _ => .unknown

/-- One of two values is true; one that is true decides. -/
def or : Truth → Truth → Truth
  | .yes, _ => .yes
  | _, .yes => .yes
  | .no, right => right
  | .unknown, _ => .unknown

/-- All values are true. -/
def all (truths : List Truth) : Truth := truths.foldr and .yes

/-- One of the values is true. -/
def any (truths : List Truth) : Truth := truths.foldr or .no

@[simp]
theorem all_nil : all [] = .yes :=
  rfl

/-- A conjunction is that of its first part with the others. -/
@[simp]
theorem all_cons (truth : Truth) (rest : List Truth) : all (truth :: rest) = truth.and (all rest) :=
  rfl

@[simp]
theorem any_nil : any [] = .no :=
  rfl

/-- A disjunction is that of its first part with the others. -/
@[simp]
theorem any_cons (truth : Truth) (rest : List Truth) : any (truth :: rest) = truth.or (any rest) :=
  rfl

@[simp]
theorem yes_and (truth : Truth) : yes.and truth = truth := by
  cases truth <;> rfl

/-- What is true adds nothing to a conjunction. -/
@[simp]
theorem and_yes (truth : Truth) : truth.and .yes = truth := by
  cases truth <;> rfl

@[simp]
theorem or_no (truth : Truth) : truth.or .no = truth := by
  cases truth <;> rfl

/-- Conjunctions are associative. -/
theorem and_assoc (a b c : Truth) : (a.and b).and c = a.and (b.and c) := by
  cases a <;> cases b <;> cases c <;> rfl

/-- Disjunctions are associative. -/
theorem or_assoc (a b c : Truth) : (a.or b).or c = a.or (b.or c) := by
  cases a <;> cases b <;> cases c <;> rfl

/-- A conjunction is true when both parts are. -/
theorem and_eq_yes_iff {a b : Truth} : a.and b = .yes ↔ a = .yes ∧ b = .yes := by
  cases a <;> cases b <;> decide

@[simp]
theorem ofBool_eq_yes_iff {holds : Bool} : ofBool holds = .yes ↔ holds = true := by
  cases holds <;> decide

@[simp]
theorem ofBool_ne_unknown {holds : Bool} : ofBool holds ≠ .unknown := by
  cases holds <;> decide

/-- A negation is true of what is known to be false. -/
theorem not_eq_yes_iff {a : Truth} : a.not = .yes ↔ a = .no := by
  cases a <;> decide

/-- The parts of a conjunction can be grouped in any way. -/
theorem all_append (left right : List Truth) : all (left ++ right) = (all left).and (all right) := by
  induction left with
  | nil => simp
  | cons truth rest ih => rw [List.cons_append, all_cons, all_cons, ih, and_assoc]

end Truth

end RelationalQuery.Sql
