import RelationalQuery.Proofs.Computation

/-!
# Failed computations

What a compound computation can fail with is said by what its parts can fail with.  A computation
with a state leaves the state behind in which it failed, so a property of its failures may speak of
both.

Main definitions:

- `ErrsOnly` says that every error of a computation without a state has a property.
- `FailsOnly` says that a property holds of every error of a computation with a state, and of the
  state that is left behind.

Main results:

- `ErrsOnly.bind`, `FailsOnly.bind` and their companions: one rule for every form of computation.
- `FailsOnly.mapM` and `FailsOnly.foldlM` lift a fact about one step to a list.
-/

namespace RelationalQuery

variable {ε σ α β : Type}

/-! ## Computations that only fail -/

/-- Every error of a computation has a property. -/
def ErrsOnly (P : ε → Prop) (computation : Except ε α) : Prop :=
  ∀ e, computation = .error e → P e

section

variable {P Q : ε → Prop} {x : Except ε α} {f : α → Except ε β}

theorem errsOnly_ok {a : α} : ErrsOnly P (.ok a : Except ε α) := nofun

theorem errsOnly_pure {a : α} : ErrsOnly P (pure a : Except ε α) := nofun

theorem errsOnly_error {e : ε} (h : P e) : ErrsOnly P (.error e : Except ε α) := by
  rintro _ ⟨⟩
  exact h

/-- A computation that succeeds has no errors. -/
theorem errsOnly_of_succeeds (h : Succeeds x) : ErrsOnly P x := by
  obtain ⟨a, rfl⟩ := h
  exact errsOnly_ok

/-- What fails only by some errors fails only by more of them. -/
theorem ErrsOnly.mono (h : ErrsOnly P x) (imp : ∀ e, P e → Q e) : ErrsOnly Q x :=
  fun e he => imp e (h e he)

/-- The second computation is only reached with a value of the first one. -/
theorem ErrsOnly.bind (head : ErrsOnly P x) (tail : ∀ a, x = .ok a → ErrsOnly P (f a)) :
    ErrsOnly P (x >>= f) := by
  cases x with
  | error e => exact errsOnly_error (head e rfl)
  | ok a => exact tail a rfl

theorem ErrsOnly.bind_pure {g : α → β} (h : ErrsOnly P x) :
    ErrsOnly P (x >>= fun a => pure (g a)) :=
  h.bind fun _ _ => errsOnly_pure

theorem ErrsOnly.map {g : α → β} (h : ErrsOnly P x) : ErrsOnly P (g <$> x) := by
  rw [← bind_pure_comp]
  exact h.bind_pure

/-- A list of computations has only errors of its items. -/
theorem ErrsOnly.mapM {items : List α} (step : ∀ item ∈ items, ErrsOnly P (f item)) :
    ErrsOnly P (items.mapM f) := by
  induction items with
  | nil => exact errsOnly_pure
  | cons item rest ih =>
    rw [List.forall_mem_cons] at step
    rw [List.mapM_cons]
    exact step.1.bind fun _ _ => (ih step.2).bind_pure

/-- A list of checks has only errors of its items. -/
theorem ErrsOnly.forM {items : List α} {f : α → Except ε Unit}
    (step : ∀ item ∈ items, ErrsOnly P (f item)) : ErrsOnly P (items.forM f) := by
  induction items with
  | nil => exact errsOnly_pure
  | cons item rest ih =>
    rw [List.forall_mem_cons] at step
    exact step.1.bind fun _ _ => ih step.2

end

/-! ## Computations with a state -/

/-- From every state, a computation that fails has an error and leaves a state behind of which a
property holds. -/
def FailsOnly (P : ε → σ → Prop) (computation : ExceptT ε (StateM σ) α) : Prop :=
  ∀ s e t, outcome computation s = (.error e, t) → P e t

section

variable {P Q : ε → σ → Prop} {x : ExceptT ε (StateM σ) α} {f : α → ExceptT ε (StateM σ) β}

theorem failsOnly_pure {a : α} : FailsOnly P (pure a : ExceptT ε (StateM σ) α) :=
  fun _ _ _ h => nomatch (Prod.mk.inj h).1

theorem failsOnly_throw {e : ε} (h : ∀ s, P e s) :
    FailsOnly P (throw e : ExceptT ε (StateM σ) α) := by
  intro s _ _ hthrown
  cases hthrown
  exact h s

theorem failsOnly_monadLift {P : ε → Prop} {x : Except ε α} (h : ErrsOnly P x) :
    FailsOnly (fun e _ => P e) (monadLift x : ExceptT ε (StateM σ) α) :=
  fun _ e _ hlifted => h e (Prod.mk.inj hlifted).1

theorem FailsOnly.mono (h : FailsOnly P x) (imp : ∀ e s, P e s → Q e s) : FailsOnly Q x :=
  fun s e t he => imp e t (h s e t he)

/-- The second computation is only reached with a value of the first one. -/
theorem FailsOnly.bind (head : FailsOnly P x)
    (tail : ∀ a s t, Returns x s a t → FailsOnly P (f a)) : FailsOnly P (x >>= f) := by
  intro s e t h
  rw [outcome_bind] at h
  rcases hx : outcome x s with ⟨e' | a, r⟩
  · rw [hx] at h
    obtain ⟨herror, rfl⟩ := Prod.mk.inj h
    obtain rfl := Except.error.inj herror
    exact head s _ r hx
  · rw [hx] at h
    exact tail a s r hx r e t h

/-- What is taken from a computation without a state is one of its values. -/
theorem FailsOnly.bind_monadLift {P : ε → Prop} {x : Except ε α} (head : ErrsOnly P x)
    (tail : ∀ a, x = .ok a → FailsOnly (fun e _ => P e) (f a)) :
    FailsOnly (fun e _ => P e) ((monadLift x : ExceptT ε (StateM σ) α) >>= f) :=
  (failsOnly_monadLift head).bind fun a _ _ ha => tail a (returns_monadLift.1 ha).1

/-- A list of computations fails only where one of its items does. -/
theorem FailsOnly.mapM {items : List α} (step : ∀ item ∈ items, FailsOnly P (f item)) :
    FailsOnly P (items.mapM f) := by
  induction items with
  | nil => exact failsOnly_pure
  | cons item rest ih =>
    rw [List.forall_mem_cons] at step
    rw [List.mapM_cons]
    exact step.1.bind fun _ _ _ _ => (ih step.2).bind fun _ _ _ _ => failsOnly_pure

/-- A fold fails only where one of its steps does. -/
theorem FailsOnly.foldlM {f : β → α → ExceptT ε (StateM σ) β} {items : List α} {start : β}
    (step : ∀ item ∈ items, ∀ b, FailsOnly P (f b item)) : FailsOnly P (items.foldlM f start) := by
  induction items generalizing start with
  | nil => exact failsOnly_pure
  | cons item rest ih =>
    rw [List.forall_mem_cons] at step
    rw [List.foldlM_cons]
    exact (step.1 start).bind fun _ _ _ _ => ih step.2

end

/-! ## Numberings and what is run inside others -/

section

variable {P : QueryError → Prop}

theorem failsOnly_fresh {stem : String} {P : QueryError → Nat → Prop} :
    FailsOnly P (Numbering.fresh stem) :=
  fun _ _ _ h => nomatch (Prod.mk.inj h).1

theorem FailsOnly.inProjections {numbering : Numbering α}
    (h : FailsOnly (fun e _ => P e) numbering) :
    FailsOnly (fun e _ => P e) (Naming.inProjections numbering) := by
  intro aliases e _ hfailed
  exact h aliases.projections e (outcome numbering aliases.projections).2
    (Prod.ext (Prod.mk.inj hfailed).1 rfl)

theorem FailsOnly.inFilters {numbering : Numbering α} (h : FailsOnly (fun e _ => P e) numbering) :
    FailsOnly (fun e _ => P e) (Naming.inFilters numbering) := by
  intro aliases e _ hfailed
  exact h aliases.filters e (outcome numbering aliases.filters).2
    (Prod.ext (Prod.mk.inj hfailed).1 rfl)

theorem FailsOnly.naming {named : Naming α} (h : FailsOnly (fun e _ => P e) named) :
    FailsOnly (fun e _ => P e) (Compilation.naming named) := by
  intro progress e _ hfailed
  exact h progress.aliases e (outcome named progress.aliases).2
    (Prod.ext (Prod.mk.inj hfailed).1 rfl)

end

/-- A check that fails is the last one that is noted, and the validator refused the record. -/
theorem failsOnly_validate {validator : Validator} {record : Members} {schema : ObjectSchema}
    {path : String} {mode : ValidationMode} :
    FailsOnly (fun e next => validator record schema path mode = .error e ∧
        next.calls.getLast? = some ⟨path, mode, record, schema⟩)
      (Compilation.validate validator record schema path mode) := by
  intro progress e next hfailed
  obtain ⟨hrefused, rfl⟩ := Prod.mk.inj hfailed
  exact ⟨hrefused, List.getLast?_concat⟩

theorem failsOnly_emit {event : Event} {P : QueryError → Progress → Prop} :
    FailsOnly P (Compilation.emit event) :=
  fun _ _ _ h => nomatch (Prod.mk.inj h).1

end RelationalQuery
