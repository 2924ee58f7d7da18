import Mathlib.Data.List.Forall2
import RelationalQuery.Compilation

/-!
# Successful computations

Compilations, and the numberings inside them, thread a state and may fail.  This module opens the
successful ones step by step: what a compound computation returns is said by what its parts return.

Main definitions:

- `Succeeds` says that a computation without a state succeeds.
- `Returns` says that a computation succeeds with a value and leaves a state behind.
- `Enables` says that a computation succeeds from every state once another one succeeds from one,
  and `SucceedsIff` that it succeeds exactly if a condition holds, whatever the state.

Main results:

- `returns_bind` and its companions open every form of a successful computation.
- `forall₂_of_returns_mapM` and `returns_foldlM_induction` lift a fact about one step to a list.
-/

namespace RelationalQuery

variable {ε σ α β : Type}

/-! ## Computations that only fail -/

@[simp]
theorem bind_eq_ok_iff {x : Except ε α} {f : α → Except ε β} {b : β} :
    (x >>= f) = .ok b ↔ ∃ a, x = .ok a ∧ f a = .ok b := by
  cases x <;> simp [bind, Except.bind]

@[simp]
theorem map_eq_ok_iff {x : Except ε α} {f : α → β} {b : β} :
    (f <$> x) = .ok b ↔ ∃ a, x = .ok a ∧ f a = b := by
  cases x <;> simp [Functor.map, Except.map]

@[simp]
theorem pure_eq_ok_iff {a b : α} : (pure a : Except ε α) = .ok b ↔ a = b := by
  simp [pure, Except.pure]

@[simp]
theorem throw_ne_ok {e : ε} {a : α} : (throw e : Except ε α) ≠ .ok a := by
  simp [throw, throwThe, MonadExceptOf.throw]

/-- Of two lists that are related item by item, each item on the right has one on the left. -/
theorem exists_mem_of_forall₂ {R : α → β → Prop} {left : List α} {right : List β}
    (h : List.Forall₂ R left right) {b : β} (hb : b ∈ right) : ∃ a ∈ left, R a b := by
  induction h with
  | nil => simp at hb
  | cons hr _ ih =>
    rcases List.mem_cons.1 hb with rfl | hb
    · exact ⟨_, List.mem_cons_self, hr⟩
    · obtain ⟨a, ha, hr⟩ := ih hb
      exact ⟨a, List.mem_cons_of_mem _ ha, hr⟩

/-- Of two lists that agree item by item, an item of the one exists if one of the other does. -/
theorem exists_mem_iff_of_forall₂ {P : α → Prop} {Q : β → Prop} {left : List α} {right : List β}
    (h : List.Forall₂ (fun a b => P a ↔ Q b) left right) :
    (∃ a ∈ left, P a) ↔ ∃ b ∈ right, Q b := by
  induction h with
  | nil => simp
  | cons hfirst _ ih => simp only [List.mem_cons, exists_eq_or_imp, hfirst, ih]

/-- A list of checks succeeds when each of them does. -/
theorem forall₂_of_mapM_eq_ok {f : α → Except ε β} {items : List α} {results : List β}
    (h : items.mapM f = .ok results) : List.Forall₂ (fun a b => f a = .ok b) items results := by
  induction items generalizing results with
  | nil =>
    rw [List.mapM_nil, pure_eq_ok_iff] at h
    rw [← h]
    exact .nil
  | cons item rest ih =>
    rw [List.mapM_cons] at h
    simp only [bind_eq_ok_iff, pure_eq_ok_iff] at h
    obtain ⟨result, hitem, others, hrest, rfl⟩ := h
    exact .cons hitem (ih hrest)

/-- A list of checks without results succeeds exactly if each of them does. -/
theorem forM_eq_ok_iff {f : α → Except ε Unit} {items : List α} :
    items.forM f = .ok () ↔ ∀ item ∈ items, f item = .ok () := by
  induction items with
  | nil => simp
  | cons item rest ih =>
    rw [List.forM, bind_eq_ok_iff, List.forall_mem_cons, ← ih]
    constructor
    · rintro ⟨⟨⟩, hitem, hrest⟩
      exact ⟨hitem, hrest⟩
    · rintro ⟨hitem, hrest⟩
      exact ⟨(), hitem, hrest⟩

/-- A computation succeeds with some value. -/
def Succeeds (computation : Except ε α) : Prop := ∃ a, computation = .ok a

@[simp]
theorem succeeds_ok {a : α} : Succeeds (.ok a : Except ε α) := ⟨a, rfl⟩

@[simp]
theorem succeeds_pure {a : α} : Succeeds (pure a : Except ε α) := ⟨a, rfl⟩

@[simp]
theorem not_succeeds_error {e : ε} : ¬ Succeeds (.error e : Except ε α) := by
  simp [Succeeds]

/-- Two computations in a row succeed if the second one does with the value of the first. -/
theorem succeeds_bind {x : Except ε α} {f : α → Except ε β} :
    Succeeds (x >>= f) ↔ ∃ a, x = .ok a ∧ Succeeds (f a) := by
  simp only [Succeeds, bind_eq_ok_iff]
  exact ⟨fun ⟨b, a, hx, hf⟩ => ⟨a, hx, b, hf⟩, fun ⟨a, hx, b, hf⟩ => ⟨b, a, hx, hf⟩⟩

/-- If the success of the second computation does not depend on the first one, both have to
succeed. -/
theorem succeeds_bind_iff {x : Except ε α} {f : α → Except ε β} {P : Prop}
    (h : ∀ a, Succeeds (f a) ↔ P) : Succeeds (x >>= f) ↔ Succeeds x ∧ P := by
  rw [succeeds_bind]
  simp only [h]
  exact exists_and_right

theorem succeeds_bind_pure {x : Except ε α} {g : α → β} :
    Succeeds (x >>= fun a => pure (g a)) ↔ Succeeds x :=
  (succeeds_bind_iff fun _ => iff_of_true succeeds_pure trivial).trans (iff_of_eq (and_true _))

@[simp]
theorem succeeds_map {x : Except ε α} {g : α → β} : Succeeds (g <$> x) ↔ Succeeds x := by
  rw [← bind_pure_comp]
  exact succeeds_bind_pure

/-- A list of computations succeeds exactly if each of them does. -/
theorem succeeds_mapM {f : α → Except ε β} {items : List α} :
    Succeeds (items.mapM f) ↔ ∀ item ∈ items, Succeeds (f item) := by
  induction items with
  | nil => simp
  | cons item rest ih =>
    rw [List.mapM_cons, List.forall_mem_cons, ← ih]
    exact succeeds_bind_iff fun _ => succeeds_bind_pure

/-- A list of checks succeeds exactly if each of them does. -/
theorem succeeds_forM {f : α → Except ε Unit} {items : List α} :
    Succeeds (items.forM f) ↔ ∀ item ∈ items, Succeeds (f item) := by
  have hunit : ∀ x : Except ε Unit, Succeeds x ↔ x = .ok () := fun x =>
    ⟨fun ⟨_, h⟩ => h, fun h => ⟨(), h⟩⟩
  simp only [hunit]
  exact forM_eq_ok_iff

/-! ## Computations with a state -/

/-- The result of a computation from a state, and the state that it leaves behind. -/
def outcome (computation : ExceptT ε (StateM σ) α) (state : σ) : Except ε α × σ :=
  computation.run.run state

/-- From a state a computation succeeds with a value and leaves a state behind. -/
def Returns (computation : ExceptT ε (StateM σ) α) (state : σ) (value : α) (next : σ) : Prop :=
  outcome computation state = (.ok value, next)

variable {s t : σ} {a : α} {b : β}

@[simp]
theorem returns_pure {c : α} :
    Returns (pure a : ExceptT ε (StateM σ) α) s c t ↔ c = a ∧ t = s := by
  change ((Except.ok a : Except ε α), s) = (.ok c, t) ↔ _
  simp [eq_comm]

@[simp]
theorem not_returns_throw {e : ε} : ¬ Returns (throw e : ExceptT ε (StateM σ) α) s a t := by
  change ((Except.error e : Except ε α), s) ≠ (.ok a, t)
  simp

@[simp]
theorem returns_monadLift {x : Except ε α} :
    Returns (monadLift x : ExceptT ε (StateM σ) α) s a t ↔ x = .ok a ∧ t = s := by
  change (x, s) = (.ok a, t) ↔ _
  simp [eq_comm]

/-- The second computation goes on from the state that the first one leaves behind. -/
theorem outcome_bind {x : ExceptT ε (StateM σ) α} {f : α → ExceptT ε (StateM σ) β} :
    outcome (x >>= f) s =
      match outcome x s with
      | (.ok a, r) => outcome (f a) r
      | (.error e, r) => (.error e, r) := by
  change (ExceptT.bindCont f (outcome x s).1).run (outcome x s).2 = _
  rcases outcome x s with ⟨_ | _, _⟩ <;> rfl

/-- Two steps return what the second returns after the first, over some state between them. -/
@[simp]
theorem returns_bind {x : ExceptT ε (StateM σ) α} {f : α → ExceptT ε (StateM σ) β} :
    Returns (x >>= f) s b t ↔ ∃ a r, Returns x s a r ∧ Returns (f a) r b t := by
  unfold Returns
  rw [outcome_bind]
  rcases outcome x s with ⟨e | a, r⟩
  · simp
  · simp only [Prod.mk.injEq, Except.ok.injEq]
    constructor
    · intro h
      exact ⟨a, r, ⟨rfl, rfl⟩, h⟩
    · rintro ⟨_, _, ⟨rfl, rfl⟩, h⟩
      exact h

@[simp]
theorem returns_map {x : ExceptT ε (StateM σ) α} {f : α → β} :
    Returns (f <$> x) s b t ↔ ∃ a, Returns x s a t ∧ f a = b := by
  rw [← bind_pure_comp]
  simp only [returns_bind, returns_pure]
  constructor
  · rintro ⟨a, _, h, rfl, rfl⟩
    exact ⟨a, h, rfl⟩
  · rintro ⟨a, h, rfl⟩
    exact ⟨a, t, h, rfl, rfl⟩

/-- A computation is taken step by step over a list: what holds of each item and its result holds
along the whole list. -/
theorem forall₂_of_returns_mapM {f : α → ExceptT ε (StateM σ) β} {R : α → β → Prop}
    {items : List α} {results : List β} (h : Returns (items.mapM f) s results t)
    (step : ∀ item ∈ items, ∀ s b t, Returns (f item) s b t → R item b) :
    List.Forall₂ R items results := by
  induction items generalizing s results with
  | nil =>
    rw [List.mapM_nil, returns_pure] at h
    rw [h.1]
    exact .nil
  | cons item rest ih =>
    rw [List.mapM_cons] at h
    simp only [returns_bind, returns_pure] at h
    obtain ⟨b, r, hitem, others, u, hrest, rfl, rfl⟩ := h
    refine .cons (step item (by simp) _ _ _ hitem) (ih hrest ?_)
    intro other hother
    exact step other (by simp [hother])

/-- What no step over a list changes in the state is not changed by all of them. -/
theorem state_of_returns_mapM {γ : Type} (view : σ → γ) {f : α → ExceptT ε (StateM σ) β}
    {items : List α} {results : List β} (h : Returns (items.mapM f) s results t)
    (step : ∀ item ∈ items, ∀ s b t, Returns (f item) s b t → view t = view s) :
    view t = view s := by
  induction items generalizing s results with
  | nil =>
    rw [List.mapM_nil, returns_pure] at h
    rw [h.2]
  | cons item rest ih =>
    rw [List.mapM_cons] at h
    simp only [returns_bind, returns_pure] at h
    obtain ⟨b, r, hitem, others, u, hrest, rfl, rfl⟩ := h
    have hfirst := step item (by simp) _ _ _ hitem
    exact (ih hrest fun other hother => step other (by simp [hother])).trans hfirst

/-- What every step over a list gives holds of all results. -/
theorem forall_of_returns_mapM {f : α → ExceptT ε (StateM σ) β} {P : β → Prop} {items : List α}
    {results : List β} (h : Returns (items.mapM f) s results t)
    (step : ∀ item ∈ items, ∀ s b t, Returns (f item) s b t → P b) : ∀ b ∈ results, P b := by
  intro b hb
  obtain ⟨_, -, hstep⟩ :=
    exists_mem_of_forall₂ (forall₂_of_returns_mapM (R := fun _ b => P b) h step) hb
  exact hstep

/-- What every step over a list gives for each of its results holds of all of them. -/
theorem forall_flatten_of_returns_mapM {f : α → ExceptT ε (StateM σ) (List β)} {P : β → Prop}
    {items : List α} {results : List (List β)} (h : Returns (items.mapM f) s results t)
    (step : ∀ item ∈ items, ∀ s bs t, Returns (f item) s bs t → ∀ b ∈ bs, P b) :
    ∀ b ∈ results.flatten, P b := by
  intro b hb
  obtain ⟨part, hpart, hmem⟩ := List.mem_flatten.1 hb
  exact forall_of_returns_mapM (P := fun bs => ∀ b ∈ bs, P b) h step part hpart b hmem

/-- A computation that succeeds along a list succeeds for each item. -/
theorem returns_of_mem_mapM {f : α → ExceptT ε (StateM σ) β} {items : List α} {results : List β}
    (h : Returns (items.mapM f) s results t) {item : α} (mem : item ∈ items) :
    ∃ r b u, Returns (f item) r b u := by
  induction items generalizing s t results with
  | nil => simp at mem
  | cons first rest ih =>
    rw [List.mapM_cons] at h
    simp only [returns_bind, returns_pure] at h
    obtain ⟨_, _, hfirst, _, _, hrest, -⟩ := h
    rcases List.mem_cons.1 mem with rfl | hmem
    · exact ⟨_, _, _, hfirst⟩
    · exact ih hrest hmem

/-- A fold that succeeds along a list succeeds for each item. -/
theorem returns_of_mem_foldlM {f : β → α → ExceptT ε (StateM σ) β} {items : List α}
    {start result : β} (h : Returns (items.foldlM f start) s result t) {item : α}
    (mem : item ∈ items) : ∃ b r c u, Returns (f b item) r c u := by
  induction items generalizing s start with
  | nil => simp at mem
  | cons first rest ih =>
    rw [List.foldlM_cons, returns_bind] at h
    obtain ⟨_, _, hfirst, hrest⟩ := h
    rcases List.mem_cons.1 mem with rfl | hmem
    · exact ⟨_, _, _, _, hfirst⟩
    · exact ih hrest hmem

/-- What every step of a fold keeps holds of its result. -/
theorem returns_foldlM_induction {f : β → α → ExceptT ε (StateM σ) β} {P : β → Prop}
    {items : List α} {start result : β} (h : Returns (items.foldlM f start) s result t)
    (initial : P start)
    (step : ∀ item ∈ items, ∀ b s c t, P b → Returns (f b item) s c t → P c) : P result := by
  induction items generalizing start s with
  | nil =>
    rw [List.foldlM_nil, returns_pure] at h
    rw [h.1]
    exact initial
  | cons item rest ih =>
    rw [List.foldlM_cons, returns_bind] at h
    obtain ⟨b, r, hitem, hrest⟩ := h
    refine ih hrest (step item (by simp) _ _ _ _ initial hitem) ?_
    intro other hother
    exact step other (by simp [hother])

/-- What the steps of a fold do one after the other, the fold does as a whole. -/
theorem returns_foldlM_compose {f : β → α → ExceptT ε (StateM σ) β}
    {R : List α → β × σ → β × σ → Prop} {items : List α} {start result : β}
    (h : Returns (items.foldlM f start) s result t) (none : ∀ state, R [] state state)
    (compose : ∀ item rest first middle last,
      R [item] first middle → R rest middle last → R (item :: rest) first last)
    (step : ∀ item ∈ items, ∀ b s c t, Returns (f b item) s c t → R [item] (b, s) (c, t)) :
    R items (start, s) (result, t) := by
  induction items generalizing start s with
  | nil =>
    rw [List.foldlM_nil, returns_pure] at h
    rw [h.1, h.2]
    exact none _
  | cons item rest ih =>
    rw [List.foldlM_cons, returns_bind] at h
    obtain ⟨b, r, hitem, hrest⟩ := h
    refine compose item rest _ _ _ (step item (by simp) _ _ _ _ hitem) (ih hrest ?_)
    intro other hother
    exact step other (by simp [hother])

/-! ## Success from every state -/

/-- If one computation succeeds from some state, then another one does from every state. -/
def Enables (first : ExceptT ε (StateM σ) α) (second : ExceptT ε (StateM σ) β) : Prop :=
  ∀ s a t, Returns first s a t → ∀ r, ∃ b u, Returns second r b u

theorem enables_pure {first : ExceptT ε (StateM σ) α} : Enables first (pure b) :=
  fun _ _ _ _ r => ⟨b, r, returns_pure.2 ⟨rfl, rfl⟩⟩

theorem enables_throw {e : ε} {second : ExceptT ε (StateM σ) β} :
    Enables (throw e : ExceptT ε (StateM σ) α) second :=
  fun _ _ _ h => absurd h not_returns_throw

theorem enables_monadLift {x : Except ε α} {y : Except ε β} (h : Succeeds x → Succeeds y) :
    Enables (monadLift x : ExceptT ε (StateM σ) α) (monadLift y : ExceptT ε (StateM σ) β) := by
  intro _ a _ hx r
  obtain ⟨b, hy⟩ := h ⟨a, (returns_monadLift.1 hx).1⟩
  exact ⟨b, r, returns_monadLift.2 ⟨hy, rfl⟩⟩

theorem Enables.bind {γ δ : Type} {x : ExceptT ε (StateM σ) α} {y : ExceptT ε (StateM σ) β}
    {f : α → ExceptT ε (StateM σ) γ} {g : β → ExceptT ε (StateM σ) δ} (head : Enables x y)
    (tail : ∀ a b, Enables (f a) (g b)) : Enables (x >>= f) (y >>= g) := by
  intro s c t h r
  obtain ⟨a, _, hx, hf⟩ := returns_bind.1 h
  obtain ⟨b, u, hy⟩ := head _ _ _ hx r
  obtain ⟨d, v, hg⟩ := tail a b _ _ _ hf u
  exact ⟨d, v, returns_bind.2 ⟨b, u, hy, hg⟩⟩

/-- What is taken from the same computation without a state is the same. -/
theorem Enables.bind_monadLift {γ δ : Type} {x : Except ε α} {f : α → ExceptT ε (StateM σ) γ}
    {g : α → ExceptT ε (StateM σ) δ} (tail : ∀ a, x = .ok a → Enables (f a) (g a)) :
    Enables ((monadLift x : ExceptT ε (StateM σ) α) >>= f) (monadLift x >>= g) := by
  intro s c t h r
  obtain ⟨a, _, hlifted, hf⟩ := returns_bind.1 h
  have hx := (returns_monadLift.1 hlifted).1
  obtain ⟨d, v, hg⟩ := tail a hx _ _ _ hf r
  exact ⟨d, v, returns_bind.2 ⟨a, r, returns_monadLift.2 ⟨hx, rfl⟩, hg⟩⟩

/-- A computation succeeds exactly if a condition holds, whatever the state. -/
def SucceedsIff (computation : ExceptT ε (StateM σ) α) (P : Prop) : Prop :=
  (∀ s a t, Returns computation s a t → P) ∧ (P → ∀ s, ∃ a t, Returns computation s a t)

theorem succeedsIff_pure : SucceedsIff (pure a : ExceptT ε (StateM σ) α) True :=
  ⟨fun _ _ _ _ => trivial, fun _ s => ⟨a, s, returns_pure.2 ⟨rfl, rfl⟩⟩⟩

theorem succeedsIff_throw {e : ε} : SucceedsIff (throw e : ExceptT ε (StateM σ) α) False :=
  ⟨fun _ _ _ h => not_returns_throw h, False.elim⟩

theorem succeedsIff_monadLift {x : Except ε α} :
    SucceedsIff (monadLift x : ExceptT ε (StateM σ) α) (Succeeds x) := by
  constructor
  · intro _ a _ h
    exact ⟨a, (returns_monadLift.1 h).1⟩
  · rintro ⟨a, hx⟩ s
    exact ⟨a, s, returns_monadLift.2 ⟨hx, rfl⟩⟩

/-- If success depends on neither the state nor an index, then each computation of a family succeeds
exactly if one of them does once. -/
theorem Enables.succeedsIff {γ : Type} (family : γ → ExceptT ε (StateM σ) α)
    (h : ∀ i j, Enables (family i) (family j)) (j : γ) :
    SucceedsIff (family j) (∃ i s a t, Returns (family i) s a t) := by
  constructor
  · intro s a t hreturns
    exact ⟨j, s, a, t, hreturns⟩
  · rintro ⟨i, s, a, t, hreturns⟩
    exact h i j s a t hreturns

namespace SucceedsIff

variable {x : ExceptT ε (StateM σ) α} {f : α → ExceptT ε (StateM σ) β} {P Q : Prop}

theorem congr (h : SucceedsIff x P) (equivalent : P ↔ Q) : SucceedsIff x Q := by
  rwa [← propext equivalent]

/-- Two conditions for the success of one computation are equivalent. -/
theorem iff (h : SucceedsIff x P) (other : SucceedsIff x Q) (state : σ) : P ↔ Q := by
  constructor
  · intro hP
    obtain ⟨a, t, hx⟩ := h.2 hP state
    exact other.1 _ _ _ hx
  · intro hQ
    obtain ⟨a, t, hx⟩ := other.2 hQ state
    exact h.1 _ _ _ hx

/-- If the success of the second computation does not depend on the first one, both have to
succeed. -/
theorem bind (head : SucceedsIff x P) (tail : ∀ a, SucceedsIff (f a) Q) :
    SucceedsIff (x >>= f) (P ∧ Q) := by
  constructor
  · intro s b t h
    obtain ⟨a, r, hx, hf⟩ := returns_bind.1 h
    exact ⟨head.1 _ _ _ hx, (tail a).1 _ _ _ hf⟩
  · rintro ⟨hP, hQ⟩ s
    obtain ⟨a, r, hx⟩ := head.2 hP s
    obtain ⟨b, t, hf⟩ := (tail a).2 hQ r
    exact ⟨b, t, returns_bind.2 ⟨a, r, hx, hf⟩⟩

theorem ite {y : ExceptT ε (StateM σ) α} {c : Prop} [Decidable c] (first : c → SucceedsIff x P)
    (second : ¬ c → SucceedsIff y P) : SucceedsIff (if c then x else y) P := by
  split
  · exact first ‹_›
  · exact second ‹_›

theorem bind_pure (head : SucceedsIff x P) {g : α → β} :
    SucceedsIff (x >>= fun a => pure (g a)) P :=
  (head.bind fun _ => succeedsIff_pure).congr (iff_of_eq (and_true P))

theorem bind_monadLift {x : Except ε α} {P : α → Prop}
    (tail : ∀ a, x = .ok a → SucceedsIff (f a) (P a)) :
    SucceedsIff ((monadLift x : ExceptT ε (StateM σ) α) >>= f) (∃ a, x = .ok a ∧ P a) := by
  constructor
  · intro s b t h
    obtain ⟨a, r, hlifted, hf⟩ := returns_bind.1 h
    have hx := (returns_monadLift.1 hlifted).1
    exact ⟨a, hx, (tail a hx).1 _ _ _ hf⟩
  · rintro ⟨a, hx, hP⟩ s
    obtain ⟨b, t, hf⟩ := (tail a hx).2 hP s
    exact ⟨b, t, returns_bind.2 ⟨a, s, returns_monadLift.2 ⟨hx, rfl⟩, hf⟩⟩

/-- A list of computations succeeds exactly if each of them does. -/
theorem mapM {items : List α} {P : α → Prop} (step : ∀ item ∈ items, SucceedsIff (f item) (P item)) :
    SucceedsIff (items.mapM f) (∀ item ∈ items, P item) := by
  induction items with
  | nil => exact succeedsIff_pure.congr (by simp)
  | cons item rest ih =>
    rw [List.forall_mem_cons] at step
    simp only [List.mapM_cons, List.forall_mem_cons]
    exact step.1.bind fun _ => (ih step.2).bind_pure

end SucceedsIff

/-! ## Numberings and what is run inside others -/

/-- A fresh name is the one of the current number, and the number grows by one. -/
@[simp]
theorem returns_fresh {stem name : String} {n m : Nat} :
    Returns (Numbering.fresh stem) n name m ↔ name = numberedName stem n ∧ m = n + 1 := by
  change ((Except.ok (numberedName stem n) : Except QueryError String), n + 1) = (.ok name, m) ↔ _
  simp [eq_comm]

@[simp]
theorem returns_inProjections {numbering : Numbering α} {aliases next : Aliases} :
    Returns (Naming.inProjections numbering) aliases a next ↔
      ∃ m, Returns numbering aliases.projections a m ∧ next = { aliases with projections := m } := by
  change ((outcome numbering aliases.projections).1,
    { aliases with projections := (outcome numbering aliases.projections).2 }) = (.ok a, next) ↔ _
  unfold Returns
  rcases outcome numbering aliases.projections with ⟨result, m⟩
  simp only [Prod.mk.injEq]
  constructor
  · rintro ⟨rfl, rfl⟩
    exact ⟨m, ⟨rfl, rfl⟩, rfl⟩
  · rintro ⟨_, ⟨rfl, rfl⟩, rfl⟩
    exact ⟨rfl, rfl⟩

@[simp]
theorem returns_inFilters {numbering : Numbering α} {aliases next : Aliases} :
    Returns (Naming.inFilters numbering) aliases a next ↔
      ∃ m, Returns numbering aliases.filters a m ∧ next = { aliases with filters := m } := by
  change ((outcome numbering aliases.filters).1,
    { aliases with filters := (outcome numbering aliases.filters).2 }) = (.ok a, next) ↔ _
  unfold Returns
  rcases outcome numbering aliases.filters with ⟨result, m⟩
  simp only [Prod.mk.injEq]
  constructor
  · rintro ⟨rfl, rfl⟩
    exact ⟨m, ⟨rfl, rfl⟩, rfl⟩
  · rintro ⟨_, ⟨rfl, rfl⟩, rfl⟩
    exact ⟨rfl, rfl⟩

theorem enables_fresh {first : Numbering α} {stem : String} :
    Enables first (Numbering.fresh stem) :=
  fun _ _ _ _ n => ⟨numberedName stem n, n + 1, returns_fresh.2 ⟨rfl, rfl⟩⟩

theorem succeedsIff_fresh {stem : String} : SucceedsIff (Numbering.fresh stem) True :=
  ⟨fun _ _ _ _ => trivial, fun _ _ => ⟨_, _, returns_fresh.2 ⟨rfl, rfl⟩⟩⟩

theorem SucceedsIff.inProjections {numbering : Numbering α} {P : Prop}
    (h : SucceedsIff numbering P) : SucceedsIff (Naming.inProjections numbering) P := by
  constructor
  · intro _ _ _ hreturns
    obtain ⟨_, hnumbering, -⟩ := returns_inProjections.1 hreturns
    exact h.1 _ _ _ hnumbering
  · intro hP s
    obtain ⟨a, m, hnumbering⟩ := h.2 hP s.projections
    exact ⟨a, _, returns_inProjections.2 ⟨m, hnumbering, rfl⟩⟩

theorem SucceedsIff.inFilters {numbering : Numbering α} {P : Prop}
    (h : SucceedsIff numbering P) : SucceedsIff (Naming.inFilters numbering) P := by
  constructor
  · intro _ _ _ hreturns
    obtain ⟨_, hnumbering, -⟩ := returns_inFilters.1 hreturns
    exact h.1 _ _ _ hnumbering
  · intro hP s
    obtain ⟨a, m, hnumbering⟩ := h.2 hP s.filters
    exact ⟨a, _, returns_inFilters.2 ⟨m, hnumbering, rfl⟩⟩

theorem Enables.inProjections {first : Numbering α} {second : Numbering β}
    (h : Enables first second) :
    Enables (Naming.inProjections first) (Naming.inProjections second) := by
  intro _ a _ hfirst r
  obtain ⟨_, hfirst, -⟩ := returns_inProjections.1 hfirst
  obtain ⟨b, m, hsecond⟩ := h _ _ _ hfirst r.projections
  exact ⟨b, _, returns_inProjections.2 ⟨m, hsecond, rfl⟩⟩

theorem Enables.inFilters {first : Numbering α} {second : Numbering β}
    (h : Enables first second) : Enables (Naming.inFilters first) (Naming.inFilters second) := by
  intro _ a _ hfirst r
  obtain ⟨_, hfirst, -⟩ := returns_inFilters.1 hfirst
  obtain ⟨b, m, hsecond⟩ := h _ _ _ hfirst r.filters
  exact ⟨b, _, returns_inFilters.2 ⟨m, hsecond, rfl⟩⟩

/-- A numbering inside a compilation changes nothing but the aliases. -/
theorem returns_naming_iff {named : Naming α} {progress next : Progress} :
    Returns (Compilation.naming named) progress a next ↔
      ∃ aliases, Returns named progress.aliases a aliases ∧ next = { progress with aliases } := by
  change ((outcome named progress.aliases).1,
    { progress with aliases := (outcome named progress.aliases).2 }) = (.ok a, next) ↔ _
  unfold Returns
  rcases outcome named progress.aliases with ⟨result, aliases⟩
  simp only [Prod.mk.injEq]
  constructor
  · rintro ⟨rfl, rfl⟩
    exact ⟨aliases, ⟨rfl, rfl⟩, rfl⟩
  · rintro ⟨_, ⟨rfl, rfl⟩, rfl⟩
    exact ⟨rfl, rfl⟩

/-- Naming inside a compilation is a run over its aliases. -/
theorem returns_naming {named : Naming α} {progress next : Progress}
    (h : Returns (Compilation.naming named) progress a next) :
    ∃ aliases, Returns named progress.aliases a aliases := by
  obtain ⟨aliases, hnamed, -⟩ := returns_naming_iff.1 h
  exact ⟨aliases, hnamed⟩

theorem returns_naming_of {named : Naming α} {progress : Progress} {aliases : Aliases}
    (h : Returns named progress.aliases a aliases) :
    Returns (Compilation.naming named) progress a { progress with aliases } :=
  returns_naming_iff.2 ⟨aliases, h, rfl⟩

end RelationalQuery
