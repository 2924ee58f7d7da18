import Mathlib.Data.List.Nodup
import RelationalQuery.Json.Reader

/-!
# Objects without repeated names

An object that is read from a text has every name once: of members with one name the last value
stands in the first place.

Main definitions:

- `Json.hasDistinctNames` tells whether no object inside a value repeats a name.

Main results:

- `Json.hasDistinctNames_of_ofText?`: a value that is read from a text has no such object.
-/

namespace RelationalQuery

/-! ## Entries -/

namespace Entries

variable {α : Type} {entries others : List (String × α)} {name : String} {value : α}

/-- Of two values that are put under a name the second one stays. -/
@[simp]
theorem put_put (entries : List (String × α)) (name : String) (value other : α) :
    put (put entries name value) name other = put entries name other := by
  induction entries with
  | nil => simp [put]
  | cons entry rest ih =>
    obtain ⟨first, old⟩ := entry
    by_cases hfirst : first = name <;> simp [put, hfirst, ih]

/-- Nothing is changed when the value of a name is put again. -/
theorem put_self (h : entries.lookup name = some value) : put entries name value = entries := by
  induction entries with
  | nil => simp at h
  | cons entry rest ih =>
    obtain ⟨first, old⟩ := entry
    by_cases hfirst : first = name
    · subst hfirst
      rw [List.lookup_cons_self, Option.some.injEq] at h
      simp [put, h]
    · have hother : (name == first) = false := beq_false_of_ne (Ne.symm hfirst)
      rw [List.lookup_cons, hother] at h
      simp [put, hfirst, ih h]

/-- A new name is appended with its value. -/
theorem put_of_not_mem (fresh : name ∉ names entries) :
    put entries name value = entries ++ [(name, value)] := by
  induction entries with
  | nil => rfl
  | cons entry rest ih =>
    obtain ⟨other, old⟩ := entry
    simp only [names, List.map_cons, List.mem_cons, not_or] at fresh
    rw [put, if_neg (Ne.symm fresh.1), ih fresh.2, List.cons_append]

/-- Entries with new names are appended one after the other. -/
theorem foldl_put_of_nodup (distinct : (names (entries ++ others)).Nodup) :
    others.foldl (fun entries entry => put entries entry.1 entry.2) entries =
      entries ++ others := by
  induction others generalizing entries with
  | nil => rw [List.foldl_nil, List.append_nil]
  | cons entry rest ih =>
    have hsplit : entries ++ entry :: rest = entries ++ [entry] ++ rest := by simp
    rw [hsplit] at distinct ⊢
    have hfresh : entry.1 ∉ names entries := by
      simp only [names, List.map_append, List.map_cons, List.map_nil] at distinct
      have hleft := (List.nodup_append.1 distinct).1
      exact fun hmem => (List.nodup_append.1 hleft).2.2 _ hmem _ (List.mem_singleton_self _) rfl
    rw [List.foldl_cons, put_of_not_mem hfresh]
    exact ih distinct

/-- Entries that keep the names of others one by one have the same names. -/
theorem names_eq_of_forall₂ {β : Type} {others : List (String × β)}
    (h : List.Forall₂ (fun entry other => other.1 = entry.1) entries others) :
    names others = names entries := by
  induction h with
  | nil => rfl
  | cons hentry _ ih =>
    rw [names, names] at ih ⊢
    rw [List.map_cons, List.map_cons, hentry, ih]

/-- If no name is repeated, then a name stands for the value of its entry. -/
theorem lookup_eq_some_iff (distinct : (names entries).Nodup) :
    entries.lookup name = some value ↔ (name, value) ∈ entries := by
  refine ⟨mem_of_lookup, fun hmem => ?_⟩
  obtain ⟨before, after, rfl⟩ := List.append_of_mem hmem
  refine List.lookup_eq_some_iff.2 ⟨before, after, rfl, fun entry hentry => ?_⟩
  rw [names, List.map_append, List.map_cons] at distinct
  have hother := (List.nodup_append.1 distinct).2.2 _ (List.mem_map_of_mem hentry) _
    List.mem_cons_self
  simpa using Ne.symm hother

/-- Of the names that are kept, each stands for what it did. -/
theorem lookup_filter (entries : List (String × α)) (keep : String → Bool) (name : String) :
    (entries.filter fun entry => keep entry.1).lookup name =
      if keep name = true then entries.lookup name else none := by
  induction entries with
  | nil => simp
  | cons entry rest ih =>
    obtain ⟨key, value⟩ := entry
    simp only [List.filter_cons]
    by_cases hname : name = key
    · subst hname
      by_cases hkeep : keep name = true <;> simp [hkeep, ih]
    · have hother : (name == key) = false := beq_false_of_ne hname
      by_cases hkeep : keep key = true <;> simp [hkeep, ih, List.lookup_cons, hother]

end Entries

/-- The inserted value is found under its name, and every other name stands for what it did. -/
theorem Members.get?_insert {members : Members} {name other : String} {value : Json} :
    (members.insert name value).get? other =
      if other = name then some value else members.get? other :=
  Entries.lookup_put members name other value

/-- If no name is repeated, then a name stands for the value of its member. -/
theorem Members.get?_eq_some_iff {members : Members} (distinct : members.keys.Nodup) {key : String}
    {value : Json} : members.get? key = some value ↔ (key, value) ∈ members :=
  Entries.lookup_eq_some_iff distinct

/-! ## Values -/

namespace Json

mutual

/-- No object inside a value repeats a name. -/
def hasDistinctNames : Json → Bool
  | .array items => itemsHaveDistinctNames items
  | .object members => decide (Members.keys members).Nodup && membersHaveDistinctNames members
  | .null | .bool _ | .number _ | .string _ => true

/-- No object inside the items of an array repeats a name. -/
def itemsHaveDistinctNames : List Json → Bool
  | [] => true
  | item :: rest => item.hasDistinctNames && itemsHaveDistinctNames rest

/-- No object inside the values of members repeats a name. -/
def membersHaveDistinctNames : List (String × Json) → Bool
  | [] => true
  | (_, value) :: rest => value.hasDistinctNames && membersHaveDistinctNames rest

end

@[simp]
theorem hasDistinctNames_array {items : List Json} :
    (Json.array items).hasDistinctNames = true ↔ ∀ item ∈ items, item.hasDistinctNames = true := by
  rw [hasDistinctNames]
  induction items with
  | nil => simp [itemsHaveDistinctNames]
  | cons item rest ih => simp [itemsHaveDistinctNames, ih]

@[simp]
theorem hasDistinctNames_object {members : Members} :
    (Json.object members).hasDistinctNames = true ↔
      members.keys.Nodup ∧ ∀ member ∈ members, member.2.hasDistinctNames = true := by
  rw [hasDistinctNames, Bool.and_eq_true, decide_eq_true_iff]
  have hmembers : membersHaveDistinctNames members = true ↔
      ∀ member ∈ members, member.2.hasDistinctNames = true := by
    induction members with
    | nil => simp [membersHaveDistinctNames]
    | cons member rest ih =>
      rw [membersHaveDistinctNames, Bool.and_eq_true, ih, List.forall_mem_cons]
  rw [hmembers]

/-! ## Values that are read -/

/-- A scalar token holds no object that repeats a name. -/
def Token.IsSound : Token → Prop
  | .scalar value => value.hasDistinctNames = true
  | .openArray | .closeArray | .openObject | .closeObject | .comma | .colon => True

theorem hasDistinctNames_of_readWord? {word : List Char} {value : Json}
    (h : readWord? word = some value) : value.hasDistinctNames = true := by
  unfold readWord? at h
  split at h
  · cases h; rfl
  · split at h
    · cases h; rfl
    · split at h
      · cases h; rfl
      · obtain ⟨_, -, rfl⟩ := Option.map_eq_some_iff.1 h
        rfl

theorem Token.isSound_of_structural? {c : Char} {token : Token} (h : structural? c = some token) :
    token.IsSound := by
  unfold structural? at h
  split at h <;> cases h <;> trivial

/-- The tokens of a text are sound. -/
theorem isSound_of_tokens? {cs : List Char} {tokens : List Token} (h : tokens? cs = some tokens) :
    ∀ token ∈ tokens, token.IsSound := by
  fun_induction tokens? cs generalizing tokens with
  | case1 =>
    cases h
    exact List.forall_mem_nil _
  | case2 _ _ _ ih => exact ih h
  | case3 _ _ _ _ hstructural ih =>
    obtain ⟨rest, hrest, rfl⟩ := Option.map_eq_some_iff.1 h
    exact List.forall_mem_cons.2 ⟨Token.isSound_of_structural? hstructural, ih hrest⟩
  | case5 _ _ _ _ _ _ ih =>
    obtain ⟨rest, hrest, rfl⟩ := Option.map_eq_some_iff.1 h
    exact List.forall_mem_cons.2 ⟨rfl, ih hrest⟩
  | case7 _ _ _ _ _ _ _ hword ih =>
    obtain ⟨rest, hrest, rfl⟩ := Option.map_eq_some_iff.1 h
    exact List.forall_mem_cons.2 ⟨hasDistinctNames_of_readWord? hword, ih hrest⟩
  | case4 | case6 | case8 => cases h

/-- The values of members repeat no name in any object; the members themselves may. -/
def MembersAreSound (done : Members) : Prop := ∀ member ∈ done, member.2.hasDistinctNames = true

/-- The values that are read so far in an open container are sound. -/
def Frame.IsSound : Frame → Prop
  | .items done => ∀ item ∈ done, item.hasDistinctNames = true
  | .members done _ => MembersAreSound done

/-- The values that a stage holds are sound. -/
def Stage.IsSound : Stage → Prop
  | .key done | .colon done _ => MembersAreSound done
  | .finished result => result.hasDistinctNames = true
  | .value | .valueOrClose | .keyOrClose | .separator => True

namespace Machine

/-- All values that a machine holds are sound. -/
structure IsSound (machine : Machine) : Prop where
  stage : machine.stage.IsSound
  frames : ∀ frame ∈ machine.frames, frame.IsSound

theorem ordered_distinct {done : Members} (h : MembersAreSound done) :
    (Json.object (ordered done)).hasDistinctNames = true := by
  rw [hasDistinctNames_object, ordered]
  have hreverse : MembersAreSound done.reverse := fun member hmember =>
    h member (List.mem_reverse.1 hmember)
  generalize done.reverse = members at hreverse
  -- Members that are put into distinct ones keep these distinct.
  suffices hput : ∀ first : Members, first.keys.Nodup → MembersAreSound first →
      let all := members.foldl (fun members entry => Members.insert members entry.1 entry.2) first
      all.keys.Nodup ∧ MembersAreSound all from
    hput [] List.nodup_nil (List.forall_mem_nil _)
  induction members with
  | nil => exact fun first hdistinct hsound => ⟨hdistinct, hsound⟩
  | cons member rest ih =>
    intro first hdistinct hsound
    obtain ⟨hmember, hrest⟩ := List.forall_mem_cons.1 hreverse
    refine ih hrest _ (Entries.nodup_names_put first member.1 member.2 hdistinct) ?_
    intro entry hentry
    rcases Entries.mem_put hentry with rfl | hold
    · exact hmember
    · exact hsound entry hold

theorem deliver_isSound {frames : List Frame} {value : Json}
    (hframes : ∀ frame ∈ frames, frame.IsSound) (hvalue : value.hasDistinctNames = true) :
    (deliver frames value).IsSound := by
  unfold deliver
  split
  · exact ⟨hvalue, List.forall_mem_nil _⟩
  · obtain ⟨hdone, houter⟩ := List.forall_mem_cons.1 hframes
    exact ⟨trivial, List.forall_mem_cons.2 ⟨List.forall_mem_cons.2 ⟨hvalue, hdone⟩, houter⟩⟩
  · obtain ⟨hdone, houter⟩ := List.forall_mem_cons.1 hframes
    exact ⟨trivial, List.forall_mem_cons.2 ⟨List.forall_mem_cons.2 ⟨hvalue, hdone⟩, houter⟩⟩

theorem beginValue?_isSound {frames : List Frame} {token : Token} {next : Machine}
    (hframes : ∀ frame ∈ frames, frame.IsSound) (htoken : token.IsSound)
    (h : beginValue? frames token = some next) : next.IsSound := by
  unfold beginValue? at h
  split at h
  · obtain ⟨-, h⟩ := Option.ite_none_right_eq_some.1 h
    cases h
    exact ⟨trivial, List.forall_mem_cons.2 ⟨List.forall_mem_nil _, hframes⟩⟩
  · obtain ⟨-, h⟩ := Option.ite_none_right_eq_some.1 h
    cases h
    exact ⟨trivial, hframes⟩
  · cases h
    exact deliver_isSound hframes htoken
  · cases h

/-- A step keeps the values of a machine sound. -/
theorem step?_isSound {machine next : Machine} {token : Token} (hmachine : machine.IsSound)
    (htoken : token.IsSound) (h : machine.step? token = some next) : next.IsSound := by
  obtain ⟨stage, frames⟩ := machine
  obtain ⟨hstage, hframes⟩ := hmachine
  simp only [step?] at h hstage hframes
  split at h
  -- A token begins a value, or it closes a container; else it only moves what is read so far.
  case h_1 | h_3 => exact beginValue?_isSound hframes htoken h
  case h_12 => cases h
  all_goals cases h
  case h_2 => exact deliver_isSound (List.forall_mem_cons.1 hframes).2 rfl
  case h_4 => exact deliver_isSound hframes rfl
  case h_5 => exact ⟨List.forall_mem_nil _, hframes⟩
  case h_6 => exact ⟨hstage, hframes⟩
  case h_7 => exact ⟨trivial, List.forall_mem_cons.2 ⟨hstage, hframes⟩⟩
  case h_8 => exact ⟨trivial, hframes⟩
  all_goals obtain ⟨hdone, houter⟩ := List.forall_mem_cons.1 hframes
  case h_9 => exact ⟨hdone, houter⟩
  case h_10 =>
    refine deliver_isSound houter (hasDistinctNames_array.2 fun item hitem => ?_)
    exact hdone item (List.mem_reverse.1 hitem)
  case h_11 => exact deliver_isSound houter (ordered_distinct hdone)

/-- A run keeps the values of a machine sound. -/
theorem foldlM_step?_isSound {machine last : Machine} {tokens : List Token}
    (hmachine : machine.IsSound) (htokens : ∀ token ∈ tokens, token.IsSound)
    (h : tokens.foldlM step? machine = some last) : last.IsSound := by
  induction tokens generalizing machine with
  | nil =>
    cases h
    exact hmachine
  | cons token rest ih =>
    rw [List.foldlM_cons] at h
    obtain ⟨next, hnext, hrest⟩ := Option.bind_eq_some_iff.1 h
    obtain ⟨htoken, htokens⟩ := List.forall_mem_cons.1 htokens
    exact ih (step?_isSound hmachine htoken hnext) htokens hrest

end Machine

/-- No object inside a value that is read from a text repeats a name. -/
theorem hasDistinctNames_of_ofText? {text : String} {value : Json} (h : ofText? text = some value) :
    value.hasDistinctNames = true := by
  obtain ⟨tokens, htokens, h⟩ := Option.bind_eq_some_iff.1 h
  obtain ⟨machine, hrun, h⟩ := Option.bind_eq_some_iff.1 h
  have hstart : Machine.start.IsSound := ⟨trivial, List.forall_mem_nil _⟩
  have hsound := Machine.foldlM_step?_isSound hstart (isSound_of_tokens? htokens) hrun
  split at h
  · rename_i result hstage
    cases h
    have hresult := hsound.stage
    rwa [hstage] at hresult
  · cases h

end Json

end RelationalQuery
