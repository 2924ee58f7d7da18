import Mathlib.Algebra.Order.Group.Multiset
import Mathlib.Data.List.Flatten
import RelationalQuery.Proofs.Json.DistinctNames
import RelationalQuery.Proofs.Projection.Derivation

/-!
# Entries of relations

A select tree and an include tree name relations, at any depth: in a select tree below the entry of
a relation, and in an include tree below the select and the include tree of its options.  Every such
entry has a place of its own.

Main definitions:

- `Repository.relationEntries` are the entries of relations in a tree over a table.
- `Repository.projectionEntries` are those of a select and an include tree together.
- `ProjectionTask.entries` are the entries that a part of two trees holds.

Main results:

- `Repository.nodup_places_projectionEntries`: no two entries have one place.
- `ProjectionTask.entries_tree` and its companions: the parts of a part hold different entries
  of it.
-/

namespace RelationalQuery

/-! ## Trees and their entries -/

/-- What a value inside the trees of a projection is: a select tree, an include tree, or the options
of an entry of an include tree. -/
inductive TreeKind where
  | selection
  | inclusion
  | options
deriving DecidableEq

/-- An entry of a relation: the keys that lead to it from outside, and its relation. -/
structure RelationEntry where
  place : List String
  relation : Relation

/-- The entry as it is seen from further outside. -/
def RelationEntry.under (keys : List String) (entry : RelationEntry) : RelationEntry :=
  { entry with place := keys ++ entry.place }

/-- Keys are put in front of a place one after the other. -/
theorem RelationEntry.under_under (keys others : List String) (entry : RelationEntry) :
    (entry.under others).under keys = entry.under (keys ++ others) := by
  rw [under, under, under, List.append_assoc]

/-- What a member of a tree holds: the entry of a relation, if it is one, and a value of some kind
about the rows of a table. -/
structure TreeMember where
  relation? : Option Relation
  kind : TreeKind
  table : String

namespace Repository

/-- The relation of an entry of a tree over a table, unless the entry is false. -/
def shownRelation? (repository : Repository) (name key : String) (value : Json) :
    Option Relation :=
  if value = .bool false then none else (repository.table? name).bind (·.relation? key)

/-- What a member of a tree over a table holds, if it holds anything. -/
def treeMember? (repository : Repository) (name key : String) (value : Json) :
    TreeKind → Option TreeMember
  | .selection => (repository.shownRelation? name key value).map fun relation =>
    ⟨some relation, .selection, relation.relatedTable⟩
  | .inclusion => (repository.shownRelation? name key value).map fun relation =>
    ⟨some relation, .options, relation.relatedTable⟩
  | .options =>
    if key = "select" then some ⟨none, .selection, name⟩
    else if key = "include" then some ⟨none, .inclusion, name⟩
    else none

mutual

/-- The entries of relations in a tree over a table, at any depth. -/
def relationEntries (repository : Repository) (kind : TreeKind) (name : String) :
    Json → List RelationEntry
  | .object members => repository.memberEntries kind name members
  | _ => []

/-- The entries of relations in the members of a tree. -/
def memberEntries (repository : Repository) (kind : TreeKind) (name : String) :
    List (String × Json) → List RelationEntry
  | [] => []
  | (key, value) :: rest =>
    (match repository.treeMember? name key value kind with
    | none => []
    | some member =>
      (member.relation?.toList.map (RelationEntry.mk []) ++
        repository.relationEntries member.kind member.table value).map (.under [key])) ++
      repository.memberEntries kind name rest

end

/-- The entries of relations that a member of a tree holds. -/
def entriesAt (repository : Repository) (kind : TreeKind) (name : String)
    (member : String × Json) : List RelationEntry :=
  repository.memberEntries kind name [member]

/-- The entries of relations in a tree that may be absent. -/
def entriesIn (repository : Repository) (kind : TreeKind) (name : String) (value? : Option Json) :
    List RelationEntry :=
  value?.elim [] (repository.relationEntries kind name)

/-- The entries of relations in a select and an include tree over a table. -/
def projectionEntries (repository : Repository) (select? include? : Option Json) (name : String) :
    List RelationEntry :=
  (repository.entriesIn .selection name select?).map (.under ["select"]) ++
    (repository.entriesIn .inclusion name include?).map (.under ["include"])

variable {repository : Repository} {kind : TreeKind} {name key : String} {value : Json}

/-- The entries of members are those of each of them. -/
theorem memberEntries_eq_flatMap (members : Members) :
    repository.memberEntries kind name members =
      members.flatMap (repository.entriesAt kind name) := by
  induction members with
  | nil => rw [memberEntries, List.flatMap_nil]
  | cons member rest ih =>
    obtain ⟨key, value⟩ := member
    rw [List.flatMap_cons, ← ih, entriesAt, memberEntries, memberEntries, memberEntries,
      List.append_nil]

/-- The entries of the first member come before those of the others. -/
theorem memberEntries_cons (member : String × Json) (rest : Members) :
    repository.memberEntries kind name (member :: rest) =
      repository.entriesAt kind name member ++ repository.memberEntries kind name rest := by
  rw [memberEntries_eq_flatMap, memberEntries_eq_flatMap, List.flatMap_cons]

/-- Fewer members hold fewer entries. -/
theorem memberEntries_subperm {members others : Members} (h : members.Subperm others) :
    (repository.memberEntries kind name members).Subperm
      (repository.memberEntries kind name others) := by
  obtain ⟨middle, hperm, hsublist⟩ := h
  rw [memberEntries_eq_flatMap, memberEntries_eq_flatMap]
  exact ⟨_, hperm.flatMap_right _, hsublist.flatMap _⟩

/-- What a member of a select tree that stands for a relation holds. -/
theorem treeMember?_selection {table : Table} {relation : Relation}
    (known : repository.table? name = some table) (shown : value ≠ .bool false)
    (named : table.relation? key = some relation) :
    repository.treeMember? name key value .selection =
      some ⟨some relation, .selection, relation.relatedTable⟩ := by
  simp [treeMember?, shownRelation?, known, named, shown]

/-- What a member of an include tree holds. -/
theorem treeMember?_inclusion {table : Table} {relation : Relation}
    (known : repository.table? name = some table) (shown : value ≠ .bool false)
    (named : table.relation? key = some relation) :
    repository.treeMember? name key value .inclusion =
      some ⟨some relation, .options, relation.relatedTable⟩ := by
  simp [treeMember?, shownRelation?, known, named, shown]

/-! ## Places -/

/-- What a member holds has places that begin with its key. -/
theorem head?_place_of_mem_entriesAt {member : String × Json} {entry : RelationEntry}
    (h : entry ∈ repository.entriesAt kind name member) : entry.place.head? = some member.1 := by
  obtain ⟨key, value⟩ := member
  simp only [entriesAt, memberEntries, List.append_nil] at h
  split at h
  · cases h
  · obtain ⟨inner, -, rfl⟩ := List.mem_map.1 h
    rfl

/-- Every entry of members has a key. -/
theorem place_ne_nil_of_mem_memberEntries {members : Members} {entry : RelationEntry}
    (h : entry ∈ repository.memberEntries kind name members) : entry.place ≠ [] := by
  rw [memberEntries_eq_flatMap] at h
  obtain ⟨member, -, hentry⟩ := List.mem_flatMap.1 h
  intro hplace
  have hhead := head?_place_of_mem_entriesAt hentry
  rw [hplace] at hhead
  cases hhead

/-- So has every entry of a tree. -/
theorem place_ne_nil_of_mem_relationEntries {entry : RelationEntry}
    (h : entry ∈ repository.relationEntries kind name value) : entry.place ≠ [] := by
  cases value with
  | object members =>
    rw [relationEntries] at h
    exact place_ne_nil_of_mem_memberEntries h
  | null | bool _ | number _ | string _ | array _ => simp [relationEntries] at h

/-- Keys in front of entries are in front of their places. -/
theorem places_under (keys : List String) (entries : List RelationEntry) :
    (entries.map (.under keys)).map RelationEntry.place =
      (entries.map RelationEntry.place).map (keys ++ ·) := by
  simp [RelationEntry.under, Function.comp_def]

/-- They keep places apart. -/
theorem nodup_places_under {keys : List String} {entries : List RelationEntry}
    (h : (entries.map RelationEntry.place).Nodup) :
    ((entries.map (.under keys)).map RelationEntry.place).Nodup := by
  rw [places_under]
  exact h.map fun _ _ => List.append_cancel_left

mutual

/-- No two entries of a tree have one place. -/
theorem nodup_places_relationEntries : ∀ {value : Json} {kind : TreeKind} {name : String},
    value.hasDistinctNames = true →
      ((repository.relationEntries kind name value).map RelationEntry.place).Nodup
  | .object members, kind, name, h => by
    obtain ⟨hkeys, hvalues⟩ := Json.hasDistinctNames_object.1 h
    rw [relationEntries]
    exact nodup_places_memberEntries hkeys hvalues
  | .null, _, _, _ | .bool _, _, _, _ | .number _, _, _, _ | .string _, _, _, _
  | .array _, _, _, _ => by simp [relationEntries]

/-- No two entries in the members of a tree have one place. -/
theorem nodup_places_memberEntries : ∀ {members : List (String × Json)} {kind : TreeKind}
    {name : String}, (Members.keys members).Nodup →
      (∀ member ∈ members, member.2.hasDistinctNames = true) →
      ((repository.memberEntries kind name members).map RelationEntry.place).Nodup
  | [], _, _, _, _ => by simp [memberEntries]
  | (key, value) :: rest, kind, name, hkeys, hvalues => by
    obtain ⟨hkey, hrest⟩ := List.nodup_cons.1 hkeys
    obtain ⟨hvalue, hvalues⟩ := List.forall_mem_cons.1 hvalues
    rw [memberEntries_cons, List.map_append, List.nodup_append]
    refine ⟨?_, nodup_places_memberEntries hrest hvalues, ?_⟩
    · rw [entriesAt, memberEntries, memberEntries, List.append_nil]
      split
      · exact List.nodup_nil
      · rename_i member _
        have hinner : ((repository.relationEntries member.kind member.table value).map
            RelationEntry.place).Nodup := nodup_places_relationEntries hvalue
        refine nodup_places_under ?_
        cases member.relation? with
        | none => simpa using hinner
        | some relation =>
          simp only [Option.toList_some, List.map_cons, List.map_nil, List.singleton_append,
            List.nodup_cons]
          refine ⟨?_, hinner⟩
          intro hmem
          obtain ⟨entry, hentry, hplace⟩ := List.mem_map.1 hmem
          exact place_ne_nil_of_mem_relationEntries hentry hplace
    · intro place hplace other hother heq
      obtain ⟨first, hfirst, rfl⟩ := List.mem_map.1 hplace
      obtain ⟨second, hsecond, rfl⟩ := List.mem_map.1 hother
      rw [memberEntries_eq_flatMap] at hsecond
      obtain ⟨member, hmember, hsecond⟩ := List.mem_flatMap.1 hsecond
      have hhead := head?_place_of_mem_entriesAt hfirst
      rw [heq, head?_place_of_mem_entriesAt hsecond, Option.some.injEq] at hhead
      exact hkey (List.mem_map.2 ⟨member, hmember, hhead⟩)

end

/-- No two entries of a tree without repeated names have the same place. -/
theorem nodup_places_entriesIn {value? : Option Json}
    (distinct : ∀ value ∈ value?, value.hasDistinctNames = true) :
    ((repository.entriesIn kind name value?).map RelationEntry.place).Nodup := by
  cases value? with
  | none => exact List.nodup_nil
  | some value => exact nodup_places_relationEntries (distinct value rfl)

/-- No two entries of a select and an include tree have one place. -/
theorem nodup_places_projectionEntries {select? include? : Option Json}
    (selected : ∀ tree ∈ select?, tree.hasDistinctNames = true)
    (included : ∀ tree ∈ include?, tree.hasDistinctNames = true) :
    ((repository.projectionEntries select? include? name).map RelationEntry.place).Nodup := by
  rw [projectionEntries, List.map_append, List.nodup_append]
  refine ⟨nodup_places_under (nodup_places_entriesIn selected),
    nodup_places_under (nodup_places_entriesIn included), ?_⟩
  intro place hplace other hother heq
  rw [places_under] at hplace hother
  obtain ⟨first, -, rfl⟩ := List.mem_map.1 hplace
  obtain ⟨second, -, rfl⟩ := List.mem_map.1 hother
  exact absurd (List.cons.inj heq).1 (by decide)

/-! ## Entries of parts -/

/-- The entry of a further name is different from those of other names. -/
theorem subperm_filter_cons {includes : Members} {named : List String} {entry : Json}
    (fresh : key ∉ named) (h : includes.get? key = some entry) :
    ((key, entry) :: includes.filter (named.contains ·.1)).Subperm
      (includes.filter ((key :: named).contains ·.1)) := by
  refine List.cons_subperm_of_not_mem_of_mem ?_ ?_ (List.Sublist.subperm ?_)
  · simp [fresh]
  · simpa using Entries.mem_of_lookup h
  · exact List.monotone_filter_right _ fun member hmember => by simp_all

/-- The entries in a tree that may be absent, below the keys that lead to it. -/
def entriesUnder (repository : Repository) (keys : List String) (kind : TreeKind) (name : String)
    (value? : Option Json) : Multiset RelationEntry :=
  ((repository.entriesIn kind name value?).map (.under keys) : List RelationEntry)

/-- The entries in the members of a tree, below the keys that lead to it. -/
def memberEntriesUnder (repository : Repository) (keys : List String) (kind : TreeKind)
    (name : String) (members : Members) : Multiset RelationEntry :=
  ((repository.memberEntries kind name members).map (.under keys) : List RelationEntry)

variable {keys : List String}

/-- There are no entries in a tree that is absent. -/
@[simp]
theorem entriesUnder_none : repository.entriesUnder keys kind name none = 0 :=
  rfl

/-- The entries of an object are those of its members. -/
@[simp]
theorem entriesUnder_object {members : Members} :
    repository.entriesUnder keys kind name (some (.object members)) =
      repository.memberEntriesUnder keys kind name members := by
  rw [entriesUnder, entriesIn, Option.elim_some, relationEntries, memberEntriesUnder]

/-- The entries in a tree are those in its members, of which a value that is no object has none. -/
theorem entriesUnder_membersOf (value? : Option Json) :
    repository.memberEntriesUnder keys kind name (Json.membersOf value?) =
      repository.entriesUnder keys kind name value? := by
  rcases value? with _ | ⟨_ | _ | _ | _ | _ | members⟩
  case some.object => rw [Json.membersOf, entriesUnder_object]
  all_goals simp [Json.membersOf, memberEntriesUnder, memberEntries, entriesUnder, entriesIn,
    relationEntries]

/-- Fewer members hold fewer entries. -/
theorem memberEntriesUnder_le {members others : Members} (h : members.Subperm others) :
    repository.memberEntriesUnder keys kind name members ≤
      repository.memberEntriesUnder keys kind name others :=
  Multiset.map_le_map (Multiset.coe_le.2 (memberEntries_subperm h))

@[simp]
theorem memberEntriesUnder_nil : repository.memberEntriesUnder keys kind name [] = 0 := by
  simp [memberEntriesUnder, memberEntries]

/-- A relation counts for itself, and with what is inside it. -/
theorem memberEntriesUnder_cons {member : TreeMember} {rest : Members}
    (h : repository.treeMember? name key value kind = some member) :
    repository.memberEntriesUnder keys kind name ((key, value) :: rest) =
      (member.relation?.toList.map (RelationEntry.mk (keys ++ [key])) : List RelationEntry) +
        repository.entriesUnder (keys ++ [key]) member.kind member.table (some value) +
        repository.memberEntriesUnder keys kind name rest := by
  have hown : ∀ relation, ((RelationEntry.mk [] relation).under [key]).under keys =
      RelationEntry.mk (keys ++ [key]) relation := fun _ => rfl
  simp [memberEntriesUnder, memberEntries, h, entriesUnder, entriesIn, Function.comp_def, hown,
    RelationEntry.under_under]

/-- Members count one after the other. -/
theorem memberEntriesUnder_append (members others : Members) :
    repository.memberEntriesUnder keys kind name (members ++ others) =
      repository.memberEntriesUnder keys kind name members +
        repository.memberEntriesUnder keys kind name others := by
  simp only [memberEntriesUnder, memberEntries_eq_flatMap, List.flatMap_append, List.map_append,
    Multiset.coe_add]

/-- An option that leads to a tree over the same table holds the entries of this tree. -/
theorem memberEntriesUnder_option (members : Members)
    (h : ∀ value, repository.treeMember? name key value .options = some ⟨none, kind, name⟩) :
    repository.memberEntriesUnder keys .options name ((members.get? key).toList.map (key, ·)) =
      repository.entriesUnder (keys ++ [key]) kind name (members.get? key) := by
  cases members.get? key with
  | none => simp
  | some value => simp [memberEntriesUnder_cons (h value)]

/-- The select and the include tree of options hold different entries of them. -/
theorem entriesUnder_options_le (repository : Repository) (keys : List String) (name : String)
    (included? : Option Json) :
    repository.entriesUnder (keys ++ ["select"]) .selection name
          (IncludeOptions.ofEntry included?).select? +
        repository.entriesUnder (keys ++ ["include"]) .inclusion name
          (IncludeOptions.ofEntry included?).include? ≤
      repository.entriesUnder keys .options name included? := by
  unfold IncludeOptions.ofEntry
  split
  · rename_i members
    rw [entriesUnder_object, IncludeOptions.ofMembers, ← memberEntriesUnder_option _ fun _ => rfl,
      ← memberEntriesUnder_option _ fun _ => rfl, ← memberEntriesUnder_append]
    refine memberEntriesUnder_le (List.subperm_of_subset ?_ ?_)
    · cases Members.get? members "select" <;> cases Members.get? members "include" <;> simp
    · intro member hmember
      simp only [List.mem_append, List.mem_map, Option.mem_toList] at hmember
      obtain ⟨value, hvalue, rfl⟩ | ⟨value, hvalue, rfl⟩ := hmember
      · exact Entries.mem_of_lookup hvalue
      · exact Entries.mem_of_lookup hvalue
  · have hselect : (IncludeOptions.ofMembers []).select? = none := rfl
    have hinclude : (IncludeOptions.ofMembers []).include? = none := rfl
    rw [hselect, hinclude, entriesUnder_none, entriesUnder_none, add_zero]
    exact Multiset.zero_le _

end Repository

namespace ProjectionTask

/-- The entries of relations that a part of two trees over a table holds.  The keys that lead from
outside to its select tree and to its include tree are given; the first ones also lead to the entry
of a relation that is a part of its own. -/
def entries (repository : Repository) (name : String) (selected included : List String) :
    ProjectionTask → Multiset RelationEntry
  | .fields select? include? =>
    repository.entriesUnder selected .selection name select? +
      repository.entriesUnder included .inclusion name include?
  | .selected includes members =>
    repository.memberEntriesUnder selected .selection name members +
      repository.memberEntriesUnder included .inclusion name
        (includes.filter ((Members.keys members).contains ·.1))
  | .included includes named =>
    repository.memberEntriesUnder included .inclusion name
      (includes.filter (!named.contains ·.1))
  | .relation _ target selection? included? =>
    ⟨selected, target⟩ ::ₘ
      (repository.entriesUnder selected .selection target.relatedTable selection? +
        repository.entriesUnder included .options target.relatedTable included?)

section

variable {repository : Repository} {name : String} {selected included : List String}

/-- Without a select tree only the include tree has entries. -/
theorem entries_all (include? : Option Json) :
    (ProjectionTask.included (Json.membersOf include?) []).entries repository name selected
        included =
      (ProjectionTask.fields none include?).entries repository name selected included := by
  simp [entries, Repository.entriesUnder_membersOf]

/-- The members of a select tree and the other members of the include tree hold the entries of both
trees. -/
theorem entries_tree (members : Members) (include? : Option Json) :
    (ProjectionTask.selected (Json.membersOf include?) members).entries repository name selected
        included +
      (ProjectionTask.included (Json.membersOf include?) (Members.keys members)).entries repository
        name selected included =
      (ProjectionTask.fields (some (.object members)) include?).entries repository name selected
        included := by
  have hperm := List.filter_append_perm ((Members.keys members).contains ·.1)
    (Json.membersOf include?)
  rw [entries, entries, entries, add_assoc, ← Repository.memberEntriesUnder_append,
    Repository.entriesUnder_object, ← Repository.entriesUnder_membersOf include?]
  congr 1
  exact le_antisymm (Repository.memberEntriesUnder_le hperm.subperm)
    (Repository.memberEntriesUnder_le hperm.symm.subperm)

/-- Fewer members of a select tree have no more entries. -/
theorem entries_selectedTail (includes : Members) (member : String × Json) (rest : Members) :
    (ProjectionTask.selected includes rest).entries repository name selected included ≤
      (ProjectionTask.selected includes (member :: rest)).entries repository name selected
        included := by
  refine add_le_add (Repository.memberEntriesUnder_le (List.sublist_cons_self _ _).subperm)
    (Repository.memberEntriesUnder_le (List.Sublist.subperm ?_))
  exact List.monotone_filter_right _ fun other hother => by simp_all [Members.keys]

/-- Neither have fewer members of an include tree. -/
theorem entries_includedTail (member : String × Json) (rest : Members) (named : List String) :
    (ProjectionTask.included rest named).entries repository name selected included ≤
      (ProjectionTask.included (member :: rest) named).entries repository name selected
        included :=
  Repository.memberEntriesUnder_le ((List.sublist_cons_self _ _).filter _).subperm

/-- The entry of a relation in a select tree, with its entry in the include tree, and the other
members of the select tree hold different entries. -/
theorem entries_selectedRelation {table : Table} {relation : Relation} {key : String}
    {value : Json} {includes rest : Members} (known : repository.table? name = some table)
    (shown : value ≠ .bool false) (named : table.relation? key = some relation)
    (fresh : key ∉ Members.keys rest) :
    (ProjectionTask.relation key relation (selectTree? value) (includedAs? includes key)).entries
          repository name (selected ++ [key]) (included ++ [key]) +
        (ProjectionTask.selected includes rest).entries repository name selected included ≤
      (ProjectionTask.selected includes ((key, value) :: rest)).entries repository name selected
        included := by
  have hselection : repository.entriesUnder (selected ++ [key]) .selection relation.relatedTable
      (selectTree? value) = repository.entriesUnder (selected ++ [key]) .selection
        relation.relatedTable (some value) := by
    rw [← Repository.entriesUnder_membersOf, ← Repository.entriesUnder_membersOf (some value)]
    cases value <;> rfl
  have hinclusion : repository.entriesUnder (included ++ [key]) .options relation.relatedTable
        (includedAs? includes key) +
      repository.memberEntriesUnder included .inclusion name
        (includes.filter ((Members.keys rest).contains ·.1)) ≤
      repository.memberEntriesUnder included .inclusion name
        (includes.filter ((key :: Members.keys rest).contains ·.1)) := by
    cases hentry : includedAs? includes key with
    | none =>
      rw [Repository.entriesUnder_none, zero_add]
      refine Repository.memberEntriesUnder_le (List.Sublist.subperm ?_)
      exact List.monotone_filter_right _ fun other hother => by simp_all
    | some entry =>
      obtain ⟨hget, hshown⟩ := Option.filter_eq_some_iff.1 hentry
      have hmember := Repository.treeMember?_inclusion known (by simpa using hshown) named
      refine le_trans ?_
        (Repository.memberEntriesUnder_le (Repository.subperm_filter_cons fresh hget))
      rw [Repository.memberEntriesUnder_cons hmember, add_assoc]
      exact le_add_of_nonneg_left (Multiset.zero_le _)
  simp only [entries, hselection, Repository.memberEntriesUnder_cons
    (Repository.treeMember?_selection known shown named)]
  calc
    _ = (⟨selected ++ [key], relation⟩ ::ₘ repository.entriesUnder (selected ++ [key]) .selection
            relation.relatedTable (some value) +
          repository.memberEntriesUnder selected .selection name rest) +
        (repository.entriesUnder (included ++ [key]) .options relation.relatedTable
            (includedAs? includes key) +
          repository.memberEntriesUnder included .inclusion name
            (includes.filter ((Members.keys rest).contains ·.1))) := by
      rw [← Multiset.cons_add, add_add_add_comm]
    _ ≤ _ := add_le_add_right hinclusion _

/-- The entry of a relation in an include tree and its other members hold different entries. -/
theorem entries_includedRelation {table : Table} {relation : Relation} {key : String}
    {entry : Json} {rest : Members} {names : List String}
    (known : repository.table? name = some table)
    (shown : ¬ (entry = .bool false ∨ names.contains key = true))
    (named : table.relation? key = some relation) :
    (ProjectionTask.relation key relation none (some entry)).entries repository name
          (included ++ [key]) (included ++ [key]) +
        (ProjectionTask.included rest names).entries repository name selected included =
      (ProjectionTask.included ((key, entry) :: rest) names).entries repository name selected
        included := by
  obtain ⟨hshown, hfresh⟩ := not_or.1 shown
  simp only [entries, List.filter_cons, hfresh, Bool.not_false, if_true,
    Repository.memberEntriesUnder_cons (Repository.treeMember?_inclusion known hshown named)]
  simp

/-- The trees of the related rows hold entries of the entry of a relation, which is different from
all of them. -/
theorem exists_entries_relation (key : String) (relation : Relation)
    (selection? included? : Option Json) : ∃ below beside,
    ⟨selected, relation⟩ ::ₘ
        (ProjectionTask.fields (selection? <|> (IncludeOptions.ofEntry included?).select?)
          (IncludeOptions.ofEntry included?).include?).entries repository relation.relatedTable
            below beside ≤
      (ProjectionTask.relation key relation selection? included?).entries repository name selected
        included := by
  have hoptions := repository.entriesUnder_options_le included relation.relatedTable included?
  cases selection? with
  | none =>
    refine ⟨included ++ ["select"], included ++ ["include"], ?_⟩
    rw [entries, entries, Repository.entriesUnder_none, zero_add]
    exact Multiset.cons_le_cons _ hoptions
  | some selection =>
    refine ⟨selected, included ++ ["include"], ?_⟩
    rw [entries, entries]
    have hinclusion := le_trans (le_add_of_nonneg_left (Multiset.zero_le _)) hoptions
    exact Multiset.cons_le_cons _ (add_le_add_right hinclusion _)

end

/-! ## Parts without repeated names -/

/-- No object inside the trees of a part repeats a name. -/
def HasDistinctNames : ProjectionTask → Prop
  | .fields select? include? =>
    (∀ tree ∈ select?, tree.hasDistinctNames = true) ∧
      ∀ tree ∈ include?, tree.hasDistinctNames = true
  | .selected includes members =>
    (Json.object includes).hasDistinctNames = true ∧
      (Json.object members).hasDistinctNames = true
  | .included includes _ => (Json.object includes).hasDistinctNames = true
  | .relation _ _ selection? included? =>
    (∀ tree ∈ selection?, tree.hasDistinctNames = true) ∧
      ∀ entry ∈ included?, entry.hasDistinctNames = true

namespace HasDistinctNames

variable {includes members rest : Members} {named : List String} {key : String} {value : Json}
  {relation : Relation} {select? include? selection? included? : Option Json}

/-- The members of a tree without repeated names repeat none. -/
theorem object_membersOf (h : ∀ tree ∈ include?, tree.hasDistinctNames = true) :
    (Json.object (Json.membersOf include?)).hasDistinctNames = true := by
  rcases include? with _ | ⟨_ | _ | _ | _ | _ | members⟩
  case some.object => exact h _ rfl
  all_goals simp [Json.membersOf, Members.keys]

/-- Neither does the value of a member. -/
theorem of_get? (h : (Json.object members).hasDistinctNames = true) (key : String) :
    ∀ value ∈ members.get? key, value.hasDistinctNames = true :=
  fun value hvalue => (Json.hasDistinctNames_object.1 h).2 (key, value)
    (Entries.mem_of_lookup hvalue)

/-- The first name is not repeated, nor is any inside or behind it. -/
theorem of_cons (h : (Json.object ((key, value) :: rest)).hasDistinctNames = true) :
    key ∉ Members.keys rest ∧ value.hasDistinctNames = true ∧
      (Json.object rest).hasDistinctNames = true := by
  obtain ⟨hkeys, hvalues⟩ := Json.hasDistinctNames_object.1 h
  obtain ⟨hkey, hrest⟩ := List.nodup_cons.1 hkeys
  obtain ⟨hvalue, hothers⟩ := List.forall_mem_cons.1 hvalues
  exact ⟨hkey, hvalue, Json.hasDistinctNames_object.2 ⟨hrest, hothers⟩⟩

/-- The parts of two trees without repeated names have none. -/
theorem included (h : (fields select? include?).HasDistinctNames) (named : List String) :
    (ProjectionTask.included (Json.membersOf include?) named).HasDistinctNames :=
  object_membersOf h.2

theorem selected (h : (fields (some (.object members)) include?).HasDistinctNames) :
    (ProjectionTask.selected (Json.membersOf include?) members).HasDistinctNames :=
  ⟨object_membersOf h.2, h.1 _ rfl⟩

theorem selectedTail
    (h : (ProjectionTask.selected includes ((key, value) :: rest)).HasDistinctNames) :
    (ProjectionTask.selected includes rest).HasDistinctNames :=
  ⟨h.1, (of_cons h.2).2.2⟩

/-- Neither have the trees that are given to a selected relation. -/
theorem selectedRelation
    (h : (ProjectionTask.selected includes ((key, value) :: rest)).HasDistinctNames) :
    (ProjectionTask.relation key relation (selectTree? value)
      (includedAs? includes key)).HasDistinctNames := by
  constructor
  · intro tree htree
    unfold selectTree? at htree
    split at htree
    · cases htree
      exact (of_cons h.2).2.1
    · cases htree
  · intro entry hentry
    exact of_get? h.1 key entry (Option.filter_eq_some_iff.1 hentry).1

theorem includedTail
    (h : (ProjectionTask.included ((key, value) :: rest) named).HasDistinctNames) :
    (ProjectionTask.included rest named).HasDistinctNames :=
  (of_cons h).2.2

/-- Neither have those that are given to an included one. -/
theorem includedRelation
    (h : (ProjectionTask.included ((key, value) :: rest) named).HasDistinctNames) :
    (ProjectionTask.relation key relation none (some value)).HasDistinctNames := by
  refine ⟨nofun, fun entry hentry => ?_⟩
  cases hentry
  exact (of_cons h).2.1

/-- Neither have the trees that a relation hands on. -/
theorem inside
    (h : (ProjectionTask.relation key relation selection? included?).HasDistinctNames) :
    (fields (selection? <|> (IncludeOptions.ofEntry included?).select?)
      (IncludeOptions.ofEntry included?).include?).HasDistinctNames := by
  have hoption : ∀ key, ∀ value ∈ Members.get? (Json.membersOf included?) key,
      value.hasDistinctNames = true := of_get? (object_membersOf h.2)
  have hoptions : IncludeOptions.ofEntry included? =
      .ofMembers (Json.membersOf included?) := by
    rcases included? with _ | ⟨_ | _ | _ | _ | _ | members⟩ <;> rfl
  rw [hoptions]
  refine ⟨?_, hoption "include"⟩
  cases selection? with
  | none => exact hoption "select"
  | some selection => exact h.1

end HasDistinctNames

end ProjectionTask

end RelationalQuery
