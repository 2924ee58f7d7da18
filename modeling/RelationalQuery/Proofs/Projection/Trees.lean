import RelationalQuery.Projection.Basic

/-!
# Reading select and include trees

A select and an include tree are JSON objects.  Under the name of a relation a select tree holds a
flag or a tree of its own, and an include tree holds a flag or an object of options.  An entry that
is false stands for no entry.

These readings are stated here on their own.  The compiler looks trees up by functions of its own,
and these are shown to read the same.

Main definitions:

- `treeMembers`, `ownTree?` and `shownAs?` are the entries of a tree, the tree in an entry, and
  the entry of a name.
- `entryOption?` and `entryCount?` are the options in an entry of an include tree.
- `requestedPage` cuts a page out of rows, and `requestedOrder` are the keys of an order.

Main results:

- `treeMembers_eq`, `ownTree?_eq`, `shownAs?_eq` and `IncludeOptions.ofEntry_eq`: the compiler
  reads the same.
- `size_entryOption?_add_le`: the trees among the options of an entry are no larger than the entry.
-/

namespace RelationalQuery

open Sql (Direction)

/-! ## Entries of trees -/

/-- The entries of a tree that may be absent; what is no object has none. -/
def treeMembers : Option Json → Members
  | some (.object members) => members
  | _ => []

/-- The tree in the entry of a relation in a select tree; a flag holds none. -/
def ownTree? : Json → Option Json
  | .object members => some (.object members)
  | _ => none

/-- The entry of a name, unless it is false. -/
def shownAs? (members : Members) (name : String) : Option Json :=
  match members.lookup name with
  | some (.bool false) => none
  | options? => options?

/-- Some tree shows a name. -/
def isShown (select? include? : Option Json) (name : String) : Bool :=
  (shownAs? (treeMembers select?) name).isSome || (shownAs? (treeMembers include?) name).isSome

/-- A tree without the entries of some names. -/
def withoutNames (names : List String) : Option Json → Option Json
  | some (.object members) => some (.object (members.filter (!names.contains ·.1)))
  | tree? => tree?

/-- The compiler reads the same entries. -/
theorem treeMembers_eq (tree? : Option Json) : treeMembers tree? = Json.membersOf tree? :=
  rfl

/-- The compiler finds the same tree in an entry. -/
theorem ownTree?_eq (entry : Json) : ownTree? entry = selectTree? entry := by
  cases entry <;> rfl

/-- The reader of trees is the compiler's. -/
theorem ownTree?_eq_selectTree? : ownTree? = selectTree? :=
  funext ownTree?_eq

/-- The compiler finds the same entry under a name. -/
theorem shownAs?_eq (members : Members) (name : String) :
    shownAs? members name = includedAs? members name := by
  unfold shownAs? includedAs? Members.get?
  cases members.lookup name with
  | none => rfl
  | some entry =>
    cases entry with
    | bool shown => cases shown <;> rfl
    | null | number _ | string _ | array _ | object _ => rfl

/-! ## Options -/

/-- An option in the entry of an include tree. -/
def entryOption? (options? : Option Json) (key : String) : Option Json :=
  match options? with
  | some (.object members) => members.lookup key
  | _ => none

/-- A count among the options of an entry. -/
def entryCount? (options? : Option Json) (key : String) : Option Nat :=
  match entryOption? options? key with
  | some (.number (.integer count _)) => if 0 ≤ count then some count.toNat else none
  | _ => none

/-- The page of rows that an entry asks for: some are skipped, and the others are limited in
number. -/
def requestedPage {α : Type} (options? : Option Json) (rows : List α) : List α :=
  let others := rows.drop ((entryCount? options? "skip").getD 0)
  match entryCount? options? "take" with
  | some count => others.take count
  | none => others

/-- A column of an order with its direction, which is descending if it says so in any letter case.
A direction that is no text is none. -/
def orderKey? (member : String × Json) : Option (String × Direction) :=
  match member.2 with
  | .string text => some (member.1, if text.toLower = "desc" then .descending else .ascending)
  | _ => none

/-- The columns of an order, which is an object or an array of objects, with their directions. -/
def requestedOrder : Json → List (String × Direction)
  | .object members => members.filterMap orderKey?
  | .array items => (items.flatMap fun item => treeMembers (some item)).filterMap orderKey?
  | _ => []

/-- A direction that the compiler reads is the one of the key. -/
theorem orderKey?_eq {member : String × Json} {direction : Direction}
    (h : member.2.string?.bind Direction.ofText? = some direction) :
    orderKey? member = some (member.1, direction) := by
  obtain ⟨text, htext, hdirection⟩ := Option.bind_eq_some_iff.1 h
  obtain ⟨key, value⟩ := member
  cases value with
  | string other =>
    obtain rfl : other = text := Option.some.inj htext
    rw [orderKey?, Option.some.injEq, Prod.mk.injEq]
    refine ⟨rfl, ?_⟩
    unfold Direction.ofText? at hdirection
    split at hdirection
    · rename_i hasc
      rw [hasc, ← Option.some.inj hdirection]
      rfl
    · split at hdirection
      · rename_i hdesc
        rw [if_pos hdesc, ← Option.some.inj hdirection]
      · cases hdirection
  | null | bool _ | number _ | array _ | object _ => cases htext

/-- The compiler takes the same options from an entry. -/
theorem IncludeOptions.ofEntry_eq (options? : Option Json) :
    IncludeOptions.ofEntry options? =
      ⟨entryOption? options? "where", entryOption? options? "order",
        (entryOption? options? "skip").bind Json.unsigned?,
        (entryOption? options? "take").bind Json.unsigned?, entryOption? options? "select",
        entryOption? options? "include"⟩ := by
  match options? with
  | some (.object _) => rfl
  | none | some .null | some (.bool _) | some (.number _) | some (.string _) | some (.array _) =>
    rfl

/-- A count is an integer of 64 bits that is not negative. -/
theorem entryCount?_eq (options? : Option Json) (key : String) :
    entryCount? options? key = ((entryOption? options? key).bind Json.unsigned?).map UInt64.toNat := by
  unfold entryCount?
  cases entryOption? options? key with
  | none => rfl
  | some value =>
    cases value with
    | number number =>
      cases number with
      | integer count inRange =>
        simp only [Option.bind_some, Json.unsigned?, Json.number?, Number.unsigned?, Number.int?,
          Option.filter_some, decide_eq_true_eq]
        by_cases hsign : 0 ≤ count
        · rw [if_pos hsign, if_pos hsign, Option.map_some, Option.map_some, UInt64.toNat_ofNat',
            Nat.mod_eq_of_lt (by omega)]
        · rw [if_neg hsign, if_neg hsign]
          rfl
      | real _ => rfl
    | null | bool _ | string _ | array _ | object _ => rfl

/-! ## Sizes -/

open Json (sizeOrZero)

theorem size_ownTree?_le (entry : Json) : sizeOrZero (ownTree? entry) ≤ entry.size := by
  rw [ownTree?_eq]
  exact size_selectTree?_le entry

theorem size_shownAs?_le (members : Members) (name : String) :
    sizeOrZero (shownAs? members name) ≤ Json.membersSize members := by
  rw [shownAs?_eq]
  exact size_includedAs?_le members name

theorem membersSize_treeMembers_le (tree? : Option Json) :
    Json.membersSize (treeMembers tree?) ≤ sizeOrZero tree? := by
  rw [treeMembers_eq]
  exact Json.membersSize_membersOf_le tree?

/-- The trees among the options of an entry are together no larger than the entry. -/
theorem size_entryOption?_add_le (options? : Option Json) :
    sizeOrZero (entryOption? options? "select") + sizeOrZero (entryOption? options? "include") ≤
      sizeOrZero options? := by
  have hle := IncludeOptions.size_le options?
  rwa [IncludeOptions.ofEntry_eq] at hle

end RelationalQuery
