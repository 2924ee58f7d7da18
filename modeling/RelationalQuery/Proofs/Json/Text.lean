import RelationalQuery.Json.Printer
import RelationalQuery.Proofs.Json.DistinctNames
import RelationalQuery.Proofs.Json.Numbers

/-!
# Texts of values

The text of a value is read as the value in which every number is what its own text is read as.
Too many containers that are open at once are refused.

Main definitions:

- `Json.depth` is the number of containers that are open at once in the text of a value.
- `Json.reread?` is what the text of a value is read as.
- `Json.valueTokens` are the tokens of a value.

Main results:

- `Json.tokens?_chars`: a text is split into the tokens of what it is read as.
- `Json.Machine.foldlM_valueTokens`: the machine builds a value from its tokens.
- `Json.ofText?_text`: both for a whole text.
- `Json.reread?_eq_self`: a value whose doubles are read back is read back.
-/

namespace RelationalQuery.Json

/-! ## Values that are read again -/

mutual

/-- The number of containers that are open at once in the text of a value. -/
def depth : Json → Nat
  | .array items => 1 + itemsDepth items
  | .object members => 1 + membersDepth members
  | .null | .bool _ | .number _ | .string _ => 0

/-- The number of containers that are open at once in the texts of items. -/
def itemsDepth : List Json → Nat
  | [] => 0
  | item :: rest => max item.depth (itemsDepth rest)

/-- The number of containers that are open at once in the texts of the values of members. -/
def membersDepth : List (String × Json) → Nat
  | [] => 0
  | (_, value) :: rest => max value.depth (membersDepth rest)

end

mutual

/-- What the text of a value is read as: every number is what its own text is read as. -/
def reread? : Json → Option Json
  | .null => some .null
  | .bool value => some (.bool value)
  | .number n => (readNumber? n.text.toList).map .number
  | .string value => some (.string value)
  | .array items => (itemsReread? items).map .array
  | .object members => (membersReread? members).map .object

/-- What the texts of items are read as. -/
def itemsReread? : List Json → Option (List Json)
  | [] => some []
  | item :: rest => do
    let item ← item.reread?
    return item :: (← itemsReread? rest)

/-- What the texts of the values of members are read as. -/
def membersReread? : List (String × Json) → Option (List (String × Json))
  | [] => some []
  | (name, value) :: rest => do
    let value ← value.reread?
    return (name, value) :: (← membersReread? rest)

end

mutual

/-- The doubles inside a value. -/
def doubles : Json → List Binary64
  | .number (.real x) => [x]
  | .array items => itemsDoubles items
  | .object members => membersDoubles members
  | .null | .bool _ | .number (.integer _ _) | .string _ => []

/-- The doubles inside items. -/
def itemsDoubles : List Json → List Binary64
  | [] => []
  | item :: rest => item.doubles ++ itemsDoubles rest

/-- The doubles inside the values of members. -/
def membersDoubles : List (String × Json) → List Binary64
  | [] => []
  | (_, value) :: rest => value.doubles ++ membersDoubles rest

end

mutual

/-- A value whose doubles are read back is read back. -/
theorem reread?_eq_self : ∀ {value : Json}, (∀ x ∈ value.doubles, x.IsReadBack) →
    value.reread? = some value
  | .null, _ | .bool _, _ | .string _, _ => by rw [reread?]
  | .number (.integer value inRange), _ => by
    rw [reread?, Number.text, readNumber?_integer value inRange, Option.map_some]
  | .number (.real x), h => by
    have hx : readNumber? x.text.toList = some (.real x) := h x (by simp [doubles])
    rw [reread?, Number.text, hx, Option.map_some]
  | .array items, h => by
    rw [doubles] at h
    rw [reread?, itemsReread?_eq_self h, Option.map_some]
  | .object members, h => by
    rw [doubles] at h
    rw [reread?, membersReread?_eq_self h, Option.map_some]

/-- Items whose doubles are read back are read back. -/
theorem itemsReread?_eq_self : ∀ {items : List Json}, (∀ x ∈ itemsDoubles items, x.IsReadBack) →
    itemsReread? items = some items
  | [], _ => by rw [itemsReread?]
  | item :: rest, h => by
    rw [itemsDoubles, List.forall_mem_append] at h
    rw [itemsReread?, reread?_eq_self h.1, itemsReread?_eq_self h.2]
    rfl

/-- Members whose doubles are read back are read back. -/
theorem membersReread?_eq_self : ∀ {members : List (String × Json)},
    (∀ x ∈ membersDoubles members, x.IsReadBack) → membersReread? members = some members
  | [], _ => by rw [membersReread?]
  | (name, value) :: rest, h => by
    rw [membersDoubles, List.forall_mem_append] at h
    rw [membersReread?, reread?_eq_self h.1, membersReread?_eq_self h.2]
    rfl

end

/-! ## Tokens of a text -/

mutual

/-- The tokens of a value. -/
def valueTokens : Json → List Token
  | .array [] => [.openArray, .closeArray]
  | .array (item :: items) => .openArray :: valueTokens item ++ itemTokens items ++ [.closeArray]
  | .object [] => [.openObject, .closeObject]
  | .object ((key, value) :: members) =>
    .openObject :: .scalar (.string key) :: .colon :: valueTokens value ++ memberTokens members ++
      [.closeObject]
  | .null => [.scalar .null]
  | .bool value => [.scalar (.bool value)]
  | .number n => [.scalar (.number n)]
  | .string value => [.scalar (.string value)]

/-- The tokens of further items, each after a comma. -/
def itemTokens : List Json → List Token
  | [] => []
  | item :: items => .comma :: valueTokens item ++ itemTokens items

/-- The tokens of further members, each after a comma. -/
def memberTokens : List (String × Json) → List Token
  | [] => []
  | (key, value) :: members =>
    .comma :: .scalar (.string key) :: .colon :: valueTokens value ++ memberTokens members

end

/-- A text does not go on with a character of a word. -/
def EndsWord (rest : List Char) : Prop := ∀ c ∈ rest.head?, isWordChar c = false

theorem tokens?_structural {c : Char} {token : Token} (rest : List Char)
    (h : structural? c = some token) : tokens? (c :: rest) = (tokens? rest).map (token :: ·) := by
  have hblank : ¬ (c = ' ' ∨ c = '\n' ∨ c = '\r' ∨ c = '\t') := by
    rintro (rfl | rfl | rfl | rfl) <;> cases h
  rw [tokens?, if_neg hblank, h]

/-- A character of a word is not a blank, a quote or structural. -/
theorem isWordChar_cases {c : Char} (h : isWordChar c = true) :
    ¬ (c = ' ' ∨ c = '\n' ∨ c = '\r' ∨ c = '\t') ∧ structural? c = none ∧ c ≠ '"' := by
  refine ⟨?_, ?_, ?_⟩
  · rintro (rfl | rfl | rfl | rfl) <;> revert h <;> decide
  · unfold structural?
    split
    all_goals first
      | rfl
      | exact absurd h (by decide)
  · rintro rfl
    revert h
    decide

/-- A word is split off as the scalar that it stands for. -/
theorem tokens?_word {word rest : List Char} {value : Json} (isWord : IsWord word)
    (ends : EndsWord rest) (h : readWord? word = some value) :
    tokens? (word ++ rest) = (tokens? rest).map (.scalar value :: ·) := by
  obtain ⟨c, cs, rfl⟩ := List.exists_cons_of_ne_nil isWord.nonempty
  obtain ⟨hc, hcs⟩ := List.forall_mem_cons.1 isWord.chars
  obtain ⟨hblank, hstructural, hquote⟩ := isWordChar_cases hc
  have hrest : rest.takeWhile isWordChar = [] ∧ rest.dropWhile isWordChar = rest := by
    cases rest with
    | nil => exact ⟨rfl, rfl⟩
    | cons d rest =>
      have hd : isWordChar d = false := ends d rfl
      exact ⟨List.takeWhile_cons_of_neg (by simp [hd]), List.dropWhile_cons_of_neg (by simp [hd])⟩
  rw [List.cons_append, tokens?, if_neg hblank, hstructural]
  simp only
  rw [if_neg hquote, if_pos hc, List.takeWhile_append_of_pos hcs, List.dropWhile_append_of_pos hcs,
    hrest.1, hrest.2, List.append_nil, h]

/-! ## Strings -/

theorem hexValue?_hexDigit : ∀ n < 16, Text.hexValue? (hexDigit n) = some n := by
  decide

/-- A character is escaped by a letter, by its code, or not at all. -/
theorem escape_cases (c : Char) :
    (∃ d, d ≠ 'u' ∧ shortEscape? d = some c ∧ escape c = ['\\', d]) ∨
    (c.toNat < 0x20 ∧
      escape c = ['\\', 'u', '0', '0', hexDigit (c.toNat / 16), hexDigit (c.toNat % 16)]) ∨
    (0x20 ≤ c.toNat ∧ c ≠ '"' ∧ c ≠ '\\' ∧ escape c = [c]) := by
  unfold escape
  split_ifs with hquote hbackslash hb hf hn hr ht hcontrol
  · exact .inl ⟨'"', by decide, by rw [hquote]; rfl, rfl⟩
  · exact .inl ⟨'\\', by decide, by rw [hbackslash]; rfl, rfl⟩
  · exact .inl ⟨'b', by decide, by rw [hb]; rfl, rfl⟩
  · exact .inl ⟨'f', by decide, by rw [hf]; rfl, rfl⟩
  · exact .inl ⟨'n', by decide, by rw [hn]; rfl, rfl⟩
  · exact .inl ⟨'r', by decide, by rw [hr]; rfl, rfl⟩
  · exact .inl ⟨'t', by decide, by rw [ht]; rfl, rfl⟩
  · exact .inr (.inl ⟨hcontrol, rfl⟩)
  · exact .inr (.inr ⟨by omega, hquote, hbackslash, rfl⟩)

/-- An escaped character is read back. -/
theorem readString?_escape (c : Char) (rest done : List Char) :
    readString? (escape c ++ rest) done = readString? rest (c :: done) := by
  obtain ⟨d, hu, hd, h⟩ | ⟨hcontrol, h⟩ | ⟨hplain, hquote, hbackslash, h⟩ := escape_cases c
  · rw [h, List.cons_append, List.cons_append, List.nil_append, readString?, hd]
    rintro - - - - - hu' -
    exact hu hu'
  · have hunit : codeUnit? '0' '0' (hexDigit (c.toNat / 16)) (hexDigit (c.toNat % 16)) =
        some c.toNat := by
      rw [codeUnit?, hexValue?_hexDigit _ (by omega), hexValue?_hexDigit _ (by omega)]
      simp only [show Text.hexValue? '0' = some 0 from rfl, Option.bind_eq_bind, Option.bind_some,
        Option.pure_def, Option.some.injEq]
      omega
    rw [h]
    simp only [List.cons_append, List.nil_append, readString?, hunit]
    rw [if_neg (by omega), if_neg (by omega), Char.ofNat_toNat]
  · rw [h, List.cons_append, List.nil_append, readString?, if_neg (by omega)]
    all_goals simp [hquote, hbackslash]

/-- An escaped text is read back. -/
theorem readString?_flatMap (cs rest done : List Char) :
    readString? (cs.flatMap escape ++ rest) done = readString? rest (cs.reverse ++ done) := by
  induction cs generalizing done with
  | nil => rfl
  | cons c cs ih =>
    rw [List.flatMap_cons, List.append_assoc, readString?_escape, ih, List.reverse_cons,
      List.append_assoc, List.singleton_append]

/-- A string in quotes is split off. -/
theorem tokens?_quoted (text : String) (rest : List Char) :
    tokens? (quoted text ++ rest) = (tokens? rest).map (.scalar (.string text) :: ·) := by
  have hread : readString? (text.toList.flatMap escape ++ '"' :: rest) [] = some (text, rest) := by
    rw [readString?_flatMap, readString?, List.append_nil, List.reverse_reverse,
      String.ofList_toList]
  rw [quoted, List.cons_append, List.cons_append, List.append_assoc, List.singleton_append, tokens?,
    if_neg (by decide), show structural? '"' = none from rfl]
  simp only [if_true]
  split
  · rename_i hnone
    rw [hread] at hnone
    cases hnone
  · rename_i hsome
    rw [hread] at hsome
    cases hsome
    rfl

/-! ## Whole values -/

/-- The text of a number is a word that stands for what the number is read as. -/
theorem readWord?_of_readNumber? {word : List Char} {n : Number} (h : readNumber? word = some n) :
    readWord? word = some (.number n) := by
  have hword : ∀ other, readNumber? other = none → word ≠ other := by
    rintro other hother rfl
    rw [hother] at h
    cases h
  rw [readWord?, if_neg (hword _ (by decide)), if_neg (hword _ (by decide)),
    if_neg (hword _ (by decide)), h, Option.map_some]

theorem endsWord_itemChars {items : List Json} {rest : List Char} (ends : EndsWord rest) :
    EndsWord (itemChars items ++ rest) := by
  cases items with
  | nil => simpa only [itemChars, List.nil_append] using ends
  | cons item items =>
    intro c hc
    cases hc
    decide

theorem endsWord_memberChars {members : List (String × Json)} {rest : List Char}
    (ends : EndsWord rest) : EndsWord (memberChars members ++ rest) := by
  cases members with
  | nil => simpa only [memberChars, List.nil_append] using ends
  | cons member members =>
    intro c hc
    cases hc
    decide

theorem endsWord_closing {c : Char} (h : isWordChar c = false) (rest : List Char) :
    EndsWord (c :: rest) := by
  intro d hd
  cases hd
  exact h

mutual

/-- The text of a value is split into the tokens of what it is read as. -/
theorem tokens?_chars : ∀ {value reread : Json} {rest : List Char},
    value.reread? = some reread → EndsWord rest →
      tokens? (value.chars ++ rest) = (tokens? rest).map (valueTokens reread ++ ·)
  | .null, _, rest, h, ends => by
    cases h
    exact tokens?_word ⟨by decide, List.all_eq_true.1 (by decide)⟩ ends rfl
  | .bool true, _, rest, h, ends => by
    cases h
    exact tokens?_word ⟨by decide, List.all_eq_true.1 (by decide)⟩ ends rfl
  | .bool false, _, rest, h, ends => by
    cases h
    exact tokens?_word ⟨by decide, List.all_eq_true.1 (by decide)⟩ ends rfl
  | .number n, _, rest, h, ends => by
    obtain ⟨m, hm, rfl⟩ := Option.map_eq_some_iff.1 h
    exact tokens?_word n.isWord_text ends (readWord?_of_readNumber? hm)
  | .string text, _, rest, h, ends => by
    cases h
    exact tokens?_quoted text rest
  | .array items, _, rest, h, ends => by
    obtain ⟨rereads, hitems, rfl⟩ := Option.map_eq_some_iff.1 h
    cases items with
    | nil =>
      cases hitems
      simp only [chars, List.cons_append, List.nil_append]
      rw [tokens?_structural _ (show structural? '[' = some .openArray from rfl),
        tokens?_structural _ (show structural? ']' = some .closeArray from rfl)]
      simp [valueTokens, Function.comp_def]
    | cons item items =>
      obtain ⟨reread, hitem, hitems⟩ := Option.bind_eq_some_iff.1 hitems
      obtain ⟨rereads, hrest, hitems⟩ := Option.bind_eq_some_iff.1 hitems
      cases hitems
      have hclosing := endsWord_closing (show isWordChar ']' = false by decide) rest
      simp only [chars, List.cons_append, List.append_assoc, List.nil_append]
      rw [tokens?_structural _ (show structural? '[' = some .openArray from rfl),
        tokens?_chars hitem (endsWord_itemChars hclosing), tokens?_itemChars hrest hclosing,
        tokens?_structural _ (show structural? ']' = some .closeArray from rfl)]
      simp [valueTokens, Function.comp_def]
  | .object members, _, rest, h, ends => by
    obtain ⟨rereads, hmembers, rfl⟩ := Option.map_eq_some_iff.1 h
    cases members with
    | nil =>
      cases hmembers
      simp only [chars, List.cons_append, List.nil_append]
      rw [tokens?_structural _ (show structural? '\x7b' = some .openObject from rfl),
        tokens?_structural _ (show structural? '\x7d' = some .closeObject from rfl)]
      simp [valueTokens, Function.comp_def]
    | cons member members =>
      obtain ⟨key, value⟩ := member
      obtain ⟨reread, hvalue, hmembers⟩ := Option.bind_eq_some_iff.1 hmembers
      obtain ⟨rereads, hrest, hmembers⟩ := Option.bind_eq_some_iff.1 hmembers
      cases hmembers
      have hclosing := endsWord_closing (show isWordChar '\x7d' = false by decide) rest
      simp only [chars, List.cons_append, List.append_assoc, List.nil_append]
      rw [tokens?_structural _ (show structural? '\x7b' = some .openObject from rfl),
        tokens?_quoted, tokens?_structural _ (show structural? ':' = some .colon from rfl),
        tokens?_chars hvalue (endsWord_memberChars hclosing), tokens?_memberChars hrest hclosing,
        tokens?_structural _ (show structural? '\x7d' = some .closeObject from rfl)]
      simp [valueTokens, Function.comp_def]

/-- The text of further items is split into the tokens of what they are read as. -/
theorem tokens?_itemChars : ∀ {items rereads : List Json} {rest : List Char},
    itemsReread? items = some rereads → EndsWord rest →
      tokens? (itemChars items ++ rest) = (tokens? rest).map (itemTokens rereads ++ ·)
  | [], _, rest, h, ends => by
    cases h
    simp [itemChars, itemTokens]
  | item :: items, _, rest, h, ends => by
    obtain ⟨reread, hitem, h⟩ := Option.bind_eq_some_iff.1 h
    obtain ⟨rereads, hitems, h⟩ := Option.bind_eq_some_iff.1 h
    cases h
    rw [itemChars, List.cons_append, List.cons_append, List.append_assoc,
      tokens?_structural _ (show structural? ',' = some .comma from rfl),
      tokens?_chars hitem (endsWord_itemChars ends), tokens?_itemChars hitems ends]
    simp [itemTokens, Function.comp_def]

/-- The text of further members is split into the tokens of what they are read as. -/
theorem tokens?_memberChars : ∀ {members rereads : List (String × Json)} {rest : List Char},
    membersReread? members = some rereads → EndsWord rest →
      tokens? (memberChars members ++ rest) = (tokens? rest).map (memberTokens rereads ++ ·)
  | [], _, rest, h, ends => by
    cases h
    simp [memberChars, memberTokens]
  | (key, value) :: members, _, rest, h, ends => by
    obtain ⟨reread, hvalue, h⟩ := Option.bind_eq_some_iff.1 h
    obtain ⟨rereads, hmembers, h⟩ := Option.bind_eq_some_iff.1 h
    cases h
    simp only [memberChars, List.cons_append, List.append_assoc]
    rw [tokens?_structural _ (show structural? ',' = some .comma from rfl), tokens?_quoted,
      tokens?_structural _ (show structural? ':' = some .colon from rfl),
      tokens?_chars hvalue (endsWord_memberChars ends), tokens?_memberChars hmembers ends]
    simp [memberTokens, Function.comp_def]

end

/-! ## Runs of the machine -/

namespace Machine

variable {stage : Stage} {frames outer : List Frame}

/-- The machine waits for a value. -/
def AwaitsValue (stage : Stage) : Prop := stage = .value ∨ stage = .valueOrClose

theorem step?_scalar (awaits : AwaitsValue stage) (value : Json) :
    step? ⟨stage, frames⟩ (.scalar value) = some (deliver frames value) := by
  rcases awaits with rfl | rfl <;> rfl

theorem step?_openArray (awaits : AwaitsValue stage) (bound : frames.length < maxOpen) :
    step? ⟨stage, frames⟩ .openArray = some ⟨.valueOrClose, .items [] :: frames⟩ := by
  rcases awaits with rfl | rfl <;> exact if_pos bound

theorem step?_openObject (awaits : AwaitsValue stage) (bound : frames.length < maxOpen) :
    step? ⟨stage, frames⟩ .openObject = some ⟨.keyOrClose, frames⟩ := by
  rcases awaits with rfl | rfl <;> exact if_pos bound

/-- No further container is opened when as many are open as may be. -/
theorem step?_of_full (awaits : AwaitsValue stage) (full : ¬ frames.length < maxOpen) :
    step? ⟨stage, frames⟩ .openArray = none ∧ step? ⟨stage, frames⟩ .openObject = none := by
  rcases awaits with rfl | rfl <;> exact ⟨if_neg full, if_neg full⟩

/-- Members with distinct names stay as they are. -/
theorem ordered_reverse {members : Members} (distinct : members.keys.Nodup) :
    ordered members.reverse = members := by
  rw [ordered, List.reverse_reverse]
  exact Entries.foldl_put_of_nodup distinct

/-- The machine hands a value on, unless too many containers are open at once. -/
def deliver? (outer : List Frame) (depth : Nat) (value : Json) : Option Machine :=
  if outer.length + depth ≤ maxOpen then some (deliver outer value) else none

theorem deliver?_zero (bound : frames.length ≤ maxOpen) (value : Json) :
    deliver? frames 0 value = some (deliver frames value) :=
  if_pos bound

theorem deliver?_one (bound : outer.length < maxOpen) (value : Json) :
    deliver? outer (1 + 0) value = some (deliver outer value) :=
  if_pos bound

theorem deliver?_of_full (full : ¬ outer.length < maxOpen) (depth : Nat) (value : Json) :
    deliver? outer (1 + depth) value = none :=
  if_neg (by omega)

/-- The tokens of an inner value are followed by those of the rest of its container.  Too many open
containers are refused in one of the two. -/
theorem foldlM_append {machine : Machine} {tokens rest : List Token} {inner : List Frame}
    {d e : Nat} {value result : Json} (nested : inner.length = outer.length + 1)
    (h : tokens.foldlM step? machine = deliver? inner d value)
    (hrest : rest.foldlM step? (deliver inner value) = deliver? outer (1 + e) result) :
    (tokens ++ rest).foldlM step? machine = deliver? outer (1 + max d e) result := by
  rw [List.foldlM_append, h, deliver?]
  by_cases hinner : inner.length + d ≤ maxOpen
  · rw [if_pos hinner, Option.bind_eq_bind, Option.bind_some, hrest, deliver?, deliver?]
    refine if_congr ?_ rfl rfl
    omega
  · rw [if_neg hinner, Option.bind_eq_bind, Option.bind_none, deliver?, if_neg (by omega)]

mutual

/-- The machine builds a value from its tokens. -/
theorem foldlM_valueTokens : ∀ {value : Json} {stage : Stage} {frames : List Frame},
    value.hasDistinctNames = true → AwaitsValue stage → frames.length ≤ maxOpen →
      (valueTokens value).foldlM step? ⟨stage, frames⟩ = deliver? frames value.depth value
  | .null, _, _, _, awaits, bound | .bool _, _, _, _, awaits, bound
  | .number _, _, _, _, awaits, bound | .string _, _, _, _, awaits, bound => by
    simp [valueTokens, depth, step?_scalar awaits, deliver?_zero bound]
  | .array items, stage, frames, distinct, awaits, _ => by
    rw [hasDistinctNames_array] at distinct
    rw [depth]
    by_cases hopen : frames.length < maxOpen
    · cases items with
      | nil =>
        rw [valueTokens, List.foldlM_cons, step?_openArray awaits hopen, itemsDepth,
          deliver?_one hopen]
        rfl
      | cons item items =>
        obtain ⟨hitem, hitems⟩ := List.forall_mem_cons.1 distinct
        have hvalue : (valueTokens item).foldlM step? ⟨.valueOrClose, .items [] :: frames⟩ =
            deliver? (.items [] :: frames) item.depth item :=
          foldlM_valueTokens hitem (.inr rfl) hopen
        rw [valueTokens, List.cons_append, List.cons_append, List.foldlM_cons,
          step?_openArray awaits hopen, List.append_assoc, itemsDepth]
        exact foldlM_append rfl hvalue (foldlM_itemTokens hitems hopen)
    · rw [deliver?_of_full hopen]
      cases items <;> simp [valueTokens, step?_of_full awaits hopen]
  | .object members, stage, frames, distinct, awaits, _ => by
    obtain ⟨hnames, hvalues⟩ := hasDistinctNames_object.1 distinct
    rw [depth]
    by_cases hopen : frames.length < maxOpen
    · cases members with
      | nil =>
        rw [valueTokens, List.foldlM_cons, step?_openObject awaits hopen, membersDepth,
          deliver?_one hopen]
        rfl
      | cons member members =>
        obtain ⟨key, item⟩ := member
        obtain ⟨hitem, hmembers⟩ := List.forall_mem_cons.1 hvalues
        have hvalue : (valueTokens item).foldlM step? ⟨.value, .members [] key :: frames⟩ =
            deliver? (.members [] key :: frames) item.depth item :=
          foldlM_valueTokens hitem (.inl rfl) hopen
        have hrest : (memberTokens members ++ [Token.closeObject]).foldlM step?
            (deliver (.members [] key :: frames) item) =
            deliver? frames (1 + membersDepth members)
              (.object (ordered (members.reverse ++ [(key, item)]))) :=
          foldlM_memberTokens hmembers hopen
        rw [← List.reverse_cons, ordered_reverse hnames] at hrest
        simp only [valueTokens, List.cons_append, List.append_assoc, membersDepth]
        rw [List.foldlM_cons, step?_openObject awaits hopen]
        exact foldlM_append rfl hvalue hrest
    · rw [deliver?_of_full hopen]
      cases members <;> simp [valueTokens, step?_of_full awaits hopen]

/-- The machine builds an array from the tokens of its further items. -/
theorem foldlM_itemTokens : ∀ {items done : List Json} {outer : List Frame},
    (∀ item ∈ items, item.hasDistinctNames = true) → outer.length < maxOpen →
      (itemTokens items ++ [Token.closeArray]).foldlM step? ⟨.separator, .items done :: outer⟩ =
        deliver? outer (1 + itemsDepth items) (.array (done.reverse ++ items))
  | [], done, outer, _, bound => by
    rw [itemsDepth, deliver?_one bound, List.append_nil]
    rfl
  | item :: items, done, outer, distinct, bound => by
    obtain ⟨hitem, hitems⟩ := List.forall_mem_cons.1 distinct
    have hvalue : (valueTokens item).foldlM step? ⟨.value, .items done :: outer⟩ =
        deliver? (.items done :: outer) item.depth item :=
      foldlM_valueTokens hitem (.inl rfl) bound
    have hrest : (itemTokens items ++ [Token.closeArray]).foldlM step?
        (deliver (.items done :: outer) item) =
        deliver? outer (1 + itemsDepth items) (.array ((item :: done).reverse ++ items)) :=
      foldlM_itemTokens hitems bound
    rw [List.reverse_cons, List.append_assoc, List.singleton_append] at hrest
    rw [itemTokens, List.cons_append, List.cons_append, List.append_assoc, itemsDepth]
    exact foldlM_append rfl hvalue hrest

/-- The machine builds an object from the tokens of its further members. -/
theorem foldlM_memberTokens : ∀ {members done : Members} {key : String} {outer : List Frame},
    (∀ member ∈ members, member.2.hasDistinctNames = true) → outer.length < maxOpen →
      (memberTokens members ++ [Token.closeObject]).foldlM step?
          ⟨.separator, .members done key :: outer⟩ =
        deliver? outer (1 + membersDepth members) (.object (ordered (members.reverse ++ done)))
  | [], done, _, outer, _, bound => by
    rw [membersDepth, deliver?_one bound]
    rfl
  | (key, item) :: members, done, _, outer, distinct, bound => by
    obtain ⟨hitem, hmembers⟩ := List.forall_mem_cons.1 distinct
    have hvalue : (valueTokens item).foldlM step? ⟨.value, .members done key :: outer⟩ =
        deliver? (.members done key :: outer) item.depth item :=
      foldlM_valueTokens hitem (.inl rfl) bound
    have hrest : (memberTokens members ++ [Token.closeObject]).foldlM step?
        (deliver (.members done key :: outer) item) =
        deliver? outer (1 + membersDepth members)
          (.object (ordered (members.reverse ++ (key, item) :: done))) :=
      foldlM_memberTokens hmembers bound
    rw [List.reverse_cons, List.append_assoc, List.singleton_append]
    simp only [memberTokens, List.cons_append, List.append_assoc, membersDepth]
    exact foldlM_append rfl hvalue hrest

end

end Machine

/-- The text of a value is read as the value with its numbers read again, unless too many containers
are open at once. -/
theorem ofText?_text {value reread : Json} (h : value.reread? = some reread)
    (distinct : reread.hasDistinctNames = true) :
    ofText? value.text = if reread.depth ≤ Machine.maxOpen then some reread else none := by
  have htokens : tokens? value.text.toList = some (valueTokens reread) := by
    have hchars := tokens?_chars h (show EndsWord [] from nofun)
    rw [List.append_nil, tokens?, Option.map_some, List.append_nil] at hchars
    rw [text, String.toList_ofList, hchars]
  have hrun : (valueTokens reread).foldlM Machine.step? ⟨.value, []⟩ =
      Machine.deliver? [] reread.depth reread :=
    Machine.foldlM_valueTokens distinct (.inl rfl) (Nat.zero_le _)
  rw [ofText?, htokens]
  simp only [Option.bind_eq_bind, Option.bind_some, Machine.start]
  rw [hrun, Machine.deliver?, List.length_nil, Nat.zero_add]
  by_cases hdepth : reread.depth ≤ Machine.maxOpen
  · rw [if_pos hdepth, if_pos hdepth, Option.bind_some, Machine.deliver]
  · rw [if_neg hdepth, if_neg hdepth, Option.bind_none]

end RelationalQuery.Json
