import RelationalQuery.Proofs.Calendar
import RelationalQuery.Proofs.Parameter
import RelationalQuery.Proofs.Parameter.Integer

/-!
# Hints of bound values

A hint is attached to a value where its text is read as what the hint says, either by its form alone
or because a validator has accepted it for a field with a format.  Whatever is read has a binary form
at the column type that the hint names: every date fits four bytes, and every time and timestamp
eight.

Main definitions:

- `TypeHint.Reads` says that a value is read as what a hint says.
- `TypeHint.Writes` says that bytes are the binary form of a value with a hint.

Main results:

- `TypeHint.reads_of_detect?` and `TypeHint.reads_of_validate`: only values that are read get hints.
- `TypeHint.Reads.exists_binary`: values that are read are bound.
- `Parameter.hint_binds`: a parameter with a hint is bound to the type that the hint names.
-/

namespace RelationalQuery

namespace TypeHint

/-! ## Values with hints -/

/-- A value is read as what a hint says.  Every value but null is read as JSON. -/
inductive Reads : TypeHint → Json → Prop
  | uuid {text : String} {uuid : Uuid} (read : Uuid.ofText? text = some uuid) :
      Reads .uuid (.string text)
  | date {text : String} {date : Date} (read : Date.ofText? text = some date) :
      Reads .date (.string text)
  | time {text : String} {time : TimeOfDay} (read : TimeOfDay.ofText? text = some time) :
      Reads .time (.string text)
  | timestamp {text : String} {timestamp : Timestamp}
      (read : Timestamp.ofText? text = some timestamp) : Reads .timestamp (.string text)
  | json {value : Json} (nonnull : value ≠ .null) : Reads .json value

/-- Bytes are the binary form of a value with a hint: of what its text is read as, or of its JSON text
behind the number one. -/
inductive Writes : TypeHint → Json → List UInt8 → Prop
  | uuid {text : String} {uuid : Uuid} (read : Uuid.ofText? text = some uuid) :
      Writes .uuid (.string text) uuid.bytes
  | date {text : String} {date : Date} {bytes : List UInt8} (read : Date.ofText? text = some date)
      (writes : WritesInteger 4 date.dayNumber bytes) : Writes .date (.string text) bytes
  | time {text : String} {time : TimeOfDay} {bytes : List UInt8}
      (read : TimeOfDay.ofText? text = some time)
      (writes : WritesInteger 8 time.microseconds bytes) : Writes .time (.string text) bytes
  | timestamp {text : String} {timestamp : Timestamp} {bytes : List UInt8}
      (read : Timestamp.ofText? text = some timestamp)
      (writes : WritesInteger 8 timestamp.microseconds bytes) :
      Writes .timestamp (.string text) bytes
  | json (value : Json) : Writes .json value (1 :: value.text.toUTF8.toList)

variable {hint : TypeHint} {value : Json} {text : String}

/-! ## Values that get hints -/

/-- A time with seconds is a time. -/
theorem ofText?_of_ofFullText? {time : TimeOfDay} (h : TimeOfDay.ofFullText? text = some time) :
    TimeOfDay.ofText? text = some time := by
  rw [TimeOfDay.ofText?, h]

/-- A text whose form suggests a hint is read as what the hint says. -/
theorem reads_of_detect? (h : detect? text = some hint) : hint.Reads (.string text) := by
  unfold detect? at h
  split at h
  · rename_i hform
    obtain ⟨uuid, huuid⟩ := Option.isSome_iff_exists.1 hform.2
    exact Option.some.inj h ▸ .uuid huuid
  split at h
  · rename_i hform
    obtain ⟨timestamp, htimestamp⟩ := Option.isSome_iff_exists.1 hform.2
    exact Option.some.inj h ▸ .timestamp htimestamp
  split at h
  · rename_i hform
    obtain ⟨date, hdate⟩ := Option.isSome_iff_exists.1 hform
    exact Option.some.inj h ▸ .date hdate
  split at h
  · rename_i hform
    obtain ⟨time, htime⟩ := Option.isSome_iff_exists.1 hform
    exact Option.some.inj h ▸ .time (ofText?_of_ofFullText? htime)
  · simp at h

/-- A text of a format is read as what the hint of the format says. -/
theorem reads_of_accepts {format : StringFormat} (h : format.accepts text = true)
    (hinted : format.hint? = some hint) : hint.Reads (.string text) := by
  cases format with
  | uuid =>
    obtain ⟨uuid, huuid⟩ := Option.isSome_iff_exists.1 h
    exact Option.some.inj hinted ▸ .uuid huuid
  | date =>
    obtain ⟨date, hdate⟩ := Option.isSome_iff_exists.1 h
    exact Option.some.inj hinted ▸ .date hdate
  | dateTime =>
    obtain ⟨timestamp, htimestamp⟩ := Option.isSome_iff_exists.1 h
    exact Option.some.inj hinted ▸ .timestamp htimestamp
  | time =>
    obtain ⟨time, htime⟩ := Option.isSome_iff_exists.1 h
    exact Option.some.inj hinted ▸ .time htime
  | email | url | other => simp [StringFormat.hint?] at hinted

variable {parameter : Parameter}

/-- A value that gets a hint by its form is read as what the hint says. -/
theorem reads_of_detect (h : Parameter.detect value = .ok parameter)
    (hinted : parameter.hint? = some hint) : hint.Reads value := by
  cases value with
  | null => simp [Parameter.detect] at h
  | bool _ | number _ =>
    rw [← Except.ok.inj h] at hinted
    simp [Parameter.plain] at hinted
  | string text =>
    rw [← Except.ok.inj h] at hinted
    exact reads_of_detect? hinted
  | array _ | object _ =>
    rw [← Except.ok.inj h] at hinted
    exact Option.some.inj hinted ▸ .json Json.noConfusion

/-- A valid value that gets a hint by its field is read as what the hint says. -/
theorem reads_of_validate {field : Field} {path : String} {mode : ValidationMode}
    (valid : field.validate value path mode = .ok ())
    (h : Parameter.ofValue value (some field) = .ok parameter)
    (hinted : parameter.hint? = some hint) : hint.Reads value := by
  have hnonnull : value ≠ .null := Parameter.succeeds_ofValue_iff.1 ⟨parameter, h⟩
  obtain ⟨kind, _, _, _, _⟩ := field
  have hkind : Parameter.ofKind kind value = .ok parameter := by
    cases value with
    | null => exact absurd rfl hnonnull
    | bool _ | number _ | string _ | array _ | object _ => exact h
  rw [Field.validate] at valid
  rotate_left
  · exact hnonnull
  cases kind with
  | boolean | number _ =>
    rw [← Except.ok.inj hkind] at hinted
    simp [Parameter.plain] at hinted
  | object _ | array _ =>
    rw [← Except.ok.inj hkind] at hinted
    exact Option.some.inj hinted ▸ .json hnonnull
  | union _ => exact reads_of_detect hkind hinted
  | string format =>
    rw [← Except.ok.inj hkind] at hinted
    obtain ⟨format, rfl, hformat⟩ := Option.bind_eq_some_iff.1 hinted
    cases value with
    | string text =>
      refine reads_of_accepts ?_ hformat
      simpa [FieldKind.validate, checkText, ensure] using valid
    | null | bool _ | number _ | array _ | object _ => simp [FieldKind.validate] at valid

/-! ## Binary forms -/

/-- The column type that a hint names. -/
def columnType : TypeHint → ColumnType
  | .uuid => .uuid
  | .date => .date
  | .time => .time
  | .timestamp => .timestamptz
  | .json => .jsonb

theorem ofName?_sqlType (hint : TypeHint) :
    ColumnType.ofName? hint.sqlType = some hint.columnType := by
  cases hint <;> decide

/-- A text with a hint is bound as the hint says. -/
theorem binary_string (hint : TypeHint) (text : String) (type : ColumnType) :
    Parameter.binary ⟨.string text, some hint⟩ type = some <$> hint.binary text type := by
  cases hint <;> rfl

/-- A timestamp is bound with and without a time zone. -/
theorem exists_binary_timestamp {timestamp : Timestamp} {type : ColumnType}
    (read : Timestamp.ofText? text = some timestamp)
    (own : type = .timestamp ∨ type = .timestamptz) :
    ∃ bytes, Parameter.binary ⟨.string text, some .timestamp⟩ type = .ok (some bytes) ∧
      TypeHint.timestamp.Writes (.string text) bytes := by
  have hfits : FitsBytes 8 timestamp.microseconds := timestamp.microseconds_inRange
  obtain ⟨bytes, hbytes, hwrites⟩ := exists_signedOr .tooLarge (by decide) hfits
  refine ⟨bytes, ?_, .timestamp read hwrites⟩
  have hbinary : Timestamp.binaryOfText text type =
      signedOr .tooLarge 8 timestamp.microseconds := by
    rcases own with rfl | rfl <;>
      simp [Timestamp.binaryOfText, read, readOr, onlyAt, bind, Except.bind]
  rw [binary_string, binary, hbinary, hbytes]
  rfl

/-- A value that is read as what a hint says is bound to the type that the hint names. -/
theorem Reads.exists_binary (h : hint.Reads value) :
    ∃ bytes, Parameter.binary ⟨value, some hint⟩ hint.columnType = .ok (some bytes) ∧
      hint.Writes value bytes := by
  cases h with
  | uuid read =>
    refine ⟨_, ?_, .uuid read⟩
    rw [binary_string, binary, Uuid.binaryOfText, read]
    rfl
  | @date text date read =>
    have hfits : FitsBytes 4 date.dayNumber := by
      obtain ⟨hleast, hmost⟩ := date.dayNumber_inRange
      exact ⟨by omega, by omega⟩
    obtain ⟨bytes, hbytes, hwrites⟩ := exists_signedOr .tooLarge (by decide) hfits
    refine ⟨bytes, ?_, .date read hwrites⟩
    have hbinary : Date.binaryOfText text .date = signedOr .tooLarge 4 date.dayNumber := by
      simp [Date.binaryOfText, read, readOr, onlyAt, bind, Except.bind]
    rw [binary_string, binary, columnType, hbinary, hbytes]
    rfl
  | @time text time read =>
    have hfits : FitsBytes 8 time.microseconds := by
      have hmost := time.microseconds_lt
      exact ⟨by omega, by omega⟩
    obtain ⟨bytes, hbytes, hwrites⟩ := exists_signedOr .tooLarge (by decide) hfits
    refine ⟨bytes, ?_, .time read hwrites⟩
    have hbinary : TimeOfDay.binaryOfText text .time =
        signedOr .tooLarge 8 time.microseconds := by
      simp [TimeOfDay.binaryOfText, read, readOr, onlyAt, bind, Except.bind]
    rw [binary_string, binary, columnType, hbinary, hbytes]
    rfl
  | timestamp read => exact exists_binary_timestamp read (.inr rfl)
  | json nonnull =>
    refine ⟨_, ?_, .json value⟩
    have hbinary : Parameter.binary ⟨value, some .json⟩ .jsonb = some <$> value.binary .jsonb := by
      cases value with
      | null => exact absurd rfl nonnull
      | bool _ | number _ | string _ | array _ | object _ => rfl
    rw [columnType, hbinary]
    rfl

end TypeHint

/-- A hint never makes a value fail to be bound.  Whether the hint comes from the form of the value,
or from a field for which the value is valid, the parameter has a binary form at the type that the
hint names, and this is what the value is read as; a timestamp has the same form without a time
zone. -/
theorem Parameter.hint_binds {value : Json} {parameter : Parameter} {hint : TypeHint}
    (encoded : detect value = .ok parameter ∨ ∃ (field : Field) (path : String)
      (mode : ValidationMode), field.validate value path mode = .ok () ∧
        ofValue value (some field) = .ok parameter)
    (hinted : parameter.hint? = some hint) :
    (∃ type bytes, ColumnType.ofName? hint.sqlType = some type ∧
      parameter.binary type = .ok (some bytes) ∧ hint.Writes value bytes) ∧
    (hint = .timestamp → ∃ bytes, parameter.binary .timestamp = .ok (some bytes) ∧
      hint.Writes value bytes) := by
  obtain ⟨hvalue, hreads⟩ : parameter.value = value ∧ hint.Reads value := by
    rcases encoded with hdetected | ⟨field, path, mode, hvalid, hencoded⟩
    · exact ⟨value_of_detect hdetected, TypeHint.reads_of_detect hdetected hinted⟩
    · exact ⟨value_of_ofValue hencoded, TypeHint.reads_of_validate hvalid hencoded hinted⟩
  obtain ⟨_, _⟩ := parameter
  obtain rfl : _ = value := hvalue
  obtain rfl : _ = some hint := hinted
  refine ⟨?_, ?_⟩
  · obtain ⟨bytes, hbytes, hwrites⟩ := hreads.exists_binary
    exact ⟨_, bytes, hint.ofName?_sqlType, hbytes, hwrites⟩
  · rintro rfl
    cases hreads with
    | timestamp read => exact TypeHint.exists_binary_timestamp read (.inl rfl)

/-- The leap second of a timestamp is bound with a time zone and without one, and a time without
seconds by its field. -/
theorem Parameter.hint_binds_leap :
    (∃ parameter, detect (.string "2016-12-31T23:59:60Z") = .ok parameter ∧
      parameter.hint? = some .timestamp ∧
      (∃ bytes, parameter.binary .timestamptz = .ok (some bytes)) ∧
      ∃ bytes, parameter.binary .timestamp = .ok (some bytes)) ∧
    ∃ (field : Field) (parameter : Parameter),
      field.validate (.string "10:30") "book.read" .partialRecord = .ok () ∧
      ofValue (.string "10:30") (some field) = .ok parameter ∧
      parameter.hint? = some .time ∧ ∃ bytes, parameter.binary .time = .ok (some bytes) := by
  have detected : detect (.string "2016-12-31T23:59:60Z") =
      .ok ⟨.string "2016-12-31T23:59:60Z", some .timestamp⟩ := by decide
  let field : Field := .ofKind (.string (some .time))
  have valid : field.validate (.string "10:30") "book.read" .partialRecord = .ok () := by
    decide
  have encoded : ofValue (.string "10:30") (some field) = .ok ⟨.string "10:30", some .time⟩ := rfl
  refine ⟨⟨_, detected, rfl, ?_, ?_⟩, field, _, valid, encoded, rfl, ?_⟩
  · obtain ⟨type, bytes, htype, hbytes, -⟩ := (hint_binds (.inl detected) rfl).1
    obtain rfl : ColumnType.timestamptz = type := Option.some.inj htype
    exact ⟨bytes, hbytes⟩
  · obtain ⟨bytes, hbytes, -⟩ := (hint_binds (.inl detected) rfl).2 rfl
    exact ⟨bytes, hbytes⟩
  · obtain ⟨type, bytes, htype, hbytes, -⟩ :=
      (hint_binds (.inr ⟨field, _, _, valid, encoded⟩) rfl).1
    obtain rfl : ColumnType.time = type := Option.some.inj htype
    exact ⟨bytes, hbytes⟩

end RelationalQuery
