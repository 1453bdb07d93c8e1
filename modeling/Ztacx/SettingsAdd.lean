import Ztacx.CModel.StringCopy
import Ztacx.Variable
import Ztacx.VariablesCopy

/-!
# Adding a setting

`ztacx_settings_add` and `ztacx_setting_find` of `src/ztacx_settings.c`, on the list of
settings as the records it links.

`strncpy` fills the name array of the new record without a terminator if the name has
forty characters or more.  `strcmp` then runs on into `kind`, the next member, whose first
byte is its number and whose other bytes are zero.  So the record is found under the first
forty characters of its name and that byte, if it is not zero (`memoryName_newRecord`),
and an added setting is found exactly if this is its name (`addsSetting_iff`).
-/

namespace Ztacx.SettingsAdd

open CModel

/-! ## The code -/

/-- The number of a kind in `enum ztacx_value_kind`. -/
def code : ZtacxValueKind → ℕ
  | .string => 0
  | .bool => 1
  | .byte => 2
  | .uint16 => 3
  | .int16 => 4
  | .int32 => 5
  | .int64 => 6
  | .event => 7

/-- The text that `strcmp` finds at the name of a record: behind the array lies `kind`. -/
def memoryName (s : VariableRecord) : CString := .ofBytes (s.name.bytes ++ leBytes 4 (code s.kind))

/-- `ztacx_setting_find`. -/
def settingFind (settings : List VariableRecord) (name : CString) : Option VariableRecord :=
  settings.find? fun s => memoryName s = name

/-- What `ztacx_variable_value_set` sees of a record from `calloc`: its kind.  It does not
look at the name. -/
def clearedSetting (kind : ZtacxValueKind) : ZtacxVariable where
  name := .empty
  name_lt := by decide
  kind := kind
  value := .zero
  onChange := none

/-- The record that `ztacx_settings_add` fills in.  `strncpy` copies at most the size of the
array, and pads with zeros. -/
def newRecord (name : CString) (kind : ZtacxValueKind) (value : ZtacxValue) :
    VariableRecord where
  name := .ofText name
  kind := kind
  value := value
  onChange := none

/-- `ztacx_settings_add`, from whether there is memory for the record and for the text of a
STRING.  The record is not freed if the value is refused. -/
def ztacxSettingsAdd (allocSetting allocText : Bool) (settings : List VariableRecord)
    (name : CString) (kind : ZtacxValueKind) (value : Option (List UInt8)) :
    Except Fault (List VariableRecord × ℤ) :=
  if !allocSetting then .ok (settings, -ENOMEM)
  else do
    let set ← ztacxVariableValueSet allocText (clearedSetting kind) value
    if set.rc < 0 then return (settings, set.rc)
    else return (settings ++ [newRecord name kind set.setting.value], 0)

/-! ## What adding promises -/

/-- The value can be read as one of the kind: a string has a terminator, and a scalar its
bytes. -/
def Readable (kind : ZtacxValueKind) : Option (List UInt8) → Prop
  | none => True
  | some object => (kind = .string → 0 ∈ object) ∧ ∀ n, kind.scalarSize = some n → n ≤ object.length

/-- The value of a kind that an object stands for.  Without an object the record keeps the
zeros of `calloc`. -/
def initialValue (kind : ZtacxValueKind) : Option (List UInt8) → TypedValue
  | none => (clearedSetting kind).typedValue
  | some object =>
    match kind.scalarSize with
    | some n => .scalar (object.take n)
    | none => .text (some (.ofBytes object))

/-- The value of a record. -/
def recordValue (s : VariableRecord) : TypedValue :=
  { clearedSetting s.kind with value := s.value }.typedValue

/-- **Adding makes findable.**  Whatever memory there is: on success the name finds an entry
of that kind and value, and every other name finds what it found before; on failure the list
is as it was. -/
def AddsSetting (settings : List VariableRecord) (name : CString) (kind : ZtacxValueKind)
    (value : Option (List UInt8)) : Prop :=
  ∀ allocSetting allocText, ∃ settings' rc,
    ztacxSettingsAdd allocSetting allocText settings name kind value = .ok (settings', rc) ∧
    (rc = 0 → (∃ s, settingFind settings' name = some s ∧ s.kind = kind ∧
        recordValue s = initialValue kind value) ∧
      ∀ other, other ≠ name → settingFind settings' other = settingFind settings other) ∧
    (rc ≠ 0 → settings' = settings)

/-- The name survives the array and what lies behind it. -/
def NameKept (name : CString) (kind : ZtacxValueKind) : Prop :=
  name.strlen < CONFIG_ZTACX_VALUE_NAME_MAX ∨
    name.strlen = CONFIG_ZTACX_VALUE_NAME_MAX ∧ kind = .string ∨
    name.strlen = CONFIG_ZTACX_VALUE_NAME_MAX + 1 ∧
      name.bytes.getLast? = some (UInt8.ofNat (code kind))

/-! ## What the code does -/

section Adding

variable {settings : List VariableRecord} {name : CString} {kind : ZtacxValueKind}
  {value : Option (List UInt8)}

/-- The name of a record that fits its array. -/
theorem memoryName_newRecord_of_lt (short : name.strlen < CONFIG_ZTACX_VALUE_NAME_MAX)
    (kind : ZtacxValueKind) (value : ZtacxValue) :
    memoryName (newRecord name kind value) = name := by
  obtain ⟨m, room⟩ := Nat.exists_eq_add_of_lt short
  have zeros : CONFIG_ZTACX_VALUE_NAME_MAX - name.strlen = m + 1 := by omega
  show CString.ofBytes ((NameArray.ofText name).bytes ++ _) = name
  rw [NameArray.ofText_bytes short.le, CString.padded, zeros, List.replicate_succ,
    List.append_assoc, List.cons_append, CString.ofBytes_append_nul]

/-- The name of a record that does not. -/
theorem memoryName_newRecord_of_le (long : CONFIG_ZTACX_VALUE_NAME_MAX ≤ name.strlen)
    (kind : ZtacxValueKind) (value : ZtacxValue) :
    (memoryName (newRecord name kind value)).bytes =
      name.bytes.take CONFIG_ZTACX_VALUE_NAME_MAX ++
        if kind = .string then [] else [UInt8.ofNat (code kind)] := by
  have full : (NameArray.ofText name).bytes = (name.take CONFIG_ZTACX_VALUE_NAME_MAX).bytes := by
    have length : (name.take CONFIG_ZTACX_VALUE_NAME_MAX).strlen =
        CONFIG_ZTACX_VALUE_NAME_MAX := List.length_take_of_le long
    show (name.take CONFIG_ZTACX_VALUE_NAME_MAX).padded _ = _
    rw [CString.padded, length, Nat.sub_self, List.replicate_zero, List.append_nil]
  show (CString.ofBytes ((NameArray.ofText name).bytes ++ leBytes 4 (code kind))).bytes = _
  rw [full]
  by_cases string : kind = .string
  · subst string
    rw [if_pos rfl, List.append_nil]
    exact congrArg CString.bytes (CString.ofBytes_append_nul _ [0, 0, 0])
  · -- the number of the kind is a character, and there is a zero behind it
    have last : leBytes 4 (code kind) = UInt8.ofNat (code kind) :: 0 :: [0, 0] := by
      cases kind <;> decide
    have character : (0 : UInt8) ∉ [UInt8.ofNat (code kind)] := by
      cases kind <;> first | exact absurd rfl string | decide
    have text := CString.ofBytes_append_nul
      ((name.take CONFIG_ZTACX_VALUE_NAME_MAX).append ⟨_, character⟩) [0, 0]
    rw [if_neg string, last]
    rw [CString.append_bytes, List.append_assoc] at text
    exact congrArg CString.bytes text

/-- **When a record is found under its name.** -/
theorem memoryName_newRecord_iff (value : ZtacxValue) :
    memoryName (newRecord name kind value) = name ↔ NameKept name kind := by
  unfold NameKept
  rcases lt_or_ge name.strlen CONFIG_ZTACX_VALUE_NAME_MAX with short | long
  · exact iff_of_true (memoryName_newRecord_of_lt short kind value) (.inl short)
  rw [CString.ext_iff, memoryName_newRecord_of_le long]
  have length : name.bytes.length = name.strlen := rfl
  by_cases string : kind = .string
  · have noNul : name.bytes.getLast? ≠ some (UInt8.ofNat (code kind)) := by
      intro last
      rw [string] at last
      exact name.nul_free (List.mem_of_getLast? last)
    rw [if_pos string, List.append_nil, List.take_eq_self_iff]
    constructor
    · exact fun le => .inr (.inl ⟨le_antisymm le long, string⟩)
    · rintro (short | ⟨exact, -⟩ | ⟨-, last⟩)
      · exact short.le
      · exact exact.le
      · exact absurd last noNul
  · rw [if_neg string]
    constructor
    · intro same
      refine .inr (.inr ⟨?_, ?_⟩)
      · rw [← length, ← same, List.length_append, List.length_take_of_le long]
        rfl
      · rw [← same, List.getLast?_concat]
    · rintro (short | ⟨-, other⟩ | ⟨one, last⟩)
      · exact absurd short (not_lt.mpr long)
      · exact absurd other string
      · have front : name.bytes.dropLast = name.bytes.take CONFIG_ZTACX_VALUE_NAME_MAX := by
          rw [List.dropLast_eq_take, length, one, Nat.add_sub_cancel]
        rw [← front]
        exact List.dropLast_append_getLast? _ last

/-- A new record takes the member of a scalar. -/
theorem ztacxVariableValueSet_cleared_scalar {object : List UInt8} {n : ℕ}
    (size : kind.scalarSize = some n) (inside : n ≤ object.length) (alloc : Bool) :
    ∃ stored, ztacxVariableValueSet alloc (clearedSetting kind) (some object) =
        .ok (SetResult.stored (clearedSetting kind) stored) ∧
      stored.bytes.take n = object.take n := by
  have small := (ZtacxValueKind.scalarSize_le size).2
  have len : (object.take n).length = n := List.length_take_of_le inside
  obtain ⟨stored, ran, bytes, -⟩ := ZtacxValue.zero.store_of_le
    (show 0 + (object.take n).length ≤ 8 by omega)
  refine ⟨stored, ?_, ?_⟩
  · rw [ztacxVariableValueSet_scalar size, setScalar, if_pos inside]
    exact congrArg _ ran
  · rw [bytes, splice_zero, List.take_append_of_le_length len.ge, List.take_of_length_le len.le]

/-- A new record takes a copy of a text, if there is memory for one. -/
theorem ztacxVariableValueSet_cleared_string {object : List UInt8} (terminated : 0 ∈ object)
    (alloc : Bool) :
    ztacxVariableValueSet alloc (clearedSetting .string) (some object) =
      if alloc then .ok (SetResult.stored (clearedSetting .string)
        { ZtacxValue.zero with valString := .block (.ofBytes object) })
      else .ok ⟨clearedSetting .string, none, -ENOMEM⟩ := by
  have read : readCString object = .ok (.ofBytes object) := if_pos terminated
  simp only [ztacxVariableValueSet, clearedSetting, read]
  cases alloc <;> rfl

/-- **What the setter does to a new record**: it refuses the value and says so, or stores it.
With memory it refuses objects for an EVENT only. -/
theorem ztacxVariableValueSet_cleared (readable : Readable kind value) (alloc : Bool) :
    ∃ set, ztacxVariableValueSet alloc (clearedSetting kind) value = .ok set ∧
      (set.rc < 0 ∨ set.rc = 0 ∧
        { clearedSetting kind with value := set.setting.value }.typedValue =
          initialValue kind value) ∧
      (alloc = true → ¬ (kind = .event ∧ value.isSome) → set.rc = 0) := by
  cases value with
  | none => exact ⟨_, rfl, .inr ⟨rfl, rfl⟩, fun _ _ => rfl⟩
  | some object =>
      obtain ⟨terminated, member⟩ := readable
      cases size : kind.scalarSize with
      | some n =>
          obtain ⟨stored, set, front⟩ :=
            ztacxVariableValueSet_cleared_scalar size (member n size) alloc
          refine ⟨_, set, .inr ⟨rfl, ?_⟩, fun _ _ => rfl⟩
          rw [ZtacxVariable.typedValue_of_scalar size, initialValue, size]
          exact congrArg _ front
      | none =>
          rcases ZtacxValueKind.string_or_event size with rfl | rfl
          · have set := ztacxVariableValueSet_cleared_string (terminated rfl) alloc
            cases alloc with
            | false => exact ⟨_, set, .inl (by decide), fun memory => absurd memory (by decide)⟩
            | true => exact ⟨_, set, .inr ⟨rfl, rfl⟩, fun _ _ => rfl⟩
          · exact ⟨_, rfl, .inl (by decide), fun _ supported => absurd ⟨rfl, rfl⟩ supported⟩

/-- What a name finds once a record has been appended. -/
theorem settingFind_append (settings : List VariableRecord) (s : VariableRecord)
    (name : CString) : settingFind (settings ++ [s]) name =
      (settingFind settings name).or (if memoryName s = name then some s else none) := by
  rw [settingFind, List.find?_append, List.find?_singleton]
  simp only [decide_eq_true_eq]
  rfl

/-- What adding leaves behind. -/
theorem ztacxSettingsAdd_eq_ok {allocText : Bool} {set : SetResult}
    (ran : ztacxVariableValueSet allocText (clearedSetting kind) value = .ok set) :
    ztacxSettingsAdd true allocText settings name kind value =
      .ok (if set.rc < 0 then (settings, set.rc)
        else (settings ++ [newRecord name kind set.setting.value], 0)) := by
  rw [ztacxSettingsAdd, if_neg (by decide), ran]
  show (if set.rc < 0 then _ else _) = _
  split <;> rfl

/-- **When adding makes findable**: the kind refuses its value, or the name survives. -/
theorem addsSetting_iff (fresh : settingFind settings name = none)
    (readable : Readable kind value) :
    AddsSetting settings name kind value ↔
      (kind = .event ∧ value.isSome) ∨ NameKept name kind := by
  constructor
  · intro adds
    by_contra neither
    obtain ⟨supported, lost⟩ := not_or.mp neither
    obtain ⟨set, ran, -, succeeds⟩ := ztacxVariableValueSet_cleared readable true
    have rc := succeeds rfl supported
    obtain ⟨settings', rc', added, success, -⟩ := adds true true
    rw [ztacxSettingsAdd_eq_ok ran, if_neg (by omega)] at added
    cases added
    obtain ⟨⟨s, found, -⟩, -⟩ := success rfl
    rw [settingFind_append, fresh, if_neg ((memoryName_newRecord_iff _).not.mpr lost)] at found
    cases found
  · intro kept allocSetting allocText
    cases allocSetting with
    | false => exact ⟨settings, _, rfl, fun zero => absurd zero (by decide), fun _ => rfl⟩
    | true =>
        obtain ⟨set, ran, outcome, -⟩ := ztacxVariableValueSet_cleared readable allocText
        have added : ztacxSettingsAdd true allocText settings name kind value = .ok _ :=
          ztacxSettingsAdd_eq_ok ran
        rcases outcome with refused | ⟨rc, stored⟩
        · rw [if_pos refused] at added
          exact ⟨_, _, added, fun zero => absurd zero refused.ne, fun _ => rfl⟩
        · rw [if_neg (by omega)] at added
          have kept : NameKept name kind := by
            refine kept.resolve_left ?_
            rintro ⟨rfl, object⟩
            obtain ⟨object, rfl⟩ := Option.isSome_iff_exists.mp object
            cases ran
            cases rc
          have named := (memoryName_newRecord_iff set.setting.value).mpr kept
          refine ⟨_, _, added, fun _ => ⟨⟨newRecord name kind set.setting.value, ?_, rfl, stored⟩,
            fun other differs => ?_⟩, fun failed => absurd rfl failed⟩
          · rw [settingFind_append, fresh, if_pos named]
            rfl
          · rw [settingFind_append, named, if_neg differs.symm, Option.or_none]

end Adding

/-- A name of forty characters. -/
def fortyCharacters : CString := .ofString "ims_peak_reset_interval_of_the_x_channel"

/-- Settings that have been added before. -/
def twoSettings : List VariableRecord :=
  [newRecord (.ofString "ims_level") .int32 .zero, newRecord (.ofString "ims_label") .string .zero]

theorem addsSetting_fortyCharacters :
    AddsSetting twoSettings fortyCharacters .string (some [111, 110, 0]) := by
  have readable : Readable .string (some [111, 110, 0]) :=
    ⟨fun _ => by decide, fun n none => by cases none⟩
  exact (addsSetting_iff rfl readable).mpr (.inr (.inr (.inl (by decide))))

/-- **The same name with a number** is added, and not found. -/
theorem not_addsSetting_fortyCharacters :
    (∃ settings, ztacxSettingsAdd true true [] fortyCharacters .int32 (some [1, 0, 0, 0]) =
        .ok (settings, 0) ∧ settingFind settings fortyCharacters = none) ∧
      ¬ AddsSetting [] fortyCharacters .int32 (some [1, 0, 0, 0]) := by
  have lost : ∃ settings, ztacxSettingsAdd true true [] fortyCharacters .int32
      (some [1, 0, 0, 0]) = .ok (settings, 0) ∧ settingFind settings fortyCharacters = none :=
    ⟨_, rfl, by decide⟩
  refine ⟨lost, fun adds => ?_⟩
  obtain ⟨settings, added, none⟩ := lost
  obtain ⟨settings', rc, added', success, -⟩ := adds true true
  cases added.symm.trans added'
  obtain ⟨⟨s, found, -⟩, -⟩ := success rfl
  cases none.symm.trans found

end Ztacx.SettingsAdd
