import Ztacx.Variable

/-!
# Settings

A setting is a variable that survives a restart.  `src/ztacx_settings.c` has
four ways through which its value passes, and they are here:

* `ztacxSettingSet` — a text becomes the value, and the value goes to
  `settings_save_one` under the key `app/<name>`;
* `settingsHandleSet` — Zephyr hands back a stored record, by name;
* `settingsHandleExport` — all values at once, for `settings save`.

The list of settings is the list of its entries, in the order of registration.
What a call gets from outside is an input of the call: whether memory can be
had, what the storage reads (`SettingsRead`), what the storage returns.  The
name matching of Zephyr's settings subsystem is a parameter (`SettingsNames`).

The scalar kinds differ in the width of their member and in nothing else, in all
three; `settingSaveBytes_scalar` and `handleSetting_scalar` say so.
-/

namespace Ztacx

open CModel

/-! ## Names and keys -/

/-- `settings_name_steq`, which is false, or true with what is left of the name
behind the key, and `settings_name_next`. -/
structure SettingsNames where
  steq : CString → CString → Option (Option CString)
  next : CString → Option CString

/-- The byte that Zephyr's settings files put behind a name. -/
def nameEnd : UInt8 := 61

/-- A name matches a key without a rest exactly when it is the key. -/
def SettingsNames.Exact (names : SettingsNames) : Prop :=
  ∀ name key, nameEnd ∉ name.bytes → nameEnd ∉ key.bytes →
    (names.steq name key = some none ↔ name = key)

/-- The byte between the parts of a name. -/
def nameSeparator : UInt8 := 47

/-- Zephyr's own two functions: a name is compared up to the end of the key, and
must then be over or go on with a separator. -/
def SettingsNames.zephyr : SettingsNames where
  steq name key :=
    if key.bytes <+: name.bytes ∧ nameEnd ∉ key.bytes then
      match name.bytes.drop key.strlen with
      | [] => some none
      | c :: _ =>
        if c = nameSeparator then some (some (name.drop (key.strlen + 1)))
        else if c = nameEnd then some none
        else none
    else none
  next name :=
    let len := (name.bytes.takeWhile fun c => c ≠ nameEnd ∧ c ≠ nameSeparator).length
    if (name.bytes.drop len).head? = some nameSeparator then some (name.drop (len + 1))
    else none

theorem SettingsNames.zephyr_exact : SettingsNames.zephyr.Exact := by
  intro name key plain plainKey
  constructor
  · intro hit
    obtain ⟨⟨isPrefix, -⟩, hit⟩ := Option.ite_none_right_eq_some.mp hit
    obtain ⟨rest, split⟩ := isPrefix
    have drop : name.bytes.drop key.strlen = rest := by
      rw [← split]
      exact List.drop_left
    rw [drop] at hit
    cases rest with
    | nil => exact CString.ext (by rw [← split, List.append_nil])
    | cons c rest =>
        have other : c ≠ nameEnd := by
          rintro rfl
          exact plain (split ▸ List.mem_append_right _ (List.mem_cons_self ..))
        by_cases separator : c = nameSeparator <;> simp [separator, other] at hit
  · rintro rfl
    have whole : name.bytes.drop name.strlen = [] := List.drop_length
    show (if _ then _ else _) = _
    rw [if_pos ⟨List.prefix_refl _, plain⟩, whole]

/-- `"app/"`. -/
def appPrefix : CString := .ofString "app/"

/-- The key that `snprintf(key, sizeof(key), "app/%s", name)` leaves in `char key[64]`. -/
def settingKey (name : CString) : CString := (appPrefix.append name).take 63

/-! ## Loading one record -/

/-- One call of the handler: the length of the record, the bytes `read_cb`
stores, whether `calloc` or `realloc` succeeds, and what is in memory that
`realloc` adds or that a buffer has before. -/
structure SettingsRead where
  len : ℕ
  bytes : List UInt8
  alloc : Bool
  fresh : ℕ → UInt8

/-- The record is read whole and memory is available. -/
def SettingsRead.whole (data : List UInt8) : SettingsRead where
  len := data.length
  bytes := data
  alloc := true
  fresh := fun _ => 0

/-- The object a STRING record is read into; `none` when memory is short. -/
def stringObject (ptr : StringPtr) (io : SettingsRead) : Except Fault (Option (List UInt8)) :=
  match ptr with
  | .null => .ok (if io.alloc then some (List.replicate (io.len + 1) 0) else none)
  | .literal text =>
    if io.len ≠ text.strlen then .error .invalidFree else .error .readOnlyWrite
  | .block text =>
    if io.len ≠ text.strlen then
      .ok (if io.alloc then
        some ((List.range (io.len + 1)).map fun i => text.stored.getD i (io.fresh i))
      else none)
    else .ok (some text.stored)

/-- `case ZTACX_VALUE_STRING` of the handler. -/
def handleString (v : ZtacxVariable) (io : SettingsRead) : Except Fault (ZtacxVariable × ℤ) :=
  (stringObject v.value.valString io).bind fun
    | none => .ok ({ v with value := { v.value with valString := .null } }, -ENOMEM)
    | some object =>
      (memcpyInto object 0 io.bytes).bind fun object =>
        (memcpyInto object io.len [0]).bind fun object =>
          (readCString object).map fun text =>
            ({ v with value := { v.value with valString := .block text } }, 0)

/-- The arm of a scalar member of `n` bytes. -/
def handleScalar (v : ZtacxVariable) (n : ℕ) (io : SettingsRead) :
    Except Fault (ZtacxVariable × ℤ) :=
  if io.len ≠ n then .ok (v, -EINVAL)
  else (v.value.store 0 io.bytes).map fun value => ({ v with value := value }, 0)

/-- What the handler does with the setting that a record names. -/
def handleSetting (v : ZtacxVariable) (io : SettingsRead) : Except Fault (ZtacxVariable × ℤ) :=
  match v.kind with
  | .string => handleString v io
  | .bool => handleScalar v 1 io
  | .byte => handleScalar v 1 io
  | .uint16 => handleScalar v 2 io
  | .int16 => handleScalar v 2 io
  | .int32 => handleScalar v 4 io
  | .int64 => handleScalar v 8 io
  | .event => .ok (v, -EINVAL)

/-- `settings_handle_set`. -/
def settingsHandleSet (names : SettingsNames) (name : CString) (io : SettingsRead) :
    List ZtacxVariable → Except Fault (List ZtacxVariable × ℤ)
  | [] => .ok ([], if names.next name = none then -ENOENT else 0)
  | v :: settings =>
    if names.steq name v.name = some none then
      (handleSetting v io).map fun r => (r.1 :: settings, r.2)
    else (settingsHandleSet names name io settings).map fun r => (v :: r.1, r.2)

/-! ## Saving -/

/-- The bytes that go to the storage for a value; `none` for a kind without. -/
def settingSaveBytes (v : ZtacxVariable) : Except Fault (Option (List UInt8)) :=
  match v.kind with
  | .string => v.value.valString.deref.map fun text => some text.bytes
  | .bool => .ok (some (v.value.bytes.take 1))
  | .byte => .ok (some (v.value.bytes.take 1))
  | .uint16 => .ok (some (v.value.bytes.take 2))
  | .int16 => .ok (some (v.value.bytes.take 2))
  | .int32 => .ok (some (v.value.bytes.take 4))
  | .int64 => .ok (some (v.value.bytes.take 8))
  | .event => .ok none

/-- What `ztacx_setting_set` leaves behind: the setting, the work it submitted,
the call of `settings_save_one` it made, its return code. -/
structure SettingSet where
  setting : ZtacxVariable
  submitted : Option KWorkPtr
  saved : Option (CString × List UInt8)
  rc : ℤ

/-- `ztacx_setting_set` on a setting that is not null; `saveRc` is what
`settings_save_one` returns. -/
def ztacxSettingSet (atoi : CString → BitVec 32) (alloc : Bool) (saveRc : ℤ)
    (s : ZtacxVariable) (value : Option CString) : Except Fault SettingSet :=
  (ztacxVariableValueSetString atoi alloc s value).bind fun r =>
    if r.rc ≠ 0 then .ok ⟨r.setting, r.submitted, none, r.rc⟩
    else
      (settingSaveBytes r.setting).map fun
        | none => ⟨r.setting, r.submitted, none, -EINVAL⟩
        | some bytes => ⟨r.setting, r.submitted, some (settingKey s.name, bytes), saveRc⟩

/-- `settings_handle_export`: the records it hands to its callback.  A kind
without a record is skipped. -/
def settingsHandleExport : List ZtacxVariable → Except Fault (List (CString × List UInt8))
  | [] => .ok []
  | v :: settings =>
    (settingSaveBytes v).bind fun bytes =>
      (settingsHandleExport settings).map fun records =>
        (bytes.map fun bytes => (v.name, bytes)).toList ++ records

/-! ## Kind by kind -/

section Kinds

variable {v : ZtacxVariable} {n : ℕ}

theorem settingSaveBytes_scalar (size : v.kind.scalarSize = some n) :
    settingSaveBytes v = .ok (some (v.value.bytes.take n)) := by
  cases hk : v.kind <;> simp_all [settingSaveBytes, ZtacxValueKind.scalarSize]

theorem settingSaveBytes_string (kind : v.kind = .string) :
    settingSaveBytes v = v.value.valString.deref.map fun text => some text.bytes := by
  simp [settingSaveBytes, kind]

theorem handleSetting_scalar (size : v.kind.scalarSize = some n) (io : SettingsRead) :
    handleSetting v io = handleScalar v n io := by
  cases hk : v.kind <;> simp_all [handleSetting, ZtacxValueKind.scalarSize]

theorem handleSetting_event (kind : v.kind = .event) (io : SettingsRead) :
    handleSetting v io = .ok (v, -EINVAL) := by
  simp [handleSetting, kind]

theorem handleSetting_string (kind : v.kind = .string) (io : SettingsRead) :
    handleSetting v io = handleString v io := by
  simp [handleSetting, kind]

/-- The handler leaves the name and the kind alone. -/
theorem handleSetting_same {io : SettingsRead} {r : ZtacxVariable × ℤ}
    (ran : handleSetting v io = .ok r) : r.1.name = v.name ∧ r.1.kind = v.kind := by
  have scalar : ∀ m, handleScalar v m io = .ok r → r.1.name = v.name ∧ r.1.kind = v.kind := by
    intro m ran
    unfold handleScalar at ran
    split at ran
    · cases ran
      exact ⟨rfl, rfl⟩
    · obtain ⟨value, -, rfl⟩ := map_eq_ok_iff.mp ran
      exact ⟨rfl, rfl⟩
  cases hk : v.kind with
  | string =>
      rw [handleSetting_string hk, handleString] at ran
      obtain ⟨object, -, ran⟩ := bind_eq_ok_iff.mp ran
      cases object with
      | none =>
          cases ran
          exact ⟨rfl, hk⟩
      | some object =>
          obtain ⟨object', -, ran⟩ := bind_eq_ok_iff.mp ran
          obtain ⟨object'', -, ran⟩ := bind_eq_ok_iff.mp ran
          obtain ⟨text, -, rfl⟩ := map_eq_ok_iff.mp ran
          exact ⟨rfl, hk⟩
  | event =>
      simp only [handleSetting, hk, Except.ok.injEq] at ran
      rw [← ran]
      exact ⟨rfl, hk⟩
  | _ =>
      rw [← hk]
      simp only [handleSetting, hk] at ran
      exact scalar _ ran

/-- A record for a string literal cannot be loaded. -/
theorem handleString_literal {text : CString} (io : SettingsRead)
    (hptr : v.value.valString = .literal text) :
    ∃ fault, handleString v io = .error fault := by
  unfold handleString
  rw [hptr]
  unfold stringObject
  by_cases other : io.len ≠ text.strlen
  · exact ⟨.invalidFree, by simp [other, Except.bind]⟩
  · exact ⟨.readOnlyWrite, by simp [other, Except.bind]⟩

end Kinds

end Ztacx
