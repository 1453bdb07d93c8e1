import Ztacx.SettingsStore

/-!
# Updating one setting, whatever happens

`ztacx_setting_set` parses a text, puts the value in memory and saves it.  An
update should be all or nothing: an error leaves memory and storage as they were,
and success leaves the value of the text in both.

The three stages run in that order and nothing undoes the second when the third
fails, so an error of the storage leaves the new value in memory.  And the first
two report success when there was no memory for the copy of a string, so the old
text is saved and the update counts as done.  `ztacxSettingSet_updates_iff` says
that these are the ways in which an update is neither, together with the two
pointers that such a call cannot deal with: a string literal, which it frees, and
a null string that stays null, which it reads.
-/

namespace Ztacx

open CModel

/-! ## What an update is for -/

/-- The bytes the store has for a setting; no record is no bytes. -/
def storedBytes (store : SettingsStore) (v : ZtacxVariable) : List UInt8 :=
  (store.lookup (settingKey v.name)).getD []

/-- The bytes of the record that encodes a value. -/
def TypedValue.encoding : TypedValue → List UInt8
  | .text t => (t.map CString.bytes).getD []
  | .scalar member => member
  | .event _ => []

/-- The store after the call of `settings_save_one` that an update made, which
leaves it alone when it fails. -/
def SettingSet.storeAfter (r : SettingSet) (saveRc : ℤ) (store : SettingsStore) :
    SettingsStore :=
  match r.saved with
  | none => store
  | some (key, bytes) => if saveRc = 0 then settingsSaveOne store key bytes else store

/-- **An update is all or nothing.** -/
def UpdatesAllOrNothing (atoi : CString → BitVec 32) (alloc : Bool) (saveRc : ℤ)
    (v : ZtacxVariable) (text : CString) (store : SettingsStore) : Prop :=
  ∃ r, ztacxSettingSet atoi alloc saveRc v (some text) = .ok r ∧
    (r.rc ≠ 0 → r.setting.typedValue = v.typedValue ∧ r.storeAfter saveRc store = store) ∧
    (r.rc = 0 → some r.setting.typedValue = parsedValue atoi v.kind text ∧
      storedBytes (r.storeAfter saveRc store) v = r.setting.typedValue.encoding)

/-! ## When the code does it -/

/-- When a STRING setting is updated as it should be, by what it points at. -/
def StringPtr.UpdatesRight (alloc : Bool) (saveRc : ℤ) (text : CString) : StringPtr → Prop
  | .null => alloc = true ∧ saveRc = 0
  | .literal t => alloc = false ∧ (saveRc ≠ 0 ∨ t = text)
  | .block t => (alloc = true ↔ saveRc = 0) ∨ t = text

/-- When a setting is updated as it should be: nothing fails, or the failure
meets the value the setting has already. -/
structure UpdatesRight (atoi : CString → BitVec 32) (alloc : Bool) (saveRc : ℤ)
    (v : ZtacxVariable) (text : CString) : Prop where
  scalar : v.kind.scalarSize.isSome →
    saveRc = 0 ∨ parsedValue atoi v.kind text = some v.typedValue
  string : v.kind = .string → v.value.valString.UpdatesRight alloc saveRc text

section Update

variable {atoi : CString → BitVec 32} {alloc : Bool} {saveRc : ℤ} {v w : ZtacxVariable}
  {text : CString} {store : SettingsStore}

/-- A record that was saved is there. -/
theorem storedBytes_settingsSaveOne (bytes : List UInt8) :
    storedBytes (settingsSaveOne store (settingKey v.name) bytes) v = bytes := by
  rw [storedBytes, lookup_settingsSaveOne_self]
  split
  · rename_i empty
    exact (List.length_eq_zero_iff.mp empty).symm
  · rfl

/-- **An update that got as far as the storage**, with the value it had in memory
then.  It is all or nothing if that value is the text's when the storage takes it
and the old one when the storage does not. -/
theorem updates_iff_of_saved {submitted : Option KWorkPtr}
    (ran : ztacxSettingSet atoi alloc saveRc v (some text) =
      .ok ⟨w, submitted, some (settingKey v.name, w.typedValue.encoding), saveRc⟩) :
    UpdatesAllOrNothing atoi alloc saveRc v text store ↔
      (saveRc ≠ 0 → w.typedValue = v.typedValue) ∧
        (saveRc = 0 → some w.typedValue = parsedValue atoi v.kind text) := by
  unfold UpdatesAllOrNothing
  rw [ran]
  constructor
  · rintro ⟨r, same, failed, succeeded⟩
    cases same
    exact ⟨fun refused => (failed refused).1, fun taken => (succeeded taken).1⟩
  · rintro ⟨failed, succeeded⟩
    refine ⟨_, rfl, fun refused => ⟨failed refused, ?_⟩, fun taken => ⟨succeeded taken, ?_⟩⟩
    · exact if_neg refused
    · show storedBytes (if saveRc = 0 then _ else store) v = _
      rw [if_pos taken]
      exact storedBytes_settingsSaveOne _

theorem updates_scalar_iff {n : ℕ} (size : v.kind.scalarSize = some n) :
    UpdatesAllOrNothing atoi alloc saveRc v text store ↔
      (saveRc = 0 ∨ parsedValue atoi v.kind text = some v.typedValue) := by
  obtain ⟨member, value, parsed, bytes, set⟩ :=
    ztacxVariableValueSetString_scalar atoi size alloc text
  have typed : ({ v with value := value } : ZtacxVariable).typedValue = .scalar member := by
    rw [ZtacxVariable.typedValue_of_scalar (v := { v with value := value }) size, bytes]
  have ran : ztacxSettingSet atoi alloc saveRc v (some text) =
      .ok ⟨{ v with value := value }, v.onChange,
        some (settingKey v.name, (TypedValue.scalar member).encoding), saveRc⟩ := by
    unfold ztacxSettingSet
    rw [set]
    show (settingSaveBytes { v with value := value }).map _ = _
    rw [settingSaveBytes_scalar (v := { v with value := value }) size, bytes]
    rfl
  rw [← typed] at ran
  rw [updates_iff_of_saved ran, typed, parsed]
  by_cases taken : saveRc = 0
  · simp [taken]
  · simp [taken]

/-- What an update does with a string: the copy, if there is memory for it, and
the save of whatever the setting then holds. -/
theorem ztacxSettingSet_string (kind : v.kind = .string) (text : CString) :
    ztacxSettingSet atoi alloc saveRc v (some text) =
      if alloc then
        v.value.valString.free.map fun _ => ⟨v.withString (.block text), v.onChange,
          some (settingKey v.name, text.bytes), saveRc⟩
      else
        v.value.valString.deref.map fun t =>
          ⟨v, none, some (settingKey v.name, t.bytes), saveRc⟩ := by
  unfold ztacxSettingSet
  rw [ztacxVariableValueSetString_text kind]
  cases alloc with
  | true =>
      cases h : v.value.valString.free with
      | error fault => rfl
      | ok _ =>
          have saves : settingSaveBytes (v.withString (.block text)) = .ok (some text.bytes) :=
            settingSaveBytes_string (v := v.withString (.block text)) kind
          show (settingSaveBytes (v.withString (.block text))).map _ = _
          rw [saves]
          rfl
  | false =>
      show (settingSaveBytes v).map _ = _
      rw [settingSaveBytes_string kind]
      cases h : v.value.valString.deref with
      | error fault => rfl
      | ok t => rfl

theorem not_updates_of_fault (fault : Fault)
    (faults : ztacxSettingSet atoi alloc saveRc v (some text) = .error fault) :
    ¬ UpdatesAllOrNothing atoi alloc saveRc v text store := by
  rintro ⟨r, ran, -⟩
  rw [faults] at ran
  cases ran

/-- A string whose copy was made. -/
theorem updates_string_copied (kind : v.kind = .string) (freed : v.value.valString.free = .ok ()) :
    UpdatesAllOrNothing atoi true saveRc v text store ↔
      saveRc = 0 ∨ v.value.valString.text = some text := by
  have ran : ztacxSettingSet atoi true saveRc v (some text) =
      .ok ⟨v.withString (.block text), v.onChange, some (settingKey v.name, text.bytes),
        saveRc⟩ := by
    rw [ztacxSettingSet_string kind, freed]
    rfl
  have typed := ZtacxVariable.typedValue_withString kind (.block text)
  have saved : text.bytes = (v.withString (.block text)).typedValue.encoding := by
    rw [typed]
    rfl
  rw [saved] at ran
  rw [updates_iff_of_saved ran, typed, ZtacxVariable.typedValue_of_string kind, kind]
  by_cases taken : saveRc = 0
  · simp [taken, parsedValue, StringPtr.text]
  · simp [taken, StringPtr.text, eq_comm]

/-- A string whose copy was not made, so that the old text is saved. -/
theorem updates_string_uncopied (kind : v.kind = .string) {old : CString}
    (same : v.value.valString.text = some old) :
    UpdatesAllOrNothing atoi false saveRc v text store ↔ saveRc ≠ 0 ∨ old = text := by
  have ran : ztacxSettingSet atoi false saveRc v (some text) =
      .ok ⟨v, none, some (settingKey v.name, old.bytes), saveRc⟩ := by
    rw [ztacxSettingSet_string kind, StringPtr.deref_eq, same]
    rfl
  have typed : v.typedValue = .text (some old) := by
    rw [ZtacxVariable.typedValue_of_string kind, same]
  have saved : old.bytes = v.typedValue.encoding := by
    rw [typed]
    rfl
  rw [saved] at ran
  rw [updates_iff_of_saved ran, typed, kind]
  by_cases taken : saveRc = 0
  · simp [taken, parsedValue]
  · simp [taken]

theorem updates_string_iff (kind : v.kind = .string) :
    UpdatesAllOrNothing atoi alloc saveRc v text store ↔
      v.value.valString.UpdatesRight alloc saveRc text := by
  cases alloc with
  | true =>
      cases h : v.value.valString with
      | null =>
          rw [updates_string_copied kind (by rw [h]; rfl), h]
          simp [StringPtr.UpdatesRight, StringPtr.text]
      | literal t =>
          refine iff_of_false (not_updates_of_fault .invalidFree ?_) ?_
          · rw [ztacxSettingSet_string kind, h]
            rfl
          · exact fun right => Bool.noConfusion right.1
      | block t =>
          rw [updates_string_copied kind (by rw [h]; rfl), h]
          simp [StringPtr.UpdatesRight, StringPtr.text]
  | false =>
      cases h : v.value.valString with
      | null =>
          refine iff_of_false (not_updates_of_fault .nullDeref ?_) ?_
          · rw [ztacxSettingSet_string kind, h]
            rfl
          · exact fun right => Bool.noConfusion right.1
      | literal t =>
          rw [updates_string_uncopied kind (by rw [h]; rfl)]
          simp [StringPtr.UpdatesRight]
      | block t =>
          rw [updates_string_uncopied kind (by rw [h]; rfl)]
          simp [StringPtr.UpdatesRight]

/-- **When `ztacx_setting_set` is all or nothing**, for every setting, every text,
every store and every outcome of the allocation and of the save. -/
theorem ztacxSettingSet_updates_iff :
    UpdatesAllOrNothing atoi alloc saveRc v text store ↔
      UpdatesRight atoi alloc saveRc v text := by
  cases size : v.kind.scalarSize with
  | some n =>
      rw [updates_scalar_iff size]
      refine ⟨fun right => ⟨fun _ => right, fun kind => ?_⟩, fun right => right.scalar ?_⟩
      · exact absurd kind (ZtacxValueKind.ne_string_and_event size).1
      · rw [size]
        rfl
  | none =>
      by_cases kind : v.kind = .string
      · rw [updates_string_iff kind]
        refine ⟨fun right => ⟨fun scalar => ?_, fun _ => right⟩, fun right => right.string kind⟩
        rw [size] at scalar
        cases scalar
      · have event := (ZtacxValueKind.string_or_event size).resolve_left kind
        have refused : ztacxSettingSet atoi alloc saveRc v (some text) =
            .ok ⟨v, none, none, -EINVAL⟩ := by
          simp only [ztacxSettingSet, ztacxVariableValueSetString, event]
          rfl
        refine iff_of_true ⟨_, refused, fun _ => ⟨rfl, rfl⟩, fun zero => ?_⟩ ⟨?_, ?_⟩
        · cases zero
        · intro scalar
          rw [size] at scalar
          cases scalar
        · exact fun string => absurd string kind

end Update

/-! ### A storage error -/

/-- An INT32 setting `interval`. -/
def intervalSetting : ZtacxVariable where
  name := .ofString "interval"
  name_lt := by decide
  kind := .int32
  value := .zero
  onChange := none

/-- The storage fails: the old value is in the storage and the new one in memory. -/
theorem interval_not_updatesAllOrNothing :
    ¬ UpdatesAllOrNothing (fun _ => 5) true (- EIO) intervalSetting (.ofString "5") ∅ := by
  rintro ⟨r, ran, failed, -⟩
  have changed : (ztacxSettingSet (fun _ => 5) true (- EIO) intervalSetting
      (some (.ofString "5"))).map (fun r => (r.rc, r.setting.typedValue)) =
        .ok (- EIO, .scalar [5, 0, 0, 0]) := by decide
  rw [ran] at changed
  have both : (r.rc, r.setting.typedValue) = (- EIO, .scalar [5, 0, 0, 0]) := Except.ok.inj changed
  have code : r.rc = - EIO := congrArg Prod.fst both
  have value : r.setting.typedValue = .scalar [5, 0, 0, 0] := congrArg Prod.snd both
  have unchanged := (failed (by rw [code]; decide)).1
  rw [value] at unchanged
  exact absurd unchanged (by decide)

end Ztacx
