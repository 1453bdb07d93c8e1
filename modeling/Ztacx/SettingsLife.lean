import Ztacx.Bluetooth.GattEffect
import Ztacx.SettingsArrivals
import Ztacx.SettingsExport

/-!
# The life of the settings

All that can happen to the settings over any number of starts of the device: they are set
with `ztacx_setting_set`, written by the application and over Bluetooth, saved all at once,
loaded again over what they are, and loaded over the compiled-in defaults at the next start.
Memory and storage may fail at any time, also while settings are loaded.

Only `ztacx_setting_set` saves anything that a load finds: an export stores its records under
keys that no setting has, and a write stores none.  So a start that reads the record of a
setting whole gives it the value that it had when a call of `ztacx_setting_set` for it last
returned 0, however long ago and whatever loads failed since, and its default when there was
none (`restarted_run`).  A text that was made empty is the exception, because its record is
deleted.

A start does not always go through: a saved text is loaded into the memory of the default, and
the default may be a string literal.  Such a record stays, and so the device does not start any
more, unless the storage cannot find it (`restarts_iff`).  It is enough that memory was short
when the name of the peripheral was set, because then the default itself is saved.
-/

namespace Ztacx

open CModel

/-! ## Everything that happens -/

/-- A write of a setting by the application or over Bluetooth. -/
inductive SettingWrite
  | value (alloc : Bool) (object : Option (List UInt8))
  | string (alloc : Bool) (text : CString)
  | gatt (alloc reallocs : Bool) (payload : List UInt8) (offset : ℕ)

def SettingWrite.apply (atoi : CString → BitVec 32) (v : ZtacxVariable) :
    SettingWrite → Except Fault ZtacxVariable
  | .value alloc object => (ztacxVariableValueSet alloc v object).map SetResult.setting
  | .string alloc text =>
    (ztacxVariableValueSetString atoi alloc v (some text)).map SetResult.setting
  | .gatt alloc reallocs payload offset =>
    (btWriteVariable atoi alloc reallocs v payload offset).map fun r => r.1.v

/-- `save` is `settings_save`; the storage takes the records of some keys.  A load and a start
get some of the records in some order, and each of them is read or not. -/
inductive SettingsEvent
  | set (call : SettingCall)
  | write (index : ℕ) (write : SettingWrite)
  | save (takes : CString → Bool)
  | load (arrivals : List SettingsArrival)
  | restart (arrivals : List SettingsArrival)

/-- A session, and the value that each setting had when it was last set and saved. -/
structure SettingsLife extends SettingsSession where
  lastSaved : ℕ → Option TypedValue

/-- The first start, with nothing stored. -/
def SettingsLife.boot (defaults : List ZtacxVariable) : SettingsLife where
  settings := defaults
  store := ∅
  lastSaved := fun _ => none

/-- The store after a call of `settings_save_one` that returns `saveRc`. -/
def settingsSaveOneRc (store : SettingsStore) (saveRc : ℤ) :
    Option (CString × List UInt8) → SettingsStore
  | none => store
  | some (key, bytes) => if saveRc = 0 then settingsSaveOne store key bytes else store

/-- A call of `ztacx_setting_set`. -/
def SettingsLife.set (atoi : CString → BitVec 32) (s : SettingsLife) (call : SettingCall) :
    Option SettingsLife :=
  s.settings[call.index]?.bind fun v =>
    (ztacxSettingSet atoi call.alloc call.saveRc v (some call.text)).toOption.map
      fun (r : SettingSet) =>
      { settings := s.settings.set call.index r.setting
        store := settingsSaveOneRc s.store call.saveRc r.saved
        lastSaved :=
          if r.rc = 0 then Function.update s.lastSaved call.index (some r.setting.typedValue)
          else s.lastSaved }

/-- What arrives from the storage is loaded over `list`. -/
def SettingsLife.loadOver (names : SettingsNames) (s : SettingsLife)
    (list : List ZtacxVariable) (arrivals : List SettingsArrival) : Option SettingsLife :=
  if Arrives s.store arrivals then
    (loadArrivals names list arrivals).toOption.map fun settings =>
      { s with settings := settings }
  else none

def SettingsLife.step (names : SettingsNames) (atoi : CString → BitVec 32)
    (defaults : List ZtacxVariable) (s : SettingsLife) : SettingsEvent → Option SettingsLife
  | .set call => s.set atoi call
  | .write index write =>
    s.settings[index]?.bind fun v => (write.apply atoi v).toOption.map fun w =>
      { s with settings := s.settings.set index w }
  | .save takes =>
    (settingsHandleExport s.settings).toOption.map fun records =>
      { s with store := settingsSave s.store (records.filter fun record => takes record.1) }
  | .load arrivals => s.loadOver names s.settings arrivals
  | .restart arrivals => s.loadOver names defaults arrivals

/-! ## What leaves names and kinds alone -/

section Same

variable {atoi : CString → BitVec 32} {alloc reallocs : Bool} {v w : ZtacxVariable}

theorem ztacxVariableValueSetString_same {text : CString} {r : SetResult}
    (ran : ztacxVariableValueSetString atoi alloc v (some text) = .ok r) :
    r.setting.name = v.name ∧ r.setting.kind = v.kind := by
  obtain ⟨-, rfl⟩ | ⟨-, object, set, stored, rfl, -⟩ := ztacxVariableValueSetString_eq_ok ran
  · exact ⟨rfl, rfl⟩
  · exact ztacxVariableValueSet_same (r := set) stored

/-- An exit of the switch in `bt_write_variable` that only changes the value. -/
def GattExit.Keeps (exit : GattExit) : Prop :=
  ∀ {w w' rc}, exit w = .ok (w', rc) → w'.v.name = w.v.name ∧ w'.v.kind = w.v.kind

theorem GattWrite.set_same {w u : GattWrite} {setter : ZtacxVariable → Except Fault SetResult}
    (keeps : ∀ v r, setter v = .ok r → r.setting.name = v.name ∧ r.setting.kind = v.kind)
    (ran : w.set setter = .ok u) : u.v.name = w.v.name ∧ u.v.kind = w.v.kind := by
  obtain ⟨r, set, rfl⟩ := GattWrite.set_eq_ok ran
  exact keeps w.v r set

theorem breakArm_keeps (payload : List UInt8) : GattExit.Keeps (breakArm payload) := by
  intro w w' rc ran
  cases ran
  exact ⟨rfl, rfl⟩

theorem scalarArm_keeps {payload : List UInt8} {offset limit : ℕ}
    {temporary : ZtacxVariable → Except Fault (List UInt8)}
    {setter : List UInt8 → ZtacxVariable → Except Fault SetResult} {next : GattExit}
    {object : List UInt8 → List UInt8}
    (sets : ∀ bytes v, setter bytes v = ztacxVariableValueSet alloc v (some (object bytes)))
    (keeps : next.Keeps) :
    GattExit.Keeps (scalarArm payload offset limit temporary setter next) := by
  intro w w' rc ran
  obtain ⟨-, rfl⟩ | ⟨-, bytes, u, -, -, set, continues⟩ := scalarArm_eq_ok ran
  · exact ⟨rfl, rfl⟩
  · obtain ⟨name, kind⟩ := GattWrite.set_same (fun v r stored =>
      ztacxVariableValueSet_same ((sets _ v).symm.trans stored)) set
    obtain ⟨name', kind'⟩ := keeps continues
    exact ⟨name'.trans name, kind'.trans kind⟩

theorem int64Arm_keeps (payload : List UInt8) (offset : ℕ) :
    GattExit.Keeps (int64Arm alloc payload offset) := by
  intro w w' rc ran
  obtain ⟨-, rfl⟩ | ⟨-, old, value, u, -, -, set, rfl⟩ := int64Arm_eq_ok ran
  · exact ⟨rfl, rfl⟩
  · exact GattWrite.set_same (w := ⟨{ w.v with value := value }, w.submitted⟩)
      (fun v r stored => ztacxVariableValueSet_same stored) set

theorem int32Arm_keeps (payload : List UInt8) (offset : ℕ) :
    GattExit.Keeps (int32Arm alloc payload offset) :=
  scalarArm_keeps (fun _ _ => rfl) (int64Arm_keeps payload offset)

theorem btWriteVariable_string_same {payload : List UInt8} {offset : ℕ} {w : GattWrite} {rc : ℤ}
    (kind : v.kind = .string)
    (ran : btWriteVariable atoi alloc reallocs v payload offset = .ok (w, rc)) :
    w.v.name = v.name ∧ w.v.kind = v.kind := by
  by_cases fits : offset + payload.length ≤ STRING_CHAR_MAX
  · by_cases block : ∃ text, v.value.valString = .block text
    · obtain ⟨text, old⟩ := block
      have effect := @btWriteVariable_block atoi alloc reallocs v payload offset text kind old fits
      split at effect
      · cases effect.symm.trans ran
        exact ⟨rfl, rfl⟩
      · obtain ⟨fault, faults⟩ := effect
        cases faults.symm.trans ran
    · obtain ⟨fault, faults⟩ := @btWriteVariable_noBlock atoi alloc reallocs v payload offset kind
        (fun text old => block ⟨text, old⟩) fits
      cases faults.symm.trans ran
  · cases (btWriteVariable_string_refused kind (not_le.mp fits)).symm.trans ran
    exact ⟨rfl, rfl⟩

/-- **A write over Bluetooth** only changes the value. -/
theorem btWriteVariable_same {payload : List UInt8} {offset : ℕ} {w : GattWrite} {rc : ℤ}
    (ran : btWriteVariable atoi alloc reallocs v payload offset = .ok (w, rc)) :
    w.v.name = v.name ∧ w.v.kind = v.kind := by
  by_cases string : v.kind = .string
  · exact btWriteVariable_string_same string ran
  unfold btWriteVariable at ran
  split at ran
  · exact absurd ‹_› string
  · exact scalarArm_keeps (fun _ _ => rfl) (breakArm_keeps payload) ran
  · exact scalarArm_keeps (fun _ _ => rfl) (breakArm_keeps payload) ran
  · exact scalarArm_keeps (fun _ _ => rfl) (breakArm_keeps payload) ran
  · exact scalarArm_keeps (fun _ _ => rfl) (int32Arm_keeps payload offset) ran
  · exact int32Arm_keeps payload offset ran
  · exact int64Arm_keeps payload offset ran
  · cases ran
    exact ⟨rfl, rfl⟩

theorem SettingWrite.apply_same {write : SettingWrite} (ran : write.apply atoi v = .ok w) :
    w.name = v.name ∧ w.kind = v.kind := by
  cases write with
  | value alloc object =>
      obtain ⟨r, stored, rfl⟩ := map_eq_ok_iff.mp ran
      exact ztacxVariableValueSet_same stored
  | string alloc text =>
      obtain ⟨r, stored, rfl⟩ := map_eq_ok_iff.mp ran
      exact ztacxVariableValueSetString_same stored
  | gatt alloc reallocs payload offset =>
      obtain ⟨r, written, rfl⟩ := map_eq_ok_iff.mp ran
      exact btWriteVariable_same written

/-- A call of `ztacx_setting_set` saves the value that it has stored, or fails before. -/
theorem ztacxSettingSet_cases {saveRc : ℤ} {text : CString} {r : SettingSet}
    (ran : ztacxSettingSet atoi alloc saveRc v (some text) = .ok r) :
    r.setting.name = v.name ∧ r.setting.kind = v.kind ∧
      ((r.rc ≠ 0 ∧ r.saved = none) ∨ ∃ bytes, settingSaveBytes r.setting = .ok (some bytes) ∧
        r.saved = some (settingKey v.name, bytes) ∧ r.rc = saveRc) := by
  obtain ⟨set, stored, ran⟩ := bind_eq_ok_iff.mp ran
  obtain ⟨name, kind⟩ := ztacxVariableValueSetString_same stored
  by_cases failed : set.rc ≠ 0
  · rw [if_pos failed] at ran
    cases ran
    exact ⟨name, kind, .inl ⟨failed, rfl⟩⟩
  · rw [if_neg failed] at ran
    obtain ⟨bytes, save, rfl⟩ := map_eq_ok_iff.mp ran
    cases bytes with
    | none => exact ⟨name, kind, .inl ⟨show -EINVAL ≠ 0 by decide, rfl⟩⟩
    | some bytes => exact ⟨name, kind, .inr ⟨bytes, save, rfl, rfl⟩⟩

end Same

/-! ## What a load leaves alone -/

/-- A setting is the one of the table, with any value. -/
structure SameTag (d v : ZtacxVariable) : Prop where
  name : v.name = d.name
  kind : v.kind = d.kind

section Loads

variable {names : SettingsNames} {list list' : List ZtacxVariable}

theorem sameTag_refl (defaults : List ZtacxVariable) : List.Forall₂ SameTag defaults defaults :=
  List.forall₂_same.mpr fun _ _ => ⟨rfl, rfl⟩

theorem sameTag_settingsHandleSet {name : CString} {io : SettingsRead}
    {r : List ZtacxVariable × ℤ} (ran : settingsHandleSet names name io list = .ok r) :
    List.Forall₂ SameTag list r.1 := by
  induction list generalizing r with
  | nil =>
      cases ran
      exact .nil
  | cons v list ih =>
      rw [settingsHandleSet] at ran
      split at ran
      · obtain ⟨q, handled, rfl⟩ := map_eq_ok_iff.mp ran
        obtain ⟨name, kind⟩ := handleSetting_same handled
        exact .cons ⟨name, kind⟩ (sameTag_refl list)
      · obtain ⟨q, handled, rfl⟩ := map_eq_ok_iff.mp ran
        exact .cons ⟨rfl, rfl⟩ (ih handled)

theorem sameTag_loadArrival {arrival : SettingsArrival}
    (loaded : loadArrival names list arrival = .ok list') : List.Forall₂ SameTag list list' := by
  unfold loadArrival at loaded
  split at loaded
  · cases loaded
    exact sameTag_refl list
  · obtain ⟨r, ran, rfl⟩ := map_eq_ok_iff.mp loaded
    exact sameTag_settingsHandleSet ran

theorem SameTag.trans {u v w : ZtacxVariable} (first : SameTag u v) (second : SameTag v w) :
    SameTag u w :=
  ⟨second.name.trans first.name, second.kind.trans first.kind⟩

theorem sameTag_trans {defaults : List ZtacxVariable}
    (first : List.Forall₂ SameTag defaults list) (second : List.Forall₂ SameTag list list') :
    List.Forall₂ SameTag defaults list' := by
  induction first generalizing list' with
  | nil => exact second
  | cons tag tags ih =>
      obtain ⟨w, rest, tag', tags', rfl⟩ := List.forall₂_cons_left_iff.mp second
      exact .cons (tag.trans tag') (ih tags')

/-- A load keeps names and kinds, whatever arrives. -/
theorem sameTag_loadArrivals {arrivals : List SettingsArrival}
    (loaded : loadArrivals names list arrivals = .ok list') : List.Forall₂ SameTag list list' := by
  induction arrivals generalizing list with
  | nil =>
      cases loaded
      exact sameTag_refl _
  | cons arrival arrivals ih =>
      rw [loadArrivals, List.foldlM_cons] at loaded
      obtain ⟨middle, here, later⟩ := bind_eq_ok_iff.mp loaded
      exact sameTag_trans (sameTag_loadArrival here) (ih later)

end Loads

/-! ## What the store remembers -/

/-- The record of a setting is that of the value that was last saved. -/
def RecordOf (kind : ZtacxValueKind) (saved : Option TypedValue)
    (record : Option (List UInt8)) : Prop :=
  match saved with
  | none => record = none
  | some value => ∃ v : ZtacxVariable, v.kind = kind ∧ v.typedValue = value ∧ Saved v record

/-- The settings are those of the table, and the store has the records of the values that were
last saved. -/
structure SettingsLife.Remembers (defaults : List ZtacxVariable) (s : SettingsLife) : Prop where
  plain : PlainKeys s.store
  tags : List.Forall₂ SameTag defaults s.settings
  records : ∀ (i : ℕ) d, defaults[i]? = some d →
    RecordOf d.kind (s.lastSaved i) (s.store.lookup (settingKey d.name))

section Remembers

variable {names : SettingsNames} {atoi : CString → BitVec 32} {defaults : List ZtacxVariable}
  {s s' : SettingsLife} {v w : ZtacxVariable} {index : ℕ}

theorem SettingsLife.remembers_boot (defaults : List ZtacxVariable) :
    (SettingsLife.boot defaults).Remembers defaults where
  plain := fun key mem => absurd mem (AList.notMem_empty key)
  tags := sameTag_refl defaults
  records := fun _ d _ => AList.lookup_empty (settingKey d.name)

/-- Settings of different places in the table are saved under different keys. -/
theorem settingKey_ne (table : SettingsTable defaults) {i j : ℕ} {d e : ZtacxVariable}
    (here : defaults[i]? = some d) (there : defaults[j]? = some e) (ne : i ≠ j) :
    settingKey d.name ≠ settingKey e.name := by
  rw [Ne, settingKey_inj]
  intro same
  obtain ⟨bound, -⟩ := List.getElem?_eq_some_iff.mp here
  have inside : i < (defaults.map (·.name)).length := by rwa [List.length_map]
  refine ne ((List.getElem?_inj inside table.distinct).mp ?_)
  rw [List.getElem?_map, List.getElem?_map, here, there, Option.map_some, Option.map_some, same]

theorem SettingsLife.Remembers.set (table : SettingsTable defaults) (rem : s.Remembers defaults)
    {call : SettingCall} (taken : s.set atoi call = some s') : s'.Remembers defaults := by
  obtain ⟨v, here, taken⟩ := Option.bind_eq_some_iff.mp taken
  obtain ⟨r, ran, rfl⟩ := Option.map_eq_some_iff.mp taken
  obtain ⟨name, kind, outcome⟩ := ztacxSettingSet_cases (toOption_eq_some_iff.mp ran)
  obtain ⟨d, default, ⟨tagName, tagKind⟩⟩ := forall₂_getElem? rem.tags here
  have tags := forall₂_set rem.tags default ⟨name.trans tagName, kind.trans tagKind⟩
  obtain ⟨failed, none⟩ | ⟨bytes, save, saved, rc⟩ := outcome
  · simp only [none, if_neg failed]
    exact ⟨rem.plain, tags, rem.records⟩
  · rw [saved, rc, tagName]
    by_cases stored : call.saveRc = 0
    · have plain : nameEnd ∉ d.name.bytes := table.plain d (List.mem_of_getElem? default)
      simp only [settingsSaveOneRc, if_pos stored]
      refine ⟨rem.plain.settingsSaveOne (nameEnd_notMem_settingKey plain) bytes, tags, ?_⟩
      intro i e there
      by_cases same : i = call.index
      · subst same
        cases there.symm.trans default
        dsimp only
        rw [Function.update_self]
        refine ⟨r.setting, kind.trans tagKind, rfl, bytes, save, ?_⟩
        exact lookup_settingsSaveOne_self ..
      · dsimp only
        rw [Function.update_of_ne same,
          lookup_settingsSaveOne_of_ne (settingKey_ne table there default same)]
        exact rem.records i e there
    · simp only [settingsSaveOneRc, if_neg stored]
      exact ⟨rem.plain, tags, rem.records⟩

/-- An export stores nothing under the key of a setting. -/
theorem SettingsLife.Remembers.save (table : SettingsTable defaults)
    (foreign : ∀ d ∈ defaults, ∀ e ∈ defaults, d.name ≠ settingKey e.name)
    (rem : s.Remembers defaults) {records : List (CString × List UInt8)}
    (exported : settingsHandleExport s.settings = .ok records) (takes : CString → Bool) :
    SettingsLife.Remembers defaults
      { s with store := settingsSave s.store (records.filter fun record => takes record.1) } := by
  have supported : ∀ v ∈ s.settings, v.kind ≠ .event := by
    intro v mem
    obtain ⟨d, here, same⟩ := exists_mem_of_forall₂ rem.tags mem
    exact same.kind ▸ table.supported d here
  have each := (settingsHandleExport_eq_ok_iff supported).mp exported
  have named : ∀ record ∈ records.filter fun record => takes record.1,
      ∃ d ∈ defaults, record.1 = d.name := by
    intro record mem
    obtain ⟨v, here, -, same⟩ := exists_mem_of_forall₂ each (List.mem_of_mem_filter mem)
    obtain ⟨d, there, tag⟩ := exists_mem_of_forall₂ rem.tags here
    exact ⟨d, there, same.trans tag.name⟩
  refine ⟨rem.plain.settingsSave fun record mem => ?_, rem.tags, fun i e there => ?_⟩
  · obtain ⟨d, here, same⟩ := named record mem
    exact same ▸ table.plain d here
  · dsimp only
    rw [lookup_settingsSave fun record mem => ?_]
    · exact rem.records i e there
    · obtain ⟨d, here, same⟩ := named record mem
      exact same ▸ foreign d here e (List.mem_of_getElem? there)

/-- A list with the names and kinds of a table is a table. -/
theorem settingsTable_of_tags (table : SettingsTable defaults) {list : List ZtacxVariable}
    (tags : List.Forall₂ SameTag defaults list) : SettingsTable list := by
  have names : list.map (·.name) = defaults.map (·.name) :=
    (forall₂_image_eq_iff.mp (tags.imp fun _ _ same => same.name.symm)).symm
  refine ⟨names ▸ table.distinct, fun v mem => ?_, fun v mem => ?_⟩
  · obtain ⟨d, here, same⟩ := exists_mem_of_forall₂ tags mem
    exact same.name ▸ table.plain d here
  · obtain ⟨d, here, same⟩ := exists_mem_of_forall₂ tags mem
    exact same.kind ▸ table.supported d here

/-- What a load makes of each setting of the list that it is done over. -/
theorem SettingsLife.loadOver_eq_some (exact : names.Exact) (table : SettingsTable defaults)
    (rem : s.Remembers defaults) {list : List ZtacxVariable}
    (tags : List.Forall₂ SameTag defaults list) {arrivals : List SettingsArrival}
    (taken : s.loadOver names list arrivals = some s') :
    Arrives s.store arrivals ∧ ∃ settings, s' = { s with settings := settings } ∧
      List.Forall₂ (fun v w => loadCell receive v (arrivals.dlookup (settingKey v.name)) = .ok w)
        list settings := by
  obtain ⟨arrives, taken⟩ := Option.ite_none_right_eq_some.mp taken
  obtain ⟨settings, ran, rfl⟩ := Option.map_eq_some_iff.mp taken
  refine ⟨arrives, settings, rfl, ?_⟩
  exact (loadArrivals_eq_ok_iff exact (settingsTable_of_tags table tags) arrives.nodup
    fun key mem => rem.plain key (arrives.mem_store mem)).mp (toOption_eq_some_iff.mp ran)

/-- A load touches nothing that is saved. -/
theorem SettingsLife.Remembers.loadOver (rem : s.Remembers defaults) {list : List ZtacxVariable}
    (tags : List.Forall₂ SameTag defaults list) {arrivals : List SettingsArrival}
    (taken : s.loadOver names list arrivals = some s') :
    s'.Remembers defaults ∧ s'.lastSaved = s.lastSaved := by
  obtain ⟨-, taken⟩ := Option.ite_none_right_eq_some.mp taken
  obtain ⟨settings, ran, rfl⟩ := Option.map_eq_some_iff.mp taken
  have kept := sameTag_loadArrivals (toOption_eq_some_iff.mp ran)
  exact ⟨⟨rem.plain, sameTag_trans tags kept, rem.records⟩, rfl⟩

theorem SettingsLife.Remembers.step (table : SettingsTable defaults)
    (foreign : ∀ d ∈ defaults, ∀ e ∈ defaults, d.name ≠ settingKey e.name)
    (rem : s.Remembers defaults) {e : SettingsEvent}
    (taken : s.step names atoi defaults e = some s') : s'.Remembers defaults := by
  cases e with
  | set call => exact rem.set table taken
  | write index write =>
      obtain ⟨v, here, taken⟩ := Option.bind_eq_some_iff.mp taken
      obtain ⟨w, ran, rfl⟩ := Option.map_eq_some_iff.mp taken
      obtain ⟨name, kind⟩ := SettingWrite.apply_same (toOption_eq_some_iff.mp ran)
      obtain ⟨d, default, same⟩ := forall₂_getElem? rem.tags here
      exact ⟨rem.plain, forall₂_set rem.tags default ⟨name.trans same.name, kind.trans same.kind⟩,
        rem.records⟩
  | save takes =>
      obtain ⟨records, exported, rfl⟩ := Option.map_eq_some_iff.mp taken
      exact rem.save table foreign (toOption_eq_some_iff.mp exported) takes
  | load arrivals => exact (rem.loadOver rem.tags taken).1
  | restart arrivals =>
      exact (rem.loadOver (sameTag_refl defaults) taken).1

end Remembers

/-! ## Starts -/

/-- What a start makes of a setting. -/
def restoredValue (default : ZtacxVariable) : Option TypedValue → TypedValue
  | none => default.typedValue
  | some value => if value = .text (some .empty) then default.typedValue else value

/-- A start can load what was saved over the default. -/
def Startable (default : ZtacxVariable) (saved : Option TypedValue) : Prop :=
  default.kind = .string → default.value.valString.isLiteral = true →
    saved = none ∨ saved = some (.text (some .empty))

section Starts

variable {names : SettingsNames} {atoi : CString → BitVec 32} {defaults : List ZtacxVariable}
  {s t : SettingsLife} {d v w : ZtacxVariable} {saved : Option TypedValue}
  {record : Option (List UInt8)}

/-- A record is there unless the value is the empty text. -/
theorem Saved.cases (kind : v.kind ≠ .event) (saved : Saved v record) :
    (v.typedValue = .text (some .empty) ∧ record = none) ∨
      (v.typedValue ≠ .text (some .empty) ∧ ∃ bytes, record = some bytes) := by
  obtain ⟨bytes, save, rfl⟩ := saved
  cases size : v.kind.scalarSize with
  | some n =>
      rw [settingSaveBytes_scalar size] at save
      cases save
      have positive := (ZtacxValueKind.scalarSize_le size).1
      rw [ZtacxVariable.typedValue_of_scalar size, length_take_bytes size, if_neg (by omega)]
      exact .inr ⟨nofun, _, rfl⟩
  | none =>
      have string := (ZtacxValueKind.string_or_event size).resolve_right kind
      rw [settingSaveBytes_string string] at save
      obtain ⟨text, deref, same⟩ := map_eq_ok_iff.mp save
      cases same
      have points : v.value.valString.text = some text := by
        cases hptr : v.value.valString <;> rw [hptr] at deref <;> cases deref <;> rfl
      rw [ZtacxVariable.typedValue_of_string string, points]
      by_cases blank : text = .empty
      · rw [blank]
        exact .inl ⟨rfl, rfl⟩
      · have some_bytes : ¬ text.bytes.length = 0 := by
          rw [List.length_eq_zero_iff]
          exact fun none => blank (CString.ext none)
        rw [if_neg some_bytes]
        exact .inr ⟨fun same => blank (Option.some.inj (TypedValue.text.inj same)), _, rfl⟩

/-- A record cannot be loaded over a literal. -/
theorem isLiteral_of_loadSetting {bytes : List UInt8} (kind : d.kind = .string)
    (loaded : loadSetting d (some bytes) = .ok w) : d.value.valString.isLiteral = false := by
  cases hptr : d.value.valString with
  | literal text =>
      obtain ⟨fault, faults⟩ := handleString_literal (.whole bytes) hptr
      obtain ⟨r, ran, -⟩ := map_eq_ok_iff.mp loaded
      rw [handleSetting_string kind, faults] at ran
      cases ran
  | _ => rfl

/-- A text that is not empty can come back, unless its default is a literal. -/
theorem restorable_iff_of_ne (string : v.kind = .string)
    (some : v.typedValue ≠ .text (some .empty)) (ptr : StringPtr) :
    Restorable ptr v.value.valString.text ↔ ptr.isLiteral = false := by
  have text := ZtacxVariable.typedValue_of_string string
  rw [Restorable, if_neg fun blank => some (text.trans (congrArg TypedValue.text blank))]

/-- Where there is a record, a start can load it over anything but a literal. -/
theorem startable_iff_of_record {bytes : List UInt8} (kind : d.kind ≠ .event)
    (recordOf : RecordOf d.kind saved (some bytes)) :
    Startable d saved ↔ (d.kind = .string → d.value.valString.isLiteral = false) := by
  unfold Startable
  cases saved with
  | none => cases recordOf
  | some value =>
      obtain ⟨v, sameKind, rfl, saved⟩ := recordOf
      obtain ⟨-, absent⟩ | ⟨some, -⟩ := saved.cases (sameKind ▸ kind)
      · cases absent
      refine forall_congr' fun string => ⟨fun startable => ?_, fun writable literal => ?_⟩
      · refine Bool.eq_false_iff.mpr fun literal => ?_
        obtain none | blank := startable literal
        · cases none
        · exact some (Option.some.inj blank)
      · exact absurd (literal.symm.trans writable) nofun

/-- When a start can load a setting: what is read of the record makes no difference. -/
theorem loadCell_exists_iff {store : SettingsStore} {arrivals : List SettingsArrival}
    {key : CString} (arrives : Arrives store arrivals) (kind : d.kind ≠ .event)
    (recordOf : RecordOf d.kind saved (store.lookup key)) :
    (∃ w, loadCell receive d (arrivals.dlookup key) = .ok w) ↔
      (key ∈ arrivals.keys → Startable d saved) := by
  cases found : arrivals.dlookup key with
  | none =>
      exact iff_of_true ⟨d, rfl⟩ fun mem => absurd mem (List.dlookup_eq_none.mp found)
  | some io =>
      obtain ⟨data, record, len, read⟩ := arrives.of_dlookup found
      have mem : key ∈ arrivals.keys := List.dlookup_isSome.mp (Option.isSome_of_mem found)
      rw [record] at recordOf
      rw [forall_prop_of_true mem, startable_iff_of_record kind recordOf]
      exact receive_exists_iff (len ▸ read.length_le)

/-- What a start makes of a setting, if it goes through. -/
theorem typedValue_of_loadSetting (kind : d.kind ≠ .event)
    (recordOf : RecordOf d.kind saved record) (loaded : loadSetting d record = .ok w) :
    w.typedValue = restoredValue d saved := by
  cases saved with
  | none =>
      cases recordOf
      cases loaded
      rfl
  | some value =>
      obtain ⟨v, sameKind, rfl, saved⟩ := recordOf
      unfold restoredValue
      obtain ⟨blank, rfl⟩ | ⟨some, bytes, rfl⟩ := saved.cases (sameKind ▸ kind)
      · cases loaded
        exact (if_pos blank).symm
      · dsimp only
        rw [if_neg some]
        obtain ⟨u, again, same⟩ := (loadSetting_saved_iff sameKind.symm saved).mpr fun string =>
          (restorable_iff_of_ne string some _).mpr
            (isLiteral_of_loadSetting (sameKind.symm.trans string) loaded)
        cases again.symm.trans loaded
        exact same

theorem SettingsLife.remembers_run (table : SettingsTable defaults)
    (foreign : ∀ d ∈ defaults, ∀ e ∈ defaults, d.name ≠ settingKey e.name)
    {es : List SettingsEvent}
    (ran : run (SettingsLife.step names atoi defaults) (.boot defaults) es = some s) :
    s.Remembers defaults :=
  run_invariant_of_step (fun rem taken => rem.step table foreign taken)
    (SettingsLife.remembers_boot defaults) ran

/-- What a start makes of a setting whose record it reads whole, by what the store has. -/
theorem SettingsLife.Remembers.restarted (exact : names.Exact) (table : SettingsTable defaults)
    (rem : s.Remembers defaults) {arrivals : List SettingsArrival}
    (restarted : s.step names atoi defaults (.restart arrivals) = some t) {i : ℕ}
    (here : defaults[i]? = some d) (whole : ReadWhole s.store arrivals (settingKey d.name)) :
    ∃ v, t.settings[i]? = some v ∧ v.typedValue = restoredValue d (s.lastSaved i) := by
  obtain ⟨arrives, settings, rfl, loaded⟩ :=
    SettingsLife.loadOver_eq_some exact table rem (sameTag_refl defaults) restarted
  obtain ⟨sameLength, each⟩ := forall₂_iff_getElem?.mp loaded
  obtain ⟨inside, -⟩ := List.getElem?_eq_some_iff.mp here
  have there := List.getElem?_eq_getElem (l := settings) (sameLength ▸ inside)
  have loads := each i d _ here there
  rw [loadCell_of_readWhole arrives whole] at loads
  exact ⟨_, there, typedValue_of_loadSetting (table.supported d (List.mem_of_getElem? here))
    (rem.records i d here) loads⟩

/-- **What a start gives back**, of each setting whose record it reads whole: the value that
was last saved, whatever happened to the settings since and however often the device was
started, and the default if there was none. -/
theorem restarted_run (exact : names.Exact) (table : SettingsTable defaults)
    (foreign : ∀ d ∈ defaults, ∀ e ∈ defaults, d.name ≠ settingKey e.name)
    {es : List SettingsEvent} {arrivals : List SettingsArrival}
    (ran : run (SettingsLife.step names atoi defaults) (.boot defaults) es = some s)
    (restarted : s.step names atoi defaults (.restart arrivals) = some t) :
    ∀ (i : ℕ) d, defaults[i]? = some d → ReadWhole s.store arrivals (settingKey d.name) →
      ∃ v, t.settings[i]? = some v ∧ v.typedValue = restoredValue d (s.lastSaved i) :=
  fun _ _ here whole =>
    (SettingsLife.remembers_run table foreign ran).restarted exact table restarted here whole

/-- **When the device starts**: no text that the storage hands over has been saved over a
string literal. -/
theorem restarts_iff (exact : names.Exact) (table : SettingsTable defaults)
    (foreign : ∀ d ∈ defaults, ∀ e ∈ defaults, d.name ≠ settingKey e.name)
    {es : List SettingsEvent} {arrivals : List SettingsArrival}
    (ran : run (SettingsLife.step names atoi defaults) (.boot defaults) es = some s)
    (arrives : Arrives s.store arrivals) :
    (∃ t, s.step names atoi defaults (.restart arrivals) = some t) ↔
      ∀ (i : ℕ) d, defaults[i]? = some d → settingKey d.name ∈ arrivals.keys →
        Startable d (s.lastSaved i) := by
  have rem := SettingsLife.remembers_run table foreign ran
  have each : ∀ (i : ℕ) d, defaults[i]? = some d →
      ((∃ w, loadCell receive d (arrivals.dlookup (settingKey d.name)) = .ok w) ↔
        (settingKey d.name ∈ arrivals.keys → Startable d (s.lastSaved i))) := fun i d here =>
    loadCell_exists_iff arrives (table.supported d (List.mem_of_getElem? here))
      (rem.records i d here)
  constructor
  · rintro ⟨t, restarted⟩ i d here
    obtain ⟨-, settings, rfl, loaded⟩ :=
      SettingsLife.loadOver_eq_some exact table rem (sameTag_refl defaults) restarted
    obtain ⟨sameLength, loads⟩ := forall₂_iff_getElem?.mp loaded
    obtain ⟨inside, -⟩ := List.getElem?_eq_some_iff.mp here
    have there := List.getElem?_eq_getElem (l := settings) (sameLength ▸ inside)
    exact (each i d here).mp ⟨_, loads i d _ here there⟩
  · intro startable
    have loadable : List.Forall₂ (fun d (_ : ZtacxVariable) => ∃ w,
        loadCell receive d (arrivals.dlookup (settingKey d.name)) = .ok w ∧ True)
        defaults defaults := by
      refine List.forall₂_same.mpr fun d mem => ?_
      obtain ⟨i, here⟩ := List.mem_iff_getElem?.mp mem
      exact ((each i d here).mpr (startable i d here)).imp fun w loaded => ⟨loaded, trivial⟩
    obtain ⟨settings, loads, -⟩ :=
      (forall₂_exists_iff (S := fun _ _ => True)).mp loadable
    have loaded := (loadArrivals_eq_ok_iff exact table arrives.nodup
      fun key mem => rem.plain key (arrives.mem_store mem)).mpr loads
    refine ⟨{ s with settings := settings }, ?_⟩
    show s.loadOver names defaults arrivals = _
    rw [SettingsLife.loadOver, if_pos arrives, loaded]
    rfl

end Starts

/-! ## The join retries -/

def retriesAndGreeting : List ZtacxVariable := [lorawanJoinRetries, greeting]

theorem retriesAndGreeting_table : SettingsTable retriesAndGreeting :=
  ⟨by decide, by decide, by decide⟩

theorem retriesAndGreeting_foreign :
    ∀ d ∈ retriesAndGreeting, ∀ e ∈ retriesAndGreeting, d.name ≠ settingKey e.name := by decide

/-- Both are set, and the storage is not found at a start; the retries are written over
Bluetooth, and saved with everything else. -/
def retriesLife : List SettingsEvent :=
  [.set ⟨0, .ofString "3", true, 0⟩, .set ⟨1, .ofString "hello", true, 0⟩, .restart [],
    .write 0 (.gatt true true [7, 0] 0), .save fun _ => true]

/-- The retries are read, and the greeting is not. -/
def retriesArrive : List SettingsArrival :=
  [.whole ⟨settingKey lorawanJoinRetries.name, [3, 0]⟩,
    ⟨settingKey greeting.name, ⟨5, [], false, fun _ => 0⟩⟩]

/-- What is left of it: neither the write nor the save is there after a start. -/
theorem retriesLife_restarted : ∃ s t,
    run (SettingsLife.step .zephyr (fun _ => 3) retriesAndGreeting) (.boot retriesAndGreeting)
      retriesLife = some s ∧
    s.settings.map ZtacxVariable.typedValue = [.scalar [7, 0], .text (some (.ofString "hi"))] ∧
    s.step .zephyr (fun _ => 3) retriesAndGreeting (.restart retriesArrive) = some t ∧
    ∃ v, t.settings[0]? = some v ∧ v.typedValue = .scalar [3, 0] := by
  obtain ⟨s, t, ran, written, restarted, record, saved⟩ : ∃ s t,
      run (SettingsLife.step .zephyr (fun _ => 3) retriesAndGreeting) (.boot retriesAndGreeting)
        retriesLife = some s ∧
      s.settings.map ZtacxVariable.typedValue = [.scalar [7, 0], .text (some (.ofString "hi"))] ∧
      s.step .zephyr (fun _ => 3) retriesAndGreeting (.restart retriesArrive) = some t ∧
      s.store.lookup (settingKey lorawanJoinRetries.name) = some [3, 0] ∧
      s.lastSaved 0 = some (.scalar [3, 0]) := ⟨_, _, rfl, rfl, rfl, rfl, rfl⟩
  obtain ⟨v, here, value⟩ := restarted_run SettingsNames.zephyr_exact retriesAndGreeting_table
    retriesAndGreeting_foreign ran restarted 0 lorawanJoinRetries rfl fun data mem => by
      cases record.symm.trans mem
      exact ⟨.whole [3, 0], List.mem_cons_self, rfl, rfl⟩
  refine ⟨s, t, ran, written, restarted, v, here, ?_⟩
  rw [value, saved]
  rfl

/-! ## The name of the peripheral -/

theorem peripheralName_lt :
    (CString.ofString "peripheral_name").strlen < CONFIG_ZTACX_VALUE_NAME_MAX := by decide

/-- The entry of `src/ztacx_bt_peripheral.c`, whose default is a literal. -/
def peripheralName : ZtacxVariable where
  name := .ofString "peripheral_name"
  name_lt := peripheralName_lt
  kind := .string
  value := { ZtacxValue.zero with valString := .literal (.ofString "ztacx") }
  onChange := none

def nameAndKey : List ZtacxVariable := [peripheralName, lorawanAppKey]

theorem nameAndKey_table : SettingsTable nameAndKey := ⟨by decide, by decide, by decide⟩

theorem nameAndKey_foreign :
    ∀ d ∈ nameAndKey, ∀ e ∈ nameAndKey, d.name ≠ settingKey e.name := by decide

/-- The key is set, and then the name while memory is short. -/
def shortOfMemory : List SettingsEvent :=
  [.set ⟨1, .ofString "00ff", true, 0⟩, .set ⟨0, .ofString "node", false, 0⟩]

/-- The literal is saved, and there is no start any more, also if nothing is read of it. -/
theorem peripheralName_not_restarts : ∃ s,
    run (SettingsLife.step .zephyr (fun _ => 0) nameAndKey) (.boot nameAndKey) shortOfMemory =
      some s ∧
    ∀ arrivals, Arrives s.store arrivals → settingKey peripheralName.name ∈ arrivals.keys →
      ¬ ∃ t, s.step .zephyr (fun _ => 0) nameAndKey (.restart arrivals) = some t := by
  obtain ⟨s, ran, saved⟩ : ∃ s,
      run (SettingsLife.step .zephyr (fun _ => 0) nameAndKey) (.boot nameAndKey) shortOfMemory =
        some s ∧
      s.lastSaved 0 = some (.text (some (.ofString "ztacx"))) := ⟨_, rfl, rfl⟩
  refine ⟨s, ran, fun arrivals arrives mem restarts => ?_⟩
  have startable := (restarts_iff SettingsNames.zephyr_exact nameAndKey_table
    nameAndKey_foreign ran arrives).mp restarts 0 peripheralName rfl mem rfl rfl
  rw [saved] at startable
  exact absurd startable (by decide)

end Ztacx
