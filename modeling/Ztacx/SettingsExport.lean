import Ztacx.SettingsPersistence

/-!
# Saving all settings at once

`ztacx setting save` calls `settings_save`, which asks `settings_handle_export`
for the record of every setting and stores each record under exactly the key it
is given.  `ztacx_setting_set` saves one setting through `settings_save_one`.
Both encode the same values, so they ought to hand over the same records.

They agree on the bytes of every value (`settingsHandleExport_eq_ok_iff`) and
disagree on every key: the export leaves the prefix `app/` out.  So no list but
the empty one is exported as its settings are saved (`exportFaithful_iff`), and a
load does not even see what an export has stored: for the next start nothing has
been saved (`settingsSave_restores_iff`).
-/

namespace Ztacx

open CModel

/-- `settings_save` with the records of the export. -/
def settingsSave (store : SettingsStore) (records : List (CString × List UInt8)) :
    SettingsStore :=
  records.foldl (fun store record => settingsSaveOne store record.1 record.2) store

/-- The record that `ztacx_setting_set` hands to `settings_save_one` for the
value that a setting has. -/
def settingRecord (v : ZtacxVariable) : Except Fault (Option (CString × List UInt8)) :=
  (settingSaveBytes v).map fun bytes => bytes.map fun bytes => (settingKey v.name, bytes)

/-- The export completes and hands over, for each setting, the record that
`ztacx_setting_set` hands over. -/
def ExportAgrees (list : List ZtacxVariable) : Prop :=
  ∃ records, settingsHandleExport list = .ok records ∧
    List.Forall₂ (fun v record => ∀ saved, settingRecord v = .ok (some saved) → record = saved)
      list records

/-- Whatever was stored before, a save and a restart give back every value. -/
def SaveRestores (names : SettingsNames) (defaults list : List ZtacxVariable) : Prop :=
  ∀ store, ∃ records, settingsHandleExport list = .ok records ∧
    SettingsSession.Restores names defaults
      { settings := list, store := settingsSave store records }

/-- `settingRecord` is what `ztacx_setting_set` saves. -/
theorem settingRecord_of_ztacxSettingSet {atoi : CString → BitVec 32} {alloc : Bool}
    {saveRc : ℤ} {s : ZtacxVariable} {text : CString} {r : SettingSet}
    (ran : ztacxSettingSet atoi alloc saveRc s (some text) = .ok r)
    {record : CString × List UInt8} (saved : r.saved = some record) :
    settingRecord r.setting = .ok (some record) := by
  obtain ⟨set, parsed, ran⟩ := bind_eq_ok_iff.mp ran
  have sameName : set.setting.name = s.name := by
    rcases ztacxVariableValueSetString_eq_ok parsed with ⟨-, rfl⟩ | ⟨-, _, stored, ok, rfl, -⟩
    · rfl
    · exact (ztacxVariableValueSet_same ok).1
  by_cases failed : set.rc ≠ 0
  · rw [if_pos failed] at ran
    cases ran
    cases saved
  · rw [if_neg failed] at ran
    obtain ⟨bytes, save, rfl⟩ := map_eq_ok_iff.mp ran
    cases bytes with
    | none => cases saved
    | some bytes =>
        cases saved
        rw [settingRecord, save, sameName]
        rfl

/-! ## The records of an export -/

section Records

variable {list : List ZtacxVariable} {records : List (CString × List UInt8)}

theorem settingSaveBytes_ne_none {v : ZtacxVariable} (kind : v.kind ≠ .event) :
    settingSaveBytes v ≠ .ok none := by
  intro skipped
  cases hsize : v.kind.scalarSize with
  | some n =>
      rw [settingSaveBytes_scalar hsize] at skipped
      cases skipped
  | none =>
      have string := (ZtacxValueKind.string_or_event hsize).resolve_right kind
      rw [settingSaveBytes_string string] at skipped
      obtain ⟨text, -, impossible⟩ := map_eq_ok_iff.mp skipped
      cases impossible

/-- **What an export hands over**: the bytes that are saved for each value,
under its bare name. -/
theorem settingsHandleExport_eq_ok_iff (supported : ∀ v ∈ list, v.kind ≠ .event) :
    settingsHandleExport list = .ok records ↔
      List.Forall₂ (fun v record => settingSaveBytes v = .ok (some record.2) ∧
        record.1 = v.name) list records := by
  induction list generalizing records with
  | nil =>
      rw [List.forall₂_nil_left_iff, settingsHandleExport, Except.ok.injEq, eq_comm]
  | cons v list ih =>
      have kind := supported v (List.mem_cons_self ..)
      have later := fun rest => @ih rest fun w mem => supported w (List.mem_cons_of_mem _ mem)
      rw [List.forall₂_cons_left_iff, settingsHandleExport, bind_eq_ok_iff]
      constructor
      · rintro ⟨bytes, save, ran⟩
        obtain ⟨rest, exported, rfl⟩ := map_eq_ok_iff.mp ran
        cases bytes with
        | none => exact absurd save (settingSaveBytes_ne_none kind)
        | some bytes => exact ⟨(v.name, bytes), rest, ⟨save, rfl⟩, (later rest).mp exported, rfl⟩
      · rintro ⟨⟨name, bytes⟩, rest, ⟨save, rfl⟩, related, rfl⟩
        exact ⟨some bytes, save, map_eq_ok_iff.mpr ⟨rest, (later rest).mpr related, rfl⟩⟩

/-- A name is not its own key. -/
theorem name_ne_settingKey (v : ZtacxVariable) : v.name ≠ settingKey v.name := by
  intro same
  have len : appPrefix.bytes.length = 4 := by decide
  have lengths := congrArg (fun s : CString => s.bytes.length) same
  simp only [settingKey_eq, CString.append_bytes, List.length_append, len] at lengths
  omega

/-- **No setting is exported as it is saved.** -/
theorem exportAgrees_iff (supported : ∀ v ∈ list, v.kind ≠ .event) :
    ExportAgrees list ↔ list = [] := by
  constructor
  · rintro ⟨records, exported, agree⟩
    have each := (settingsHandleExport_eq_ok_iff supported).mp exported
    cases agree with
    | nil => rfl
    | @cons v record list records same _ =>
        cases each with
        | cons head _ =>
            obtain ⟨save, named⟩ := head
            have saved : settingRecord v = .ok (some (settingKey v.name, record.2)) := by
              rw [settingRecord, save]
              rfl
            rw [same _ saved] at named
            exact absurd named.symm (name_ne_settingKey v)
  · rintro rfl
    exact ⟨[], rfl, .nil⟩

end Records

/-! ## What a restart sees of an export -/

section Restart

variable {names : SettingsNames} {defaults list : List ZtacxVariable}
  {records : List (CString × List UInt8)} {store : SettingsStore}

theorem lookup_settingsSave {key : CString} (foreign : ∀ record ∈ records, record.1 ≠ key) :
    (settingsSave store records).lookup key = store.lookup key := by
  induction records generalizing store with
  | nil => rfl
  | cons record records ih =>
      have others := foreign record (List.mem_cons_self ..)
      show (settingsSave (settingsSaveOne store record.1 record.2) records).lookup key = _
      rw [ih fun r mem => foreign r (List.mem_cons_of_mem _ mem),
        lookup_settingsSaveOne_of_ne others.symm]

theorem PlainKeys.settingsSave (plain : PlainKeys store)
    (plains : ∀ record ∈ records, nameEnd ∉ record.1.bytes) :
    PlainKeys (settingsSave store records) := by
  induction records generalizing store with
  | nil => exact plain
  | cons record records ih =>
      have here := plain.settingsSaveOne (plains record (List.mem_cons_self ..)) record.2
      exact ih here fun r mem => plains r (List.mem_cons_of_mem _ mem)

/-- **An export saves nothing for the next start**, unless a setting's bare name
happens to be another one's key. -/
theorem settingsSave_restores_iff (exact : names.Exact) (table : SettingsTable defaults)
    (current : SettingsTable list) (plain : PlainKeys store)
    (foreign : ∀ v ∈ list, ∀ w ∈ defaults, v.name ≠ settingKey w.name)
    (exported : settingsHandleExport list = .ok records) :
    SettingsSession.Restores names defaults
        { settings := list, store := settingsSave store records } ↔
      SettingsSession.Restores names defaults { settings := list, store := store } := by
  have each := (settingsHandleExport_eq_ok_iff current.supported).mp exported
  have named : ∀ record ∈ records, ∃ v ∈ list, record.1 = v.name := by
    intro record mem
    obtain ⟨v, here, -, same⟩ := exists_mem_of_forall₂ each mem
    exact ⟨v, here, same⟩
  have plain' : PlainKeys (settingsSave store records) := by
    refine plain.settingsSave fun record mem => ?_
    obtain ⟨v, here, same⟩ := named record mem
    exact same ▸ current.plain v here
  rw [SettingsSession.restores_iff_forall₂ exact table plain',
    SettingsSession.restores_iff_forall₂ exact table plain]
  refine forall₂_congr_left fun w mem _ => ?_
  have unseen : (settingsSave store records).lookup (settingKey w.name) =
      store.lookup (settingKey w.name) := by
    refine lookup_settingsSave fun record recorded => ?_
    obtain ⟨v, here, same⟩ := named record recorded
    exact same ▸ foreign v here w mem
  show (∃ u, loadSetting w ((settingsSave store records).lookup _) = _ ∧ _) ↔ _
  rw [unseen]

theorem settingsLoad_nil (records : List SettingsRecord) :
    settingsLoad names [] records = .ok [] := by
  induction records with
  | nil => rfl
  | cons record records ih =>
      have skipped : loadRecord names [] record = .ok [] := by
        unfold loadRecord
        cases appName record.1 <;> rfl
      unfold settingsLoad at ih ⊢
      rw [List.foldlM_cons, skipped]
      exact ih

/-- **The export keeps its promise for no settings.**  `defaults` is the table
that `list` has the values of. -/
theorem exportFaithful_iff
    (sameTable : List.Forall₂ (fun v w => v.name = w.name ∧ v.kind = w.kind) defaults list)
    (supported : ∀ v ∈ list, v.kind ≠ .event) :
    (ExportAgrees list ∧ SaveRestores names defaults list) ↔ list = [] := by
  constructor
  · rintro ⟨agrees, -⟩
    exact (exportAgrees_iff supported).mp agrees
  · rintro rfl
    refine ⟨(exportAgrees_iff supported).mpr rfl, fun store => ⟨[], rfl, fun records _ => ?_⟩⟩
    cases List.forall₂_nil_right_iff.mp sameTable
    exact ⟨[], settingsLoad_nil records, rfl⟩

/-- An entry of `src/ztacx_lorawan.c` with a number in it. -/
def lorawanJoinRetries : ZtacxVariable where
  name := .ofString "lorawan_join_retries"
  name_lt := by decide
  kind := .uint16
  value := { ZtacxValue.zero with
    bytes := [10, 0, 0, 0, 0, 0, 0, 0]
    bytes_length := rfl }
  onChange := none

/-- Without settings there is nothing to disagree on; with one there is. -/
theorem joinRetries_exportFaithful :
    (ExportAgrees [] ∧ SaveRestores .zephyr [] []) ∧
    ¬ (ExportAgrees [lorawanJoinRetries] ∧
      SaveRestores .zephyr [lorawanJoinRetries] [lorawanJoinRetries]) := by
  refine ⟨(exportFaithful_iff .nil (by decide)).mpr rfl, fun faithful => ?_⟩
  exact absurd ((exportFaithful_iff (.cons ⟨rfl, rfl⟩ .nil) (by decide)).mp faithful) (by decide)

/-- The number is exported under its bare name and saved under its key, and the
application key stops the export: it has no text to measure. -/
theorem lorawan_not_exportFaithful :
    settingsHandleExport [lorawanJoinRetries] =
        .ok [(.ofString "lorawan_join_retries", [10, 0])] ∧
      settingRecord lorawanJoinRetries =
        .ok (some (.ofString "app/lorawan_join_retries", [10, 0])) ∧
      settingsHandleExport [lorawanAppKey] = .error .nullDeref ∧
      ¬ ExportAgrees [lorawanJoinRetries] ∧ ¬ ExportAgrees [lorawanAppKey] := by
  refine ⟨by decide, by decide, by decide, ?_, ?_⟩
  · rintro ⟨records, exported, agree⟩
    cases exported
    cases agree with
    | cons same _ =>
        have saved : settingRecord lorawanJoinRetries =
            .ok (some (.ofString "app/lorawan_join_retries", [10, 0])) := by decide
        exact absurd (same _ saved) (by decide)
  · rintro ⟨records, exported, -⟩
    cases exported

end Restart

end Ztacx
