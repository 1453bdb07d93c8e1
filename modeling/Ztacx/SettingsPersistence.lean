import Ztacx.CModel.Run
import Ztacx.SettingsLoad
import Ztacx.SettingsStore

/-!
# Settings across a restart

A *session* is the settings in memory and the store behind them, from one start
of the device to the next.  Calls of `ztacx_setting_set` move both; a restart
puts the compiled-in defaults back and loads the store over them.  The question
is whether the restart gives back what was there (`Restores`).

Each setting can be followed on its own.  One that no call touches is loaded
again from the record it was loaded from.  One that was set has a record of its
value behind it (`Saved`), and what the load makes of that record depends on the
kind: a scalar always comes back, a STRING comes back unless it is one of two
sorts (`Restorable`).  The empty text is saved as a record of no bytes, which is
no record, so the default comes back in its place; and a text cannot be loaded
over a string literal, which the handler hands to `realloc`.
`restores_iff` says that these are the only two ways in which a value is lost.
-/

namespace Ztacx

open CModel

/-! ## Sessions -/

/-- The settings in memory and the store. -/
structure SettingsSession where
  settings : List ZtacxVariable
  store : SettingsStore

/-- A call of `ztacx_setting_set`: which setting, the text, whether memory can
be had and what the storage returns. -/
structure SettingCall where
  index : ℕ
  text : CString
  alloc : Bool
  saveRc : ℤ

/-- A call that returns 0. -/
def SettingsSession.step (atoi : CString → BitVec 32) (s : SettingsSession)
    (call : SettingCall) : Option SettingsSession :=
  s.settings[call.index]?.bind fun v =>
    (ztacxSettingSet atoi call.alloc call.saveRc v (some call.text)).toOption.bind fun r =>
      if r.rc ≠ 0 then none
      else some {
        settings := s.settings.set call.index r.setting
        store := match r.saved with
          | none => s.store
          | some (key, bytes) => settingsSaveOne s.store key bytes }

/-- The session as a start leaves it: the store, loaded over the defaults. -/
structure SettingsSession.Booted (names : SettingsNames) (defaults : List ZtacxVariable)
    (s : SettingsSession) : Prop where
  plain : PlainKeys s.store
  loaded : ∃ records : List SettingsRecord, records.Perm s.store.entries ∧
    settingsLoad names defaults records = .ok s.settings

/-- **A restart gives back every value**: the store can be loaded over the
defaults, and what comes out is what the session had. -/
def SettingsSession.Restores (names : SettingsNames) (defaults : List ZtacxVariable)
    (s : SettingsSession) : Prop :=
  ∀ records : List SettingsRecord, records.Perm s.store.entries →
    ∃ loaded, settingsLoad names defaults records = .ok loaded ∧
      loaded.map ZtacxVariable.typedValue = s.settings.map ZtacxVariable.typedValue

/-- The text that the calls leave in a setting that held `text`. -/
def textAfter (index : ℕ) (text : Option CString) (calls : List SettingCall) :
    Option CString :=
  calls.foldl (fun text call =>
    if call.index = index ∧ call.alloc then some call.text else text) text

/-! ## Single settings -/

/-- The pointer is a string literal's. -/
def StringPtr.isLiteral : StringPtr → Bool
  | .literal _ => true
  | _ => false

/-- A text that a load brings back over a default. -/
def Restorable (default : StringPtr) (text : Option CString) : Prop :=
  if text = some .empty then default.text = some .empty else default.isLiteral = false

instance (default : StringPtr) (text : Option CString) :
    Decidable (Restorable default text) := by
  unfold Restorable
  infer_instance

/-- The record under the key of a setting is that of its value. -/
def Saved (v : ZtacxVariable) (record : Option (List UInt8)) : Prop :=
  ∃ bytes, settingSaveBytes v = .ok (some bytes) ∧
    record = if bytes.length = 0 then none else some bytes

/-- A record of a scalar brings its value back. -/
theorem decodeSetting_scalar {v w : ZtacxVariable} {n : ℕ}
    (size : v.kind.scalarSize = some n) (kind : w.kind = v.kind) :
    ∃ u, decodeSetting w (v.value.bytes.take n) = .ok u ∧ u.typedValue = v.typedValue := by
  have hn := (ZtacxValueKind.scalarSize_le size).2
  have sizew : w.kind.scalarSize = some n := kind ▸ size
  have len := length_take_bytes size
  obtain ⟨value', stored, bytes, -⟩ :=
    w.value.store_of_le (show 0 + (v.value.bytes.take n).length ≤ 8 by omega)
  refine ⟨{ w with value := value' }, ?_, ?_⟩
  · unfold decodeSetting
    rw [handleSetting_scalar sizew, handleScalar]
    have width : ¬ (SettingsRead.whole (v.value.bytes.take n)).len ≠ n := not_not.mpr len
    rw [if_neg width]
    show ((w.value.store 0 (v.value.bytes.take n)).map _).map _ = _
    rw [stored]
    rfl
  · rw [ZtacxVariable.typedValue_of_scalar size,
      ZtacxVariable.typedValue_of_scalar (v := { w with value := value' }) sizew]
    show TypedValue.scalar (value'.bytes.take n) = _
    rw [bytes, splice_zero, List.take_append_of_le_length (by omega),
      List.take_of_length_le (by omega)]

/-- A record of a text brings it back over anything but a literal. -/
theorem decodeSetting_string {v : ZtacxVariable} (kind : v.kind = .string) (text : CString) :
    (∃ u, decodeSetting v text.bytes = .ok u ∧ u.typedValue = .text (some text)) ↔
      v.value.valString.isLiteral = false := by
  unfold decodeSetting
  rw [handleSetting_string kind]
  cases hptr : v.value.valString with
  | literal default =>
      obtain ⟨fault, faulted⟩ := handleString_literal (.whole text.bytes) hptr
      rw [faulted]
      refine iff_of_false ?_ (by simp [StringPtr.isLiteral])
      rintro ⟨u, ok, -⟩
      cases ok
  | _ =>
      refine iff_of_true ?_ rfl
      have writable : ∀ default, v.value.valString ≠ .literal default := by
        intro default same
        rw [hptr] at same
        cases same
      rw [handleString_whole text.bytes writable, CString.ofBytes_bytes]
      exact ⟨_, rfl, ZtacxVariable.typedValue_withString kind _⟩

/-- **What a load makes of a saved value.** -/
theorem loadSetting_saved_iff {v w : ZtacxVariable} {record : Option (List UInt8)}
    (kind : w.kind = v.kind) (saved : Saved v record) :
    (∃ u, loadSetting w record = .ok u ∧ u.typedValue = v.typedValue) ↔
      (v.kind = .string → Restorable w.value.valString v.value.valString.text) := by
  obtain ⟨bytes, save, rfl⟩ := saved
  cases hsize : v.kind.scalarSize with
  | some n =>
      rw [settingSaveBytes_scalar hsize] at save
      cases save
      have hn := ZtacxValueKind.scalarSize_le hsize
      have some_bytes : ¬ (v.value.bytes.take n).length = 0 := by
        rw [length_take_bytes hsize]
        omega
      rw [if_neg some_bytes]
      refine iff_of_true (decodeSetting_scalar hsize kind) fun string => ?_
      rw [string] at hsize
      cases hsize
  | none =>
      have string : v.kind = .string := by
        refine (ZtacxValueKind.string_or_event hsize).resolve_right fun event => ?_
        simp only [settingSaveBytes, event] at save
        cases save
      rw [settingSaveBytes_string string] at save
      obtain ⟨text, deref, bytesEq⟩ := map_eq_ok_iff.mp save
      cases bytesEq
      have points : v.value.valString.text = some text := by
        cases hptr : v.value.valString <;> rw [hptr] at deref <;> cases deref <;> rfl
      rw [ZtacxVariable.typedValue_of_string string, points]
      simp only [string, forall_const, Restorable, Option.some.injEq]
      by_cases blank : text = .empty
      · -- no record: the default stays
        have none_bytes : text.bytes.length = 0 := by
          rw [blank]
          rfl
        rw [if_pos none_bytes, if_pos blank]
        have stays : loadSetting w none = .ok w := rfl
        simp only [stays, Except.ok.injEq, exists_eq_left',
          ZtacxVariable.typedValue_of_string (kind.trans string), TypedValue.text.injEq, blank]
      · have some_bytes : ¬ text.bytes.length = 0 := by
          rw [List.length_eq_zero_iff]
          exact fun none => blank (CString.ext none)
        rw [if_neg some_bytes, if_neg blank]
        exact decodeSetting_string (kind.trans string) text

/-! ## One call -/

/-- What a call that returns 0 does: it replaces one setting, which keeps its
name and kind, and saves the value that it has now. -/
theorem SettingsSession.step_eq_some {atoi : CString → BitVec 32} {s s' : SettingsSession}
    {call : SettingCall} (taken : s.step atoi call = some s') :
    ∃ v w bytes, s.settings[call.index]? = some v ∧ w.name = v.name ∧ w.kind = v.kind ∧
      (v.kind = .string → w.value.valString.text =
        if call.alloc then some call.text else v.value.valString.text) ∧
      settingSaveBytes w = .ok (some bytes) ∧
      s' = { settings := s.settings.set call.index w
             store := settingsSaveOne s.store (settingKey v.name) bytes } := by
  obtain ⟨v, here, taken⟩ := Option.bind_eq_some_iff.mp taken
  obtain ⟨r, ran, taken⟩ := Option.bind_eq_some_iff.mp taken
  obtain ⟨ok, taken⟩ := Option.ite_none_left_eq_some.mp taken
  cases taken
  obtain ⟨set, parsed, ran⟩ := bind_eq_ok_iff.mp (toOption_eq_some_iff.mp ran)
  rcases ztacxVariableValueSetString_eq_ok parsed with
    ⟨-, rfl⟩ | ⟨kind, object, set, stored, rfl, text⟩
  · cases ran
    exact absurd (show -EINVAL ≠ 0 by decide) ok
  · obtain ⟨bytes, save, rfl⟩ := map_eq_ok_iff.mp ran
    obtain ⟨sameName, sameKind⟩ := ztacxVariableValueSet_same stored
    cases bytes with
    | none => exact absurd (show -EINVAL ≠ 0 by decide) ok
    | some bytes =>
        refine ⟨v, set.setting, bytes, here, sameName, sameKind, fun string => ?_, save, rfl⟩
        rw [text string] at stored
        rw [ztacxVariableValueSet_string string stored]
        cases call.alloc <;> rfl

/-- No call renames a setting. -/
theorem SettingsSession.step_names {atoi : CString → BitVec 32} {s s' : SettingsSession}
    {call : SettingCall} (taken : s.step atoi call = some s') :
    s'.settings.map (·.name) = s.settings.map (·.name) := by
  obtain ⟨v, w, bytes, here, name, -, -, -, rfl⟩ := step_eq_some taken
  refine List.ext_getElem? fun i => ?_
  rw [List.getElem?_map, List.getElem?_map, List.getElem?_set]
  split
  · rename_i same
    subst same
    obtain ⟨bound, -⟩ := List.getElem?_eq_some_iff.mp here
    rw [if_pos bound, here, Option.map_some, Option.map_some, name]
  · rfl

/-! ## One setting along a session -/

/-- What calls that take the session from `s` to `t` do to the setting at
`index`, which was `v` and is `w`. -/
structure SettingAfter (index : ℕ) (calls : List SettingCall) (s t : SettingsSession)
    (v w : ZtacxVariable) : Prop where
  here : t.settings[index]? = some w
  name : w.name = v.name
  kind : w.kind = v.kind
  text : v.kind = .string →
    w.value.valString.text = textAfter index v.value.valString.text calls
  untouched : (∀ call ∈ calls, call.index ≠ index) →
    w = v ∧ t.store.lookup (settingKey v.name) = s.store.lookup (settingKey v.name)
  saved : (∃ call ∈ calls, call.index = index) → Saved w (t.store.lookup (settingKey v.name))

section Run

variable {atoi : CString → BitVec 32} {index : ℕ}

/-- One call: the setting that it names is saved, the others keep their records
because they have other names. -/
theorem settingAfter_step {s s' : SettingsSession} {call : SettingCall} {v : ZtacxVariable}
    (distinct : (s.settings.map (·.name)).Nodup) (hv : s.settings[index]? = some v)
    (taken : s.step atoi call = some s') : ∃ w, SettingAfter index [call] s s' v w := by
  obtain ⟨u, w, bytes, here, name, kind, text, save, rfl⟩ := SettingsSession.step_eq_some taken
  by_cases mine : call.index = index
  · subst mine
    cases here.symm.trans hv
    obtain ⟨bound, -⟩ := List.getElem?_eq_some_iff.mp hv
    refine ⟨w, ?_, name, kind, fun string => ?_, fun none => ?_, fun _ => ⟨bytes, save, ?_⟩⟩
    · exact List.getElem?_set_self bound
    · rw [text string]
      show _ = if call.index = call.index ∧ call.alloc then _ else _
      cases call.alloc <;> simp
    · exact absurd rfl (none call (List.mem_cons_self ..))
    · exact lookup_settingsSaveOne_self ..
  -- two settings of different names are saved under different keys
  · have others : settingKey v.name ≠ settingKey u.name := by
      rw [Ne, settingKey_inj]
      intro same
      have named : ∀ {i : ℕ} {x : ZtacxVariable}, s.settings[i]? = some x →
          (s.settings.map (·.name))[i]? = some x.name := by
        intro i x hx
        rw [List.getElem?_map, hx, Option.map_some]
      obtain ⟨bound, at_call⟩ := List.getElem?_eq_some_iff.mp (named here)
      obtain ⟨bound', at_index⟩ := List.getElem?_eq_some_iff.mp (named hv)
      exact mine ((distinct.getElem_inj_iff).mp (at_call.trans (same.symm.trans at_index.symm)))
    refine ⟨v, ?_, rfl, rfl, fun _ => ?_, fun _ => ⟨rfl, ?_⟩, fun some => ?_⟩
    · exact (List.getElem?_set_ne mine).trans hv
    · show _ = if call.index = index ∧ call.alloc then _ else _
      rw [if_neg fun both => mine both.1]
    · exact lookup_settingsSaveOne_of_ne others ..
    · obtain ⟨other, mem, same⟩ := some
      cases List.mem_singleton.mp mem
      exact absurd same mine

/-- Calls one after another. -/
theorem SettingAfter.trans {calls calls' : List SettingCall} {s m t : SettingsSession}
    {v u w : ZtacxVariable} (first : SettingAfter index calls s m v u)
    (second : SettingAfter index calls' m t u w) :
    SettingAfter index (calls ++ calls') s t v w where
  here := second.here
  name := second.name.trans first.name
  kind := second.kind.trans first.kind
  text := by
    intro string
    rw [second.text (first.kind.trans string), first.text string, textAfter, textAfter,
      textAfter, List.foldl_append]
  untouched := by
    intro none
    obtain ⟨rfl, store⟩ := first.untouched fun call mem => none call (List.mem_append_left _ mem)
    obtain ⟨same, store'⟩ :=
      second.untouched fun call mem => none call (List.mem_append_right _ mem)
    exact ⟨same, store'.trans store⟩
  saved := by
    rintro ⟨call, mem, named⟩
    have later := second.saved
    rw [first.name] at later
    by_cases again : ∃ call ∈ calls', call.index = index
    · exact later again
    · -- saved in the first part and not touched since
      have here := first.saved ⟨call, (List.mem_append.mp mem).resolve_right
        fun mem => again ⟨call, mem, named⟩, named⟩
      obtain ⟨same, store⟩ := second.untouched fun call mem named => again ⟨call, mem, named⟩
      rw [first.name] at store
      rw [same, store]
      exact here

/-- **A run, setting by setting.** -/
theorem settingAfter_run {s t : SettingsSession} {calls : List SettingCall} {v : ZtacxVariable}
    (distinct : (s.settings.map (·.name)).Nodup) (hv : s.settings[index]? = some v)
    (ran : run (SettingsSession.step atoi) s calls = some t) :
    ∃ w, SettingAfter index calls s t v w := by
  induction calls generalizing s v with
  | nil =>
      cases ran
      refine ⟨v, hv, rfl, rfl, fun _ => rfl, fun _ => ⟨rfl, rfl⟩, ?_⟩
      rintro ⟨call, mem, -⟩
      exact absurd mem List.not_mem_nil
  | cons call calls ih =>
      obtain ⟨m, taken, ran⟩ := run_cons_eq_some.mp ran
      obtain ⟨u, first⟩ := settingAfter_step distinct hv taken
      have distinct' : (m.settings.map (·.name)).Nodup :=
        SettingsSession.step_names taken ▸ distinct
      obtain ⟨w, second⟩ := ih distinct' first.here ran
      exact ⟨w, first.trans second⟩

end Run

/-! ## All settings -/

section Restart

variable {names : SettingsNames} {atoi : CString → BitVec 32} {defaults : List ZtacxVariable}

/-- A restart gives back every value when each setting is loaded with its own. -/
theorem SettingsSession.restores_iff_forall₂ (exact : names.Exact)
    (table : SettingsTable defaults) {s : SettingsSession} (plain : PlainKeys s.store) :
    s.Restores names defaults ↔ List.Forall₂ (fun v w =>
      ∃ u, loadSetting v (s.store.lookup (settingKey v.name)) = .ok u ∧
        u.typedValue = w.typedValue) defaults s.settings := by
  rw [forall₂_exists_iff]
  constructor
  · intro restores
    obtain ⟨loaded, ok, same⟩ := restores _ (List.Perm.refl _)
    exact ⟨loaded, (settingsLoad_eq_ok_iff exact table (List.Perm.refl _) plain).mp ok,
      forall₂_image_eq_iff.mpr same⟩
  · rintro ⟨loaded, each, same⟩ records order
    exact ⟨loaded, (settingsLoad_eq_ok_iff exact table order plain).mpr each,
      forall₂_image_eq_iff.mp same⟩

/-- Along a session the names stay those of the table, and the keys plain. -/
theorem SettingsSession.run_names {s t : SettingsSession} {calls : List SettingCall}
    (table : SettingsTable defaults)
    (init : s.settings.map (·.name) = defaults.map (·.name)) (plain : PlainKeys s.store)
    (ran : run (step atoi) s calls = some t) :
    t.settings.map (·.name) = defaults.map (·.name) ∧ PlainKeys t.store := by
  refine run_invariant_of_step (I := fun s : SettingsSession =>
    s.settings.map (·.name) = defaults.map (·.name) ∧ PlainKeys s.store) ?_ ⟨init, plain⟩ ran
  rintro s call s' ⟨same, plain⟩ taken
  refine ⟨(step_names taken).trans same, ?_⟩
  obtain ⟨v, w, bytes, here, -, -, -, -, rfl⟩ := step_eq_some taken
  refine plain.settingsSaveOne (nameEnd_notMem_settingKey ?_) bytes
  have named : v.name ∈ defaults.map (·.name) :=
    same ▸ List.mem_map_of_mem (List.mem_of_getElem? here)
  obtain ⟨u, mem, sameName⟩ := List.mem_map.mp named
  exact sameName ▸ table.plain u mem

/-- Every STRING setting that was set was left with a text that a load brings
back over its default. -/
def TextsRestorable (defaults : List ZtacxVariable) (boot : SettingsSession)
    (calls : List SettingCall) : Prop :=
  ∀ (i : ℕ) v v₀, defaults[i]? = some v → boot.settings[i]? = some v₀ → v.kind = .string →
    (∃ call ∈ calls, call.index = i) →
    Restorable v.value.valString (textAfter i v₀.value.valString.text calls)

/-- One setting: `v` is its default, `v₀` what it was booted with, `w` what it is. -/
theorem SettingAfter.loads_iff {index : ℕ} {calls : List SettingCall}
    {boot s : SettingsSession} {v v₀ w : ZtacxVariable}
    (after : SettingAfter index calls boot s v₀ w)
    (booted : loadSetting v (boot.store.lookup (settingKey v.name)) = .ok v₀) :
    (∃ u, loadSetting v (s.store.lookup (settingKey v.name)) = .ok u ∧
        u.typedValue = w.typedValue) ↔
      (v.kind = .string → (∃ call ∈ calls, call.index = index) →
        Restorable v.value.valString (textAfter index v₀.value.valString.text calls)) := by
  obtain ⟨name, kind⟩ := loadSetting_same booted
  by_cases touched : ∃ call ∈ calls, call.index = index
  · have saved := after.saved touched
    rw [name] at saved
    have sameKind : v.kind = w.kind := (after.kind.trans kind).symm
    rw [loadSetting_saved_iff sameKind saved, ← sameKind]
    refine forall_congr' fun string => ?_
    rw [after.text (kind.trans string), forall_prop_of_true touched]
  · -- loaded again from the record it was booted from
    obtain ⟨rfl, store⟩ := after.untouched fun call mem named => touched ⟨call, mem, named⟩
    rw [name] at store
    rw [store]
    exact iff_of_true ⟨w, booted, rfl⟩ fun _ again => absurd again touched

/-- **What survives a restart**, for every session: everything, if every STRING
setting that was set was left with a text that can come back, and only then. -/
theorem SettingsSession.restores_iff (exact : names.Exact) (table : SettingsTable defaults)
    {boot s : SettingsSession} (booted : boot.Booted names defaults)
    {calls : List SettingCall} (ran : run (step atoi) boot calls = some s) :
    s.Restores names defaults ↔ TextsRestorable defaults boot calls := by
  obtain ⟨records, order, loaded⟩ := booted.loaded
  have loads := (settingsLoad_eq_ok_iff exact table order booted.plain).mp loaded
  have sameNames : boot.settings.map (·.name) = defaults.map (·.name) := by
    refine forall₂_image_eq_iff.mp (List.Forall₂.flip (loads.imp fun v v₀ ok => ?_))
    exact (loadSetting_same ok).1
  have distinct : (boot.settings.map (·.name)).Nodup := sameNames ▸ table.distinct
  obtain ⟨names', plain⟩ := run_names table sameNames booted.plain ran
  have sameLength : defaults.length = s.settings.length := by
    rw [← List.length_map (·.name), ← names', List.length_map]
  rw [restores_iff_forall₂ exact table plain, forall₂_iff_getElem?]
  obtain ⟨bootLength, loads⟩ := forall₂_iff_getElem?.mp loads
  constructor
  · rintro ⟨-, back⟩ i v v₀ hv hv₀
    obtain ⟨w, after⟩ := settingAfter_run distinct hv₀ ran
    exact (after.loads_iff (loads i v v₀ hv hv₀)).mp (back i v w hv after.here)
  · intro texts
    refine ⟨sameLength, fun i v w hv hw => ?_⟩
    obtain ⟨bound, -⟩ := List.getElem?_eq_some_iff.mp hv
    have hv₀ := List.getElem?_eq_getElem (bootLength ▸ bound)
    obtain ⟨w', after⟩ := settingAfter_run distinct hv₀ ran
    cases after.here.symm.trans hw
    exact (after.loads_iff (loads i v _ hv hv₀)).mpr (texts i v _ hv hv₀)

end Restart

/-! ## The LoRaWAN application key -/

/-- The entry of `src/ztacx_lorawan.c`, which has no default. -/
def lorawanAppKey : ZtacxVariable where
  name := .ofString "lorawan_app_key"
  name_lt := by decide
  kind := .string
  value := .zero
  onChange := none

/-- An entry whose default is a text on the heap, as `ztacx_settings_add` makes it. -/
def greeting : ZtacxVariable where
  name := .ofString "greeting"
  name_lt := by decide
  kind := .string
  value := { ZtacxValue.zero with valString := .block (.ofString "hi") }
  onChange := none

/-- The first start, with nothing stored. -/
def firstBoot (defaults : List ZtacxVariable) : SettingsSession where
  settings := defaults
  store := ∅

theorem firstBoot_booted (names : SettingsNames) (defaults : List ZtacxVariable) :
    (firstBoot defaults).Booted names defaults where
  plain := fun key mem => absurd mem (AList.notMem_empty key)
  loaded := ⟨[], List.Perm.refl _, rfl⟩

/-- A key and a text that are set, the key twice. -/
def keyAndGreeting : List SettingCall :=
  [{ index := 0, text := .ofString "00ff", alloc := true, saveRc := 0 },
    { index := 1, text := .ofString "hello", alloc := true, saveRc := 0 },
    { index := 0, text := .ofString "11ee", alloc := true, saveRc := 0 }]

/-- Texts that are not empty come back. -/
theorem appKey_restored : ∃ s, run (SettingsSession.step fun _ => 0)
      (firstBoot [lorawanAppKey, greeting]) keyAndGreeting = some s ∧
    s.Restores .zephyr [lorawanAppKey, greeting] := by
  obtain ⟨s, ran⟩ := Option.isSome_iff_exists.mp (by decide :
    (run (SettingsSession.step fun _ => 0) (firstBoot [lorawanAppKey, greeting])
      keyAndGreeting).isSome)
  refine ⟨s, ran, (SettingsSession.restores_iff SettingsNames.zephyr_exact
    ⟨by decide, by decide, by decide⟩ (firstBoot_booted _ _) ran).mpr ?_⟩
  rintro i v v₀ hv - - -
  match i, hv with
  | 0, hv =>
      cases hv
      show Restorable .null (some (.ofString "11ee"))
      decide
  | 1, hv =>
      cases hv
      show Restorable (.block (.ofString "hi")) (some (.ofString "hello"))
      decide

/-- The empty text does not come back: the one setting has no value after the
restart, the other its default. -/
theorem emptied_not_restored : ∃ s,
    run (SettingsSession.step fun _ => 0) (firstBoot [lorawanAppKey, greeting])
      [{ index := 0, text := .empty, alloc := true, saveRc := 0 },
        { index := 1, text := .empty, alloc := true, saveRc := 0 }] = some s ∧
    s.settings.map ZtacxVariable.typedValue = [.text (some .empty), .text (some .empty)] ∧
    settingsLoad .zephyr [lorawanAppKey, greeting] s.store.entries =
      .ok [lorawanAppKey, greeting] ∧
    ¬ s.Restores .zephyr [lorawanAppKey, greeting] := by
  refine ⟨_, rfl, by decide, rfl, fun restores => ?_⟩
  obtain ⟨loaded, ok, same⟩ := restores _ (List.Perm.refl _)
  cases ok
  exact absurd same (by decide)

end Ztacx
