import Ztacx.LorawanJoin
import Ztacx.SettingsLife

/-!
# The credentials of the last start

The LoRaWAN leaf on top of the settings: its table among those of other leaves, the storage
behind them, and the static variables that a start of the device clears.

`ztacx_lorawan_start` sees what a load has left in the settings.  So the credentials that a
device joins with after a start that has read the leaf's settings are the ones that were last
saved (`joins_restarted`): the first call for which there is memory sets `join_cfg` to the bytes
that the saved texts spell, whatever the settings were before the device was switched off, and
no later change of a setting reaches them.
-/

namespace Ztacx

open CModel

/-! ## The table -/

namespace LorawanSettingIndex

/-- The number of the constant. -/
def position : LorawanSettingIndex → ℕ
  | authAbp => 0
  | authOtaa => 1
  | devEui => 2
  | appKey => 3
  | joinEui => 4
  | devAddr => 5
  | nwkSkey => 6
  | appSkey => 7
  | channelMask => 8
  | adr => 9
  | sendRetries => 10
  | joinRetries => 11
  | enable => 12

def name : LorawanSettingIndex → CString
  | authAbp => .ofString "lorawan_auth_abp"
  | authOtaa => .ofString "lorawan_auth_otaa"
  | devEui => .ofString "lorawan_dev_eui"
  | appKey => .ofString "lorawan_app_key"
  | joinEui => .ofString "lorawan_join_eui"
  | devAddr => .ofString "lorawan_dev_addr"
  | nwkSkey => .ofString "lorawan_nwk_skey"
  | appSkey => .ofString "lorawan_app_skey"
  | channelMask => .ofString "lorawan_channel_mask"
  | adr => .ofString "lorawan_adr"
  | sendRetries => .ofString "lorawan_send_retries"
  | joinRetries => .ofString "lorawan_join_retries"
  | enable => .ofString "lorawan_enable"

def kind : LorawanSettingIndex → ZtacxValueKind
  | authAbp | authOtaa | adr | enable => .bool
  | sendRetries | joinRetries => .uint16
  | devEui | appKey | joinEui | devAddr | nwkSkey | appSkey | channelMask => .string

/-- The initializer of the value. -/
def value : LorawanSettingIndex → ZtacxValue
  | joinRetries => lorawanJoinRetries.value
  | enable => setFlag
  | _ => .zero

theorem name_lt (i : LorawanSettingIndex) : i.name.strlen < CONFIG_ZTACX_VALUE_NAME_MAX := by
  cases i <;> decide

/-- The entry of the table. -/
def entry (i : LorawanSettingIndex) : ZtacxVariable where
  name := i.name
  name_lt := i.name_lt
  kind := i.kind
  value := i.value
  onChange := none

end LorawanSettingIndex

/-- `lorawan_settings`. -/
def lorawanSettings : List ZtacxVariable :=
  [LorawanSettingIndex.authAbp, .authOtaa, .devEui, .appKey, .joinEui, .devAddr, .nwkSkey,
    .appSkey, .channelMask, .adr, .sendRetries, .joinRetries, .enable].map
    LorawanSettingIndex.entry

theorem lorawanSettings_getElem? (i : LorawanSettingIndex) :
    lorawanSettings[i.position]? = some i.entry := by
  cases i <;> rfl

/-! ## The device -/

/-- The settings with the storage, and the static variables of the leaf. -/
structure LorawanDevice where
  life : SettingsLife
  arrays : LorawanArrays
  joinCfg : Option LorawanJoinConfig

/-- The static storage at a start. -/
def LorawanDevice.started (life : SettingsLife) : LorawanDevice where
  life := life
  arrays := fun a => List.replicate a.size 0
  joinCfg := none

/-- What `LORAWAN_SETTING` reads, in a list that has the table from `offset` on. -/
def lorawanValues (offset : ℕ) (settings : List ZtacxVariable) : LorawanSettings :=
  fun i => settings[offset + i.position]?.elim .zero ZtacxVariable.value

def LorawanDevice.leaf (offset : ℕ) (d : LorawanDevice) : LorawanState where
  settings := lorawanValues offset d.life.settings
  arrays := d.arrays
  joinCfg := d.joinCfg

/-- What the leaf joins with. -/
def LorawanDevice.joins (d : LorawanDevice) : Option Credentials :=
  d.joinCfg.map fun cfg => cfg.denotes d.arrays

inductive LorawanDeviceEvent
  | settings (event : SettingsEvent)
  | start (outcome : StartOutcome)

def SettingsEvent.restarts : SettingsEvent → Bool
  | .restart _ => true
  | .set _ | .write .. | .save _ | .load _ => false

def LorawanDeviceEvent.restarts : LorawanDeviceEvent → Bool
  | .settings event => event.restarts
  | .start _ => false

section Device

variable (names : SettingsNames) (atoi : CString → BitVec 32)
  (before after : List ZtacxVariable)

/-- The settings that are registered: those of the leaf among those of others. -/
def deviceSettings : List ZtacxVariable := before ++ lorawanSettings ++ after

def LorawanDevice.step (d : LorawanDevice) : LorawanDeviceEvent → Option LorawanDevice
  | .settings event =>
    (d.life.step names atoi (deviceSettings before after) event).map fun life =>
      if event.restarts then .started life else { d with life := life }
  | .start outcome =>
    (ztacxLorawanStart (d.leaf before.length) outcome).toOption.map fun r =>
      { d with arrays := r.1.arrays, joinCfg := r.1.joinCfg }

def LorawanDevice.boot : LorawanDevice := .started (.boot (deviceSettings before after))

end Device

/-! ## What values spell -/

/-- The bytes that the parsers make of a text, if there are `n` of them.  No character is
checked: each two of them give a byte, the one that `strtoul` finds in them, whether or not they
are hexadecimal digits. -/
def TypedValue.spells (n : ℕ) : TypedValue → Option (List UInt8)
  | .text t =>
    let text := t.getD .empty
    if text.strlen / 2 = n then some (hexBytes text.bytes) else none
  | .scalar _ | .event _ => none

def TypedValue.isSet : TypedValue → Bool
  | .scalar member => leNat member ≠ 0
  | .text _ | .event _ => false

/-- The credentials that values spell, if the leaf is enabled: ABP in preference to OTAA. -/
def spelledCredentials (values : LorawanSettingIndex → TypedValue) : Option Credentials :=
  if (values .enable).isSet then
    if (values .authAbp).isSet then
      ((values .devEui).spells 8).bind fun devEui =>
        ((values .devAddr).spells 4).bind fun devAddr =>
          ((values .appSkey).spells 16).bind fun appSkey =>
            ((values .nwkSkey).spells 16).map fun nwkSkey =>
              .abp devEui (devAddrOf devAddr) appSkey nwkSkey
    else if (values .authOtaa).isSet then
      ((values .devEui).spells 8).bind fun devEui =>
        ((values .appKey).spells 16).bind fun appKey =>
          ((values .joinEui).spells 8).map fun joinEui => .otaa devEui appKey appKey joinEui
    else none
  else none

/-- The values that a start restores. -/
def savedValues (offset : ℕ) (saved : ℕ → Option TypedValue) (i : LorawanSettingIndex) :
    TypedValue :=
  restoredValue i.entry (saved (offset + i.position))

/-- The leaf reads values. -/
def Reads (settings : LorawanSettings) (values : LorawanSettingIndex → TypedValue) : Prop :=
  ∀ i, ∃ v : ZtacxVariable, v.kind = i.kind ∧ v.value = settings i ∧ v.typedValue = values i

section Reading

variable {settings : LorawanSettings} {values : LorawanSettingIndex → TypedValue}
  {i : LorawanSettingIndex}

theorem Reads.valBool (reads : Reads settings values) (bool : i.kind = .bool) :
    (settings i).valBool = (values i).isSet := by
  obtain ⟨v, kind, value, typed⟩ := reads i
  have size : v.kind.scalarSize = some 1 := by
    rw [kind, bool]
    rfl
  rw [← typed, ZtacxVariable.typedValue_of_scalar size, ← value]
  rfl

theorem Reads.decodes (reads : Reads settings values) (string : i.kind = .string) (n : ℕ) :
    decodeSetting? (settings i) n = (values i).spells n := by
  obtain ⟨v, kind, value, typed⟩ := reads i
  rw [← typed, ZtacxVariable.typedValue_of_string (kind.trans string), ← value]
  rfl

/-- What a call configures is what the values spell. -/
theorem Reads.configures (reads : Reads settings values) (outcome : StartOutcome) :
    configures settings outcome = if outcome.alloc then spelledCredentials values else none := by
  have enable := reads.valBool (i := .enable) rfl
  have abp := reads.valBool (i := .authAbp) rfl
  have otaa := reads.valBool (i := .authOtaa) rfl
  unfold Ztacx.configures enabledCredentials abpCredentials otaaCredentials spelledCredentials
  simp only [enable, abp, otaa, reads.decodes (i := .devEui) rfl,
    reads.decodes (i := .devAddr) rfl, reads.decodes (i := .appSkey) rfl,
    reads.decodes (i := .nwkSkey) rfl, reads.decodes (i := .appKey) rfl,
    reads.decodes (i := .joinEui) rfl]
  cases outcome.alloc with
  | true => simp only [and_true, if_true]
  | false => simp only [Bool.false_eq_true, and_false, if_false]

end Reading

/-! ## Runs of the device -/

section Runs

variable {names : SettingsNames} {atoi : CString → BitVec 32}
  {before after : List ZtacxVariable} {d d' s t : LorawanDevice}

/-- The settings are remembered, and the arrays keep their sizes. -/
structure LorawanDevice.Sound (before after : List ZtacxVariable) (d : LorawanDevice) : Prop where
  remembers : d.life.Remembers (deviceSettings before after)
  sized : ArraysSized d.arrays

theorem LorawanDevice.sound_boot : (LorawanDevice.boot before after).Sound before after where
  remembers := SettingsLife.remembers_boot _
  sized := fun _ => List.length_replicate

/-- A call of `ztacx_lorawan_start` configures a join if there is none. -/
theorem LorawanDevice.step_start (sized : ArraysSized d.arrays) (outcome : StartOutcome) :
    ∃ d', d.step names atoi before after (.start outcome) = some d' ∧ d'.life = d.life ∧
      ArraysSized d'.arrays ∧ d'.joins = d.joins.or
        (configures (lorawanValues before.length d.life.settings) outcome) := by
  obtain ⟨leaf, rest, ran, sized', -, denoted⟩ :=
    ztacxLorawanStart_spec (s := d.leaf before.length) sized outcome
  refine ⟨{ d with arrays := leaf.arrays, joinCfg := leaf.joinCfg }, ?_, rfl, sized', denoted⟩
  rw [LorawanDevice.step, ran]
  rfl

theorem LorawanDevice.Sound.step (table : SettingsTable (deviceSettings before after))
    (foreign : ∀ d ∈ deviceSettings before after, ∀ e ∈ deviceSettings before after,
      d.name ≠ settingKey e.name)
    (sound : d.Sound before after) {event : LorawanDeviceEvent}
    (taken : d.step names atoi before after event = some d') : d'.Sound before after := by
  cases event with
  | settings event =>
      obtain ⟨life, stepped, rfl⟩ := Option.map_eq_some_iff.mp taken
      have remembers := sound.remembers.step table foreign stepped
      split
      · exact ⟨remembers, fun _ => List.length_replicate⟩
      · exact ⟨remembers, sound.sized⟩
  | start outcome =>
      obtain ⟨d'', started, life, sized, -⟩ := LorawanDevice.step_start sound.sized outcome
      cases started.symm.trans taken
      exact ⟨life ▸ sound.remembers, sized⟩

/-- A join that is configured stays, until the device is started again. -/
theorem LorawanDevice.joins_step (sized : ArraysSized d.arrays) {event : LorawanDeviceEvent}
    (running : event.restarts = false) {creds : Credentials} (joins : d.joins = some creds)
    (taken : d.step names atoi before after event = some d') : d'.joins = some creds := by
  cases event with
  | settings event =>
      obtain ⟨life, -, rfl⟩ := Option.map_eq_some_iff.mp taken
      have same : ¬ event.restarts = true := Bool.eq_false_iff.mp running
      rw [if_neg same]
      exact joins
  | start outcome =>
      obtain ⟨d'', started, -, -, configured⟩ := LorawanDevice.step_start sized outcome
      cases started.symm.trans taken
      rw [configured, joins, Option.some_or]

theorem LorawanDevice.joins_run (table : SettingsTable (deviceSettings before after))
    (foreign : ∀ d ∈ deviceSettings before after, ∀ e ∈ deviceSettings before after,
      d.name ≠ settingKey e.name)
    (sound : d.Sound before after) {later : List LorawanDeviceEvent}
    (running : ∀ e ∈ later, e.restarts = false) (joins : d.joins.isSome)
    (ran : run (LorawanDevice.step names atoi before after) d later = some t) :
    t.joins = d.joins := by
  obtain ⟨creds, same⟩ := Option.isSome_iff_exists.mp joins
  rw [same]
  exact (run_invariant_within (I := fun d => d.Sound before after ∧ d.joins = some creds)
    (D := fun e => e.restarts = false) (fun kept here taken =>
      ⟨kept.1.step table foreign taken,
        LorawanDevice.joins_step kept.1.sized here kept.2 taken⟩) ⟨sound, same⟩ running ran).2

/-- The leaf reads what a start has restored. -/
theorem reads_restarted (exact : names.Exact)
    (table : SettingsTable (deviceSettings before after)) {life life' : SettingsLife}
    (remembers : life.Remembers (deviceSettings before after)) {arrivals : List SettingsArrival}
    (whole : ∀ i : LorawanSettingIndex, ReadWhole life.store arrivals (settingKey i.name))
    (restarted : life.step names atoi (deviceSettings before after) (.restart arrivals) =
      some life') :
    Reads (lorawanValues before.length life'.settings)
      (savedValues before.length life.lastSaved) := by
  intro i
  have remembers' := (remembers.loadOver (sameTag_refl _) restarted).1
  have here : (deviceSettings before after)[before.length + i.position]? = some i.entry := by
    have inside : i.position < lorawanSettings.length := by cases i <;> decide
    rw [deviceSettings, List.append_assoc, List.getElem?_append_right (Nat.le_add_right ..),
      Nat.add_sub_cancel_left, List.getElem?_append_left inside, lorawanSettings_getElem?]
  obtain ⟨v, there, typed⟩ := remembers.restarted exact table restarted here (whole i)
  obtain ⟨d, here', tag⟩ := forall₂_getElem? remembers'.tags there
  cases here.symm.trans here'
  refine ⟨v, tag.kind, ?_, typed⟩
  rw [lorawanValues, there]
  rfl

/-- Calls of `ztacx_lorawan_start` alone: the first that has memory decides. -/
theorem LorawanDevice.joins_starts {values : LorawanSettingIndex → TypedValue}
    (sound : d.Sound before after)
    (reads : Reads (lorawanValues before.length d.life.settings) values)
    (tries : List StartOutcome) :
    ∃ s, run (LorawanDevice.step names atoi before after) d (tries.map .start) = some s ∧
      s.Sound before after ∧ s.joins = d.joins.or
        (if tries.any StartOutcome.alloc then spelledCredentials values else none) := by
  induction tries generalizing d with
  | nil => exact ⟨d, rfl, sound, (Option.or_none ..).symm⟩
  | cons outcome tries ih =>
      obtain ⟨d', taken, life, sized, configured⟩ :=
        LorawanDevice.step_start sound.sized outcome
      obtain ⟨s, ran, sound', joins⟩ := ih ⟨life ▸ sound.remembers, sized⟩ (life ▸ reads)
      refine ⟨s, run_cons_eq_some.mpr ⟨d', taken, ran⟩, sound', ?_⟩
      rw [joins, configured, reads.configures, Option.or_assoc, List.any_cons]
      -- a later call would configure the same
      cases outcome.alloc <;> cases tries.any StartOutcome.alloc <;>
        simp only [Bool.or_self, Bool.or_true, Bool.true_or, Bool.false_eq_true, if_true, if_false,
          Option.none_or, Option.or_none, Option.or_self]

/-- **What a device joins with after a start** that has read the settings of the leaf: the
credentials that the values spell that were last saved, from the first call on that has memory,
whatever happens to the settings after it. -/
theorem joins_restarted (exact : names.Exact)
    (table : SettingsTable (deviceSettings before after))
    (foreign : ∀ d ∈ deviceSettings before after, ∀ e ∈ deviceSettings before after,
      d.name ≠ settingKey e.name)
    {es : List LorawanDeviceEvent} {arrivals : List SettingsArrival}
    (ran : run (LorawanDevice.step names atoi before after) (.boot before after) es = some d)
    (whole : ∀ i : LorawanSettingIndex, ReadWhole d.life.store arrivals (settingKey i.name))
    (restarted : d.step names atoi before after (.settings (.restart arrivals)) = some d')
    (tries : List StartOutcome) :
    ∃ s, run (LorawanDevice.step names atoi before after) d' (tries.map .start) = some s ∧
      s.joins = (if tries.any StartOutcome.alloc then
        spelledCredentials (savedValues before.length d.life.lastSaved) else none) ∧
      (s.joins.isSome → ∀ later t, (∀ e ∈ later, e.restarts = false) →
        run (LorawanDevice.step names atoi before after) s later = some t →
          t.joins = s.joins) := by
  have sound : d.Sound before after :=
    run_invariant_of_step (fun sound taken => sound.step table foreign taken)
      LorawanDevice.sound_boot ran
  have sound' := sound.step table foreign restarted
  obtain ⟨life, loaded, rfl⟩ := Option.map_eq_some_iff.mp restarted
  obtain ⟨s, tried, kept, joins⟩ := LorawanDevice.joins_starts sound'
    (reads_restarted exact table sound.remembers whole loaded) tries
  exact ⟨s, tried, joins, fun configured later t running went =>
    LorawanDevice.joins_run table foreign kept running configured went⟩

end Runs

/-! ## A device that is given its keys -/

/-- OTAA is switched on and the texts are set at the shell, behind the setting of another leaf;
then the key is overwritten in memory, and the storage is not found at a start. -/
def givenKeys : List LorawanDeviceEvent :=
  [.settings (.set ⟨2, .ofString "1", true, 0⟩),
    .settings (.set ⟨3, .ofString "70b3d57ed0051122", true, 0⟩),
    .settings (.set ⟨4, .ofString "000102030405060708090a0b0c0d0e0f", true, 0⟩),
    .settings (.set ⟨5, .ofString "0011223344556677", true, 0⟩),
    .start goodOutcome,
    .settings (.write 4 (.string true (.ofString "ff"))),
    .settings (.restart [])]

theorem greetingAndKeys_table : SettingsTable (deviceSettings [greeting] []) :=
  ⟨by decide, by decide, by decide⟩

theorem greetingAndKeys_foreign : ∀ d ∈ deviceSettings [greeting] [],
    ∀ e ∈ deviceSettings [greeting] [], d.name ≠ settingKey e.name := by decide

/-- It joins with the keys once it is started again, at the second try. -/
theorem givenKeys_joins : ∃ d d' s,
    run (LorawanDevice.step .zephyr (fun _ => 1) [greeting] []) (.boot [greeting] []) givenKeys =
      some d ∧
    d.step .zephyr (fun _ => 1) [greeting] []
      (.settings (.restart (d.life.store.entries.map SettingsArrival.whole))) = some d' ∧
    run (LorawanDevice.step .zephyr (fun _ => 1) [greeting] []) d'
      [.start ⟨false, 0, fun _ => 0⟩, .start goodOutcome] = some s ∧
    s.joins = some (.otaa [0x70, 0xb3, 0xd5, 0x7e, 0xd0, 5, 0x11, 0x22]
      [0, 1, 2, 3, 4, 5, 6, 7, 8, 9, 10, 11, 12, 13, 14, 15]
      [0, 1, 2, 3, 4, 5, 6, 7, 8, 9, 10, 11, 12, 13, 14, 15]
      [0, 0x11, 0x22, 0x33, 0x44, 0x55, 0x66, 0x77]) := by
  obtain ⟨d, d', ran, restarted, saved⟩ : ∃ d d',
      run (LorawanDevice.step .zephyr (fun _ => 1) [greeting] []) (.boot [greeting] [])
        givenKeys = some d ∧
      d.step .zephyr (fun _ => 1) [greeting] []
        (.settings (.restart (d.life.store.entries.map SettingsArrival.whole))) = some d' ∧
      spelledCredentials (savedValues 1 d.life.lastSaved) =
        some (.otaa [0x70, 0xb3, 0xd5, 0x7e, 0xd0, 5, 0x11, 0x22]
          [0, 1, 2, 3, 4, 5, 6, 7, 8, 9, 10, 11, 12, 13, 14, 15]
          [0, 1, 2, 3, 4, 5, 6, 7, 8, 9, 10, 11, 12, 13, 14, 15]
          [0, 0x11, 0x22, 0x33, 0x44, 0x55, 0x66, 0x77]) := ⟨_, _, rfl, rfl, rfl⟩
  obtain ⟨s, tried, joins, -⟩ := joins_restarted SettingsNames.zephyr_exact greetingAndKeys_table
    greetingAndKeys_foreign ran (fun i => readWhole_whole (List.Perm.refl _) (settingKey i.name))
    restarted [⟨false, 0, fun _ => 0⟩, goodOutcome]
  exact ⟨d, d', s, ran, restarted, tried, joins.trans saved⟩

end Ztacx
