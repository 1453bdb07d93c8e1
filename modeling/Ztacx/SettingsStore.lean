import Mathlib.Data.List.AList
import Ztacx.CModel.Records
import Ztacx.Settings

/-!
# The settings store

What the storage holds between two starts of the device, and what one load of it
does to the settings in memory.

The store has one record per key.  Saving under a key with no bytes deletes the
record, which is what the NVS backend does with an empty value.  Loading hands
every record whose key is `app/<name>` to the handler once, in the order in which
the storage keeps them; the handler's return code is dropped.

A handler call searches the whole list of settings by name.  For settings whose
names are distinct and free of `=` the search comes down to a comparison, so a
call acts on each setting separately and so does a load, whatever comes of
reading the records (`loadArrivals_eq_ok_iff`).  Where all of them are read whole
a setting ends up as the record under its own key says, or as it was
(`settingsLoad_eq_ok_iff`).
-/

namespace Ztacx

open CModel

/-! ## The store -/

/-- One record per key. -/
abbrev SettingsStore := AList fun _ : CString => List UInt8

/-- A record as the storage hands it over. -/
abbrev SettingsRecord := Σ _ : CString, List UInt8

/-- `settings_save_one` where it succeeds. -/
def settingsSaveOne (store : SettingsStore) (key : CString) (bytes : List UInt8) :
    SettingsStore :=
  if bytes.length = 0 then store.erase key else store.insert key bytes

theorem lookup_settingsSaveOne_self (store : SettingsStore) (key : CString)
    (bytes : List UInt8) :
    (settingsSaveOne store key bytes).lookup key =
      if bytes.length = 0 then none else some bytes := by
  unfold settingsSaveOne
  split
  · exact AList.lookup_erase key store
  · exact AList.lookup_insert store

theorem lookup_settingsSaveOne_of_ne {key other : CString} (ne : other ≠ key)
    (store : SettingsStore) (bytes : List UInt8) :
    (settingsSaveOne store key bytes).lookup other = store.lookup other := by
  unfold settingsSaveOne
  split
  · exact AList.lookup_erase_ne ne
  · exact AList.lookup_insert_ne ne

/-! ## Keys -/

/-- The `<name>` of a key `app/<name>`. -/
def appName (key : CString) : Option CString :=
  if appPrefix.bytes <+: key.bytes then some (key.drop appPrefix.strlen) else none

theorem appName_eq_some_iff {key name : CString} :
    appName key = some name ↔ key = appPrefix.append name := by
  unfold appName
  constructor
  · intro found
    obtain ⟨isPrefix, found⟩ := Option.ite_none_right_eq_some.mp found
    cases found
    exact CString.ext (List.prefix_iff_eq_append.mp isPrefix).symm
  · rintro rfl
    have isPrefix : appPrefix.bytes <+: (appPrefix.append name).bytes :=
      List.prefix_append ..
    rw [if_pos isPrefix]
    exact congrArg some (CString.ext List.drop_left)

/-- A name fits behind its prefix. -/
theorem settingKey_eq (v : ZtacxVariable) : settingKey v.name = appPrefix.append v.name := by
  have short := v.name_lt
  have len : appPrefix.bytes.length = 4 := by decide
  refine CString.ext (List.take_of_length_le ?_)
  rw [CString.append_bytes, List.length_append, len]
  unfold CString.strlen CONFIG_ZTACX_VALUE_NAME_MAX at short
  omega

theorem appName_settingKey (v : ZtacxVariable) : appName (settingKey v.name) = some v.name :=
  appName_eq_some_iff.mpr (settingKey_eq v)

theorem settingKey_inj {v w : ZtacxVariable} :
    settingKey v.name = settingKey w.name ↔ v.name = w.name := by
  rw [settingKey_eq, settingKey_eq, CString.append_right_inj]

/-! ## Loading -/

/-- One record goes to the handler, if its key is the handler's. -/
def loadRecord (names : SettingsNames) (list : List ZtacxVariable) (record : SettingsRecord) :
    Except Fault (List ZtacxVariable) :=
  match appName record.1 with
  | none => .ok list
  | some name => (settingsHandleSet names name (.whole record.2) list).map Prod.fst

/-- `settings_load`. -/
def settingsLoad (names : SettingsNames) (list : List ZtacxVariable)
    (records : List SettingsRecord) : Except Fault (List ZtacxVariable) :=
  records.foldlM (loadRecord names) list

/-- A record as a load hands it over: its key, and what comes of reading it. -/
abbrev SettingsArrival := Σ _ : CString, SettingsRead

/-- A record that is read whole, with memory for it. -/
def SettingsArrival.whole (record : SettingsRecord) : SettingsArrival :=
  ⟨record.1, .whole record.2⟩

/-- One record goes to the handler, whatever comes of reading it. -/
def loadArrival (names : SettingsNames) (list : List ZtacxVariable) (arrival : SettingsArrival) :
    Except Fault (List ZtacxVariable) :=
  match appName arrival.1 with
  | none => .ok list
  | some name => (settingsHandleSet names name arrival.2 list).map Prod.fst

/-- `settings_load`, whatever comes of reading the records. -/
def loadArrivals (names : SettingsNames) (list : List ZtacxVariable)
    (arrivals : List SettingsArrival) : Except Fault (List ZtacxVariable) :=
  arrivals.foldlM (loadArrival names) list

theorem settingsLoad_eq_loadArrivals (names : SettingsNames) (list : List ZtacxVariable)
    (records : List SettingsRecord) :
    settingsLoad names list records =
      loadArrivals names list (records.map SettingsArrival.whole) := by
  unfold loadArrivals
  rw [List.foldlM_map]
  rfl

/-- What the handler makes of a setting of that name. -/
def receive (v : ZtacxVariable) (io : SettingsRead) : Except Fault ZtacxVariable :=
  (handleSetting v io).map Prod.fst

/-- What the handler makes of a setting when it is given a record for it. -/
def decodeSetting (v : ZtacxVariable) (data : List UInt8) : Except Fault ZtacxVariable :=
  (handleSetting v (.whole data)).map Prod.fst

/-- A setting after a load, by the record under its key. -/
def loadSetting (v : ZtacxVariable) (data : Option (List UInt8)) : Except Fault ZtacxVariable :=
  loadCell decodeSetting v data

theorem receive_same {v w : ZtacxVariable} {io : SettingsRead} (received : receive v io = .ok w) :
    w.name = v.name ∧ w.kind = v.kind := by
  obtain ⟨r, ran, rfl⟩ := map_eq_ok_iff.mp received
  exact handleSetting_same ran

theorem loadSetting_same {v w : ZtacxVariable} {data : Option (List UInt8)}
    (loaded : loadSetting v data = .ok w) : w.name = v.name ∧ w.kind = v.kind := by
  cases data with
  | none =>
      cases loaded
      exact ⟨rfl, rfl⟩
  | some data => exact receive_same loaded

/-! ## Tables of settings -/

/-- A list of settings as the program's tables give it: the names are distinct
and free of `=`, and every kind is one that can be saved. -/
structure SettingsTable (list : List ZtacxVariable) : Prop where
  distinct : (list.map (·.name)).Nodup
  plain : ∀ v ∈ list, nameEnd ∉ v.name.bytes
  supported : ∀ v ∈ list, v.kind ≠ .event

/-- Keys as the settings subsystem forms them. -/
def PlainKeys (store : SettingsStore) : Prop :=
  ∀ key ∈ store, nameEnd ∉ key.bytes

theorem PlainKeys.settingsSaveOne {store : SettingsStore} (plain : PlainKeys store)
    {key : CString} (plainKey : nameEnd ∉ key.bytes) (bytes : List UInt8) :
    PlainKeys (settingsSaveOne store key bytes) := by
  intro other mem
  unfold Ztacx.settingsSaveOne at mem
  split at mem
  · exact plain other (AList.mem_erase.mp mem).2
  · rcases (AList.mem_insert store).mp mem with rfl | mem
    · exact plainKey
    · exact plain other mem

/-- The key of a plain name is plain. -/
theorem nameEnd_notMem_settingKey {v : ZtacxVariable} (plain : nameEnd ∉ v.name.bytes) :
    nameEnd ∉ (settingKey v.name).bytes := by
  have plainPrefix : nameEnd ∉ appPrefix.bytes := by decide
  rw [settingKey_eq, CString.append_bytes, List.mem_append, not_or]
  exact ⟨plainPrefix, plain⟩

section Load

variable {names : SettingsNames}

/-- **One handler call acts on each setting separately**: on the one that has
the name, and on no other. -/
theorem settingsHandleSet_eq_ok_iff (exact : names.Exact) {name : CString}
    (plain : nameEnd ∉ name.bytes) (io : SettingsRead) {list list' : List ZtacxVariable}
    (distinct : (list.map (·.name)).Nodup) (plains : ∀ v ∈ list, nameEnd ∉ v.name.bytes) :
    (settingsHandleSet names name io list).map Prod.fst = .ok list' ↔
      List.Forall₂ (fun v w =>
        (if name = v.name then (handleSetting v io).map Prod.fst else .ok v) = .ok w)
        list list' := by
  induction list generalizing list' with
  | nil =>
      rw [List.forall₂_nil_left_iff]
      show Except.ok [] = .ok list' ↔ _
      rw [Except.ok.injEq, eq_comm]
  | cons v list ih =>
      rw [List.map_cons, List.nodup_cons] at distinct
      have matches_iff := exact name v.name plain (plains v (List.mem_cons_self ..))
      rw [List.forall₂_cons_left_iff, settingsHandleSet]
      by_cases found : name = v.name
      · -- the rest of the list has other names, so nothing happens to it
        have untouched : ∀ rest, List.Forall₂ (fun v w =>
            (if name = v.name then (handleSetting v io).map Prod.fst else .ok v) = .ok w)
            list rest ↔ list = rest := by
          intro rest
          rw [← List.forall₂_eq_eq_eq]
          refine forall₂_congr_left fun w mem u => ?_
          have other : name ≠ w.name := by
            rintro same
            exact distinct.1 (found ▸ same ▸ List.mem_map_of_mem mem)
          rw [if_neg other, Except.ok.injEq]
        rw [if_pos (matches_iff.mpr found), if_pos found, map_eq_ok_iff]
        constructor
        · rintro ⟨r, ran, rfl⟩
          obtain ⟨s, handled, rfl⟩ := map_eq_ok_iff.mp ran
          exact ⟨s.1, list, map_eq_ok_iff.mpr ⟨s, handled, rfl⟩, (untouched _).mpr rfl, rfl⟩
        · rintro ⟨w, rest, ran, same, rfl⟩
          obtain ⟨s, handled, rfl⟩ := map_eq_ok_iff.mp ran
          cases (untouched rest).mp same
          exact ⟨_, map_eq_ok_iff.mpr ⟨s, handled, rfl⟩, rfl⟩
      · rw [if_neg fun hit => found (matches_iff.mp hit), if_neg found, map_eq_ok_iff]
        have later := fun rest => @ih rest distinct.2 fun w mem =>
          plains w (List.mem_cons_of_mem _ mem)
        constructor
        · rintro ⟨r, ran, rfl⟩
          obtain ⟨s, handled, rfl⟩ := map_eq_ok_iff.mp ran
          exact ⟨v, s.1, rfl, (later s.1).mp (map_eq_ok_iff.mpr ⟨s, handled, rfl⟩), rfl⟩
        · rintro ⟨w, rest, kept, related, rfl⟩
          cases kept
          obtain ⟨s, handled, rfl⟩ := map_eq_ok_iff.mp ((later rest).mpr related)
          exact ⟨_, map_eq_ok_iff.mpr ⟨s, handled, rfl⟩, rfl⟩

/-- A record acts on each setting separately. -/
theorem loadArrival_eq_ok_iff (exact : names.Exact) {arrival : SettingsArrival}
    (plain : nameEnd ∉ arrival.1.bytes) {list list' : List ZtacxVariable}
    (distinct : (list.map (·.name)).Nodup) (plains : ∀ v ∈ list, nameEnd ∉ v.name.bytes) :
    loadArrival names list arrival = .ok list' ↔
      List.Forall₂ (fun v w => touch (settingKey v.name) receive v arrival = .ok w)
        list list' := by
  unfold loadArrival
  cases found : appName arrival.1 with
  | none =>
      -- another subsystem's key is nobody's
      show Except.ok list = .ok list' ↔ _
      rw [Except.ok.injEq, ← List.forall₂_eq_eq_eq]
      refine forall₂_congr_left fun v _ w => ?_
      have other : arrival.1 ≠ settingKey v.name := by
        intro same
        rw [same, appName_settingKey] at found
        cases found
      rw [touch, if_neg other, Except.ok.injEq]
  | some name =>
      have key := appName_eq_some_iff.mp found
      have plainName : nameEnd ∉ name.bytes := by
        rw [key, CString.append_bytes, List.mem_append, not_or] at plain
        exact plain.2
      show (settingsHandleSet names name arrival.2 list).map Prod.fst = .ok list' ↔ _
      rw [settingsHandleSet_eq_ok_iff exact plainName _ distinct plains]
      refine forall₂_congr_left fun v _ w => ?_
      have same : arrival.1 = settingKey v.name ↔ name = v.name := by
        rw [key, settingKey_eq, CString.append_right_inj]
      simp only [touch, same]
      rfl

/-- **A load acts on each setting separately**, whatever the order of the records and
whatever comes of reading them. -/
theorem loadArrivals_eq_ok_iff (exact : names.Exact) {list list' : List ZtacxVariable}
    (table : SettingsTable list) {arrivals : List SettingsArrival} (nodup : arrivals.NodupKeys)
    (plain : ∀ key ∈ arrivals.keys, nameEnd ∉ key.bytes) :
    loadArrivals names list arrivals = .ok list' ↔
      List.Forall₂ (fun v w => loadCell receive v (arrivals.dlookup (settingKey v.name)) = .ok w)
        list list' := by
  unfold loadArrivals
  rw [foldlM_eq_ok_iff (fun received => (receive_same received).1) ?_
    (show list.map (·.name) = list.map (·.name) from rfl)]
  · refine forall₂_congr_left fun v _ w => ?_
    rw [replay_eq_loadCell nodup]
  · intro cells tags arrival mem cells'
    refine loadArrival_eq_ok_iff exact (plain _ (List.mem_keys_of_mem mem))
      (tags ▸ table.distinct) fun v mem => ?_
    have named : v.name ∈ list.map (·.name) := tags ▸ List.mem_map_of_mem mem
    obtain ⟨w, mem, same⟩ := List.mem_map.mp named
    exact same ▸ table.plain w mem

theorem keys_map_whole (records : List SettingsRecord) :
    (records.map SettingsArrival.whole).keys = records.keys := List.map_map ..

/-- A setting does not see the difference between a record and one that is read whole. -/
theorem loadCell_whole (v : ZtacxVariable) (records : List SettingsRecord) (key : CString) :
    loadCell receive v ((records.map SettingsArrival.whole).dlookup key) =
      loadSetting v (records.dlookup key) := by
  have found : (records.map SettingsArrival.whole).dlookup key =
      (records.dlookup key).map SettingsRead.whole :=
    List.dlookup_map₂ (f := fun _ => SettingsRead.whole) key
  rw [found]
  cases records.dlookup key with
  | none => rfl
  | some data => rfl

/-- **A load in which nothing fails.** -/
theorem settingsLoad_eq_ok_iff (exact : names.Exact) {list list' : List ZtacxVariable}
    (table : SettingsTable list) {store : SettingsStore} {records : List SettingsRecord}
    (order : records.Perm store.entries) (plain : PlainKeys store) :
    settingsLoad names list records = .ok list' ↔
      List.Forall₂ (fun v w => loadSetting v (store.lookup (settingKey v.name)) = .ok w)
        list list' := by
  have nodup : records.NodupKeys := (List.perm_nodupKeys order).mpr store.nodupKeys
  have keys : ∀ key ∈ (records.map SettingsArrival.whole).keys, nameEnd ∉ key.bytes := by
    rw [keys_map_whole]
    exact fun key mem => plain key ((order.map Sigma.fst).mem_iff.mp mem)
  rw [settingsLoad_eq_loadArrivals, loadArrivals_eq_ok_iff exact table ?_ keys]
  · refine forall₂_congr_left fun v _ w => ?_
    rw [loadCell_whole, List.perm_dlookup _ nodup order]
    rfl
  · unfold List.NodupKeys
    rwa [keys_map_whole]

end Load

end Ztacx
