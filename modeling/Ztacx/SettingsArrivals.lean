import Ztacx.SettingsPersistence

/-!
# Loads that fail

The storage need not get to all of its records; the callback may read less of one than there
is, or nothing; and there may be no memory for a text.  The handler's return code is dropped, so
nobody hears of it.

Whatever becomes of one record, the settings of the others do not notice.  A record that is
read whole, with memory for it, has the effect that it has in a load where nothing fails
(`loadCell_of_readWhole`).  What is read makes no difference to whether the load goes through:
the one thing that stops it is a STRING that points at a literal (`receive_exists_iff`).
-/

namespace Ztacx

open CModel

/-- What the storage can hand over: records that it has, none of them twice, each read from
its front. -/
structure Arrives (store : SettingsStore) (arrivals : List SettingsArrival) : Prop where
  nodup : arrivals.NodupKeys
  stored : ∀ arrival ∈ arrivals, ∃ data ∈ store.lookup arrival.1,
    arrival.2.len = data.length ∧ arrival.2.bytes <+: data

/-- The record under a key, if there is one, is read whole, and there is memory for it. -/
def ReadWhole (store : SettingsStore) (arrivals : List SettingsArrival) (key : CString) : Prop :=
  ∀ data ∈ store.lookup key, ∃ io : SettingsRead,
    ⟨key, io⟩ ∈ arrivals ∧ io.bytes = data ∧ io.alloc = true

instance (store : SettingsStore) (arrivals : List SettingsArrival) :
    Decidable (Arrives store arrivals) :=
  decidable_of_iff
    (arrivals.keys.Nodup ∧ ∀ arrival ∈ arrivals, ∃ data ∈ store.lookup arrival.1,
      arrival.2.len = data.length ∧ arrival.2.bytes <+: data)
    ⟨fun both => ⟨both.1, both.2⟩, fun arrives => ⟨arrives.nodup, arrives.stored⟩⟩

section Arrivals

variable {store : SettingsStore} {arrivals : List SettingsArrival} {records : List SettingsRecord}
  {key : CString} {v : ZtacxVariable} {io : SettingsRead} {data : List UInt8}

/-! ## Loads that do not fail -/

theorem arrives_whole (order : records.Perm store.entries) :
    Arrives store (records.map SettingsArrival.whole) where
  nodup := by
    unfold List.NodupKeys
    rw [keys_map_whole]
    exact (List.perm_nodupKeys order).mpr store.nodupKeys
  stored := by
    intro arrival mem
    obtain ⟨record, here, rfl⟩ := List.mem_map.mp mem
    refine ⟨record.2, ?_, rfl, List.prefix_refl _⟩
    exact AList.mem_lookup_iff.mpr (order.mem_iff.mp here)

theorem readWhole_whole (order : records.Perm store.entries) (key : CString) :
    ReadWhole store (records.map SettingsArrival.whole) key := by
  intro data mem
  refine ⟨.whole data, List.mem_map.mpr ⟨⟨key, data⟩, ?_, rfl⟩, rfl, rfl⟩
  exact order.mem_iff.mpr (AList.mem_lookup_iff.mp mem)

/-! ## One setting -/

/-- What is in memory does not show through a record that is read whole. -/
theorem receive_whole (len : io.len = data.length) (read : io.bytes = data)
    (memory : io.alloc = true) : receive v io = decodeSetting v data := by
  obtain ⟨n, bytes, alloc, fresh⟩ := io
  dsimp only at len read memory
  subst len read memory
  show (handleSetting v _).map _ = (handleSetting v _).map _
  refine congrArg (Except.map Prod.fst) ?_
  cases size : v.kind.scalarSize with
  | some n =>
      rw [handleSetting_scalar size, handleSetting_scalar size]
      rfl
  | none =>
      obtain string | event := ZtacxValueKind.string_or_event size
      · rw [handleSetting_string string, handleSetting_string string]
        by_cases literal : ∃ text, v.value.valString = .literal text
        · obtain ⟨text, pointer⟩ := literal
          unfold handleString stringObject
          rw [pointer]
          rfl
        · have writable : ∀ text, v.value.valString ≠ .literal text :=
            fun text pointer => literal ⟨text, pointer⟩
          rw [handleString_of_read rfl rfl writable, handleString_whole bytes writable]
      · rw [handleSetting_event event, handleSetting_event event]

/-- **What stops a load** is a text for a literal, whatever is read of it. -/
theorem receive_exists_iff (stores : io.bytes.length ≤ io.len) :
    (∃ w, receive v io = .ok w) ↔ (v.kind = .string → v.value.valString.isLiteral = false) := by
  have received : (∃ w, receive v io = .ok w) ↔ ∃ r, handleSetting v io = .ok r := by
    constructor
    · rintro ⟨w, ran⟩
      obtain ⟨r, handled, -⟩ := map_eq_ok_iff.mp ran
      exact ⟨r, handled⟩
    · rintro ⟨r, handled⟩
      exact ⟨r.1, map_eq_ok_iff.mpr ⟨r, handled, rfl⟩⟩
  rw [received]
  cases size : v.kind.scalarSize with
  | some n =>
      have eight := (ZtacxValueKind.scalarSize_le size).2
      refine iff_of_true ?_ fun string => absurd string (ZtacxValueKind.ne_string_and_event size).1
      rw [handleSetting_scalar size]
      by_cases width : io.len ≠ n
      · exact ⟨_, if_pos width⟩
      · obtain ⟨value, stored, -⟩ := v.value.store_of_le (show 0 + io.bytes.length ≤ 8 by omega)
        refine ⟨({ v with value := value }, 0), ?_⟩
        rw [handleScalar, if_neg width, stored]
        rfl
  | none =>
      obtain string | event := ZtacxValueKind.string_or_event size
      · rw [handleSetting_string string]
        by_cases literal : ∃ text, v.value.valString = .literal text
        · obtain ⟨text, pointer⟩ := literal
          refine iff_of_false ?_ fun writable => ?_
          · rintro ⟨r, ran⟩
            obtain ⟨fault, faults⟩ := handleString_literal io pointer
            cases faults.symm.trans ran
          · have absent := writable string
            rw [pointer] at absent
            cases absent
        · have writable : ∀ text, v.value.valString ≠ .literal text :=
            fun text pointer => literal ⟨text, pointer⟩
          refine iff_of_true ?_ fun _ => ?_
          · by_cases room : v.value.valString.HasRoom io
            · exact ⟨_, handleString_room stores room⟩
            · exact ⟨_, handleString_noRoom writable room⟩
          · cases pointer : v.value.valString with
            | literal text => exact absurd pointer (writable text)
            | null => rfl
            | block text => rfl
      · rw [handleSetting_event event]
        exact iff_of_true ⟨_, rfl⟩ fun string => by cases event.symm.trans string

/-- What arrives for a key is read from the record under it. -/
theorem Arrives.of_dlookup (arrives : Arrives store arrivals)
    (found : arrivals.dlookup key = some io) :
    ∃ data, store.lookup key = some data ∧ io.len = data.length ∧ io.bytes <+: data :=
  arrives.stored ⟨key, io⟩ (List.of_mem_dlookup found)

theorem Arrives.mem_store (arrives : Arrives store arrivals) (mem : key ∈ arrivals.keys) :
    key ∈ store := by
  obtain ⟨io, here⟩ := List.exists_of_mem_keys mem
  obtain ⟨data, there, -⟩ := arrives.stored _ here
  exact AList.lookup_isSome.mp (Option.isSome_of_mem there)

/-- **A record that is read whole** has the effect that it has in a load where nothing fails. -/
theorem loadCell_of_readWhole (arrives : Arrives store arrivals)
    (whole : ReadWhole store arrivals key) :
    loadCell receive v (arrivals.dlookup key) = loadSetting v (store.lookup key) := by
  cases record : store.lookup key with
  | none =>
      have absent : key ∉ arrivals.keys := fun mem =>
        AList.lookup_eq_none.mp record (arrives.mem_store mem)
      rw [List.dlookup_eq_none.mpr absent]
      rfl
  | some data =>
      obtain ⟨io, mem, read, memory⟩ := whole data record
      have found := List.mem_dlookup arrives.nodup mem
      obtain ⟨data', record', len, -⟩ := arrives.of_dlookup found
      cases record.symm.trans record'
      rw [found]
      exact receive_whole len read memory

end Arrivals

end Ztacx
