import Mathlib.Data.List.GetD
import Ztacx.Settings

/-!
# Loading one record, whatever happens

`settings_handle_set` gets a name, a length and a callback that reads the record
into memory.  The callback may read less than the record, or nothing; memory may
be short; the setting may point at a string literal.  `LoadsOneSetting` is what
the load of one record is for: it fails and changes nothing, or the setting the
record names gets the value the record encodes, and no other setting changes.

The handler does not look at what the callback returns, so it reports success
for a short read, and what was not read stays what it was.  A string is read
into the setting's own block, which is the wrong size most of the time; when
`realloc` fails the old string is gone, with an error that says nothing changed.
`handleString_room` and `handleString_noRoom` are the two ends of the STRING
arm, and `settingsHandleSet_loadsOneSetting_iff` the exact extent to which the
load is what it is for.
-/

namespace Ztacx

open CModel

/-! ## The STRING arm -/

/-- The object of the setting can be had: the old one has the right size, or
memory is available. -/
def StringPtr.HasRoom (io : SettingsRead) : StringPtr → Prop
  | .null => io.alloc = true
  | .literal _ => False
  | .block t => io.len = t.strlen ∨ io.alloc = true

/-- What is in memory at byte `i` of the object before the record is read. -/
def StringPtr.byteBefore (io : SettingsRead) (i : ℕ) : StringPtr → UInt8
  | .null => 0
  | .literal t => t.stored.getD i (io.fresh i)
  | .block t => t.stored.getD i (io.fresh i)

/-- The `len` bytes of the object after the record is read. -/
def StringPtr.bytesAfter (io : SettingsRead) (p : StringPtr) : List UInt8 :=
  io.bytes ++ ((List.range io.len).map fun i => p.byteBefore io i).drop io.bytes.length

section StringArm

variable {v : ZtacxVariable} {p : StringPtr} {io : SettingsRead}

theorem length_bytesAfter (stores : io.bytes.length ≤ io.len) :
    (p.bytesAfter io).length = io.len := by
  rw [StringPtr.bytesAfter, List.length_append, List.length_drop, List.length_map,
    List.length_range]
  omega

/-- An object of a setting that has one: its front is what `byteBefore` says, and
there is a byte behind it for the terminator. -/
theorem stringObject_room (room : p.HasRoom io) :
    ∃ last, stringObject p io =
      .ok (some (((List.range io.len).map fun i => p.byteBefore io i) ++ [last])) := by
  cases p with
  | null =>
      have zeros : List.replicate (io.len + 1) (0 : UInt8) =
          ((List.range io.len).map fun _ => 0) ++ [0] := by
        rw [List.map_const', List.length_range, List.replicate_succ']
      have memory : io.alloc = true := room
      refine ⟨0, ?_⟩
      rw [stringObject, if_pos memory, zeros]
      rfl
  | literal t => exact room.elim
  | block t =>
      by_cases fits : io.len = t.strlen
      · refine ⟨0, ?_⟩
        rw [stringObject, if_neg (not_not.mpr fits)]
        have text : ((List.range io.len).map fun i => t.stored.getD i (io.fresh i)) = t.bytes := by
          apply List.ext_getElem
          · rw [List.length_map, List.length_range]
            exact fits
          · intro i left right
            rw [List.getElem_map, List.getElem_range, CString.stored,
              List.getD_eq_getElem _ _ (by simp; omega), List.getElem_append_left right]
        show _ = Except.ok (some (((List.range io.len).map fun i =>
          t.stored.getD i (io.fresh i)) ++ [0]))
        rw [text]
        rfl
      · refine ⟨t.stored.getD io.len (io.fresh io.len), ?_⟩
        rw [stringObject, if_pos fits, if_pos (room.resolve_left fits), List.range_succ,
          List.map_append]
        rfl

/-- **There is room.**  The text becomes what was read over what was there. -/
theorem handleString_room (stores : io.bytes.length ≤ io.len)
    (room : v.value.valString.HasRoom io) :
    handleString v io =
      .ok (v.withString (.block (CString.ofBytes (v.value.valString.bytesAfter io))), 0) := by
  obtain ⟨last, object⟩ := stringObject_room room
  have front : ((List.range io.len).map fun i => v.value.valString.byteBefore io i).length =
      io.len := by rw [List.length_map, List.length_range]
  have first : memcpyInto (((List.range io.len).map fun i => v.value.valString.byteBefore io i) ++
      [last]) 0 io.bytes = .ok (v.value.valString.bytesAfter io ++ [last]) := by
    rw [memcpyInto_of_le (by rw [List.length_append, front]; simp; omega), splice_zero,
      List.drop_append_of_le_length (by rw [front]; exact stores), ← List.append_assoc]
    rfl
  have second : memcpyInto (v.value.valString.bytesAfter io ++ [last]) io.len [0] =
      .ok (v.value.valString.bytesAfter io ++ [0]) := by
    have width := length_bytesAfter (p := v.value.valString) stores
    rw [memcpyInto_of_le (by rw [List.length_append, width]; simp)]
    conv_lhs => rw [← width]
    rw [splice_append_left]
    rfl
  unfold handleString
  rw [object]
  show (memcpyInto _ 0 io.bytes).bind _ = _
  rw [first]
  show (memcpyInto _ io.len [0]).bind _ = _
  rw [second]
  show (readCString _).map _ = _
  rw [readCString, if_pos (by simp), CString.ofBytes_append_zero]
  rfl

/-- **There is no room.**  The handler reports it, with the pointer overwritten. -/
theorem handleString_noRoom (writable : ∀ t, v.value.valString ≠ .literal t)
    (noRoom : ¬ v.value.valString.HasRoom io) :
    handleString v io = .ok (v.withString .null, -ENOMEM) := by
  have object : stringObject v.value.valString io = .ok none := by
    cases h : v.value.valString with
    | literal t => exact absurd h (writable t)
    | null =>
        rw [h] at noRoom
        exact congrArg Except.ok (if_neg noRoom)
    | block t =>
        rw [h] at noRoom
        obtain ⟨other, noMemory⟩ := not_or.mp noRoom
        rw [stringObject, if_pos other, if_neg noMemory]
  unfold handleString
  rw [object]
  rfl

/-- A record that is read whole becomes the text, if there is memory. -/
theorem handleString_of_read (whole : io.bytes.length = io.len) (memory : io.alloc = true)
    (writable : ∀ t, v.value.valString ≠ .literal t) :
    handleString v io = .ok (v.withString (.block (CString.ofBytes io.bytes)), 0) := by
  have room : v.value.valString.HasRoom io := by
    cases h : v.value.valString with
    | null => exact memory
    | literal t => exact absurd h (writable t)
    | block t => exact .inr memory
  have read : v.value.valString.bytesAfter io = io.bytes := by
    unfold StringPtr.bytesAfter
    simp [whole]
  rw [handleString_room whole.le room, read]

theorem handleString_whole (data : List UInt8)
    (writable : ∀ t, v.value.valString ≠ .literal t) :
    handleString v (.whole data) = .ok (v.withString (.block (CString.ofBytes data)), 0) :=
  handleString_of_read rfl rfl writable

end StringArm

/-! ## What a load is for -/

/-- What a record denotes, by the kind of the setting that reads it. -/
def recordValue (kind : ZtacxValueKind) (data : List UInt8) : Option TypedValue :=
  match kind with
  | .string => some (.text (some (CString.ofBytes data)))
  | .event => none
  | k => if k.scalarSize = some data.length then some (.scalar data) else none

/-- The setting a record names: it is left alone with an error, or gets the value
of the record. -/
def LoadsSetting (v : ZtacxVariable) (io : SettingsRead) (data : List UInt8) : Prop :=
  ∃ w rc, handleSetting v io = .ok (w, rc) ∧ (rc ≠ 0 → w.typedValue = v.typedValue) ∧
    (rc = 0 → some w.typedValue = recordValue v.kind data)

/-- **Loading one record is atomic, exact and local.** -/
def LoadsOneSetting (names : SettingsNames) (settings : List ZtacxVariable) (name : CString)
    (io : SettingsRead) (data : List UInt8) : Prop :=
  ∃ settings' rc, settingsHandleSet names name io settings = .ok (settings', rc) ∧
    (rc ≠ 0 → settings'.map ZtacxVariable.typedValue = settings.map ZtacxVariable.typedValue) ∧
    (rc = 0 → settings'.map (fun v => some v.typedValue) = settings.map fun v =>
      if v.name = name then recordValue v.kind data else some v.typedValue)

/-- What the settings subsystem documents of `settings_name_steq`: the key is the
whole name, or the name up to a separator, with `next` behind it. -/
def SettingsNames.Documented (names : SettingsNames) : Prop :=
  ∀ name key, (names.steq name key = some none ↔ name = key) ∧
    ∀ rest, names.steq name key = some (some rest) ↔
      name.bytes = key.bytes ++ nameSeparator :: rest.bytes

/-! ## When the code does it -/

/-- A byte that was not read is in memory already, for every byte of the record
up to the end of its text. -/
def StringPtr.UnreadInPlace (io : SettingsRead) (data : List UInt8) (p : StringPtr) : Prop :=
  ∀ i, io.bytes.length ≤ i → i < data.length → i ≤ (CString.ofBytes data).strlen →
    data[i]? = some (p.byteBefore io i)

/-- When a STRING setting is loaded as it should be, by what it points at. -/
def StringPtr.LoadsRight (io : SettingsRead) (data : List UInt8) : StringPtr → Prop
  | .null => io.alloc = true → StringPtr.null.UnreadInPlace io data
  | .literal _ => False
  | .block t => (data.length = t.strlen ∨ io.alloc = true) ∧
      (StringPtr.block t).UnreadInPlace io data

/-- When a setting is loaded as it should be.  A record of the wrong length is
refused; of the others, what was not read has to be in memory already. -/
structure LoadsRight (v : ZtacxVariable) (io : SettingsRead) (data : List UInt8) : Prop where
  scalar : ∀ n, v.kind.scalarSize = some n → data.length = n →
    ∀ i, io.bytes.length ≤ i → i < n → v.value.bytes[i]? = data[i]?
  string : v.kind = .string → v.value.valString.LoadsRight io data

section Setting

variable {v : ZtacxVariable} {io : SettingsRead} {data : List UInt8}

theorem recordValue_scalar {n : ℕ} (size : v.kind.scalarSize = some n) :
    recordValue v.kind data = if n = data.length then some (.scalar data) else none := by
  cases hk : v.kind <;> simp_all [recordValue, ZtacxValueKind.scalarSize]

/-- The rest of a list is that of another from position `k` on. -/
theorem append_eq_iff_unread {read data rest : List UInt8} (isPrefix : read <+: data)
    (len : rest.length = data.length) :
    read ++ rest.drop read.length = data ↔
      ∀ i, read.length ≤ i → i < data.length → rest[i]? = data[i]? := by
  obtain ⟨tail, rfl⟩ := isPrefix
  rw [List.append_cancel_left_eq]
  constructor
  · rintro rfl i beyond -
    rw [List.getElem?_append_right beyond, List.getElem?_drop]
    congr 1
    omega
  · intro same
    apply List.ext_getElem?
    intro i
    rw [List.getElem?_drop]
    by_cases inside : read.length + i < (read ++ tail).length
    · rw [same _ (by omega) inside, List.getElem?_append_right (by omega)]
      congr 1
      omega
    · rw [List.getElem?_eq_none (by omega), List.getElem?_eq_none (by simp at inside; omega)]

/-- A scalar is loaded as it should be if its unread bytes are in place. -/
theorem loadsSetting_scalar_iff {n : ℕ} (size : v.kind.scalarSize = some n)
    (len : io.len = data.length) (read : io.bytes <+: data) :
    LoadsSetting v io data ↔ (data.length = n →
      ∀ i, io.bytes.length ≤ i → i < n → v.value.bytes[i]? = data[i]?) := by
  have short := read.length_le
  have hn := (ZtacxValueKind.scalarSize_le size).2
  unfold LoadsSetting
  rw [handleSetting_scalar size, recordValue_scalar size, handleScalar]
  by_cases right : data.length = n
  · obtain ⟨value, stored, bytes, -⟩ :=
      v.value.store_of_le (show 0 + io.bytes.length ≤ 8 by omega)
    have member : (value.bytes.take n) =
        io.bytes ++ (v.value.bytes.take n).drop io.bytes.length := by
      rw [bytes, splice_zero, List.take_append, List.take_of_length_le (by omega),
        List.drop_take]
    have width : (v.value.bytes.take n).length = data.length := by
      rw [length_take_bytes size]
      omega
    have typed : ({ v with value := value } : ZtacxVariable).typedValue =
        .scalar (value.bytes.take n) :=
      ZtacxVariable.typedValue_of_scalar (v := { v with value := value }) size
    have unread : (∀ i, io.bytes.length ≤ i → i < n → v.value.bytes[i]? = data[i]?) ↔
        value.bytes.take n = data := by
      rw [member, append_eq_iff_unread read width, right]
      refine forall_congr' fun i => forall_congr' fun _ => forall_congr' fun inside => ?_
      rw [List.getElem?_take_of_lt inside]
    rw [if_neg (by omega), stored, if_pos right.symm]
    constructor
    · rintro ⟨w, rc, ran, -, exactly⟩ -
      cases ran
      have same := exactly rfl
      rw [typed] at same
      cases same
      exact unread.mpr rfl
    · intro inPlace
      refine ⟨_, _, rfl, fun failed => absurd rfl failed, fun _ => ?_⟩
      rw [typed, unread.mp (inPlace right)]
  · refine iff_of_true ?_ fun wrong => absurd wrong right
    rw [if_pos (by omega)]
    exact ⟨v, -EINVAL, rfl, fun _ => rfl, fun zero => absurd zero (by decide)⟩

/-- The text that is read is that of the record if the unread bytes are in place. -/
theorem ofBytes_bytesAfter_iff {p : StringPtr} (len : io.len = data.length)
    (read : io.bytes <+: data) :
    CString.ofBytes (p.bytesAfter io) = CString.ofBytes data ↔ p.UnreadInPlace io data := by
  have short := read.length_le
  have width : (p.bytesAfter io).length = data.length := by
    rw [length_bytesAfter (by omega), len]
  have unread : ∀ i, io.bytes.length ≤ i → i < data.length →
      (p.bytesAfter io)[i]? = some (p.byteBefore io i) := by
    intro i beyond inside
    rw [StringPtr.bytesAfter, List.getElem?_append_right beyond, List.getElem?_drop,
      List.getElem?_map, List.getElem?_range (by omega)]
    simp only [Option.map_some]
    congr 2
    omega
  rw [CString.ofBytes_eq_iff width]
  constructor
  · intro same i beyond inside upTo
    rw [← same i upTo, unread i beyond inside]
  · intro inPlace i upTo
    by_cases inside : i < data.length
    · by_cases beyond : io.bytes.length ≤ i
      · rw [unread i beyond inside, inPlace i beyond inside upTo]
      · obtain ⟨tail, rfl⟩ := read
        rw [StringPtr.bytesAfter, List.getElem?_append_left (by omega),
          List.getElem?_append_left (by omega)]
    · rw [List.getElem?_eq_none (by omega), List.getElem?_eq_none (by omega)]

/-- A string that there is room for. -/
theorem loadsSetting_string_room (kind : v.kind = .string) (len : io.len = data.length)
    (read : io.bytes <+: data) (room : v.value.valString.HasRoom io) :
    LoadsSetting v io data ↔ v.value.valString.UnreadInPlace io data := by
  have short := read.length_le
  unfold LoadsSetting
  rw [handleSetting_string kind, handleString_room (by omega) room, kind,
    ← ofBytes_bytesAfter_iff len read]
  constructor
  · rintro ⟨w, rc, ran, -, exactly⟩
    cases ran
    have same := exactly rfl
    rw [ZtacxVariable.typedValue_withString kind] at same
    exact Option.some.inj (TypedValue.text.inj (Option.some.inj same))
  · intro same
    refine ⟨_, _, rfl, fun failed => absurd rfl failed, fun _ => ?_⟩
    rw [ZtacxVariable.typedValue_withString kind]
    exact congrArg (fun t => some (TypedValue.text (some t))) same

/-- A string that there is no room for must have been null. -/
theorem loadsSetting_string_noRoom (kind : v.kind = .string)
    (writable : ∀ t, v.value.valString ≠ .literal t) (noRoom : ¬ v.value.valString.HasRoom io) :
    LoadsSetting v io data ↔ v.value.valString = .null := by
  unfold LoadsSetting
  rw [handleSetting_string kind, handleString_noRoom writable noRoom]
  constructor
  · rintro ⟨w, rc, ran, atomic, -⟩
    cases ran
    have same := atomic (by decide)
    rw [ZtacxVariable.typedValue_withString kind, ZtacxVariable.typedValue_of_string kind] at same
    cases h : v.value.valString with
    | null => rfl
    | literal t => exact absurd h (writable t)
    | block t =>
        rw [h] at same
        cases same
  · intro null
    refine ⟨_, _, rfl, fun _ => ?_, fun zero => absurd zero (by decide)⟩
    rw [ZtacxVariable.typedValue_withString kind, ZtacxVariable.typedValue_of_string kind, null]

theorem loadsSetting_string_iff (kind : v.kind = .string) (len : io.len = data.length)
    (read : io.bytes <+: data) :
    LoadsSetting v io data ↔ v.value.valString.LoadsRight io data := by
  cases h : v.value.valString with
  | literal t =>
      refine iff_of_false ?_ id
      rintro ⟨w, rc, ran, -⟩
      obtain ⟨fault, faults⟩ := handleString_literal io h
      rw [handleSetting_string kind, faults] at ran
      cases ran
  | null =>
      have writable := StringPtr.ne_literal_of_null h
      by_cases room : v.value.valString.HasRoom io
      · rw [loadsSetting_string_room kind len read room, h]
        rw [h] at room
        exact ⟨fun inPlace _ => inPlace, fun right => right room⟩
      · rw [loadsSetting_string_noRoom kind writable room]
        rw [h] at room
        exact iff_of_true h fun memory => absurd memory room
  | block t =>
      have writable := StringPtr.ne_literal_of_block h
      by_cases room : v.value.valString.HasRoom io
      · rw [loadsSetting_string_room kind len read room, h]
        rw [h] at room
        exact (and_iff_right (len ▸ room)).symm
      · rw [loadsSetting_string_noRoom kind writable room, h]
        rw [h] at room
        refine iff_of_false StringPtr.noConfusion fun right => room ?_
        exact right.1.imp_left len.trans

/-- **One setting.** -/
theorem loadsSetting_iff (len : io.len = data.length) (read : io.bytes <+: data) :
    LoadsSetting v io data ↔ LoadsRight v io data := by
  cases size : v.kind.scalarSize with
  | some n =>
      rw [loadsSetting_scalar_iff size len read]
      refine ⟨fun inPlace => ⟨fun m same => ?_, fun kind => ?_⟩, fun right => right.scalar n size⟩
      · cases size.symm.trans same
        exact inPlace
      · exact absurd kind (ZtacxValueKind.ne_string_and_event size).1
  | none =>
      by_cases kind : v.kind = .string
      · rw [loadsSetting_string_iff kind len read]
        refine ⟨fun right => ⟨fun m same => ?_, fun _ => right⟩, fun right => right.string kind⟩
        cases size.symm.trans same
      · have event := (ZtacxValueKind.string_or_event size).resolve_left kind
        have refused := handleSetting_event event io
        refine iff_of_true ⟨v, -EINVAL, refused, fun _ => rfl, fun zero => ?_⟩ ⟨?_, ?_⟩
        · exact absurd zero (by decide)
        · intro n same
          cases size.symm.trans same
        · exact fun string => absurd string kind

end Setting

/-! ## The search for the setting -/

section Search

variable {names : SettingsNames} {name : CString} {io : SettingsRead} {data : List UInt8}
  {settings : List ZtacxVariable}

/-- A record that names no setting changes nothing. -/
theorem settingsHandleSet_of_forall_ne (documented : names.Documented)
    (other : ∀ v ∈ settings, v.name ≠ name) :
    settingsHandleSet names name io settings =
      .ok (settings, if names.next name = none then -ENOENT else 0) := by
  induction settings with
  | nil => rfl
  | cons v settings ih =>
      have differs : ¬ names.steq name v.name = some none := fun hit =>
        other v List.mem_cons_self ((documented name v.name).1.mp hit).symm
      rw [settingsHandleSet, if_neg differs,
        ih fun w mem => other w (List.mem_cons_of_mem v mem)]
      rfl

/-- The search ends at the setting of that name. -/
theorem loadsOneSetting_cons_of_eq {v : ZtacxVariable} (documented : names.Documented)
    (hit : v.name = name) (others : ∀ w ∈ settings, w.name ≠ name) :
    LoadsOneSetting names (v :: settings) name io data ↔ LoadsSetting v io data := by
  have handled : settingsHandleSet names name io (v :: settings) =
      (handleSetting v io).map fun r => (r.1 :: settings, r.2) := by
    rw [settingsHandleSet, if_pos ((documented name v.name).1.mpr hit.symm)]
  -- by their names the settings behind are not meant
  have behind : settings.map (fun w => some w.typedValue) = settings.map fun w =>
      if w.name = name then recordValue w.kind data else some w.typedValue :=
    List.map_congr_left fun w mem => (if_neg (others w mem)).symm
  constructor
  · rintro ⟨settings', rc, ran, atomic, exactly⟩
    rw [handled] at ran
    obtain ⟨⟨u, urc⟩, set, kept⟩ := map_eq_ok_iff.mp ran
    cases kept
    refine ⟨u, urc, set, fun failed => (List.cons.inj (atomic failed)).1, fun zero => ?_⟩
    have value : some u.typedValue =
        if v.name = name then recordValue v.kind data else some v.typedValue :=
      (List.cons.inj (exactly zero)).1
    rwa [if_pos hit] at value
  · rintro ⟨u, urc, set, atomic, exactly⟩
    refine ⟨u :: settings, urc, by rw [handled, set]; rfl, fun failed => ?_, fun zero => ?_⟩
    · rw [List.map_cons, List.map_cons, atomic failed]
    · rw [List.map_cons, List.map_cons, if_pos hit, exactly zero, behind]

/-- The search passes a setting of another name. -/
theorem loadsOneSetting_cons_of_ne {v : ZtacxVariable} (documented : names.Documented)
    (miss : v.name ≠ name) :
    LoadsOneSetting names (v :: settings) name io data ↔
      LoadsOneSetting names settings name io data := by
  have passed : settingsHandleSet names name io (v :: settings) =
      (settingsHandleSet names name io settings).map fun r => (v :: r.1, r.2) := by
    rw [settingsHandleSet, if_neg fun hit => miss ((documented name v.name).1.mp hit).symm]
  constructor
  · rintro ⟨settings', rc, ran, atomic, exactly⟩
    rw [passed] at ran
    obtain ⟨⟨others, orc⟩, set, kept⟩ := map_eq_ok_iff.mp ran
    cases kept
    exact ⟨others, orc, set, fun failed => (List.cons.inj (atomic failed)).2,
      fun zero => (List.cons.inj (exactly zero)).2⟩
  · rintro ⟨others, orc, set, atomic, exactly⟩
    refine ⟨v :: others, orc, by rw [passed, set]; rfl, fun failed => ?_, fun zero => ?_⟩
    · rw [List.map_cons, List.map_cons, atomic failed]
    · rw [List.map_cons, List.map_cons, if_neg miss, exactly zero]

/-- **A load is as good as the load of the one setting the record names.** -/
theorem loadsOneSetting_iff_loadsSetting (documented : names.Documented)
    (distinct : (settings.map ZtacxVariable.name).Nodup) :
    LoadsOneSetting names settings name io data ↔
      ∀ v ∈ settings, v.name = name → LoadsSetting v io data := by
  induction settings with
  | nil =>
      refine iff_of_true ?_ fun v mem => by cases mem
      exact ⟨[], _, rfl, fun _ => rfl, fun _ => rfl⟩
  | cons v settings ih =>
      obtain ⟨fresh, distinct⟩ := List.nodup_cons.mp distinct
      rw [List.forall_mem_cons]
      by_cases hit : v.name = name
      · have others : ∀ w ∈ settings, w.name ≠ name := fun w mem same =>
          fresh (List.mem_map.mpr ⟨w, mem, same.trans hit.symm⟩)
        rw [loadsOneSetting_cons_of_eq documented hit others]
        exact ⟨fun right => ⟨fun _ => right, fun w mem same => absurd same (others w mem)⟩,
          fun right => right.1 hit⟩
      · rw [loadsOneSetting_cons_of_ne documented hit, ih distinct]
        exact ⟨fun right => ⟨fun same => absurd same hit, right⟩, fun right => right.2⟩

/-- **When the load of one record is what it is for**, for every list of settings
with distinct names, every name, every record, every front of it that the
storage reads and every outcome of the allocation. -/
theorem settingsHandleSet_loadsOneSetting_iff (documented : names.Documented)
    (distinct : (settings.map ZtacxVariable.name).Nodup) (len : io.len = data.length)
    (read : io.bytes <+: data) :
    LoadsOneSetting names settings name io data ↔
      ∀ v ∈ settings, v.name = name → LoadsRight v io data := by
  rw [loadsOneSetting_iff_loadsSetting documented distinct]
  refine forall_congr' fun v => forall_congr' fun _ => forall_congr' fun _ => ?_
  exact loadsSetting_iff len read

end Search

/-! ### A level, read whole and not read at all -/

/-- Zephyr's matching without the special treatment of `=`. -/
def SettingsNames.plain : SettingsNames where
  steq name key :=
    if name = key then some none
    else if key.bytes ++ [nameSeparator] <+: name.bytes then
      some (some (name.drop (key.strlen + 1)))
    else none
  next := SettingsNames.zephyr.next

theorem SettingsNames.plain_documented : SettingsNames.plain.Documented := by
  intro name key
  unfold plain
  dsimp only
  by_cases whole : name = key
  · refine ⟨by simp [whole], fun rest => ?_⟩
    rw [if_pos whole, whole]
    refine iff_of_false (by simp) fun longer => ?_
    have len := congrArg List.length longer
    simp at len
  · rw [if_neg whole]
    refine ⟨by split <;> simp [whole], fun rest => ?_⟩
    constructor
    · intro hit
      obtain ⟨⟨tail, split⟩, hit⟩ := Option.ite_none_right_eq_some.mp hit
      rw [← Option.some.inj (Option.some.inj hit), CString.drop_bytes, ← split]
      simp [CString.strlen]
    · intro split
      rw [if_pos ⟨rest.bytes, by rw [split]; simp⟩]
      refine congrArg (fun t => some (some t)) (CString.ext ?_)
      rw [CString.drop_bytes, split]
      simp [CString.strlen]

/-- A UINT16 setting `level`. -/
def levelSetting : ZtacxVariable where
  name := .ofString "level"
  name_lt := by decide
  kind := .uint16
  value := .zero
  onChange := none

/-- Another one, whose name begins with the name of the first. -/
def levelsSetting : ZtacxVariable where
  name := .ofString "levels"
  name_lt := by decide
  kind := .string
  value := .zero
  onChange := none

/-- The record of `level`, with `levels` in front of it in the table. -/
theorem level_loadsOneSetting : LoadsOneSetting .plain [levelsSetting, levelSetting]
    levelSetting.name (.whole [1, 2]) [1, 2] := by
  refine (settingsHandleSet_loadsOneSetting_iff SettingsNames.plain_documented (by decide) rfl
    (List.prefix_refl _)).mpr fun v mem same => ?_
  obtain rfl | rest := List.mem_cons.mp mem
  · exact absurd same (by decide)
  · obtain rfl := List.mem_singleton.mp rest
    refine ⟨fun n size _ i beyond inside => ?_, fun kind => by cases kind⟩
    cases size
    exact absurd inside (Nat.not_lt.mpr beyond)

/-- A read that fails is taken for one that went through. -/
theorem unread_level_not_loadsOneSetting :
    ¬ LoadsOneSetting .plain [levelSetting] levelSetting.name ⟨2, [], true, fun _ => 0⟩ [1, 2] := by
  rintro ⟨settings', rc, ran, -, exactly⟩
  have kept : settingsHandleSet .plain levelSetting.name ⟨2, [], true, fun _ => 0⟩ [levelSetting] =
      .ok ([levelSetting], 0) := by decide
  rw [kept] at ran
  cases ran
  exact absurd (exactly rfl) (by decide)

end Ztacx
