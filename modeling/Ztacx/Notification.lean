import Ztacx.SettingsLoad
import Ztacx.Bluetooth.GattEffect

/-!
# Change notification

A variable may have an `on_change` work item.  Whoever changes the variable is to
submit it, so that the application never acts on a stale value; and an operation
that does not get to change anything is to leave it alone.  `Mutator` lists the
public operations through which a variable can change, and `Notifies` is that rule
for one of them.

Everything that goes through `ztacx_variable_value_set` obeys it, because the
setter either stores what it was asked to and submits the work, or does neither
(`SetResult.Notified`).  The rule fails where an arm writes the union itself:

* the handler of the settings subsystem never submits anything, so it may only
  load what is there already (`LoadKeeps`);
* a GATT write to a string changes the text in place, and when there is no memory
  for the setter's copy nobody hears of it;
* a GATT write to an INT64 writes the variable, sets it back and submits the work
  of a change that did not last.
-/

namespace Ztacx

open CModel

/-! ## The operations -/

/-- The typed wrappers of `ztacx_variable_value_set`. -/
inductive TypedSetter
  | bool (value : Bool)
  | byte (value : BitVec 8)
  | uint16 (value : BitVec 16)
  | int16 (value : BitVec 16)
  | int32 (value : BitVec 32)
  | int64 (value : BitVec 64)

def TypedSetter.set (alloc : Bool) (v : ZtacxVariable) : TypedSetter → Except Fault SetResult
  | .bool value => ztacxVariableValueSetBool alloc v value
  | .byte value => ztacxVariableValueSetByte alloc v value
  | .uint16 value => ztacxVariableValueSetUint16 alloc v value
  | .int16 value => ztacxVariableValueSetInt16 alloc v value
  | .int32 value => ztacxVariableValueSetInt32 alloc v value
  | .int64 value => ztacxVariableValueSetInt64 alloc v value

/-- The object that a typed wrapper hands on. -/
def TypedSetter.object : TypedSetter → List UInt8
  | .bool value => boolBytes value
  | .byte value => leBytes 1 value.toNat
  | .uint16 value => leBytes 2 value.toNat
  | .int16 value => leBytes 2 value.toNat
  | .int32 value => leBytes 4 value.toNat
  | .int64 value => leBytes 8 value.toNat

theorem TypedSetter.set_eq (alloc : Bool) (v : ZtacxVariable) (setter : TypedSetter) :
    setter.set alloc v = ztacxVariableValueSet alloc v (some setter.object) := by
  cases setter <;> rfl

/-- The public operations that can modify a variable, with what they get from
outside.  A load hands a record to the handler, which searches a list in which
the variable has other settings before and after it. -/
inductive Mutator
  | valueSet (alloc : Bool) (value : Option (List UInt8))
  | typed (alloc : Bool) (setter : TypedSetter)
  | incInt64 (alloc : Bool)
  | setString (alloc : Bool) (value : Option CString)
  | settingSet (alloc : Bool) (saveRc : ℤ) (value : Option CString)
  | gattWrite (alloc reallocs : Bool) (payload : List UInt8) (offset : ℕ)
  | load (before after : List ZtacxVariable) (name : CString) (io : SettingsRead)

/-- The variable a setter leaves, and what it submitted. -/
def SetResult.outcome (r : SetResult) : ZtacxVariable × List KWorkPtr :=
  (r.setting, r.submitted.toList)

/-- One operation: the variable it leaves and the work it submitted. -/
def Mutator.apply (atoi : CString → BitVec 32) (names : SettingsNames) (v : ZtacxVariable) :
    Mutator → Except Fault (ZtacxVariable × List KWorkPtr)
  | .valueSet alloc value => (ztacxVariableValueSet alloc v value).map SetResult.outcome
  | .typed alloc setter => (setter.set alloc v).map SetResult.outcome
  | .incInt64 alloc => (ztacxVariableValueIncInt64 alloc v).map SetResult.outcome
  | .setString alloc value =>
    (ztacxVariableValueSetString atoi alloc v value).map SetResult.outcome
  | .settingSet alloc saveRc value =>
    (ztacxSettingSet atoi alloc saveRc v value).map fun r => (r.setting, r.submitted.toList)
  | .gattWrite alloc reallocs payload offset =>
    (btWriteVariable atoi alloc reallocs v payload offset).map fun r => (r.1.v, r.1.submitted)
  | .load before after name io =>
    -- the handler submits nothing
    (settingsHandleSet names name io (before ++ v :: after)).map fun r =>
      (r.1.getD before.length v, [])

/-! ## The rule -/

/-- The value an object stands for, by kind. -/
def objectValue (kind : ZtacxValueKind) (object : List UInt8) : Option TypedValue :=
  match kind with
  | .string => some (.text (some (CString.ofBytes object)))
  | .event => none
  | k => k.scalarSize.map fun n => .scalar (object.take n)

/-- The value that a GATT write asks for, if it is one that can be had. -/
def gattAsked (v : ZtacxVariable) (payload : List UInt8) (offset : ℕ) : Option TypedValue :=
  match v.kind with
  | .string =>
    v.value.valString.text.bind fun t =>
      if offset + payload.length ≤ STRING_CHAR_MAX then
        some (.text (some ((t.take offset).append (CString.ofBytes payload))))
      else none
  | k =>
    k.scalarSize.bind fun n =>
      if offset + payload.length ≤ n then some (.scalar (writtenMember v n payload offset))
      else none

/-- The value that an operation asks for. -/
def Mutator.asked (atoi : CString → BitVec 32) (v : ZtacxVariable) : Mutator → Option TypedValue
  | .valueSet _ value => value.bind (objectValue v.kind)
  | .typed _ setter => objectValue v.kind setter.object
  | .incInt64 _ =>
    (ztacxVariableValueGetInt64 v).toOption.bind fun old =>
      objectValue v.kind (leBytes 8 (old + 1).toNat)
  | .setString _ value => value.bind (parsedValue atoi v.kind)
  | .settingSet _ _ value => value.bind (parsedValue atoi v.kind)
  | .gattWrite _ _ payload offset => gattAsked v payload offset
  | .load _ _ _ io => recordValue v.kind io.bytes

/-- **Change notification**, for a variable with the work item `work`: a change
is submitted, and an operation after which the variable is not what was asked
for, but what it was, submits nothing. -/
def Notifies (atoi : CString → BitVec 32) (names : SettingsNames) (work : KWorkPtr)
    (v : ZtacxVariable) (op : Mutator) : Prop :=
  ∀ w submitted, op.apply atoi names v = .ok (w, submitted) →
    (w.typedValue ≠ v.typedValue → work ∈ submitted) ∧
      (w.typedValue = v.typedValue → op.asked atoi v ≠ some v.typedValue → submitted = [])

/-! ## When the code follows it -/

/-- What is read over the string of a setting is what is there. -/
def StringPtr.LoadKeeps (io : SettingsRead) : StringPtr → Prop
  | .null => io.alloc = false
  | .literal _ => True
  | .block t => t.strlen ≤ io.len ∧ (io.len = t.strlen ∨ io.alloc = true) ∧
      ∀ i, i < io.bytes.length → i ≤ t.strlen → io.bytes[i]? = t.stored[i]?

/-- What a record brings is what the setting holds. -/
structure LoadKeeps (v : ZtacxVariable) (io : SettingsRead) : Prop where
  scalar : ∀ n, v.kind.scalarSize = some n → io.len = n →
    ∀ i, i < io.bytes.length → io.bytes[i]? = v.value.bytes[i]?
  string : v.kind = .string → v.value.valString.LoadKeeps io

/-- The search of the handler ends at this setting. -/
def Reached (names : SettingsNames) (name : CString) (before : List ZtacxVariable)
    (v : ZtacxVariable) : Prop :=
  (∀ u ∈ before, names.steq name u.name ≠ some none) ∧ names.steq name v.name = some none

/-- A GATT write that the rule holds for. -/
structure WriteNotifies (v : ZtacxVariable) (alloc : Bool) (payload : List UInt8)
    (offset : ℕ) : Prop where
  int64 : v.kind = .int64 → offset + payload.length ≤ 8 →
    splice v.value.bytes offset payload = v.value.bytes
  string : v.kind = .string → alloc = false → offset + payload.length ≤ STRING_CHAR_MAX →
    ∀ t, v.value.valString = .block t → STRING_CHAR_MAX ≤ t.strlen →
      (t.take offset).append (CString.ofBytes payload) = t

def Mutator.NotifiesRight (names : SettingsNames) (v : ZtacxVariable) : Mutator → Prop
  | .gattWrite alloc _ payload offset => WriteNotifies v alloc payload offset
  | .load before _ name io => Reached names name before v → LoadKeeps v io
  | _ => True

/-- What the storage documents of its read callback: it stores no more than it is
given room for. -/
def Mutator.ReadsWithin : Mutator → Prop
  | .load _ _ _ io => io.bytes.length ≤ io.len
  | _ => True

/-! ## The setters -/

section Setters

variable {atoi : CString → BitVec 32} {names : SettingsNames} {work : KWorkPtr}
  {v : ZtacxVariable} {alloc : Bool} {r : SetResult} {op : Mutator}

/-- A setter leaves the variable alone and submits nothing, or stores what was
asked for and submits the work. -/
def SetResult.Notified (v : ZtacxVariable) (asked : Option TypedValue) (r : SetResult) : Prop :=
  (r.setting = v ∧ r.submitted = none) ∨
    (r.submitted = v.onChange ∧ asked = some r.setting.typedValue)

theorem notifies_of_notified (change : v.onChange = some work)
    (notified : ∀ w submitted, op.apply atoi names v = .ok (w, submitted) →
      ∃ r : SetResult, r.Notified v (op.asked atoi v) ∧ (w, submitted) = r.outcome) :
    Notifies atoi names work v op := by
  intro w submitted ran
  obtain ⟨r, outcome, same⟩ := notified w submitted ran
  obtain ⟨rfl, rfl⟩ := Prod.mk.inj same
  rcases outcome with ⟨kept, none⟩ | ⟨reported, stored⟩
  · exact ⟨fun changed => absurd (congrArg _ kept) changed, fun _ _ => by rw [none]; rfl⟩
  · refine ⟨fun _ => ?_, fun same other => ?_⟩
    · rw [reported, change]
      exact List.mem_singleton_self work
    · rw [same] at stored
      exact absurd stored other

/-- An operation that is a call of a setter. -/
theorem notifies_of_setter (change : v.onChange = some work) {setter : Except Fault SetResult}
    (applies : op.apply atoi names v = setter.map SetResult.outcome)
    (notified : ∀ r, setter = .ok r → r.Notified v (op.asked atoi v)) :
    Notifies atoi names work v op := by
  refine notifies_of_notified change fun w submitted applied => ?_
  rw [applies] at applied
  obtain ⟨r, ran, same⟩ := map_eq_ok_iff.mp applied
  exact ⟨r, notified r ran, same.symm⟩

/-- `ztacx_variable_value_set`. -/
theorem ztacxVariableValueSet_notified {object : List UInt8}
    (ran : ztacxVariableValueSet alloc v (some object) = .ok r) :
    r.Notified v (objectValue v.kind object) := by
  cases size : v.kind.scalarSize with
  | some n =>
      obtain ⟨value, rfl, member⟩ := ztacxVariableValueSet_scalar_eq_ok size ran
      refine .inr ⟨rfl, ?_⟩
      rw [ZtacxVariable.typedValue_of_scalar (v := (SetResult.stored v value).setting) size]
      show _ = some (TypedValue.scalar (value.bytes.take n))
      rw [member]
      cases hk : v.kind <;> simp_all [objectValue, ZtacxValueKind.scalarSize]
  | none =>
      rcases ZtacxValueKind.string_or_event size with kind | kind
      · simp only [ztacxVariableValueSet, kind] at ran
        obtain ⟨text, read, ran⟩ := bind_eq_ok_iff.mp ran
        cases alloc with
        | false =>
            cases ran
            exact .inl ⟨rfl, rfl⟩
        | true =>
            obtain ⟨_, -, rfl⟩ := map_eq_ok_iff.mp ran
            refine .inr ⟨rfl, ?_⟩
            have text_eq : CString.ofBytes object = text := by
              unfold readCString at read
              split at read
              · exact Except.ok.inj read
              · cases read
            rw [kind, ← text_eq]
            exact congrArg some (ZtacxVariable.typedValue_withString kind (.block _)).symm
      · simp only [ztacxVariableValueSet, kind, Except.ok.injEq] at ran
        rw [← ran]
        exact .inl ⟨rfl, rfl⟩

/-- `ztacx_variable_value_set_string`. -/
theorem ztacxVariableValueSetString_notified {value : Option CString}
    (ran : ztacxVariableValueSetString atoi alloc v value = .ok r) :
    r.Notified v (value.bind (parsedValue atoi v.kind)) := by
  cases size : v.kind.scalarSize with
  | some n =>
      cases value with
      | none =>
          cases hk : v.kind <;> simp_all [ztacxVariableValueSetString, ZtacxValueKind.scalarSize]
      | some text =>
          obtain ⟨member, value, parsed, bytes, stored⟩ :=
            ztacxVariableValueSetString_scalar atoi size alloc text
          cases stored.symm.trans ran
          refine .inr ⟨rfl, parsed.trans ?_⟩
          rw [ZtacxVariable.typedValue_of_scalar (v := (SetResult.stored v value).setting) size,
            ← bytes]
          rfl
  | none =>
      rcases ZtacxValueKind.string_or_event size with kind | kind
      · cases value with
        | none =>
            simp only [ztacxVariableValueSetString, kind, Option.map_none] at ran
            obtain ⟨set, same, rfl⟩ := map_eq_ok_iff.mp ran
            cases same
            exact .inl ⟨rfl, rfl⟩
        | some text =>
            rw [ztacxVariableValueSetString_text kind] at ran
            cases alloc with
            | false =>
                cases ran
                exact .inl ⟨rfl, rfl⟩
            | true =>
                obtain ⟨_, -, rfl⟩ := map_eq_ok_iff.mp ran
                rw [kind]
                exact .inr ⟨rfl, congrArg some
                  (ZtacxVariable.typedValue_withString kind (.block text)).symm⟩
      · simp only [ztacxVariableValueSetString, kind, Except.ok.injEq] at ran
        rw [← ran]
        exact .inl ⟨rfl, rfl⟩

end Setters

/-! ## Loading -/

section Load

variable {names : SettingsNames} {name : CString} {io : SettingsRead} {v : ZtacxVariable}
  {before after list : List ZtacxVariable} {rc : ℤ}

theorem settingsHandleSet_reached (reached : Reached names name before v) :
    settingsHandleSet names name io (before ++ v :: after) =
      (handleSetting v io).map fun r => (before ++ r.1 :: after, r.2) := by
  obtain ⟨others, hit⟩ := reached
  induction before with
  | nil =>
      rw [List.nil_append, settingsHandleSet, if_pos hit]
      rfl
  | cons u before ih =>
      rw [List.cons_append, settingsHandleSet, if_neg (others u List.mem_cons_self),
        ih fun w mem => others w (List.mem_cons_of_mem u mem)]
      cases handleSetting v io <;> rfl

/-- A setting that the search does not end at stays where it is. -/
theorem settingsHandleSet_unreached (unreached : ¬ Reached names name before v)
    (ran : settingsHandleSet names name io (before ++ v :: after) = .ok (list, rc)) :
    list[before.length]? = some v := by
  induction before generalizing list with
  | nil =>
      have miss : ¬ names.steq name v.name = some none := fun hit =>
        unreached ⟨fun u mem => (List.not_mem_nil mem).elim, hit⟩
      rw [List.nil_append, settingsHandleSet, if_neg miss] at ran
      obtain ⟨r, -, same⟩ := map_eq_ok_iff.mp ran
      cases same
      rfl
  | cons u before ih =>
      by_cases hit : names.steq name u.name = some none
      · rw [List.cons_append, settingsHandleSet, if_pos hit] at ran
        obtain ⟨r, -, same⟩ := map_eq_ok_iff.mp ran
        cases same
        simp
      · rw [List.cons_append, settingsHandleSet, if_neg hit] at ran
        obtain ⟨⟨rest, restRc⟩, went, same⟩ := map_eq_ok_iff.mp ran
        cases same
        have kept := ih (fun reached => unreached ⟨fun w mem => by
          rcases List.mem_cons.mp mem with rfl | mem
          · exact hit
          · exact reached.1 w mem, reached.2⟩) went
        simpa using kept

/-- A record that is read into a scalar brings what is there, or changes it. -/
theorem handleSetting_scalar_keeps_iff {n : ℕ} (size : v.kind.scalarSize = some n)
    (stores : io.bytes.length ≤ io.len) :
    (∀ w rc, handleSetting v io = .ok (w, rc) → w.typedValue = v.typedValue) ↔
      (io.len = n → ∀ i, i < io.bytes.length → io.bytes[i]? = v.value.bytes[i]?) := by
  have hn := (ZtacxValueKind.scalarSize_le size).2
  rw [handleSetting_scalar size, handleScalar]
  by_cases right : io.len = n
  · obtain ⟨value, stored, bytes, -⟩ :=
      v.value.store_of_le (show 0 + io.bytes.length ≤ 8 by omega)
    have typed : ({ v with value := value } : ZtacxVariable).typedValue =
        .scalar (value.bytes.take n) :=
      ZtacxVariable.typedValue_of_scalar (v := { v with value := value }) size
    -- byte by byte: what was read, and behind it what was there
    have at' : ∀ i, value.bytes[i]? =
        if i < io.bytes.length then io.bytes[i]? else v.value.bytes[i]? := by
      intro i
      rw [bytes, splice_zero]
      split
      · rename_i inside
        exact List.getElem?_append_left inside
      · rename_i beyond
        rw [List.getElem?_append_right (by omega), List.getElem?_drop]
        congr 1
        omega
    rw [if_neg (not_not.mpr right), stored, ZtacxVariable.typedValue_of_scalar size]
    constructor
    · intro same _ i inside
      have members := TypedValue.scalar.inj (typed.symm.trans (same _ _ rfl))
      have byte := congrArg (fun l : List UInt8 => l[i]?) members
      simp only [List.getElem?_take_of_lt (show i < n by omega), at', if_pos inside] at byte
      exact byte
    · intro same w rc ran
      cases ran
      rw [typed]
      refine congrArg TypedValue.scalar (List.ext_getElem? fun i => ?_)
      by_cases low : i < n
      · rw [List.getElem?_take_of_lt low, List.getElem?_take_of_lt low, at']
        split
        · rename_i inside
          exact same right i inside
        · rfl
      · rw [List.getElem?_eq_none (by rw [List.length_take]; omega),
          List.getElem?_eq_none (by rw [List.length_take]; omega)]
  · rw [if_pos right]
    refine iff_of_true (fun w rc ran => ?_) fun wrong => absurd wrong right
    cases ran
    rfl

/-- The text after a read is the old one if what was read over it is. -/
theorem ofBytes_bytesAfter_block_iff {t : CString} (stores : io.bytes.length ≤ io.len) :
    CString.ofBytes ((StringPtr.block t).bytesAfter io) = t ↔
      t.strlen ≤ io.len ∧ ∀ i, i < io.bytes.length → i ≤ t.strlen →
        io.bytes[i]? = t.stored[i]? := by
  have width := length_bytesAfter (p := .block t) stores
  by_cases fits : t.strlen ≤ io.len
  · rw [and_iff_right fits]
    have unread : ∀ i, io.bytes.length ≤ i → i ≤ t.strlen → i < io.len →
        ((StringPtr.block t).bytesAfter io)[i]? = t.stored[i]? := by
      intro i beyond upTo inside
      have stored : i < t.stored.length := by
        rw [CString.stored, List.length_append]
        exact Nat.lt_succ_of_le upTo
      rw [StringPtr.bytesAfter, List.getElem?_append_right beyond, List.getElem?_drop,
        Nat.add_sub_of_le beyond, List.getElem?_map, List.getElem?_range inside,
        List.getElem?_eq_getElem stored]
      exact congrArg some (List.getD_eq_getElem _ _ stored)
    -- compared with the text in an object of the size of the record
    have byByte := CString.ofBytes_eq_iff (width.trans (CString.length_padded fits).symm)
    rw [CString.ofBytes_padded] at byByte
    rw [byByte]
    constructor
    · intro same i inside upTo
      rw [← CString.getElem?_padded upTo (by omega : i < io.len), ← same i upTo,
        StringPtr.bytesAfter, List.getElem?_append_left inside]
    · intro same i upTo
      by_cases inside : i < io.len
      · rw [CString.getElem?_padded upTo inside]
        by_cases wasRead : i < io.bytes.length
        · rw [StringPtr.bytesAfter, List.getElem?_append_left wasRead, same i wasRead upTo]
        · exact unread i (by omega) upTo inside
      · have len := CString.length_padded fits
        rw [List.getElem?_eq_none (by omega), List.getElem?_eq_none (by omega)]
  · refine iff_of_false (fun same => fits ?_) fun both => fits both.1
    have short := CString.strlen_ofBytes_le ((StringPtr.block t).bytesAfter io)
    rwa [same, width] at short

/-- A record that is read into a string brings what is there, or changes it. -/
theorem handleSetting_string_keeps_iff (kind : v.kind = .string)
    (stores : io.bytes.length ≤ io.len) :
    (∀ w rc, handleSetting v io = .ok (w, rc) → w.typedValue = v.typedValue) ↔
      v.value.valString.LoadKeeps io := by
  rw [handleSetting_string kind, ZtacxVariable.typedValue_of_string kind]
  -- whatever the arm does, it leaves the old variable with another pointer
  have changes : ∀ {p rc}, handleString v io = .ok (v.withString p, rc) →
      ((∀ w rc, handleString v io = .ok (w, rc) →
        w.typedValue = .text v.value.valString.text) ↔ p.text = v.value.valString.text) := by
    intro p rc ran
    rw [ran]
    constructor
    · intro same
      have typed := same _ _ rfl
      rw [ZtacxVariable.typedValue_withString kind] at typed
      exact TypedValue.text.inj typed
    · intro same w rc' ran'
      cases ran'
      rw [ZtacxVariable.typedValue_withString kind, same]
  cases h : v.value.valString with
  | literal t =>
      refine iff_of_true (fun w rc ran => ?_) trivial
      obtain ⟨fault, faults⟩ := handleString_literal io h
      rw [faults] at ran
      cases ran
  | null =>
      have writable := StringPtr.ne_literal_of_null h
      by_cases room : v.value.valString.HasRoom io
      · rw [← h, changes (handleString_room stores room), h]
        rw [h] at room
        have memory : io.alloc = true := room
        simp [StringPtr.text, StringPtr.LoadKeeps, memory]
      · rw [← h, changes (handleString_noRoom writable room), h]
        rw [h] at room
        have memory : ¬ io.alloc = true := room
        simp [StringPtr.text, StringPtr.LoadKeeps, memory]
  | block t =>
      have writable := StringPtr.ne_literal_of_block h
      by_cases room : v.value.valString.HasRoom io
      · rw [← h, changes (handleString_room stores room), h]
        rw [h] at room
        show some (CString.ofBytes _) = some t ↔ _ ∧ _ ∧ _
        rw [Option.some.injEq, ofBytes_bytesAfter_block_iff stores]
        have space : io.len = t.strlen ∨ io.alloc = true := room
        tauto
      · rw [← h, changes (handleString_noRoom writable room), h]
        rw [h] at room
        exact iff_of_false (fun same => by cases same) fun keeps => room keeps.2.1

/-- **A load says nothing, so it must bring what is there.** -/
theorem handleSetting_keeps_iff (stores : io.bytes.length ≤ io.len) :
    (∀ w rc, handleSetting v io = .ok (w, rc) → w.typedValue = v.typedValue) ↔
      LoadKeeps v io := by
  cases size : v.kind.scalarSize with
  | some n =>
      rw [handleSetting_scalar_keeps_iff size stores]
      refine ⟨fun same => ⟨fun m own => ?_, fun kind => ?_⟩, fun keeps => keeps.scalar n size⟩
      · cases size.symm.trans own
        exact same
      · exact absurd kind (ZtacxValueKind.ne_string_and_event size).1
  | none =>
      by_cases kind : v.kind = .string
      · rw [handleSetting_string_keeps_iff kind stores]
        refine ⟨fun same => ⟨fun m own => ?_, fun _ => same⟩, fun keeps => keeps.string kind⟩
        cases size.symm.trans own
      · have event := (ZtacxValueKind.string_or_event size).resolve_left kind
        have refused := handleSetting_event event io
        refine iff_of_true (fun w rc ran => ?_) ⟨fun m own => ?_, fun string => absurd string kind⟩
        · cases refused.symm.trans ran
          rfl
        · cases size.symm.trans own

end Load

/-! ## Writing over GATT -/

section Write

variable {atoi : CString → BitVec 32} {names : SettingsNames} {work : KWorkPtr}
  {v : ZtacxVariable} {alloc reallocs : Bool} {payload : List UInt8} {offset n : ℕ}

/-- The rule for a GATT write, in terms of what the write leaves behind. -/
theorem notifies_gattWrite_iff :
    Notifies atoi names work v (.gattWrite alloc reallocs payload offset) ↔
      ∀ w rc, btWriteVariable atoi alloc reallocs v payload offset = .ok (w, rc) →
        (w.v.typedValue ≠ v.typedValue → work ∈ w.submitted) ∧
          (w.v.typedValue = v.typedValue → gattAsked v payload offset ≠ some v.typedValue →
            w.submitted = []) := by
  constructor
  · intro notifies w rc ran
    exact notifies w.v w.submitted (map_eq_ok_iff.mpr ⟨(w, rc), ran, rfl⟩)
  · intro all w submitted applied
    obtain ⟨⟨u, rc⟩, ran, same⟩ := map_eq_ok_iff.mp applied
    cases same
    exact all u rc ran

theorem gattAsked_scalar (size : v.kind.scalarSize = some n) :
    gattAsked v payload offset =
      if offset + payload.length ≤ n then some (.scalar (writtenMember v n payload offset))
      else none := by
  cases hk : v.kind <;> simp_all [gattAsked, ZtacxValueKind.scalarSize]

/-- The INT64 arm stores the old value over the payload and submits work all the same. -/
theorem gattWrite_int64_notifies_iff (kind : v.kind = .int64) (change : v.onChange = some work)
    (fits : offset + payload.length ≤ 8) :
    Notifies atoi names work v (.gattWrite alloc reallocs payload offset) ↔
      splice v.value.bytes offset payload = v.value.bytes := by
  have size : v.kind.scalarSize = some 8 := by
    rw [kind]
    rfl
  have whole : v.value.bytes.take 8 = v.value.bytes :=
    List.take_of_length_le v.value.bytes_length.le
  have asked : writtenMember v 8 payload offset = splice v.value.bytes offset payload := by
    unfold writtenMember
    rw [whole, if_neg (by rw [kind]; decide)]
  rw [notifies_gattWrite_iff, gattAsked_scalar size, if_pos fits, asked,
    ZtacxVariable.typedValue_of_scalar size, whole]
  constructor
  · intro all
    obtain ⟨w, rc, ran⟩ :=
      @btWriteVariable_int64_ok atoi alloc reallocs v payload offset kind fits
    obtain ⟨kept, reported⟩ := btWriteVariable_int64 kind fits ran
    rw [ZtacxVariable.typedValue_of_scalar size, whole] at kept
    by_contra other
    have silent := (all w rc ran).2 kept fun same =>
      other (TypedValue.scalar.inj (Option.some.inj same))
    rw [silent, change] at reported
    exact List.not_mem_nil (reported (List.mem_singleton_self work))
  · intro same w rc ran
    obtain ⟨kept, reported⟩ := btWriteVariable_int64 kind fits ran
    rw [ZtacxVariable.typedValue_of_scalar size, whole] at kept
    exact ⟨fun changed => absurd kept changed, fun _ other => absurd (by rw [same]) other⟩

theorem gattWrite_scalar_notifies_iff (size : v.kind.scalarSize = some n)
    (change : v.onChange = some work) :
    Notifies atoi names work v (.gattWrite alloc reallocs payload offset) ↔
      (v.kind = .int64 → offset + payload.length ≤ 8 →
        splice v.value.bytes offset payload = v.value.bytes) := by
  by_cases fits : offset + payload.length ≤ n
  · by_cases kind : v.kind = .int64
    · have eight : n = 8 := by
        rw [kind] at size
        cases size
        rfl
      subst eight
      rw [gattWrite_int64_notifies_iff kind change fits, forall_prop_of_true kind,
        forall_prop_of_true fits]
    · rw [notifies_gattWrite_iff, gattAsked_scalar size, if_pos fits]
      refine iff_of_true (fun w rc ran => ⟨fun changed => ?_, fun same other => ?_⟩)
        fun int64 => absurd int64 kind
      · rcases btWriteVariable_reports size ran with rfl | reported
        · exact absurd rfl changed
        · rw [change] at reported
          exact reported (List.mem_singleton_self work)
      · exact absurd (congrArg some (btWriteVariable_unchanged size fits kind ran same)) other
  · rw [notifies_gattWrite_iff, gattAsked_scalar size, if_neg fits]
    refine iff_of_true (fun w rc ran => ?_) fun kind fits' => ?_
    · cases btWriteVariable_beyond size (Nat.lt_of_not_le fits) ran
      exact ⟨fun changed => absurd rfl changed, fun _ _ => rfl⟩
    · rw [kind] at size
      cases size
      exact absurd fits' fits

/-- A write into a block that has room for every payload: the payload is in the block
already when the setter is called, and without memory the setter says nothing about it. -/
theorem gattWrite_fullBlock_notifies_iff {t : CString} (kind : v.kind = .string)
    (change : v.onChange = some work) (fits : offset + payload.length ≤ STRING_CHAR_MAX)
    (old : v.value.valString = .block t) (full : STRING_CHAR_MAX ≤ t.strlen) :
    Notifies atoi names work v (.gattWrite alloc reallocs payload offset) ↔
      (alloc = false → (t.take offset).append (CString.ofBytes payload) = t) := by
  have write := @btWriteVariable_block atoi alloc reallocs v payload offset t kind old fits
  rw [if_pos full] at write
  have typed : v.typedValue = .text (some t) := by
    rw [ZtacxVariable.typedValue_of_string kind, old]
    rfl
  have asked : gattAsked v payload offset =
      some (.text (some ((t.take offset).append (CString.ofBytes payload)))) := by
    unfold gattAsked
    rw [kind, old]
    exact if_pos fits
  rw [notifies_gattWrite_iff, write, asked, typed]
  cases alloc with
  | true =>
      refine iff_of_true (fun w rc ran => ?_) fun noMemory => by cases noMemory
      cases ran
      rw [ZtacxVariable.typedValue_withString kind, change]
      exact ⟨fun _ => List.mem_singleton_self work,
        fun same other => absurd (congrArg some same) other⟩
  | false =>
      constructor
      · intro all _
        by_contra other
        have reported := (all _ _ rfl).1 (by
          rw [ZtacxVariable.typedValue_withString kind]
          exact fun same => other (Option.some.inj (TypedValue.text.inj same)))
        exact List.not_mem_nil reported
      · intro same w rc ran
        cases ran
        refine ⟨fun changed => absurd ?_ changed, fun _ _ => rfl⟩
        rw [ZtacxVariable.typedValue_withString kind]
        exact congrArg (fun u => TypedValue.text (some u)) (same rfl)

theorem gattWrite_string_notifies_iff (kind : v.kind = .string) (change : v.onChange = some work) :
    Notifies atoi names work v (.gattWrite alloc reallocs payload offset) ↔
      (alloc = false → offset + payload.length ≤ STRING_CHAR_MAX →
        ∀ t, v.value.valString = .block t → STRING_CHAR_MAX ≤ t.strlen →
          (t.take offset).append (CString.ofBytes payload) = t) := by
  by_cases fits : offset + payload.length ≤ STRING_CHAR_MAX
  · by_cases block : ∃ t, v.value.valString = .block t
    · obtain ⟨t, old⟩ := block
      by_cases full : STRING_CHAR_MAX ≤ t.strlen
      · rw [gattWrite_fullBlock_notifies_iff kind change fits old full]
        refine forall_congr' fun _ => ⟨fun same _ u own _ => ?_, fun all => all fits t old full⟩
        cases old.symm.trans own
        exact same
      · have write := @btWriteVariable_block atoi alloc reallocs v payload offset t kind old fits
        rw [if_neg full] at write
        obtain ⟨fault, faults⟩ := write
        refine iff_of_true (notifies_gattWrite_iff.mpr fun w rc ran => ?_) fun _ _ u own large => ?_
        · cases faults.symm.trans ran
        · cases old.symm.trans own
          exact absurd large full
    · obtain ⟨fault, faults⟩ := @btWriteVariable_noBlock atoi alloc reallocs v payload offset kind
        (fun t old => block ⟨t, old⟩) fits
      refine iff_of_true (notifies_gattWrite_iff.mpr fun w rc ran => ?_)
        fun _ _ t own => absurd ⟨t, own⟩ block
      cases faults.symm.trans ran
  · refine iff_of_true (notifies_gattWrite_iff.mpr fun w rc ran => ?_)
      fun _ fits' => absurd fits' fits
    cases (btWriteVariable_string_refused kind (Nat.lt_of_not_le fits)).symm.trans ran
    exact ⟨fun changed => absurd rfl changed, fun _ _ => rfl⟩

/-- **GATT writes.** -/
theorem gattWrite_notifies_iff (change : v.onChange = some work) :
    Notifies atoi names work v (.gattWrite alloc reallocs payload offset) ↔
      WriteNotifies v alloc payload offset := by
  cases size : v.kind.scalarSize with
  | some n =>
      rw [gattWrite_scalar_notifies_iff size change]
      refine ⟨fun right => ⟨right, fun string => ?_⟩, fun right => right.int64⟩
      exact absurd string (ZtacxValueKind.ne_string_and_event size).1
  | none =>
      by_cases kind : v.kind = .string
      · rw [gattWrite_string_notifies_iff kind change]
        refine ⟨fun right => ⟨fun int64 => ?_, fun _ => right⟩, fun right => right.string kind⟩
        rw [int64] at kind
        cases kind
      · have event := (ZtacxValueKind.string_or_event size).resolve_left kind
        refine iff_of_true (notifies_gattWrite_iff.mpr fun w rc ran => ?_) ⟨?_, ?_⟩
        · unfold btWriteVariable at ran
          rw [event] at ran
          cases ran
          exact ⟨fun changed => absurd rfl changed, fun _ _ => rfl⟩
        · intro int64
          rw [event] at int64
          cases int64
        · exact fun string => absurd string kind

end Write

/-! ## Every operation -/

section Main

variable {atoi : CString → BitVec 32} {names : SettingsNames} {work : KWorkPtr}
  {v : ZtacxVariable} {op : Mutator}

/-- A load submits nothing, so it obeys the rule if it changes nothing. -/
theorem load_notifies_iff {before after : List ZtacxVariable} {name : CString}
    {io : SettingsRead} (stores : io.bytes.length ≤ io.len) :
    Notifies atoi names work v (.load before after name io) ↔
      (Reached names name before v → LoadKeeps v io) := by
  have silent : Notifies atoi names work v (.load before after name io) ↔
      ∀ list rc, settingsHandleSet names name io (before ++ v :: after) = .ok (list, rc) →
        (list.getD before.length v).typedValue = v.typedValue := by
    constructor
    · intro notifies list rc ran
      by_contra changed
      exact List.not_mem_nil
        ((notifies _ _ (map_eq_ok_iff.mpr ⟨(list, rc), ran, rfl⟩)).1 changed)
    · intro same w submitted applied
      obtain ⟨⟨list, rc⟩, ran, outcome⟩ := map_eq_ok_iff.mp applied
      cases outcome
      exact ⟨fun changed => absurd (same list rc ran) changed, fun _ _ => rfl⟩
  rw [silent]
  by_cases reached : Reached names name before v
  · rw [forall_prop_of_true reached, ← handleSetting_keeps_iff stores,
      settingsHandleSet_reached reached]
    -- the handler replaces the setting it ends at, and nothing behind it
    have found : ∀ w : ZtacxVariable, (before ++ w :: after).getD before.length v = w := by
      intro w
      simp [List.getD_eq_getElem?_getD]
    constructor
    · intro same w rc ran
      have kept := same (before ++ w :: after) rc (map_eq_ok_iff.mpr ⟨(w, rc), ran, rfl⟩)
      rwa [found] at kept
    · intro same list rc ran
      obtain ⟨⟨w, wrc⟩, set, outcome⟩ := map_eq_ok_iff.mp ran
      cases outcome
      rw [found]
      exact same w wrc set
  · refine iff_of_true (fun list rc ran => ?_) fun hit => absurd hit reached
    rw [List.getD_eq_getElem?_getD, settingsHandleSet_unreached reached ran]
    rfl

/-- **When an operation notifies of changes**, for every variable with a work
item, every value and every operation that can modify a variable. -/
theorem mutator_notifies_iff (change : v.onChange = some work) (reads : op.ReadsWithin) :
    Notifies atoi names work v op ↔ op.NotifiesRight names v := by
  cases op with
  | valueSet alloc value =>
      refine iff_of_true (notifies_of_setter change rfl fun r ran => ?_) trivial
      cases value with
      | none =>
          cases ran
          exact .inl ⟨rfl, rfl⟩
      | some object => exact ztacxVariableValueSet_notified ran
  | typed alloc setter =>
      refine iff_of_true (notifies_of_setter change rfl fun r ran => ?_) trivial
      rw [TypedSetter.set_eq] at ran
      exact ztacxVariableValueSet_notified ran
  | incInt64 alloc =>
      refine iff_of_true (notifies_of_setter change rfl fun r ran => ?_) trivial
      obtain ⟨old, got, set⟩ := bind_eq_ok_iff.mp ran
      have asked : (Mutator.incInt64 alloc).asked atoi v =
          objectValue v.kind (leBytes 8 (old + 1).toNat) := by
        unfold Mutator.asked
        rw [got]
        rfl
      rw [asked]
      exact ztacxVariableValueSet_notified set
  | setString alloc value =>
      refine iff_of_true (notifies_of_setter change rfl fun r ran => ?_) trivial
      exact ztacxVariableValueSetString_notified ran
  | settingSet alloc saveRc value =>
      refine iff_of_true (notifies_of_notified change fun w submitted applied => ?_) trivial
      obtain ⟨r, ran, same⟩ := map_eq_ok_iff.mp applied
      obtain ⟨set, parsed, saved⟩ := bind_eq_ok_iff.mp ran
      -- the save keeps what the setter left and what it submitted
      have kept : r.setting = set.setting ∧ r.submitted = set.submitted := by
        by_cases failed : set.rc ≠ 0
        · rw [if_pos failed] at saved
          cases saved
          exact ⟨rfl, rfl⟩
        · rw [if_neg failed] at saved
          obtain ⟨bytes, -, rfl⟩ := map_eq_ok_iff.mp saved
          cases bytes <;> exact ⟨rfl, rfl⟩
      refine ⟨set, ztacxVariableValueSetString_notified parsed, ?_⟩
      rw [← same, kept.1, kept.2]
      rfl
  | gattWrite alloc reallocs payload offset => exact gattWrite_notifies_iff change
  | load before after name io => exact load_notifies_iff reads

end Main

/-! ### An interval that is loaded -/

/-- A UINT16 setting with the work item 7. -/
def watchedSetting : ZtacxVariable := { zeroVariable .uint16 with onChange := some 7 }

/-- An update of it is submitted, also when the storage fails. -/
theorem watchedSetting_set_notifies :
    Notifies (fun _ => 5) .plain 7 watchedSetting
      (.settingSet true (- EIO) (some (.ofString "5"))) :=
  (@mutator_notifies_iff _ _ 7 watchedSetting (.settingSet true (- EIO) (some (.ofString "5"))) rfl
    trivial).mpr trivial

/-- The value that comes from the storage is news to nobody. -/
theorem watchedSetting_load_not_notifies :
    ¬ Notifies (fun _ => 5) .plain 7 watchedSetting
      (.load [] [] watchedSetting.name (.whole [1, 2])) := by
  intro notifies
  have applied : ∃ w, (Mutator.load [] [] watchedSetting.name (.whole [1, 2])).apply (fun _ => 5)
      .plain watchedSetting = .ok (w, []) ∧ w.typedValue = .scalar [1, 2] := by
    refine ⟨{ watchedSetting with value := { watchedSetting.value with
      bytes := [1, 2, 0, 0, 0, 0, 0, 0], bytes_length := rfl } }, by decide, rfl⟩
  obtain ⟨w, ran, value⟩ := applied
  exact List.not_mem_nil ((notifies w [] ran).1 (by rw [value]; decide))

end Ztacx
