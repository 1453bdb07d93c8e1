import Ztacx.Variable

/-!
# Variables over GATT

`bt_read_variable` and `bt_write_variable` of `src/ztacx_bt_peripheral.c`, the
callbacks through which a central reads and writes a variable, and the exact
extent to which a write of part of a scalar is that write.

`WritesPart` is what a partial write is for: a payload that fits replaces the
bytes it covers and no others, a payload that does not fit is refused, and
nothing is copied past the end of an object.  `btWriteVariable_writesPart_iff`
says when the code does that.  BOOL and UINT16 always do.  The arm of BYTE
checks against the size of a wider type, and one value of `offset + len` slips
through.  The arms of INT16, INT32 and INT64 have no `break`: an accepted write
runs on through the arms below and comes back as an error, so only the refusals
are right.

The log lines are left out, and with them the arguments that read a whole
number from the front of the payload.
-/

namespace Ztacx

open CModel

def STRING_CHAR_MAX : ℕ := 20

def BT_ATT_ERR_INVALID_OFFSET : ℤ := 7

/-- `BT_GATT_ERR`. -/
def BT_GATT_ERR (err : ℤ) : ℤ := -err

/-! ## Reading -/

/-- `bt_gatt_attr_read`: from the length of the buffer, the offset and the
value, the return code and the bytes it writes at the start of the buffer. -/
abbrev GattAttrRead := ℕ → ℕ → List UInt8 → ℤ × List UInt8

/-- A buffer that holds the value gets the value. -/
def GattAttrRead.Whole (attrRead : GattAttrRead) : Prop :=
  ∀ bufLen value, value.length ≤ bufLen → attrRead bufLen 0 value = ((value.length : ℤ), value)

/-- `bt_read_variable`. -/
def btReadVariable (attrRead : GattAttrRead) (v : ZtacxVariable) (len offset : ℕ) :
    Except Fault (ℤ × List UInt8) :=
  if offset ≠ 0 then .ok (- EIO, [])
  else
    match v.kind with
    | .string => v.value.valString.deref.map fun text => attrRead len offset text.bytes
    | .bool => .ok (attrRead len offset (v.value.bytes.take 1))
    | .byte => .ok (attrRead len offset (v.value.bytes.take 1))
    | .uint16 => .ok (attrRead len offset (v.value.bytes.take 2))
    | .int16 => .ok (attrRead len offset (v.value.bytes.take 2))
    | .int32 => .ok (attrRead len offset (v.value.bytes.take 4))
    | .int64 => .ok (attrRead len offset (v.value.bytes.take 8))
    | .event => .ok (-EINVAL, [])

/-! ## Writing -/

/-- The variable during a write, and the `on_change` work submitted so far. -/
structure GattWrite where
  v : ZtacxVariable
  submitted : List KWorkPtr
deriving DecidableEq, Repr

/-- A setter called during a write.  Its return code is ignored. -/
def GattWrite.set (w : GattWrite) (setter : ZtacxVariable → Except Fault SetResult) :
    Except Fault GattWrite :=
  (setter w.v).map fun r => ⟨r.setting, w.submitted ++ r.submitted.toList⟩

/-- Where control goes when an arm of the switch ends: `break`, or the arm below. -/
abbrev GattExit := GattWrite → Except Fault (GattWrite × ℤ)

section Arms

variable (alloc : Bool) (payload : List UInt8) (offset : ℕ)

/-- `break;`, and `return len;` after the switch. -/
def breakArm : GattExit := fun w => .ok (w, payload.length)

/-- `default:`. -/
def defaultArm : GattExit := fun w => .ok (w, BT_GATT_ERR BT_ATT_ERR_INVALID_OFFSET)

/-- The arm of a scalar: check against `limit`, copy the payload into a
temporary that was initialised by a getter, hand the temporary to a setter. -/
def scalarArm (limit : ℕ) (temporary : ZtacxVariable → Except Fault (List UInt8))
    (setter : List UInt8 → ZtacxVariable → Except Fault SetResult) (next : GattExit) :
    GattExit := fun w =>
  if limit < offset + payload.length then .ok (w, BT_GATT_ERR BT_ATT_ERR_INVALID_OFFSET)
  else
    (temporary w.v).bind fun object =>
      (memcpyInto object offset payload).bind fun object => (w.set (setter object)).bind next

/-- `case ZTACX_VALUE_BOOL`. -/
def boolArm : GattExit :=
  scalarArm payload offset 1 (fun v => (ztacxVariableValueGetBool v).map boolBytes)
    (fun object v => ztacxVariableValueSetBool alloc v (leNat object ≠ 0)) (breakArm payload)

/-- `case ZTACX_VALUE_BYTE`.  The limit is `sizeof(uint16_t)`. -/
def byteArm : GattExit :=
  scalarArm payload offset 2
    (fun v => (ztacxVariableValueGetByte v).map fun x => leBytes 1 x.toNat)
    (fun object v => ztacxVariableValueSetByte alloc v (BitVec.ofNat 8 (leNat object)))
    (breakArm payload)

/-- `case ZTACX_VALUE_UINT16`. -/
def uint16Arm : GattExit :=
  scalarArm payload offset 2
    (fun v => (ztacxVariableValueGetUint16 v).map fun x => leBytes 2 x.toNat)
    (fun object v => ztacxVariableValueSetUint16 alloc v (BitVec.ofNat 16 (leNat object)))
    (breakArm payload)

/-- `case ZTACX_VALUE_INT64`.  The payload goes into the variable itself; the
setter then gets the value from before.  No `break`. -/
def int64Arm : GattExit := fun w =>
  if 8 < offset + payload.length then .ok (w, BT_GATT_ERR BT_ATT_ERR_INVALID_OFFSET)
  else
    (ztacxVariableValueGetInt64 w.v).bind fun old =>
      (w.v.value.store offset payload).bind fun value =>
        let w : GattWrite := { w with v := { w.v with value := value } }
        (w.set fun v => ztacxVariableValueSetInt64 alloc v old).bind defaultArm

/-- `case ZTACX_VALUE_INT32`.  The temporary is a `uint16_t`.  No `break`. -/
def int32Arm : GattExit :=
  scalarArm payload offset 4
    (fun v => (ztacxVariableValueGetInt32 v).map fun x => leBytes 2 (x.setWidth 16).toNat)
    (fun object v =>
      ztacxVariableValueSetInt32 alloc v ((BitVec.ofNat 16 (leNat object)).setWidth 32))
    (int64Arm alloc payload offset)

/-- `case ZTACX_VALUE_INT16`.  No `break`. -/
def int16Arm : GattExit :=
  scalarArm payload offset 2
    (fun v => (ztacxVariableValueGetInt16 v).map fun x => leBytes 2 x.toNat)
    (fun object v => ztacxVariableValueSetInt16 alloc v (BitVec.ofNat 16 (leNat object)))
    (int32Arm alloc payload offset)

/-- `case ZTACX_VALUE_STRING`.  A block holds its text and the terminator; after
`realloc` (successful when `reallocs`) it has `offset + len` bytes.  `strncpy`
fills up to index `STRING_CHAR_MAX` whatever the block can hold.  What it writes
it writes into the variable's own block, before the setter runs. -/
def stringArm (atoi : CString → BitVec 32) (reallocs : Bool) : GattExit := fun w =>
  if STRING_CHAR_MAX < payload.length ∨ STRING_CHAR_MAX < offset + payload.length then
    .ok (w, BT_GATT_ERR BT_ATT_ERR_INVALID_OFFSET)
  else
    let text := (CString.ofBytes payload).bytes
    let padded := text ++ List.replicate (STRING_CHAR_MAX - offset + 1 - text.length) 0
    let finish (object : List UInt8) : Except Fault (GattWrite × ℤ) :=
      (memcpyInto object offset padded).bind fun object =>
        (readCString object).bind fun value =>
          let w : GattWrite := { w with v := w.v.withString (.block value) }
          (w.set fun v => ztacxVariableValueSetString atoi alloc v (some value)).bind
            (breakArm payload)
    match w.v.value.valString with
    | .null => .error .nullDeref
    | .literal text =>
      if text.strlen < offset + payload.length then .error .invalidFree
      else .error .readOnlyWrite
    | .block text =>
      if text.strlen < offset + payload.length then
        if reallocs then
          let size := offset + payload.length
          finish (text.stored.take size ++ List.replicate (size - text.stored.length) 0)
        else .error .nullDeref
      else finish text.stored

end Arms

/-- `bt_write_variable`. -/
def btWriteVariable (atoi : CString → BitVec 32) (alloc reallocs : Bool) (v : ZtacxVariable)
    (payload : List UInt8) (offset : ℕ) : Except Fault (GattWrite × ℤ) :=
  match v.kind with
  | .string => stringArm alloc payload offset atoi reallocs ⟨v, []⟩
  | .bool => boolArm alloc payload offset ⟨v, []⟩
  | .byte => byteArm alloc payload offset ⟨v, []⟩
  | .uint16 => uint16Arm alloc payload offset ⟨v, []⟩
  | .int16 => int16Arm alloc payload offset ⟨v, []⟩
  | .int32 => int32Arm alloc payload offset ⟨v, []⟩
  | .int64 => int64Arm alloc payload offset ⟨v, []⟩
  | .event => defaultArm ⟨v, []⟩

/-! ## What a partial write is for -/

/-- **A write of part of a scalar of `n` bytes.** -/
def WritesPart (attrRead : GattAttrRead) (atoi : CString → BitVec 32) (alloc reallocs : Bool)
    (v : ZtacxVariable) (payload : List UInt8) (offset n : ℕ) : Prop :=
  if offset + payload.length ≤ n then
    ∃ w, btWriteVariable atoi alloc reallocs v payload offset = .ok (w, (payload.length : ℤ)) ∧
      ∀ bufLen, n ≤ bufLen → btReadVariable attrRead w.v bufLen 0 =
        .ok ((n : ℤ), splice (v.value.bytes.take n) offset payload)
  else
    ∃ w rc, btWriteVariable atoi alloc reallocs v payload offset = .ok (w, rc) ∧ rc < 0 ∧
      w.v.typedValue = v.typedValue

/-- When `bt_write_variable` does that, by the kind and the end of the write. -/
def WritesRight : ZtacxValueKind → ℕ → Prop
  | .bool, _ => True
  | .byte, writeEnd => writeEnd ≠ 2
  | .uint16, _ => True
  | .int16, writeEnd => 2 < writeEnd
  | .int32, writeEnd => 4 < writeEnd
  | .int64, writeEnd => 8 < writeEnd
  | _, _ => False

/-! ## The arms -/

section ArmLemmas

variable {alloc : Bool} {payload : List UInt8} {offset limit : ℕ}
  {temporary : ZtacxVariable → Except Fault (List UInt8)}
  {setter : List UInt8 → ZtacxVariable → Except Fault SetResult} {next : GattExit}
  {w : GattWrite}

theorem scalarArm_refuses (beyond : limit < offset + payload.length) :
    scalarArm payload offset limit temporary setter next w =
      .ok (w, BT_GATT_ERR BT_ATT_ERR_INVALID_OFFSET) := if_pos beyond

/-- The temporary is narrower than the check allows for. -/
theorem scalarArm_overruns {object : List UInt8} (fits : offset + payload.length ≤ limit)
    (got : temporary w.v = .ok object) (beyond : object.length < offset + payload.length) :
    scalarArm payload offset limit temporary setter next w = .error .outOfBounds := by
  unfold scalarArm
  rw [if_neg (by omega), got]
  show (memcpyInto object offset payload).bind _ = _
  rw [memcpyInto_of_lt beyond]
  rfl

theorem scalarArm_copies {object : List UInt8} (fits : offset + payload.length ≤ limit)
    (got : temporary w.v = .ok object) (inside : offset + payload.length ≤ object.length) :
    scalarArm payload offset limit temporary setter next w =
      (w.set (setter (splice object offset payload))).bind next := by
  unfold scalarArm
  rw [if_neg (by omega), got]
  show (memcpyInto object offset payload).bind _ = _
  rw [memcpyInto_of_le inside]
  rfl

theorem GattWrite.set_eq_ok {setter : ZtacxVariable → Except Fault SetResult} {u : GattWrite}
    (ran : w.set setter = .ok u) :
    ∃ r, setter w.v = .ok r ∧ u = ⟨r.setting, w.submitted ++ r.submitted.toList⟩ := by
  obtain ⟨r, set, same⟩ := map_eq_ok_iff.mp ran
  exact ⟨r, set, same.symm⟩

/-- What the arm of a scalar did, if it went through. -/
theorem scalarArm_eq_ok {w' : GattWrite} {rc : ℤ}
    (ran : scalarArm payload offset limit temporary setter next w = .ok (w', rc)) :
    (limit < offset + payload.length ∧ w' = w) ∨
      offset + payload.length ≤ limit ∧ ∃ object u, temporary w.v = .ok object ∧
        offset + payload.length ≤ object.length ∧
        w.set (setter (splice object offset payload)) = .ok u ∧ next u = .ok (w', rc) := by
  unfold scalarArm at ran
  split at ran
  · rename_i beyond
    cases ran
    exact .inl ⟨beyond, rfl⟩
  · rename_i fits
    obtain ⟨object, got, ran⟩ := bind_eq_ok_iff.mp ran
    obtain ⟨copied, copy, after⟩ := bind_eq_ok_iff.mp ran
    unfold memcpyInto at copy
    split at copy
    · rename_i inside
      cases copy
      obtain ⟨u, set, continues⟩ := bind_eq_ok_iff.mp after
      exact .inr ⟨by omega, object, u, got, inside, set, continues⟩
    · cases copy

/-- What the arm of INT64 did, if it went through. -/
theorem int64Arm_eq_ok {w' : GattWrite} {rc : ℤ}
    (ran : int64Arm alloc payload offset w = .ok (w', rc)) :
    (8 < offset + payload.length ∧ w' = w) ∨
      offset + payload.length ≤ 8 ∧ ∃ old value u,
        ztacxVariableValueGetInt64 w.v = .ok old ∧ w.v.value.store offset payload = .ok value ∧
        GattWrite.set ⟨{ w.v with value := value }, w.submitted⟩
          (fun v => ztacxVariableValueSetInt64 alloc v old) = .ok u ∧ w' = u := by
  unfold int64Arm at ran
  split at ran
  · rename_i beyond
    cases ran
    exact .inl ⟨beyond, rfl⟩
  · rename_i fits
    obtain ⟨old, got, ran⟩ := bind_eq_ok_iff.mp ran
    obtain ⟨value, stored, ran⟩ := bind_eq_ok_iff.mp ran
    obtain ⟨u, set, ran⟩ := bind_eq_ok_iff.mp ran
    cases ran
    exact .inr ⟨by omega, old, value, _, got, stored, set, rfl⟩

/-- Control leaves through `default:` or through a failed check. -/
def GattExit.ReturnsError (exit : GattExit) : Prop :=
  ∀ w w' rc, exit w = .ok (w', rc) → rc = BT_GATT_ERR BT_ATT_ERR_INVALID_OFFSET

theorem defaultArm_returnsError : GattExit.ReturnsError defaultArm := by
  intro w w' rc ran
  cases ran
  rfl

theorem scalarArm_returnsError (falls : next.ReturnsError) :
    GattExit.ReturnsError (scalarArm payload offset limit temporary setter next) := by
  intro w w' rc ran
  unfold scalarArm at ran
  split at ran
  · cases ran
    rfl
  · obtain ⟨object, -, ran⟩ := bind_eq_ok_iff.mp ran
    obtain ⟨object', -, ran⟩ := bind_eq_ok_iff.mp ran
    obtain ⟨u, -, ran⟩ := bind_eq_ok_iff.mp ran
    exact falls u w' rc ran

theorem int64Arm_returnsError : GattExit.ReturnsError (int64Arm alloc payload offset) := by
  intro w w' rc ran
  unfold int64Arm at ran
  split at ran
  · cases ran
    rfl
  · obtain ⟨old, -, ran⟩ := bind_eq_ok_iff.mp ran
    obtain ⟨value, -, ran⟩ := bind_eq_ok_iff.mp ran
    obtain ⟨u, -, ran⟩ := bind_eq_ok_iff.mp ran
    exact defaultArm_returnsError u w' rc ran

theorem int32Arm_returnsError : GattExit.ReturnsError (int32Arm alloc payload offset) :=
  scalarArm_returnsError int64Arm_returnsError

theorem int16Arm_returnsError : GattExit.ReturnsError (int16Arm alloc payload offset) :=
  scalarArm_returnsError int32Arm_returnsError

end ArmLemmas

/-! ## Kind by kind -/

section Kinds

variable {attrRead : GattAttrRead} {atoi : CString → BitVec 32} {alloc reallocs : Bool}
  {v : ZtacxVariable} {payload : List UInt8} {offset n : ℕ}

/-- What a central reads of a scalar. -/
theorem btReadVariable_scalar (whole : attrRead.Whole) (size : v.kind.scalarSize = some n)
    {bufLen : ℕ} (room : n ≤ bufLen) :
    btReadVariable attrRead v bufLen 0 = .ok ((n : ℤ), v.value.bytes.take n) := by
  have len := length_take_bytes size
  have read : attrRead bufLen 0 (v.value.bytes.take n) = ((n : ℤ), v.value.bytes.take n) := by
    rw [whole _ _ (by omega), len]
  cases hk : v.kind <;> simp_all [btReadVariable, ZtacxValueKind.scalarSize]

/-- A refused write, whatever the arm. -/
theorem writesPart_of_refused (beyond : n < offset + payload.length)
    (refused : btWriteVariable atoi alloc reallocs v payload offset =
      .ok (⟨v, []⟩, BT_GATT_ERR BT_ATT_ERR_INVALID_OFFSET)) :
    WritesPart attrRead atoi alloc reallocs v payload offset n := by
  unfold WritesPart
  rw [if_neg (by omega)]
  exact ⟨_, _, refused, by decide, rfl⟩

/-- A write that goes through an arm with its own `break`. -/
theorem writesPart_of_breakArm (whole : attrRead.Whole) (size : v.kind.scalarSize = some n)
    (fits : offset + payload.length ≤ n) {setter : ZtacxVariable → Except Fault SetResult}
    (sets : setter v = ztacxVariableValueSet alloc v
      (some (splice (v.value.bytes.take n) offset payload)))
    (ran : btWriteVariable atoi alloc reallocs v payload offset =
      (GattWrite.set ⟨v, []⟩ setter).bind (breakArm payload)) :
    WritesPart attrRead atoi alloc reallocs v payload offset n := by
  have hn := (ZtacxValueKind.scalarSize_le size).2
  have old : (v.value.bytes.take n).length = n := by
    rw [List.length_take, v.value.bytes_length]
    omega
  have len : (splice (v.value.bytes.take n) offset payload).length = n := by
    rw [length_splice (by omega), old]
  obtain ⟨value, stored, bytes, -⟩ := ztacxVariableValueSet_spec size alloc len
  unfold WritesPart
  rw [if_pos fits, ran]
  unfold GattWrite.set
  rw [sets, stored]
  refine ⟨_, rfl, fun bufLen room => ?_⟩
  show btReadVariable attrRead (SetResult.stored v value).setting bufLen 0 = _
  rw [btReadVariable_scalar whole (v := (SetResult.stored v value).setting) size room]
  show Except.ok ((n : ℤ), value.bytes.take n) = _
  rw [bytes, List.take_append_of_le_length len.ge, List.take_of_length_le len.le]

/-- An accepted write that falls through comes back as an error. -/
theorem not_writesPart_of_returnsError (fits : offset + payload.length ≤ n) {arm : GattExit}
    (falls : arm.ReturnsError)
    (ran : btWriteVariable atoi alloc reallocs v payload offset = arm ⟨v, []⟩) :
    ¬ WritesPart attrRead atoi alloc reallocs v payload offset n := by
  unfold WritesPart
  rw [if_pos fits, ran]
  rintro ⟨w, accepted, -⟩
  have rc : (payload.length : ℤ) = -7 := falls _ _ _ accepted
  omega

/-- A BOOL object holds 0 or 1. -/
def IsBoolObject (object : List UInt8) : Prop := ∀ b ∈ object, b = 0 ∨ b = 1

theorem boolBytes_leNat {object : List UInt8} (len : object.length = 1)
    (isBool : IsBoolObject object) : boolBytes (leNat object ≠ 0) = object := by
  obtain ⟨b, rfl⟩ := List.length_eq_one_iff.mp len
  rcases isBool b (List.mem_singleton_self b) with rfl | rfl
  · rfl
  · rfl

theorem isBoolObject_splice {object : List UInt8} (isBool : IsBoolObject object)
    (payloadBool : IsBoolObject payload) : IsBoolObject (splice object offset payload) := by
  intro b mem
  unfold splice at mem
  rcases List.mem_append.mp mem with front | back
  · rcases List.mem_append.mp front with before | written
    · exact isBool b (List.mem_of_mem_take before)
    · exact payloadBool b written
  · exact isBool b (List.mem_of_mem_drop back)

/-- The typed getter of a kind hands its arm the member's own bytes. -/
theorem getScalar_take (size : v.kind.scalarSize = some n) :
    getScalar v n = .ok (v.value.bytes.take n) ∧ (v.value.bytes.take n).length = n := by
  have hn := (ZtacxValueKind.scalarSize_le size).2
  refine ⟨getScalar_self size, ?_⟩
  rw [List.length_take, v.value.bytes_length]
  omega

/-- **An arm with its own `break` writes part of its member**, if its temporary is
the member, its setter stores the temporary, and its check refuses what does not
fit. -/
theorem writesPart_of_scalarArm (whole : attrRead.Whole) (size : v.kind.scalarSize = some n)
    {limit : ℕ} {temporary : ZtacxVariable → Except Fault (List UInt8)}
    {setter : List UInt8 → ZtacxVariable → Except Fault SetResult}
    (dispatch : btWriteVariable atoi alloc reallocs v payload offset =
      scalarArm payload offset limit temporary setter (breakArm payload) ⟨v, []⟩)
    (room : n ≤ limit) (got : temporary v = .ok (v.value.bytes.take n))
    (sets : ∀ object, object.length = n →
      object = splice (v.value.bytes.take n) offset payload →
        setter object v = ztacxVariableValueSet alloc v (some object))
    (refuses : n < offset + payload.length → limit < offset + payload.length) :
    WritesPart attrRead atoi alloc reallocs v payload offset n := by
  obtain ⟨-, len⟩ := getScalar_take size
  by_cases fits : offset + payload.length ≤ n
  · have width : (splice (v.value.bytes.take n) offset payload).length = n := by
      rw [length_splice (by omega), len]
    exact writesPart_of_breakArm whole size fits (sets _ width rfl)
      (dispatch.trans (scalarArm_copies (by omega) got (by omega)))
  · exact writesPart_of_refused (by omega)
      (dispatch.trans (scalarArm_refuses (refuses (by omega))))

theorem writesPart_bool (whole : attrRead.Whole) (kind : v.kind = .bool)
    (isBool : IsBoolObject (v.value.bytes.take 1)) (payloadBool : IsBoolObject payload) :
    WritesPart attrRead atoi alloc reallocs v payload offset 1 := by
  have size : v.kind.scalarSize = some 1 := by rw [kind]; rfl
  obtain ⟨got, len⟩ := getScalar_take size
  refine writesPart_of_scalarArm whole size (by unfold btWriteVariable; rw [kind]; rfl) le_rfl
    ?_ (fun object width same => ?_) id
  · rw [ztacxVariableValueGetBool, got]
    exact congrArg Except.ok (boolBytes_leNat len isBool)
  · have bool : IsBoolObject object := same ▸ isBoolObject_splice isBool payloadBool
    rw [ztacxVariableValueSetBool, boolBytes_leNat width bool]

theorem writesPart_uint16 (whole : attrRead.Whole) (kind : v.kind = .uint16) :
    WritesPart attrRead atoi alloc reallocs v payload offset 2 := by
  have size : v.kind.scalarSize = some 2 := by rw [kind]; rfl
  obtain ⟨got, len⟩ := getScalar_take size
  refine writesPart_of_scalarArm whole size (by unfold btWriteVariable; rw [kind]; rfl) le_rfl
    ?_ (fun object width _ => ?_) id
  · rw [ztacxVariableValueGetUint16, got]
    exact congrArg Except.ok (leBytes_toNat_ofNat (by norm_num) len)
  · rw [ztacxVariableValueSetUint16, leBytes_toNat_ofNat (by norm_num) width]

/-- The one end that passes the check of BYTE and leaves its temporary. -/
theorem writesPart_byte_iff (whole : attrRead.Whole) (kind : v.kind = .byte) :
    WritesPart attrRead atoi alloc reallocs v payload offset 1 ↔
      offset + payload.length ≠ 2 := by
  have size : v.kind.scalarSize = some 1 := by rw [kind]; rfl
  obtain ⟨got, len⟩ := getScalar_take size
  have dispatch : btWriteVariable atoi alloc reallocs v payload offset =
      byteArm alloc payload offset ⟨v, []⟩ := by unfold btWriteVariable; rw [kind]
  have temporary : ((ztacxVariableValueGetByte v).map fun x => leBytes 1 x.toNat) =
      .ok (v.value.bytes.take 1) := by
    rw [ztacxVariableValueGetByte, got]
    exact congrArg Except.ok (leBytes_toNat_ofNat (by norm_num) len)
  constructor
  · intro part slips
    unfold WritesPart at part
    rw [if_neg (by omega), dispatch, byteArm,
      scalarArm_overruns slips.le temporary (by omega)] at part
    obtain ⟨w, rc, ran, -⟩ := part
    cases ran
  · intro caught
    refine writesPart_of_scalarArm whole size dispatch (by omega) temporary
      (fun object width _ => ?_) (fun beyond => by omega)
    rw [ztacxVariableValueSetByte, leBytes_toNat_ofNat (by norm_num) width]

/-- A kind whose arm falls through gets only its refusals right. -/
theorem writesPart_fallthrough_iff {arm : GattExit} (falls : arm.ReturnsError)
    (dispatch : btWriteVariable atoi alloc reallocs v payload offset = arm ⟨v, []⟩)
    (refuses : n < offset + payload.length →
      arm ⟨v, []⟩ = .ok (⟨v, []⟩, BT_GATT_ERR BT_ATT_ERR_INVALID_OFFSET)) :
    WritesPart attrRead atoi alloc reallocs v payload offset n ↔ n < offset + payload.length := by
  constructor
  · intro part
    by_contra fits
    exact not_writesPart_of_returnsError (by omega) falls dispatch part
  · intro beyond
    exact writesPart_of_refused beyond (dispatch.trans (refuses beyond))

/-- **When `bt_write_variable` writes part of a scalar as it should**, for every
scalar kind, current value, payload and offset. -/
theorem btWriteVariable_writesPart_iff (whole : attrRead.Whole)
    (size : v.kind.scalarSize = some n)
    (isBool : v.kind = .bool → IsBoolObject (v.value.bytes.take 1) ∧ IsBoolObject payload) :
    WritesPart attrRead atoi alloc reallocs v payload offset n ↔
      WritesRight v.kind (offset + payload.length) := by
  cases kind : v.kind with
  | string => rw [kind] at size; cases size
  | event => rw [kind] at size; cases size
  | bool =>
      rw [kind] at size
      cases size
      exact iff_of_true (writesPart_bool whole kind (isBool kind).1 (isBool kind).2) trivial
  | uint16 =>
      rw [kind] at size
      cases size
      exact iff_of_true (writesPart_uint16 whole kind) trivial
  | byte =>
      rw [kind] at size
      cases size
      exact writesPart_byte_iff whole kind
  | int16 =>
      rw [kind] at size
      cases size
      exact writesPart_fallthrough_iff int16Arm_returnsError
        (by unfold btWriteVariable; rw [kind]) scalarArm_refuses
  | int32 =>
      rw [kind] at size
      cases size
      exact writesPart_fallthrough_iff int32Arm_returnsError
        (by unfold btWriteVariable; rw [kind]) scalarArm_refuses
  | int64 =>
      rw [kind] at size
      cases size
      exact writesPart_fallthrough_iff int64Arm_returnsError
        (by unfold btWriteVariable; rw [kind]) (fun beyond => if_pos beyond)

end Kinds

/-! ### An attribute server, a temperature and a switch -/

/-- `bt_gatt_attr_read` as the stack implements it. -/
def copyingAttrRead : GattAttrRead := fun bufLen offset value =>
  if value.length < offset then (BT_GATT_ERR BT_ATT_ERR_INVALID_OFFSET, [])
  else
    let chunk := (value.drop offset).take bufLen
    ((chunk.length : ℤ), chunk)

theorem copyingAttrRead_whole : copyingAttrRead.Whole := by
  intro bufLen value room
  unfold copyingAttrRead
  rw [if_neg (Nat.not_lt_zero _), List.drop_zero, List.take_of_length_le room]

/-- A variable of a scalar kind, all zero. -/
def zeroVariable (kind : ZtacxValueKind) : ZtacxVariable where
  name := .ofString "v"
  name_lt := by decide
  kind := kind
  value := .zero
  onChange := none

/-- A write of the low byte of a UINT16. -/
theorem uint16_low_byte_writesPart :
    WritesPart copyingAttrRead (fun _ => 0) true true (zeroVariable .uint16) [7] 0 2 :=
  (btWriteVariable_writesPart_iff copyingAttrRead_whole rfl
    (fun kind => by cases kind)).mpr trivial

/-- Writing all of an INT16 stores the payload and returns an error. -/
theorem int16_write_not_writesPart :
    ¬ WritesPart copyingAttrRead (fun _ => 0) true true (zeroVariable .int16) [1, 2] 0 2 := by
  rintro ⟨w, accepted, -⟩
  have ran : (btWriteVariable (fun _ => 0) true true (zeroVariable .int16) [1, 2] 0).map
      Prod.snd = .ok (-7) := by decide
  rw [accepted] at ran
  cases ran

end Ztacx
