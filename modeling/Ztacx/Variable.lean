import Mathlib.Data.BitVec
import Ztacx.Value

/-!
# Setting and reading variables

`ztacx_variable_value_set`, `ztacx_variable_value_set_string`,
`ztacx_variable_value_get` and their typed wrappers, from `src/ztacx.c`.

A setter returns the variable it leaves behind, the `on_change` work it
submitted and its return code (`SetResult`).  Whether `calloc` succeeds is an
input (`alloc`), and so is the C library's `atoi`, whose result on text that
does not denote an `int` the C standard leaves open.

The scalar kinds differ only in the width of their member, so their switch arms
are one definition each for writing (`setScalar`), reading (`getScalar`) and
parsing (`intBytes`), applied to the width the arm uses.
-/

namespace Ztacx

open CModel

/-- What a setter leaves behind. -/
structure SetResult where
  setting : ZtacxVariable
  submitted : Option KWorkPtr
  rc : ℤ
deriving DecidableEq, Repr

/-! ## Setting -/

/-- The end of `ztacx_variable_value_set`: the value is stored, and `on_change`
is submitted if there is one. -/
def SetResult.stored (setting : ZtacxVariable) (value : ZtacxValue) : SetResult where
  setting := { setting with value := value }
  submitted := setting.onChange
  rc := 0

/-- An arm `setting->value.val_T = *(T *)value` with `sizeof(T) = n`. -/
def setScalar (setting : ZtacxVariable) (n : ℕ) (object : List UInt8) :
    Except Fault SetResult :=
  if n ≤ object.length then
    (setting.value.store 0 (object.take n)).map (SetResult.stored setting)
  else .error .outOfBounds

/-- `ztacx_variable_value_set`.  `value` is the object the pointer addresses,
`none` the null pointer. -/
def ztacxVariableValueSet (alloc : Bool) (setting : ZtacxVariable)
    (value : Option (List UInt8)) : Except Fault SetResult :=
  match value with
  | none => .ok ⟨setting, none, 0⟩
  | some object =>
    match setting.kind with
    | .string =>
      (readCString object).bind fun text =>
        if alloc then
          -- the copy is in place before the old string is freed
          setting.value.valString.free.map fun _ =>
            SetResult.stored setting { setting.value with valString := .block text }
        else .ok ⟨setting, none, -ENOMEM⟩
    | .bool => setScalar setting 1 object
    | .byte => setScalar setting 1 object
    | .uint16 => setScalar setting 2 object
    | .int16 => setScalar setting 2 object
    | .int32 => setScalar setting 4 object
    | .int64 => setScalar setting 8 object
    | .event => .ok ⟨setting, none, -EINVAL⟩

/-- The bytes of an `int` converted to an integer type of `n ≤ 8` bytes. -/
def intBytes (n : ℕ) (x : BitVec 32) : List UInt8 :=
  leBytes n (x.signExtend 64).toNat

/-- The byte of a `bool`. -/
def boolBytes (b : Bool) : List UInt8 := [if b then 1 else 0]

/-- `ztacx_variable_value_set_string` on a variable that is not null.  The
return code of `ztacx_variable_value_set` is ignored. -/
def ztacxVariableValueSetString (atoi : CString → BitVec 32) (alloc : Bool)
    (s : ZtacxVariable) (value : Option CString) : Except Fault SetResult :=
  let set (object : Option (List UInt8)) : Except Fault SetResult :=
    (ztacxVariableValueSet alloc s object).map fun r => { r with rc := 0 }
  let parse (convert : CString → List UInt8) : Except Fault SetResult :=
    match value with
    | none => .error .nullDeref
    | some text => set (some (convert text))
  match s.kind with
  | .string => set (value.map CString.stored)
  | .bool => parse fun text =>
      boolBytes (text = .ofString "true" ∨ text = .ofString "on" ∨ text = .ofString "1")
  | .byte => parse fun text => intBytes 1 (atoi text)
  | .uint16 => parse fun text => intBytes 2 (atoi text)
  | .int16 => parse fun text => intBytes 2 (atoi text)
  | .int32 => parse fun text => intBytes 4 (atoi text)
  | .int64 => parse fun text => intBytes 8 (atoi text)
  | .event => .ok ⟨s, none, -EINVAL⟩

/-- The value a text stands for, by kind. -/
def parsedValue (atoi : CString → BitVec 32) (kind : ZtacxValueKind) (text : CString) :
    Option TypedValue :=
  match kind with
  | .string => some (.text (some text))
  | .bool => some (.scalar
      (boolBytes (text = .ofString "true" ∨ text = .ofString "on" ∨ text = .ofString "1")))
  | .event => none
  | k => k.scalarSize.map fun n => .scalar (intBytes n (atoi text))

def ztacxVariableValueSetBool (alloc : Bool) (v : ZtacxVariable) (value : Bool) :=
  ztacxVariableValueSet alloc v (some (boolBytes value))

def ztacxVariableValueSetByte (alloc : Bool) (v : ZtacxVariable) (value : BitVec 8) :=
  ztacxVariableValueSet alloc v (some (leBytes 1 value.toNat))

def ztacxVariableValueSetUint16 (alloc : Bool) (v : ZtacxVariable) (value : BitVec 16) :=
  ztacxVariableValueSet alloc v (some (leBytes 2 value.toNat))

def ztacxVariableValueSetInt16 (alloc : Bool) (v : ZtacxVariable) (value : BitVec 16) :=
  ztacxVariableValueSet alloc v (some (leBytes 2 value.toNat))

def ztacxVariableValueSetInt32 (alloc : Bool) (v : ZtacxVariable) (value : BitVec 32) :=
  ztacxVariableValueSet alloc v (some (leBytes 4 value.toNat))

def ztacxVariableValueSetInt64 (alloc : Bool) (v : ZtacxVariable) (value : BitVec 64) :=
  ztacxVariableValueSet alloc v (some (leBytes 8 value.toNat))

/-! ## Reading -/

/-- What `ztacx_variable_value_get` writes at the start of the caller's buffer,
and its return code.  The scalar arms write the whole member, whatever
`value_size` says; `strncpy` pads with NUL up to `value_size`. -/
def ztacxVariableValueGet (v : ZtacxVariable) (valueSize : ℤ) :
    Except Fault (List UInt8 × ℤ) :=
  match v.kind with
  | .string =>
    if valueSize < 1 then .ok ([], -E2BIG)
    else
      v.value.valString.deref.map fun text =>
        if valueSize ≤ text.strlen then ([], -E2BIG)
        else (text.bytes ++ List.replicate (valueSize.toNat - text.strlen) 0, 0)
  | .bool => .ok (v.value.bytes.take 1, 0)
  | .byte => .ok (v.value.bytes.take 1, 0)
  | .uint16 => .ok (v.value.bytes.take 2, 0)
  | .int16 => .ok (v.value.bytes.take 2, 0)
  | .int32 => .ok (v.value.bytes.take 4, 0)
  | .int64 => .ok (v.value.bytes.take 8, 0)
  | .event => .ok ([], -EINVAL)

/-- A typed getter: a zeroed local of `n` bytes, handed to
`ztacx_variable_value_get`.  A failure is logged and otherwise ignored. -/
def getScalar (v : ZtacxVariable) (n : ℕ) : Except Fault (List UInt8) :=
  (ztacxVariableValueGet v n).bind fun written =>
    memcpyInto (List.replicate n 0) 0 written.1

def ztacxVariableValueGetBool (v : ZtacxVariable) : Except Fault Bool :=
  (getScalar v 1).map fun object => leNat object ≠ 0

def ztacxVariableValueGetByte (v : ZtacxVariable) : Except Fault (BitVec 8) :=
  (getScalar v 1).map fun object => BitVec.ofNat 8 (leNat object)

def ztacxVariableValueGetUint16 (v : ZtacxVariable) : Except Fault (BitVec 16) :=
  (getScalar v 2).map fun object => BitVec.ofNat 16 (leNat object)

def ztacxVariableValueGetInt16 (v : ZtacxVariable) : Except Fault (BitVec 16) :=
  (getScalar v 2).map fun object => BitVec.ofNat 16 (leNat object)

def ztacxVariableValueGetInt32 (v : ZtacxVariable) : Except Fault (BitVec 32) :=
  (getScalar v 4).map fun object => BitVec.ofNat 32 (leNat object)

def ztacxVariableValueGetInt64 (v : ZtacxVariable) : Except Fault (BitVec 64) :=
  (getScalar v 8).map fun object => BitVec.ofNat 64 (leNat object)

/-- `ztacx_variable_value_inc_int64`. -/
def ztacxVariableValueIncInt64 (alloc : Bool) (v : ZtacxVariable) : Except Fault SetResult :=
  (ztacxVariableValueGetInt64 v).bind fun old => ztacxVariableValueSetInt64 alloc v (old + 1)

/-! ## What the scalar arms do -/

section Scalar

variable {v : ZtacxVariable} {n : ℕ}

theorem ZtacxValueKind.scalarSize_le {k : ZtacxValueKind} (h : k.scalarSize = some n) :
    0 < n ∧ n ≤ 8 := by
  cases k <;> simp only [scalarSize, Option.some.injEq, reduceCtorEq] at h <;> omega

/-- A scalar arm stores the first `n` bytes of the object it is given. -/
theorem setScalar_of_le {object : List UInt8} (hn : n ≤ 8) (len : object.length = n) :
    ∃ value', setScalar v n object = .ok (SetResult.stored v value') ∧
      value'.bytes = object ++ v.value.bytes.drop n ∧
      value'.valString = v.value.valString := by
  obtain ⟨value', stored, bytes, str⟩ :=
    v.value.store_of_le (show 0 + object.length ≤ 8 by omega)
  refine ⟨value', ?_, ?_, str⟩
  · rw [setScalar, if_pos (by omega), ← len, List.take_length, stored]
    rfl
  · rw [bytes, splice_zero, len]

theorem ztacxVariableValueSet_scalar (h : v.kind.scalarSize = some n) (alloc : Bool)
    (object : List UInt8) :
    ztacxVariableValueSet alloc v (some object) = setScalar v n object := by
  cases hk : v.kind <;> simp_all [ztacxVariableValueSet, ZtacxValueKind.scalarSize]

/-- What setting a scalar did, if it went through. -/
theorem ztacxVariableValueSet_scalar_eq_ok {alloc : Bool} {object : List UInt8} {r : SetResult}
    (h : v.kind.scalarSize = some n)
    (ran : ztacxVariableValueSet alloc v (some object) = .ok r) :
    ∃ value, r = SetResult.stored v value ∧ value.bytes.take n = object.take n := by
  rw [ztacxVariableValueSet_scalar h, setScalar] at ran
  split at ran
  · rename_i inside
    obtain ⟨value, stored, rfl⟩ := map_eq_ok_iff.mp ran
    have len : (object.take n).length = n := List.length_take_of_le inside
    have hn := (ZtacxValueKind.scalarSize_le h).2
    obtain ⟨value', stored', bytes, -⟩ :=
      v.value.store_of_le (show 0 + (object.take n).length ≤ 8 by omega)
    cases stored.symm.trans stored'
    refine ⟨value, rfl, ?_⟩
    rw [bytes, splice_zero, List.take_append_of_le_length len.ge, List.take_of_length_le len.le]
  · cases ran

/-- Setting a scalar from an object of its own width succeeds, stores the
object and touches nothing else. -/
theorem ztacxVariableValueSet_spec (h : v.kind.scalarSize = some n) (alloc : Bool)
    {object : List UInt8} (len : object.length = n) :
    ∃ value', ztacxVariableValueSet alloc v (some object) =
        .ok (SetResult.stored v value') ∧
      value'.bytes = object ++ v.value.bytes.drop n ∧
      value'.valString = v.value.valString := by
  rw [ztacxVariableValueSet_scalar h]
  exact setScalar_of_le (ZtacxValueKind.scalarSize_le h).2 len

/-- A text given to a scalar is parsed and stored. -/
theorem ztacxVariableValueSetString_scalar (atoi : CString → BitVec 32)
    (h : v.kind.scalarSize = some n) (alloc : Bool) (text : CString) :
    ∃ member value, parsedValue atoi v.kind text = some (.scalar member) ∧
      value.bytes.take n = member ∧
      ztacxVariableValueSetString atoi alloc v (some text) = .ok (SetResult.stored v value) := by
  have stores : ∀ member : List UInt8, member.length = n →
      ∃ value, value.bytes.take n = member ∧
        (ztacxVariableValueSet alloc v (some member)).map (fun r => { r with rc := 0 }) =
          .ok (SetResult.stored v value) := by
    intro member len
    obtain ⟨value, stored, bytes, -⟩ := ztacxVariableValueSet_spec h alloc len
    refine ⟨value, ?_, by rw [stored]; rfl⟩
    rw [bytes, List.take_append_of_le_length len.ge, List.take_of_length_le len.le]
  cases hk : v.kind with
  | string => rw [hk] at h; cases h
  | event => rw [hk] at h; cases h
  | bool =>
      rw [hk] at h
      cases h
      obtain ⟨value, member, stored⟩ := stores (boolBytes
        (text = .ofString "true" ∨ text = .ofString "on" ∨ text = .ofString "1")) rfl
      exact ⟨_, value, rfl, member, by simp only [ztacxVariableValueSetString, hk]; exact stored⟩
  | _ =>
      rw [hk] at h
      cases h
      obtain ⟨value, member, stored⟩ := stores (intBytes _ (atoi text)) (length_leBytes _ _)
      exact ⟨_, value, rfl, member, by simp only [ztacxVariableValueSetString, hk]; exact stored⟩

theorem ztacxVariableValueGet_scalar (h : v.kind.scalarSize = some n) (valueSize : ℤ) :
    ztacxVariableValueGet v valueSize = .ok (v.value.bytes.take n, 0) := by
  cases hk : v.kind <;> simp_all [ztacxVariableValueGet, ZtacxValueKind.scalarSize]

theorem length_take_bytes (h : v.kind.scalarSize = some n) :
    (v.value.bytes.take n).length = n := by
  have hn := (ZtacxValueKind.scalarSize_le h).2
  rw [List.length_take, v.value.bytes_length]
  omega

/-- A typed getter copies the member over a cleared variable of its own width. -/
theorem getScalar_eq_memcpyInto (h : v.kind.scalarSize = some n) (m : ℕ) :
    getScalar v m = memcpyInto (List.replicate m 0) 0 (v.value.bytes.take n) := by
  rw [getScalar, ztacxVariableValueGet_scalar h]
  rfl

/-- A typed getter at least as wide as the member reads the member, and zeros
above it. -/
theorem getScalar_of_le (h : v.kind.scalarSize = some n) {m : ℕ} (hm : n ≤ m) :
    getScalar v m = .ok (v.value.bytes.take n ++ List.replicate (m - n) 0) := by
  have len := length_take_bytes h
  rw [getScalar_eq_memcpyInto h, memcpyInto_of_le (by rw [List.length_replicate, len]; omega),
    splice_zero, len, List.drop_replicate]

/-- A typed getter narrower than the member is overrun. -/
theorem getScalar_of_lt (h : v.kind.scalarSize = some n) {m : ℕ} (hm : m < n) :
    getScalar v m = .error .outOfBounds := by
  rw [getScalar_eq_memcpyInto h]
  exact memcpyInto_of_lt (by rw [List.length_replicate, length_take_bytes h]; omega)

/-- A typed getter of the member's own width reads the member. -/
theorem getScalar_self (h : v.kind.scalarSize = some n) :
    getScalar v n = .ok (v.value.bytes.take n) := by
  rw [getScalar_of_le h le_rfl]
  simp

end Scalar

/-! ## What the setters leave alone -/

section Same

variable {alloc : Bool} {v : ZtacxVariable} {r : SetResult}

/-- Only the value of the variable changes. -/
theorem ztacxVariableValueSet_same {object : Option (List UInt8)}
    (ran : ztacxVariableValueSet alloc v object = .ok r) :
    r.setting.name = v.name ∧ r.setting.kind = v.kind := by
  have scalar : ∀ n object, setScalar v n object = .ok r →
      r.setting.name = v.name ∧ r.setting.kind = v.kind := by
    intro n object ran
    unfold setScalar at ran
    split at ran
    · obtain ⟨value, -, rfl⟩ := map_eq_ok_iff.mp ran
      exact ⟨rfl, rfl⟩
    · cases ran
  cases object with
  | none =>
      cases ran
      exact ⟨rfl, rfl⟩
  | some object =>
      cases hk : v.kind with
      | string =>
          simp only [ztacxVariableValueSet, hk] at ran
          obtain ⟨text, -, ran⟩ := bind_eq_ok_iff.mp ran
          cases alloc with
          | false =>
              cases ran
              exact ⟨rfl, hk⟩
          | true =>
              obtain ⟨_, -, rfl⟩ := map_eq_ok_iff.mp ran
              exact ⟨rfl, hk⟩
      | event =>
          simp only [ztacxVariableValueSet, hk, Except.ok.injEq] at ran
          rw [← ran]
          exact ⟨rfl, hk⟩
      | _ =>
          rw [← hk]
          simp only [ztacxVariableValueSet, hk] at ran
          exact scalar _ _ ran

/-- What a text does to a variable, kind by kind: nothing but an error, or the
setter with some object. -/
theorem ztacxVariableValueSetString_eq_ok {atoi : CString → BitVec 32} {text : CString}
    (ran : ztacxVariableValueSetString atoi alloc v (some text) = .ok r) :
    (v.kind = .event ∧ r = ⟨v, none, -EINVAL⟩) ∨
      v.kind ≠ .event ∧ ∃ object set, ztacxVariableValueSet alloc v (some object) = .ok set ∧
        r = { set with rc := 0 } ∧ (v.kind = .string → object = text.stored) := by
  cases hk : v.kind with
  | event =>
      simp only [ztacxVariableValueSetString, hk, Except.ok.injEq] at ran
      exact .inl ⟨rfl, ran.symm⟩
  | string =>
      simp only [ztacxVariableValueSetString, hk] at ran
      obtain ⟨set, ok, rfl⟩ := map_eq_ok_iff.mp ran
      exact .inr ⟨by decide, _, set, ok, rfl, fun _ => rfl⟩
  | _ =>
      simp only [ztacxVariableValueSetString, hk] at ran
      obtain ⟨set, ok, rfl⟩ := map_eq_ok_iff.mp ran
      exact .inr ⟨by decide, _, set, ok, rfl, fun string => by cases string⟩

/-- What `ztacx_variable_value_set` does with a text for a STRING variable. -/
theorem ztacxVariableValueSet_text (kind : v.kind = .string) (text : CString) :
    ztacxVariableValueSet alloc v (some text.stored) =
      if alloc then
        v.value.valString.free.map fun _ => ⟨v.withString (.block text), v.onChange, 0⟩
      else .ok ⟨v, none, -ENOMEM⟩ := by
  simp only [ztacxVariableValueSet, kind, readCString_stored]
  rfl

/-- A text given to a STRING variable replaces the string, if there is memory. -/
theorem ztacxVariableValueSet_string (kind : v.kind = .string) {text : CString}
    (ran : ztacxVariableValueSet alloc v (some text.stored) = .ok r) :
    r.setting.value.valString = if alloc then .block text else v.value.valString := by
  rw [ztacxVariableValueSet_text kind] at ran
  cases alloc with
  | false =>
      cases ran
      rfl
  | true =>
      obtain ⟨_, -, rfl⟩ := map_eq_ok_iff.mp ran
      rfl

/-- What a text does to a STRING variable: with memory it replaces the string,
and without it the failure goes unreported. -/
theorem ztacxVariableValueSetString_text {atoi : CString → BitVec 32} (kind : v.kind = .string)
    (text : CString) : ztacxVariableValueSetString atoi alloc v (some text) =
      if alloc then
        v.value.valString.free.map fun _ => ⟨v.withString (.block text), v.onChange, 0⟩
      else .ok ⟨v, none, 0⟩ := by
  simp only [ztacxVariableValueSetString, kind, Option.map_some, ztacxVariableValueSet_text kind]
  cases alloc with
  | false => rfl
  | true =>
      cases h : v.value.valString.free with
      | error fault => rfl
      | ok _ => rfl

end Same

/-! ## Variables of a fixed kind

A module's own table fixes the kind of each entry at compile time.  A
`ScalarVariable k` is such an entry: its setters and getters cannot fail, and
`setMember_eq` and the lemmas `get_eq` say that they are the functions above. -/

/-- A table entry of a scalar kind, without an initialiser. -/
def ZtacxVariable.entry (name : String) (kind : ZtacxValueKind)
    (name_lt : (CString.ofString name).strlen < CONFIG_ZTACX_VALUE_NAME_MAX) :
    ZtacxVariable where
  name := .ofString name
  name_lt := name_lt
  kind := kind
  value := .zero
  onChange := none

/-- A variable whose kind is `k`. -/
structure ScalarVariable (k : ZtacxValueKind) where
  toVariable : ZtacxVariable
  kind_eq : toVariable.kind = k

namespace ScalarVariable

variable {k : ZtacxValueKind} {n : ℕ}

/-- The variable with another member. -/
def setMember (hk : k.scalarSize = some n) (v : ScalarVariable k) (object : List UInt8)
    (len : object.length = n) : ScalarVariable k where
  toVariable := { v.toVariable with
    value := { v.toVariable.value with
      bytes := object ++ v.toVariable.value.bytes.drop n
      bytes_length := by
        have := (ZtacxValueKind.scalarSize_le hk).2
        rw [List.length_append, List.length_drop, v.toVariable.value.bytes_length]
        omega } }
  kind_eq := v.kind_eq

/-- `setMember` is `ztacx_variable_value_set` on such a variable. -/
theorem setMember_eq (hk : k.scalarSize = some n) (v : ScalarVariable k) (alloc : Bool)
    {object : List UInt8} (len : object.length = n) :
    ztacxVariableValueSet alloc v.toVariable (some object) =
      .ok ⟨(v.setMember hk object len).toVariable, v.toVariable.onChange, 0⟩ := by
  have hn := (ZtacxValueKind.scalarSize_le hk).2
  have fits : 0 + object.length ≤ v.toVariable.value.bytes.length := by
    rw [v.toVariable.value.bytes_length]
    omega
  subst len
  rw [ztacxVariableValueSet_scalar (v.kind_eq ▸ hk), setScalar, if_pos le_rfl,
    List.take_length, ZtacxValue.store, dif_pos fits]
  simp [Except.map, SetResult.stored, setMember, splice_zero]

/-- The member is what it was set to. -/
theorem take_setMember (hk : k.scalarSize = some n) (v : ScalarVariable k) {object : List UInt8}
    (len : object.length = n) :
    (v.setMember hk object len).toVariable.value.bytes.take n = object := by
  subst len
  exact List.take_left

/-- A typed getter of the entry's own width. -/
theorem getScalar_eq (hk : k.scalarSize = some n) (v : ScalarVariable k) :
    getScalar v.toVariable n = .ok (v.toVariable.value.bytes.take n) := by
  refine getScalar_self ?_
  rw [v.kind_eq, hk]

end ScalarVariable

/-- An entry of kind BOOL. -/
abbrev BoolVariable := ScalarVariable .bool

/-- An entry of kind BYTE. -/
abbrev ByteVariable := ScalarVariable .byte

/-- An entry of kind UINT16. -/
abbrev Uint16Variable := ScalarVariable .uint16

/-- An entry of kind INT16. -/
abbrev Int16Variable := ScalarVariable .int16

/-- An entry of kind INT32. -/
abbrev Int32Variable := ScalarVariable .int32

/-- An entry of kind INT64. -/
abbrev Int64Variable := ScalarVariable .int64

namespace BoolVariable

/-- `ztacx_variable_value_get_bool`. -/
def get (v : BoolVariable) : Bool := leNat (v.toVariable.value.bytes.take 1) ≠ 0

/-- `ztacx_variable_value_set_bool`. -/
def set (v : BoolVariable) (value : Bool) : BoolVariable :=
  v.setMember rfl (boolBytes value) rfl

/-- A table entry with its initialiser. -/
def entry (name : String)
    (name_lt : (CString.ofString name).strlen < CONFIG_ZTACX_VALUE_NAME_MAX) (value : Bool) :
    BoolVariable :=
  set ⟨.entry name .bool name_lt, rfl⟩ value

theorem get_eq (v : BoolVariable) : ztacxVariableValueGetBool v.toVariable = .ok v.get := by
  have hk : v.toVariable.kind.scalarSize = some 1 := by rw [v.kind_eq]; rfl
  rw [ztacxVariableValueGetBool, getScalar_self hk]
  rfl

@[simp] theorem get_set (v : BoolVariable) (value : Bool) : (v.set value).get = value := by
  cases value <;> simp [get, set, ScalarVariable.setMember, boolBytes, leNat]

end BoolVariable

namespace ByteVariable

/-- `value.val_byte`. -/
def get (v : ByteVariable) : UInt8 := v.toVariable.value.bytes.headD 0

/-- `ztacx_variable_value_set_byte`. -/
def set (v : ByteVariable) (value : UInt8) : ByteVariable := v.setMember rfl [value] rfl

@[simp] theorem get_set (v : ByteVariable) (value : UInt8) : (v.set value).get = value := rfl

end ByteVariable

namespace Uint16Variable

/-- `value.val_uint16`. -/
def get (v : Uint16Variable) : BitVec 16 :=
  BitVec.ofNat 16 (leNat (v.toVariable.value.bytes.take 2))

/-- `ztacx_variable_value_set_uint16`. -/
def set (v : Uint16Variable) (value : BitVec 16) : Uint16Variable :=
  v.setMember rfl (leBytes 2 value.toNat) (length_leBytes 2 _)

/-- A table entry with its initialiser. -/
def entry (name : String)
    (name_lt : (CString.ofString name).strlen < CONFIG_ZTACX_VALUE_NAME_MAX)
    (value : BitVec 16) : Uint16Variable :=
  set ⟨.entry name .uint16 name_lt, rfl⟩ value

theorem get_eq (v : Uint16Variable) : ztacxVariableValueGetUint16 v.toVariable = .ok v.get := by
  rw [ztacxVariableValueGetUint16, v.getScalar_eq rfl]
  rfl

@[simp] theorem get_set (v : Uint16Variable) (value : BitVec 16) : (v.set value).get = value := by
  have member := v.take_setMember (n := 2) rfl (length_leBytes 2 value.toNat)
  exact (congrArg (fun m => BitVec.ofNat 16 (leNat m)) member).trans
    (ofNat_leNat_leBytes rfl value)

end Uint16Variable

namespace Int16Variable

/-- `ztacx_variable_value_get_int16`. -/
def get (v : Int16Variable) : BitVec 16 :=
  BitVec.ofNat 16 (leNat (v.toVariable.value.bytes.take 2))

/-- `ztacx_variable_value_set_int16`. -/
def set (v : Int16Variable) (value : BitVec 16) : Int16Variable :=
  v.setMember rfl (leBytes 2 value.toNat) (length_leBytes 2 _)

/-- A table entry with its initialiser. -/
def entry (name : String)
    (name_lt : (CString.ofString name).strlen < CONFIG_ZTACX_VALUE_NAME_MAX)
    (value : BitVec 16) : Int16Variable :=
  set ⟨.entry name .int16 name_lt, rfl⟩ value

theorem get_eq (v : Int16Variable) : ztacxVariableValueGetInt16 v.toVariable = .ok v.get := by
  rw [ztacxVariableValueGetInt16, v.getScalar_eq rfl]
  rfl

@[simp] theorem get_set (v : Int16Variable) (value : BitVec 16) : (v.set value).get = value := by
  have member := v.take_setMember (n := 2) rfl (length_leBytes 2 value.toNat)
  exact (congrArg (fun m => BitVec.ofNat 16 (leNat m)) member).trans
    (ofNat_leNat_leBytes rfl value)

end Int16Variable

namespace Int32Variable

/-- `ztacx_variable_value_get_int32`. -/
def get (v : Int32Variable) : BitVec 32 :=
  BitVec.ofNat 32 (leNat (v.toVariable.value.bytes.take 4))

/-- `ztacx_variable_value_set_int32`. -/
def set (v : Int32Variable) (value : BitVec 32) : Int32Variable :=
  v.setMember rfl (leBytes 4 value.toNat) (length_leBytes 4 _)

/-- A table entry with its initialiser. -/
def entry (name : String)
    (name_lt : (CString.ofString name).strlen < CONFIG_ZTACX_VALUE_NAME_MAX)
    (value : BitVec 32) : Int32Variable :=
  set ⟨.entry name .int32 name_lt, rfl⟩ value

theorem get_eq (v : Int32Variable) : ztacxVariableValueGetInt32 v.toVariable = .ok v.get := by
  rw [ztacxVariableValueGetInt32, v.getScalar_eq rfl]
  rfl

@[simp] theorem get_set (v : Int32Variable) (value : BitVec 32) : (v.set value).get = value := by
  have member := v.take_setMember (n := 4) rfl (length_leBytes 4 value.toNat)
  exact (congrArg (fun m => BitVec.ofNat 32 (leNat m)) member).trans
    (ofNat_leNat_leBytes rfl value)

end Int32Variable

namespace Int64Variable

/-- `ztacx_variable_value_get_int64`. -/
def get (v : Int64Variable) : BitVec 64 :=
  BitVec.ofNat 64 (leNat (v.toVariable.value.bytes.take 8))

/-- `ztacx_variable_value_set_int64`. -/
def set (v : Int64Variable) (value : BitVec 64) : Int64Variable :=
  v.setMember rfl (leBytes 8 value.toNat) (length_leBytes 8 _)

end Int64Variable

end Ztacx
