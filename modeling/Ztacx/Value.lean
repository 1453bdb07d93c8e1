import Ztacx.CModel.Memory
import Ztacx.CModel.LittleEndian

/-!
# Values and variables

The data of `include/ztacx.h`: the kinds a value can have, the value union and
`struct ztacx_variable`, the record behind every persistent setting and every
runtime value.

## The union

`union ztacx_value` overlays a string pointer, an event pointer and the scalar
members.  A variable's kind never changes after it is registered, so a variable
uses its union either for one of the pointers or for scalars; `ZtacxValue` keeps
the three uses in three fields.  The scalar members do overlay one another here
as they do in C: they are one object of eight bytes (`bytes`), and a narrow
member is its low bytes.  That matters in `bt_write_variable`, whose switch arms
fall through from one member to the next.

A string pointer is null, the address of a string literal, or a heap block
(`StringPtr`): `free` and `realloc` are defined for a block only.
-/

namespace Ztacx

open CModel

/-! ## Error codes -/

def ENOENT : ℤ := 2
def ESRCH : ℤ := 3
def EIO : ℤ := 5
def E2BIG : ℤ := 7
def EWOULDBLOCK : ℤ := 11
def ENOMEM : ℤ := 12
def ENODEV : ℤ := 19
def EINVAL : ℤ := 22
def ENETUNREACH : ℤ := 114
def EMSGSIZE : ℤ := 122
def ENOTSUP : ℤ := 134

/-! ## Kinds -/

/-- `enum ztacx_value_kind`. -/
inductive ZtacxValueKind
  | string
  | bool
  | byte
  | uint16
  | int16
  | int32
  | int64
  | event
deriving DecidableEq, Repr

/-- `sizeof` the scalar member of a kind; the pointer kinds have none. -/
def ZtacxValueKind.scalarSize : ZtacxValueKind → Option ℕ
  | .string => none
  | .bool => some 1
  | .byte => some 1
  | .uint16 => some 2
  | .int16 => some 2
  | .int32 => some 4
  | .int64 => some 8
  | .event => none

/-- A kind without a scalar member has one of the two pointers. -/
theorem ZtacxValueKind.string_or_event {k : ZtacxValueKind} (pointer : k.scalarSize = none) :
    k = .string ∨ k = .event := by
  cases k <;> simp_all [scalarSize]

/-- A kind with a scalar member has none of them. -/
theorem ZtacxValueKind.ne_string_and_event {k : ZtacxValueKind} {n : ℕ}
    (scalar : k.scalarSize = some n) : k ≠ .string ∧ k ≠ .event := by
  constructor
  · rintro rfl
    cases scalar
  · rintro rfl
    cases scalar

/-! ## Values -/

/-- What a `char *val_string` can point at. -/
inductive StringPtr
  | null
  | literal (text : CString)
  | block (text : CString)
deriving DecidableEq, Repr

namespace StringPtr

/-- The text behind the pointer, if it is not null. -/
def text : StringPtr → Option CString
  | .null => none
  | .literal t => some t
  | .block t => some t

/-- `free(p)` behind the test `if (p)`. -/
def free : StringPtr → Except Fault Unit
  | .null => .ok ()
  | .literal _ => .error .invalidFree
  | .block _ => .ok ()

/-- Reading the text, as `strlen(p)` and `strcpy(_, p)` do. -/
def deref : StringPtr → Except Fault CString
  | .null => .error .nullDeref
  | .literal t => .ok t
  | .block t => .ok t

/-- There is something to read exactly where there is a text. -/
theorem deref_eq (p : StringPtr) : p.deref = p.text.elim (.error .nullDeref) .ok := by
  cases p <;> rfl

theorem ne_literal_of_null {p : StringPtr} (null : p = .null) (t : CString) :
    p ≠ .literal t := by
  rw [null]
  exact StringPtr.noConfusion

theorem ne_literal_of_block {p : StringPtr} {text : CString} (block : p = .block text)
    (t : CString) : p ≠ .literal t := by
  rw [block]
  exact StringPtr.noConfusion

end StringPtr

/-- The identity of a `struct k_event` and of a `struct k_work`. -/
abbrev KEventPtr := ℕ

abbrev KWorkPtr := ℕ

/-- `union ztacx_value`. -/
structure ZtacxValue where
  /-- The object the scalar members overlay. -/
  bytes : List UInt8
  bytes_length : bytes.length = 8
  valString : StringPtr
  valEvent : Option KEventPtr
deriving DecidableEq, Repr

namespace ZtacxValue

/-- The all-zero union, which a table entry without an initialiser starts with. -/
def zero : ZtacxValue where
  bytes := List.replicate 8 0
  bytes_length := rfl
  valString := .null
  valEvent := none

/-- Copy bytes into the scalar object at an offset. -/
def store (value : ZtacxValue) (off : ℕ) (src : List UInt8) : Except Fault ZtacxValue :=
  if fits : off + src.length ≤ value.bytes.length then
    .ok { value with
      bytes := splice value.bytes off src
      bytes_length := by rw [length_splice fits, value.bytes_length] }
  else .error .outOfBounds

/-- `val_bool`. -/
def valBool (value : ZtacxValue) : Bool := leNat (value.bytes.take 1) ≠ 0

/-- `val_uint16`. -/
def valUint16 (value : ZtacxValue) : BitVec 16 := BitVec.ofNat 16 (leNat (value.bytes.take 2))

theorem store_of_le (value : ZtacxValue) {off : ℕ} {src : List UInt8}
    (fits : off + src.length ≤ 8) :
    ∃ value', value.store off src = .ok value' ∧
      value'.bytes = splice value.bytes off src ∧ value'.valString = value.valString := by
  rw [← value.bytes_length] at fits
  exact ⟨_, dif_pos fits, rfl, rfl⟩

end ZtacxValue

/-! ## Variables -/

def CONFIG_ZTACX_VALUE_NAME_MAX : ℕ := 40

/-- `struct ztacx_variable`.  The name array holds a terminated text, which
leaves room for at most 39 characters. -/
structure ZtacxVariable where
  name : CString
  name_lt : name.strlen < CONFIG_ZTACX_VALUE_NAME_MAX
  kind : ZtacxValueKind
  value : ZtacxValue
  onChange : Option KWorkPtr
deriving DecidableEq, Repr

/-- What the value of a variable is, by its kind: the text of a string, the
bytes of the scalar member, the event object. -/
inductive TypedValue
  | text (t : Option CString)
  | scalar (member : List UInt8)
  | event (e : Option KEventPtr)
deriving DecidableEq, Repr

/-- The member of the union that the kind selects. -/
def ZtacxVariable.typedValue (v : ZtacxVariable) : TypedValue :=
  match v.kind with
  | .string => .text v.value.valString.text
  | .event => .event v.value.valEvent
  | k => .scalar (v.value.bytes.take (k.scalarSize.getD 0))

theorem ZtacxVariable.typedValue_of_string {v : ZtacxVariable} (h : v.kind = .string) :
    v.typedValue = .text v.value.valString.text := by
  simp [typedValue, h]

theorem ZtacxVariable.typedValue_of_scalar {v : ZtacxVariable} {n : ℕ}
    (h : v.kind.scalarSize = some n) : v.typedValue = .scalar (v.value.bytes.take n) := by
  cases hk : v.kind <;> simp_all [typedValue, ZtacxValueKind.scalarSize]

/-- The variable with another string pointer. -/
def ZtacxVariable.withString (v : ZtacxVariable) (p : StringPtr) : ZtacxVariable :=
  { v with value := { v.value with valString := p } }

namespace ZtacxVariable

@[simp] theorem withString_name (v : ZtacxVariable) (p : StringPtr) :
    (v.withString p).name = v.name := rfl

@[simp] theorem withString_kind (v : ZtacxVariable) (p : StringPtr) :
    (v.withString p).kind = v.kind := rfl

@[simp] theorem withString_onChange (v : ZtacxVariable) (p : StringPtr) :
    (v.withString p).onChange = v.onChange := rfl

@[simp] theorem withString_valString (v : ZtacxVariable) (p : StringPtr) :
    (v.withString p).value.valString = p := rfl

@[simp] theorem withString_withString (v : ZtacxVariable) (p q : StringPtr) :
    (v.withString p).withString q = v.withString q := rfl

theorem typedValue_withString {v : ZtacxVariable} (kind : v.kind = .string) (p : StringPtr) :
    (v.withString p).typedValue = .text p.text :=
  typedValue_of_string (v := v.withString p) kind

end ZtacxVariable

end Ztacx
