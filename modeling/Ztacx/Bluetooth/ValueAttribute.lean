import Ztacx.CModel.LittleEndian
import Ztacx.Bluetooth.Characteristic
import Ztacx.Bluetooth.Gatt

/-!
# The way from an attribute to its variable

Both GATT callbacks start with `*(struct ztacx_variable **)(attr->user_data)`: they
expect the address of a cell that holds the address of the variable.  There are
two ways of building a value attribute, and they disagree about that.

* `ZTACX_BT_CHAR` takes a pointer variable and stores *its* address.
* `ztacx_bt_characteristic_register` reads the pointer variable and stores what it
  holds, the address of the `struct ztacx_variable` itself.

So the second kind of attribute is dereferenced once too often, and what is taken
for an address is the first bytes of the variable, which are those of its name
(`resolves_to_name`).  `valueAttribute_resolves_iff` says when a callback still
arrives at its variable: always for a static attribute, and for a dynamic one
only if those bytes happen to be the variable's own address.

Addresses are numbers and memory is a function from addresses to bytes; a pointer
is `ptrSize` bytes, least significant first.
-/

namespace Ztacx

open CModel

/-- The pointer stored at an address. -/
def loadPtr (ptrSize : ℕ) (bytes : ℕ → UInt8) (a : ℕ) : ℕ :=
  leNat ((List.range ptrSize).map fun i => bytes (a + i))

/-! ## The two ways of building an attribute -/

/-- `ZTACX_BT_CHAR`; `cell` is the address of the pointer variable `_val`. -/
def ZTACX_BT_CHAR (cell : ℕ) (uuid : BtUuid) (props perms : UInt8) (fmt : BtGattCpf)
    (desc : CString) : List BtGattAttr :=
  let charAttrs := BT_GATT_CHARACTERISTIC uuid props perms cell
  [charAttrs.1, charAttrs.2, BT_GATT_CUD desc BT_GATT_PERM_READ, BT_GATT_CPF fmt]

inductive AttrOrigin
  | static
  | dynamic
deriving DecidableEq, Repr

/-- **A value attribute bound to the variable at `v`**, and how it was built.
The pointer variable of a static attribute holds `v` while the attribute is in
use; that of a dynamic one held it when the characteristic was registered, after
the entries `before` it in its table. -/
inductive BoundTo (ptrSize : ℕ) (bytes : ℕ → UInt8) (v : VariableAddr) :
    AttrOrigin → BtGattAttr → Prop
  | declared {cell uuid props perms fmt desc attr} (holds : loadPtr ptrSize bytes cell = v)
      (slot : (ZTACX_BT_CHAR cell uuid props perms fmt desc)[1]? = some attr) :
      BoundTo ptrSize bytes v .static attr
  | registered {env : RegisterEnv} {s t u : BtGattService} {rc : ℤ}
      {before after : List ZtacxBtCharacteristic} {c : ZtacxBtCharacteristic} {attr}
      (holds : c.v = some v)
      (unregisters : ¬ (s.registered = true ∧ env.unregisterRc ≠ 0)) (alloc : env.alloc = true)
      (reached : registerEach env.memory
        (({ s with registered := false } : BtGattService).allocate
          (attrsNeeded (before ++ c :: after))) before = .ok (u, 0))
      (ran : ztacxBtCharacteristicRegister env s (before ++ c :: after) = .ok (t, rc))
      (slot : t.attrs[u.attrCount + 1]? = some (.attr attr)) :
      BoundTo ptrSize bytes v .dynamic attr

/-! ## The callbacks -/

/-- `*(struct ztacx_variable **)(attr->user_data)`, for an attribute whose
`user_data` is that of a value. -/
def attrVariable (ptrSize : ℕ) (bytes : ℕ → UInt8) (attr : BtGattAttr) : Option VariableAddr :=
  match attr.userData with
  | .value a => some (loadPtr ptrSize bytes a)
  | _ => none

/-- A GATT read that arrives at an attribute. -/
def btReadAttr (ptrSize : ℕ) (bytes : ℕ → UInt8) (memory : VariableAddr → ZtacxVariable)
    (attrRead : GattAttrRead) (attr : BtGattAttr) (len offset : ℕ) :
    Option (Except Fault (ℤ × List UInt8)) :=
  (attrVariable ptrSize bytes attr).map fun v => btReadVariable attrRead (memory v) len offset

/-- A GATT write that arrives at an attribute, and the variables it leaves. -/
def btWriteAttr (ptrSize : ℕ) (bytes : ℕ → UInt8) (memory : VariableAddr → ZtacxVariable)
    (atoi : CString → BitVec 32) (alloc reallocs : Bool) (attr : BtGattAttr)
    (payload : List UInt8) (offset : ℕ) :
    Option (Except Fault ((VariableAddr → ZtacxVariable) × ℤ)) :=
  (attrVariable ptrSize bytes attr).map fun v =>
    (btWriteVariable atoi alloc reallocs (memory v) payload offset).map fun r =>
      (Function.update memory v r.1.v, r.2)

section Resolves

variable {ptrSize : ℕ} {bytes : ℕ → UInt8} {v : VariableAddr} {attr : BtGattAttr}
  {memory : VariableAddr → ZtacxVariable}

/-- A read through an attribute that resolves to `v` is a read of `v`. -/
theorem btReadAttr_of_resolves (resolves : attrVariable ptrSize bytes attr = some v)
    (attrRead : GattAttrRead) (len offset : ℕ) :
    btReadAttr ptrSize bytes memory attrRead attr len offset =
      some (btReadVariable attrRead (memory v) len offset) := by
  rw [btReadAttr, resolves]
  rfl

/-- A write through an attribute that resolves to `v` is a write of `v`, and
leaves every other variable alone. -/
theorem btWriteAttr_of_resolves (resolves : attrVariable ptrSize bytes attr = some v)
    {atoi : CString → BitVec 32} {alloc reallocs : Bool} {payload : List UInt8} {offset : ℕ}
    {memory' : VariableAddr → ZtacxVariable} {rc : ℤ}
    (ran : btWriteAttr ptrSize bytes memory atoi alloc reallocs attr payload offset =
      some (.ok (memory', rc))) :
    (∃ w, btWriteVariable atoi alloc reallocs (memory v) payload offset = .ok (w, rc) ∧
      memory' v = w.v) ∧ ∀ a, a ≠ v → memory' a = memory a := by
  rw [btWriteAttr, resolves] at ran
  obtain ⟨⟨w, wrc⟩, wrote, same⟩ := map_eq_ok_iff.mp (Option.some.inj ran)
  cases same
  exact ⟨⟨w, wrote, Function.update_self v w.v memory⟩,
    fun a other => Function.update_of_ne other w.v memory⟩

end Resolves

/-! ## What a registration stores -/

section Registered

variable {memory : VariableAddr → ZtacxVariable} {s t : BtGattService} {rc : ℤ}
  {c : ZtacxBtCharacteristic} {addr : VariableAddr}

/-- The value attribute comes second. -/
theorem registerValue_slot {v : ZtacxVariable} (ran : registerValue s c addr v = .ok t) :
    t.attrs[s.attrCount + 1]? =
      some (.attr (BT_GATT_CHARACTERISTIC c.uuid c.props c.perm addr).2) := by
  obtain ⟨s₁, first, ran⟩ := bind_eq_ok_iff.mp ran
  obtain ⟨s₂, second, third⟩ := bind_eq_ok_iff.mp ran
  obtain ⟨-, count₁, -⟩ := push_grows first
  obtain ⟨-, count₂, slot⟩ := push_grows second
  obtain ⟨grows₃, -, -⟩ := push_grows third
  rw [← count₁, grows₃.kept _ (by omega), slot]

/-- The rest of a round keeps what is there. -/
theorem registerCpf_grows {kind : ZtacxValueKind} {cpf : Option BtGattCpf}
    (ran : registerCpf s kind cpf = .ok (t, rc)) : Grows s t := by
  cases cpf with
  | none => exact (registerCpf_inferred ran).1
  | some cpf => exact (registerCpf_given ran).1

theorem registerOne_slot (hv : c.v = some addr) (ran : registerOne memory s c = .ok (t, rc)) :
    Grows s t ∧ s.attrCount + 3 ≤ t.attrCount ∧ t.attrs[s.attrCount + 1]? =
      some (.attr (BT_GATT_CHARACTERISTIC c.uuid c.props c.perm addr).2) := by
  unfold registerOne at ran
  rw [hv] at ran
  obtain ⟨s₁, value, ran⟩ := bind_eq_ok_iff.mp ran
  obtain ⟨grows₁, count₁⟩ := registerValue_grows value
  have slot := registerValue_slot value
  have rest : Grows s₁ t := by
    rcases earlyReturn_cases (registerCcc · c.ccc) ran with ⟨-, cpf⟩ | ⟨s₂, cpf, ccc⟩
    · exact registerCpf_grows cpf
    · exact (registerCpf_grows cpf).trans (registerCcc_grows ccc).1
  have counted := rest.count_le
  exact ⟨grows₁.trans rest, by omega, (rest.kept _ (by omega)).trans slot⟩

/-- A round keeps what is there, whether or not it has a variable. -/
theorem registerOne_grows (ran : registerOne memory s c = .ok (t, rc)) : Grows s t := by
  cases hv : c.v with
  | none =>
      unfold registerOne at ran
      rw [hv] at ran
      cases ran
      exact Grows.refl s
  | some addr => exact (registerOne_slot hv ran).1

theorem registerEach_grows {s : BtGattService} {chars : List ZtacxBtCharacteristic}
    (ran : registerEach memory s chars = .ok (t, rc)) : Grows s t := by
  induction chars generalizing s with
  | nil =>
      cases ran
      exact Grows.refl _
  | cons c chars ih =>
      rcases earlyReturn_cases (registerEach memory · chars) ran with ⟨-, one⟩ | ⟨u, one, ran⟩
      · exact registerOne_grows one
      · exact (registerOne_grows one).trans (ih ran)

/-- A pass over a table is a pass over its first part and, if that went
through, over the rest. -/
theorem registerEach_append {s : BtGattService} {before after : List ZtacxBtCharacteristic}
    {u : BtGattService}
    (reached : registerEach memory s before = .ok (u, 0)) :
    registerEach memory s (before ++ after) = registerEach memory u after := by
  induction before generalizing s with
  | nil =>
      cases reached
      rfl
  | cons c before ih =>
      rcases earlyReturn_cases (registerEach memory · before) reached with
        ⟨failed, -⟩ | ⟨m, one, reached⟩
      · exact absurd rfl failed
      · show (registerOne memory s c).bind _ = _
        rw [one]
        exact ih reached

/-- **The value attribute of a characteristic**, once its round is over. -/
theorem registerEach_slot {before after : List ZtacxBtCharacteristic} {u : BtGattService}
    (hv : c.v = some addr) (reached : registerEach memory s before = .ok (u, 0))
    (ran : registerEach memory s (before ++ c :: after) = .ok (t, rc)) :
    t.attrs[u.attrCount + 1]? =
      some (.attr (BT_GATT_CHARACTERISTIC c.uuid c.props c.perm addr).2) := by
  rw [registerEach_append reached] at ran
  rcases earlyReturn_cases (registerEach memory · after) ran with ⟨-, one⟩ | ⟨m, one, ran⟩
  · exact (registerOne_slot hv one).2.2
  · obtain ⟨-, counted, slot⟩ := registerOne_slot hv one
    exact ((registerEach_grows ran).kept _ (by omega)).trans slot

/-- **A dynamic attribute stores the address of its variable.** -/
theorem BoundTo.userData_dynamic {ptrSize : ℕ} {bytes : ℕ → UInt8} {v : VariableAddr}
    {attr : BtGattAttr} (bound : BoundTo ptrSize bytes v .dynamic attr) :
    attr.userData = .value v := by
  cases bound with
  | registered holds unregisters alloc reached ran slot =>
      obtain ⟨u, urc, each, attrs, -⟩ := characteristicRegister_ran unregisters alloc ran
      rw [attrs, registerEach_slot holds reached each] at slot
      cases slot
      rfl

/-- **A static attribute stores the address of a pointer to its variable.** -/
theorem BoundTo.userData_static {ptrSize : ℕ} {bytes : ℕ → UInt8} {v : VariableAddr}
    {attr : BtGattAttr} (bound : BoundTo ptrSize bytes v .static attr) :
    ∃ cell, attr.userData = .value cell ∧ loadPtr ptrSize bytes cell = v := by
  cases bound with
  | declared holds slot =>
      cases slot
      exact ⟨_, rfl, holds⟩

end Registered

section Main

variable {ptrSize : ℕ} {bytes : ℕ → UInt8} {v : VariableAddr} {origin : AttrOrigin}
  {attr : BtGattAttr}

/-- The name of a variable lies at its address. -/
def NameAt (bytes : ℕ → UInt8) (v : VariableAddr) (name : CString) : Prop :=
  ∀ i b, name.stored[i]? = some b → bytes (v + i) = b

/-- What a dynamic attribute resolves to: the first bytes of the variable's name,
taken for an address. -/
theorem resolves_to_name (bound : BoundTo ptrSize bytes v .dynamic attr) {name : CString}
    (named : NameAt bytes v name) (long : ptrSize ≤ name.strlen + 1) :
    attrVariable ptrSize bytes attr = some (leNat (name.stored.take ptrSize)) := by
  have size : name.stored.length = name.strlen + 1 := by simp [CString.stored, CString.strlen]
  have read : (List.range ptrSize).map (fun i => bytes (v + i)) = name.stored.take ptrSize := by
    apply List.ext_getElem
    · rw [List.length_map, List.length_range, List.length_take]
      omega
    · intro i left right
      rw [List.getElem_map, List.getElem_range, List.getElem_take]
      exact named i _ (List.getElem?_eq_getElem _)
  rw [attrVariable, bound.userData_dynamic]
  show some (loadPtr ptrSize bytes v) = _
  rw [loadPtr, read]

/-- **When a GATT access arrives at the variable its attribute is bound to**, for
every attribute that either way of registering a characteristic can produce. -/
theorem valueAttribute_resolves_iff (bound : BoundTo ptrSize bytes v origin attr) :
    attrVariable ptrSize bytes attr = some v ↔
      origin = .static ∨ loadPtr ptrSize bytes v = v := by
  cases origin with
  | static =>
      obtain ⟨cell, data, holds⟩ := bound.userData_static
      refine iff_of_true ?_ (.inl rfl)
      rw [attrVariable, data]
      exact congrArg some holds
  | dynamic =>
      rw [attrVariable, bound.userData_dynamic]
      show some (loadPtr ptrSize bytes v) = some v ↔ _
      simp

end Main

/-! ### A temperature at address 512 -/

/-- A pointer variable at address 256 and the variable it points to, named "temp". -/
def sensorBytes : ℕ → UInt8 := fun a =>
  if a < 512 then (leBytes 4 512).getD (a - 256) 0
  else (CString.ofString "temp").stored.getD (a - 512) 0

def tempChar : ZtacxBtCharacteristic := { sensorChar with v := some 512 }

/-- The value attribute `ZTACX_BT_CHAR` makes of it, and the one the table makes. -/
def tempAttr (userData : ℕ) : BtGattAttr := (BT_GATT_CHARACTERISTIC (.of 1) 18 3 userData).2

theorem static_temperature_resolves :
    attrVariable 4 sensorBytes (tempAttr 256) = some 512 :=
  have bound : BoundTo 4 sensorBytes 512 .static (tempAttr 256) :=
    @BoundTo.declared 4 sensorBytes 512 256 (.of 1) 18 3 btGattCpfInt16 .empty (tempAttr 256)
      (by decide) rfl
  (valueAttribute_resolves_iff bound).mpr (.inl rfl)

/-- The table with that variable in it, once it has been registered. -/
def tempService : BtGattService where
  attrs := [.attr (BT_GATT_CHARACTERISTIC (.of 1) 18 3 512).1, .attr (tempAttr 512),
    .attr (BT_GATT_CUD (.ofString "temp") BT_GATT_PERM_READ), .attr (BT_GATT_CPF btGattCpfInt16)]
  attrCount := 3
  registered := false

/-- The same variable, registered at run time: the callback takes "temp" for an
address. -/
theorem dynamic_temperature_not_resolved :
    BoundTo 4 sensorBytes 512 .dynamic (tempAttr 512) ∧
      attrVariable 4 sensorBytes (tempAttr 512) ≠ some 512 := by
  refine ⟨?_, by decide⟩
  exact @BoundTo.registered 4 sensorBytes 512 (quietEnv 0) ⟨[], 0, false⟩ tempService _ 0 [] []
    tempChar (tempAttr 512) rfl (by decide) rfl rfl (by decide) rfl

end Ztacx
