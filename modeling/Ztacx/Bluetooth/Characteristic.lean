import Mathlib.Algebra.BigOperators.Group.List.Basic
import Ztacx.Value

/-!
# Registering characteristics

`ztacx_bt_characteristic_register` of `src/ztacx_bt_peripheral.c` appends the
attributes of a table of characteristics to a GATT service: a pass that counts,
an allocation, a pass that fills.

An element of the attribute array is a *slot* (`AttrSlot`).  Most slots hold an
attribute; but the code also copies `sizeof(struct bt_gatt_attr)` bytes from the
address of a `struct bt_gatt_cpf` or a `struct bt_gatt_ccc`, and such a slot
holds no attribute at all.

`AppendsTable` is what the registration is for: it fails and leaves the service
alone, or it appends the table's descriptors, each once and in order.
`characteristicRegister_appendsTable_iff` says when the code does that, and the
answer is short: when it has nothing to append.  A type descriptor that is
inferred from the kind is written and not counted, so the next attribute
overwrites it or it lies past the end; one that is given is not an attribute.
-/

namespace Ztacx

open CModel

/-! ## Attributes -/

inductive BtUuid
  | gattPrimary
  | gattSecondary
  | gattChrc
  | gattCud
  | gattCpf
  | gattCcc
  | of (id : ℕ)
deriving DecidableEq, Repr

/-- `struct bt_gatt_cpf`, a characteristic presentation format. -/
structure BtGattCpf where
  format : UInt8
  exponent : ℤ := 0
  unit : UInt16 := 0
deriving DecidableEq, Repr

def btGattCpfBoolean : BtGattCpf := { format := 1 }
def btGattCpfUint8 : BtGattCpf := { format := 4 }
def btGattCpfUint16 : BtGattCpf := { format := 6 }
def btGattCpfInt16 : BtGattCpf := { format := 14 }
def btGattCpfInt32 : BtGattCpf := { format := 16 }
def btGattCpfInt64 : BtGattCpf := { format := 18 }
def btGattCpfString : BtGattCpf := { format := 25 }

/-- `struct bt_gatt_ccc`, a client characteristic configuration. -/
structure BtGattCcc where
  flags : UInt16
deriving DecidableEq, Repr

/-- The address of a `struct ztacx_variable`. -/
abbrev VariableAddr := ℕ

/-- The callbacks of an attribute. -/
inductive AttrCallback
  | readService
  | readChrc
  | readVariable
  | writeVariable
  | readCud
  | readCpf
deriving DecidableEq, Repr

/-- What `user_data` points at. -/
inductive UserData
  | service (uuid : BtUuid)
  | chrc (uuid : BtUuid) (props : UInt8)
  | value (v : VariableAddr)
  | cud (desc : CString)
  | cpf (cpf : BtGattCpf)
  | ccc (ccc : BtGattCcc)
deriving DecidableEq, Repr

/-- `struct bt_gatt_attr`. -/
structure BtGattAttr where
  uuid : BtUuid
  perm : UInt8
  read : Option AttrCallback
  write : Option AttrCallback
  userData : UserData
deriving DecidableEq, Repr

def BT_GATT_PERM_READ : UInt8 := 1

def BT_GATT_PRIMARY_SERVICE (service : BtUuid) : BtGattAttr :=
  ⟨.gattPrimary, BT_GATT_PERM_READ, some .readService, none, .service service⟩

/-- The two attributes of `BT_GATT_CHARACTERISTIC`. -/
def BT_GATT_CHARACTERISTIC (uuid : BtUuid) (props perm : UInt8) (v : VariableAddr) :
    BtGattAttr × BtGattAttr :=
  (⟨.gattChrc, BT_GATT_PERM_READ, some .readChrc, none, .chrc uuid props⟩,
    ⟨uuid, perm, some .readVariable, some .writeVariable, .value v⟩)

def BT_GATT_CUD (desc : CString) (perm : UInt8) : BtGattAttr :=
  ⟨.gattCud, perm, some .readCud, none, .cud desc⟩

def BT_GATT_CPF (cpf : BtGattCpf) : BtGattAttr :=
  ⟨.gattCpf, BT_GATT_PERM_READ, some .readCpf, none, .cpf cpf⟩

/-- One element of an attribute array. -/
inductive AttrSlot
  | attr (a : BtGattAttr)
  | overlayCpf (cpf : BtGattCpf)
  | overlayCcc (ccc : BtGattCcc)
  | zeroed
  | garbage
deriving DecidableEq, Repr

/-- The attribute type and the data behind it, if the slot holds an attribute. -/
def AttrSlot.describes : AttrSlot → Option (BtUuid × UserData)
  | .attr a => some (a.uuid, a.userData)
  | _ => none

/-! ## The registration -/

/-- `struct ztacx_bt_characteristic`; `v` is what `*variable` holds. -/
structure ZtacxBtCharacteristic where
  v : Option VariableAddr
  uuid : BtUuid
  props : UInt8
  perm : UInt8
  desc : Option CString
  cpf : Option BtGattCpf
  ccc : Option BtGattCcc
deriving DecidableEq, Repr

/-- `struct bt_gatt_service`, with the stack's record of its registration.  A
null array has no slots. -/
structure BtGattService where
  attrs : List AttrSlot
  attrCount : ℕ
  registered : Bool
deriving DecidableEq, Repr

/-- What the code around a registration decides. -/
structure RegisterEnv where
  memory : VariableAddr → ZtacxVariable
  unregisterRc : ℤ
  alloc : Bool
  /-- `bt_peripheral_values[VALUE_OK]`. -/
  ok : Bool
  /-- The slot's type is that of a service declaration. -/
  isService : AttrSlot → Bool
  registerRc : ℤ

/-- The first pass: `attr_count`. -/
def attrsNeeded (chars : List ZtacxBtCharacteristic) : ℕ :=
  (chars.map fun c => 4 + if c.ccc.isSome then 1 else 0).sum

/-- Store a slot behind the last attribute. -/
def BtGattService.put (s : BtGattService) (slot : AttrSlot) : Except Fault BtGattService :=
  if s.attrCount < s.attrs.length then
    .ok { s with attrs := s.attrs.set s.attrCount slot }
  else .error .outOfBounds

/-- Store a slot and count it. -/
def BtGattService.push (s : BtGattService) (slot : AttrSlot) : Except Fault BtGattService :=
  (s.put slot).map fun s => { s with attrCount := s.attrCount + 1 }

/-- The type descriptor of a kind. -/
def cpfOfKind : ZtacxValueKind → Option BtGattCpf
  | .string => some btGattCpfString
  | .bool => some btGattCpfBoolean
  | .byte => some btGattCpfUint8
  | .uint16 => some btGattCpfUint16
  | .int16 => some btGattCpfInt16
  | .int32 => some btGattCpfInt32
  | .int64 => some btGattCpfInt64
  | .event => none

/-- The CPF part of one round, with `-EINVAL` for a kind that has no type. -/
def registerCpf (s : BtGattService) (kind : ZtacxValueKind) :
    Option BtGattCpf → Except Fault (BtGattService × ℤ)
  | some cpf => (s.push (.overlayCpf cpf)).map fun s => (s, 0)
  | none =>
    match cpfOfKind kind with
    -- stored, but `attr_count` stays where it is
    | some cpf => (s.put (.attr (BT_GATT_CPF cpf))).map fun s => (s, 0)
    | none => .ok (s, -EINVAL)

/-- The CCC part of one round. -/
def registerCcc (s : BtGattService) : Option BtGattCcc → Except Fault (BtGattService × ℤ)
  | some ccc => (s.push (.overlayCcc ccc)).map fun s => (s, 0)
  | none => .ok (s, 0)

/-- The three attributes each round begins with. -/
def registerValue (s : BtGattService) (c : ZtacxBtCharacteristic) (addr : VariableAddr)
    (v : ZtacxVariable) : Except Fault BtGattService :=
  let charAttrs := BT_GATT_CHARACTERISTIC c.uuid c.props c.perm addr
  (s.push (.attr charAttrs.1)).bind fun s =>
    (s.push (.attr charAttrs.2)).bind fun s =>
      s.push (.attr (BT_GATT_CUD (c.desc.getD v.name) BT_GATT_PERM_READ))

/-- One round of the second pass. -/
def registerOne (memory : VariableAddr → ZtacxVariable) (s : BtGattService)
    (c : ZtacxBtCharacteristic) : Except Fault (BtGattService × ℤ) :=
  match c.v with
  | none => .ok (s, 0)
  | some addr =>
    (registerValue s c addr (memory addr)).bind fun s =>
      (registerCpf s (memory addr).kind c.cpf).bind fun r =>
        if r.2 ≠ 0 then .ok r else registerCcc r.1 c.ccc

/-- The second pass; a non-zero code is an early return. -/
def registerEach (memory : VariableAddr → ZtacxVariable) (s : BtGattService) :
    List ZtacxBtCharacteristic → Except Fault (BtGattService × ℤ)
  | [] => .ok (s, 0)
  | c :: chars =>
    (registerOne memory s c).bind fun r =>
      if r.2 ≠ 0 then .ok r else registerEach memory r.1 chars

/-- `realloc` of an array that has attributes, or `calloc` of a new one. -/
def BtGattService.allocate (s : BtGattService) (count : ℕ) : BtGattService :=
  if s.attrCount ≠ 0 then
    let size := s.attrCount + count
    { s with attrs := s.attrs.take size ++ List.replicate (size - s.attrs.length) .garbage }
  else { s with attrs := List.replicate count .zeroed }

/-- `bt_gatt_service_register`, when the stack is up and the array starts with a
service declaration. -/
def registerService (env : RegisterEnv) (s : BtGattService) :
    Except Fault (BtGattService × ℤ) :=
  if env.ok then
    match s.attrs with
    | [] => .error .outOfBounds
    | first :: _ =>
      if env.isService first then
        .ok ({ s with registered := env.registerRc = 0 }, env.registerRc)
      else .ok (s, 0)
  else .ok (s, 0)

/-- `ztacx_bt_characteristic_register`; a null service stands for the default
service. -/
def ztacxBtCharacteristicRegister (env : RegisterEnv) (s : BtGattService)
    (chars : List ZtacxBtCharacteristic) : Except Fault (BtGattService × ℤ) :=
  if s.registered ∧ env.unregisterRc ≠ 0 then .ok (s, env.unregisterRc)
  else
    let s := { s with registered := false }
    if env.alloc then
      (registerEach env.memory (s.allocate (attrsNeeded chars)) chars).bind fun r =>
        if r.2 ≠ 0 then .ok r else registerService env r.1
    else .ok ({ s with attrs := [] }, -ENOMEM)

/-! ## What a registration is for -/

/-- The descriptors of one characteristic; there are none for a kind without a
type. -/
def descriptorsOf (memory : VariableAddr → ZtacxVariable) (c : ZtacxBtCharacteristic) :
    Option (List (BtUuid × UserData)) :=
  c.v.bind fun addr =>
    (c.cpf.or (cpfOfKind (memory addr).kind)).map fun cpf =>
      [(.gattChrc, .chrc c.uuid c.props), (c.uuid, .value addr),
        (.gattCud, .cud (c.desc.getD (memory addr).name)), (.gattCpf, .cpf cpf)] ++
      (c.ccc.map fun ccc => (BtUuid.gattCcc, UserData.ccc ccc)).toList

/-- The descriptors of a table, in order. -/
def tableOf (memory : VariableAddr → ZtacxVariable) :
    List ZtacxBtCharacteristic → Option (List (BtUuid × UserData))
  | [] => some []
  | c :: chars =>
    (descriptorsOf memory c).bind fun own => (tableOf memory chars).map fun rest => own ++ rest

/-- **A registration fails and changes nothing, or appends the table.** -/
def AppendsTable (env : RegisterEnv) (s : BtGattService)
    (chars : List ZtacxBtCharacteristic) : Prop :=
  ∃ t rc, ztacxBtCharacteristicRegister env s chars = .ok (t, rc) ∧
    ((rc ≠ 0 ∧ t.attrCount = s.attrCount ∧
        t.attrs.take t.attrCount = s.attrs.take s.attrCount) ∨
      ∃ new table, tableOf env.memory chars = some table ∧
        new.map AttrSlot.describes = table.map some ∧
        t.attrCount = s.attrCount + new.length ∧
        t.attrs.take t.attrCount = s.attrs.take s.attrCount ++ new)

/-- There is nothing to append, or no way to. -/
def NothingAppended (env : RegisterEnv) (s : BtGattService)
    (chars : List ZtacxBtCharacteristic) : Prop :=
  (s.registered = true ∧ env.unregisterRc ≠ 0) ∨
    (env.alloc = false ∧ s.attrCount = 0) ∨
    (env.alloc = true ∧ chars = [] ∧ (s.attrCount = 0 → env.ok = false))

/-! ## What a store does -/

section Stores

variable {s t : BtGattService} {slot : AttrSlot}

/-- The array keeps its size and its attributes, and their number does not
shrink.  Every operation of the second pass relates the service before and
after it in this way. -/
structure Grows (s t : BtGattService) : Prop where
  length_eq : t.attrs.length = s.attrs.length
  count_le : s.attrCount ≤ t.attrCount
  kept : ∀ i, i < s.attrCount → t.attrs[i]? = s.attrs[i]?

theorem Grows.refl (s : BtGattService) : Grows s s := ⟨rfl, le_rfl, fun _ _ => rfl⟩

theorem Grows.trans {u : BtGattService} (h : Grows s t) (h' : Grows t u) : Grows s u where
  length_eq := h'.length_eq.trans h.length_eq
  count_le := h.count_le.trans h'.count_le
  kept := fun i lt => (h'.kept i (lt.trans_le h.count_le)).trans (h.kept i lt)

theorem put_eq_ok (ran : s.put slot = .ok t) :
    s.attrCount < s.attrs.length ∧ t = { s with attrs := s.attrs.set s.attrCount slot } := by
  unfold BtGattService.put at ran
  split at ran
  · rename_i room
    cases ran
    exact ⟨room, rfl⟩
  · cases ran

theorem put_grows (ran : s.put slot = .ok t) : Grows s t ∧ t.attrCount = s.attrCount := by
  obtain ⟨-, rfl⟩ := put_eq_ok ran
  refine ⟨⟨List.length_set, le_rfl, fun i lt => ?_⟩, rfl⟩
  exact List.getElem?_set_ne (by omega)

/-- A pushed slot is the last one counted. -/
theorem push_grows (ran : s.push slot = .ok t) :
    Grows s t ∧ t.attrCount = s.attrCount + 1 ∧ t.attrs[s.attrCount]? = some slot := by
  obtain ⟨u, put, rfl⟩ := map_eq_ok_iff.mp ran
  obtain ⟨grows, -⟩ := put_grows put
  obtain ⟨room, rfl⟩ := put_eq_ok put
  refine ⟨⟨grows.length_eq, Nat.le_succ _, grows.kept⟩, rfl, ?_⟩
  exact List.getElem?_set_self room

end Stores

/-! ## What a round does -/

section Rounds

variable {memory : VariableAddr → ZtacxVariable} {s t : BtGattService} {rc : ℤ}
  {c : ZtacxBtCharacteristic} {chars : List ZtacxBtCharacteristic}

theorem registerValue_grows {addr : VariableAddr} {v : ZtacxVariable}
    (ran : registerValue s c addr v = .ok t) : Grows s t ∧ t.attrCount = s.attrCount + 3 := by
  obtain ⟨s₁, first, ran⟩ := bind_eq_ok_iff.mp ran
  obtain ⟨s₂, second, third⟩ := bind_eq_ok_iff.mp ran
  obtain ⟨grows₁, count₁, -⟩ := push_grows first
  obtain ⟨grows₂, count₂, -⟩ := push_grows second
  obtain ⟨grows₃, count₃, -⟩ := push_grows third
  exact ⟨(grows₁.trans grows₂).trans grows₃, by omega⟩

/-- A type that is given is counted, and it is no attribute. -/
theorem registerCpf_given {kind : ZtacxValueKind} {cpf : BtGattCpf}
    (ran : registerCpf s kind (some cpf) = .ok (t, rc)) :
    Grows s t ∧ rc = 0 ∧ t.attrCount = s.attrCount + 1 ∧
      t.attrs[s.attrCount]? = some (.overlayCpf cpf) := by
  obtain ⟨u, pushed, same⟩ := map_eq_ok_iff.mp ran
  cases same
  obtain ⟨grows, count, slot⟩ := push_grows pushed
  exact ⟨grows, rfl, count, slot⟩

/-- A type that is inferred is not counted; a kind may have none. -/
theorem registerCpf_inferred {kind : ZtacxValueKind}
    (ran : registerCpf s kind none = .ok (t, rc)) :
    Grows s t ∧ t.attrCount = s.attrCount ∧ (rc ≠ 0 → cpfOfKind kind = none) := by
  unfold registerCpf at ran
  cases hkind : cpfOfKind kind with
  | none =>
      rw [hkind] at ran
      cases ran
      exact ⟨Grows.refl s, rfl, fun _ => rfl⟩
  | some cpf =>
      rw [hkind] at ran
      obtain ⟨u, stored, same⟩ := map_eq_ok_iff.mp ran
      cases same
      obtain ⟨grows, count⟩ := put_grows stored
      exact ⟨grows, count, fun failed => absurd rfl failed⟩

theorem registerCcc_grows {ccc : Option BtGattCcc}
    (ran : registerCcc s ccc = .ok (t, rc)) :
    Grows s t ∧ rc = 0 ∧ t.attrCount = s.attrCount + if ccc.isSome then 1 else 0 := by
  cases ccc with
  | none =>
      cases ran
      exact ⟨Grows.refl s, rfl, rfl⟩
  | some ccc =>
      obtain ⟨u, pushed, same⟩ := map_eq_ok_iff.mp ran
      cases same
      obtain ⟨grows, count, -⟩ := push_grows pushed
      exact ⟨grows, rfl, count⟩

/-- **One round**, for a characteristic that has a variable. -/
structure Round (memory : VariableAddr → ZtacxVariable) (c : ZtacxBtCharacteristic)
    (s t : BtGattService) (rc : ℤ) : Prop where
  grows : Grows s t
  three_le : s.attrCount + 3 ≤ t.attrCount
  failed : rc ≠ 0 → descriptorsOf memory c = none
  counted : rc = 0 → t.attrCount + (if c.cpf.isNone then 1 else 0) =
    s.attrCount + (4 + if c.ccc.isSome then 1 else 0)
  given : ∀ cpf, c.cpf = some cpf → s.attrCount + 3 < t.attrCount ∧
    t.attrs[s.attrCount + 3]? = some (.overlayCpf cpf)

/-- A call whose error code, if it is not zero, is returned at once. -/
theorem earlyReturn_cases {x : Except Fault (BtGattService × ℤ)}
    (f : BtGattService → Except Fault (BtGattService × ℤ))
    (ran : (x.bind fun r => if r.2 ≠ 0 then .ok r else f r.1) = .ok (t, rc)) :
    (rc ≠ 0 ∧ x = .ok (t, rc)) ∨ ∃ u, x = .ok (u, 0) ∧ f u = .ok (t, rc) := by
  obtain ⟨⟨u, code⟩, first, ran⟩ := bind_eq_ok_iff.mp ran
  by_cases failed : code ≠ 0
  · rw [if_pos failed] at ran
    cases ran
    exact .inl ⟨failed, first⟩
  · rw [if_neg failed] at ran
    rw [not_not.mp failed] at first
    exact .inr ⟨u, first, ran⟩

theorem registerOne_round (hv : c.v.isSome) (ran : registerOne memory s c = .ok (t, rc)) :
    Round memory c s t rc := by
  obtain ⟨addr, hv⟩ := Option.isSome_iff_exists.mp hv
  unfold registerOne at ran
  rw [hv] at ran
  obtain ⟨s₁, value, ran⟩ := bind_eq_ok_iff.mp ran
  obtain ⟨grows₁, count₁⟩ := registerValue_grows value
  cases hcpf : c.cpf with
  -- the type is inferred from the kind, and that may fail
  | none =>
      have given : ∀ cpf, c.cpf = some cpf → s.attrCount + 3 < t.attrCount ∧
          t.attrs[s.attrCount + 3]? = some (.overlayCpf cpf) := by
        intro cpf same
        rw [hcpf] at same
        cases same
      rcases earlyReturn_cases (registerCcc · c.ccc) ran with ⟨hrc, cpf⟩ | ⟨s₂, cpf, ccc⟩
      · rw [hcpf] at cpf
        obtain ⟨grows₂, count₂, failed⟩ := registerCpf_inferred cpf
        refine ⟨grows₁.trans grows₂, by omega, fun _ => ?_, fun h => absurd h hrc, given⟩
        simp [descriptorsOf, hv, hcpf, failed hrc]
      · rw [hcpf] at cpf
        obtain ⟨grows₂, count₂, -⟩ := registerCpf_inferred cpf
        obtain ⟨grows₃, rfl, count₃⟩ := registerCcc_grows ccc
        refine ⟨(grows₁.trans grows₂).trans grows₃, by omega, fun h => absurd rfl h,
          fun _ => ?_, given⟩
        simp only [hcpf, Option.isNone_none, if_true]
        omega
  | some own =>
      rcases earlyReturn_cases (registerCcc · c.ccc) ran with ⟨hrc, cpf⟩ | ⟨s₂, cpf, ccc⟩
      · rw [hcpf] at cpf
        exact absurd (registerCpf_given cpf).2.1 hrc
      · rw [hcpf] at cpf
        obtain ⟨grows₂, -, count₂, slot⟩ := registerCpf_given cpf
        obtain ⟨grows₃, rfl, count₃⟩ := registerCcc_grows ccc
        refine ⟨(grows₁.trans grows₂).trans grows₃, by omega, fun h => absurd rfl h,
          fun _ => ?_, ?_⟩
        · simp only [hcpf, Option.isNone_some, Bool.false_eq_true, if_false]
          omega
        · intro given same
          rw [hcpf] at same
          cases same
          refine ⟨by omega, ?_⟩
          rw [← count₁, grows₃.kept _ (by omega), slot]

/-- How many type descriptors a table leaves to be inferred. -/
def inferred (chars : List ZtacxBtCharacteristic) : ℕ :=
  (chars.map fun c => if c.cpf.isNone then 1 else 0).sum

/-- **The second pass** falls short of the first by the inferred types, and an
early return means that the table has no descriptors. -/
theorem registerEach_count (hv : ∀ c ∈ chars, c.v.isSome)
    (ran : registerEach memory s chars = .ok (t, rc)) :
    Grows s t ∧ (rc ≠ 0 → tableOf memory chars = none) ∧
      (rc = 0 → t.attrCount + inferred chars = s.attrCount + attrsNeeded chars) := by
  induction chars generalizing s with
  | nil =>
      cases ran
      exact ⟨Grows.refl _, fun h => absurd rfl h, fun _ => rfl⟩
  | cons c chars ih =>
      rcases earlyReturn_cases (registerEach memory · chars) ran with ⟨hrc, one⟩ | ⟨u, one, ran⟩
      · have round := registerOne_round (hv c List.mem_cons_self) one
        refine ⟨round.grows, fun h => ?_, fun h => absurd h hrc⟩
        rw [tableOf, round.failed h]
        rfl
      · have round := registerOne_round (hv c List.mem_cons_self) one
        obtain ⟨grows, failed, counted⟩ := ih (fun d mem => hv d (List.mem_cons_of_mem c mem)) ran
        refine ⟨round.grows.trans grows, fun h => ?_, fun h => ?_⟩
        · simp [tableOf, failed h]
        · have first := round.counted rfl
          have rest := counted h
          simp only [inferred, attrsNeeded, List.map_cons, List.sum_cons] at rest ⊢
          omega

/-- The first pass counts what the table describes. -/
theorem length_tableOf {table : List (BtUuid × UserData)}
    (described : tableOf memory chars = some table) : table.length = attrsNeeded chars := by
  induction chars generalizing table with
  | nil =>
      cases described
      rfl
  | cons c chars ih =>
      obtain ⟨own, howns, described⟩ := Option.bind_eq_some_iff.mp described
      obtain ⟨rest, hrest, rfl⟩ := Option.map_eq_some_iff.mp described
      obtain ⟨addr, -, howns⟩ := Option.bind_eq_some_iff.mp howns
      obtain ⟨cpf, -, rfl⟩ := Option.map_eq_some_iff.mp howns
      rw [List.length_append, ih hrest]
      cases hccc : c.ccc <;> simp [attrsNeeded, hccc]

/-- **The first round stands**, whatever becomes of the rest. -/
theorem registerEach_first (hv : ∀ d ∈ c :: chars, d.v.isSome)
    (ran : registerEach memory s (c :: chars) = .ok (t, rc)) :
    ∃ u urc, Round memory c s u urc ∧ Grows u t := by
  have round : ∀ {u urc}, registerOne memory s c = .ok (u, urc) → Round memory c s u urc :=
    fun one => registerOne_round (hv c List.mem_cons_self) one
  rcases earlyReturn_cases (registerEach memory · chars) ran with ⟨-, one⟩ | ⟨u, one, ran⟩
  · exact ⟨t, rc, round one, Grows.refl t⟩
  · obtain ⟨grows, -, -⟩ :=
      registerEach_count (fun d mem => hv d (List.mem_cons_of_mem c mem)) ran
    exact ⟨u, 0, round one, grows⟩

/-- A type that is given leaves a slot without an attribute behind. -/
theorem registerEach_given {cpf : BtGattCpf} (hv : ∀ d ∈ c :: chars, d.v.isSome)
    (given : c.cpf = some cpf) (ran : registerEach memory s (c :: chars) = .ok (t, rc)) :
    s.attrCount + 3 < t.attrCount ∧ t.attrs[s.attrCount + 3]? = some (.overlayCpf cpf) := by
  obtain ⟨u, urc, round, grows⟩ := registerEach_first hv ran
  obtain ⟨counted, slot⟩ := round.given cpf given
  exact ⟨counted.trans_le grows.count_le, (grows.kept _ counted).trans slot⟩

/-- The first round has added attributes. -/
theorem registerEach_cons_lt (hv : ∀ d ∈ c :: chars, d.v.isSome)
    (ran : registerEach memory s (c :: chars) = .ok (t, rc)) : s.attrCount < t.attrCount := by
  obtain ⟨u, urc, round, grows⟩ := registerEach_first hv ran
  have three := round.three_le
  have more := grows.count_le
  omega

end Rounds

/-! ## The whole registration -/

section Registration

variable {env : RegisterEnv} {s t : BtGattService} {rc : ℤ} {chars : List ZtacxBtCharacteristic}

/-- `bt_gatt_service_register` does not touch the array. -/
theorem registerService_same (ran : registerService env s = .ok (t, rc)) :
    t.attrs = s.attrs ∧ t.attrCount = s.attrCount := by
  unfold registerService at ran
  split at ran
  · split at ran
    · cases ran
    · split at ran
      · cases ran
        exact ⟨rfl, rfl⟩
      · cases ran
        exact ⟨rfl, rfl⟩
  · cases ran
    exact ⟨rfl, rfl⟩

/-- A registration that gets past the stack and the allocation is its second
pass, as far as the array is concerned. -/
theorem characteristicRegister_ran (unregisters : ¬ (s.registered = true ∧ env.unregisterRc ≠ 0))
    (alloc : env.alloc = true)
    (ran : ztacxBtCharacteristicRegister env s chars = .ok (t, rc)) :
    ∃ u urc, registerEach env.memory
        (({ s with registered := false } : BtGattService).allocate (attrsNeeded chars)) chars =
          .ok (u, urc) ∧
      t.attrs = u.attrs ∧ t.attrCount = u.attrCount := by
  unfold ztacxBtCharacteristicRegister at ran
  rw [if_neg unregisters] at ran
  simp only [alloc, if_true] at ran
  rcases earlyReturn_cases (registerService env) ran with ⟨-, each⟩ | ⟨u, each, ran⟩
  · exact ⟨t, rc, each, rfl, rfl⟩
  · exact ⟨u, 0, each, registerService_same ran⟩

theorem allocate_attrCount (count : ℕ) : (s.allocate count).attrCount = s.attrCount := by
  unfold BtGattService.allocate
  split <;> rfl

/-- **A table with a characteristic in it is never appended as it should be.** -/
theorem not_appendsTable_cons {c : ZtacxBtCharacteristic} (counted : s.attrCount ≤ s.attrs.length)
    (hv : ∀ d ∈ c :: chars, d.v.isSome)
    (unregisters : ¬ (s.registered = true ∧ env.unregisterRc ≠ 0)) (alloc : env.alloc = true) :
    ¬ AppendsTable env s (c :: chars) := by
  rintro ⟨t, rc, ran, outcome⟩
  obtain ⟨u, urc, each, attrs, count⟩ := characteristicRegister_ran unregisters alloc ran
  have start : (({ s with registered := false } : BtGattService).allocate
      (attrsNeeded (c :: chars))).attrCount = s.attrCount := allocate_attrCount _
  have more := registerEach_cons_lt hv each
  obtain ⟨grows, failed, total⟩ := registerEach_count hv each
  rw [start] at more total
  rcases outcome with ⟨-, same, -⟩ | ⟨new, table, described, describes, sum, appended⟩
  · omega
  · have success : urc = 0 := by
      by_contra hrc
      rw [failed hrc] at described
      cases described
    have len : new.length = attrsNeeded (c :: chars) := by
      rw [← length_tableOf described, ← List.length_map (f := AttrSlot.describes), describes,
        List.length_map]
    have all := total success
    -- every type was given, since the count came out right
    cases hcpf : c.cpf with
    | none =>
        have missed : 0 < inferred (c :: chars) := by
          simp only [inferred, List.map_cons, List.sum_cons, hcpf, Option.isNone_none, if_true]
          omega
        omega
    | some cpf =>
        obtain ⟨inside, slot⟩ := registerEach_given hv hcpf each
        rw [start] at inside slot
        have old : (s.attrs.take s.attrCount).length = s.attrCount := by
          rw [List.length_take]
          omega
        -- the slot of the type holds an overlay, which describes no attribute
        have third : new[3]? = some (.overlayCpf cpf) := by
          have counted' : s.attrCount + 3 < t.attrCount := by omega
          rw [← slot, ← attrs, ← List.getElem?_take_of_lt counted', appended,
            List.getElem?_append_right (by omega), old]
          congr 1
          omega
        have none : (table.map some)[3]? = some none := by
          rw [← describes, List.getElem?_map, third]
          rfl
        rw [List.getElem?_map] at none
        cases h : table[3]? with
        | none => rw [h] at none; cases none
        | some d => rw [h] at none; cases none

/-- An empty table: the array is allocated anew with the same attributes, and
the stack gets to see it. -/
theorem appendsTable_nil_iff (counted : s.attrCount ≤ s.attrs.length)
    (unregisters : ¬ (s.registered = true ∧ env.unregisterRc ≠ 0)) (alloc : env.alloc = true) :
    AppendsTable env s [] ↔ (s.attrCount = 0 → env.ok = false) := by
  have whole : ztacxBtCharacteristicRegister env s [] =
      registerService env (({ s with registered := false } : BtGattService).allocate 0) := by
    unfold ztacxBtCharacteristicRegister
    rw [if_neg unregisters]
    simp only [alloc, if_true]
    rfl
  constructor
  · rintro ⟨t, rc, ran, -⟩ none
    rw [whole, registerService] at ran
    cases up : env.ok with
    | false => rfl
    | true => simp [BtGattService.allocate, none, up] at ran
  · intro room
    have kept : (({ s with registered := false } : BtGattService).allocate 0).attrs =
        s.attrs.take s.attrCount := by
      unfold BtGattService.allocate
      dsimp only
      split
      · rw [Nat.add_zero, Nat.sub_eq_zero_of_le counted, List.replicate_zero, List.append_nil]
      · rename_i zero
        rw [not_not.mp zero]
        rfl
    have ends : ∃ t rc, registerService env
        (({ s with registered := false } : BtGattService).allocate 0) = .ok (t, rc) := by
      unfold registerService
      rw [kept]
      split
      · rename_i up
        cases front : s.attrs.take s.attrCount with
        | nil =>
            have zero : s.attrCount = 0 := by
              have len := congrArg List.length front
              rw [List.length_take, List.length_nil] at len
              omega
            rw [room zero] at up
            cases up
        | cons first rest =>
            dsimp only
            split <;> exact ⟨_, _, rfl⟩
      · exact ⟨_, _, rfl⟩
    obtain ⟨t, rc, ran⟩ := ends
    obtain ⟨attrs, count⟩ := registerService_same ran
    rw [kept] at attrs
    rw [allocate_attrCount] at count
    refine ⟨t, rc, whole.trans ran, .inr ⟨[], [], rfl, rfl, count, ?_⟩⟩
    rw [attrs, count, List.take_take, min_self, List.append_nil]

/-- Without memory the array is lost; that leaves the service as it was only if
it had no attributes. -/
theorem appendsTable_noMemory_iff (counted : s.attrCount ≤ s.attrs.length)
    (unregisters : ¬ (s.registered = true ∧ env.unregisterRc ≠ 0)) (noMemory : env.alloc = false) :
    AppendsTable env s chars ↔ s.attrCount = 0 := by
  have lost : ztacxBtCharacteristicRegister env s chars =
      .ok ({ s with registered := false, attrs := [] }, -ENOMEM) := by
    unfold ztacxBtCharacteristicRegister
    rw [if_neg unregisters]
    simp only [noMemory, Bool.false_eq_true, if_false]
  constructor
  · rintro ⟨t, rc, ran, outcome⟩
    rw [lost] at ran
    cases ran
    have gone : s.attrs.take s.attrCount = [] := by
      rcases outcome with ⟨-, -, same⟩ | ⟨new, table, -, -, -, appended⟩
      · rw [← same, List.take_nil]
      · rw [List.take_nil] at appended
        exact (List.append_eq_nil_iff.mp appended.symm).1
    have len := congrArg List.length gone
    rw [List.length_take, List.length_nil] at len
    omega
  · intro zero
    refine ⟨_, _, lost, .inl ⟨by decide, rfl, ?_⟩⟩
    simp [zero]

/-- **When `ztacx_bt_characteristic_register` does what it is for**, for every
service with its counted attributes in place and every table of characteristics
that have their variables. -/
theorem characteristicRegister_appendsTable_iff (counted : s.attrCount ≤ s.attrs.length)
    (hv : ∀ c ∈ chars, c.v.isSome) :
    AppendsTable env s chars ↔ NothingAppended env s chars := by
  by_cases unregisters : s.registered = true ∧ env.unregisterRc ≠ 0
  · refine iff_of_true ?_ (.inl unregisters)
    exact ⟨s, env.unregisterRc, if_pos unregisters, .inl ⟨unregisters.2, rfl, rfl⟩⟩
  · unfold NothingAppended
    rw [or_iff_right unregisters]
    cases alloc : env.alloc with
    | false =>
        rw [appendsTable_noMemory_iff counted unregisters alloc]
        simp
    | true =>
        cases chars with
        | nil =>
            rw [appendsTable_nil_iff counted unregisters alloc]
            simp
        | cons c chars =>
            refine iff_of_false (not_appendsTable_cons counted hv unregisters alloc) ?_
            simp

end Registration

/-! ### A sensor with its type inferred -/

/-- The memory of one INT16 variable. -/
def oneVariable : VariableAddr → ZtacxVariable := fun _ =>
  { name := .ofString "temp", name_lt := by decide, kind := .int16, value := .zero,
    onChange := none }

/-- The stack is not up yet. -/
def quietEnv (unregisterRc : ℤ) : RegisterEnv where
  memory := oneVariable
  unregisterRc := unregisterRc
  alloc := true
  ok := false
  isService := fun _ => false
  registerRc := 0

def sensorChar : ZtacxBtCharacteristic where
  v := some 0
  uuid := .of 1
  props := 18
  perm := 3
  desc := none
  cpf := none
  ccc := none

/-- The stack refuses to unregister the service: nothing is appended. -/
theorem refused_sensor_appendsTable :
    AppendsTable (quietEnv (-EINVAL)) ⟨[], 0, true⟩ [sensorChar] :=
  (characteristicRegister_appendsTable_iff (by decide) (by decide)).mpr
    (.inl ⟨rfl, by decide⟩)

/-- The type descriptor is stored and not counted: three attributes of four. -/
theorem sensor_not_appendsTable : ¬ AppendsTable (quietEnv 0) ⟨[], 0, false⟩ [sensorChar] := by
  rintro ⟨t, rc, ran, outcome⟩
  have three : (ztacxBtCharacteristicRegister (quietEnv 0) ⟨[], 0, false⟩ [sensorChar]).map
      (fun r => (r.1.attrCount, r.2)) = .ok (3, 0) := by decide
  rw [ran] at three
  have counts : (t.attrCount, rc) = (3, 0) := Except.ok.inj three
  obtain ⟨count, rfl⟩ := Prod.ext_iff.mp counts
  rcases outcome with ⟨failed, -⟩ | ⟨new, table, described, describes, sum, -⟩
  · exact failed rfl
  · have four : table.length = 4 := by
      cases described
      rfl
    have len := congrArg List.length describes
    rw [List.length_map, List.length_map, four] at len
    have sum' : t.attrCount = 0 + new.length := sum
    have count' : t.attrCount = 3 := count
    omega

end Ztacx
