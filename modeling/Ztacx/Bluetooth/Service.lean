import Ztacx.Bluetooth.Characteristic

/-!
# Composing the default service

An application declares its GATT service with `ztacx_bt_service_register`, and its
leaves add their characteristics with `ztacx_bt_characteristic_register`.  Both
work on the default service when they are given no other, and until Bluetooth is
ready the attributes just accumulate: the declaration is put in front of what is
there, characteristics go behind it.

The result should not depend on when the declaration comes (`Composes`).
`defaultService_composes_iff` says exactly when it does not.  Appending has two
branches, one that allocates an array and one that enlarges it; declaring has only
the second.  So a declaration that comes before any attribute goes into whatever
array there is: none at all when it is the first call, and otherwise the one the
latest table left behind without putting anything into it.

`appendedBy` is what a table adds to a service.  It depends on the table alone, so
the order of the rest of the calls is all that is left to compare.
-/

namespace Ztacx

open CModel

/-! ## Declaring a service -/

/-- The array enlarged by `count` slots, and its attributes moved up by as many. -/
def BtGattService.makeRoom (s : BtGattService) (count : ℕ) : BtGattService :=
  let grown := s.allocate count
  { s with attrs := grown.attrs.take count ++ grown.attrs.take s.attrCount }

/-- The copy to the front of the array, whatever array there is. -/
def BtGattService.prepend (s : BtGattService) (slots : List AttrSlot) :
    Except Fault BtGattService :=
  if slots.length ≤ s.attrs.length then
    .ok { s with
      attrs := slots ++ s.attrs.drop slots.length
      attrCount := s.attrCount + slots.length }
  else .error (if s.attrs = [] then .nullDeref else .outOfBounds)

/-- `ztacx_bt_service_register`.  `service` is the default service, when the caller
wants no other, or none for a new one; `arrayAlloc` says whether the array of a new
service can be allocated, which the code does not test. -/
def ztacxBtServiceRegister (env : RegisterEnv) (arrayAlloc : Bool)
    (service : Option BtGattService) (attrs : List BtGattAttr) :
    Except Fault (Option BtGattService × ℤ) :=
  let slots := attrs.map AttrSlot.attr
  let declare (s : BtGattService) : Except Fault (Option BtGattService × ℤ) :=
    (s.prepend slots).map fun s =>
      if env.ok then (some { s with registered := env.registerRc = 0 }, env.registerRc)
      else (some s, 0)
  match service with
  | some s =>
    if s.attrCount ≠ 0 then
      if env.alloc then
        declare (s.makeRoom slots.length)
      else .ok (some { s with attrs := [] }, - ENOMEM)
    else
      -- nothing is allocated for a service without attributes
      declare s
  | none =>
    if env.alloc then
      declare ⟨if arrayAlloc then List.replicate slots.length .zeroed else [], 0, false⟩
    else .ok (none, - ENOMEM)

/-! ## What a table adds -/

/-- The slots that one round counts, and its return code. -/
def appendedOne (memory : VariableAddr → ZtacxVariable) (c : ZtacxBtCharacteristic) :
    List AttrSlot × ℤ :=
  match c.v with
  | none => ([], 0)
  | some addr =>
    let charAttrs := BT_GATT_CHARACTERISTIC c.uuid c.props c.perm addr
    let value := [.attr charAttrs.1, .attr charAttrs.2,
      .attr (BT_GATT_CUD (c.desc.getD (memory addr).name) BT_GATT_PERM_READ)]
    let ccc := (c.ccc.map AttrSlot.overlayCcc).toList
    match c.cpf with
    | some cpf => (value ++ [.overlayCpf cpf] ++ ccc, 0)
    | none => if (cpfOfKind (memory addr).kind).isSome then (value ++ ccc, 0) else (value, -EINVAL)

/-- The slots that a table adds to a service. -/
def appendedBy (memory : VariableAddr → ZtacxVariable) :
    List ZtacxBtCharacteristic → List AttrSlot
  | [] => []
  | c :: chars =>
    (appendedOne memory c).1 ++
      if (appendedOne memory c).2 ≠ 0 then [] else appendedBy memory chars

/-! ## Composition -/

/-- The default service before the first call. -/
def btDefaultService : BtGattService := ⟨[], 0, false⟩

/-- Calls of `ztacx_bt_characteristic_register` on the default service; what they
return is ignored. -/
def registerTables (env : RegisterEnv) (s : BtGattService)
    (tables : List (List ZtacxBtCharacteristic)) : Except Fault BtGattService :=
  tables.foldlM (fun s chars => (ztacxBtCharacteristicRegister env s chars).map Prod.fst) s

/-- The default service after some tables, the declaration, and the other tables. -/
def composeDefault (env : RegisterEnv) (declared : List BtGattAttr)
    (before after : List (List ZtacxBtCharacteristic)) : Except Fault BtGattService :=
  (registerTables env btDefaultService before).bind fun s =>
    (ztacxBtServiceRegister env true (some s) declared).bind fun r =>
      match r.1 with
      | some s => registerTables env s after
      | none => .error .nullDeref

/-- The attributes of a service. -/
def BtGattService.contents (s : BtGattService) : List AttrSlot := s.attrs.take s.attrCount

/-- **The declaration comes first, wherever it is made**: no array is overrun or
missing, and the service ends up with the declaration and then the attributes of
all tables in the order of the calls. -/
def Composes (env : RegisterEnv) (declared : List BtGattAttr)
    (before after : List (List ZtacxBtCharacteristic)) : Prop :=
  ∃ s, composeDefault env declared before after = .ok s ∧
    s.contents = declared.map AttrSlot.attr ++ (before ++ after).flatMap (appendedBy env.memory)

/-- The array that the latest of these tables allocated. -/
def latestRoom (tables : List (List ZtacxBtCharacteristic)) : ℕ :=
  (tables.getLast?.map attrsNeeded).getD 0

/-! ## Appending -/

/-- A service that has grown by some slots within its array. -/
structure Appends (s t : BtGattService) (new : List AttrSlot) : Prop where
  length_eq : t.attrs.length = s.attrs.length
  count : t.attrCount = s.attrCount + new.length
  contents : t.contents = s.contents ++ new
  registered : t.registered = s.registered

section Appends

variable {s t u : BtGattService} {new more : List AttrSlot}

theorem Appends.trans (h : Appends s t new) (h' : Appends t u more) :
    Appends s u (new ++ more) where
  length_eq := h'.length_eq.trans h.length_eq
  count := by
    have first := h.count
    have second := h'.count
    rw [List.length_append]
    omega
  contents := by rw [h'.contents, h.contents, List.append_assoc]
  registered := h'.registered.trans h.registered

theorem put_appends (slot : AttrSlot) (room : s.attrCount < s.attrs.length) :
    ∃ t, s.put slot = .ok t ∧ Appends s t [] := by
  refine ⟨_, if_pos room, List.length_set, rfl, ?_, rfl⟩
  show (s.attrs.set s.attrCount slot).take s.attrCount = _ ++ []
  rw [List.take_set_of_le le_rfl, List.append_nil]
  rfl

theorem push_appends (slot : AttrSlot) (room : s.attrCount < s.attrs.length) :
    ∃ t, s.push slot = .ok t ∧ Appends s t [slot] := by
  refine ⟨{ s with attrs := s.attrs.set s.attrCount slot, attrCount := s.attrCount + 1 },
    ?_, List.length_set, rfl, ?_, rfl⟩
  · rw [BtGattService.push, BtGattService.put, if_pos room]
    rfl
  · show (s.attrs.set s.attrCount slot).take (s.attrCount + 1) = s.attrs.take s.attrCount ++ [slot]
    rw [List.take_add_one, List.take_set_of_le le_rfl, List.getElem?_set_self room]
    rfl

variable {memory : VariableAddr → ZtacxVariable} {c : ZtacxBtCharacteristic}

theorem registerValue_appends (addr : VariableAddr) (v : ZtacxVariable)
    (room : s.attrCount + 3 ≤ s.attrs.length) :
    ∃ t, registerValue s c addr v = .ok t ∧ Appends s t
      [.attr (BT_GATT_CHARACTERISTIC c.uuid c.props c.perm addr).1,
       .attr (BT_GATT_CHARACTERISTIC c.uuid c.props c.perm addr).2,
       .attr (BT_GATT_CUD (c.desc.getD v.name) BT_GATT_PERM_READ)] := by
  obtain ⟨s₁, first, grown₁⟩ := push_appends (s := s)
    (.attr (BT_GATT_CHARACTERISTIC c.uuid c.props c.perm addr).1) (by omega)
  have count₁ := grown₁.count
  have length₁ := grown₁.length_eq
  obtain ⟨s₂, second, grown₂⟩ := push_appends (s := s₁)
    (.attr (BT_GATT_CHARACTERISTIC c.uuid c.props c.perm addr).2) (by simp at count₁; omega)
  have count₂ := grown₂.count
  have length₂ := grown₂.length_eq
  obtain ⟨s₃, third, grown₃⟩ := push_appends (s := s₂)
    (.attr (BT_GATT_CUD (c.desc.getD v.name) BT_GATT_PERM_READ))
    (by simp at count₁ count₂; omega)
  refine ⟨s₃, ?_, (grown₁.trans grown₂).trans grown₃⟩
  rw [registerValue, first]
  show (s₁.push _).bind _ = _
  rw [second]
  exact third

theorem registerCcc_appends (ccc : Option BtGattCcc)
    (room : s.attrCount + (if ccc.isSome then 1 else 0) ≤ s.attrs.length) :
    ∃ t, registerCcc s ccc = .ok (t, 0) ∧
      Appends s t (ccc.map AttrSlot.overlayCcc).toList := by
  cases ccc with
  | none => exact ⟨s, rfl, rfl, rfl, (List.append_nil _).symm, rfl⟩
  | some ccc =>
      obtain ⟨t, pushed, grown⟩ := push_appends (.overlayCcc ccc) room
      refine ⟨t, ?_, grown⟩
      show (s.push _).map _ = _
      rw [pushed]
      rfl

/-- **One round** adds what it counts, if the array has room for what the first pass
counted. -/
theorem registerOne_appends (memory : VariableAddr → ZtacxVariable) (c : ZtacxBtCharacteristic)
    (room : s.attrCount + (4 + if c.ccc.isSome then 1 else 0) ≤ s.attrs.length) :
    ∃ t, registerOne memory s c = .ok (t, (appendedOne memory c).2) ∧
      Appends s t (appendedOne memory c).1 := by
  unfold registerOne appendedOne
  cases c.v with
  | none => exact ⟨s, rfl, rfl, rfl, (List.append_nil _).symm, rfl⟩
  | some addr =>
      obtain ⟨s₁, value, grown₁⟩ :=
        registerValue_appends (s := s) (c := c) addr (memory addr) (by omega)
      have count₁ : s₁.attrCount = s.attrCount + 3 := grown₁.count
      have length₁ := grown₁.length_eq
      simp only [value]
      cases c.cpf with
      | some cpf =>
          obtain ⟨s₂, given, grown₂⟩ := push_appends (s := s₁) (.overlayCpf cpf) (by omega)
          have count₂ : s₂.attrCount = s₁.attrCount + 1 := grown₂.count
          have length₂ := grown₂.length_eq
          obtain ⟨s₃, ccc, grown₃⟩ := registerCcc_appends (s := s₂) c.ccc (by omega)
          refine ⟨s₃, ?_, (grown₁.trans grown₂).trans grown₃⟩
          show ((s₁.push _).map _).bind _ = _
          rw [given]
          exact ccc
      | none =>
          cases kind : cpfOfKind (memory addr).kind with
          | none =>
              refine ⟨s₁, ?_, grown₁⟩
              show (registerCpf s₁ _ none).bind _ = _
              rw [registerCpf, kind]
              rfl
          | some cpf =>
              obtain ⟨s₂, stored, grown₂⟩ :=
                put_appends (s := s₁) (.attr (BT_GATT_CPF cpf)) (by omega)
              have count₂ : s₂.attrCount = s₁.attrCount := grown₂.count
              have length₂ := grown₂.length_eq
              obtain ⟨s₃, ccc, grown₃⟩ := registerCcc_appends (s := s₂) c.ccc (by omega)
              have grown := (grown₁.trans grown₂).trans grown₃
              rw [List.append_nil] at grown
              refine ⟨s₃, ?_, grown⟩
              show (registerCpf s₁ _ none).bind _ = _
              rw [registerCpf, kind]
              show ((s₁.put _).map _).bind _ = _
              rw [stored]
              exact ccc

/-- A round adds at most what the first pass counts for it. -/
theorem length_appendedOne (memory : VariableAddr → ZtacxVariable) (c : ZtacxBtCharacteristic) :
    (appendedOne memory c).1.length ≤ 4 + if c.ccc.isSome then 1 else 0 := by
  have ccc : (c.ccc.map AttrSlot.overlayCcc).toList.length = if c.ccc.isSome then 1 else 0 := by
    cases c.ccc <;> rfl
  unfold appendedOne
  cases c.v with
  | none => exact Nat.zero_le _
  | some addr =>
      cases c.cpf with
      | some cpf =>
          simp only [List.length_append, ccc]
          exact le_rfl
      | none =>
          dsimp only
          split
          · simp only [List.length_append, ccc, List.length_cons, List.length_nil]
            omega
          · show 3 ≤ 4 + _
            omega

/-- **The second pass** adds the slots of the table. -/
theorem registerEach_appends (memory : VariableAddr → ZtacxVariable)
    (chars : List ZtacxBtCharacteristic)
    (room : s.attrCount + attrsNeeded chars ≤ s.attrs.length) :
    ∃ t rc, registerEach memory s chars = .ok (t, rc) ∧ Appends s t (appendedBy memory chars) := by
  induction chars generalizing s with
  | nil => exact ⟨s, 0, rfl, rfl, rfl, (List.append_nil _).symm, rfl⟩
  | cons c chars ih =>
      have counted : attrsNeeded (c :: chars) =
          (4 + if c.ccc.isSome then 1 else 0) + attrsNeeded chars := rfl
      obtain ⟨t, one, grown⟩ := registerOne_appends (s := s) memory c (by omega)
      have short := length_appendedOne memory c
      have count := grown.count
      have length := grown.length_eq
      unfold registerEach appendedBy
      rw [one]
      by_cases failed : (appendedOne memory c).2 ≠ 0
      · refine ⟨t, _, if_pos failed, ?_⟩
        rw [if_pos failed, List.append_nil]
        exact grown
      · obtain ⟨u, rc, each, grown'⟩ := ih (s := t) (by omega)
        refine ⟨u, rc, (if_neg failed).trans each, ?_⟩
        rw [if_neg failed]
        exact grown.trans grown'

end Appends

/-! ## The calls on the default service -/

/-- A service that Bluetooth has not seen yet and that has these attributes. -/
structure Accumulated (s : BtGattService) (slots : List AttrSlot) : Prop where
  contents : s.contents = slots
  count : s.attrCount = slots.length
  unregistered : s.registered = false

section Calls

variable {env : RegisterEnv} (quiet : env.ok = false) (alloc : env.alloc = true)
  {s : BtGattService} {slots : List AttrSlot}

theorem accumulated_btDefaultService : Accumulated btDefaultService [] := ⟨rfl, rfl, rfl⟩

theorem Accumulated.counted (h : Accumulated s slots) : s.attrCount ≤ s.attrs.length := by
  have len := congrArg List.length h.contents
  rw [BtGattService.contents, List.length_take, ← h.count] at len
  omega

/-- Enlarging the array, or allocating it, keeps the attributes. -/
theorem Accumulated.allocate (h : Accumulated s slots) (count : ℕ) :
    Accumulated (s.allocate count) slots ∧
      (s.allocate count).attrs.length = s.attrCount + count := by
  have counted := h.counted
  unfold BtGattService.allocate
  by_cases some : s.attrCount ≠ 0
  · rw [if_pos some]
    have kept : (s.attrs.take (s.attrCount + count)).take s.attrCount =
        s.attrs.take s.attrCount := by
      rw [List.take_take, Nat.min_eq_left (Nat.le_add_right _ _)]
    refine ⟨⟨?_, h.count, h.unregistered⟩, ?_⟩
    · show (s.attrs.take (s.attrCount + count) ++ _).take s.attrCount = slots
      rw [List.take_append_of_le_length (by rw [List.length_take]; omega), kept]
      exact h.contents
    · show (s.attrs.take (s.attrCount + count) ++ List.replicate _ _).length = _
      rw [List.length_append, List.length_take, List.length_replicate]
      omega
  · have zero : s.attrCount = 0 := not_not.mp some
    have empty : slots = [] := List.eq_nil_of_length_eq_zero (h.count.symm.trans zero)
    rw [if_neg some, empty]
    refine ⟨⟨?_, zero, h.unregistered⟩, ?_⟩
    · show List.take s.attrCount _ = []
      rw [zero, List.take_zero]
    · show (List.replicate count AttrSlot.zeroed).length = _
      rw [List.length_replicate, zero, Nat.zero_add]

include quiet alloc

/-- **One table** is added behind the attributes, and fits the array it allocates. -/
theorem Accumulated.register (h : Accumulated s slots) (chars : List ZtacxBtCharacteristic) :
    ∃ t rc, ztacxBtCharacteristicRegister env s chars = .ok (t, rc) ∧
      Accumulated t (slots ++ appendedBy env.memory chars) ∧
      t.attrs.length = slots.length + attrsNeeded chars := by
  have same : ({ s with registered := false } : BtGattService) = s := by
    rw [← h.unregistered]
  obtain ⟨grown, length⟩ := h.allocate (attrsNeeded chars)
  obtain ⟨t, rc, each, appends⟩ :=
    registerEach_appends (s := s.allocate (attrsNeeded chars)) env.memory chars
      (by rw [length, grown.count, h.count])
  have after : Accumulated t (slots ++ appendedBy env.memory chars) := by
    refine ⟨by rw [appends.contents, grown.contents], ?_, ?_⟩
    · rw [appends.count, grown.count, List.length_append]
    · rw [appends.registered, grown.unregistered]
  refine ⟨t, rc, ?_, after, by rw [appends.length_eq, length, h.count]⟩
  unfold ztacxBtCharacteristicRegister
  rw [if_neg fun both => Bool.false_ne_true (h.unregistered.symm.trans both.1), same]
  simp only [alloc, if_true, each]
  show (if rc ≠ 0 then _ else _) = _
  split
  · rfl
  · rename_i zero
    rw [registerService, quiet, not_not.mp zero]
    rfl

/-- **Any number of tables** are added one behind the other. -/
theorem Accumulated.registerTables (h : Accumulated s slots)
    (tables : List (List ZtacxBtCharacteristic)) :
    ∃ t, Ztacx.registerTables env s tables = .ok t ∧
      Accumulated t (slots ++ tables.flatMap (appendedBy env.memory)) := by
  induction tables generalizing s slots with
  | nil => exact ⟨s, rfl, by rwa [List.flatMap_nil, List.append_nil]⟩
  | cons chars tables ih =>
      obtain ⟨t, rc, one, grown, -⟩ := h.register quiet alloc chars
      obtain ⟨u, rest, after⟩ := ih grown
      refine ⟨u, ?_, by rwa [List.flatMap_cons, ← List.append_assoc]⟩
      rw [Ztacx.registerTables, List.foldlM_cons, one]
      exact rest

/-- The array that tables without an attribute leave behind. -/
theorem registerTables_room {tables : List (List ZtacxBtCharacteristic)} {t : BtGattService}
    (ran : registerTables env btDefaultService tables = .ok t)
    (nothing : tables.flatMap (appendedBy env.memory) = []) :
    t.attrs.length = latestRoom tables := by
  rcases List.eq_nil_or_concat' tables with rfl | ⟨pre, chars, rfl⟩
  · cases ran
    rfl
  · obtain ⟨u, before, grown⟩ :=
      accumulated_btDefaultService.registerTables quiet alloc pre
    rw [List.flatMap_append, List.append_eq_nil_iff] at nothing
    rw [nothing.1, List.append_nil] at grown
    obtain ⟨t', rc, last, -, length⟩ := grown.register quiet alloc chars
    have same : registerTables env btDefaultService (pre ++ [chars]) = .ok t' := by
      rw [Ztacx.registerTables, List.foldlM_append, ← Ztacx.registerTables, before]
      show (Except.map Prod.fst _).bind _ = _
      rw [last]
      rfl
    cases ran.symm.trans same
    rw [length, latestRoom, List.getLast?_concat]
    exact Nat.zero_add _

omit quiet alloc in
/-- A declaration copied to where it was made room for. -/
theorem prepend_accumulates {declared front rest : List AttrSlot}
    (array : s.attrs = front ++ (slots ++ rest)) (room : front.length = declared.length)
    (count : s.attrCount = slots.length) (unregistered : s.registered = false) :
    ∃ t, s.prepend declared = .ok t ∧ Accumulated t (declared ++ slots) := by
  have fits : declared.length ≤ s.attrs.length := by
    rw [array, List.length_append, room]
    exact Nat.le_add_right _ _
  refine ⟨_, if_pos fits, ?_, ?_, unregistered⟩
  · show (declared ++ s.attrs.drop declared.length).take (s.attrCount + declared.length) = _
    rw [array, ← room, List.drop_left, ← List.append_assoc, room, count, Nat.add_comm,
      ← List.length_append, List.take_left]
  · show s.attrCount + declared.length = _
    rw [count, List.length_append, Nat.add_comm]

/-- **The declaration goes in front**, if there are attributes or an array that is
large enough. -/
theorem Accumulated.declare (h : Accumulated s slots) {declared : List BtGattAttr}
    (room : slots ≠ [] ∨ declared.length ≤ s.attrs.length) :
    ∃ t, ztacxBtServiceRegister env true (some s) declared = .ok (some t, 0) ∧
      Accumulated t (declared.map AttrSlot.attr ++ slots) := by
  have size : (declared.map AttrSlot.attr).length = declared.length := List.length_map _
  unfold ztacxBtServiceRegister
  simp only [alloc, quiet, if_true, Bool.false_eq_true, if_false]
  by_cases some : s.attrCount ≠ 0
  · obtain ⟨grown, length⟩ := h.allocate (declared.map AttrSlot.attr).length
    have front : ((s.allocate (declared.map AttrSlot.attr).length).attrs.take
        (declared.map AttrSlot.attr).length).length = (declared.map AttrSlot.attr).length := by
      rw [List.length_take, length]
      omega
    have back : (s.allocate (declared.map AttrSlot.attr).length).attrs.take s.attrCount =
        slots := by
      have contents := grown.contents
      rwa [BtGattService.contents, allocate_attrCount] at contents
    have array : (s.makeRoom (declared.map AttrSlot.attr).length).attrs =
        (s.allocate (declared.map AttrSlot.attr).length).attrs.take
          (declared.map AttrSlot.attr).length ++ (slots ++ []) := by
      rw [BtGattService.makeRoom, back, List.append_nil]
    obtain ⟨t, declares, after⟩ := prepend_accumulates array front h.count h.unregistered
    refine ⟨t, ?_, after⟩
    rw [if_pos some, declares]
    rfl
  · have empty : slots = [] :=
      List.eq_nil_of_length_eq_zero (h.count.symm.trans (not_not.mp some))
    have fits : declared.length ≤ s.attrs.length := room.resolve_left (not_not.mpr empty)
    have array : s.attrs = s.attrs.take declared.length ++
        (slots ++ s.attrs.drop declared.length) := by
      rw [empty, List.nil_append, List.take_append_drop]
    have front : (s.attrs.take declared.length).length = (declared.map AttrSlot.attr).length := by
      rw [List.length_take, size]
      omega
    obtain ⟨t, declares, after⟩ := prepend_accumulates array front h.count h.unregistered
    refine ⟨t, ?_, after⟩
    rw [if_neg some, declares]
    rfl

omit quiet alloc in
/-- A declaration that comes first, and finds no array or one that is too small. -/
theorem Accumulated.not_declare (h : Accumulated s []) {declared : List BtGattAttr}
    (none : s.attrs.length < declared.length) :
    ztacxBtServiceRegister env true (some s) declared =
      .error (if s.attrs = [] then .nullDeref else .outOfBounds) := by
  have zero : ¬ s.attrCount ≠ 0 := not_not.mpr h.count
  have overrun : ¬ (declared.map AttrSlot.attr).length ≤ s.attrs.length := by
    rw [List.length_map]
    omega
  unfold ztacxBtServiceRegister BtGattService.prepend
  simp only [if_neg zero, if_neg overrun]
  rfl

end Calls

/-! ## The result -/

/-- Only a table whose variables are all null adds nothing. -/
theorem appendedBy_eq_nil_iff {memory : VariableAddr → ZtacxVariable}
    {chars : List ZtacxBtCharacteristic} :
    appendedBy memory chars = [] ↔ ∀ c ∈ chars, c.v = none := by
  have one (c : ZtacxBtCharacteristic) : (appendedOne memory c).1 = [] ↔ c.v = none := by
    unfold appendedOne
    cases c.v with
    | none => simp
    | some addr =>
        cases c.cpf with
        | some cpf => simp
        | none =>
            dsimp only
            split <;> simp
  have ends (c : ZtacxBtCharacteristic) (null : c.v = none) : (appendedOne memory c).2 = 0 := by
    unfold appendedOne
    rw [null]
  induction chars with
  | nil => simp [appendedBy]
  | cons c chars ih =>
      rw [appendedBy, List.append_eq_nil_iff, one, List.forall_mem_cons]
      refine and_congr_right fun null => ?_
      rw [if_neg (not_not.mpr (ends c null))]
      exact ih

/-- **When the place of the declaration does not matter**, for every declaration and
all tables around it. -/
theorem defaultService_composes_iff {env : RegisterEnv} (quiet : env.ok = false)
    (alloc : env.alloc = true) (declared : List BtGattAttr)
    (before after : List (List ZtacxBtCharacteristic)) :
    Composes env declared before after ↔
      (∃ chars ∈ before, ∃ c ∈ chars, c.v.isSome) ∨ declared.length ≤ latestRoom before := by
  obtain ⟨s, ran, accumulated⟩ :=
    accumulated_btDefaultService.registerTables quiet alloc before
  rw [List.nil_append] at accumulated
  have some : before.flatMap (appendedBy env.memory) ≠ [] ↔
      ∃ chars ∈ before, ∃ c ∈ chars, c.v.isSome := by
    simp [List.flatMap_eq_nil_iff, appendedBy_eq_nil_iff, Option.isSome_iff_ne_none]
  have declares : Composes env declared before after ↔
      before.flatMap (appendedBy env.memory) ≠ [] ∨ declared.length ≤ s.attrs.length := by
    unfold Composes composeDefault
    rw [ran]
    constructor
    · rintro ⟨t, composed, -⟩
      by_contra neither
      rw [not_or, not_not, not_le] at neither
      rw [neither.1] at accumulated
      have failed : ztacxBtServiceRegister env true (Option.some s) declared = .error _ :=
        accumulated.not_declare neither.2
      change (ztacxBtServiceRegister _ _ _ _).bind _ = _ at composed
      rw [failed] at composed
      cases composed
    · intro room
      obtain ⟨t, declared', between⟩ := accumulated.declare quiet alloc room
      obtain ⟨u, rest, last⟩ := between.registerTables quiet alloc after
      refine ⟨u, ?_, ?_⟩
      · show (ztacxBtServiceRegister _ _ _ _).bind _ = _
        rw [declared']
        exact rest
      · rw [last.contents, List.flatMap_append, List.append_assoc]
  rw [declares, some]
  refine or_congr_right' fun nothing => ?_
  rw [registerTables_room quiet alloc ran (not_not.mp (mt some.mp nothing))]

/-! ### A service with one sensor -/

/-- The declaration of a service of the application's own. -/
def sensorService : List BtGattAttr := [BT_GATT_PRIMARY_SERVICE (.of 0)]

/-- The sensor has been registered when the service is declared. -/
theorem declared_last_composes : Composes (quietEnv 0) sensorService [[sensorChar]] [] :=
  (defaultService_composes_iff rfl rfl sensorService [[sensorChar]] []).mpr
    (.inl ⟨_, List.mem_cons_self, _, List.mem_cons_self, rfl⟩)

/-- The service is declared first: its declaration is copied to a null array. -/
theorem declared_first_not_composes :
    ¬ Composes (quietEnv 0) sensorService [] [[sensorChar]] := by
  rintro ⟨s, composed, -⟩
  have null : composeDefault (quietEnv 0) sensorService [] [[sensorChar]] =
      .error .nullDeref := rfl
  cases null.symm.trans composed

end Ztacx
