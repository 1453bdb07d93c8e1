import Ztacx.Bluetooth.GattString

/-!
# What a GATT write leaves behind

The switch of `bt_write_variable` once more, this time for the two things that
somebody who watches a variable wants to know of a write that went through: what
the member is afterwards, and whether the `on_change` work was submitted.

Every arm that accepts a write of a scalar ends up in a setter, so the work is
submitted (`btWriteVariable_reports`).  What is stored is another matter.  The
arms of BOOL, BYTE, UINT16 and INT16 store what the write asks for.  INT32 works
on a `uint16_t`, so it clears the upper half of the member.  INT64 writes into the
variable and then sets it to what it was before: `int64Arm_member` says that this
arm never changes a member, and by the missing `break` it is also where the
writes of the two narrower types end.
-/

namespace Ztacx

open CModel

/-- The scalar member that a write of part of it asks for; a bool is 0 or 1. -/
def writtenMember (v : ZtacxVariable) (n : ℕ) (payload : List UInt8) (offset : ℕ) : List UInt8 :=
  let member := splice (v.value.bytes.take n) offset payload
  if v.kind = .bool then boolBytes (leNat member ≠ 0) else member

section Arms

variable {alloc : Bool} {payload : List UInt8} {offset limit n : ℕ}
  {temporary : ZtacxVariable → Except Fault (List UInt8)}
  {setter : List UInt8 → ZtacxVariable → Except Fault SetResult} {next : GattExit}
  {w w' u : GattWrite} {rc : ℤ}

/-- A setter of scalars, called during a write. -/
theorem GattWrite.set_scalar {object : List UInt8} (size : w.v.kind.scalarSize = some n)
    (ran : w.set (fun v => ztacxVariableValueSet alloc v (some object)) = .ok u) :
    ∃ value, u = ⟨{ w.v with value := value }, w.submitted ++ w.v.onChange.toList⟩ ∧
      value.bytes.take n = object.take n := by
  obtain ⟨r, set, rfl⟩ := GattWrite.set_eq_ok ran
  obtain ⟨value, rfl, member⟩ := ztacxVariableValueSet_scalar_eq_ok size set
  exact ⟨value, rfl, member⟩

/-! ## The work -/

/-- An exit keeps the submissions, and leaves a scalar alone or submits its work. -/
def GattExit.Reports (exit : GattExit) : Prop :=
  ∀ {w w' rc n}, w.v.kind.scalarSize = some n → exit w = .ok (w', rc) →
    w.submitted ⊆ w'.submitted ∧ (w' = w ∨ w.v.onChange.toList ⊆ w'.submitted)

theorem breakArm_reports : GattExit.Reports (breakArm payload) := by
  intro w w' rc n _ ran
  cases ran
  exact ⟨List.Subset.refl _, .inl rfl⟩

theorem scalarArm_reports {object : List UInt8 → List UInt8}
    (sets : ∀ bytes v, setter bytes v = ztacxVariableValueSet alloc v (some (object bytes)))
    (reports : next.Reports) :
    GattExit.Reports (scalarArm payload offset limit temporary setter next) := by
  intro w w' rc n size ran
  rcases scalarArm_eq_ok ran with ⟨-, rfl⟩ | ⟨-, bytes, u, -, -, set, continues⟩
  · exact ⟨List.Subset.refl _, .inl rfl⟩
  · rw [show setter (splice bytes offset payload) = _ from funext (sets _)] at set
    obtain ⟨value, rfl, -⟩ := GattWrite.set_scalar size set
    obtain ⟨kept, -⟩ := reports (w := ⟨{ w.v with value := value }, _⟩) size continues
    exact ⟨List.Subset.trans (List.subset_append_left _ _) kept,
      .inr (List.Subset.trans (List.subset_append_right _ _) kept)⟩

theorem int64Arm_reports : GattExit.Reports (int64Arm alloc payload offset) := by
  intro w w' rc n size ran
  rcases int64Arm_eq_ok ran with ⟨-, rfl⟩ | ⟨-, old, value, u, -, -, set, rfl⟩
  · exact ⟨List.Subset.refl _, .inl rfl⟩
  · obtain ⟨value', rfl, -⟩ :=
      GattWrite.set_scalar (w := ⟨{ w.v with value := value }, _⟩) size set
    exact ⟨List.subset_append_left _ _, .inr (List.subset_append_right _ _)⟩

theorem int32Arm_reports : GattExit.Reports (int32Arm alloc payload offset) :=
  scalarArm_reports (fun _ _ => rfl) int64Arm_reports

/-! ## The member -/

/-- An exit leaves the member as it is. -/
theorem int64Arm_member (size : w.v.kind.scalarSize = some n)
    (ran : int64Arm alloc payload offset w = .ok (w', rc)) :
    w'.v.kind = w.v.kind ∧ w'.v.value.bytes.take n = w.v.value.bytes.take n := by
  rcases int64Arm_eq_ok ran with ⟨-, rfl⟩ | ⟨-, old, value, u, got, -, set, rfl⟩
  · exact ⟨rfl, rfl⟩
  · obtain ⟨value', rfl, member⟩ :=
      GattWrite.set_scalar (w := ⟨{ w.v with value := value }, _⟩) size set
    have hn := (ZtacxValueKind.scalarSize_le size).2
    have len := length_take_bytes size
    rw [ztacxVariableValueGetInt64, getScalar_of_le size hn] at got
    cases got
    refine ⟨rfl, ?_⟩
    show value'.bytes.take n = _
    rw [member, leBytes_toNat_ofNat (by norm_num) (by
      rw [List.length_append, len, List.length_replicate]
      omega), List.take_append_of_le_length len.ge, List.take_of_length_le len.le]

/-- The arm of INT32 works on two bytes, and clears the two above them. -/
theorem int32Arm_member (size : w.v.kind.scalarSize = some n) (wide : 2 ≤ n) (narrow : n ≤ 4)
    (fits : offset + payload.length ≤ 4)
    (ran : int32Arm alloc payload offset w = .ok (w', rc)) :
    w'.v.kind = w.v.kind ∧ offset + payload.length ≤ 2 ∧ w'.v.value.bytes.take n =
      (splice (w.v.value.bytes.take 2) offset payload ++ [0, 0]).take n := by
  rcases scalarArm_eq_ok ran with ⟨beyond, -⟩ | ⟨-, bytes, u, got, inside, set, continues⟩
  · omega
  · have len := length_take_bytes size
    have low : bytes = w.v.value.bytes.take 2 := by
      rw [ztacxVariableValueGetInt32, getScalar_of_le size narrow] at got
      cases got
      show leBytes 2 (BitVec.setWidth 16 (BitVec.ofNat 32 _)).toNat = _
      rw [BitVec.toNat_setWidth, BitVec.toNat_ofNat, Nat.mod_mod_of_dvd _ (by norm_num),
        show (2 : ℕ) ^ 16 = 256 ^ 2 by norm_num, leBytes_mod, leBytes_leNat_of_le (by
          rw [List.length_append, len]
          omega), List.take_append_of_le_length (by omega), List.take_take, min_eq_left wide]
    have width : bytes.length = 2 := by
      rw [low, List.length_take, w.v.value.bytes_length]
      rfl
    have stored : (splice bytes offset payload).length = 2 := by rw [length_splice inside, width]
    obtain ⟨value, rfl, member⟩ := GattWrite.set_scalar size set
    obtain ⟨kind, kept⟩ := int64Arm_member (w := ⟨{ w.v with value := value }, _⟩) size continues
    have small : leNat (splice bytes offset payload) < 2 ^ 16 := by
      have := leNat_lt (splice bytes offset payload)
      rwa [stored] at this
    refine ⟨kind, by omega, kept.trans (member.trans ?_)⟩
    rw [BitVec.toNat_setWidth, BitVec.toNat_ofNat, Nat.mod_eq_of_lt small,
      Nat.mod_eq_of_lt (small.trans (by norm_num)), leBytes_leNat_wider _ (by omega), stored, low]
    rfl

/-- Writing the same bytes once more changes nothing. -/
theorem splice_splice {object : List UInt8} (fits : offset + payload.length ≤ object.length) :
    splice (splice object offset payload) offset payload = splice object offset payload := by
  have front : (object.take offset).length = offset := by
    rw [List.length_take]
    omega
  have split : splice object offset payload =
      object.take offset ++ (payload ++ object.drop (offset + payload.length)) :=
    List.append_assoc ..
  have again := splice_append_left (object.take offset)
    (payload ++ object.drop (offset + payload.length)) payload
  rwa [front, List.drop_left, ← split] at again

/-- The arm of INT16 stores the bytes, and so do the arms below it. -/
theorem int16Arm_member (size : w.v.kind.scalarSize = some 2)
    (fits : offset + payload.length ≤ 2)
    (ran : int16Arm alloc payload offset w = .ok (w', rc)) :
    w'.v.kind = w.v.kind ∧
      w'.v.value.bytes.take 2 = splice (w.v.value.bytes.take 2) offset payload := by
  rcases scalarArm_eq_ok ran with ⟨beyond, -⟩ | ⟨-, bytes, u, got, inside, set, continues⟩
  · omega
  · obtain ⟨self, len⟩ := getScalar_take size
    have low : bytes = w.v.value.bytes.take 2 := by
      rw [ztacxVariableValueGetInt16, self] at got
      cases got
      exact leBytes_toNat_ofNat (by norm_num) len
    have stored : (splice bytes offset payload).length = 2 := by rw [length_splice inside, low, len]
    obtain ⟨value, rfl, member⟩ := GattWrite.set_scalar size set
    rw [leBytes_toNat_ofNat (by norm_num) stored, List.take_of_length_le stored.le] at member
    obtain ⟨kind, -, kept⟩ := int32Arm_member (w := ⟨{ w.v with value := value }, _⟩) size le_rfl
      (by norm_num) (by omega) continues
    refine ⟨kind, kept.trans ?_⟩
    show (splice (value.bytes.take 2) offset payload ++ [0, 0]).take 2 = _
    rw [member, splice_splice inside, List.take_append_of_le_length stored.ge,
      List.take_of_length_le stored.le, low]

/-- An arm with its own `break` stores what it hands to the setter. -/
theorem scalarArm_member {object : List UInt8 → List UInt8} {v : ZtacxVariable}
    (size : v.kind.scalarSize = some n)
    (sets : ∀ bytes v, setter bytes v = ztacxVariableValueSet alloc v (some (object bytes)))
    (fits : offset + payload.length ≤ limit)
    (ran : scalarArm payload offset limit temporary setter (breakArm payload) ⟨v, []⟩ =
      .ok (w', rc)) :
    w'.v.kind = v.kind ∧ ∃ bytes, temporary v = .ok bytes ∧
      offset + payload.length ≤ bytes.length ∧
      w'.v.value.bytes.take n = (object (splice bytes offset payload)).take n := by
  rcases scalarArm_eq_ok ran with ⟨beyond, -⟩ | ⟨-, bytes, u, got, inside, set, continues⟩
  · omega
  · rw [show setter (splice bytes offset payload) = _ from funext (sets _)] at set
    obtain ⟨value, rfl, member⟩ := GattWrite.set_scalar (w := ⟨v, []⟩) size set
    cases continues
    exact ⟨rfl, bytes, got, inside, member⟩

/-- An arm whose temporary has room for the object stores the object written over. -/
theorem scalarArm_splice {object : List UInt8 → List UInt8} {v : ZtacxVariable}
    (size : v.kind.scalarSize = some n)
    (sets : ∀ bytes v, setter bytes v = ztacxVariableValueSet alloc v (some (object bytes)))
    (whole : ∀ bytes, bytes.length = n → object bytes = bytes)
    (reads : temporary v = .ok (v.value.bytes.take n))
    (fits : offset + payload.length ≤ n) (wide : n ≤ limit)
    (ran : scalarArm payload offset limit temporary setter (breakArm payload) ⟨v, []⟩ =
      .ok (w', rc)) :
    w'.v.kind = v.kind ∧
      w'.v.value.bytes.take n = splice (v.value.bytes.take n) offset payload := by
  have len := (getScalar_take size).2
  have width : (splice (v.value.bytes.take n) offset payload).length = n := by
    rw [length_splice (by omega), len]
  obtain ⟨same, bytes, got, -, member⟩ := scalarArm_member size sets (by omega) ran
  cases reads.symm.trans got
  refine ⟨same, member.trans ?_⟩
  rw [whole _ width]
  exact List.take_of_length_le width.le

end Arms

/-! ## Kind by kind -/

section Kinds

variable {atoi : CString → BitVec 32} {alloc reallocs : Bool} {v : ZtacxVariable}
  {payload : List UInt8} {offset n : ℕ} {w : GattWrite} {rc : ℤ}

/-- **A write of a scalar that went through** left the variable alone, or
submitted its work. -/
theorem btWriteVariable_reports (size : v.kind.scalarSize = some n)
    (ran : btWriteVariable atoi alloc reallocs v payload offset = .ok (w, rc)) :
    w = ⟨v, []⟩ ∨ v.onChange.toList ⊆ w.submitted := by
  unfold btWriteVariable at ran
  cases kind : v.kind with
  | string => rw [kind] at size; cases size
  | event => rw [kind] at size; cases size
  | bool =>
      rw [kind] at ran
      exact (scalarArm_reports (fun _ _ => rfl) breakArm_reports size ran).2
  | byte =>
      rw [kind] at ran
      exact (scalarArm_reports (fun _ _ => rfl) breakArm_reports size ran).2
  | uint16 =>
      rw [kind] at ran
      exact (scalarArm_reports (fun _ _ => rfl) breakArm_reports size ran).2
  | int16 =>
      rw [kind] at ran
      exact (scalarArm_reports (fun _ _ => rfl) int32Arm_reports size ran).2
  | int32 =>
      rw [kind] at ran
      exact (int32Arm_reports size ran).2
  | int64 =>
      rw [kind] at ran
      exact (int64Arm_reports size ran).2

/-- A bool that is read and written out again. -/
theorem boolBytes_splice {object : List UInt8} (len : object.length = 1)
    (fits : offset + payload.length ≤ 1) :
    boolBytes (leNat (splice (boolBytes (leNat object ≠ 0)) offset payload) ≠ 0) =
      boolBytes (leNat (splice object offset payload) ≠ 0) := by
  cases payload with
  | nil =>
      rw [splice_nil, splice_nil]
      by_cases zero : leNat object = 0 <;> simp [boolBytes, leNat, zero]
  | cons b payload =>
      have first : offset = 0 := by simp at fits; omega
      have single : payload = [] := List.length_eq_zero_iff.mp (by simp at fits; omega)
      obtain ⟨c, rfl⟩ := List.length_eq_one_iff.mp len
      rw [first, single, splice_zero, splice_zero]
      rfl

/-- A write that fits, for the kinds whose arm stores what it is asked to. -/
theorem btWriteVariable_member (size : v.kind.scalarSize = some n)
    (fits : offset + payload.length ≤ n)
    (kept : v.kind ≠ .int32 ∧ v.kind ≠ .int64)
    (ran : btWriteVariable atoi alloc reallocs v payload offset = .ok (w, rc)) :
    w.v.kind = v.kind ∧ w.v.value.bytes.take n = writtenMember v n payload offset := by
  obtain ⟨self, len⟩ := getScalar_take size
  unfold btWriteVariable at ran
  unfold writtenMember
  cases kind : v.kind with
  | string => rw [kind] at size; cases size
  | event => rw [kind] at size; cases size
  | int32 => exact absurd kind kept.1
  | int64 => exact absurd kind kept.2
  | bool =>
      rw [kind] at ran
      cases kind ▸ size
      obtain ⟨same, bytes, got, -, member⟩ := scalarArm_member size (fun _ _ => rfl) fits ran
      rw [ztacxVariableValueGetBool, self] at got
      cases got
      refine ⟨same.trans kind, member.trans ?_⟩
      rw [if_pos rfl]
      exact congrArg (List.take 1) (boolBytes_splice len fits)
  | byte =>
      rw [kind] at ran
      cases kind ▸ size
      have reads : (ztacxVariableValueGetByte v).map (fun x => leBytes 1 x.toNat) =
          .ok (v.value.bytes.take 1) := by
        rw [ztacxVariableValueGetByte, self]
        exact congrArg Except.ok (leBytes_toNat_ofNat (by norm_num) len)
      obtain ⟨same, member⟩ := scalarArm_splice size (fun _ _ => rfl)
        (fun _ => leBytes_toNat_ofNat (by norm_num)) reads fits one_le_two ran
      exact ⟨same.trans kind, member⟩
  | uint16 =>
      rw [kind] at ran
      cases kind ▸ size
      have reads : (ztacxVariableValueGetUint16 v).map (fun x => leBytes 2 x.toNat) =
          .ok (v.value.bytes.take 2) := by
        rw [ztacxVariableValueGetUint16, self]
        exact congrArg Except.ok (leBytes_toNat_ofNat (by norm_num) len)
      obtain ⟨same, member⟩ := scalarArm_splice size (fun _ _ => rfl)
        (fun _ => leBytes_toNat_ofNat (by norm_num)) reads fits le_rfl ran
      exact ⟨same.trans kind, member⟩
  | int16 =>
      rw [kind] at ran
      cases kind ▸ size
      obtain ⟨same, member⟩ := int16Arm_member size fits ran
      exact ⟨same.trans kind, member⟩

/-- A write of INT32 that leaves the member as it was asked for no more than that. -/
theorem btWriteVariable_int32_unchanged (kind : v.kind = .int32)
    (fits : offset + payload.length ≤ 4)
    (ran : btWriteVariable atoi alloc reallocs v payload offset = .ok (w, rc))
    (same : w.v.value.bytes.take 4 = v.value.bytes.take 4) :
    splice (v.value.bytes.take 4) offset payload = v.value.bytes.take 4 := by
  have size : v.kind.scalarSize = some 4 := by rw [kind]; rfl
  unfold btWriteVariable at ran
  rw [kind] at ran
  obtain ⟨-, low, member⟩ := int32Arm_member size (by norm_num) le_rfl fits ran
  have two : (v.value.bytes.take 2).length = 2 := by
    rw [List.length_take, v.value.bytes_length]
    rfl
  have width : (splice (v.value.bytes.take 2) offset payload).length = 2 := by
    rw [length_splice (by omega), two]
  have four : (splice (v.value.bytes.take 2) offset payload ++ [0, 0]).length ≤ 4 := by
    rw [List.length_append, width]
    rfl
  have whole : splice (v.value.bytes.take 2) offset payload ++ [0, 0] = v.value.bytes.take 4 := by
    rw [← same, member]
    exact (List.take_of_length_le four).symm
  have kept : splice (v.value.bytes.take 2) offset payload = v.value.bytes.take 2 := by
    have front := congrArg (List.take 2) whole
    rwa [List.take_append_of_le_length width.ge, List.take_of_length_le width.le,
      List.take_take] at front
  -- the upper half was zero before, as the arm leaves it
  have halves : v.value.bytes.take 4 = v.value.bytes.take 2 ++ (v.value.bytes.drop 2).take 2 :=
    List.take_add (i := 2) (j := 2)
  have front : (splice (v.value.bytes.take 2 ++ (v.value.bytes.drop 2).take 2) offset payload) =
      splice (v.value.bytes.take 2) offset payload ++ (v.value.bytes.drop 2).take 2 := by
    unfold splice
    rw [List.take_append_of_le_length (by omega), List.drop_append_of_le_length (by omega)]
    simp
  rw [halves, front, kept]

/-- **A write of a scalar that fits and leaves the member as it was** asked for
the value the variable had, unless it is a write of an INT64. -/
theorem btWriteVariable_unchanged (size : v.kind.scalarSize = some n)
    (fits : offset + payload.length ≤ n) (narrow : v.kind ≠ .int64)
    (ran : btWriteVariable atoi alloc reallocs v payload offset = .ok (w, rc))
    (same : w.v.typedValue = v.typedValue) :
    .scalar (writtenMember v n payload offset) = v.typedValue := by
  rw [ZtacxVariable.typedValue_of_scalar size] at same ⊢
  by_cases kind : v.kind = .int32
  · have four : n = 4 := by
      rw [kind] at size
      cases size
      rfl
    subst four
    have own : w.v.kind = v.kind := by
      unfold btWriteVariable at ran
      rw [kind] at ran
      exact (int32Arm_member size (by norm_num) le_rfl fits ran).1
    rw [ZtacxVariable.typedValue_of_scalar (own ▸ size)] at same
    have member := TypedValue.scalar.inj same
    unfold writtenMember
    rw [if_neg (by rw [kind]; decide)]
    exact congrArg TypedValue.scalar (btWriteVariable_int32_unchanged kind fits ran member)
  · obtain ⟨own, member⟩ := btWriteVariable_member size fits ⟨kind, narrow⟩ ran
    rw [ZtacxVariable.typedValue_of_scalar (own ▸ size)] at same
    rw [← member]
    exact same

/-- A write of a scalar that does not fit, if it goes through, does nothing. -/
theorem btWriteVariable_beyond (size : v.kind.scalarSize = some n)
    (beyond : n < offset + payload.length)
    (ran : btWriteVariable atoi alloc reallocs v payload offset = .ok (w, rc)) : w = ⟨v, []⟩ := by
  unfold btWriteVariable at ran
  cases kind : v.kind with
  | string => rw [kind] at size; cases size
  | event => rw [kind] at size; cases size
  | int64 =>
      rw [kind] at ran size
      cases size
      rcases int64Arm_eq_ok ran with ⟨-, same⟩ | ⟨fits, -⟩
      · exact same
      · omega
  | byte =>
      rw [kind] at ran
      obtain ⟨self, len⟩ := getScalar_take size
      rw [kind] at size
      cases size
      rcases scalarArm_eq_ok ran with ⟨-, same⟩ | ⟨-, bytes, u, got, inside, -, -⟩
      · exact same
      · have temporary : bytes.length = 1 := by
          obtain ⟨x, -, rfl⟩ := map_eq_ok_iff.mp got
          exact length_leBytes 1 _
        omega
  | _ =>
      rw [kind] at ran size
      cases size
      rcases scalarArm_eq_ok ran with ⟨-, same⟩ | ⟨fits, -⟩
      · exact same
      · omega

/-- **A write of an INT64 that fits** submits the work and changes nothing. -/
theorem btWriteVariable_int64 (kind : v.kind = .int64) (fits : offset + payload.length ≤ 8)
    (ran : btWriteVariable atoi alloc reallocs v payload offset = .ok (w, rc)) :
    w.v.typedValue = v.typedValue ∧ v.onChange.toList ⊆ w.submitted := by
  have size : v.kind.scalarSize = some 8 := by rw [kind]; rfl
  unfold btWriteVariable at ran
  rw [kind] at ran
  obtain ⟨own, member⟩ := int64Arm_member size ran
  refine ⟨?_, ?_⟩
  · rw [ZtacxVariable.typedValue_of_scalar (own ▸ size), ZtacxVariable.typedValue_of_scalar size,
      member]
  · rcases int64Arm_eq_ok ran with ⟨beyond, -⟩ | ⟨-, old, value, u, -, -, set, rfl⟩
    · omega
    · obtain ⟨value', rfl, -⟩ :=
        GattWrite.set_scalar (w := ⟨{ v with value := value }, []⟩) size set
      exact List.subset_append_right _ _

/-- Such a write goes through. -/
theorem btWriteVariable_int64_ok (kind : v.kind = .int64) (fits : offset + payload.length ≤ 8) :
    ∃ w rc, btWriteVariable atoi alloc reallocs v payload offset = .ok (w, rc) := by
  have size : v.kind.scalarSize = some 8 := by rw [kind]; rfl
  have got : ∃ old, ztacxVariableValueGetInt64 v = .ok old := by
    rw [ztacxVariableValueGetInt64, getScalar_self size]
    exact ⟨_, rfl⟩
  obtain ⟨old, got⟩ := got
  obtain ⟨value, stored, -, -⟩ := v.value.store_of_le fits
  obtain ⟨value', set, -, -⟩ := ztacxVariableValueSet_spec (v := { v with value := value }) size
    alloc (length_leBytes 8 old.toNat)
  have dispatch : btWriteVariable atoi alloc reallocs v payload offset =
      int64Arm alloc payload offset ⟨v, []⟩ := by
    unfold btWriteVariable
    rw [kind]
  refine ⟨⟨{ v with value := value' }, v.onChange.toList⟩,
    BT_GATT_ERR BT_ATT_ERR_INVALID_OFFSET, ?_⟩
  rw [dispatch]
  unfold int64Arm
  rw [if_neg (by omega), got]
  show ((v.value.store offset payload).bind _) = _
  rw [stored]
  show (GattWrite.set _ _).bind _ = _
  unfold GattWrite.set ztacxVariableValueSetInt64
  dsimp only
  rw [set]
  rfl

end Kinds

end Ztacx
