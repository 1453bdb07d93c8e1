import Ztacx.Variable

/-!
# Reading a variable into a buffer

A caller of `ztacx_variable_value_get` hands over a buffer and its size, and
relies on the size being respected and on the return code telling whether the
value is there (`ReadOutcome`).

Two kinds of call break that.  The scalar arms do not look at the size and write
their whole member.  The STRING arm measures the text before it asks whether
there is one; the answer to a null pointer further down is never reached.
`readsSafely_iff` says that these are all.
-/

namespace Ztacx

open CModel

/-- The object that a reader asks for: the text of a STRING with its terminator,
where a null pointer stands for the empty text, or the member of a scalar.
Nothing is copied out of an EVENT. -/
def ZtacxVariable.wholeValue (v : ZtacxVariable) : Option (List UInt8) :=
  match v.kind with
  | .string => some (v.value.valString.text.getD .empty).stored
  | .event => none
  | k => some (v.value.bytes.take (k.scalarSize.getD 0))

/-- The whole value fits a buffer of `valueSize` bytes. -/
def ZtacxVariable.Fits (v : ZtacxVariable) (valueSize : ℤ) : Prop :=
  ∃ object, v.wholeValue = some object ∧ (object.length : ℤ) ≤ valueSize

/-- What a reader relies on, of the bytes written and the return code. -/
structure ReadOutcome (v : ZtacxVariable) (valueSize : ℤ) (written : List UInt8) (rc : ℤ) :
    Prop where
  bounded : written.length ≤ valueSize.toNat
  rc_eq_zero_iff : rc = 0 ↔ v.Fits valueSize
  holds : rc = 0 → ∃ object, v.wholeValue = some object ∧ object <+: written
  refused : rc ≠ 0 → rc < 0 ∧ written = []

/-- **A safe read.** -/
def ReadsSafely (v : ZtacxVariable) (valueSize : ℤ) : Prop :=
  ∃ written rc, ztacxVariableValueGet v valueSize = .ok (written, rc) ∧
    ReadOutcome v valueSize written rc

/-- A buffer that takes the member of a scalar, and a string that is not null. -/
structure ReadPrecondition (v : ZtacxVariable) (valueSize : ℤ) : Prop where
  room : ∀ n, v.kind.scalarSize = some n → (n : ℤ) ≤ valueSize
  text : v.kind = .string → valueSize < 1 ∨ v.value.valString.text ≠ none

section Read

variable {v : ZtacxVariable} {valueSize : ℤ}

theorem wholeValue_of_string (kind : v.kind = .string) :
    v.wholeValue = some (v.value.valString.text.getD .empty).stored := by
  simp [ZtacxVariable.wholeValue, kind]

theorem wholeValue_of_scalar {n : ℕ} (h : v.kind.scalarSize = some n) :
    v.wholeValue = some (v.value.bytes.take n) := by
  cases kind : v.kind <;> simp_all [ZtacxVariable.wholeValue, ZtacxValueKind.scalarSize]

theorem length_stored (text : CString) : text.stored.length = text.strlen + 1 := by
  simp [CString.stored, CString.strlen]

/-- A fit is about the one object there is. -/
theorem fits_iff {object : List UInt8} (whole : v.wholeValue = some object) :
    v.Fits valueSize ↔ (object.length : ℤ) ≤ valueSize := by
  constructor
  · rintro ⟨object', same, fits⟩
    cases whole.symm.trans same
    exact fits
  · intro fits
    exact ⟨object, whole, fits⟩

/-- No text fits a buffer of no size. -/
theorem not_fits_of_lt_one (kind : v.kind = .string) (small : valueSize < 1) :
    ¬ v.Fits valueSize := by
  rw [fits_iff (wholeValue_of_string kind), length_stored]
  omega

/-- A refusal writes nothing. -/
theorem ReadOutcome.of_refused {rc : ℤ} (negative : rc < 0) (long : ¬ v.Fits valueSize) :
    ReadOutcome v valueSize [] rc where
  bounded := Nat.zero_le _
  rc_eq_zero_iff := iff_of_false negative.ne long
  holds := fun zero => absurd zero negative.ne
  refused := fun _ => ⟨negative, rfl⟩

/-- A copy that fills the buffer at most. -/
theorem ReadOutcome.of_copied {object written : List UInt8} (whole : v.wholeValue = some object)
    (copied : object <+: written) (bounded : (written.length : ℤ) ≤ valueSize) :
    ReadOutcome v valueSize written 0 where
  bounded := by omega
  rc_eq_zero_iff := by
    have shorter := copied.length_le
    exact iff_of_true rfl ((fits_iff whole).mpr (by omega))
  holds := fun _ => ⟨object, whole, copied⟩
  refused := fun nonzero => absurd rfl nonzero

/-- The STRING arm on a text: a copy padded to the size of the buffer, or `-E2BIG`. -/
theorem readsSafely_text (kind : v.kind = .string) {text : CString}
    (points : v.value.valString.text = some text) : ReadsSafely v valueSize := by
  have whole : v.wholeValue = some text.stored := by
    rw [wholeValue_of_string kind, points]
    rfl
  have deref : v.value.valString.deref = .ok text := by
    rw [StringPtr.deref_eq, points]
    rfl
  by_cases small : valueSize < 1
  · refine ⟨[], -E2BIG, ?_, .of_refused (by decide) (not_fits_of_lt_one kind small)⟩
    simp only [ztacxVariableValueGet, kind, if_pos small]
  · by_cases long : valueSize ≤ text.strlen
    · refine ⟨[], -E2BIG, ?_, .of_refused (by decide) ?_⟩
      · simp only [ztacxVariableValueGet, kind, if_neg small, deref, Except.map, if_pos long]
      · rw [fits_iff whole, length_stored]
        omega
    · refine ⟨text.bytes ++ List.replicate (valueSize.toNat - text.strlen) 0, 0, ?_,
        .of_copied whole ?_ ?_⟩
      · simp only [ztacxVariableValueGet, kind, if_neg small, deref, Except.map, if_neg long]
      · -- at least one NUL of the padding is the terminator
        obtain ⟨pad, hpad⟩ : ∃ pad, valueSize.toNat - text.strlen = pad + 1 :=
          ⟨valueSize.toNat - text.strlen - 1, by omega⟩
        rw [hpad, List.replicate_succ]
        exact ⟨List.replicate pad 0, by simp [CString.stored]⟩
      · have : text.bytes.length = text.strlen := rfl
        rw [List.length_append, List.length_replicate]
        omega

/-- The STRING arm on a null pointer: with room for a terminator, `strlen` faults. -/
theorem readsSafely_null (kind : v.kind = .string) (null : v.value.valString.text = none) :
    ReadsSafely v valueSize ↔ valueSize < 1 := by
  have deref : v.value.valString.deref = .error .nullDeref := by
    rw [StringPtr.deref_eq, null]
    rfl
  constructor
  · rintro ⟨written, rc, ran, -⟩
    by_contra room
    simp only [ztacxVariableValueGet, kind, if_neg room, deref, Except.map, reduceCtorEq] at ran
  · intro small
    refine ⟨[], -E2BIG, ?_, .of_refused (by decide) (not_fits_of_lt_one kind small)⟩
    simp only [ztacxVariableValueGet, kind, if_pos small]

/-- A scalar arm writes its member whatever the size of the buffer. -/
theorem readsSafely_scalar {n : ℕ} (h : v.kind.scalarSize = some n) :
    ReadsSafely v valueSize ↔ (n : ℤ) ≤ valueSize := by
  have len : (v.value.bytes.take n).length = n := by
    have := (ZtacxValueKind.scalarSize_le h).2
    rw [List.length_take, v.value.bytes_length]
    omega
  have positive := (ZtacxValueKind.scalarSize_le h).1
  constructor
  · rintro ⟨written, rc, ran, outcome⟩
    cases (ztacxVariableValueGet_scalar h valueSize).symm.trans ran
    have bounded := outcome.bounded
    omega
  · intro room
    exact ⟨_, _, ztacxVariableValueGet_scalar h valueSize,
      .of_copied (wholeValue_of_scalar h) List.prefix_rfl (by omega)⟩

theorem readsSafely_event (kind : v.kind = .event) : ReadsSafely v valueSize := by
  refine ⟨[], -EINVAL, ?_, .of_refused (by decide) ?_⟩
  · simp only [ztacxVariableValueGet, kind]
  · rintro ⟨object, whole, -⟩
    simp [ZtacxVariable.wholeValue, kind] at whole

end Read

/-- **When a read is safe**: the buffer takes the member of a scalar, and a STRING
read into a buffer of any size is not null. -/
theorem readsSafely_iff (v : ZtacxVariable) (valueSize : ℤ) :
    ReadsSafely v valueSize ↔ ReadPrecondition v valueSize := by
  cases size : v.kind.scalarSize with
  | some n =>
      rw [readsSafely_scalar size]
      constructor
      · intro room
        refine ⟨fun m same => ?_, fun string => ?_⟩
        · cases size.symm.trans same
          exact room
        · exact absurd string (ZtacxValueKind.ne_string_and_event size).1
      · intro pre
        exact pre.room n size
  | none =>
      have noScalar : ∀ n, v.kind.scalarSize = some n → (n : ℤ) ≤ valueSize := fun n same => by
        cases size.symm.trans same
      rcases ZtacxValueKind.string_or_event size with kind | kind
      · cases points : v.value.valString.text with
        | none =>
            rw [readsSafely_null kind points]
            constructor
            · intro small
              exact ⟨noScalar, fun _ => .inl small⟩
            · intro pre
              exact (pre.text kind).resolve_right (not_not.mpr points)
        | some text =>
            refine iff_of_true (readsSafely_text kind points) ⟨noScalar, fun _ => .inr ?_⟩
            rw [points]
            exact Option.some_ne_none text
      · refine iff_of_true (readsSafely_event kind) ⟨noScalar, fun string => ?_⟩
        cases kind.symm.trans string

/-- A LoRaWAN identity that has never been set. -/
def unsetJoinEui : ZtacxVariable where
  name := .ofString "lorawan_join_eui"
  name_lt := by decide
  kind := .string
  value := .zero
  onChange := none

/-- The level of the DAC, which `dac_update` reads as a `bool`. -/
def dacLevel : ZtacxVariable where
  name := .ofString "dac_level"
  name_lt := by decide
  kind := .int32
  value := .zero
  onChange := none

/-- **Two reads that go wrong**: a STRING that is null, and an INT32 in a buffer
of one byte. -/
theorem not_readsSafely :
    ¬ ReadsSafely unsetJoinEui 16 ∧ ¬ ReadsSafely dacLevel 1 := by
  constructor
  · rw [readsSafely_null rfl rfl]
    decide
  · rw [readsSafely_scalar (v := dacLevel) (n := 4) rfl]
    decide

end Ztacx
