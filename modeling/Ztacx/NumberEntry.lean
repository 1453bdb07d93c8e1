import Mathlib.Data.Int.ModEq
import Ztacx.CModel.Decimal
import Ztacx.Variable

/-!
# Entering numbers

`ztacx_variable_value_set_string` gives a number to a variable by way of `atoi`:
the text becomes an `int`, and the `int` is converted to the type of the member.
Neither step fails.  `ZtacxValueKind.convert` is the second one, and a number is
representable in a kind when the conversion leaves it alone.

The way through `int` is wide enough for every kind but INT64.  So the setter
stores the number of a text exactly if the number is representable in the kind
and in an `int`; any other number is replaced by one that is, and the return code
is 0 nevertheless (`entersNumber_iff`).
-/

namespace Ztacx

open CModel

/-! ## Numbers in members -/

/-- The size of the member of a numeric kind. -/
def ZtacxValueKind.numberSize : ZtacxValueKind → Option ℕ
  | .bool => none
  | k => k.scalarSize

/-- Whether the member of a kind is of a signed type. -/
def ZtacxValueKind.signed : ZtacxValueKind → Bool
  | .int16 => true
  | .int32 => true
  | .int64 => true
  | _ => false

/-- The conversion of an integer to the type of a member of `n` bytes. -/
def ZtacxValueKind.convert (k : ZtacxValueKind) (n : ℕ) (x : ℤ) : ℤ :=
  if k.signed then Int.bmod x (256 ^ n) else x % (256 ^ n : ℕ)

/-- The numbers that a kind has. -/
def ZtacxValueKind.Representable (k : ZtacxValueKind) (x : ℤ) : Prop :=
  match k with
  | .byte => 0 ≤ x ∧ x ≤ 0xFF
  | .uint16 => 0 ≤ x ∧ x ≤ 0xFFFF
  | .int16 => -0x8000 ≤ x ∧ x ≤ 0x7FFF
  | .int32 => -0x80000000 ≤ x ∧ x ≤ 0x7FFFFFFF
  | .int64 => -0x8000000000000000 ≤ x ∧ x ≤ 0x7FFFFFFFFFFFFFFF
  | _ => False

instance decidableRepresentable (k : ZtacxValueKind) (x : ℤ) : Decidable (k.Representable x) :=
  match k with
  | .byte => inferInstanceAs (Decidable (0 ≤ x ∧ x ≤ 0xFF))
  | .uint16 => inferInstanceAs (Decidable (0 ≤ x ∧ x ≤ 0xFFFF))
  | .int16 => inferInstanceAs (Decidable (-0x8000 ≤ x ∧ x ≤ 0x7FFF))
  | .int32 => inferInstanceAs (Decidable (-0x80000000 ≤ x ∧ x ≤ 0x7FFFFFFF))
  | .int64 => inferInstanceAs (Decidable (-0x8000000000000000 ≤ x ∧ x ≤ 0x7FFFFFFFFFFFFFFF))
  | .string => isFalse id
  | .bool => isFalse id
  | .event => isFalse id

/-- The number in the member of a numeric kind. -/
def ZtacxVariable.number (v : ZtacxVariable) : ℤ :=
  let n := v.kind.scalarSize.getD 0
  v.kind.convert n (leNat (v.value.bytes.take n))

namespace ZtacxValueKind

variable {k : ZtacxValueKind} {n : ℕ}

theorem scalarSize_of_numberSize (h : k.numberSize = some n) : k.scalarSize = some n := by
  cases k <;> simp_all [numberSize]

/-- A representable number is one that the conversion leaves alone. -/
theorem representable_iff (h : k.numberSize = some n) {x : ℤ} :
    k.Representable x ↔ k.convert n x = x := by
  cases k <;> simp only [numberSize, scalarSize, Option.some.injEq, reduceCtorEq] at h <;>
    subst h <;>
    simp only [Representable, convert, signed, if_true, Bool.false_eq_true, if_false,
      Int.bmod_def] <;>
    grind

/-- What a member holds is representable. -/
theorem convert_convert (k : ZtacxValueKind) (n : ℕ) (x : ℤ) :
    k.convert n (k.convert n x) = k.convert n x := by
  unfold convert
  cases k.signed with
  | true => exact Int.bmod_bmod ..
  | false => exact Int.emod_emod_of_dvd x dvd_rfl

/-- The conversion only looks at the number modulo the size of the type. -/
theorem convert_congr (k : ZtacxValueKind) {x y : ℤ}
    (same : x % (256 ^ n : ℕ) = y % (256 ^ n : ℕ)) : k.convert n x = k.convert n y := by
  unfold convert
  cases k.signed with
  | true =>
      show Int.bmod x _ = Int.bmod y _
      rw [← Int.emod_bmod, same, Int.emod_bmod]
  | false => exact same

/-- An `int` has every number of a kind of at most four bytes. -/
theorem isInt_of_representable (h : k ≠ .int64) {x : ℤ} (fits : k.Representable x) : IsInt x := by
  cases k <;> simp only [Representable] at fits <;> unfold IsInt INT_MIN INT_MAX <;>
    first | omega | exact absurd rfl h

/-- Every `int` is representable as an INT64. -/
theorem representable_int64_of_isInt {x : ℤ} (fits : IsInt x) : int64.Representable x := by
  unfold IsInt INT_MIN INT_MAX at fits
  unfold Representable
  omega

end ZtacxValueKind

/-! ## Entering a number -/

section Entry

variable {v : ZtacxVariable} {n : ℕ}

theorem number_eq (h : v.kind.numberSize = some n) :
    v.number = v.kind.convert n (leNat (v.value.bytes.take n)) := by
  rw [ZtacxVariable.number, ZtacxValueKind.scalarSize_of_numberSize h]
  rfl

theorem representable_number (h : v.kind.numberSize = some n) :
    v.kind.Representable v.number := by
  rw [ZtacxValueKind.representable_iff h, number_eq h, ZtacxValueKind.convert_convert]

/-- The bytes of an `int` are the `int` modulo the size of the type. -/
theorem leNat_intBytes (hn : n ≤ 8) (x : BitVec 32) :
    (leNat (intBytes n x) : ℤ) % (256 ^ n : ℕ) = x.toInt % (256 ^ n : ℕ) := by
  have dvd : ((256 ^ n : ℕ) : ℤ) ∣ ((2 ^ 64 : ℕ) : ℤ) := by
    rw [Int.natCast_dvd_natCast]
    show 256 ^ n ∣ 256 ^ 8
    exact Nat.pow_dvd_pow 256 hn
  have wide : ((x.signExtend 64).toNat : ℤ) % (2 ^ 64 : ℕ) = x.toInt % (2 ^ 64 : ℕ) := by
    have := BitVec.toInt_eq_toNat_bmod (x.signExtend 64)
    rw [BitVec.toInt_signExtend_of_le (by decide)] at this
    rw [this, Int.bmod_emod]
  rw [intBytes, leNat_leBytes, Int.natCast_emod, Int.emod_emod_of_dvd _ dvd_rfl,
    ← Int.emod_emod_of_dvd _ dvd, wide, Int.emod_emod_of_dvd _ dvd]

/-- **What a text gives to a numeric variable**: the `int` that `atoi` makes of it,
converted to the kind. -/
theorem ztacxVariableValueSetString_number (atoi : CString → BitVec 32)
    (h : v.kind.numberSize = some n) (alloc : Bool) (text : CString) :
    ∃ r, ztacxVariableValueSetString atoi alloc v (some text) = .ok r ∧ r.rc = 0 ∧
      r.setting.kind = v.kind ∧ r.setting.number = v.kind.convert n (atoi text).toInt := by
  have size := ZtacxValueKind.scalarSize_of_numberSize h
  obtain ⟨member, value, parsed, held, ran⟩ :=
    ztacxVariableValueSetString_scalar atoi size alloc text
  have bytes : member = intBytes n (atoi text) := by
    cases hk : v.kind <;> rw [hk] at h size parsed <;>
      simp_all [ZtacxValueKind.numberSize, parsedValue, ZtacxValueKind.scalarSize]
  refine ⟨_, ran, rfl, rfl, ?_⟩
  have stored : (SetResult.stored v value).setting.number =
      v.kind.convert n (leNat (value.bytes.take n)) :=
    number_eq (v := { v with value := value }) h
  rw [stored, held, bytes]
  exact v.kind.convert_congr (leNat_intBytes (ZtacxValueKind.scalarSize_le size).2 _)

/-- **Success means the number was stored.**  A numeral that denotes a representable
number is accepted and the variable holds the number; any other is refused and
the variable keeps what it had. -/
def EntersNumber (overflow : CString → BitVec 32) (alloc : Bool) (v : ZtacxVariable)
    (minus : Bool) (digits : List (Fin 10)) : Prop :=
  ∃ r, ztacxVariableValueSetString (atoi overflow) alloc v (some (signedText minus digits)) =
      .ok r ∧
    if v.kind.Representable (signedInt minus digits) then
      r.rc = 0 ∧ r.setting.number = signedInt minus digits
    else r.rc ≠ 0 ∧ r.setting.number = v.number

/-- **When success means that.** -/
theorem entersNumber_iff (numeric : v.kind.numberSize = some n)
    (overflow : CString → BitVec 32) (alloc minus : Bool) (digits : List (Fin 10)) :
    EntersNumber overflow alloc v minus digits ↔
      v.kind.Representable (signedInt minus digits) ∧ IsInt (signedInt minus digits) := by
  obtain ⟨r, ran, rc, -, number⟩ := ztacxVariableValueSetString_number (atoi overflow)
    numeric alloc (signedText minus digits)
  have spelled := decimalInt_signedText minus digits
  constructor
  · rintro ⟨r', ran', outcome⟩
    cases ran.symm.trans ran'
    by_cases fits : v.kind.Representable (signedInt minus digits)
    · rw [if_pos fits, number] at outcome
      refine ⟨fits, ?_⟩
      by_cases wide : v.kind = .int64
      · -- what `atoi` returns is an `int`, and an INT64 takes it as it is
        have kept : v.kind.convert n (atoi overflow (signedText minus digits)).toInt =
            (atoi overflow (signedText minus digits)).toInt := by
          rw [← ZtacxValueKind.representable_iff numeric, wide]
          exact ZtacxValueKind.representable_int64_of_isInt (isInt_toInt _)
        rw [← outcome.2, kept]
        exact isInt_toInt _
      · exact ZtacxValueKind.isInt_of_representable wide fits
    · rw [if_neg fits] at outcome
      exact absurd rc outcome.1
  · rintro ⟨fits, int⟩
    refine ⟨r, ran, ?_⟩
    rw [if_pos fits, number, toInt_atoi (by rw [spelled]; exact int), spelled]
    exact ⟨rc, (ZtacxValueKind.representable_iff numeric).mp fits⟩

end Entry

/-- The duty cycle of a LED. -/
def ledDuty : ZtacxVariable where
  name := .ofString "duty"
  name_lt := by decide
  kind := .byte
  value := .zero
  onChange := none

/-- A duty of 50 is entered as 50. -/
theorem entersNumber_duty : EntersNumber (fun _ => 0) true ledDuty false [5, 0] :=
  (entersNumber_iff (n := 1) rfl (fun _ => 0) true false [5, 0]).mpr (by decide)

/-- **A duty of 300** is accepted and stored as 44. -/
theorem not_entersNumber_duty : ¬ EntersNumber (fun _ => 0) true ledDuty false [3, 0, 0] := by
  rintro ⟨r, ran, outcome⟩
  obtain ⟨r', ran', rc, -⟩ := ztacxVariableValueSetString_number (v := ledDuty) (n := 1)
    (atoi fun _ => 0) rfl true (signedText false [3, 0, 0])
  cases ran'.symm.trans ran
  have beyond : ¬ ledDuty.kind.Representable (signedInt false [3, 0, 0]) := by decide
  rw [if_neg beyond] at outcome
  exact outcome.1 rc

end Ztacx
