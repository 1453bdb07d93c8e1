import Mathlib.Algebra.Ring.Nat
import Ztacx.CModel.Strtoul

/-!
# Hexadecimal text

On a text of hexadecimal digits `strtoul` is plain positional notation
(`strtoul16_digits`): no digit is white space, a sign or the `x` of a prefix, so
nothing in front is skipped.

`HexSpelling` relates bytes to the texts that spell them with two digits each, and
`lowerHex` is the spelling that `%02x` prints.
-/

namespace Ztacx.CModel

/-! ## Digits -/

/-- What sets a digit apart from everything `strtoul` skips. -/
theorem hexDigit_plain {c : UInt8} {d : ℕ} (digit : hexDigit c = some d) :
    d < 16 ∧ isSpace c = false ∧ c ≠ 45 ∧ c ≠ 43 ∧ c ≠ 120 ∧ c ≠ 88 ∧ c ≠ 0 := by
  unfold hexDigit at digit
  simp only [isSpace, UInt8.le_iff_toNat_le, ne_eq, ← UInt8.toNat_inj] at *
  simp only [UInt8.reduceToNat, Bool.or_eq_false_iff, decide_eq_false_iff_not,
    Bool.and_eq_false_iff] at *
  split at digit
  · cases digit
    omega
  · split at digit
    · cases digit
      omega
    · split at digit
      · cases digit
        omega
      · cases digit

/-- A text of hexadecimal digits. -/
def HexDigits (chars : List UInt8) : Prop := ∀ c ∈ chars, (hexDigit c).isSome

instance decidableHexDigits (chars : List UInt8) : Decidable (HexDigits chars) :=
  inferInstanceAs (Decidable (∀ c ∈ chars, (hexDigit c).isSome))

variable {chars : List UInt8}

theorem HexDigits.cons_iff {c : UInt8} :
    HexDigits (c :: chars) ↔ (∃ d, hexDigit c = some d) ∧ HexDigits chars := by
  rw [HexDigits, List.forall_mem_cons, Option.isSome_iff_exists]
  rfl

theorem HexDigits.pair (digits : HexDigits chars) {a b : UInt8} {x y : ℕ}
    (ha : hexDigit a = some x) (hb : hexDigit b = some y) : HexDigits (a :: b :: chars) :=
  HexDigits.cons_iff.mpr ⟨⟨x, ha⟩, HexDigits.cons_iff.mpr ⟨⟨y, hb⟩, digits⟩⟩

theorem HexDigits.nul_free (digits : HexDigits chars) : 0 ∉ chars := by
  intro mem
  obtain ⟨d, digit⟩ := Option.isSome_iff_exists.mp (digits 0 mem)
  exact (hexDigit_plain digit).2.2.2.2.2.2 rfl

/-- So many digits, so large a number. -/
theorem hexNumber_lt (acc : ℕ) (chars : List UInt8) :
    hexNumber acc chars < (acc + 1) * 16 ^ chars.length := by
  induction chars generalizing acc with
  | nil => simp [hexNumber]
  | cons c chars ih =>
      rw [hexNumber, List.length_cons, Nat.pow_succ, Nat.mul_comm _ 16, ← Nat.mul_assoc]
      split
      · next d digit =>
        have small := (hexDigit_plain digit).1
        exact (ih _).trans_le (Nat.mul_le_mul_right _ (by omega))
      · calc acc < (acc + 1) * 16 := by omega
          _ ≤ (acc + 1) * 16 * 16 ^ chars.length :=
              Nat.le_mul_of_pos_right _ (Nat.pow_pos (by decide))

/-- Nothing in front of the digits is skipped. -/
theorem HexDigits.skip (digits : HexDigits chars) :
    chars.dropWhile isSpace = chars ∧ sign chars = (false, chars) ∧
      skipHexPrefix chars = chars := by
  cases chars with
  | nil => exact ⟨rfl, rfl, rfl⟩
  | cons c chars =>
      obtain ⟨⟨d, digit⟩, digits⟩ := HexDigits.cons_iff.mp digits
      obtain ⟨-, noSpace, noMinus, noPlus, -⟩ := hexDigit_plain digit
      refine ⟨List.dropWhile_cons_of_neg (by simp [noSpace]), sign_cons ⟨noMinus, noPlus⟩ chars, ?_⟩
      unfold skipHexPrefix
      split
      · next x e rest h =>
        obtain ⟨-, rfl⟩ := List.cons.inj h
        obtain ⟨⟨d', digit'⟩, -⟩ := HexDigits.cons_iff.mp digits
        obtain ⟨-, -, -, -, noLower, noUpper, -⟩ := hexDigit_plain digit'
        rw [if_neg fun both => both.1.elim noLower noUpper, h]
      · rfl

/-- **On digits alone** `strtoul` is positional notation. -/
theorem strtoul16_digits (digits : HexDigits chars) (short : chars.length ≤ 8) :
    (strtoul16 (.ofBytes (chars ++ [0]))).toNat = hexNumber 0 chars := by
  have text : CString.ofBytes (chars ++ [0]) = ⟨chars, digits.nul_free⟩ :=
    CString.ofBytes_append_nul ⟨chars, digits.nul_free⟩ []
  obtain ⟨noSpace, noSign, noPrefix⟩ := digits.skip
  have small : hexNumber 0 chars < 2 ^ 32 := by
    refine (hexNumber_lt 0 chars).trans_le ?_
    rw [Nat.zero_add, Nat.one_mul]
    exact (Nat.pow_le_pow_right (by decide) short).trans (by decide)
  have fits : ¬ ULONG_MAX < hexNumber 0 chars := by
    rw [ULONG_MAX]
    omega
  rw [text, strtoul16, noSpace, noSign, noPrefix, if_neg fits, if_neg Bool.false_ne_true,
    BitVec.toNat_ofNat, Nat.mod_eq_of_lt small]

/-! ## Spelling -/

/-- A text spells a list of bytes: two digits each, the high one first, in either
case. -/
inductive HexSpelling : List UInt8 → List UInt8 → Prop
  | nil : HexSpelling [] []
  | pair {b hi lo : UInt8} {bytes chars : List UInt8} (high : hexDigit hi = some (b.toNat / 16))
      (low : hexDigit lo = some (b.toNat % 16)) (rest : HexSpelling bytes chars) :
      HexSpelling (b :: bytes) (hi :: lo :: chars)

theorem HexSpelling.digits {bytes : List UInt8} (spelled : HexSpelling bytes chars) :
    HexDigits chars := by
  induction spelled with
  | nil => exact List.forall_mem_nil _
  | pair high low rest ih => exact ih.pair high low

theorem HexSpelling.length_eq {bytes : List UInt8} (spelled : HexSpelling bytes chars) :
    chars.length = 2 * bytes.length := by
  induction spelled with
  | nil => rfl
  | pair high low rest ih =>
      rw [List.length_cons, List.length_cons, ih, List.length_cons]
      omega

theorem hexNumber_pair {a b : UInt8} {x y : ℕ} (ha : hexDigit a = some x)
    (hb : hexDigit b = some y) (acc : ℕ) (rest : List UInt8) :
    hexNumber acc (a :: b :: rest) = hexNumber (256 * acc + (16 * x + y)) rest := by
  rw [hexNumber, ha]
  show hexNumber (16 * acc + x) (b :: rest) = _
  rw [hexNumber, hb]
  show hexNumber (16 * (16 * acc + x) + y) rest = _
  congr 1
  omega

/-- A text spells the number of its bytes, the first one the most significant. -/
theorem HexSpelling.hexNumber_eq {bytes : List UInt8} (spelled : HexSpelling bytes chars)
    (acc : ℕ) : hexNumber acc chars = bytes.foldl (fun acc b => 256 * acc + b.toNat) acc := by
  induction spelled generalizing acc with
  | nil => rfl
  | @pair b hi lo bytes chars high low rest ih =>
      have value : 16 * (b.toNat / 16) + b.toNat % 16 = b.toNat := Nat.div_add_mod _ 16
      rw [hexNumber_pair high low, value, ih, List.foldl_cons]

/-! ## Printing -/

/-- A digit of `%x`. -/
def lowerHexDigit (d : ℕ) : UInt8 := UInt8.ofNat (if d < 10 then 48 + d else 87 + d)

theorem hexDigit_lowerHexDigit {d : ℕ} (digit : d < 16) : hexDigit (lowerHexDigit d) = some d := by
  have all : ∀ d : Fin 16, hexDigit (lowerHexDigit d) = some d.val := by decide
  exact all ⟨d, digit⟩

/-- The text of some bytes, each printed with `%02x`. -/
def lowerHex (bytes : List UInt8) : List UInt8 :=
  bytes.flatMap fun b => [lowerHexDigit (b.toNat / 16), lowerHexDigit (b.toNat % 16)]

/-- What is printed spells the bytes. -/
theorem hexSpelling_lowerHex (bytes : List UInt8) : HexSpelling bytes (lowerHex bytes) := by
  induction bytes with
  | nil => exact .nil
  | cons b bytes ih =>
      have small := b.toNat_lt
      exact .pair (hexDigit_lowerHexDigit (by omega)) (hexDigit_lowerHexDigit (by omega)) ih

end Ztacx.CModel
