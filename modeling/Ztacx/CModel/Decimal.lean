import Mathlib.Algebra.Field.Rat
import Mathlib.Data.List.Induction
import Mathlib.Data.Nat.Digits.Lemmas
import Ztacx.CModel.Strtoul

/-!
# Decimal numerals

What `atoi`, the conversion `%d` of `printf` and the conversion `%lf` of `scanf`
have in common: the digits of a number, written from the most significant one.

* `digitText` — the characters of a digit list; `digitsNat` — its value.
* `decimalInt` — the number that `strtol` finds at the start of a text, and
  `atoi`, which returns it if it is an `int`.
* `decimalText` — the numeral that `%d` prints.  Reading it gives the number
  back (`decimalInt_decimalText`).
* `scanDouble` — `%lf` on a numeral with a point, with the exact value of the
  numeral as its result.

The C standard leaves open what `atoi` returns for a number that is not an `int`,
and `%lf` has other spellings than the plain one; both are parameters here.
-/

namespace Ztacx.CModel

/-! ## Digits -/

/-- The character of a digit. -/
def digitByte (d : Fin 10) : UInt8 := UInt8.ofNat (48 + d.val)

/-- The characters of a list of digits. -/
def digitText (ds : List (Fin 10)) : List UInt8 := ds.map digitByte

/-- The value of a list of digits that follow those of `acc`. -/
def digitsAfter (acc : ℕ) (ds : List (Fin 10)) : ℕ := ds.foldl (fun acc d => 10 * acc + d.val) acc

/-- The value of a list of digits. -/
def digitsNat (ds : List (Fin 10)) : ℕ := digitsAfter 0 ds

/-- The value of a decimal digit. -/
def decDigit (c : UInt8) : Option ℕ := if 48 ≤ c ∧ c ≤ 57 then some (c.toNat - 48) else none

/-- The number that the digits at the start of a text spell after `acc`. -/
def decNumber (acc : ℕ) : List UInt8 → ℕ
  | [] => acc
  | c :: rest =>
    match decDigit c with
    | some d => decNumber (10 * acc + d) rest
    | none => acc

/-- The digits of a number. -/
def decimalDigits (n : ℕ) : List (Fin 10) :=
  if n = 0 then [0] else (Nat.digits 10 n).reverse.map (Fin.ofNat 10)

theorem decDigit_digitByte (d : Fin 10) : decDigit (digitByte d) = some d.val := by
  revert d
  decide

theorem digitByte_ne_zero (d : Fin 10) : digitByte d ≠ 0 := by
  revert d
  decide

theorem isSpace_digitByte (d : Fin 10) : isSpace (digitByte d) = false := by
  revert d
  decide

theorem digitByte_ne_sign (d : Fin 10) : digitByte d ≠ 45 ∧ digitByte d ≠ 43 := by
  revert d
  decide

@[simp] theorem length_digitText (ds : List (Fin 10)) : (digitText ds).length = ds.length :=
  List.length_map ..

theorem nul_notMem_digitText (ds : List (Fin 10)) : 0 ∉ digitText ds := by
  intro mem
  obtain ⟨d, -, zero⟩ := List.mem_map.mp mem
  exact digitByte_ne_zero d zero

/-- Digits are read off the front of a text. -/
theorem decNumber_digitText_append (acc : ℕ) (ds : List (Fin 10)) (rest : List UInt8) :
    decNumber acc (digitText ds ++ rest) = decNumber (digitsAfter acc ds) rest := by
  induction ds generalizing acc with
  | nil => rfl
  | cons d ds ih =>
      show decNumber acc (digitByte d :: (digitText ds ++ rest)) = _
      rw [decNumber, decDigit_digitByte]
      exact ih _

theorem decNumber_digitText (acc : ℕ) (ds : List (Fin 10)) :
    decNumber acc (digitText ds) = digitsAfter acc ds := by
  have whole := decNumber_digitText_append acc ds []
  rwa [List.append_nil] at whole

/-- The digits of a number spell it. -/
theorem digitsNat_decimalDigits (n : ℕ) : digitsNat (decimalDigits n) = n := by
  unfold decimalDigits
  split
  · next zero => exact zero.symm
  · have small : ∀ d ∈ Nat.digits 10 n, (Fin.ofNat 10 d).val = d := fun d mem =>
      Nat.mod_eq_of_lt (Nat.digits_lt_base (by decide) mem)
    have spelled : ∀ ds : List ℕ, (∀ d ∈ ds, (Fin.ofNat 10 d).val = d) →
        digitsNat (ds.reverse.map (Fin.ofNat 10)) = Nat.ofDigits 10 ds := by
      intro ds
      induction ds with
      | nil => intro _; rfl
      | cons d ds ih =>
          intro small
          obtain ⟨hd, small⟩ := List.forall_mem_cons.mp small
          rw [List.reverse_cons, List.map_append, digitsNat, digitsAfter, List.foldl_append]
          show 10 * digitsNat _ + (Fin.ofNat 10 d).val = _
          rw [ih small, hd, Nat.ofDigits_cons, Nat.add_comm]
    rw [spelled _ small, Nat.ofDigits_digits]

theorem decimalDigits_ne_nil (n : ℕ) : decimalDigits n ≠ [] := by
  unfold decimalDigits
  split
  · exact List.cons_ne_nil 0 []
  · next nonzero =>
    intro none
    rw [List.map_eq_nil_iff, List.reverse_eq_nil_iff, Nat.digits_eq_nil_iff_eq_zero] at none
    exact nonzero none

theorem length_decimalDigits_le {n width : ℕ} (some : 0 < width) (fits : n < 10 ^ width) :
    (decimalDigits n).length ≤ width := by
  rw [decimalDigits]
  split
  · exact some
  · rw [List.length_map, List.length_reverse]
    exact (Nat.digits_length_le_iff (by decide) n).mpr fits

/-- So many digits, so large a number. -/
theorem digitsNat_lt (ds : List (Fin 10)) : digitsNat ds < 10 ^ ds.length := by
  induction ds using List.reverseRecOn with
  | nil => exact Nat.one_pos
  | append_singleton ds d ih =>
      have last : digitsNat (ds ++ [d]) = 10 * digitsNat ds + d.val := by
        unfold digitsNat digitsAfter
        rw [List.foldl_append]
        rfl
      have digit := d.isLt
      rw [last, List.length_append, List.length_singleton, Nat.pow_succ]
      omega

/-! ## Integers -/

def INT_MIN : ℤ := -0x80000000

def INT_MAX : ℤ := 0x7FFFFFFF

/-- A number that an `int` can have. -/
def IsInt (n : ℤ) : Prop := INT_MIN ≤ n ∧ n ≤ INT_MAX

instance decidableIsInt (n : ℤ) : Decidable (IsInt n) :=
  inferInstanceAs (Decidable (INT_MIN ≤ n ∧ n ≤ INT_MAX))

/-- The number `strtol(text, _, 10)` finds: white space, a sign and the digits
after it. -/
def decimalInt (text : CString) : ℤ :=
  let signed := sign (text.bytes.dropWhile isSpace)
  if signed.1 then - (decNumber 0 signed.2 : ℤ) else decNumber 0 signed.2

/-- `atoi`; `overflow` is what it returns for a number that is not an `int`. -/
def atoi (overflow : CString → BitVec 32) (text : CString) : BitVec 32 :=
  if IsInt (decimalInt text) then BitVec.ofInt 32 (decimalInt text) else overflow text

theorem isInt_toInt (x : BitVec 32) : IsInt x.toInt := by
  have low := BitVec.le_toInt x
  have high := BitVec.toInt_lt (x := x)
  unfold IsInt INT_MIN INT_MAX
  omega

theorem toInt_ofInt_of_isInt {n : ℤ} (fits : IsInt n) : (BitVec.ofInt 32 n).toInt = n := by
  unfold IsInt INT_MIN INT_MAX at fits
  rw [BitVec.toInt_ofInt]
  exact Int.bmod_eq_of_le (by omega) (by omega)

theorem toInt_atoi {overflow : CString → BitVec 32} {text : CString}
    (fits : IsInt (decimalInt text)) : (atoi overflow text).toInt = decimalInt text := by
  rw [atoi, if_pos fits, toInt_ofInt_of_isInt fits]

/-- An optional minus sign and digits. -/
def signedText (minus : Bool) (ds : List (Fin 10)) : CString where
  bytes := (if minus then [45] else []) ++ digitText ds
  nul_free := by
    cases minus <;> simp [nul_notMem_digitText]

/-- The number that an optional minus sign and digits denote. -/
def signedInt (minus : Bool) (ds : List (Fin 10)) : ℤ :=
  if minus then - (digitsNat ds : ℤ) else digitsNat ds

/-- What `%d` prints. -/
def decimalText (n : ℤ) : CString := signedText (n < 0) (decimalDigits n.natAbs)

/-- The digits that `%0<width>d` prints of a number that has no sign. -/
def zeroPaddedDigits (width n : ℕ) : List (Fin 10) :=
  List.replicate (width - (decimalDigits n).length) 0 ++ decimalDigits n

/-- What `%0<width>d` prints.  The sign counts as a digit. -/
def zeroPaddedText (width : ℕ) (n : ℤ) : CString :=
  signedText (n < 0) (zeroPaddedDigits (if n < 0 then width - 1 else width) n.natAbs)

theorem length_zeroPaddedDigits {n width : ℕ} (some : 0 < width) (fits : n < 10 ^ width) :
    (zeroPaddedDigits width n).length = width := by
  rw [zeroPaddedDigits, List.length_append, List.length_replicate]
  exact Nat.sub_add_cancel (length_decimalDigits_le some fits)

/-- The zeros in front leave the number as it is. -/
theorem digitsNat_zeroPaddedDigits (width n : ℕ) : digitsNat (zeroPaddedDigits width n) = n := by
  have zeros : ∀ k : ℕ, digitsAfter 0 (List.replicate k 0) = 0 := by
    intro k
    induction k with
    | zero => rfl
    | succ k ih => exact ih
  rw [zeroPaddedDigits, digitsNat, digitsAfter, List.foldl_append]
  show digitsAfter (digitsAfter 0 _) _ = n
  rw [zeros]
  exact digitsNat_decimalDigits n

theorem dropWhile_isSpace_digitText (ds : List (Fin 10)) :
    (digitText ds).dropWhile isSpace = digitText ds := by
  cases ds with
  | nil => rfl
  | cons d ds => exact List.dropWhile_cons_of_neg (by simp [isSpace_digitByte])

theorem sign_digitText_append {ds : List (Fin 10)} (some : ds ≠ []) (rest : List UInt8) :
    sign (digitText ds ++ rest) = (false, digitText ds ++ rest) := by
  obtain ⟨d, ds, rfl⟩ := List.exists_cons_of_ne_nil some
  exact sign_cons (digitByte_ne_sign d) _

theorem sign_digitText (ds : List (Fin 10)) : sign (digitText ds) = (false, digitText ds) := by
  cases ds with
  | nil => rfl
  | cons d ds => exact sign_cons (digitByte_ne_sign d) _

/-- **A signed numeral reads as the number it denotes.** -/
theorem decimalInt_signedText (minus : Bool) (ds : List (Fin 10)) :
    decimalInt (signedText minus ds) = signedInt minus ds := by
  cases minus with
  | false =>
      have start : (signedText false ds).bytes.dropWhile isSpace = digitText ds :=
        dropWhile_isSpace_digitText ds
      unfold decimalInt
      rw [start, sign_digitText]
      show (decNumber 0 (digitText ds) : ℤ) = _
      rw [decNumber_digitText]
      rfl
  | true =>
      have start : (signedText true ds).bytes.dropWhile isSpace = 45 :: digitText ds :=
        List.dropWhile_cons_of_neg (by decide)
      unfold decimalInt
      rw [start]
      show - (decNumber 0 (digitText ds) : ℤ) = _
      rw [decNumber_digitText]
      rfl

/-- Digits are read up to the first character that is none. -/
theorem decimalInt_digitText_append {text : CString} {ds : List (Fin 10)} {rest : List UInt8}
    (bytes : text.bytes = digitText ds ++ rest) (some : ds ≠ [])
    (ends : ∀ c ∈ rest.head?, decDigit c = none) : decimalInt text = digitsNat ds := by
  have start : text.bytes.dropWhile isSpace = digitText ds ++ rest := by
    obtain ⟨d, ds, rfl⟩ := List.exists_cons_of_ne_nil some
    rw [bytes]
    exact List.dropWhile_cons_of_neg (by simp [isSpace_digitByte])
  have stops : ∀ acc, decNumber acc rest = acc := by
    intro acc
    cases rest with
    | nil => rfl
    | cons c rest => rw [decNumber, ends c rfl]
  unfold decimalInt
  rw [start, sign_digitText_append some]
  show (decNumber 0 (digitText ds ++ rest) : ℤ) = _
  rw [decNumber_digitText_append, stops]
  rfl

/-- A text that starts with something else is no number. -/
theorem decimalInt_eq_zero {text : CString} {c : UInt8} {rest : List UInt8}
    (bytes : text.bytes = c :: rest) (noSpace : isSpace c = false)
    (noSign : c ≠ 45 ∧ c ≠ 43) (noDigit : decDigit c = none) : decimalInt text = 0 := by
  have start : text.bytes.dropWhile isSpace = c :: rest := by
    rw [bytes]
    exact List.dropWhile_cons_of_neg (by simp [noSpace])
  unfold decimalInt
  rw [start, sign_cons noSign]
  show (decNumber 0 (c :: rest) : ℤ) = 0
  rw [decNumber, noDigit]
  rfl

/-- **What is printed reads as what was printed.** -/
theorem decimalInt_decimalText (n : ℤ) : decimalInt (decimalText n) = n := by
  rw [decimalText, decimalInt_signedText, signedInt, digitsNat_decimalDigits]
  by_cases minus : n < 0
  · rw [if_pos (decide_eq_true minus)]
    omega
  · rw [if_neg (by simpa using minus)]
    omega

/-! ## Numerals with a point -/

/-- The value of digits in front of and behind a point. -/
def digitsRat (whole fraction : List (Fin 10)) : ℚ :=
  digitsNat whole + digitsNat fraction / 10 ^ fraction.length

/-- Digits, a point and more digits, and nothing else. -/
def plainDecimal (text : CString) : Option ℚ :=
  let isDigit := fun c => (decDigit c).isSome
  match text.bytes.takeWhile isDigit, text.bytes.dropWhile isDigit with
  | whole, 46 :: fraction =>
    if fraction.all isDigit ∧ whole ++ fraction ≠ [] then
      some (decNumber 0 whole + decNumber 0 fraction / 10 ^ fraction.length)
    else none
  | _, _ => none

/-- The conversion `%lf` of `sscanf`, exactly; `other` is what it makes of a text
that is not plain. -/
def scanDouble (other : CString → Option ℚ) (text : CString) : Option ℚ :=
  (plainDecimal text).or (other text)

theorem isSome_decDigit_digitText (ds : List (Fin 10)) :
    ∀ c ∈ digitText ds, (decDigit c).isSome = true := by
  intro c mem
  obtain ⟨d, -, rfl⟩ := List.mem_map.mp mem
  rw [decDigit_digitByte]
  rfl

/-- What is no digit is not among digits. -/
theorem plain_digitText {c : UInt8} (other : (decDigit c).isSome = false) (ds : List (Fin 10)) :
    c ∉ digitText ds := by
  intro mem
  have digit := isSome_decDigit_digitText ds c mem
  rw [other] at digit
  cases digit

/-- **A plain numeral reads as its value.** -/
theorem scanDouble_of_digits (other : CString → Option ℚ) {text : CString}
    {whole fraction : List (Fin 10)} (spelled : text.bytes = digitText whole ++ 46 ::
      digitText fraction) (some : whole ≠ []) :
    scanDouble other text = .some (digitsRat whole fraction) := by
  have front : text.bytes.takeWhile (fun c => (decDigit c).isSome) = digitText whole := by
    rw [spelled, List.takeWhile_append_of_pos (isSome_decDigit_digitText whole),
      List.takeWhile_cons_of_neg (by decide), List.append_nil]
  have back : text.bytes.dropWhile (fun c => (decDigit c).isSome) =
      46 :: digitText fraction := by
    rw [spelled, List.dropWhile_append_of_pos (isSome_decDigit_digitText whole),
      List.dropWhile_cons_of_neg (by decide)]
  have digits : (digitText fraction).all (fun c => (decDigit c).isSome) ∧
      digitText whole ++ digitText fraction ≠ [] := by
    refine ⟨List.all_eq_true.mpr (isSome_decDigit_digitText fraction), ?_⟩
    simpa [digitText] using fun none => absurd none some
  unfold scanDouble plainDecimal
  simp only [front, back]
  rw [if_pos digits, decNumber_digitText, decNumber_digitText, length_digitText]
  rfl

end Ztacx.CModel
