import Ztacx.CModel.Memory

/-!
# Reading numerals

`strtoul` of the C standard for base 16, on a target whose `unsigned long` has 32
bits: white space, a sign, the prefix `0x` if a digit follows it, and then the
digits.  Text without a digit reads as zero, a number that is too large as
`ULONG_MAX`, and a minus sign negates the number as an unsigned one.
-/

namespace Ztacx.CModel

/-- `isspace` in the C locale. -/
def isSpace (c : UInt8) : Bool := c = 32 || (9 ≤ c && c ≤ 13)

/-- The value of a hexadecimal digit. -/
def hexDigit (c : UInt8) : Option ℕ :=
  if 48 ≤ c ∧ c ≤ 57 then some (c.toNat - 48)
  else if 65 ≤ c ∧ c ≤ 70 then some (c.toNat - 55)
  else if 97 ≤ c ∧ c ≤ 102 then some (c.toNat - 87)
  else none

/-- An optional sign, and whether it is a minus. -/
def sign : List UInt8 → Bool × List UInt8
  | 45 :: rest => (true, rest)
  | 43 :: rest => (false, rest)
  | rest => (false, rest)

theorem sign_cons {c : UInt8} (noSign : c ≠ 45 ∧ c ≠ 43) (rest : List UInt8) :
    sign (c :: rest) = (false, c :: rest) := by
  rw [sign]
  · exact fun tail h => noSign.1 (List.cons.inj h).1
  · exact fun tail h => noSign.2 (List.cons.inj h).1

/-- The prefix `0x` or `0X` is skipped when a digit follows it. -/
def skipHexPrefix : List UInt8 → List UInt8
  | 48 :: x :: d :: rest =>
    if (x = 120 ∨ x = 88) ∧ (hexDigit d).isSome then d :: rest else 48 :: x :: d :: rest
  | rest => rest

/-- The number that the digits at the start of a text spell after `acc`. -/
def hexNumber (acc : ℕ) : List UInt8 → ℕ
  | [] => acc
  | c :: rest =>
    match hexDigit c with
    | some d => hexNumber (16 * acc + d) rest
    | none => acc

def ULONG_MAX : ℕ := 0xFFFFFFFF

/-- `strtoul(text, NULL, 16)`. -/
def strtoul16 (text : CString) : BitVec 32 :=
  let signed := sign (text.bytes.dropWhile isSpace)
  let value := hexNumber 0 (skipHexPrefix signed.2)
  if ULONG_MAX < value then BitVec.ofNat 32 ULONG_MAX
  else if signed.1 then - BitVec.ofNat 32 value
  else BitVec.ofNat 32 value

end Ztacx.CModel
