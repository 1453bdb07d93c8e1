import Mathlib.Tactic.Ring
import Mathlib.Tactic.NormNum

/-!
# Little-endian representations

The bytes of an unsigned number of a fixed width, least significant byte first,
as a little-endian machine stores them.  A signed number is represented through
its two's complement, so the codec below is the only one a model of typed C
memory needs: `leBytes n` drops everything above byte `n`, which is C's
narrowing conversion, and `leNat` reads an object back.
-/

namespace Ztacx.CModel

/-- The `n` low bytes of `x`, least significant first. -/
def leBytes : ℕ → ℕ → List UInt8
  | 0, _ => []
  | n + 1, x => UInt8.ofNat x :: leBytes n (x / 256)

/-- The number whose bytes, least significant first, are the given ones. -/
def leNat : List UInt8 → ℕ
  | [] => 0
  | b :: bs => b.toNat + 256 * leNat bs

@[simp] theorem length_leBytes (n x : ℕ) : (leBytes n x).length = n := by
  induction n generalizing x with
  | zero => rfl
  | succ n ih => simp [leBytes, ih]

/-- An object of `n` bytes represents a number below `256 ^ n`. -/
theorem leNat_lt (bs : List UInt8) : leNat bs < 256 ^ bs.length := by
  induction bs with
  | nil => simp [leNat]
  | cons b bs ih =>
      have hb : b.toNat < 256 := b.toNat_lt
      rw [leNat, List.length_cons, pow_succ]
      omega

/-- Writing a number out and reading it back keeps its `n` low bytes. -/
theorem leNat_leBytes (n x : ℕ) : leNat (leBytes n x) = x % 256 ^ n := by
  induction n generalizing x with
  | zero => simp [leBytes, leNat, Nat.mod_one]
  | succ n ih =>
      have low : (UInt8.ofNat x).toNat = x % 256 := by simp
      rw [leBytes, leNat, ih, low, pow_succ, mul_comm (256 ^ n) 256, Nat.mod_mul]

/-- The lowest byte is written out first, and the others follow. -/
theorem leBytes_succ_leNat_cons (n : ℕ) (b : UInt8) (bs : List UInt8) :
    leBytes (n + 1) (leNat (b :: bs)) = b :: leBytes n (leNat bs) := by
  have hb : b.toNat < 256 := b.toNat_lt
  have hdiv : (b.toNat + 256 * leNat bs) / 256 = leNat bs := by omega
  have hmod : UInt8.ofNat (b.toNat + 256 * leNat bs) = b := by
    apply UInt8.toNat_inj.mp
    simp
  rw [leNat, leBytes, hdiv, hmod]

/-- Reading an object and writing it out gives the object back. -/
@[simp] theorem leBytes_leNat (bs : List UInt8) : leBytes bs.length (leNat bs) = bs := by
  induction bs with
  | nil => rfl
  | cons b bs ih => rw [List.length_cons, leBytes_succ_leNat_cons, ih]

theorem leBytes_leNat_of_length {n : ℕ} {bs : List UInt8} (len : bs.length = n) :
    leBytes n (leNat bs) = bs := by
  subst len
  exact leBytes_leNat bs

/-- Only the `n` low bytes of a number matter. -/
theorem leBytes_mod (n x : ℕ) : leBytes n (x % 256 ^ n) = leBytes n x := by
  rw [← leNat_leBytes]
  exact leBytes_leNat_of_length (length_leBytes n x)

/-- An object of `n` bytes survives the way through a machine integer of its
width. -/
theorem leBytes_toNat_ofNat {n w : ℕ} {bs : List UInt8} (hw : 2 ^ w = 256 ^ n)
    (len : bs.length = n) : leBytes n (BitVec.ofNat w (leNat bs)).toNat = bs := by
  rw [BitVec.toNat_ofNat, hw, leBytes_mod]
  exact leBytes_leNat_of_length len

/-- A machine integer survives the way through an object of its width. -/
theorem ofNat_leNat_leBytes {n w : ℕ} (hw : 2 ^ w = 256 ^ n) (x : BitVec w) :
    BitVec.ofNat w (leNat (leBytes n x.toNat)) = x := by
  apply BitVec.eq_of_toNat_eq
  rw [BitVec.toNat_ofNat, leNat_leBytes, ← hw, Nat.mod_mod, Nat.mod_eq_of_lt x.isLt]

/-- Writing out fewer bytes of an object drops the high ones. -/
theorem leBytes_leNat_of_le {n : ℕ} {bs : List UInt8} (le : n ≤ bs.length) :
    leBytes n (leNat bs) = bs.take n := by
  induction n generalizing bs with
  | zero => rfl
  | succ n ih =>
      obtain ⟨b, bs, rfl⟩ := List.exists_cons_of_length_pos (by omega : 0 < bs.length)
      rw [leBytes_succ_leNat_cons, ih (Nat.le_of_succ_le_succ le), List.take_succ_cons]

/-- Zeros above an object do not change the number. -/
theorem leNat_append_zeros (bs : List UInt8) (n : ℕ) :
    leNat (bs ++ List.replicate n 0) = leNat bs := by
  induction bs with
  | nil =>
      induction n with
      | zero => rfl
      | succ n ih =>
          have zeros : leNat (List.replicate n 0) = 0 := ih
          show leNat (List.replicate (n + 1) 0) = 0
          rw [List.replicate_succ, leNat, zeros]
          rfl
  | cons b bs ih => rw [List.cons_append, leNat, ih, leNat]

/-- Writing an object out wider puts zeros above it. -/
theorem leBytes_leNat_wider {n : ℕ} (bs : List UInt8) (le : bs.length ≤ n) :
    leBytes n (leNat bs) = bs ++ List.replicate (n - bs.length) 0 := by
  rw [← leNat_append_zeros bs (n - bs.length)]
  exact leBytes_leNat_of_length (by rw [List.length_append, List.length_replicate]; omega)

end Ztacx.CModel
