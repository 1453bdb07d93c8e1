import Ztacx.CModel.Decimal

/-!
# Arithmetic in `int`

The value of an `int` expression is its exact value if that is an `int`, and the C
standard says nothing more.  What a verification wants to know of an expression
beyond that range depends on the question, so a modelled function takes the answer
as an argument:

* `IntReading` — a way to read `int` arithmetic, which is exact on every `int`.
* `wraps` — arithmetic modulo 2^32, as with `-fwrapv`.
* `traps` — no value, which is the reading for a proof that nothing overflows.

What holds for every reading does not depend on the choice.
-/

namespace Ztacx.CModel

/-- What becomes of the exact value of an `int` expression. -/
structure IntReading where
  result : ℤ → Option ℤ
  exact : ∀ x, IsInt x → result x = some x

namespace IntReading

theorem bmod_of_isInt {x : ℤ} (fits : IsInt x) : Int.bmod x (2 ^ 32) = x := by
  unfold IsInt INT_MIN INT_MAX at fits
  exact Int.bmod_eq_of_le (by omega) (by omega)

/-- Arithmetic modulo 2^32. -/
def wraps : IntReading where
  result x := some (Int.bmod x (2 ^ 32))
  exact _ fits := congrArg some (bmod_of_isInt fits)

/-- An overflow has no value. -/
def traps : IntReading where
  result x := if IsInt x then some x else none
  exact _ fits := if_pos fits

theorem traps_eq_none_iff {x : ℤ} : traps.result x = none ↔ ¬ IsInt x := by
  simp [traps]

end IntReading

end Ztacx.CModel
