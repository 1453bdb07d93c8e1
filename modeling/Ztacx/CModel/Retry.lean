import Mathlib.Data.ENat.Lattice

/-!
# Retrying up to a limit

A loop makes an attempt, stops when it succeeded, and goes on as long as it has made
fewer attempts than a limit.  The test comes after the attempt, so that one is always
made.  `p k` says that attempt `k` succeeds, where the first one is attempt `0`.

`Retried` is what such a loop has done when it ends, seen from the middle of it, with
one rule for each way a turn can end.  `Retried.eq_min` counts the attempts of the whole
loop: it ends with the first success (`firstSuccess`), or with the limit.
-/

namespace Ztacx.CModel

variable {p : ℕ → Prop}

/-- Where the first success is, counted from one; infinite if there is none. -/
noncomputable def firstSuccess (p : ℕ → Prop) : ℕ∞ := ⨅ (k : ℕ) (_ : p k), ((k + 1 : ℕ) : ℕ∞)

theorem firstSuccess_le {k : ℕ} (success : p k) : firstSuccess p ≤ (k + 1 : ℕ) :=
  iInf₂_le k success

theorem le_firstSuccess_iff {n : ℕ} : (n : ℕ∞) ≤ firstSuccess p ↔ ∀ k, p k → n ≤ k + 1 := by
  rw [firstSuccess, le_iInf₂_iff]
  exact forall₂_congr fun k _ => Nat.cast_le

/-- After `made` attempts without a success, the loop has gone on up to `stop` attempts
in all, and ended there. -/
structure Retried (p : ℕ → Prop) (limit made stop : ℕ) : Prop where
  made_lt : made < stop
  within : stop ≤ max (made + 1) limit
  failed : ∀ k, made ≤ k → p k → stop ≤ k + 1
  ended : (∃ k, k + 1 = stop ∧ p k) ∨ limit ≤ stop

namespace Retried

variable {limit made stop : ℕ}

/-- The attempt succeeds. -/
theorem success (succeeds : p made) : Retried p limit made (made + 1) where
  made_lt := Nat.lt_succ_self made
  within := le_max_left ..
  failed := fun _ le _ => Nat.succ_le_succ le
  ended := .inl ⟨made, rfl, succeeds⟩

/-- The attempt is the last one. -/
theorem exhausted (last : limit ≤ made + 1) : Retried p limit made (made + 1) where
  made_lt := Nat.lt_succ_self made
  within := le_max_left ..
  failed := fun _ le _ => Nat.succ_le_succ le
  ended := .inr last

/-- The attempt fails, and there is another one. -/
theorem again (fails : ¬ p made) (more : made + 1 < limit)
    (later : Retried p limit (made + 1) stop) : Retried p limit made stop where
  made_lt := Nat.lt_of_succ_lt later.made_lt
  within := by
    have within := later.within
    omega
  failed := by
    intro k le succeeds
    have other : made ≠ k := by
      rintro rfl
      exact fails succeeds
    exact later.failed k (by omega) succeeds
  ended := later.ended

/-- **How many attempts are made**: up to the first success, or as many as the limit
allows, and always one. -/
theorem eq_min (whole : Retried p limit 0 stop) :
    (stop : ℕ∞) = min (firstSuccess p) (max 1 limit : ℕ) := by
  have early : (stop : ℕ∞) ≤ firstSuccess p :=
    le_firstSuccess_iff.mpr fun k succeeds => whole.failed k k.zero_le succeeds
  refine le_antisymm (le_min early (Nat.cast_le.mpr whole.within)) ?_
  rcases whole.ended with ⟨k, rfl, succeeds⟩ | all
  · exact min_le_of_left_le (firstSuccess_le succeeds)
  · exact min_le_of_right_le (Nat.cast_le.mpr (max_le whole.made_lt all))

/-- The last attempt succeeds if one within the limit does. -/
theorem success_iff (whole : Retried p limit 0 stop) :
    (∃ k, k + 1 = stop ∧ p k) ↔ ∃ k < max 1 limit, p k := by
  constructor
  · rintro ⟨k, rfl, succeeds⟩
    exact ⟨k, whole.within, succeeds⟩
  · rintro ⟨k, within, succeeds⟩
    rcases whole.ended with last | all
    · exact last
    · have early := whole.failed k k.zero_le succeeds
      have started := whole.made_lt
      exact ⟨k, by omega, succeeds⟩

end Retried

end Ztacx.CModel
