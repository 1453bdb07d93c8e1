import Mathlib.Algebra.Order.Group.Abs
import Mathlib.Data.List.Induction

/-!
# Hysteresis

A filter in front of a sensor that only lets changes through: the first sample is
accepted, and after it a sample that differs from the latest accepted one by at
least a threshold.  The history of the accepted samples, latest first, is all the
state there is.

* `near_track` — after each sample the latest accepted one is near it.
* `abs_lt_of_mem` — no sample gets far above the accepted ones, however long ago it
  was ignored.
-/

namespace Ztacx.CModel.Hysteresis

variable {α : Type*} [AddCommGroup α] [LinearOrder α]

/-- A sample passes the filter. -/
def Accepts (t : α) (accepted : List α) (x : α) : Prop := ∀ l ∈ accepted.head?, t ≤ |x - l|

instance decidableAccepts (t : α) (x : α) :
    (accepted : List α) → Decidable (Accepts t accepted x)
  | [] => isTrue fun _ mem => by cases mem
  | l :: _ => decidable_of_iff (t ≤ |x - l|) (by simp [Accepts])

/-- The accepted samples after one more. -/
def track (t : α) (accepted : List α) (x : α) : List α :=
  if Accepts t accepted x then x :: accepted else accepted

@[simp] theorem accepts_nil (t x : α) : Accepts t [] x := fun _ mem => by cases mem

@[simp] theorem accepts_cons (t : α) (l : α) (accepted : List α) (x : α) :
    Accepts t (l :: accepted) x ↔ t ≤ |x - l| := by
  simp [Accepts]

/-- The latest accepted sample is the latest sample, or near it. -/
theorem near_track (t : α) (accepted : List α) (x : α) :
    ∃ l, (track t accepted x).head? = some l ∧ (l = x ∨ |x - l| < t) := by
  unfold track
  by_cases accepts : Accepts t accepted x
  · rw [if_pos accepts]
    exact ⟨x, rfl, .inl rfl⟩
  · rw [if_neg accepts]
    cases accepted with
    | nil => exact absurd (accepts_nil t x) accepts
    | cons l accepted =>
        rw [accepts_cons, not_le] at accepts
        exact ⟨l, rfl, .inr accepts⟩

theorem subset_track (t : α) (accepted : List α) (x : α) : accepted ⊆ track t accepted x := by
  unfold track
  split
  · exact List.subset_cons_self ..
  · exact List.Subset.refl _

/-- **No sample is far above all accepted ones**: one that was ignored was near an
accepted one. -/
theorem abs_lt_of_mem [IsOrderedAddMonoid α] {t : α} (pos : 0 < t) {xs : List α} {x : α}
    (mem : x ∈ xs) :
    ∃ a ∈ xs.foldl (track t) [], |x| < |a| + t := by
  induction xs using List.reverseRecOn with
  | nil => exact absurd mem List.not_mem_nil
  | append_singleton xs y ih =>
      rw [List.foldl_append, List.foldl_cons, List.foldl_nil]
      obtain old | last := List.mem_append.mp mem
      · obtain ⟨a, accepted, near⟩ := ih old
        exact ⟨a, subset_track t _ y accepted, near⟩
      · cases List.mem_singleton.mp last
        obtain ⟨l, latest, rfl | near⟩ := near_track t (xs.foldl (track t) []) x
        · exact ⟨l, List.mem_of_mem_head? latest, lt_add_of_pos_right _ pos⟩
        · refine ⟨l, List.mem_of_mem_head? latest, ?_⟩
          calc |x| = |l + (x - l)| := by rw [add_sub_cancel]
            _ ≤ |l| + |x - l| := abs_add_le ..
            _ < |l| + t := add_lt_add_right near _

end Ztacx.CModel.Hysteresis
