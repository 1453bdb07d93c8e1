import Mathlib.Algebra.Order.Group.Int
import Ztacx.CModel.Memory

/-!
# Comparing strings and sorting

`strcmp` compares bytes as `unsigned char`, up to the terminators.  The C library fixes
the sign of its result only, which is the lexicographic order of the bytes
(`CString.strcmp_nonpos_iff`).

`qsort` is handed a comparison that the caller has written and that may itself fault.
`Compares` is what the library asks of it on the elements of the array, and
`SortsArrays` what `qsort` promises in return.  `insertionSort` keeps the promise.
-/

namespace Ztacx.CModel

universe u

/-! ## `strcmp` -/

/-- The difference of the first two bytes that differ; behind the last byte comes the
terminator. -/
def compareBytes : List UInt8 → List UInt8 → ℤ
  | [], [] => 0
  | [], b :: _ => - b.toNat
  | a :: _, [] => a.toNat
  | a :: as, b :: bs => if a = b then compareBytes as bs else a.toNat - b.toNat

theorem compareBytes_swap (as bs : List UInt8) : compareBytes bs as = - compareBytes as bs := by
  induction as generalizing bs with
  | nil =>
      cases bs with
      | nil => rfl
      | cons b bs => exact (neg_neg _).symm
  | cons a as ih =>
      cases bs with
      | nil => rfl
      | cons b bs =>
          rw [compareBytes, compareBytes]
          by_cases same : a = b
          · rw [if_pos same, if_pos same.symm, ih]
          · rw [if_neg same, if_neg (Ne.symm same), neg_sub]

theorem compareBytes_nonpos_iff {as : List UInt8} (nul_free : 0 ∉ as) (bs : List UInt8) :
    compareBytes as bs ≤ 0 ↔ as ≤ bs := by
  induction as generalizing bs with
  | nil =>
      refine iff_of_true ?_ (List.nil_le bs)
      cases bs with
      | nil => exact le_rfl
      | cons b bs => exact Int.neg_nonpos_of_nonneg (Int.natCast_nonneg _)
  | cons a as ih =>
      obtain ⟨nonzero, nul_free⟩ := not_or.mp (List.mem_cons.not.mp nul_free)
      cases bs with
      | nil =>
          have positive : a.toNat ≠ 0 := fun zero => nonzero (UInt8.toNat_inj.mp zero.symm)
          refine iff_of_false ?_ fun le => List.cons_ne_nil a as (List.le_nil.mp le)
          rw [compareBytes]
          omega
      | cons b bs =>
          rw [compareBytes, List.cons_le_cons_iff]
          by_cases same : a = b
          · subst same
            rw [if_pos rfl, ih nul_free]
            simp
          · rw [if_neg same, UInt8.lt_iff_toNat_lt]
            have differ : a.toNat ≠ b.toNat := fun eq => same (UInt8.toNat_inj.mp eq)
            simp only [same, false_and, or_false]
            omega

namespace CString

variable {s t r : CString}

def strcmp (s t : CString) : ℤ := compareBytes s.bytes t.bytes

theorem strcmp_swap (s t : CString) : t.strcmp s = - s.strcmp t := compareBytes_swap ..

/-- **`strcmp` is the lexicographic order of the bytes.** -/
theorem strcmp_nonpos_iff : s.strcmp t ≤ 0 ↔ s.bytes ≤ t.bytes :=
  compareBytes_nonpos_iff s.nul_free t.bytes

theorem strcmp_trans (st : s.strcmp t ≤ 0) (tr : t.strcmp r ≤ 0) : s.strcmp r ≤ 0 := by
  rw [strcmp_nonpos_iff] at *
  exact List.le_trans st tr

end CString

/-! ## `qsort` -/

variable {α : Type u}

/-- A comparison gives `value` on the elements of an array, and orders them. -/
structure Compares (cmp : α → α → Except Fault ℤ) (array : List α) (value : α → α → ℤ) :
    Prop where
  result : ∀ a ∈ array, ∀ b ∈ array, cmp a b = .ok (value a b)
  swap : ∀ a ∈ array, ∀ b ∈ array, value b a < 0 ↔ 0 < value a b
  trans : ∀ a ∈ array, ∀ b ∈ array, ∀ c ∈ array,
    value a b ≤ 0 → value b c ≤ 0 → value a c ≤ 0

/-- **The promise of `qsort`**: an array whose elements can be compared is permuted, and
sorted by the comparison. -/
def SortsArrays (qsort : (α → α → Except Fault ℤ) → List α → Except Fault (List α)) : Prop :=
  ∀ cmp array value, Compares cmp array value → ∃ sorted, qsort cmp array = .ok sorted ∧
    sorted.Perm array ∧ sorted.Pairwise fun a b => value a b ≤ 0

theorem Compares.of_subset {cmp : α → α → Except Fault ℤ} {array part : List α}
    {value : α → α → ℤ} (h : Compares cmp array value) (subset : part ⊆ array) :
    Compares cmp part value where
  result := fun a ha b hb => h.result a (subset ha) b (subset hb)
  swap := fun a ha b hb => h.swap a (subset ha) b (subset hb)
  trans := fun a ha b hb c hc => h.trans a (subset ha) b (subset hb) c (subset hc)

/-- Insert an element before the first one that it does not come after. -/
def insertSorted (cmp : α → α → Except Fault ℤ) (a : α) : List α → Except Fault (List α)
  | [] => .ok [a]
  | b :: array => (cmp a b).bind fun c =>
    if c ≤ 0 then .ok (a :: b :: array) else (insertSorted cmp a array).map fun rest => b :: rest

def insertionSort (cmp : α → α → Except Fault ℤ) : List α → Except Fault (List α)
  | [] => .ok []
  | a :: array => (insertionSort cmp array).bind (insertSorted cmp a)

theorem insertSorted_spec {cmp : α → α → Except Fault ℤ} {a : α} {array : List α}
    {value : α → α → ℤ} (compares : Compares cmp (a :: array) value)
    (sorted : array.Pairwise fun a b => value a b ≤ 0) :
    ∃ inserted, insertSorted cmp a array = .ok inserted ∧ inserted.Perm (a :: array) ∧
      inserted.Pairwise fun a b => value a b ≤ 0 := by
  induction array with
  | nil => exact ⟨[a], rfl, .refl _, List.pairwise_singleton ..⟩
  | cons b array ih =>
      obtain ⟨first, rest⟩ := List.pairwise_cons.mp sorted
      have here : a ∈ a :: b :: array := List.mem_cons_self
      have next : b ∈ a :: b :: array := List.mem_cons_of_mem a List.mem_cons_self
      rw [insertSorted, compares.result a here b next]
      by_cases before : value a b ≤ 0
      · refine ⟨a :: b :: array, if_pos before, .refl _, List.pairwise_cons.mpr ⟨?_, sorted⟩⟩
        intro c mem
        rcases List.mem_cons.mp mem with rfl | later
        · exact before
        · exact compares.trans a here b next c (List.mem_cons_of_mem a mem) before (first c later)
      · have part : a :: array ⊆ a :: b :: array :=
          List.cons_subset_cons a (List.subset_cons_self b array)
        obtain ⟨inserted, ran, perm, ordered⟩ := ih (compares.of_subset part) rest
        refine ⟨b :: inserted, ?_, (perm.cons b).trans (.swap a b array), ?_⟩
        · show (if value a b ≤ 0 then _ else _) = _
          rw [if_neg before, ran]
          rfl
        · refine List.pairwise_cons.mpr ⟨fun c mem => ?_, ordered⟩
          rcases List.mem_cons.mp (perm.mem_iff.mp mem) with rfl | later
          · exact ((compares.swap c here b next).mpr (not_le.mp before)).le
          · exact first c later

theorem sortsArrays_insertionSort : SortsArrays (insertionSort (α := α)) := by
  intro cmp array value compares
  induction array with
  | nil => exact ⟨[], rfl, .refl _, .nil⟩
  | cons a array ih =>
      obtain ⟨sorted, ran, perm, ordered⟩ :=
        ih (compares.of_subset (List.subset_cons_self a array))
      have all : a :: sorted ⊆ a :: array := (perm.cons a).subset
      obtain ⟨inserted, ran', perm', ordered'⟩ :=
        insertSorted_spec (compares.of_subset all) ordered
      refine ⟨inserted, ?_, perm'.trans (perm.cons a), ordered'⟩
      rw [insertionSort, ran]
      exact ran'

end Ztacx.CModel
