import Mathlib.Algebra.Ring.Nat
import Ztacx.CModel.Memory

/-!
# Log output over the Bluetooth UART

`btuart_char_out` of `src/ztacx_bt_uart.c`, the output function of the log
backend.  It cuts the text it is given into notifications, each of which a
connection with the default MTU can carry in one packet.

The size of a chunk is computed from the whole length, not from what is left of
it, so every chunk is as long as the first.  The last one reaches behind the
buffer unless the chunks divide the length (`btuartNotify_of_mul`,
`btuartNotify_overrun`).
-/

namespace Ztacx

open CModel

/-- The size `MIN(length, 20)` of a notification. -/
def btuartChunkSize (length : ℕ) : ℕ := min length 20

/-- The loop of `btuart_char_out` from an offset on: what it hands to
`bt_gatt_notify`.  A chunk inside the buffer leaves the offset at most `length`,
so as long as that is an `int` the offset is one. -/
def btuartNotify (data : List UInt8) (length ofs : ℕ) : Except Fault (List (List UInt8)) :=
  if ofs < length then
    let sz := btuartChunkSize length
    if ofs + sz ≤ data.length then
      (btuartNotify data length (ofs + sz)).map fun chunks => (data.drop ofs).take sz :: chunks
    else .error .outOfBounds
  else .ok []
termination_by length - ofs
decreasing_by
  unfold btuartChunkSize
  omega

/-- `btuart_char_out` for the object `data` points at: the values it notifies and
what it returns.  `btUartNotify` says whether a client has subscribed, `locked`
whether `sys_mutex_lock` got the mutex. -/
def btuartCharOut (btUartNotify locked : Bool) (data : List UInt8) (length : ℕ) :
    Except Fault (List (List UInt8) × ℤ) :=
  let rc := (BitVec.ofNat 32 length).toInt
  if btUartNotify then
    if length ≤ 4 then
      -- printed on the console instead
      if length ≤ data.length then .ok ([], rc) else .error .outOfBounds
    else if locked then (btuartNotify data length 0).map fun chunks => (chunks, rc)
    else .ok ([], rc)
  else .ok ([], rc)

/-! ## The loop -/

section Loop

variable {data : List UInt8} {length ofs : ℕ}

theorem btuartNotify_end (done : length ≤ ofs) : btuartNotify data length ofs = .ok [] := by
  rw [btuartNotify, if_neg (not_lt.mpr done)]

theorem btuartNotify_chunk (more : ofs < length)
    (fits : ofs + btuartChunkSize length ≤ data.length) :
    btuartNotify data length ofs =
      (btuartNotify data length (ofs + btuartChunkSize length)).map fun chunks =>
        (data.drop ofs).take (btuartChunkSize length) :: chunks := by
  rw [btuartNotify, if_pos more]
  exact if_pos fits

theorem btuartNotify_overrun (more : ofs < length)
    (beyond : data.length < ofs + btuartChunkSize length) :
    btuartNotify data length ofs = .error .outOfBounds := by
  rw [btuartNotify, if_pos more]
  exact if_neg (not_le.mpr beyond)

/-- **The chunks divide what is left**: they are all of one size, and together
they are the rest of the buffer. -/
theorem btuartNotify_of_mul (whole : data.length = length) (k : ℕ)
    (left : length = ofs + k * btuartChunkSize length) :
    ∃ chunks, btuartNotify data length ofs = .ok chunks ∧
      (∀ chunk ∈ chunks, chunk.length = btuartChunkSize length) ∧
      chunks.flatten = data.drop ofs := by
  induction k generalizing ofs with
  | zero =>
      have done : length ≤ ofs := by omega
      refine ⟨[], btuartNotify_end done, fun chunk mem => absurd mem List.not_mem_nil, ?_⟩
      rw [List.drop_eq_nil_of_le (whole ▸ done)]
      rfl
  | succ k ih =>
      rw [Nat.succ_mul] at left
      by_cases more : ofs < length
      · have next : length = ofs + btuartChunkSize length + k * btuartChunkSize length := by omega
        obtain ⟨chunks, sent, sizes, rest⟩ := ih next
        have fits : ofs + btuartChunkSize length ≤ data.length := by omega
        refine ⟨(data.drop ofs).take (btuartChunkSize length) :: chunks, ?_, ?_, ?_⟩
        · rw [btuartNotify_chunk more fits, sent]
          rfl
        · intro chunk mem
          rcases List.mem_cons.mp mem with rfl | later
          · rw [List.length_take, List.length_drop]
            omega
          · exact sizes chunk later
        · rw [List.flatten_cons, rest, ← List.drop_drop, List.take_append_drop]
      · refine ⟨[], btuartNotify_end (by omega), fun chunk mem => absurd mem List.not_mem_nil, ?_⟩
        rw [List.drop_eq_nil_of_le (by omega)]
        rfl

/-- **The chunks do not divide what is left**: the last one is read past the end. -/
theorem btuartNotify_of_remainder (whole : data.length = length) {r : ℕ} (k : ℕ)
    (left : length = ofs + (k * btuartChunkSize length + r)) (some : 0 < r)
    (part : r < btuartChunkSize length) :
    btuartNotify data length ofs = .error .outOfBounds := by
  induction k generalizing ofs with
  | zero => exact btuartNotify_overrun (by omega) (by omega)
  | succ k ih =>
      rw [Nat.succ_mul] at left
      have next : length = ofs + btuartChunkSize length + (k * btuartChunkSize length + r) := by
        omega
      rw [btuartNotify_chunk (by omega) (by omega), ih next]
      rfl

end Loop

/-! ## What goes over the air -/

/-- **The text is split exactly**: the notifications have 1 to 20 bytes each,
together they are the data, and the length is returned. -/
def SplitsExactly (data : List UInt8) : Prop :=
  ∃ chunks, btuartCharOut true true data data.length = .ok (chunks, (data.length : ℤ)) ∧
    (∀ chunk ∈ chunks, 1 ≤ chunk.length ∧ chunk.length ≤ 20) ∧ chunks.flatten = data

/-- The chunk size divides the length if there is one chunk or all have 20 bytes. -/
theorem btuartChunkSize_dvd_iff {length : ℕ} :
    btuartChunkSize length ∣ length ↔ length ≤ 20 ∨ 20 ∣ length := by
  unfold btuartChunkSize
  rcases le_total length 20 with short | long
  · rw [min_eq_left short]
    exact iff_of_true (Nat.dvd_refl length) (.inl short)
  · rw [min_eq_right long]
    constructor
    · exact .inr
    · rintro (short | dvd)
      · exact (le_antisymm short long).symm ▸ Nat.dvd_refl 20
      · exact dvd

/-- The length comes back as an `int`. -/
theorem toInt_ofNat_eq_iff {n : ℕ} : (BitVec.ofNat 32 n).toInt = n ↔ n < 0x80000000 := by
  rw [BitVec.toInt_ofNat', Int.bmod_def]
  split <;> omega

/-- **When the text is split exactly.** -/
theorem splitsExactly_iff {data : List UInt8} (long : 4 < data.length) :
    SplitsExactly data ↔
      (data.length ≤ 20 ∨ 20 ∣ data.length) ∧ data.length < 0x80000000 := by
  have size : 0 < btuartChunkSize data.length := by
    unfold btuartChunkSize
    omega
  have out : btuartCharOut true true data data.length =
      (btuartNotify data data.length 0).map fun chunks =>
        (chunks, (BitVec.ofNat 32 data.length).toInt) := by
    rw [btuartCharOut, if_pos rfl, if_neg (by omega), if_pos rfl]
  rw [← btuartChunkSize_dvd_iff, ← toInt_ofNat_eq_iff]
  constructor
  · rintro ⟨chunks, ran, -, -⟩
    rw [out] at ran
    obtain ⟨chunks', sent, same⟩ := map_eq_ok_iff.mp ran
    refine ⟨?_, congrArg Prod.snd same⟩
    -- otherwise the last chunk is read past the end
    by_contra indivisible
    have part := Nat.mod_lt data.length size
    have some : 0 < data.length % btuartChunkSize data.length :=
      Nat.pos_of_ne_zero fun zero => indivisible (Nat.dvd_of_mod_eq_zero zero)
    have split : data.length = 0 + (data.length / btuartChunkSize data.length *
        btuartChunkSize data.length + data.length % btuartChunkSize data.length) := by
      rw [zero_add, Nat.div_add_mod']
    rw [btuartNotify_of_remainder rfl _ split some part] at sent
    cases sent
  · rintro ⟨⟨k, whole⟩, rc⟩
    have left : data.length = 0 + k * btuartChunkSize data.length := by
      rw [zero_add, mul_comm]
      exact whole
    obtain ⟨chunks, sent, sizes, all⟩ := btuartNotify_of_mul rfl k left
    refine ⟨chunks, ?_, fun chunk mem => ?_, all⟩
    · rw [out, sent, rc]
      rfl
    · rw [sizes chunk mem]
      exact ⟨size, min_le_right _ _⟩

/-- A text of 40 bytes goes out in two notifications. -/
theorem splitsExactly_forty : SplitsExactly (List.replicate 40 65) :=
  (splitsExactly_iff (by decide)).mpr (by decide)

/-- **One byte more than a chunk**: the second notification reads 19 bytes past
the end of the text. -/
theorem not_splitsExactly_twentyOne : ¬ SplitsExactly (List.replicate 21 65) := by
  rintro ⟨chunks, ran, -, -⟩
  have first := @btuartNotify_chunk (List.replicate 21 65) 21 0 (by decide) (by decide)
  have second := @btuartNotify_overrun (List.replicate 21 65) 21 20 (by decide) (by decide)
  have out : btuartCharOut true true (List.replicate 21 65) 21 = .error .outOfBounds := by
    show (btuartNotify _ 21 0).map _ = _
    rw [first]
    show ((btuartNotify _ 21 20).map _).map _ = _
    rw [second]
    rfl
  rw [List.length_replicate] at ran
  cases out.symm.trans ran

end Ztacx
