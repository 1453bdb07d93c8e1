import Mathlib.Tactic.FieldSimp
import Ztacx.CModel.IntArith
import Ztacx.CModel.Run
import Ztacx.Gps.LocationText
import Ztacx.Variable

/-!
# The temperature

`temp_read` of `src/ztacx_temp.c` is a hysteresis filter in front of `temp_centidegree`,
like the one in front of the light level.  The reading is an `int` and the variable has 16
bits, and the threshold is a UINT16 setting that is read as an `int16_t`.

* The published temperature is the latest reading, or less than the threshold away from it
  (`temp_follows`).  The filter compares with what is published, so this asks nothing of the
  readings before: one that does not fit the variable is forgotten with the next.
* The work item schedules itself again at the end of a read.  A read that fails returns
  before that, so the first failure is the last read (`pending_iff`).
* The shell prints the quotient and the remainder of a division by 100, both with their
  signs.  What it prints is the temperature exactly if that is not negative, or a whole
  number of degrees (`temperatureText_reads_iff`).  A number on its line is therefore the
  reading, or near it (`cmdZtacxTemp_prints`).
-/

namespace Ztacx.Temp

open CModel

/-! ## The code -/

/-- `temp_values`, `temp_settings`, the static `first_reading`, and the delay with which the
work item has been scheduled if it is pending. -/
structure TempState where
  valueOk : BoolVariable
  centidegree : Int16Variable
  readIntervalMsec : Int32Variable
  changeThreshold : Uint16Variable
  firstReading : Bool
  pending : Option ℤ

namespace TempState

variable (s : TempState)

/-- The published temperature. -/
def centi : ℤ := s.centidegree.get.toInt

/-- `threshold`, which reads the setting as an `int16_t`. -/
def threshold : ℤ := s.changeThreshold.get.toInt

/-- The setter takes the low two bytes of the `int`. -/
def publish (val : ℤ) : TempState :=
  { s with centidegree := s.centidegree.set (BitVec.ofInt 16 val), firstReading := false }

/-- The end of `temp_read`: `k_work_reschedule`, if there is a work item. -/
def reschedule (work : Bool) : TempState :=
  if work then { s with pending := some s.readIntervalMsec.get.toInt } else s

end TempState

/-- `temp_read`, from the first return code that is not 0 and the `int` made of the
temperature. -/
def tempRead (arith : IntReading) (s : TempState) (work : Bool) (rc val : ℤ) : Option TempState :=
  if !s.valueOk.get then some s
  else if rc ≠ 0 then some s
  else do
    let difference ← arith.result (val - s.centi)
    let delta ← arith.result |difference|
    let s := if s.firstReading ∨ s.threshold ≤ delta then s.publish val else s
    return s.reschedule work

/-- `%d.%02d` with the quotient and the remainder of a division by 100. -/
def temperatureText (centi : ℤ) : CString :=
  (decimalText (centi.tdiv 100)).append
    ((CString.ofString ".").append (zeroPaddedText 2 (centi.tmod 100)))

/-- `cmd_ztacx_temp`: a read, and then what it prints and returns. -/
def cmdZtacxTemp (arith : IntReading) (s : TempState) (rc val : ℤ) :
    Option (TempState × CString × ℤ) :=
  if !s.valueOk.get then some (s, .ofString "Temperature sensor not found", -1)
  else (tempRead arith s false rc val).map fun s =>
    (s, (CString.ofString "Temperature ").append
      ((temperatureText s.centi).append (.ofString "C")), 0)

/-- A read, by the work item or by the shell. -/
structure TempReading where
  work : Bool
  rc : ℤ
  val : ℤ
deriving DecidableEq, Repr

/-- The work item reads when it is pending, the shell at any time. -/
def tempStep (arith : IntReading) (s : TempState) (r : TempReading) : Option TempState :=
  if r.work then
    if s.pending.isSome then tempRead arith { s with pending := none } true r.rc r.val else none
  else (cmdZtacxTemp arith s r.rc r.val).map Prod.fst

/-- The state after `ztacx_temp_init` and `ztacx_temp_start`. -/
def bootTemp (readIntervalMsec : BitVec 32) (changeThreshold : BitVec 16) : TempState where
  valueOk := .entry "temp_ok" (by decide) true
  centidegree := .entry "temp_centidegree" (by decide) 0
  readIntervalMsec := .entry "temp_read_interval_msec" (by decide) readIntervalMsec
  changeThreshold := .entry "temp_centidegree_change_threshold" (by decide) changeThreshold
  firstReading := true
  pending := some 0

/-! ## One read -/

/-- A reading that fits the variable. -/
def IsCenti (val : ℤ) : Prop := -2 ^ 15 ≤ val ∧ val < 2 ^ 15

instance decidableIsCenti (val : ℤ) : Decidable (IsCenti val) :=
  inferInstanceAs (Decidable (_ ∧ _))

/-- What no read changes. -/
structure Ready (changeThreshold : BitVec 16) (s : TempState) : Prop where
  ok : s.valueOk.get = true
  threshold : s.changeThreshold.get = changeThreshold

section Read

variable {arith : IntReading} {changeThreshold : BitVec 16} {s s' : TempState}
  {work : Bool} {rc val : ℤ}

theorem bootTemp_ready (readIntervalMsec : BitVec 32) (changeThreshold : BitVec 16) :
    Ready changeThreshold (bootTemp readIntervalMsec changeThreshold) where
  ok := rfl
  threshold := Uint16Variable.get_set ..

theorem Ready.setPending (h : Ready changeThreshold s) (pending : Option ℤ) :
    Ready changeThreshold { s with pending := pending } := ⟨h.ok, h.threshold⟩

theorem Ready.publish (h : Ready changeThreshold s) (val : ℤ) :
    Ready changeThreshold (s.publish val) := ⟨h.ok, h.threshold⟩

theorem Ready.reschedule (h : Ready changeThreshold s) (work : Bool) :
    Ready changeThreshold (s.reschedule work) := by
  unfold TempState.reschedule
  split
  · exact h.setPending _
  · exact h

/-- **What a read does**: nothing if it fails, and else it compares the reading with the
published temperature. -/
theorem Ready.tempRead_cases (h : Ready changeThreshold s)
    (read : tempRead arith s work rc val = some s') :
    (rc ≠ 0 ∧ s' = s) ∨
      (rc = 0 ∧ ∃ difference delta, arith.result (val - s.centi) = some difference ∧
        arith.result |difference| = some delta ∧
        s' = (if s.firstReading ∨ changeThreshold.toInt ≤ delta then s.publish val
          else s).reschedule work) := by
  unfold tempRead at read
  rw [h.ok, if_neg (by decide)] at read
  by_cases failed : rc ≠ 0
  · rw [if_pos failed] at read
    exact .inl ⟨failed, (Option.some.inj read).symm⟩
  · rw [if_neg failed] at read
    obtain ⟨difference, first, read⟩ := Option.bind_eq_some_iff.mp read
    obtain ⟨delta, second, read⟩ := Option.bind_eq_some_iff.mp read
    have threshold : s.threshold = changeThreshold.toInt := congrArg BitVec.toInt h.threshold
    rw [threshold] at read
    exact .inr ⟨not_not.mp failed, difference, delta, first, second,
      (Option.some.inj read).symm⟩

/-- A read, whatever comes of it. -/
theorem Ready.tempRead (h : Ready changeThreshold s)
    (read : Temp.tempRead arith s work rc val = some s') :
    Ready changeThreshold s' ∧
      s'.pending =
        if work = true ∧ rc = 0 then some s.readIntervalMsec.get.toInt else s.pending := by
  rcases h.tempRead_cases read with ⟨failed, rfl⟩ | ⟨rfl, difference, delta, -, -, rfl⟩
  · rw [if_neg fun both => failed both.2]
    exact ⟨h, rfl⟩
  · by_cases passes : s.firstReading ∨ changeThreshold.toInt ≤ delta
    · rw [if_pos passes]
      exact ⟨(h.publish val).reschedule work, by cases work <;> rfl⟩
    · rw [if_neg passes]
      exact ⟨h.reschedule work, by cases work <;> rfl⟩

theorem isInt_difference (centi : IsCenti val) :
    IsInt (val - s.centi) ∧ IsInt |val - s.centi| := by
  have below : s.centi < 2 ^ 15 := BitVec.toInt_lt
  have above : -2 ^ 15 ≤ s.centi := BitVec.le_toInt _
  have apart : |val - s.centi| ≤ 70000 := by
    unfold IsCenti at centi
    rw [abs_le]
    omega
  have bounds := abs_le.mp apart
  have := abs_nonneg (val - s.centi)
  unfold IsInt INT_MIN INT_MAX
  omega

theorem centi_publish (s : TempState) (centi : IsCenti val) : (s.publish val).centi = val := by
  show (s.centidegree.set (BitVec.ofInt 16 val)).get.toInt = val
  rw [Int16Variable.get_set]
  exact BitVec.toInt_ofInt_eq_self (by decide) centi.1 centi.2

@[simp] theorem centi_reschedule (s : TempState) (work : Bool) :
    (s.reschedule work).centi = s.centi := by
  cases work <;> rfl

/-- **The filter**: after a read, the published temperature is the reading or near it. -/
theorem Ready.near_of_tempRead (h : Ready changeThreshold s) (centi : IsCenti val)
    (read : Temp.tempRead arith s work 0 val = some s') :
    s'.centi = val ∨ |val - s'.centi| < changeThreshold.toInt := by
  rcases h.tempRead_cases read with ⟨failed, -⟩ | ⟨-, difference, delta, first, second, rfl⟩
  · exact absurd rfl failed
  · obtain ⟨fits, fits'⟩ := isInt_difference (s := s) centi
    rw [arith.exact _ fits] at first
    obtain rfl := Option.some.inj first
    rw [arith.exact _ fits'] at second
    obtain rfl := Option.some.inj second
    rw [centi_reschedule]
    by_cases passes : s.firstReading ∨ changeThreshold.toInt ≤ |val - s.centi|
    · rw [if_pos passes]
      exact .inl (centi_publish s centi)
    · rw [if_neg passes]
      exact .inr (not_le.mp fun far => passes (.inr far))

/-- **The command of the shell**: a read, and a line with what is published then. -/
theorem Ready.cmdZtacxTemp_eq (h : Ready changeThreshold s) :
    cmdZtacxTemp arith s rc val = (Temp.tempRead arith s false rc val).map fun s' =>
      (s', (CString.ofString "Temperature ").append
        ((temperatureText s'.centi).append (.ofString "C")), 0) := by
  unfold cmdZtacxTemp
  rw [h.ok]
  rfl

end Read

/-! ## Runs -/

section Runs

variable {arith : IntReading} {readIntervalMsec : BitVec 32} {changeThreshold : BitVec 16}
  {s s' : TempState} {readings : List TempReading} {r : TempReading}

/-- **One step**: a read by the work item, which is not pending meanwhile, or by the shell. -/
theorem Ready.tempRead_of_step (h : Ready changeThreshold s)
    (taken : tempStep arith s r = some s') :
    ∃ s₁, Ready changeThreshold s₁ ∧ Temp.tempRead arith s₁ r.work r.rc r.val = some s' ∧
      if r.work then s.pending.isSome ∧ s₁ = { s with pending := none } else s₁ = s := by
  obtain ⟨work, rc, val⟩ := r
  cases work with
  | true =>
      obtain ⟨pending, read⟩ := Option.ite_none_right_eq_some.mp taken
      exact ⟨_, h.setPending none, read, pending, rfl⟩
  | false =>
      obtain ⟨answer, command, same⟩ := Option.map_eq_some_iff.mp taken
      rw [h.cmdZtacxTemp_eq] at command
      obtain ⟨s₁, read, line⟩ := Option.map_eq_some_iff.mp command
      rw [← line] at same
      cases same
      exact ⟨s, h, read, rfl⟩

/-- The work item is pending after a read if it was before and has not failed. -/
theorem Ready.tempStep (h : Ready changeThreshold s) (taken : Temp.tempStep arith s r = some s') :
    Ready changeThreshold s' ∧
      (s'.pending.isSome = true ↔ s.pending.isSome = true ∧ (r.work = true → r.rc = 0)) := by
  obtain ⟨s₁, ready, read, start⟩ := h.tempRead_of_step taken
  obtain ⟨ready', pending'⟩ := ready.tempRead read
  refine ⟨ready', ?_⟩
  rw [pending']
  by_cases work : r.work = true
  · rw [if_pos work] at start
    obtain ⟨pending, rfl⟩ := start
    by_cases success : r.rc = 0
    · rw [if_pos ⟨work, success⟩]
      exact iff_of_true rfl ⟨pending, fun _ => success⟩
    · rw [if_neg fun both => success both.2]
      exact iff_of_false nofun fun both => success (both.2 work)
  · rw [if_neg work] at start
    subst start
    rw [if_neg fun both => work both.1]
    exact (and_iff_left fun here => absurd here work).symm

theorem Ready.run (h : Ready changeThreshold s)
    (ran : CModel.run (Temp.tempStep arith) s readings = some s') : Ready changeThreshold s' :=
  run_invariant_of_step (fun ready taken => (ready.tempStep taken).1) h ran

/-- **The temperature is followed**: after a read that was taken, the published temperature is
the reading, or less than the threshold away from it. -/
theorem temp_follows (centi : IsCenti r.val) (success : r.rc = 0)
    (ran : CModel.run (Temp.tempStep arith) (bootTemp readIntervalMsec changeThreshold)
      (readings ++ [r]) = some s) :
    s.centi = r.val ∨ |r.val - s.centi| < changeThreshold.toInt := by
  obtain ⟨before, ran, taken⟩ := run_concat_eq_some.mp ran
  have ready := (bootTemp_ready readIntervalMsec changeThreshold).run ran
  obtain ⟨s₁, ready, read, -⟩ := ready.tempRead_of_step taken
  rw [success] at read
  exact ready.near_of_tempRead centi read

/-- **When the work item goes on reading**: as long as none of its reads has failed.  Reads by
the shell make no difference. -/
theorem pending_iff
    (ran : CModel.run (Temp.tempStep arith) (bootTemp readIntervalMsec changeThreshold)
      readings = some s) :
    s.pending.isSome = true ↔ ∀ r ∈ readings, r.work = true → r.rc = 0 := by
  have going : ∀ {readings : List TempReading} {s s' : TempState},
      Ready changeThreshold s → CModel.run (Temp.tempStep arith) s readings = some s' →
      (s'.pending.isSome = true ↔
        s.pending.isSome = true ∧ ∀ r ∈ readings, r.work = true → r.rc = 0) := by
    intro readings
    induction readings with
    | nil =>
        intro s s' _ ran
        cases ran
        exact (and_iff_left nofun).symm
    | cons r readings ih =>
        intro s s' ready ran
        obtain ⟨next, taken, rest⟩ := run_cons_eq_some.mp ran
        obtain ⟨ready', pending⟩ := ready.tempStep taken
        rw [ih ready' rest, pending, List.forall_mem_cons, and_assoc]
  have boot := bootTemp_ready readIntervalMsec changeThreshold
  exact (going boot ran).trans (and_iff_right rfl)

end Runs

/-- `temp_settings` as it is compiled in. -/
def defaultTemp : TempState := bootTemp 1000 50

/-- A third of a degree above the first reading. -/
theorem smallChange_follows :
    ∃ s, run (tempStep .traps) defaultTemp ([⟨true, 0, 2000⟩] ++ [⟨false, 0, 2033⟩]) = some s ∧
      s.centi = 2000 ∧ (s.centi = 2033 ∨ |2033 - s.centi| < (50 : BitVec 16).toInt) := by
  have reached : ∃ s, run (tempStep .traps) defaultTemp
      ([⟨true, 0, 2000⟩] ++ [⟨false, 0, 2033⟩]) = some s ∧ s.centi = 2000 := ⟨_, rfl, rfl⟩
  obtain ⟨s, ran, centi⟩ := reached
  exact ⟨s, ran, centi, temp_follows (by decide) rfl ran⟩

/-- The second read of the work item fails, and the shell's read after it succeeds. -/
def failedRead : List TempReading := [⟨true, 0, 2000⟩, ⟨true, -5, 0⟩, ⟨false, 0, 2100⟩]

theorem failedRead_not_pending :
    ∃ s, run (tempStep .traps) defaultTemp failedRead = some s ∧ s.pending.isSome ≠ true := by
  have reached : ∃ s, run (tempStep .traps) defaultTemp failedRead = some s := ⟨_, rfl⟩
  obtain ⟨s, ran⟩ := reached
  refine ⟨s, ran, fun pending => ?_⟩
  have all := (pending_iff ran).mp pending
  exact absurd (all ⟨true, -5, 0⟩ (by decide) rfl) (by decide)

/-! ## The text -/

section Text

open Gps

theorem temperatureText_bytes (whole part : ℕ) (minus : Bool) {centi : ℤ}
    (quotient : centi.tdiv 100 = if minus then -(whole : ℤ) else whole)
    (remainder : centi.tmod 100 = part) (signed : minus = true → 0 < whole) :
    (temperatureText centi).bytes = (signedText minus (decimalDigits whole)).bytes ++
      46 :: digitText (zeroPaddedDigits 2 part) := by
  have sign : decide (centi.tdiv 100 < 0) = minus := by
    rw [quotient]
    cases minus with
    | true =>
        have some := signed rfl
        exact decide_eq_true (by simpa using some)
    | false => exact decide_eq_false (by simp)
  have digits : (centi.tdiv 100).natAbs = whole := by
    rw [quotient]
    cases minus <;> simp
  rw [temperatureText, decimalText, sign, digits, remainder, zeroPaddedText]
  simp only [Int.natAbs_natCast, Nat.cast_nonneg, not_lt.mpr, decide_false, if_false]
  rfl

/-- The value of the digits on both sides of the point. -/
theorem digitsRat_parts {part : ℕ} (whole : ℕ) (lt : part < 100) :
    digitsRat (decimalDigits whole) (zeroPaddedDigits 2 part) = whole + part / 100 := by
  rw [digitsRat, digitsNat_decimalDigits, digitsNat_zeroPaddedDigits,
    length_zeroPaddedDigits (by decide) (by omega)]
  norm_num

/-- A sign behind the point is not part of a number. -/
theorem signedDecimal_sign (minus : Bool) {whole : List (Fin 10)} (some : whole ≠ [])
    {fraction : List UInt8} (plain : 0 ∉ fraction) :
    signedDecimal ((signedText minus whole).bytes ++ 46 :: 45 :: fraction) = none := by
  let text : CString := ⟨digitText whole ++ 46 :: 45 :: fraction, by
    simp [nul_notMem_digitText, plain]⟩
  have start : sign ((signedText minus whole).bytes ++ 46 :: 45 :: fraction) =
      (minus, text.bytes) := by
    cases minus with
    | true => rfl
    | false => exact sign_digitText_append some _
  have front : text.bytes.takeWhile (fun c => (decDigit c).isSome) = digitText whole := by
    rw [List.takeWhile_append_of_pos (isSome_decDigit_digitText whole),
      List.takeWhile_cons_of_neg (by decide), List.append_nil]
  have back : text.bytes.dropWhile (fun c => (decDigit c).isSome) = 46 :: 45 :: fraction := by
    rw [List.dropWhile_append_of_pos (isSome_decDigit_digitText whole),
      List.dropWhile_cons_of_neg (by decide)]
  have value : plainDecimal text = none := by
    unfold plainDecimal
    simp only [front, back]
    rw [if_neg]
    rintro ⟨digits, -⟩
    rw [List.all_cons, Bool.and_eq_true] at digits
    exact absurd digits.1 (by decide)
  rw [signedDecimal, start]
  show (plainDecimal (CString.ofBytes text.bytes)).map _ = _
  rw [CString.ofBytes_bytes, value]
  rfl

/-- A temperature that is not negative. -/
theorem temperatureText_of_nonneg (n : ℕ) :
    signedDecimal (temperatureText n).bytes = some ((n : ℚ) / 100) := by
  have split : (n : ℚ) = 100 * (n / 100 : ℕ) + (n % 100 : ℕ) := by
    exact_mod_cast (Nat.div_add_mod n 100).symm
  rw [temperatureText_bytes (n / 100) (n % 100) false (Int.ofNat_tdiv n 100).symm
      (Int.ofNat_tmod n 100).symm nofun,
    signedDecimal_text false (decimalDigits_ne_nil _), digitsRat_parts _ (Nat.mod_lt _ (by decide))]
  rw [if_neg Bool.false_ne_true, Option.some_inj]
  linarith

/-- A whole number of degrees below zero. -/
theorem temperatureText_of_neg_whole {whole : ℕ} (pos : 0 < whole) :
    signedDecimal (temperatureText (-(100 * whole : ℕ))).bytes = some (-(whole : ℚ)) := by
  have quotient : (-((100 * whole : ℕ) : ℤ)).tdiv 100 = -(whole : ℤ) := by
    have digits : ((100 * whole : ℕ) : ℤ).tdiv 100 = (100 * whole / 100 : ℕ) :=
      (Int.ofNat_tdiv _ 100).symm
    rw [Int.neg_tdiv, digits, Nat.mul_div_cancel_left whole (by decide)]
  have remainder : (-((100 * whole : ℕ) : ℤ)).tmod 100 = (0 : ℕ) := by
    have digits : ((100 * whole : ℕ) : ℤ).tmod 100 = (100 * whole % 100 : ℕ) :=
      (Int.ofNat_tmod _ 100).symm
    rw [Int.neg_tmod, digits, Nat.mul_mod_right]
    rfl
  rw [temperatureText_bytes whole 0 true quotient remainder fun _ => pos,
    signedDecimal_text true (decimalDigits_ne_nil _), digitsRat_parts _ (by decide)]
  simp

/-- The other temperatures below zero have a sign on either side of the point. -/
theorem temperatureText_of_neg_part {n : ℕ} (part : n % 100 ≠ 0) :
    signedDecimal (temperatureText (-(n : ℤ))).bytes = none := by
  have remainder : (-(n : ℤ)).tmod 100 = -((n % 100 : ℕ) : ℤ) := by
    rw [Int.neg_tmod]
    exact congrArg Neg.neg (Int.ofNat_tmod n 100).symm
  have negative : -((n % 100 : ℕ) : ℤ) < 0 := by omega
  have bytes : (temperatureText (-(n : ℤ))).bytes =
      (decimalText ((-(n : ℤ)).tdiv 100)).bytes ++
        46 :: 45 :: digitText (zeroPaddedDigits 1 (-((n % 100 : ℕ) : ℤ)).natAbs) := by
    rw [temperatureText, remainder, zeroPaddedText, if_pos negative, decide_eq_true negative]
    rfl
  rw [bytes]
  exact signedDecimal_sign _ (decimalDigits_ne_nil _) (nul_notMem_digitText _)

/-- **When the text is the temperature**: it is not negative, or a whole number of degrees. -/
theorem temperatureText_reads_iff (centi : ℤ) :
    signedDecimal (temperatureText centi).bytes = some ((centi : ℚ) / 100) ↔
      0 ≤ centi ∨ 100 ∣ centi := by
  obtain ⟨n, rfl | rfl⟩ := Int.eq_nat_or_neg centi
  · rw [temperatureText_of_nonneg]
    exact iff_of_true rfl (.inl (Int.natCast_nonneg n))
  · by_cases whole : n % 100 = 0
    · obtain ⟨k, rfl⟩ := Nat.dvd_of_mod_eq_zero whole
      have divides : (100 : ℤ) ∣ -((100 * k : ℕ) : ℤ) := by
        rw [Int.dvd_neg]
        exact_mod_cast Nat.dvd_mul_right 100 k
      refine iff_of_true ?_ (.inr divides)
      rcases Nat.eq_zero_or_pos k with rfl | pos
      · exact temperatureText_of_nonneg 0
      · rw [temperatureText_of_neg_whole pos, Option.some_inj]
        push_cast
        ring
    · rw [temperatureText_of_neg_part whole]
      refine iff_of_false nofun ?_
      omega

/-- What can be read off the text is the temperature. -/
theorem eq_of_signedDecimal_temperatureText {centi : ℤ} {q : ℚ}
    (reads : signedDecimal (temperatureText centi).bytes = some q) : 100 * q = centi := by
  obtain ⟨n, rfl | rfl⟩ := Int.eq_nat_or_neg centi
  · rw [temperatureText_of_nonneg] at reads
    rw [← Option.some.inj reads]
    push_cast
    ring
  · by_cases whole : n % 100 = 0
    · obtain ⟨k, rfl⟩ := Nat.dvd_of_mod_eq_zero whole
      rcases Nat.eq_zero_or_pos k with rfl | pos
      · have zero := (temperatureText_of_nonneg 0).symm.trans reads
        rw [← Option.some.inj zero]
        norm_num
      · rw [temperatureText_of_neg_whole pos] at reads
        rw [← Option.some.inj reads]
        push_cast
        ring
    · rw [temperatureText_of_neg_part whole] at reads
      cases reads

/-- **What the shell prints**: after any reads, a number on the line of a read that was taken
is the reading, or less than the threshold away from it. -/
theorem cmdZtacxTemp_prints {arith : IntReading} {readIntervalMsec : BitVec 32}
    {changeThreshold : BitVec 16} {s s' : TempState} {readings : List TempReading} {val rc : ℤ}
    {out : CString} (centi : IsCenti val)
    (ran : CModel.run (Temp.tempStep arith) (bootTemp readIntervalMsec changeThreshold)
      readings = some s) (printed : cmdZtacxTemp arith s 0 val = some (s', out, rc)) :
    rc = 0 ∧ ∃ text : CString,
      out = (CString.ofString "Temperature ").append (text.append (.ofString "C")) ∧
      ∀ q, signedDecimal text.bytes = some q →
        100 * q = val ∨ |val - 100 * q| < changeThreshold.toInt := by
  have ready := (bootTemp_ready readIntervalMsec changeThreshold).run ran
  rw [ready.cmdZtacxTemp_eq] at printed
  obtain ⟨s₁, read, same⟩ := Option.map_eq_some_iff.mp printed
  cases same
  refine ⟨rfl, temperatureText s'.centi, rfl, fun q reads => ?_⟩
  rw [eq_of_signedDecimal_temperatureText reads]
  exact_mod_cast ready.near_of_tempRead centi read

end Text

end Ztacx.Temp
