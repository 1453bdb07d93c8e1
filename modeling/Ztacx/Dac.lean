import Mathlib.Data.Fin.VecNotation
import Ztacx.CModel.Decimal
import Ztacx.Variable

/-!
# The DAC output

`dac_update` and the shell's `dac` command, from `src/ztacx_dac.c`, with and without
`CONFIG_ZTACX_LEAF_SETTINGS`.

The command stores its level with `ztacx_variable_value_set_int32`, and both functions
read it back with `ztacx_variable_value_get_bool`.  The entry is of kind INT32, so
`ztacx_variable_value_get` copies four bytes into the getter's `bool`: no level reaches
the channel, and none is shown (`not_outputsLevel`).

Without the leaf settings `dac_bits` is the second entry of `dac_values`, which is what
`VALUE_LEVEL` says: there the command stores its level in `dac_bits`
(`dacCommand_dacBits`).
-/

namespace Ztacx.Dac

open CModel

/-! ## The code -/

def DAC_CHANNEL_ID : ℕ := 0

def INVALID_LEVEL : BitVec 32 := 0x7FFFFFFF

/-- The number of entries of `dac_values`: without the leaf settings `dac_bits` is one. -/
abbrev dacValueCount (leafSettings : Bool) : ℕ := if leafSettings then 2 else 3

def VALUE_OK (leafSettings : Bool) : Fin (dacValueCount leafSettings) :=
  ⟨0, by cases leafSettings <;> decide⟩

def VALUE_LEVEL (leafSettings : Bool) : Fin (dacValueCount leafSettings) :=
  ⟨1, by cases leafSettings <;> decide⟩

/-- `dac_values` and `dac_settings` (no entry without the leaf settings), whether the
device is ready, whether `dac_update_work` was scheduled, what `dac_write_value` was given,
and the lines that were printed. -/
structure DacState (leafSettings : Bool) where
  dacReady : Bool
  dacValues : Fin (dacValueCount leafSettings) → ZtacxVariable
  kind_eq : ∀ i, (dacValues i).kind = if i = VALUE_OK leafSettings then .bool else .int32
  dacSettings : Fin leafSettings.toNat → Int32Variable
  scheduled : Bool
  written : List (ℕ × BitVec 32)
  shown : List CString

namespace DacState

variable {leafSettings : Bool}

/-- The entry `dac_ok`. -/
def valueOk (s : DacState leafSettings) : BoolVariable :=
  ⟨s.dacValues (VALUE_OK leafSettings), by rw [s.kind_eq, if_pos rfl]⟩

/-- The entry under `VALUE_LEVEL`. -/
def valueLevel (s : DacState leafSettings) : Int32Variable :=
  ⟨s.dacValues (VALUE_LEVEL leafSettings), by
    rw [s.kind_eq, if_neg (by cases leafSettings <;> decide)]⟩

/-- `ztacx_variable_value_set_int32(&dac_values[VALUE_LEVEL], level)`. -/
def setLevel (s : DacState leafSettings) (level : BitVec 32) : DacState leafSettings :=
  { s with
    dacValues := Function.update s.dacValues (VALUE_LEVEL leafSettings)
      (s.valueLevel.set level).toVariable
    kind_eq := by
      intro i
      by_cases here : i = VALUE_LEVEL leafSettings
      · subst here
        rw [Function.update_self, (s.valueLevel.set level).kind_eq, if_neg]
        cases leafSettings <;> decide
      · rw [Function.update_of_ne here, s.kind_eq] }

/-- The entry `dac_bits`, in the table it is in. -/
def dacBits : {leafSettings : Bool} → DacState leafSettings → ZtacxVariable
  | true, s => (s.dacSettings ⟨0, by decide⟩).toVariable
  | false, s => s.dacValues 1

end DacState

/-- The line of a `dac` command without arguments. -/
def dacValueLine (level : ℤ) : CString :=
  ((CString.ofString "DAC value is ").append (decimalText level)).append (.ofBytes [10])

/-- The line of a `dac` command with an argument. -/
def dacOutputLine (level : ℤ) : CString :=
  ((CString.ofString "DAC output ").append (decimalText level)).append (.ofBytes [10])

/-- The value of a `bool` in a `uint32_t`. -/
def boolLevel (b : Bool) : BitVec 32 := if b then 1 else 0

variable {leafSettings : Bool}

/-- `dac_update`.  The return code of `dac_write_value` is logged. -/
def dacUpdate (s : DacState leafSettings) : Except Fault (DacState leafSettings) := do
  let ok ← ztacxVariableValueGetBool (s.dacValues (VALUE_OK leafSettings))
  if !s.dacReady || !ok then
    return s
  else
    let dacLevel := boolLevel
      (← ztacxVariableValueGetBool (s.dacValues (VALUE_LEVEL leafSettings)))
    if dacLevel = INVALID_LEVEL then return s
    else return { s with written := s.written ++ [(DAC_CHANNEL_ID, dacLevel)] }

/-- `cmd_ztacx_dac`, from the arguments behind the command's name. -/
def cmdZtacxDac (overflow : CString → BitVec 32) (s : DacState leafSettings)
    (args : List CString) : Except Fault (DacState leafSettings × ℤ) :=
  if !(s.dacValues (VALUE_OK leafSettings)).value.valBool then .ok (s, -1)
  else
    match args with
    | [] => do
      let level := boolLevel
        (← ztacxVariableValueGetBool (s.dacValues (VALUE_LEVEL leafSettings)))
      return ({ s with shown := s.shown ++ [dacValueLine level.toInt] }, 0)
    | arg :: _ =>
      let level := atoi overflow arg
      let s := s.setLevel level
      .ok ({ s with scheduled := true, shown := s.shown ++ [dacOutputLine level.toInt] }, 0)

/-! ## What the command promises -/

/-- **The level of the command is the level of the channel**: `dac n` schedules the update,
the update writes `n`, a `dac` command after it shows `n`, and none of this touches
`dac_bits`. -/
def OutputsLevel (overflow : CString → BitVec 32) (s : DacState leafSettings) (minus : Bool)
    (digits : List (Fin 10)) : Prop :=
  let n := signedInt minus digits
  ∃ commanded updated asked rc, cmdZtacxDac overflow s [signedText minus digits] =
      .ok (commanded, rc) ∧ commanded.scheduled = true ∧
    dacUpdate commanded = .ok updated ∧
    updated.written = s.written ++ [(DAC_CHANNEL_ID, BitVec.ofInt 32 n)] ∧
    cmdZtacxDac overflow updated [] = .ok (asked, rc) ∧
    asked.shown = updated.shown ++ [dacValueLine n] ∧ asked.dacBits = s.dacBits

/-! ## What the code does -/

section Outputs

variable {s : DacState leafSettings} (overflow : CString → BitVec 32)

/-- Reading the level as a `bool` overruns it. -/
theorem ztacxVariableValueGetBool_valueLevel (s : DacState leafSettings) :
    ztacxVariableValueGetBool (s.dacValues (VALUE_LEVEL leafSettings)) =
      .error .outOfBounds := by
  have size : (s.dacValues (VALUE_LEVEL leafSettings)).kind.scalarSize = some 4 := by
    rw [show (s.dacValues (VALUE_LEVEL leafSettings)).kind = .int32 from s.valueLevel.kind_eq]
    rfl
  rw [ztacxVariableValueGetBool, getScalar_of_lt size (by decide)]
  rfl

/-- An update of a device that is there does not get as far as the channel. -/
theorem dacUpdate_eq (s : DacState leafSettings) :
    dacUpdate s = if s.dacReady ∧ (s.dacValues (VALUE_OK leafSettings)).value.valBool then
      .error .outOfBounds else .ok s := by
  have ok : ztacxVariableValueGetBool (s.dacValues (VALUE_OK leafSettings)) =
      .ok (s.dacValues (VALUE_OK leafSettings)).value.valBool := s.valueOk.get_eq
  rw [dacUpdate, ok, ztacxVariableValueGetBool_valueLevel]
  cases s.dacReady <;> cases (s.dacValues (VALUE_OK leafSettings)).value.valBool <;> rfl

/-- What the command does to `dac_bits`: nothing with the leaf settings, and without them it
stores the level there. -/
theorem setLevel_dacBits : ∀ {leafSettings : Bool} (s : DacState leafSettings)
    (level : BitVec 32), (s.setLevel level).dacBits =
      if leafSettings then s.dacBits else (s.valueLevel.set level).toVariable
  | true, _, _ => rfl
  | false, s, level => by
      show Function.update s.dacValues (VALUE_LEVEL false) _ 1 = _
      exact Function.update_self ..

/-- **What `dac n` does** on a device that is there: the update it schedules overruns the
level, and without the leaf settings `dac_bits` is `n`. -/
theorem cmdZtacxDac_level (ready : s.dacReady = true) (ok : s.valueOk.get = true)
    (text : CString) :
    ∃ commanded, cmdZtacxDac overflow s [text] = .ok (commanded, 0) ∧
      commanded.scheduled = true ∧ dacUpdate commanded = .error .outOfBounds ∧
      commanded.dacBits = if leafSettings then s.dacBits
        else (s.valueLevel.set (atoi overflow text)).toVariable := by
  have present : (s.dacValues (VALUE_OK leafSettings)).value.valBool = true := ok
  have other : VALUE_OK leafSettings ≠ VALUE_LEVEL leafSettings := by
    intro same
    exact absurd (congrArg Fin.val same) Nat.zero_ne_one
  have stillOk : (s.setLevel (atoi overflow text)).dacValues (VALUE_OK leafSettings) =
      s.dacValues (VALUE_OK leafSettings) := by
    unfold DacState.setLevel
    exact Function.update_of_ne other (s.valueLevel.set (atoi overflow text)).toVariable _
  rw [cmdZtacxDac, if_neg (by rw [present]; decide)]
  refine ⟨_, rfl, rfl, ?_, ?_⟩
  · rw [dacUpdate_eq]
    exact if_pos ⟨ready, (congrArg (·.value.valBool) stillOk).trans present⟩
  · cases leafSettings <;> exact setLevel_dacBits s (atoi overflow text)

/-- **No level is output**, on any device and in either variant. -/
theorem not_outputsLevel (s : DacState leafSettings) (minus : Bool) (digits : List (Fin 10)) :
    ¬ OutputsLevel overflow s minus digits := by
  rintro ⟨commanded, updated, asked, rc, ran, -, update, written, -⟩
  rw [dacUpdate_eq] at update
  split at update
  · cases update
  · cases update
    -- nothing has been written by the command itself
    have kept : commanded.written = s.written := by
      rw [cmdZtacxDac] at ran
      split at ran
      · cases ran
        rfl
      · cases ran
        rfl
    have longer := congrArg List.length (kept.symm.trans written)
    rw [List.length_append, List.length_singleton] at longer
    omega

end Outputs

theorem level_name_lt : (CString.ofString "dac_level").strlen < CONFIG_ZTACX_VALUE_NAME_MAX := by
  decide

/-- The state after `ztacx_dac_init` has found the device. -/
def bootDac : (leafSettings : Bool) → DacState leafSettings
  | true => {
      dacReady := true
      dacValues := ![(BoolVariable.entry "dac_ok" (by decide) true).toVariable,
        (Int32Variable.entry "dac_level" level_name_lt INVALID_LEVEL).toVariable]
      kind_eq := by decide
      dacSettings := fun _ => Int32Variable.entry "dac_bits" (by decide) 12
      scheduled := false
      written := []
      shown := [] }
  | false => {
      dacReady := true
      dacValues := ![(BoolVariable.entry "dac_ok" (by decide) true).toVariable,
        (Int32Variable.entry "dac_bits" (by decide) 12).toVariable,
        (Int32Variable.entry "dac_level" level_name_lt INVALID_LEVEL).toVariable]
      kind_eq := by decide
      dacSettings := Fin.elim0
      scheduled := false
      written := []
      shown := [] }

/-- `dac 1000` on a device that has just been initialised. -/
theorem bootDac_overrun (leafSettings : Bool) :
    (cmdZtacxDac (fun _ => 0) (bootDac leafSettings) [signedText false [1, 0, 0, 0]]).bind
      (dacUpdate ·.1) = .error .outOfBounds := by
  cases leafSettings <;> rfl

/-- **The level 1000** is not output, in either variant. -/
theorem bootDac_not_outputsLevel :
    ¬ OutputsLevel (fun _ => 0) (bootDac true) false [1, 0, 0, 0] ∧
      ¬ OutputsLevel (fun _ => 0) (bootDac false) false [1, 0, 0, 0] := by
  constructor
  · rintro ⟨commanded, updated, asked, rc, ran, -, update, -⟩
    have overrun := bootDac_overrun true
    rw [ran] at overrun
    cases update.symm.trans overrun
  · rintro ⟨commanded, updated, asked, rc, ran, -, update, -⟩
    have overrun := bootDac_overrun false
    rw [ran] at overrun
    cases update.symm.trans overrun

end Ztacx.Dac
