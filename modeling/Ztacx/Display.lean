import Ztacx.NumberEntry

/-!
# Display and entry

`ztacx_variable_describe` prints a variable as `name=(kind)[value]`, and what
stands between the brackets is what a user would type to set the variable to
that value.  `reading` is the value as the user sees it: a text, a truth value or
a number.

For a text and a truth value this is so.  A number is printed in full where the
kind fits an `int`.  An INT64 is printed as a `long` and read as an `int`, so it
comes back exactly if it is an `int`, however long a `long` is
(`roundTrips_number`).
-/

namespace Ztacx

open CModel

/-! ## Display -/

/-- What `snprintf` leaves in a buffer of `bufMax > 0` bytes. -/
def snprintf (bufMax : ℕ) (text : CString) : CString := text.take (bufMax - 1)

/-- `name=(kind)[value]`. -/
def describedLine (name kind shown : CString) : CString :=
  name.append ((CString.ofString "=(").append (kind.append
    ((CString.ofString ")[").append (shown.append (CString.ofString "]")))))

/-- The word for a kind in a description. -/
def ZtacxValueKind.word : ZtacxValueKind → CString
  | .string => .ofString "string"
  | .bool => .ofString "bool"
  | .byte => .ofString "byte"
  | .uint16 => .ofString "uint16"
  | .int16 => .ofString "int16"
  | .int32 => .ofString "int32"
  | .int64 => .ofString "int64"
  | .event => .ofString "unk"

/-- What is printed between the brackets.  A `long` has `longBits` bits. -/
def ZtacxVariable.shownText (longBits : ℕ) (s : ZtacxVariable) : CString :=
  match s.kind with
  | .string => s.value.valString.text.getD (.ofString "[empty]")
  | .bool => if s.value.valBool then .ofString "true" else .ofString "false"
  | .int64 => decimalText (Int.bmod s.number (2 ^ longBits))
  | _ => decimalText s.number

/-- `ztacx_variable_describe`: what is in the buffer afterwards, if it was written,
and the return code. -/
def ztacxVariableDescribe (longBits bufMax : ℕ) (s : ZtacxVariable) : Option CString × ℤ :=
  match s.kind with
  | .event => (none, -EINVAL)
  | k => (some (snprintf bufMax (describedLine s.name k.word (s.shownText longBits))), 0)

/-- A description is complete in a buffer that is large enough. -/
theorem ztacxVariableDescribe_of_lt {longBits bufMax : ℕ} {s : ZtacxVariable}
    (known : s.kind ≠ .event)
    (room : (describedLine s.name s.kind.word (s.shownText longBits)).strlen < bufMax) :
    ztacxVariableDescribe longBits bufMax s =
      (some (describedLine s.name s.kind.word (s.shownText longBits)), 0) := by
  have whole : snprintf bufMax (describedLine s.name s.kind.word (s.shownText longBits)) =
      describedLine s.name s.kind.word (s.shownText longBits) :=
    CString.ext (List.take_of_length_le (Nat.le_sub_one_of_lt room))
  have printed : ztacxVariableDescribe longBits bufMax s =
      (some (snprintf bufMax (describedLine s.name s.kind.word (s.shownText longBits))), 0) := by
    cases hk : s.kind <;> simp_all [ztacxVariableDescribe]
  rw [printed, whole]

/-! ## What a user sees -/

/-- The value of a variable to its user. -/
inductive Reading
  | text (t : CString)
  | truth (b : Bool)
  | number (n : ℤ)
deriving DecidableEq, Repr

/-- The value of a variable; a null string and an event have none. -/
def ZtacxVariable.reading (v : ZtacxVariable) : Option Reading :=
  match v.kind with
  | .string => v.value.valString.text.map .text
  | .bool => some (.truth v.value.valBool)
  | .event => none
  | _ => some (.number v.number)

/-- **Display and entry agree**: the text between the brackets is accepted by a
variable of the same kind, and gives it the value that was displayed. -/
def RoundTrips (longBits : ℕ) (overflow : CString → BitVec 32) (alloc : Bool)
    (v target : ZtacxVariable) : Prop :=
  ∃ shown,
    (∀ bufMax, (describedLine v.name v.kind.word shown).strlen < bufMax →
      ztacxVariableDescribe longBits bufMax v =
        (some (describedLine v.name v.kind.word shown), 0)) ∧
    ∃ r, ztacxVariableValueSetString (atoi overflow) alloc target (some shown) = .ok r ∧
      r.rc = 0 ∧ r.setting.reading = v.reading

/-- An INT64 is an `int`; a text replaces one that can be freed, or without memory
one that is the same. -/
structure EntryPrecondition (alloc : Bool) (v target : ZtacxVariable) : Prop where
  int : v.kind = .int64 → IsInt v.number
  string : v.kind = .string →
    if alloc then target.value.valString.free = .ok ()
    else target.value.valString.text = v.value.valString.text

section RoundTrip

variable {longBits : ℕ} {overflow : CString → BitVec 32} {alloc : Bool}
  {v target : ZtacxVariable} {n : ℕ}

theorem reading_of_number (h : v.kind.numberSize = some n) :
    v.reading = some (.number v.number) := by
  cases hk : v.kind <;> simp_all [ZtacxVariable.reading, ZtacxValueKind.numberSize,
    ZtacxValueKind.scalarSize]

theorem reading_of_string (kind : v.kind = .string) :
    v.reading = v.value.valString.text.map .text := by
  simp only [ZtacxVariable.reading, kind]

theorem reading_of_bool (kind : v.kind = .bool) : v.reading = some (.truth v.value.valBool) := by
  simp only [ZtacxVariable.reading, kind]

/-- Joined texts tell what stands between the brackets. -/
theorem describedLine_inj {name kind shown shown' : CString}
    (same : describedLine name kind shown = describedLine name kind shown') : shown = shown' := by
  unfold describedLine at same
  rw [CString.append_right_inj, CString.append_right_inj, CString.append_right_inj,
    CString.append_right_inj] at same
  exact CString.ext (List.append_cancel_right (congrArg CString.bytes same))

/-- What is between the brackets of a variable that is displayed. -/
theorem roundTrips_iff_shown (known : v.kind ≠ .event) :
    RoundTrips longBits overflow alloc v target ↔
      ∃ r, ztacxVariableValueSetString (atoi overflow) alloc target
          (some (v.shownText longBits)) = .ok r ∧
        r.rc = 0 ∧ r.setting.reading = v.reading := by
  constructor
  · rintro ⟨shown, displayed, entered⟩
    let room := (describedLine v.name v.kind.word shown).strlen +
      (describedLine v.name v.kind.word (v.shownText longBits)).strlen + 1
    have printed := displayed room (by omega)
    have full : ztacxVariableDescribe longBits room v =
        (some (describedLine v.name v.kind.word (v.shownText longBits)), 0) :=
      ztacxVariableDescribe_of_lt known (by omega)
    rw [full] at printed
    cases describedLine_inj (Option.some.inj (congrArg Prod.fst printed))
    exact entered
  · intro entered
    exact ⟨v.shownText longBits, fun bufMax room => ztacxVariableDescribe_of_lt known room,
      entered⟩

/-- A number that is an `int` is printed in full. -/
theorem shownText_of_isInt (wide : 32 ≤ longBits) (h : v.kind.numberSize = some n)
    (int : IsInt v.number) : v.shownText longBits = decimalText v.number := by
  have fits : Int.bmod v.number (2 ^ longBits) = v.number := by
    have half : (2 : ℤ) ^ 31 ≤ 2 ^ (longBits - 1) := by
      exact pow_le_pow_right₀ (by decide) (by omega)
    have whole : ((2 ^ longBits : ℕ) : ℤ) = 2 * 2 ^ (longBits - 1) := by
      obtain ⟨b, rfl⟩ : ∃ b, longBits = b + 1 := ⟨longBits - 1, by omega⟩
      rw [Nat.pow_succ', Nat.add_sub_cancel]
      norm_cast
    unfold IsInt INT_MIN INT_MAX at int
    apply Int.bmod_eq_of_le_mul_two
    · omega
    · omega
  cases hk : v.kind <;> simp_all [ZtacxVariable.shownText, ZtacxValueKind.numberSize,
    ZtacxValueKind.scalarSize]

/-- **A number comes back exactly if it is an `int`.** -/
theorem roundTrips_number (wide : 32 ≤ longBits) (h : v.kind.numberSize = some n)
    (same : target.kind = v.kind) :
    RoundTrips longBits overflow alloc v target ↔ IsInt v.number := by
  have known : v.kind ≠ .event := fun event => by rw [event] at h; cases h
  have h' : target.kind.numberSize = some n := same ▸ h
  obtain ⟨r, ran, rc, kind, number⟩ := ztacxVariableValueSetString_number (atoi overflow) h'
    alloc (v.shownText longBits)
  have after : r.setting.reading = some (.number r.setting.number) :=
    reading_of_number (n := n) (by rw [kind]; exact h')
  rw [roundTrips_iff_shown known, reading_of_number h]
  constructor
  · rintro ⟨r', ran', -, held⟩
    cases ran.symm.trans ran'
    rw [after, number, same] at held
    have held : v.kind.convert n (atoi overflow (v.shownText longBits)).toInt = v.number := by
      simpa using held
    by_cases int64 : v.kind = .int64
    · -- whatever `atoi` returns is an `int`
      have kept : v.kind.Representable (atoi overflow (v.shownText longBits)).toInt := by
        rw [int64]
        exact ZtacxValueKind.representable_int64_of_isInt (isInt_toInt _)
      rw [← held, (ZtacxValueKind.representable_iff h).mp kept]
      exact isInt_toInt _
    · exact ZtacxValueKind.isInt_of_representable int64 (representable_number h)
  · intro int
    refine ⟨r, ran, rc, ?_⟩
    have shown := shownText_of_isInt wide h int
    have read := decimalInt_decimalText v.number
    rw [after, number, same, shown, toInt_atoi (by rw [read]; exact int), read,
      (ZtacxValueKind.representable_iff h).mp (representable_number h)]

/-- A truth value comes back. -/
theorem roundTrips_bool (kind : v.kind = .bool) (same : target.kind = v.kind) :
    RoundTrips longBits overflow alloc v target := by
  have kind' : target.kind = .bool := same.trans kind
  rw [roundTrips_iff_shown (by rw [kind]; decide)]
  obtain ⟨member, value, parsed, held, ran⟩ := ztacxVariableValueSetString_scalar
    (v := target) (n := 1) (atoi overflow) (by rw [kind']; rfl) alloc (v.shownText longBits)
  refine ⟨_, ran, rfl, ?_⟩
  have stored : (SetResult.stored target value).setting.reading =
      some (.truth value.valBool) :=
    reading_of_bool (v := { target with value := value }) kind'
  rw [stored, reading_of_bool kind]
  congr 2
  simp only [parsedValue, kind', Option.some.injEq, TypedValue.scalar.injEq] at parsed
  unfold ZtacxValue.valBool
  rw [held, ← parsed]
  simp only [ZtacxVariable.shownText, kind]
  cases shown : v.value.valBool with
  | true => unfold ZtacxValue.valBool at shown; rw [shown]; decide
  | false => unfold ZtacxValue.valBool at shown; rw [shown]; decide

/-- A text comes back if it finds a place: memory and an old string that can be
freed, or else the same text. -/
theorem roundTrips_string (kind : v.kind = .string) (same : target.kind = v.kind)
    {text : CString} (points : v.value.valString.text = some text) :
    RoundTrips longBits overflow alloc v target ↔
      if alloc then target.value.valString.free = .ok ()
      else target.value.valString.text = v.value.valString.text := by
  have kind' : target.kind = .string := same.trans kind
  have shown : v.shownText longBits = text := by
    simp only [ZtacxVariable.shownText, kind, points, Option.getD_some]
  rw [roundTrips_iff_shown (by rw [kind]; decide), shown,
    ztacxVariableValueSetString_text kind', reading_of_string kind]
  cases alloc with
  | true =>
      rw [if_pos rfl, if_pos rfl]
      constructor
      · rintro ⟨r, ran, -, -⟩
        obtain ⟨_, freed, -⟩ := map_eq_ok_iff.mp ran
        exact freed
      · intro freed
        rw [freed]
        refine ⟨_, rfl, rfl, ?_⟩
        rw [points]
        exact reading_of_string (v := target.withString (.block text)) kind'
  | false =>
      rw [if_neg Bool.false_ne_true, if_neg Bool.false_ne_true]
      constructor
      · rintro ⟨r, ran, -, held⟩
        cases ran
        rw [reading_of_string kind'] at held
        exact Option.map_injective (fun s t same => by injection same) held
      · intro held
        refine ⟨_, rfl, rfl, ?_⟩
        rw [← held]
        exact reading_of_string kind'

end RoundTrip

/-- **When display and entry agree.** -/
theorem roundTrips_iff {longBits : ℕ} (wide : 32 ≤ longBits) {v target : ZtacxVariable}
    (same : target.kind = v.kind) (value : v.reading ≠ none)
    (overflow : CString → BitVec 32) (alloc : Bool) :
    RoundTrips longBits overflow alloc v target ↔ EntryPrecondition alloc v target := by
  cases h : v.kind.numberSize with
  | some n =>
      rw [roundTrips_number wide h same]
      constructor
      · intro int
        refine ⟨fun _ => int, fun string => ?_⟩
        rw [string] at h
        cases h
      · intro pre
        by_cases int64 : v.kind = .int64
        · exact pre.int int64
        · exact ZtacxValueKind.isInt_of_representable int64 (representable_number h)
  | none =>
      have other : v.kind = .bool ∨ v.kind = .string := by
        cases hk : v.kind <;> simp_all [ZtacxValueKind.numberSize, ZtacxValueKind.scalarSize,
          ZtacxVariable.reading]
      rcases other with kind | kind
      · refine iff_of_true (roundTrips_bool kind same) ⟨fun int64 => ?_, fun string => ?_⟩
        · cases kind.symm.trans int64
        · cases kind.symm.trans string
      · cases points : v.value.valString.text with
        | none =>
            rw [reading_of_string kind, points] at value
            exact absurd rfl value
        | some text =>
            rw [roundTrips_string kind same points]
            constructor
            · intro placed
              exact ⟨fun int64 => (by cases kind.symm.trans int64), fun _ => placed⟩
            · intro pre
              exact pre.string kind

/-- The union with a number in its widest member. -/
def ZtacxValue.ofNat (x : ℕ) : ZtacxValue :=
  { ZtacxValue.zero with
    bytes := leBytes 8 x
    bytes_length := length_leBytes 8 x }

/-- A counter of kind INT64. -/
def counter (value : BitVec 64) : ZtacxVariable where
  name := .ofString "uptime"
  name_lt := by decide
  kind := .int64
  value := .ofNat value.toNat
  onChange := none

/-- Seven below zero is displayed and entered. -/
theorem roundTrips_counter :
    RoundTrips 32 (fun _ => 0) true (counter (-7)) (counter 0) :=
  (roundTrips_iff (by decide) rfl (by decide) _ true).mpr
    ⟨fun _ => by decide, fun string => by cases string⟩

/-- **Three thousand million** is printed as a negative `long`, which is what the
counter is then set to. -/
theorem not_roundTrips_counter :
    ¬ RoundTrips 32 (fun _ => 0) true (counter 3000000000) (counter 0) := by
  have same : (counter 0).kind = (counter 3000000000).kind := rfl
  rw [roundTrips_number (n := 8) (by decide) rfl same]
  decide

end Ztacx
