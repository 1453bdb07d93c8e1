import Ztacx.CModel.Run
import Ztacx.StringHeap

/-!
# Who owns the strings

A run calls `ztacx_variable_value_set`, `ztacx_variable_value_set_string`,
`settings_handle_set` and `bt_write_variable` on the variables of a table, in any
order and with any allocator.  It should keep the strings owned: each is null, a
literal or a live block, no two variables hold the same block, and neither `free` nor
`realloc` is ever handed anything but the block of the variable that is written.

The three ways of replacing a string differ in what they take for granted.

* `ztacx_variable_value_set` frees the old string, whatever it is; a table starts out
  with literals (`MaySet`).
* `settings_handle_set` passes the old string to `realloc` unless the record has its
  length (`MayLoad`).
* `bt_write_variable` does both, and keeps the pointer that `realloc` returns to
  itself: when the block moves, the setter frees the old one once more (`MayWrite`).

`call_owned_iff` says for each call that these are the only ways to lose ownership,
and `stringsOwned_throughout_iff` for each run.
-/

namespace Ztacx

open CModel

/-- A call, with what the allocator and the storage do during it. -/
inductive StringCall
  | valueSet (v : VariablePtr) (value : Option CString) (proposal : Option BlockPtr)
  | valueSetString (v : VariablePtr) (value : Option CString) (proposal : Option BlockPtr)
  | handleSet (name : CString) (io : StringRead)
  | write (v : VariablePtr) (payload : List UInt8) (offset : ℕ)
      (reallocs callocs : Option BlockPtr)

namespace StringMemory

/-- One call. -/
def call (T : VariableTable) (names : SettingsNames) (m : StringMemory) :
    StringCall → Except Fault StringMemory
  | .valueSet v value proposal => m.ztacxVariableValueSet T v value proposal
  | .valueSetString v value proposal => m.ztacxVariableValueSetString T v value proposal
  | .handleSet name io => m.settingsHandleSet T names name io
  | .write v payload offset reallocs callocs =>
    m.btWriteVariable T v payload offset reallocs callocs

/-! ## When a call may be made -/

/-- The old string is not a literal, or memory is short and it is kept. -/
def MaySet (m : StringMemory) (v : VariablePtr) (proposal : Option BlockPtr) : Prop :=
  (m.valString v).static? = none ∨ m.heap.fresh proposal = none

/-- A record for a literal has the length of the literal. -/
def MayLoad (m : StringMemory) (v : VariablePtr) (io : StringRead) : Prop :=
  ∀ t ∈ (m.valString v).static?, io.len = t.strlen

/-- A literal is long enough and memory is short; a block that has to grow does so
where it is, or not at all. -/
def MayWrite (m : StringMemory) (v : VariablePtr) (payload : List UInt8) (offset : ℕ)
    (reallocs callocs : Option BlockPtr) : Prop :=
  offset + payload.length ≤ STRING_CHAR_MAX →
    (∀ t ∈ (m.valString v).static?,
      offset + payload.length ≤ t.strlen ∧ m.heap.fresh callocs = none) ∧
    ∀ b ∈ (m.valString v).block?, (m.heap.contents b).strlen < offset + payload.length →
      reallocs = some b ∨ m.heap.fresh reallocs = none

/-- A call leaves the strings owned. -/
def MayCall (T : VariableTable) (names : SettingsNames) (m : StringMemory) : StringCall → Prop
  | .valueSet v value proposal => T.kind v = .string → value ≠ none → m.MaySet v proposal
  | .valueSetString v value proposal => T.kind v = .string → value ≠ none → m.MaySet v proposal
  | .handleSet name io => ∀ v ∈ T.setting names name, T.kind v = .string → m.MayLoad v io
  | .write v payload offset reallocs callocs =>
    T.kind v = .string → m.MayWrite v payload offset reallocs callocs

/-- What a call may end in: owned strings, or a fault that is not a misuse of the
heap. -/
def ResultOwned : Except Fault StringMemory → Prop
  | .ok m => m.StringsOwned
  | .error fault => fault ≠ .invalidFree

section Calls

variable {m : StringMemory} {v : VariablePtr}

theorem valueSet_owned_iff (owned : m.StringsOwned) (text : CString)
    (proposal : Option BlockPtr) :
    ResultOwned (m.valueSet v (some text) proposal) ↔ m.MaySet v proposal := by
  cases got : m.heap.fresh proposal with
  | none =>
      rw [valueSet_of_none got]
      exact iff_of_true owned (.inr got)
  | some b =>
      cases old : m.valString v with
      | static t =>
          rw [valueSet_literal got old]
          refine iff_of_false (fun ne => ne rfl) ?_
          simp [MaySet, old, got, HeapPtr.static?]
      | _ =>
          have writable : ∀ t, m.valString v ≠ .static t := fun t literal => by
            cases old.symm.trans literal
          obtain ⟨m', set, replaces, -⟩ := @valueSet_of_fresh _ _ _ text _ owned got writable
          rw [set]
          refine iff_of_true (replaces.stringsOwned owned) (.inl ?_)
          rw [old]
          rfl

theorem handleString_owned_iff (owned : m.StringsOwned) (io : StringRead) :
    ResultOwned (m.handleString v io) ↔ m.MayLoad v io := by
  cases old : m.valString v with
  | static t =>
      rw [handleString_literal old, MayLoad, old]
      simp only [HeapPtr.static?, Option.mem_some_iff, forall_eq']
      split
      · rename_i fits
        exact iff_of_true owned fits
      · rename_i differs
        exact iff_of_false (fun ne => ne rfl) differs
  | _ =>
      have writable : ∀ t, m.valString v ≠ .static t := fun t literal => by
        cases old.symm.trans literal
      obtain ⟨m', handled, replaces, -⟩ := handleString_spec owned io writable
      rw [handled]
      refine iff_of_true (replaces.stringsOwned owned) fun t mem => ?_
      rw [old] at mem
      cases mem

theorem mayWrite_literal {t : CString} (literal : m.valString v = .static t)
    {payload : List UInt8} {offset : ℕ} {reallocs callocs : Option BlockPtr}
    (fits : offset + payload.length ≤ STRING_CHAR_MAX) :
    m.MayWrite v payload offset reallocs callocs ↔
      offset + payload.length ≤ t.strlen ∧ m.heap.fresh callocs = none := by
  simp [MayWrite, fits, literal, HeapPtr.static?, HeapPtr.block?]

theorem mayWrite_block {b : BlockPtr} (old : m.valString v = .block b)
    {payload : List UInt8} {offset : ℕ} {reallocs callocs : Option BlockPtr}
    (fits : offset + payload.length ≤ STRING_CHAR_MAX) :
    m.MayWrite v payload offset reallocs callocs ↔
      ((m.heap.contents b).strlen < offset + payload.length →
        reallocs = some b ∨ m.heap.fresh reallocs = none) := by
  simp [MayWrite, fits, old, HeapPtr.static?, HeapPtr.block?]

theorem writeString_owned_iff (owned : m.StringsOwned) (payload : List UInt8) (offset : ℕ)
    (reallocs callocs : Option BlockPtr) :
    ResultOwned (m.writeString v payload offset reallocs callocs) ↔
      m.MayWrite v payload offset reallocs callocs := by
  by_cases fits : offset + payload.length ≤ STRING_CHAR_MAX
  · cases old : m.valString v with
    | null =>
        rw [writeString_null old fits]
        refine iff_of_true (fun same => by cases same) fun _ => ?_
        simp [old, HeapPtr.static?, HeapPtr.block?]
    | static t =>
        rw [writeString_literal old fits, mayWrite_literal old fits]
        split
        · rename_i grows
          exact iff_of_false (fun ne => ne rfl) fun both => absurd both.1 (Nat.not_le_of_lt grows)
        · rename_i long
          rw [valueSet_owned_iff owned, MaySet, old]
          simp [HeapPtr.static?, Nat.le_of_not_lt long]
    | block b =>
        rw [mayWrite_block old fits]
        -- the block is where it was when the setter frees it, or `realloc` has freed it already
        by_cases stays : (m.heap.contents b).strlen < offset + payload.length → reallocs = some b
        · rw [writeString_stays owned old fits stays,
            valueSet_owned_iff ((replaces_store owned old _).stringsOwned owned)]
          refine iff_of_true (.inl ?_) fun grows => .inl (stays grows)
          show (m.valString v).static? = none
          rw [old]
          rfl
        · obtain ⟨grows, moves⟩ := Classical.not_imp.mp stays
          rw [forall_prop_of_true grows, or_iff_right moves]
          cases got : m.heap.fresh reallocs with
          | none =>
              rw [writeString_noMemory owned old fits grows moves got]
              exact iff_of_true (by simp [ResultOwned]) rfl
          | some b' =>
              refine iff_of_false (fun result => ?_) (Option.some_ne_none b')
              obtain misused | ⟨m', wrote, lost⟩ :=
                @writeString_moved _ _ _ _ _ _ callocs owned old fits grows _ got
              · rw [misused] at result
                exact result rfl
              · rw [wrote] at result
                exact lost result
  · rw [writeString_refused (Nat.lt_of_not_le fits)]
    exact iff_of_true owned fun fits' => absurd fits' fits

/-- **The step lemma.**  A call keeps the strings owned exactly when it may be made. -/
theorem call_owned_iff (T : VariableTable) (names : SettingsNames) (owned : m.StringsOwned)
    (c : StringCall) : ResultOwned (m.call T names c) ↔ m.MayCall T names c := by
  have set : ∀ v value proposal, ResultOwned (m.ztacxVariableValueSet T v value proposal) ↔
      (T.kind v = .string → value ≠ none → m.MaySet v proposal) := by
    intro v value proposal
    rw [StringMemory.ztacxVariableValueSet]
    split
    · rename_i kind
      rw [forall_prop_of_true kind]
      cases value with
      | none => exact iff_of_true owned fun ne => absurd rfl ne
      | some text =>
          rw [valueSet_owned_iff owned, forall_prop_of_true (Option.some_ne_none text)]
    · rename_i other
      exact iff_of_true owned fun kind => absurd kind other
  cases c with
  | valueSet v value proposal => exact set v value proposal
  | valueSetString v value proposal =>
      rw [call, StringMemory.ztacxVariableValueSetString]
      split
      · exact set v value proposal
      · rename_i other
        exact iff_of_true owned fun kind => absurd kind other
  | handleSet name io =>
      rw [call, StringMemory.settingsHandleSet, MayCall]
      cases T.setting names name with
      | none => exact iff_of_true owned fun v mem => by cases mem
      | some v =>
          simp only [Option.mem_some_iff, forall_eq']
          split
          · rename_i kind
            rw [handleString_owned_iff owned, forall_prop_of_true kind]
          · rename_i other
            exact iff_of_true owned fun kind => absurd kind other
  | write v payload offset reallocs callocs =>
      rw [call, StringMemory.btWriteVariable, MayCall]
      split
      · rename_i kind
        rw [writeString_owned_iff owned, forall_prop_of_true kind]
      · rename_i other
        exact iff_of_true owned fun kind => absurd kind other

end Calls

end StringMemory

/-! ## Runs -/

/-- A run goes on after a call, or has handed `free` or `realloc` a pointer that is
not that of a live block. -/
inductive StringRun
  | running (m : StringMemory)
  | misused

/-- The strings are owned, and the heap has never been misused. -/
def StringRun.Owned : StringRun → Prop
  | .running m => m.StringsOwned
  | .misused => False

/-- The run ends with a misuse, and with any other fault. -/
def stringStep (T : VariableTable) (names : SettingsNames) :
    StringRun → StringCall → Option StringRun
  | .misused, _ => none
  | .running m, c =>
    match m.call T names c with
    | .ok m' => some (.running m')
    | .error .invalidFree => some .misused
    | .error _ => none

/-- The call may be made in the state it is made in. -/
def StringRun.MayCall (T : VariableTable) (names : SettingsNames) :
    StringRun → StringCall → Prop
  | .running m, c => m.MayCall T names c
  | .misused, _ => True

instance decidableMayCall (T : VariableTable) (names : SettingsNames) (m : StringMemory) :
    (c : StringCall) → Decidable (m.MayCall T names c)
  | .valueSet .. => inferInstanceAs (Decidable (_ → _ → _ ∨ _))
  | .valueSetString .. => inferInstanceAs (Decidable (_ → _ → _ ∨ _))
  | .handleSet .. => inferInstanceAs (Decidable (∀ v ∈ _, _ → ∀ t ∈ _, _))
  | .write .. => inferInstanceAs (Decidable (_ → _ → (∀ t ∈ _, _) ∧ ∀ b ∈ _, _))

instance decidableMayStep (T : VariableTable) (names : SettingsNames) :
    (s : StringRun) → (c : StringCall) → Decidable (s.MayCall T names c)
  | .running m, c => decidableMayCall T names m c
  | .misused, _ => isTrue trivial

section Runs

variable {T : VariableTable} {names : SettingsNames} {s s' : StringRun} {c : StringCall}

/-- A step leads to owned strings exactly when its call may be made. -/
theorem stringStep_owned_iff (owned : s.Owned) (taken : stringStep T names s c = some s') :
    s'.Owned ↔ s.MayCall T names c := by
  cases s with
  | misused => exact owned.elim
  | running m =>
      refine Iff.trans ?_ (StringMemory.call_owned_iff T names owned c)
      unfold stringStep at taken
      dsimp only at taken
      split at taken
      · rename_i m' ran
        cases taken
        rw [ran]
        exact Iff.rfl
      · rename_i misused
        cases taken
        rw [misused]
        exact iff_of_false id fun ne => ne rfl
      · cases taken

end Runs

/-- **The strings of a run stay owned exactly when each of its calls may be made**, for
every table whose strings are owned to begin with, every order of calls and every
allocator. -/
theorem stringsOwned_throughout_iff (T : VariableTable) (names : SettingsNames)
    {m : StringMemory} (owned : m.StringsOwned) (calls : List StringCall) :
    Throughout (stringStep T names) StringRun.Owned (.running m) calls ↔
      StepsMeet (stringStep T names) (StringRun.MayCall T names) (.running m) calls :=
  -- ownership is its own invariant: a call that may not be made loses it at once
  throughout_iff_stepsMeet id
    (fun owned may taken => (stringStep_owned_iff owned taken).mpr may)
    (fun owned may taken owned' => may ((stringStep_owned_iff owned taken).mp owned')) owned

/-! ### The peripheral's name and a colour -/

/-- Variable 0 is the setting `peripheral_name`, and the others are not settings. -/
def nameAndColor : VariableTable where
  kind _ := .string
  name v := .ofString (if v = 0 then "peripheral_name" else "led_strip_color")
  settings := [0]

/-- The name starts out as a literal and the others as null. -/
def bootStrings : StringMemory where
  heap := ⟨∅, fun _ => .empty⟩
  valString v := if v = 0 then .static (.ofString "ztacx") else .null

theorem bootStrings_owned : bootStrings.StringsOwned := by
  refine Owned.of_forall_ne fun v b => ?_
  show (if v = 0 then HeapPtr.static (CString.ofString "ztacx") else .null) ≠ .block b
  split <;> exact fun same => by cases same

/-- A colour is set twice and made longer where it is; the stored name is as long as
the literal. -/
def ownedCalls : List StringCall :=
  [.valueSet 1 (some (.ofString "red")) (some 1),
    .valueSetString 1 (some (.ofString "blue")) (some 2),
    .handleSet (.ofString "peripheral_name") ⟨5, none, .ofString "node7"⟩,
    .write 1 (CString.ofString "-2").bytes 4 (some 2) (some 3)]

theorem ownedCalls_owned :
    Throughout (stringStep nameAndColor .zephyr) StringRun.Owned (.running bootStrings)
      ownedCalls :=
  (stringsOwned_throughout_iff nameAndColor .zephyr bootStrings_owned ownedCalls).mpr (by decide)

/-- A new name: the literal is freed. -/
def renameCalls : List StringCall := [.valueSet 0 (some (.ofString "node")) (some 1)]

/-- A colour is made longer over GATT, and `realloc` moves it. -/
def movedCalls : List StringCall :=
  [.valueSet 1 (some (.ofString "blue")) (some 1),
    .write 1 (CString.ofString "-2").bytes 4 (some 2) (some 3)]

theorem calls_not_owned : bootStrings.StringsOwned ∧
    run (stringStep nameAndColor .zephyr) (.running bootStrings) renameCalls = some .misused ∧
    run (stringStep nameAndColor .zephyr) (.running bootStrings) movedCalls = some .misused :=
  ⟨bootStrings_owned, rfl, rfl⟩

end Ztacx
