import Ztacx.TableCopies

/-!
# A leaf without a context

`ztacx_led_init` and `ztacx_kp_init` of a leaf that was defined with a null
context: they allocate one and duplicate the default tables into it.  That is
meant to leave what a leaf with a compiled-in context gets when its tables are
copied (`ContextPathsAgree`).

`ztacx_variables_dup` takes the number of entries, as `ztacx_variables_copy` does,
but both init callbacks hand it the size in bytes.  So there is no leaf name with
which the two paths agree: either an allocation fails, or a default table is read
far beyond its last entry (`not_contextPathsAgree_of_entry`).  The keypad forgets
one more thing: the device of its new context (`kp_reads_dev`).
-/

namespace Ztacx

open CModel

/-- `sizeof(struct ztacx_variable)`: the name, and `tail` bytes for the other
members on the target. -/
def sizeofVariable (tail : ℕ) : ℕ := CONFIG_ZTACX_VALUE_NAME_MAX + tail

/-- `ztacx_variables_dup`.  `block` is where `malloc` puts the copy, or none. -/
def ztacxVariablesDup (m : LeafMemory) (block : Option VariablePtr) (v : List VariableRecord)
    (nodes : ℕ → Option VariablePtr) (count : ℕ) (pre : CString) :
    Except Fault (LeafMemory × Option VariablePtr) :=
  match block with
  | none => .ok (m, none)
  | some result =>
    (ztacxVariablesCopy m (some result) v nodes count (some pre)).map fun m => (m, some result)

/-! ## The allocated context -/

/-- The fields of the two context structures that init goes by. -/
inductive ContextField
  | copyDefaultContext
  | gpio
  | dev
  | settings
  | settingsCount
  | values
  | valuesCount
deriving DecidableEq, Repr

/-- A context that `malloc` returned: its tables, and the fields that have been
given a value since. -/
structure AllocatedContext where
  settings : VariablePtr
  settingsCount : ℕ
  values : VariablePtr
  valuesCount : ℕ
  given : List ContextField
deriving DecidableEq, Repr

/-- Where the three allocations of init go, if they succeed. -/
structure ContextBlocks where
  context : Bool
  settings : Option VariablePtr
  values : Option VariablePtr
deriving DecidableEq, Repr

/-- The start of both init callbacks, for a leaf whose context is null.  `gives`
are the fields that the callback sets besides those of the tables. -/
def allocateContext (gives : List ContextField) (tail : ℕ) (settings values : List VariableRecord)
    (m : LeafMemory) (leafName : CString) (blocks : ContextBlocks) :
    Except Fault (LeafMemory × Option AllocatedContext × ℤ) :=
  if blocks.context then
    -- the size of the table in bytes goes where its number of entries should
    let settingsSize := settings.length * sizeofVariable tail
    (ztacxVariablesDup m blocks.settings settings unlisted settingsSize leafName).bind fun dup =>
      match dup with
      | (m, none) => .ok (m, none, - ENOMEM)
      | (m, some settingsPtr) =>
        let valuesSize := values.length * sizeofVariable tail
        (ztacxVariablesDup m blocks.values values unlisted valuesSize leafName).map fun dup =>
          match dup with
          | (m, none) => (m, none, - ENOMEM)
          | (m, some valuesPtr) =>
            (m, some
              { settings := settingsPtr
                settingsCount := settings.length
                values := valuesPtr
                valuesCount := values.length
                given := gives ++ [.settings, .settingsCount, .values, .valuesCount] }, 0)
  else .ok (m, none, - ENOMEM)

/-- `ztacx_led_init` sets the LED of the new context. -/
def ledGives : List ContextField := [.gpio]

/-- `ztacx_kp_init` sets nothing but the tables. -/
def kpGives : List ContextField := []

/-- The fields that the rest of `ztacx_led_init` reads. -/
def ledReads : List ContextField := [.settings, .settingsCount, .values, .valuesCount, .gpio]

/-- The fields that the rest of `ztacx_kp_init` reads. -/
def kpReads : List ContextField := [.settings, .settingsCount, .values, .valuesCount, .dev]

/-! ## The two paths -/

/-- The names, kinds and values of a table. -/
def LeafMemory.entries (m : LeafMemory) (base : VariablePtr) (count : ℕ) :
    List (CString × ZtacxValueKind × TypedValue) :=
  (m.table base count).map fun v => (v.name.text, v.kind,
    match v.kind with
    | .string => .text v.value.valString.text
    | .event => .event v.value.valEvent
    | k => .scalar (v.value.bytes.take (k.scalarSize.getD 0)))

/-- **The two paths agree**: the allocating one goes through, gives every field that
is read later, and has tables with the entries that the copying one has in a
context at `static`. -/
def ContextPathsAgree (gives reads : List ContextField) (tail : ℕ)
    (settings values : List VariableRecord) (m : LeafMemory) (leafName : CString)
    (blocks : ContextBlocks) (static : LeafContext) : Prop :=
  ∃ m' auto m'' copied settingsPtr valuesPtr,
    allocateContext gives tail settings values m leafName blocks = .ok (m', some auto, 0) ∧
    setUpContext settings values m leafName { static with copyDefaultContext := true } =
      .ok (m'', copied) ∧
    copied.settings = some settingsPtr ∧ copied.values = some valuesPtr ∧
    m'.entries auto.settings auto.settingsCount =
      m''.entries settingsPtr copied.settingsCount ∧
    m'.entries auto.values auto.valuesCount = m''.entries valuesPtr copied.valuesCount ∧
    ∀ field ∈ reads, field ∈ auto.given

/-- The two paths of `ztacx_led_init`. -/
def LedPathsAgree (config : LeafConfig) (tail : ℕ) : LeafMemory → CString → ContextBlocks →
    LeafContext → Prop :=
  ContextPathsAgree ledGives ledReads tail (ledDefaultSettings config) ledDefaultValues

/-- The two paths of `ztacx_kp_init`. -/
def KpPathsAgree (config : LeafConfig) (tail : ℕ) : LeafMemory → CString → ContextBlocks →
    LeafContext → Prop :=
  ContextPathsAgree kpGives kpReads tail (kpDefaultSettings config) kpDefaultValues

section Paths

variable {gives reads : List ContextField} {tail : ℕ} {settings values : List VariableRecord}
  {m : LeafMemory} {leafName : CString} {blocks : ContextBlocks} {static : LeafContext}

/-- A copy of more entries than there are reads beyond the table. -/
theorem ztacxVariablesDup_overrun {v : List VariableRecord} {nodes : ℕ → Option VariablePtr}
    {count : ℕ} {pre : CString} (beyond : v.length < count) (result : VariablePtr) :
    ztacxVariablesDup m (some result) v nodes count pre = .error .outOfBounds := by
  have copied : copiedTable v count (some pre) = .error .outOfBounds :=
    if_neg (not_le.mpr beyond)
  show ((copiedTable v count (some pre)).map _).map _ = _
  rw [copied]
  rfl

/-- The size of a table in bytes is more than its number of entries. -/
theorem length_lt_size (entry : settings ≠ []) (tail : ℕ) :
    settings.length < settings.length * sizeofVariable tail := by
  have some : 0 < settings.length := List.length_pos_of_ne_nil entry
  have wide : 1 < sizeofVariable tail := by
    unfold sizeofVariable CONFIG_ZTACX_VALUE_NAME_MAX
    omega
  exact lt_mul_of_one_lt_right some wide

/-- With memory for the settings, the default settings are read beyond their end. -/
theorem allocateContext_overrun (entry : settings ≠ []) (result : VariablePtr)
    (valuesBlock : Option VariablePtr) :
    allocateContext gives tail settings values m leafName ⟨true, some result, valuesBlock⟩ =
      .error .outOfBounds := by
  show (ztacxVariablesDup m (some result) settings unlisted
    (settings.length * sizeofVariable tail) leafName).bind _ = _
  rw [ztacxVariablesDup_overrun (length_lt_size entry tail) result]
  rfl

/-- **What the allocating path does** for a class that has settings: it runs out of
memory or out of the table. -/
theorem allocateContext_of_entry (entry : settings ≠ []) :
    allocateContext gives tail settings values m leafName blocks = .ok (m, none, - ENOMEM) ∨
      allocateContext gives tail settings values m leafName blocks = .error .outOfBounds := by
  obtain ⟨context, settingsBlock, valuesBlock⟩ := blocks
  cases context with
  | false => exact .inl rfl
  | true =>
      cases settingsBlock with
      | none => exact .inl rfl
      | some result => exact .inr (allocateContext_overrun entry result valuesBlock)

theorem not_contextPathsAgree_of_entry (entry : settings ≠ []) :
    ¬ ContextPathsAgree gives reads tail settings values m leafName blocks static := by
  rintro ⟨m', auto, m'', copied, settingsPtr, valuesPtr, ran, -⟩
  rcases @allocateContext_of_entry gives tail _ values m leafName blocks entry
    with failed | overrun
  · cases failed.symm.trans ran
  · cases overrun.symm.trans ran

end Paths

/-- The keypad goes on to read the device of its context, which no branch of the
allocating path sets. -/
theorem kp_reads_dev : ContextField.dev ∈ kpReads ∧
    ∀ {tail settings values m leafName blocks m' auto rc},
      allocateContext kpGives tail settings values m leafName blocks = .ok (m', some auto, rc) →
        ContextField.dev ∉ auto.given := by
  refine ⟨by decide, ?_⟩
  intro tail settings values m leafName blocks m' auto rc ran
  unfold allocateContext at ran
  split at ran
  · obtain ⟨⟨m₁, first⟩, -, ran⟩ := bind_eq_ok_iff.mp ran
    cases first with
    | none => cases ran
    | some settingsPtr =>
        obtain ⟨⟨m₂, second⟩, -, same⟩ := map_eq_ok_iff.mp ran
        cases second with
        | none => cases same
        | some valuesPtr =>
            cases same
            show ContextField.dev ∉ kpGives ++ [.settings, .settingsCount, .values, .valuesCount]
            decide
  · cases ran

/-- **No leaf name makes the two paths agree**, for a LED or for a keypad. -/
theorem not_contextPathsAgree (config : LeafConfig) (tail : ℕ) (m : LeafMemory)
    (leafName : CString) (blocks : ContextBlocks) (static : LeafContext) :
    ¬ LedPathsAgree config tail m leafName blocks static ∧
      ¬ KpPathsAgree config tail m leafName blocks static := by
  constructor
  · exact not_contextPathsAgree_of_entry (List.cons_ne_nil _ _)
  · exact not_contextPathsAgree_of_entry (List.cons_ne_nil _ _)

/-- **A second keypad**, for which every allocation succeeds: the default settings
are read beyond their last entry. -/
theorem kp1_overrun : ¬ KpPathsAgree ⟨true, 1000, 50, .ofString "I2C_0", 32, 250⟩ 24 ledMemory
    (.ofString "kp1") ⟨true, some 1000, some 2000⟩ ⟨true, some 300, 3, some 400, 3⟩ := by
  rintro ⟨m', auto, m'', copied, settingsPtr, valuesPtr, ran, -⟩
  cases (allocateContext_overrun (List.cons_ne_nil _ _) 1000 (some 2000)).symm.trans ran

end Ztacx
