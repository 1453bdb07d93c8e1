import Ztacx.CModel.StringCopy
import Ztacx.Display
import Ztacx.Registry

/-!
# Shell commands

The handlers `cmd_ztacx_init`, `cmd_ztacx_start`, `cmd_ztacx_stop` and `cmd_ztacx_value` of
`src/ztacx.c` and `cmd_ztacx_led` of `src/ztacx_led.c`, over the registry and the records
behind its addresses.

`argv` has exactly `argc` entries, the first of which is the command itself; the model has
the others.  Two ways to go wrong are told from the remaining ones (`ShellFault`): using an
entry that is not there, and using the null pointer of a lookup that failed.

`ztacx value list` describes one variable after another into one buffer.  The description
of an EVENT is an error that leaves the buffer alone, and is printed nevertheless: its line
is that of the variable in front of it, or whatever was on the stack
(`listsOwnLines_iff`).
-/

namespace Ztacx.Shell

open CModel

/-! ## State -/

/-- What a handler can run into. -/
inductive ShellFault
  | argument
  | nullLookup
  | fault (f : Fault)
deriving DecidableEq, Repr

/-- `struct ztacx_led_context`: the tables of settings and values. -/
structure LedContext where
  settings : VariablePtr
  values : VariablePtr

def SETTING_CYCLE : ℕ := 0

def SETTING_DUTY : ℕ := 1

def VALUE_BLINK : ℕ := 1

/-- The work items of a LED. -/
inductive LedWork
  | ledon
  | ledoff
deriving DecidableEq, Repr

/-- The registry, the records of the variables, the contexts of the LEDs, and the work that
was submitted and rescheduled. -/
structure ShellState where
  registry : Registry
  entry : VariablePtr → ZtacxVariable
  context : LeafPtr → Option LedContext
  submitted : List KWorkPtr
  rescheduled : List (LeafPtr × LedWork)

/-- What a handler leaves behind, prints and returns. -/
structure ShellOutcome where
  state : ShellState
  shown : List CString
  rc : ℤ

/-- `argv[i]`, for `i ≥ 1`, among the arguments behind the command. -/
def argument (args : List CString) (i : ℕ) : Except ShellFault CString :=
  args[i - 1]?.elim (.error .argument) .ok

/-- `argc`. -/
def argc (args : List CString) : ℕ := args.length + 1

/-- A fault that has nothing to do with the arguments or with a lookup. -/
def lift {α : Type} (x : Except Fault α) : Except ShellFault α := x.mapError .fault

/-- `ztacx_leaf_start` and `ztacx_leaf_stop` with a name: the null pointer they can run into
is the leaf. -/
def liftLeaf {α : Type} (x : Except Fault α) : Except ShellFault α :=
  x.mapError fun f => if f = .nullDeref then .nullLookup else .fault f

section Code

variable (fuel : ℕ)

/-! ## Leaves -/

/-- `cmd_ztacx_init`, with what the init callback does.  `ztacx_leaf_sys_init` begins with
the name of the leaf it is given. -/
def cmdZtacxInit (s : ShellState) (args : List CString) (call : InitCall) :
    Except ShellFault ShellOutcome := do
  let name ← argument args 1
  let found ← lift (ztacxLeafGet fuel s.registry (some name))
  match found with
  | none => .error .nullLookup
  | some leaf =>
    let r := ztacxLeafSysInit s.registry leaf call
    return ⟨{ s with registry := r.1 }, [.ofString (if r.2 = 0 then "started" else "failed")], r.2⟩

/-- `cmd_ztacx_start`, with what the start callback returns. -/
def cmdZtacxStart (s : ShellState) (args : List CString) (rc : ℤ) :
    Except ShellFault ShellOutcome := do
  let name ← argument args 1
  let r ← liftLeaf (ztacxLeafStart fuel s.registry (some name) rc)
  return ⟨{ s with registry := r.1 }, [.ofString (if r.2 = 0 then "started" else "failed")], r.2⟩

/-- `cmd_ztacx_stop`, with what the stop callback returns. -/
def cmdZtacxStop (s : ShellState) (args : List CString) (rc : ℤ) :
    Except ShellFault ShellOutcome := do
  let name ← argument args 1
  let r ← liftLeaf (ztacxLeafStop fuel s.registry (some name) rc)
  return ⟨{ s with registry := r.1 }, [.ofString (if r.2 = 0 then "stopped" else "failed")], r.2⟩

/-! ## Variables -/

/-- `char desc[132]`. -/
def DESC_SIZE : ℕ := 132

variable (longBits : ℕ) (atoi : CString → BitVec 32)

/-- `ztacx_variable_describe(desc, sizeof(desc), s)`, on the bytes of the buffer. -/
def describeInto (desc : List UInt8) (s : ZtacxVariable) : Except Fault (List UInt8) :=
  match (ztacxVariableDescribe longBits DESC_SIZE s).1 with
  | some text => memcpyInto desc 0 text.stored
  | none => .ok desc

/-- The loop of `ztacx value list`, from a node on, with the buffer as it has been left. -/
def listFrom (s : ShellState) : ℕ → Option VariablePtr → List UInt8 →
    Except Fault (List CString)
  | 0, _, _ => .error .diverged
  | _ + 1, none, _ => .ok []
  | fuel + 1, some v, desc => do
    let desc ← describeInto longBits desc (s.entry v)
    let line ← readCString desc
    let lines ← listFrom s fuel (s.registry.variableNext v) desc
    return line :: lines

/-- `ztacx_variable_value_set_string` on a registered variable. -/
def setString (s : ShellState) (alloc : Bool) (v : VariablePtr) (text : CString) :
    Except ShellFault (ShellState × ℤ) :=
  (lift (ztacxVariableValueSetString atoi alloc (s.entry v) (some text))).map fun r =>
    ({ s with
        entry := Function.update s.entry v r.setting
        submitted := r.submitted.toList ++ s.submitted }, r.rc)

/-- The `get` of `cmd_ztacx_value`. -/
def valueGet (s : ShellState) (args : List CString) (desc : List UInt8) :
    Except ShellFault ShellOutcome := do
  let name ← argument args 2
  let found ← lift (ztacxVariableFind fuel s.registry (some name))
  match found with
  | none => .error .nullLookup
  | some v =>
    let line ← lift ((describeInto longBits desc (s.entry v)).bind readCString)
    return ⟨s, [line], 0⟩

/-- The `set` of `cmd_ztacx_value`. -/
def valueSet (s : ShellState) (args : List CString) (alloc : Bool) :
    Except ShellFault ShellOutcome := do
  let value ← argument args 3
  let name ← argument args 2
  let found ← lift (ztacxVariableFind fuel s.registry (some name))
  match found with
  | none =>
    return ⟨s, [((CString.ofString "No value named '").append name).append (.ofString "'")],
      -ENOENT⟩
  | some v =>
    let r ← setString atoi s alloc v value
    if r.2 ≠ 0 then
      return ⟨r.1, [((CString.ofString "Value update failed for '").append name).append
        (.ofString "'")], -EINVAL⟩
    else return ⟨r.1, [], 0⟩

/-- `cmd_ztacx_value`, with the bytes on the stack where its buffer comes to lie, and with
`retained_erase` if `CONFIG_APP_RETENTION` is set.  The line it logs first has `argv[1]`. -/
def cmdZtacxValue (retainedErase : Option (ShellState → ShellState)) (s : ShellState)
    (args : List CString) (desc : List UInt8) (alloc : Bool) :
    Except ShellFault ShellOutcome := do
  let sub ← argument args 1
  if argc args = 1 ∨ 2 ≤ argc args ∧ (sub = .ofString "list" ∨ sub = .ofString "show") then
    let lines ← lift (listFrom longBits s fuel s.registry.ztacxVariables.head desc)
    return ⟨s, lines, 0⟩
  else if sub = .ofString "get" then valueGet fuel longBits s args desc
  else if sub = .ofString "set" then valueSet fuel atoi s args alloc
  else
    match retainedErase with
    | some erase =>
      if sub = .ofString "unretain" then return ⟨erase s, [], 0⟩
      else return ⟨s, [.ofString "ztacx value <list|get|set|unretain>\n"], 0⟩
    | none => return ⟨s, [.ofString "ztacx value <list|get|set|unretain>\n"], 0⟩

/-! ## LEDs -/

/-- `leaf->context` where it is used: it can be null, or belong to another class. -/
def contextOf (s : ShellState) (leaf : LeafPtr) : Except ShellFault LedContext :=
  (s.context leaf).elim (.error (.fault .nullDeref)) .ok

/-- `k_work_reschedule` of a work item of the context. -/
def reschedule (s : ShellState) (leaf : LeafPtr) (work : LedWork) :
    Except ShellFault ShellOutcome := do
  let _ ← contextOf s leaf
  return ⟨{ s with rescheduled := (leaf, work) :: s.rescheduled }, [], 0⟩

/-- An arm of `cmd_ztacx_led` that gives `argv[3]` to a variable of the context. -/
def ledSet (s : ShellState) (args : List CString) (alloc : Bool) (leaf : LeafPtr)
    (entry : LedContext → VariablePtr) : Except ShellFault ShellOutcome := do
  let value ← argument args 3
  let context ← contextOf s leaf
  let r ← setString atoi s alloc (entry context) value
  return ⟨r.1, [], 0⟩

/-- The arms of `cmd_ztacx_led`, for a leaf that was found.  `cycle` and `blink` are looked for
where the name of the leaf is. -/
def ledArms (s : ShellState) (args : List CString) (alloc : Bool) (name : CString)
    (leaf : LeafPtr) : Except ShellFault ShellOutcome :=
  if 2 < argc args ∧ args[1]? = some (.ofString "on") then reschedule s leaf .ledon
  else if 2 < argc args ∧ args[1]? = some (.ofString "off") then reschedule s leaf .ledoff
  else if 3 < argc args ∧ args[1]? = some (.ofString "duty") then
    ledSet atoi s args alloc leaf fun context => context.settings + SETTING_DUTY
  else if 2 < argc args ∧ name = .ofString "cycle" then
    ledSet atoi s args alloc leaf fun context => context.settings + SETTING_CYCLE
  else if 2 < argc args ∧ name = .ofString "blink" then
    ledSet atoi s args alloc leaf fun context => context.values + VALUE_BLINK
  else .ok ⟨s, [], 0⟩

/-- `cmd_ztacx_led`.  The guard behind the lookup reads the context of a leaf that is null. -/
def cmdZtacxLed (s : ShellState) (args : List CString) (alloc : Bool) :
    Except ShellFault ShellOutcome :=
  if argc args < 2 then .ok ⟨s, [], -ENODEV⟩
  else do
    let name ← argument args 1
    let found ← lift (ztacxLeafGet fuel s.registry (some name))
    match found with
    | none => .error .nullLookup
    | some leaf => ledArms atoi s args alloc name leaf

end Code

/-! ## What `ztacx value list` prints -/

section Listing

variable (longBits : ℕ)

/-- **The variable's own line**: it begins with the name of the variable, and it is what the
description leaves in the buffer, whatever was there. -/
def OwnLine (v : ZtacxVariable) (line : CString) : Prop :=
  v.name.bytes <+: line.bytes ∧ ∀ desc, desc.length = DESC_SIZE →
    (describeInto longBits desc v).bind readCString = .ok line

/-- **One line for each variable, in order, and each its own**, whatever is on the stack. -/
def ListsOwnLines (fuel : ℕ) (atoi : CString → BitVec 32)
    (retainedErase : Option (ShellState → ShellState)) (s : ShellState)
    (vs : List VariablePtr) : Prop :=
  ∀ desc alloc, desc.length = DESC_SIZE → ∃ lines,
    cmdZtacxValue fuel longBits atoi retainedErase s [.ofString "list"] desc alloc =
      .ok ⟨s, lines, 0⟩ ∧
    List.Forall₂ (OwnLine longBits) (vs.map s.entry) lines

variable {longBits} {v : ZtacxVariable}

/-- An error leaves the buffer as it was. -/
theorem describeInto_event (event : v.kind = .event) (desc : List UInt8) :
    describeInto longBits desc v = .ok desc := by
  simp only [describeInto, ztacxVariableDescribe, event]

/-- A description overwrites the buffer from its front, with the variable's own line. -/
theorem describeInto_known (longBits : ℕ) (known : v.kind ≠ .event) :
    ∃ line, OwnLine longBits v line ∧ ∀ desc, desc.length = DESC_SIZE → ∃ desc',
      describeInto longBits desc v = .ok desc' ∧ HasText desc' DESC_SIZE line := by
  let whole := describedLine v.name v.kind.word (v.shownText longBits)
  have described : (ztacxVariableDescribe longBits DESC_SIZE v).1 =
      some (snprintf DESC_SIZE whole) := by
    cases hk : v.kind <;> first | exact absurd hk known | simp [ztacxVariableDescribe, whole, hk]
  have written : ∀ desc, desc.length = DESC_SIZE → ∃ desc',
      describeInto longBits desc v = .ok desc' ∧
        HasText desc' DESC_SIZE (snprintf DESC_SIZE whole) := by
    intro desc length
    have fits : (snprintf DESC_SIZE whole).strlen < DESC_SIZE :=
      Nat.lt_succ_of_le (List.length_take_le ..)
    have written := strcpyInto_spec length (snprintf DESC_SIZE whole)
    rw [if_pos fits] at written
    rw [describeInto, described]
    exact written
  refine ⟨snprintf DESC_SIZE whole, ⟨?_, fun desc length => ?_⟩, written⟩
  · have short : v.name.bytes.length ≤ DESC_SIZE - 1 := v.name_lt.le.trans (by decide)
    exact List.prefix_take_iff.mpr ⟨List.prefix_append .., short⟩
  · obtain ⟨desc', described, has⟩ := written desc length
    rw [described]
    exact has.read

/-- An EVENT has no line of its own. -/
theorem not_ownLine_event (event : v.kind = .event) (line : CString) :
    ¬ OwnLine longBits v line := by
  rintro ⟨-, left⟩
  have empty : readCString (CString.empty.padded DESC_SIZE) = .ok line := by
    have left := left (CString.empty.padded DESC_SIZE) rfl
    rwa [describeInto_event event] at left
  have stale : readCString ((CString.ofString "stale").padded DESC_SIZE) = .ok line := by
    have left := left ((CString.ofString "stale").padded DESC_SIZE) rfl
    rwa [describeInto_event event] at left
  rw [(hasText_padded (by decide)).read, Except.ok.injEq] at empty stale
  exact absurd (empty.trans stale.symm) (by decide)

/-- **The loop of `ztacx value list`** over variables none of which is an EVENT. -/
theorem listFrom_of_known (longBits : ℕ) {s : ShellState} {p : Option VariablePtr}
    {vs : List VariablePtr} (spelled : Slist.Spells s.registry.variableNext p vs)
    (known : ∀ v ∈ vs, (s.entry v).kind ≠ .event) {fuel : ℕ} (enough : vs.length < fuel)
    {desc : List UInt8} (length : desc.length = DESC_SIZE) :
    ∃ lines, listFrom longBits s fuel p desc = .ok lines ∧
      List.Forall₂ (OwnLine longBits) (vs.map s.entry) lines := by
  induction vs generalizing p fuel desc with
  | nil =>
      obtain ⟨k, rfl⟩ := Nat.exists_eq_add_of_lt enough
      rw [show p = none from spelled]
      exact ⟨[], rfl, .nil⟩
  | cons v vs ih =>
      obtain ⟨k, rfl⟩ : ∃ k, fuel = k + 1 := ⟨fuel - 1, by omega⟩
      obtain ⟨rfl, rest⟩ := spelled
      obtain ⟨here, later⟩ := List.forall_mem_cons.mp known
      obtain ⟨line, own, written⟩ := describeInto_known longBits here
      obtain ⟨desc', described, has⟩ := written desc length
      obtain ⟨lines, listed, lines_own⟩ := ih rest later (by simpa using enough) has.length_eq
      refine ⟨line :: lines, ?_, .cons own lines_own⟩
      simp only [listFrom, bind, Except.bind, described, has.read, listed]
      rfl

theorem cmdZtacxValue_list (fuel : ℕ) (atoi : CString → BitVec 32)
    (retainedErase : Option (ShellState → ShellState)) (s : ShellState) (desc : List UInt8)
    (alloc : Bool) :
    cmdZtacxValue fuel longBits atoi retainedErase s [.ofString "list"] desc alloc =
      (lift (listFrom longBits s fuel s.registry.ztacxVariables.head desc)).map
        fun lines => ⟨s, lines, 0⟩ := by
  rfl

/-- **When every line is the variable's own**: no EVENT is registered. -/
theorem listsOwnLines_iff {s : ShellState} {vs : List VariablePtr} {fuel : ℕ}
    (spelled : Slist.Spells s.registry.variableNext s.registry.ztacxVariables.head vs)
    (enough : vs.length < fuel) (atoi : CString → BitVec 32)
    (retainedErase : Option (ShellState → ShellState)) :
    ListsOwnLines longBits fuel atoi retainedErase s vs ↔
      ∀ v ∈ vs, (s.entry v).kind ≠ .event := by
  constructor
  · intro lists v mem event
    obtain ⟨lines, -, own⟩ := lists (CString.empty.padded DESC_SIZE) true rfl
    obtain ⟨i, inside, same⟩ := List.mem_iff_getElem.mp (List.mem_map_of_mem (f := s.entry) mem)
    have line := own.get inside (own.length_eq ▸ inside)
    rw [List.get_eq_getElem, same] at line
    exact not_ownLine_event event _ line
  · intro known desc alloc length
    obtain ⟨lines, listed, own⟩ := listFrom_of_known longBits spelled known enough length
    exact ⟨lines, by rw [cmdZtacxValue_list, listed]; rfl, own⟩

end Listing

/-- A board without leaves, on which the variables of a table have been registered. -/
def shellWith (table : List ZtacxVariable) : ShellState where
  registry := ztacxValuesRegister
    (Registry.boot (fun _ => ⟨.empty, ⟨.empty, ⟨false, false, false⟩⟩⟩)
      fun v => (table[v]?.map ZtacxVariable.name).getD .empty)
    .variables (List.range table.length)
  entry := fun v => table[v]?.getD (.entry "" .bool (by decide))
  context := fun _ => none
  submitted := []
  rescheduled := []

/-- The variables of a LED. -/
def ledTable : List ZtacxVariable :=
  [.entry "led0_ok" .bool (by decide), .entry "led0_lit" .bool (by decide)]

/-- **Two truth values** have their own lines. -/
theorem listsOwnLines_ledTable :
    ListsOwnLines 32 3 (fun _ => 0) none (shellWith ledTable) [0, 1] := by
  have spelled : Slist.Spells (shellWith ledTable).registry.variableNext
      (shellWith ledTable).registry.ztacxVariables.head [0, 1] := ⟨rfl, rfl, rfl⟩
  exact (listsOwnLines_iff spelled (by decide) _ _).mpr (by decide)

/-- A variable of a LED and the EVENT of a keypad. -/
def keypadTable : List ZtacxVariable :=
  [.entry "led0_ok" .bool (by decide), .entry "kp0_event" .event (by decide)]

set_option maxRecDepth 4000 in
/-- **The line of the EVENT** is that of the LED. -/
theorem not_listsOwnLines_keypadTable :
    (∃ line, cmdZtacxValue 3 32 (fun _ => 0) none (shellWith keypadTable) [.ofString "list"]
        (List.replicate DESC_SIZE 0) true = .ok ⟨shellWith keypadTable, [line, line], 0⟩) ∧
      ¬ ListsOwnLines 32 3 (fun _ => 0) none (shellWith keypadTable) [0, 1] := by
  refine ⟨⟨_, rfl⟩, fun lists => ?_⟩
  obtain ⟨lines, -, own⟩ := lists (List.replicate DESC_SIZE 0) true rfl
  cases own with
  | cons here later =>
      cases later with
      | cons here later => exact not_ownLine_event rfl _ here

end Ztacx.Shell
