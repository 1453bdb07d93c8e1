import Ztacx.RegistryLists
import Ztacx.Variable
import Ztacx.VariablesCopy

/-!
# The tables of led and keypad leaves

Every led leaf has settings and values of its own, and so has every keypad leaf.
Their classes hold the default tables; the init callback of a leaf whose context
asks for it copies them into the leaf's context under the leaf's name
(`copy_default_context`) and registers the copies (`ztacx_led_init`,
`ztacx_kp_init`).

A table is known by the address of its first entry, and the entries follow one
another (`tablePtrs`).  `LeafMemory` is the registry with the records behind its
addresses; `LeafMemory.write` writes a table in both.  What an init callback
finds when it sets up its device is an input.
-/

namespace Ztacx

open CModel

/-! ## Memory -/

/-- The registry and the table entries at its addresses. -/
structure LeafMemory where
  registry : Registry
  record : VariablePtr → VariableRecord

/-- The addresses of a table's entries. -/
def tablePtrs (base : VariablePtr) (count : ℕ) : List VariablePtr := List.range' base count

/-- The entry that a table at `base` has at an address. -/
def tableEntry (base : VariablePtr) (table : List VariableRecord) (v : VariablePtr) :
    Option VariableRecord :=
  if base ≤ v then table[v - base]? else none

namespace LeafMemory

/-- `memcpy` of a table: the records, and with them the names and the list nodes
that the registry goes by.  `nodes` has the node of every entry of the source. -/
def write (m : LeafMemory) (base : VariablePtr) (table : List VariableRecord)
    (nodes : ℕ → Option VariablePtr) : LeafMemory where
  registry :=
    { m.registry with
      variableName := fun v =>
        ((tableEntry base table v).map fun r => r.name.text).getD (m.registry.variableName v)
      variableNext := fun v =>
        if (tableEntry base table v).isSome then nodes (v - base)
        else m.registry.variableNext v }
  record := fun v => (tableEntry base table v).getD (m.record v)

def register (m : LeafMemory) (registers : List (ValueList × List VariablePtr)) : LeafMemory :=
  { m with registry := registerAll m.registry registers }

/-- `v->value.val_event = event`. -/
def setEvent (m : LeafMemory) (v : VariablePtr) (event : KEventPtr) : LeafMemory :=
  { m with
    record := Function.update m.record v
      { m.record v with value := { (m.record v).value with valEvent := some event } } }

theorem setEvent_record_self (m : LeafMemory) (v : VariablePtr) (event : KEventPtr) :
    (m.setEvent v event).record v =
      { m.record v with value := { (m.record v).value with valEvent := some event } } :=
  Function.update_self ..

theorem setEvent_record_of_ne (m : LeafMemory) {v w : VariablePtr} (ne : w ≠ v)
    (event : KEventPtr) : (m.setEvent v event).record w = m.record w :=
  Function.update_of_ne ne ..

/-! ### What a written table holds -/

section Write

variable (m : LeafMemory) {base : VariablePtr} {table : List VariableRecord}
  {nodes : ℕ → Option VariablePtr} {v : VariablePtr}

theorem tableEntry_add (base : VariablePtr) (table : List VariableRecord) (i : ℕ) :
    tableEntry base table (base + i) = table[i]? := by
  rw [tableEntry, if_pos (Nat.le_add_right base i), Nat.add_sub_cancel_left]

/-- There is an entry exactly at the addresses of the table. -/
theorem tableEntry_eq_none_iff :
    tableEntry base table v = none ↔ v ∉ tablePtrs base table.length := by
  have inTable : v ∈ tablePtrs base table.length ↔ base ≤ v ∧ v - base < table.length := by
    rw [tablePtrs, List.mem_range'_1]
    exact and_congr_right fun low => (Nat.sub_lt_iff_lt_add' low).symm
  rw [inTable, tableEntry]
  by_cases low : base ≤ v
  · rw [if_pos low, List.getElem?_eq_none_iff, not_and, not_lt]
    exact ⟨fun short _ => short, fun short => short low⟩
  · rw [if_neg low]
    exact iff_of_true rfl fun inside => low inside.1

theorem write_record_of_mem {e : VariableRecord} (at_v : tableEntry base table v = some e) :
    (m.write base table nodes).record v = e := by
  show (tableEntry base table v).getD _ = e
  rw [at_v]
  rfl

theorem write_record_of_notMem (outside : v ∉ tablePtrs base table.length) :
    (m.write base table nodes).record v = m.record v := by
  show (tableEntry base table v).getD _ = _
  rw [tableEntry_eq_none_iff.mpr outside]
  rfl

theorem write_variableNext_of_mem (inside : v ∈ tablePtrs base table.length) :
    (m.write base table nodes).registry.variableNext v = nodes (v - base) := by
  refine if_pos (Option.isSome_iff_ne_none.mpr fun outside => ?_)
  exact tableEntry_eq_none_iff.mp outside inside

theorem write_variableNext_of_notMem (outside : v ∉ tablePtrs base table.length) :
    (m.write base table nodes).registry.variableNext v = m.registry.variableNext v := by
  show (if (tableEntry base table v).isSome then nodes (v - base) else _) = _
  rw [tableEntry_eq_none_iff.mpr outside]
  rfl

@[simp] theorem write_valueList (list : ValueList) :
    (m.write base table nodes).registry.valueList list = m.registry.valueList list := by
  cases list <;> rfl

/-- The registry knows every record's name. -/
def NamesAgree : Prop := ∀ v, m.registry.variableName v = (m.record v).name.text

variable {m}

theorem NamesAgree.write (h : m.NamesAgree) : (m.write base table nodes).NamesAgree := by
  intro v
  show ((tableEntry base table v).map _).getD _ = ((tableEntry base table v).getD _).name.text
  cases tableEntry base table v with
  | none => exact h v
  | some e => rfl

theorem NamesAgree.setEvent (h : m.NamesAgree) (v : VariablePtr) (event : KEventPtr) :
    (m.setEvent v event).NamesAgree := by
  intro w
  rw [show (m.setEvent v event).registry.variableName w = _ from h w]
  by_cases same : w = v
  · rw [same, setEvent_record_self]
  · rw [m.setEvent_record_of_ne same]

/-- Lists that do not go through a table are not affected by writing it. -/
theorem write_represents {appends : List (ValueList × VariablePtr)}
    (h : RepresentsValues m.registry appends)
    (apart : ∀ v ∈ appends.map Prod.snd, v ∉ tablePtrs base table.length) :
    RepresentsValues (m.write base table nodes).registry appends := by
  intro list
  rw [write_valueList]
  refine ⟨(h list).spells.congr fun v mem => ?_, (h list).tail⟩
  exact m.write_variableNext_of_notMem (apart v (onList_subset list appends v mem))

end Write

/-! ### Registrations -/

@[simp] theorem register_record (m : LeafMemory)
    (registers : List (ValueList × List VariablePtr)) :
    (m.register registers).record = m.record := rfl

theorem registerAll_variableName (s : Registry) (registers : List (ValueList × List VariablePtr)) :
    (registerAll s registers).variableName = s.variableName := by
  rw [registerAll_eq_foldl]
  induction appendsOf registers generalizing s with
  | nil => rfl
  | cons a appends ih =>
      rw [List.foldl_cons, ih]
      cases a.1 <;> rfl

theorem NamesAgree.register {m : LeafMemory} (h : m.NamesAgree)
    (registers : List (ValueList × List VariablePtr)) : (m.register registers).NamesAgree := by
  intro v
  show (registerAll m.registry registers).variableName v = _
  rw [registerAll_variableName]
  exact h v

/-- Two registrations after another are one. -/
theorem register_register (m : LeafMemory) (rs qs : List (ValueList × List VariablePtr)) :
    (m.register rs).register qs = m.register (rs ++ qs) := by
  simp only [register, registerAll, List.foldl_append]

end LeafMemory

/-- `ztacx_variables_copy` of the records `src` with the list nodes `nodes`; a null
destination gets nothing. -/
def ztacxVariablesCopy (m : LeafMemory) (dst : Option VariablePtr) (src : List VariableRecord)
    (nodes : ℕ → Option VariablePtr) (count : ℕ) (pre : Option CString) :
    Except Fault LeafMemory :=
  match dst with
  | none => .ok m
  | some base => (copiedTable src count pre).map fun table => m.write base table nodes

/-! ## The default tables -/

/-- The list nodes of a default table, which is never registered. -/
def unlisted : ℕ → Option VariablePtr := fun _ => none

/-- The Kconfig symbols behind the tables. -/
structure LeafConfig where
  CONFIG_ZTACX_LEAF_SETTINGS : Bool
  CONFIG_ZTACX_LED_CYCLE : BitVec 32
  CONFIG_ZTACX_LED_DUTY : BitVec 32
  CONFIG_ZTACX_KP_BUS : CString
  CONFIG_ZTACX_KP_ADDR : BitVec 32
  CONFIG_ZTACX_KP_INTERVAL : BitVec 32

/-- The initialiser of a scalar member of `n` bytes. -/
def ZtacxValue.ofInt (n : ℕ) (x : BitVec 32) : ZtacxValue :=
  { ZtacxValue.zero with
    bytes := leBytes 8 (x.toNat % 256 ^ n)
    bytes_length := length_leBytes .. }

def ZtacxValue.ofLiteral (text : CString) : ZtacxValue :=
  { ZtacxValue.zero with valString := .literal text }

/-- An entry of a default table. -/
def VariableRecord.ofEntry (name : String) (kind : ZtacxValueKind) (value : ZtacxValue) :
    VariableRecord :=
  ⟨.ofText (.ofString name), kind, value, none⟩

def ledDefaultSettings (config : LeafConfig) : List VariableRecord :=
  [.ofEntry "cycle" .uint16 (.ofInt 2 config.CONFIG_ZTACX_LED_CYCLE),
   .ofEntry "duty" .byte (.ofInt 1 config.CONFIG_ZTACX_LED_DUTY)]

def ledDefaultValues : List VariableRecord :=
  [.ofEntry "ok" .bool .zero, .ofEntry "blink" .bool .zero, .ofEntry "lit" .bool .zero]

def kpDefaultSettings (config : LeafConfig) : List VariableRecord :=
  [.ofEntry "bus" .string (.ofLiteral config.CONFIG_ZTACX_KP_BUS),
   .ofEntry "addr" .uint16 (.ofInt 2 config.CONFIG_ZTACX_KP_ADDR),
   .ofEntry "interval" .int32 (.ofInt 4 config.CONFIG_ZTACX_KP_INTERVAL)]

def kpDefaultValues : List VariableRecord :=
  [.ofEntry "ok" .bool .zero, .ofEntry "pins" .byte (.ofInt 1 0xFF),
   .ofEntry "event" .event .zero]

/-! ## The init callbacks -/

/-- The part of `struct ztacx_led_context` and `struct ztacx_kp_context` that the
tables are in. -/
structure LeafContext where
  copyDefaultContext : Bool
  settings : Option VariablePtr
  settingsCount : ℕ
  values : Option VariablePtr
  valuesCount : ℕ
deriving DecidableEq, Repr

/-- The start of both init callbacks, for a leaf that has a context. -/
def setUpContext (settings values : List VariableRecord) (m : LeafMemory) (leafName : CString)
    (context : LeafContext) : Except Fault (LeafMemory × LeafContext) :=
  if context.copyDefaultContext then
    (ztacxVariablesCopy m context.settings settings unlisted settings.length
      (some leafName)).bind fun m =>
        (ztacxVariablesCopy m context.values values unlisted values.length
          (some leafName)).map fun m =>
            (m, { context with settingsCount := settings.length, valuesCount := values.length })
  else .ok (m, context)

/-- `if (table && count) ztacx_values_register(list, table, count)`. -/
def tableRegisters (list : ValueList) (table : Option VariablePtr) (count : ℕ) :
    List (ValueList × List VariablePtr) :=
  match table with
  | none => []
  | some base => if count = 0 then [] else [(list, tablePtrs base count)]

/-- `ztacx_led_init` of a leaf that has a context.  `device` says whether the
checks of the LED's port pass. -/
def ztacxLedInit (config : LeafConfig) (m : LeafMemory) (leafName : CString)
    (context : LeafContext) (device : Bool) : Except Fault (LeafMemory × LeafContext × ℤ) :=
  (setUpContext (ledDefaultSettings config) ledDefaultValues m leafName context).map
    fun (m, context) =>
      let m :=
        if config.CONFIG_ZTACX_LEAF_SETTINGS then
          m.register (tableRegisters .settings context.settings context.settingsCount)
        else m
      let m := m.register (tableRegisters .variables context.values context.valuesCount)
      (m, context, if device then 0 else - ENODEV)

/-- `ztacx_kp_init` of a leaf that has a context.  `event` is the event object in
the context; `bus` is none when the I2C bus is not found, else whether it is
ready. -/
def ztacxKpInit (config : LeafConfig) (m : LeafMemory) (leafName : CString)
    (context : LeafContext) (event : KEventPtr) (bus : Option Bool) :
    Except Fault (LeafMemory × LeafContext × ℤ) :=
  (setUpContext (kpDefaultSettings config) kpDefaultValues m leafName context).bind
    fun (m, context) =>
      let m := m.register (tableRegisters .settings context.settings context.settingsCount)
      match context.values with
      | none => .error .nullDeref
      | some values =>
        -- VALUE_EVENT
        let m := m.setEvent (values + 2) event
        let m := m.register (tableRegisters .variables context.values context.valuesCount)
        match bus with
        | none => .ok (m, context, - ENODEV)
        | some ready =>
          -- the address of the keypad is read from the settings
          if context.settings = none then .error .nullDeref
          else .ok (m, context, if ready then 0 else - ENODEV)

end Ztacx
