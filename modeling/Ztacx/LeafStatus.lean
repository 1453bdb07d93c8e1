import Ztacx.DeviceName
import Ztacx.Lifecycle
import Ztacx.LeafSleep
import Ztacx.ShellSafety

/-!
# What the framework knows about its leaves

`ztacx status`, `ztacx_leaf_is_ready` and `ztacx_leaf_is_running` of `src/ztacx.c`, and
`ztacx boot`, which runs `ztacx_init` again.  That makes the name of the device longer, and if
the mutex of the registry is free it empties the list of leaves.

A table of the leaves in the order of their initialisation, with two flags for each, is what
the linked list stands for (`LeafTable`).  Over whole sessions the registry follows the table,
and what is asked of it is answered from there, as long as no leaf is initialised that is on the
list already and `name_setting` has room for what each boot appends (`leafTable_run`).

After a `ztacx boot` that got the mutex the table is empty while the leaves run on.  At the
shell there is no way back: a leaf is only found by its name, and there is none to be found
(`booted_run`).
-/

namespace Ztacx

open CModel
open DeviceName (Device Names NamingEvent Named HasRoom bootNames)

/-! ## The code -/

/-- What `ztacx_init` works on. -/
structure Framework where
  registry : Registry
  names : Names
  ztacxInitDone : Bool

/-- What `ztacx_init` does to the leaves. -/
def ztacxInitLeaves (s : Registry) : Registry := { s with ztacxLeaves := Slist.init }

section Init

variable (device : Device)

/-- The framework as it is compiled in. -/
def Framework.compiled (defines : LeafPtr → LeafDefine) (variableName : VariablePtr → CString) :
    Framework where
  registry := Registry.boot defines variableName
  names := bootNames device
  ztacxInitDone := false

/-- `ztacx_init`: the names come first, whether or not it gets the mutex for the list. -/
def ztacxInit (s : Framework) (mutexFree : Bool) : Except Fault (Framework × ℤ) :=
  (DeviceName.ztacxInit device s.names mutexFree).map fun r =>
    if r.2 = 0 then (⟨ztacxInitLeaves s.registry, r.1, true⟩, 0)
    else ({ s with names := r.1 }, r.2)

/-- `ztacx_init`, at the start or by `ztacx boot`, and `bt_ready`. -/
def Framework.naming (s : Framework) : NamingEvent → Option Framework
  | .ztacxInit mutexFree => ((ztacxInit device s mutexFree).map Prod.fst).toOption
  | .btReady err nameOverride =>
    ((DeviceName.btReady device s.names err nameOverride).map fun names =>
      { s with names := names }).toOption

end Init

/-- `%s: %s %s` -/
def statusLine (leaf : ZtacxLeaf) : CString :=
  (((leaf.name.append (.ofString ": ")).append
    (.ofString (if leaf.ready then "READY" else "FAILED"))).append (.ofString " ")).append
    (.ofString (if leaf.running then "RUNNING" else "STOPPED"))

/-- `cmd_ztacx_status`: what it prints. -/
def cmdZtacxStatus (fuel : ℕ) (s : Framework) : Except Fault (List CString) :=
  if s.ztacxInitDone then
    Slist.walkFrom s.registry.leafNext
      (fun shown leaf => .ok (shown ++ [statusLine (s.registry.leaf leaf)])) fuel
      [.ofString "ztacx is initialised"] s.registry.ztacxLeaves.head
  else .ok [.ofString "ztacx is not initialised"]

/-- A flag of a leaf with a name.  The guard tests `name`, not the leaf it looked up. -/
def leafFlag (fuel : ℕ) (s : Registry) (flag : ZtacxLeaf → Bool) (name : Option CString) :
    Except Fault Bool :=
  (ztacxLeafGet fuel s name).bind fun found =>
    if name = none then .ok false
    else found.elim (.error .nullDeref) fun leaf => .ok (flag (s.leaf leaf))

/-- `ztacx_leaf_is_ready` -/
def ztacxLeafIsReady (fuel : ℕ) (s : Registry) := leafFlag fuel s ZtacxLeaf.ready

/-- `ztacx_leaf_is_running` -/
def ztacxLeafIsRunning (fuel : ℕ) (s : Registry) := leafFlag fuel s ZtacxLeaf.running

/-- `ztacx boot` or `bt_ready`, or an operation on a leaf. -/
inductive SessionOp
  | naming (e : NamingEvent)
  | life (op : LifecycleOp)

def SessionOp.namingEvent : SessionOp → Option NamingEvent
  | .naming e => some e
  | .life _ => none

def sessionStep (device : Device) (fuel : ℕ) (s : Framework) : SessionOp → Option Framework
  | .naming e => s.naming device e
  | .life op => (lifecycleStep fuel s.registry op).map fun r => { s with registry := r }

/-! ## The table -/

/-- The compiled-in leaves. -/
structure Firmware where
  leaves : List LeafPtr
  defines : LeafPtr → LeafDefine

/-- The leaves that have been initialised, in order, and the flags. -/
structure LeafTable where
  order : List LeafPtr
  ready : LeafPtr → Bool
  running : LeafPtr → Bool

namespace LeafTable

variable (firmware : Firmware) (t : LeafTable)

def empty : LeafTable := ⟨[], fun _ => false, fun _ => false⟩

/-- The first leaf with a name. -/
def named (name : CString) : Option LeafPtr :=
  t.order.find? fun leaf => (firmware.defines leaf).name = name

/-- A callback succeeds, also where there is none. -/
def succeeds (callback : Bool) (rc : ℤ) : Bool := !callback || rc = 0

def initialise (leaf : LeafPtr) (ready : Bool) : LeafTable where
  order := t.order ++ [leaf]
  ready := Function.update t.ready leaf ready
  running := Function.update t.running leaf false

def setRunning (leaf : LeafPtr) (running : Bool) : LeafTable :=
  { t with running := Function.update t.running leaf running }

/-- Start or stop the leaf with a name.  The null pointer for a name is only survived where
there is no leaf to compare it with. -/
def runNamed (running : Bool) (callback : ZtacxLeafCb → Bool) (rc : ℤ) :
    Option CString → Option LeafTable
  | none => if t.order = [] then some t else none
  | some name => (t.named firmware name).map fun leaf =>
      if succeeds (callback (firmware.defines leaf).cls.cb) rc then t.setRunning leaf running else t

/-- **What a session does to the table.** -/
def step : SessionOp → Option LeafTable
  | .naming (.ztacxInit mutexFree) => some (if mutexFree then { t with order := [] } else t)
  | .naming (.btReady _ _) => some t
  | .life (.sysInit leaf call) =>
    if leaf ∈ firmware.leaves ∧ leaf ∉ t.order then
      some (t.initialise leaf (succeeds (firmware.defines leaf).cls.cb.init call.rc))
    else none
  | .life (.sysStart leaf rc) =>
    some (if t.ready leaf = true ∧ succeeds (firmware.defines leaf).cls.cb.start rc then
      t.setRunning leaf true else t)
  | .life (.start name rc) => t.runNamed firmware true ZtacxLeafCb.start rc name
  | .life (.stop name rc) => t.runNamed firmware false ZtacxLeafCb.stop rc name

/-- The leaf as the table has it. -/
def entry (leaf : LeafPtr) : ZtacxLeaf :=
  ⟨(firmware.defines leaf).name, (firmware.defines leaf).cls, t.ready leaf, t.running leaf⟩

end LeafTable

/-- **The registry stands for a table.** -/
structure StandsFor (firmware : Firmware) (s : Registry) (t : LeafTable) : Prop where
  order : Slist.Represents s.leafNext s.ztacxLeaves t.order
  known : t.order ⊆ firmware.leaves
  leaf : s.leaf = t.entry firmware

section Table

variable {firmware : Firmware} {fuel : ℕ} {s : Registry} {t t' : LeafTable}

theorem standsFor_boot (names : VariablePtr → CString) :
    StandsFor firmware (Registry.boot firmware.defines names) .empty where
  order := Slist.represents_init _
  known := List.nil_subset _
  leaf := rfl

/-- The list is not longer than the firmware is. -/
theorem StandsFor.enough (stands : StandsFor firmware s t)
    (enough : firmware.leaves.length < fuel) : t.order.length < fuel :=
  (stands.order.spells.nodup.subperm stands.known).length_le.trans_lt enough

/-- A lookup finds what the table has. -/
theorem StandsFor.leafGet (stands : StandsFor firmware s t)
    (enough : firmware.leaves.length < fuel) (name : CString) :
    ztacxLeafGet fuel s (some name) = .ok (t.named firmware name) := by
  refine Slist.findFrom_of_spells stands.order.spells (fun leaf _ => ?_) (stands.enough enough)
  rw [stands.leaf]
  rfl

theorem StandsFor.setRunning (stands : StandsFor firmware s t) (leaf : LeafPtr) (running : Bool) :
    StandsFor firmware (s.modifyLeaf leaf fun l => { l with running := running })
      (t.setRunning leaf running) where
  order := stands.order
  known := stands.known
  leaf := by
    funext l
    by_cases same : l = leaf
    · rw [same, modifyLeaf_self, stands.leaf]
      simp [LeafTable.entry, LeafTable.setRunning]
    · rw [modifyLeaf_of_ne _ _ _ same, stands.leaf]
      simp [LeafTable.entry, LeafTable.setRunning, same]

theorem StandsFor.record (stands : StandsFor firmware s t) (e : LeafEvent) :
    StandsFor firmware (s.record e) t := ⟨stands.order, stands.known, stands.leaf⟩

/-- What an initialisation does to the leaf. -/
theorem ztacxLeafSysInit_leaf (s : Registry) (leaf : LeafPtr) (call : InitCall) :
    (ztacxLeafSysInit s leaf call).1.leaf = Function.update s.leaf leaf
      { s.leaf leaf with
        ready := LeafTable.succeeds (s.leaf leaf).cls.cb.init call.rc
        running := false } := by
  obtain ⟨-, -, others, -⟩ := ztacxLeafSysInit_flags s leaf call
  have registered := registerAll_sameLeaves
    ((s.appendLeaf leaf).modifyLeaf leaf fun l => { l with ready := false, running := false })
    call.registers
  funext l
  by_cases same : l = leaf
  · rw [same, Function.update_self]
    unfold ztacxLeafSysInit LeafTable.succeeds
    by_cases callback : (s.leaf leaf).cls.cb.init = true
    · simp only [modifyLeaf_self, appendLeaf_leaf, callback, if_true]
      by_cases succeeded : call.rc = 0
      · simp [succeeded, registered.leaf]
      · simp [succeeded, registered.leaf]
    · simp [callback]
  · rw [Function.update_of_ne same, others l same]

theorem StandsFor.initialise (stands : StandsFor firmware s t) {leaf : LeafPtr}
    (known : leaf ∈ firmware.leaves) (fresh : leaf ∉ t.order) (call : InitCall) :
    StandsFor firmware (ztacxLeafSysInit s leaf call).1
      (t.initialise leaf (LeafTable.succeeds (firmware.defines leaf).cls.cb.init call.rc)) where
  order := by
    obtain ⟨next, list⟩ := ztacxLeafSysInit_leaves s leaf call
    rw [next, list]
    exact stands.order.append fresh
  known := List.append_subset.mpr ⟨stands.known, List.cons_subset.mpr ⟨known, List.nil_subset _⟩⟩
  leaf := by
    rw [ztacxLeafSysInit_leaf, stands.leaf]
    funext l
    by_cases same : l = leaf
    · rw [same, Function.update_self]
      simp only [LeafTable.entry, LeafTable.initialise, Function.update_self]
    · rw [Function.update_of_ne same]
      simp [LeafTable.entry, LeafTable.initialise, same]

theorem StandsFor.cls (stands : StandsFor firmware s t) (leaf : LeafPtr) :
    (s.leaf leaf).cls = (firmware.defines leaf).cls := by
  rw [stands.leaf]
  rfl

theorem StandsFor.sysStart (stands : StandsFor firmware s t) (leaf : LeafPtr) (rc : ℤ) :
    StandsFor firmware (ztacxLeafSysStart s leaf rc).1
      (if t.ready leaf = true ∧ LeafTable.succeeds (firmware.defines leaf).cls.cb.start rc then
        t.setRunning leaf true else t) := by
  have ready : (s.leaf leaf).ready = t.ready leaf := by
    rw [stands.leaf]
    rfl
  unfold ztacxLeafSysStart LeafTable.succeeds
  rw [ready, stands.cls]
  cases t.ready leaf with
  | false => simpa using stands
  | true =>
    cases (firmware.defines leaf).cls.cb.start with
    | false => simpa using stands.setRunning leaf true
    | true =>
        by_cases succeeded : rc = 0
        · simpa [succeeded] using (stands.record (.startCb leaf)).setRunning leaf true
        · simpa [succeeded] using stands.record (.startCb leaf)

/-- The null pointer for a name. -/
theorem StandsFor.leafGet_none (stands : StandsFor firmware s t)
    (enough : firmware.leaves.length < fuel) (empty : t.order = []) :
    ztacxLeafGet fuel s none = .ok none := by
  have found := @Slist.findFrom_of_spells _ s.leafNext
    (fun l => sameName (s.leaf l).name none) (fun _ => false) _ _ stands.order.spells
    (by rw [empty]; exact fun _ mem => absurd mem List.not_mem_nil) fuel (stands.enough enough)
  rw [empty] at found
  exact found

/-- Without a name there has to be no leaf, and then nothing happens. -/
theorem StandsFor.runNamed_none (stands : StandsFor firmware s t)
    (enough : firmware.leaves.length < fuel) {running : Bool} {callback : ZtacxLeafCb → Bool}
    {rc : ℤ} (taken : t.runNamed firmware running callback rc none = some t') :
    t' = t ∧ lifecycleStep fuel s (.start none rc) = some s ∧
      lifecycleStep fuel s (.stop none rc) = some s := by
  obtain ⟨empty, same⟩ := Option.ite_none_right_eq_some.mp taken
  have got := stands.leafGet_none enough empty
  refine ⟨(Option.some.inj same).symm, ?_, ?_⟩
  · simp [lifecycleStep, ztacxLeafStart, got, Except.bind, Except.toOption]
  · simp [lifecycleStep, ztacxLeafStop, got, Except.bind, Except.toOption]

/-- Starting a leaf by name. -/
theorem StandsFor.start (stands : StandsFor firmware s t)
    (enough : firmware.leaves.length < fuel) {name : Option CString} {rc : ℤ}
    (taken : t.runNamed firmware true ZtacxLeafCb.start rc name = some t') :
    ∃ s', lifecycleStep fuel s (.start name rc) = some s' ∧ StandsFor firmware s' t' := by
  cases name with
  | none =>
      obtain ⟨rfl, same, -⟩ := stands.runNamed_none enough taken
      exact ⟨s, same, stands⟩
  | some name =>
      obtain ⟨leaf, found, rfl⟩ := Option.map_eq_some_iff.mp taken
      have got := stands.leafGet enough name
      rw [found] at got
      unfold LeafTable.succeeds
      simp only [lifecycleStep, ztacxLeafStart, got, Except.bind, reduceCtorEq, if_false,
        stands.cls]
      cases (firmware.defines leaf).cls.cb.start with
      | false => exact ⟨_, rfl, by simpa using stands.setRunning leaf true⟩
      | true =>
          have called := stands.record (.startCb leaf)
          by_cases succeeded : rc = 0
          · subst succeeded
            exact ⟨_, rfl, by simpa using called.setRunning leaf true⟩
          · refine ⟨s.record (.startCb leaf), by simp [succeeded, Except.toOption], ?_⟩
            simpa [succeeded] using called

/-- Stopping a leaf by name. -/
theorem StandsFor.stop (stands : StandsFor firmware s t)
    (enough : firmware.leaves.length < fuel) {name : Option CString} {rc : ℤ}
    (taken : t.runNamed firmware false ZtacxLeafCb.stop rc name = some t') :
    ∃ s', lifecycleStep fuel s (.stop name rc) = some s' ∧ StandsFor firmware s' t' := by
  cases name with
  | none =>
      obtain ⟨rfl, -, same⟩ := stands.runNamed_none enough taken
      exact ⟨s, same, stands⟩
  | some name =>
      obtain ⟨leaf, found, rfl⟩ := Option.map_eq_some_iff.mp taken
      have got := stands.leafGet enough name
      rw [found] at got
      unfold LeafTable.succeeds
      simp only [lifecycleStep, ztacxLeafStop, got, Except.bind, reduceCtorEq, if_false,
        stands.cls]
      cases (firmware.defines leaf).cls.cb.stop with
      | false => exact ⟨_, rfl, by simpa using stands.setRunning leaf false⟩
      | true =>
          by_cases succeeded : rc = 0
          · subst succeeded
            exact ⟨_, rfl, by simpa using stands.setRunning leaf false⟩
          · refine ⟨s, by simp [succeeded, Except.toOption], ?_⟩
            simpa [succeeded] using stands

/-- The step lemma of the operations on leaves. -/
theorem StandsFor.life (stands : StandsFor firmware s t) (enough : firmware.leaves.length < fuel)
    {op : LifecycleOp} (taken : t.step firmware (.life op) = some t') :
    ∃ s', lifecycleStep fuel s op = some s' ∧ StandsFor firmware s' t' := by
  cases op with
  | sysInit leaf call =>
      obtain ⟨⟨known, fresh⟩, same⟩ := Option.ite_none_right_eq_some.mp taken
      cases same
      exact ⟨_, rfl, stands.initialise known fresh call⟩
  | sysStart leaf rc =>
      cases taken
      exact ⟨_, rfl, stands.sysStart leaf rc⟩
  | start name rc => exact stands.start enough taken
  | stop name rc => exact stands.stop enough taken

theorem StandsFor.forget (stands : StandsFor firmware s t) :
    StandsFor firmware (ztacxInitLeaves s) { t with order := [] } :=
  ⟨Slist.represents_init _, List.nil_subset _, stands.leaf⟩

/-- A flag is that of the first leaf with the name. -/
theorem StandsFor.leafFlag (stands : StandsFor firmware s t)
    (enough : firmware.leaves.length < fuel) (flag : ZtacxLeaf → Bool) (name : CString) :
    Ztacx.leafFlag fuel s flag (some name) = (t.named firmware name).elim (.error .nullDeref)
      fun leaf => .ok (flag (t.entry firmware leaf)) := by
  unfold Ztacx.leafFlag
  rw [stands.leafGet enough name, stands.leaf]
  rfl

end Table

/-- What a naming event does, from what it does to the names. -/
theorem Framework.naming_eq (device : Device) (s : Framework) (e : NamingEvent) :
    s.naming device e = (DeviceName.namingStep device s.names e).map fun names =>
      if e = .ztacxInit true then ⟨ztacxInitLeaves s.registry, names, true⟩
      else { s with names := names } := by
  cases e with
  | ztacxInit mutexFree =>
      unfold Framework.naming ztacxInit DeviceName.namingStep DeviceName.ztacxInit
      cases DeviceName.nameDevice device s.names with
      | error fault => rfl
      | ok names =>
          cases mutexFree with
          | false => rfl
          | true => rfl
  | btReady err nameOverride =>
      show (Except.map _ (DeviceName.btReady device s.names err nameOverride)).toOption =
        Option.map _ (DeviceName.btReady device s.names err nameOverride).toOption
      cases DeviceName.btReady device s.names err nameOverride with
      | error fault => rfl
      | ok names => rfl

/-- **The framework serves a table**: it is initialised, its registry stands for the table, and
the names are sound. -/
structure Serves (device : Device) (firmware : Firmware) (s : Framework) (t : LeafTable) :
    Prop where
  table : StandsFor firmware s.registry t
  named : Named device s.names
  initDone : s.ztacxInitDone = true

section Serves

variable {device : Device} {firmware : Firmware} {fuel : ℕ} {s : Framework} {t t' : LeafTable}

/-- The first `ztacx_init`, of the framework as it is compiled in. -/
theorem compiled_naming (variableName : VariablePtr → CString)
    (room : HasRoom device (bootNames device) (.ztacxInit true)) :
    ∃ s, (Framework.compiled device firmware.defines variableName).naming device
        (.ztacxInit true) = some s ∧ Serves device firmware s .empty ∧
      DeviceName.namingStep device (bootNames device) (.ztacxInit true) = some s.names := by
  obtain ⟨names, named, sound⟩ :=
    ((DeviceName.bootNames_named device).step (.ztacxInit true)).1 room
  refine ⟨⟨Registry.boot firmware.defines variableName, names, true⟩, ?_,
    ⟨standsFor_boot variableName, sound, rfl⟩, named⟩
  rw [Framework.naming_eq]
  show Option.map _ (DeviceName.namingStep device (bootNames device) (.ztacxInit true)) = _
  rw [named]
  rfl

/-- A naming event with room for the name. -/
theorem Serves.naming (serves : Serves device firmware s t) {e : NamingEvent}
    (room : HasRoom device s.names e) (taken : t.step firmware (.naming e) = some t') :
    ∃ s', s.naming device e = some s' ∧ Serves device firmware s' t' ∧
      DeviceName.namingStep device s.names e = some s'.names := by
  obtain ⟨names, named, sound⟩ := (serves.named.step e).1 room
  rw [Framework.naming_eq, named]
  cases e with
  | ztacxInit mutexFree =>
      cases mutexFree with
      | false =>
          cases taken
          exact ⟨_, rfl, ⟨serves.table, sound, serves.initDone⟩, rfl⟩
      | true =>
          cases taken
          exact ⟨_, rfl, ⟨serves.table.forget, sound, rfl⟩, rfl⟩
  | btReady err nameOverride =>
      cases taken
      exact ⟨_, rfl, ⟨serves.table, sound, serves.initDone⟩, rfl⟩

/-- **The step lemma.** -/
theorem Serves.step (serves : Serves device firmware s t)
    (enough : firmware.leaves.length < fuel) {op : SessionOp}
    (taken : t.step firmware op = some t')
    (room : ∀ e ∈ op.namingEvent, HasRoom device s.names e) :
    ∃ s', sessionStep device fuel s op = some s' ∧ Serves device firmware s' t' ∧
      run (DeviceName.namingStep device) s.names op.namingEvent.toList = some s'.names := by
  cases op with
  | naming e =>
      obtain ⟨s', done, serves', named⟩ := serves.naming (room e rfl) taken
      exact ⟨s', done, serves', run_cons_eq_some.mpr ⟨_, named, rfl⟩⟩
  | life op =>
      obtain ⟨registry, done, table⟩ := serves.table.life enough taken
      exact ⟨{ s with registry := registry }, Option.map_eq_some_iff.mpr ⟨_, done, rfl⟩,
        ⟨table, serves.named, serves.initDone⟩, rfl⟩

/-- `ztacx status` prints the table. -/
theorem Serves.status (serves : Serves device firmware s t)
    (enough : firmware.leaves.length < fuel) :
    cmdZtacxStatus fuel s = .ok (.ofString "ztacx is initialised" ::
      t.order.map fun leaf => statusLine (t.entry firmware leaf)) := by
  have walked := @Slist.walkFrom_of_spells _ _ s.registry.leafNext
    (fun shown leaf => .ok (shown ++ [statusLine (s.registry.leaf leaf)])) _ _ _
    serves.table.order.spells (fun _ _ _ => rfl) _ (serves.table.enough enough)
    [.ofString "ztacx is initialised"]
  unfold cmdZtacxStatus
  rw [if_pos serves.initDone]
  refine walked.trans (congrArg Except.ok ?_)
  rw [List.foldl_append_eq_append, serves.table.leaf, ← List.flatMap_def, ← List.map_eq_flatMap]
  rfl

end Serves

/-- **What is asked of the registry is answered from the table**, after any session in which no
leaf is initialised that is on the list, only listed leaves are named, and the name of the
device has room for what every boot makes of it. -/
theorem leafTable_run {device : Device} {firmware : Firmware} {fuel : ℕ}
    {variableName : VariablePtr → CString} {ops : List SessionOp} {t : LeafTable}
    (enough : firmware.leaves.length < fuel)
    (ran : run (LeafTable.step firmware) .empty ops = some t)
    (room : Meets (DeviceName.namingStep device) (HasRoom device) (bootNames device)
      (.ztacxInit true :: ops.filterMap SessionOp.namingEvent)) :
    ∃ s, run (sessionStep device fuel)
        (Framework.compiled device firmware.defines variableName)
        (.naming (.ztacxInit true) :: ops) = some s ∧
      cmdZtacxStatus fuel s = .ok (.ofString "ztacx is initialised" ::
        t.order.map fun leaf => statusLine (t.entry firmware leaf)) ∧
      ∀ name,
        ztacxLeafIsReady fuel s.registry (some name) =
          (t.named firmware name).elim (.error .nullDeref) (fun leaf => .ok (t.ready leaf)) ∧
        ztacxLeafIsRunning fuel s.registry (some name) =
          (t.named firmware name).elim (.error .nullDeref) (fun leaf => .ok (t.running leaf)) := by
  obtain ⟨first, later⟩ := room
  obtain ⟨s₀, init, serves, named⟩ := @compiled_naming device firmware variableName first
  obtain ⟨s, reached, serves⟩ := run_forward_of_part
    (fun serves taken room => serves.step enough taken room) serves ran (later s₀.names named)
  exact ⟨s, run_cons_eq_some.mpr ⟨s₀, init, reached⟩, serves.status enough, fun name =>
    ⟨serves.table.leafFlag enough ZtacxLeaf.ready name,
      serves.table.leafFlag enough ZtacxLeaf.running name⟩⟩

/-! ### A session with two leaves -/

/-- A keypad with all the callbacks, and a LED without any. -/
def keypadAndLed : Firmware where
  leaves := [0, 1]
  defines := fun leaf =>
    if leaf = 0 then ⟨.ofString "kp0", ⟨.ofString "kp", ⟨true, true, true⟩⟩⟩ else bareLeaf

/-- The keypad fails to start at first.  The first `ztacx boot` finds the mutex held, the
second one forgets everything. -/
def startTwice : List SessionOp :=
  [.life (.sysInit 0 ⟨[], 0⟩), .life (.sysInit 1 ⟨[], 0⟩), .life (.sysStart 0 (- EIO)),
    .naming (.ztacxInit false), .life (.sysStart 1 0), .life (.stop (some (.ofString "led0")) 0),
    .life (.start (some (.ofString "kp0")) 0), .naming (.btReady 0 (some (.ofString "hall"))),
    .naming (.ztacxInit true), .life (.sysInit 1 ⟨[], 0⟩)]

theorem startTwice_table :
    ∃ t, run (LeafTable.step keypadAndLed) .empty startTwice = some t :=
  Option.isSome_iff_exists.mp (by decide)

/-- A device named `ztacx`. -/
def ztacxDevice : Device := DeviceName.exampleDevice "ztacx" (by decide)

theorem startTwice_room :
    Meets (DeviceName.namingStep ztacxDevice) (HasRoom ztacxDevice) (bootNames ztacxDevice)
      (.ztacxInit true :: startTwice.filterMap SessionOp.namingEvent) := by
  decide

theorem startTwice_status :
    ∃ (t : LeafTable) (s : Framework),
      run (sessionStep ztacxDevice 3)
          (Framework.compiled ztacxDevice keypadAndLed.defines fun _ => .empty)
          (.naming (.ztacxInit true) :: startTwice) = some s ∧
      cmdZtacxStatus 3 s = .ok (.ofString "ztacx is initialised" ::
        t.order.map fun leaf => statusLine (t.entry keypadAndLed leaf)) ∧
      ∀ name,
        ztacxLeafIsReady 3 s.registry (some name) =
          (t.named keypadAndLed name).elim (.error .nullDeref) (fun leaf => .ok (t.ready leaf)) ∧
        ztacxLeafIsRunning 3 s.registry (some name) =
          (t.named keypadAndLed name).elim (.error .nullDeref)
            (fun leaf => .ok (t.running leaf)) :=
  startTwice_table.imp fun _ ran => leafTable_run (by decide) ran startTwice_room

/-! ## After `ztacx boot` -/

namespace Shell

/-- What is typed, and `bt_ready`, which may replace the name at any time. -/
inductive ShellInput
  | boot (mutexFree : Bool)
  | status
  | command (cmd : ShellCommand) (args : List CString)
  | btReady (err : ℤ) (nameOverride : Option CString)

/-- The memory of the commands about leaves and variables, and the rest of what `ztacx_init`
works on. -/
structure Console where
  shell : ShellState
  names : Names
  ztacxInitDone : Bool

namespace Console

variable (s : Console)

def framework : Framework := ⟨s.shell.registry, s.names, s.ztacxInitDone⟩

def withFramework (f : Framework) : Console :=
  ⟨{ s.shell with registry := f.registry }, f.names, f.ztacxInitDone⟩

end Console

section Input

variable (device : Device) (fuel longBits : ℕ) (atoi : CString → BitVec 32)
  (retainedErase : Option (ShellState → ShellState))

/-- `cmd_ztacx_boot`: what it leaves behind, prints and returns. -/
def cmdZtacxBoot (s : Console) (mutexFree : Bool) : Except Fault (Console × CString × ℤ) :=
  (ztacxInit device s.framework mutexFree).map fun r =>
    (s.withFramework r.1, .ofString (if r.2 = 0 then "booted" else "failed"), r.2)

def inputStep (s : Console) : ShellInput → Option Console
  | .boot mutexFree => ((cmdZtacxBoot device s mutexFree).map Prod.fst).toOption
  | .status => (cmdZtacxStatus fuel s.framework).toOption.map fun _ => s
  | .command cmd args =>
    (cmd.run fuel longBits atoi retainedErase s.shell args).toOption.map fun r =>
      { s with shell := r.state }
  | .btReady err nameOverride =>
    (s.framework.naming device (.btReady err nameOverride)).map s.withFramework

/-- The command is about a leaf. -/
def NamesLeaf (cmd : ShellCommand) : Prop := ∀ desc alloc, cmd ≠ .value desc alloc

end Input

section Booted

variable {fuel longBits : ℕ} {atoi : CString → BitVec 32}
  {retainedErase : Option (ShellState → ShellState)} {s t : ShellState}

/-- Whatever succeeds leaves the registry as it was. -/
def KeepsRegistry (s : ShellState) (x : Except ShellFault ShellOutcome) : Prop :=
  ∀ r, x = .ok r → r.state.registry = s.registry

theorem keepsRegistry_ok {shown : List CString} {rc : ℤ} (same : t.registry = s.registry) :
    KeepsRegistry s (.ok ⟨t, shown, rc⟩) := by
  rintro r ⟨⟩
  exact same

theorem keepsRegistry_bind {α : Type} {x : Except ShellFault α}
    {f : α → Except ShellFault ShellOutcome} (then_ : ∀ a, x = .ok a → KeepsRegistry s (f a)) :
    KeepsRegistry s (x >>= f) := by
  cases x with
  | error fault => exact fun _ same => by cases same
  | ok a => exact then_ a rfl

theorem registry_setString {alloc : Bool} {v : VariablePtr} {text : CString} {r : ShellState × ℤ}
    (set : setString atoi s alloc v text = .ok r) : r.1.registry = s.registry := by
  unfold setString at set
  cases stored : lift (ztacxVariableValueSetString atoi alloc (s.entry v) (some text)) with
  | error fault =>
      rw [stored] at set
      cases set
  | ok outcome =>
      rw [stored] at set
      cases set
      rfl

/-- `ztacx value` does not touch the lists. -/
theorem keepsRegistry_value
    (keeps : ∀ erase ∈ retainedErase, ∀ s, (erase s).registry = s.registry)
    (args : List CString) (desc : List UInt8) (alloc : Bool) :
    KeepsRegistry s (cmdZtacxValue fuel longBits atoi retainedErase s args desc alloc) := by
  cases args with
  | nil => exact fun _ same => by cases same
  | cons word args =>
      rw [cmdZtacxValue_cons]
      split
      · exact keepsRegistry_bind fun _ _ => keepsRegistry_ok rfl
      split
      · unfold valueGet
        refine keepsRegistry_bind fun _ _ => keepsRegistry_bind fun found _ => ?_
        cases found with
        | none => exact fun _ same => by cases same
        | some v => exact keepsRegistry_bind fun _ _ => keepsRegistry_ok rfl
      split
      · unfold valueSet
        refine keepsRegistry_bind fun _ _ => keepsRegistry_bind fun _ _ =>
          keepsRegistry_bind fun found _ => ?_
        cases found with
        | none => exact keepsRegistry_ok rfl
        | some v =>
            refine keepsRegistry_bind fun r set => ?_
            split
            · exact keepsRegistry_ok (registry_setString set)
            · exact keepsRegistry_ok (registry_setString set)
      · cases retainedErase with
        | none => exact keepsRegistry_ok rfl
        | some erase =>
            dsimp only
            split
            · exact keepsRegistry_ok (keeps erase rfl s)
            · exact keepsRegistry_ok rfl

/-- **Nothing is found on an empty list**, and every command about a leaf uses what it did not
find. -/
theorem run_of_empty (positive : 0 < fuel) (empty : s.registry.ztacxLeaves.head = none)
    {cmd : ShellCommand} (leaf : NamesLeaf cmd) (name : CString) (args : List CString) :
    cmd.run fuel longBits atoi retainedErase s (name :: args) = .error .nullLookup := by
  have got : ztacxLeafGet fuel s.registry (some name) = .ok none :=
    @Slist.findFrom_of_spells _ _ _ (fun _ => false) _ [] empty
      (fun _ mem => absurd mem List.not_mem_nil) _ positive
  cases cmd with
  | init call =>
      show (lift (ztacxLeafGet fuel s.registry (some name)) >>= _) = _
      rw [got]
      rfl
  | start rc =>
      show (liftLeaf (ztacxLeafStart fuel s.registry (some name) rc) >>= _) = _
      rw [((ztacxLeafStart_of_get got rc).1 rfl).1]
      rfl
  | stop rc =>
      show (liftLeaf (ztacxLeafStop fuel s.registry (some name) rc) >>= _) = _
      rw [((ztacxLeafStart_of_get got rc).1 rfl).2]
      rfl
  | value desc alloc => exact absurd rfl (leaf desc alloc)
  | led alloc =>
      have more : ¬ argc (name :: args) < 2 := by simp [argc]
      show cmdZtacxLed fuel atoi s (name :: args) alloc = _
      unfold cmdZtacxLed
      rw [if_neg more]
      show (lift (ztacxLeafGet fuel s.registry (some name)) >>= _) = _
      rw [got]
      rfl

/-- A command that goes through on an empty list leaves the registry alone. -/
theorem keepsRegistry_run (positive : 0 < fuel)
    (keeps : ∀ erase ∈ retainedErase, ∀ s, (erase s).registry = s.registry)
    (empty : s.registry.ztacxLeaves.head = none) (cmd : ShellCommand) (args : List CString) :
    KeepsRegistry s (cmd.run fuel longBits atoi retainedErase s args) := by
  by_cases leaf : NamesLeaf cmd
  · cases args with
    | nil =>
        cases cmd with
        | value desc alloc => exact absurd rfl (leaf desc alloc)
        | led alloc => exact keepsRegistry_ok rfl
        | init call | start rc | stop rc => exact fun _ same => by cases same
    | cons name args =>
        rw [run_of_empty positive empty leaf]
        exact fun _ same => by cases same
  · unfold NamesLeaf at leaf
    push Not at leaf
    obtain ⟨desc, alloc, rfl⟩ := leaf
    exact keepsRegistry_value keeps args desc alloc

/-- The framework is initialised, the list is empty, and the leaves are as they were. -/
structure Forgotten (leaf : LeafPtr → ZtacxLeaf) (s : Framework) : Prop where
  initDone : s.ztacxInitDone = true
  empty : s.registry.ztacxLeaves.head = none
  leaf_eq : s.registry.leaf = leaf

variable {device : Device} {leaf : LeafPtr → ZtacxLeaf}

/-- `ztacx_init` empties the list, unless the mutex is held. -/
theorem ztacxInit_spec {f f' : Framework} {mutexFree : Bool} {rc : ℤ}
    (done : ztacxInit device f mutexFree = .ok (f', rc)) :
    if mutexFree then Forgotten f.registry.leaf f'
    else f'.registry = f.registry ∧ f'.ztacxInitDone = f.ztacxInitDone := by
  unfold ztacxInit DeviceName.ztacxInit at done
  cases named : DeviceName.nameDevice device f.names with
  | error fault =>
      rw [named] at done
      cases done
  | ok names =>
      rw [named] at done
      cases mutexFree with
      | false =>
          cases done
          exact ⟨rfl, rfl⟩
      | true =>
          cases done
          exact ⟨rfl, rfl, rfl⟩

theorem inputStep_boot {s t : Console} {mutexFree : Bool}
    (taken : inputStep device fuel longBits atoi retainedErase s (.boot mutexFree) = some t) :
    ∃ rc, ztacxInit device s.framework mutexFree = .ok (t.framework, rc) := by
  dsimp only [inputStep, cmdZtacxBoot] at taken
  cases done : ztacxInit device s.framework mutexFree with
  | error fault =>
      rw [done] at taken
      cases taken
  | ok r =>
      rw [done] at taken
      cases taken
      exact ⟨r.2, rfl⟩

/-- **The step lemma.** -/
theorem Forgotten.inputStep (positive : 0 < fuel)
    (keeps : ∀ erase ∈ retainedErase, ∀ s, (erase s).registry = s.registry) {s t : Console}
    (forgotten : Forgotten leaf s.framework) {input : ShellInput}
    (taken : Shell.inputStep device fuel longBits atoi retainedErase s input = some t) :
    Forgotten leaf t.framework := by
  cases input with
  | boot mutexFree =>
      obtain ⟨rc, done⟩ := inputStep_boot taken
      have after := ztacxInit_spec done
      cases mutexFree with
      | false =>
          obtain ⟨registry, initDone⟩ := after
          exact ⟨initDone.trans forgotten.initDone, registry ▸ forgotten.empty,
            registry ▸ forgotten.leaf_eq⟩
      | true => exact ⟨after.initDone, after.empty, after.leaf_eq.trans forgotten.leaf_eq⟩
  | status =>
      obtain ⟨_, -, rfl⟩ := Option.map_eq_some_iff.mp taken
      exact forgotten
  | command cmd args =>
      obtain ⟨outcome, ran, rfl⟩ := Option.map_eq_some_iff.mp taken
      cases done : cmd.run fuel longBits atoi retainedErase s.shell args with
      | error fault =>
          rw [done] at ran
          cases ran
      | ok result =>
          rw [done] at ran
          cases ran
          have same := keepsRegistry_run positive keeps forgotten.empty cmd args outcome done
          refine ⟨forgotten.initDone, ?_, ?_⟩
          · exact (congrArg (fun r => r.ztacxLeaves.head) same).trans forgotten.empty
          · exact (congrArg Registry.leaf same).trans forgotten.leaf_eq
  | btReady err nameOverride =>
      obtain ⟨f, done, rfl⟩ := Option.map_eq_some_iff.mp taken
      rw [Framework.naming_eq] at done
      obtain ⟨names, -, rfl⟩ := Option.map_eq_some_iff.mp done
      exact ⟨forgotten.initDone, forgotten.empty, forgotten.leaf_eq⟩

/-- **After a `ztacx boot` that got the mutex no leaf can be reached from the shell any more**,
whatever is typed, as long as nothing of it faults: every command about a leaf uses a null
pointer, the status shows none, and none is put to sleep.  The leaves themselves are as they
were, running or not. -/
theorem booted_run (positive : 0 < fuel)
    (keeps : ∀ erase ∈ retainedErase, ∀ s, (erase s).registry = s.registry) {s t : Console}
    {inputs : List ShellInput}
    (ran : run (inputStep device fuel longBits atoi retainedErase) s (.boot true :: inputs) =
      some t) :
    t.shell.registry.leaf = s.shell.registry.leaf ∧
      cmdZtacxStatus fuel t.framework = .ok [.ofString "ztacx is initialised"] ∧
      (∀ cb, sleepWalk fuel t.shell.registry cb = .ok ⟨[], 0⟩) ∧
      ∀ cmd name args, NamesLeaf cmd →
        cmd.run fuel longBits atoi retainedErase t.shell (name :: args) = .error .nullLookup := by
  obtain ⟨booted, taken, ran⟩ := run_cons_eq_some.mp ran
  obtain ⟨rc, done⟩ := inputStep_boot taken
  obtain ⟨initDone, empty, same⟩ : Forgotten s.shell.registry.leaf t.framework :=
    @run_invariant_of_step _ _ (inputStep device fuel longBits atoi retainedErase)
      (fun s => Forgotten _ s.framework)
      (fun forgotten taken => forgotten.inputStep positive keeps taken) _ _ inputs
      (ztacxInit_spec done) ran
  have spells : Slist.Spells t.shell.registry.leafNext t.shell.registry.ztacxLeaves.head [] :=
    empty
  refine ⟨same, ?_, fun cb => ?_, fun cmd name args leaf => run_of_empty positive empty leaf ..⟩
  · refine (if_pos initDone).trans ?_
    exact @Slist.walkFrom_of_spells _ _ _ _ (fun shown _ => shown) _ _ spells
      (fun _ _ mem => absurd mem List.not_mem_nil) _ positive _
  · exact @Slist.walkFrom_of_spells _ _ _ _ (fun w _ => w) _ _ spells
      (fun _ _ mem => absurd mem List.not_mem_nil) _ positive _

end Booted

/-- A LED that has been started, on a device that has been initialised once. -/
def litConsole : Console where
  shell := { shellWith ledTable with registry := (ztacxLeafSysStart twoLeaves 0 0).1 }
  names :=
    { nameSetting := (CString.ofString "ztacx-c71d").padded 21
      deviceIdStr := (CString.ofString "f4ce3621a05bc71d").padded 35
      deviceIdShort := (CString.ofString "c71d").padded 7
      btName := none
      initialised := true }
  ztacxInitDone := true

/-- What may still be typed.  The name is replaced before there is no room for another boot. -/
def harmlessInputs : List ShellInput :=
  [.status, .command (.led true) [], .command (.value blankDesc true) [.ofString "help"],
    .boot false, .btReady 0 (some (.ofString "hall")), .boot true]

theorem harmlessInputs_run : ∃ t, run (inputStep ztacxDevice 3 32 (fun _ => 0) none) litConsole
    (.boot true :: harmlessInputs) = some t :=
  Option.isSome_iff_exists.mp (by decide)

theorem litShell_booted :
    ∃ t : Console, t.shell.registry.leaf = litConsole.shell.registry.leaf ∧
      cmdZtacxStatus 3 t.framework = .ok [.ofString "ztacx is initialised"] ∧
      (∀ cb, sleepWalk 3 t.shell.registry cb = .ok ⟨[], 0⟩) ∧
      ∀ cmd name args, NamesLeaf cmd →
        cmd.run 3 32 (fun _ => 0) none t.shell (name :: args) = .error .nullLookup :=
  harmlessInputs_run.imp fun _ ran =>
    booted_run (by decide) (fun _ mem => by cases mem) ran

end Shell

end Ztacx
