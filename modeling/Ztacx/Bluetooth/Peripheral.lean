import Ztacx.Variable

/-!
# The Bluetooth peripheral

The module state of `src/ztacx_bt_peripheral.c` and the functions that move it:
the registration of advertising data, the advertise work item, the connection
callbacks, `bt_ready` and the shell command.

The Bluetooth stack keeps state of its own and changes it behind the module's
back, so it is a component here (`Controller`): whether it has been enabled,
what it advertises, which links are up.  `btLeAdvStart` succeeds exactly when
the stack is ready, advertises nothing and has no link.

The five entries of `bt_peripheral_values` have a fixed kind, so they are
`BoolVariable`s and `Int64Variable`s.  `advertiseWork` says whether the work
item is queued; submitting a queued item changes nothing.  The device name and
the transmit power go straight to the stack and are left out, but for the
result of `bt_set_name`.
-/

namespace Ztacx

open CModel

abbrev BtConnPtr := ℕ

/-- `struct bt_data`: one element of an advertisement. -/
structure BtData where
  type : UInt8
  data : List UInt8
deriving DecidableEq, Repr

/-- What an advertisement consists of: the advertising data and the scan
response, where `none` is a null pointer. -/
structure Advertisement where
  advData : List BtData
  scanresp : Option (List BtData)
deriving DecidableEq, Repr

/-! ## The stack -/

/-- The Bluetooth stack. -/
structure Controller where
  ready : Bool
  advertising : Option Advertisement
  links : List BtConnPtr
deriving DecidableEq, Repr

/-- `bt_le_adv_stop`. -/
def btLeAdvStop (c : Controller) : Controller := { c with advertising := none }

/-- `bt_le_adv_start`; `none` is an error. -/
def btLeAdvStart (c : Controller) (a : Advertisement) : Option Controller :=
  if c.ready ∧ c.advertising = none ∧ c.links = [] then some { c with advertising := some a }
  else none

/-- A central connects, which ends advertising. -/
def Controller.linkUp (c : Controller) (conn : BtConnPtr) : Controller :=
  { c with advertising := none, links := conn :: c.links }

def Controller.linkDown (c : Controller) (conn : BtConnPtr) : Controller :=
  { c with links := c.links.erase conn }

/-! ## The module -/

/-- `bt_peripheral_values` and `ztacx_bt_peripheral_context`, the globals of the
module, and the stack. -/
structure BtPeripheral where
  valueOk : BoolVariable
  valueAdvertising : BoolVariable
  valueConnected : BoolVariable
  valueLastConnect : Int64Variable
  valueLastDisconnect : Int64Variable
  conn : Option BtConnPtr
  btAdvData : Option (List BtData)
  btScanresp : Option (List BtData)
  advertiseWork : Bool
  controller : Controller

namespace BtPeripheral

/-- The module before the stack is enabled. -/
def boot : BtPeripheral where
  valueOk := ⟨.entry "bt_peripheral_ok" .bool (by decide), rfl⟩
  valueAdvertising := ⟨.entry "bt_peripheral_advertising" .bool (by decide), rfl⟩
  valueConnected := ⟨.entry "bt_peripheral_connected" .bool (by decide), rfl⟩
  valueLastConnect := ⟨.entry "bt_peripheral_last_connect" .int64 (by decide), rfl⟩
  valueLastDisconnect := ⟨.entry "bt_peripheral_last_disconnect" .int64 (by decide), rfl⟩
  conn := none
  btAdvData := none
  btScanresp := none
  advertiseWork := false
  controller := ⟨false, none, []⟩

/-- `k_work_submit(&advertise_work)`. -/
def submitAdvertise (s : BtPeripheral) : BtPeripheral := { s with advertiseWork := true }

/-- The data that the next run of the work item would advertise: `bt_adv_data`
when it is set and not empty, with `bt_scanresp`. -/
def registered (s : BtPeripheral) : Option Advertisement :=
  match s.btAdvData with
  | some (d :: ds) => some ⟨d :: ds, s.btScanresp⟩
  | _ => none

end BtPeripheral

/-- `stop_advertise`. -/
def stopAdvertise (s : BtPeripheral) : BtPeripheral :=
  if s.valueAdvertising.get then
    { s with
      controller := btLeAdvStop s.controller
      valueAdvertising := s.valueAdvertising.set false }
  else s

/-- `ztacx_bt_adv_register`. -/
def ztacxBtAdvRegister (s : BtPeripheral) (advData scanresp : Option (List BtData)) :
    BtPeripheral :=
  let s := stopAdvertise s
  let s := { s with btAdvData := advData, btScanresp := scanresp }
  if s.valueOk.get ∧ s.registered.isSome then s.submitAdvertise else s

/-- `bt_cb_connected`. -/
def btCbConnected (s : BtPeripheral) (conn : BtConnPtr) (_err : UInt8) (uptime : BitVec 64) :
    BtPeripheral :=
  -- `err` is logged and nothing else
  { s with
    conn := some conn
    valueLastConnect := s.valueLastConnect.set uptime
    valueConnected := s.valueConnected.set true }

/-- `bt_cb_disconnected`. -/
def btCbDisconnected (s : BtPeripheral) (_conn : BtConnPtr) (_reason : UInt8)
    (uptime : BitVec 64) : BtPeripheral :=
  { s with
    valueLastDisconnect := s.valueLastDisconnect.set uptime
    valueConnected := s.valueConnected.set false }.submitAdvertise

/-- `advertise`, the handler of the work item. -/
def advertise (s : BtPeripheral) : BtPeripheral :=
  let s := stopAdvertise s
  match s.registered with
  | none => s
  | some a =>
    match btLeAdvStart s.controller a with
    | none => s
    | some controller =>
      { s with controller := controller, valueAdvertising := s.valueAdvertising.set true }

/-- `bt_advertise_name`; `rc` is what `bt_set_name` returns. -/
def btAdvertiseName (s : BtPeripheral) (rc : ℤ) : BtPeripheral × ℤ :=
  if rc ≠ 0 then (s, rc) else (s.submitAdvertise, 0)

/-- `bt_ready`, with the result of `bt_set_name`.  The registration of the
default service only logs its result. -/
def btReady (s : BtPeripheral) (err rc : ℤ) : BtPeripheral :=
  if err ≠ 0 then s
  else
    let s := (btAdvertiseName s rc).1
    { s with valueOk := s.valueOk.set true }

/-- `cmd_ztacx_bt_peripheral`, without the transmit power. -/
def cmdZtacxBtPeripheral (s : BtPeripheral) (rc : ℤ) : List CString → BtPeripheral
  | [_, cmd] => if cmd = .ofString "advertise" then advertise s else s
  | _ :: cmd :: sub :: args =>
    if cmd = .ofString "advertise" then
      if sub = .ofString "stop" then { s with controller := btLeAdvStop s.controller }
      else if args ≠ [] ∧ sub = .ofString "name" then (btAdvertiseName s rc).1
      else s
    else s
  | _ => s

/-! ## What the steps leave alone -/

section Spec

variable (s : BtPeripheral)

@[simp] theorem submitAdvertise_registered : s.submitAdvertise.registered = s.registered := rfl

@[simp] theorem stopAdvertise_registered : (stopAdvertise s).registered = s.registered := by
  unfold stopAdvertise
  split <;> rfl

@[simp] theorem stopAdvertise_valueOk : (stopAdvertise s).valueOk = s.valueOk := by
  unfold stopAdvertise
  split <;> rfl

@[simp] theorem stopAdvertise_ready :
    (stopAdvertise s).controller.ready = s.controller.ready := by
  unfold stopAdvertise
  split <;> rfl

@[simp] theorem stopAdvertise_links :
    (stopAdvertise s).controller.links = s.controller.links := by
  unfold stopAdvertise
  split <;> rfl

@[simp] theorem stopAdvertise_advertiseWork :
    (stopAdvertise s).advertiseWork = s.advertiseWork := by
  unfold stopAdvertise
  split <;> rfl

/-- `stop_advertise` trusts the flag: it stops the stack if the flag tells it
whenever the stack advertises. -/
theorem stopAdvertise_advertising
    (flag : s.controller.advertising ≠ none → s.valueAdvertising.get = true) :
    (stopAdvertise s).controller.advertising = none ∧
      (stopAdvertise s).valueAdvertising.get = false := by
  unfold stopAdvertise
  split
  · exact ⟨rfl, BoolVariable.get_set _ _⟩
  · rename_i off
    refine ⟨?_, by simpa using off⟩
    by_contra on
    exact off (flag on)

theorem btLeAdvStart_eq_some_iff {c c' : Controller} {a : Advertisement} :
    btLeAdvStart c a = some c' ↔
      (c.ready = true ∧ c.advertising = none ∧ c.links = []) ∧
        c' = { c with advertising := some a } := by
  unfold btLeAdvStart
  split
  · rename_i can
    simp only [Option.some.injEq, can, and_self, true_and]
    exact eq_comm
  · rename_i cannot
    simp [cannot]

/-- **`advertise`** with a flag that can be trusted: nothing happens without
data; otherwise the stack ends up advertising the registered data, or it is not
ready or has a link. -/
theorem advertise_cases (flag : s.controller.advertising ≠ none → s.valueAdvertising.get = true) :
    (advertise s = stopAdvertise s ∧
        ∀ a, s.registered = some a →
          ¬ (s.controller.ready = true ∧ s.controller.links = [])) ∨
      ∃ a, s.registered = some a ∧
        advertise s = { stopAdvertise s with
          controller := { (stopAdvertise s).controller with advertising := some a }
          valueAdvertising := (stopAdvertise s).valueAdvertising.set true } := by
  obtain ⟨stopped, -⟩ := stopAdvertise_advertising s flag
  unfold advertise
  dsimp only
  rw [stopAdvertise_registered]
  cases data : s.registered with
  | none => exact .inl ⟨rfl, fun a registered => by cases registered⟩
  | some a =>
      by_cases can : s.controller.ready = true ∧ s.controller.links = []
      · have started : btLeAdvStart (stopAdvertise s).controller a =
            some { (stopAdvertise s).controller with advertising := some a } :=
          btLeAdvStart_eq_some_iff.mpr ⟨⟨by simpa using can.1, stopped, by simpa using can.2⟩, rfl⟩
        refine .inr ⟨a, rfl, ?_⟩
        simp only [started]
      · have refused : btLeAdvStart (stopAdvertise s).controller a = none := by
          unfold btLeAdvStart
          rw [if_neg]
          rintro ⟨ready, -, links⟩
          exact can ⟨by simpa using ready, by simpa using links⟩
        refine .inl ⟨?_, fun _ _ => can⟩
        simp only [refused]

/-- What `advertise` does whatever the flag says: at most start what is
registered. -/
theorem advertise_stop_or_start :
    advertise s = stopAdvertise s ∨
      ∃ a, advertise s = { stopAdvertise s with
        controller := { (stopAdvertise s).controller with advertising := some a }
        valueAdvertising := (stopAdvertise s).valueAdvertising.set true } := by
  unfold advertise
  dsimp only
  cases (stopAdvertise s).registered with
  | none => exact .inl rfl
  | some a =>
      dsimp only
      cases started : btLeAdvStart (stopAdvertise s).controller a with
      | none => exact .inl rfl
      | some controller =>
          obtain ⟨-, rfl⟩ := btLeAdvStart_eq_some_iff.mp started
          exact .inr ⟨a, rfl⟩

@[simp] theorem advertise_registered : (advertise s).registered = s.registered := by
  rcases advertise_stop_or_start s with same | ⟨a, started⟩
  · rw [same, stopAdvertise_registered]
  · rw [started]
    exact stopAdvertise_registered s

@[simp] theorem advertise_ready : (advertise s).controller.ready = s.controller.ready := by
  rcases advertise_stop_or_start s with same | ⟨a, started⟩
  · rw [same, stopAdvertise_ready]
  · rw [started]
    exact stopAdvertise_ready s

@[simp] theorem ztacxBtAdvRegister_ready (advData scanresp : Option (List BtData)) :
    (ztacxBtAdvRegister s advData scanresp).controller.ready = s.controller.ready := by
  unfold ztacxBtAdvRegister
  dsimp only
  split <;> exact stopAdvertise_ready s

/-- The data of the latest registration is what is registered. -/
theorem ztacxBtAdvRegister_registered (a : Advertisement) (nonempty : a.advData ≠ []) :
    (ztacxBtAdvRegister s (some a.advData) a.scanresp).registered = some a := by
  have registered : ∀ s : BtPeripheral, s.btAdvData = some a.advData →
      s.btScanresp = a.scanresp → s.registered = some a := by
    intro s data scanresp
    obtain ⟨d, ds, cons⟩ := List.exists_cons_of_ne_nil nonempty
    unfold BtPeripheral.registered
    rw [data, scanresp, cons]
    dsimp only
    rw [← cons]
  unfold ztacxBtAdvRegister
  dsimp only
  split <;> exact registered _ rfl rfl

end Spec

end Ztacx
