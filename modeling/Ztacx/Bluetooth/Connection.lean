import Ztacx.Bluetooth.Peripheral
import Ztacx.CModel.Run

/-!
# The connection state

An application asks two places whether a central is connected: the variable
`bt_peripheral_connected` and the pointer `ztacx_bt_peripheral_context.conn`,
which it hands to `bt_gatt_notify`.  Both are maintained by the two connection
callbacks, and this file compares them with the links of the stack
(`ConnectionInStep`) over runs of callbacks on a peripheral with a single link.

They are in step exactly as long as every callback reports a connection that
came about (`connectionInStep_throughout_iff`).  `bt_cb_connected` treats a
failed attempt like a success, and `bt_cb_disconnected` leaves the pointer
behind.
-/

namespace Ztacx

open CModel

/-- A connection callback of the stack. -/
inductive ConnEvent
  | connected (conn : BtConnPtr) (err : UInt8) (uptime : BitVec 64)
  | disconnected (conn : BtConnPtr) (reason : UInt8) (uptime : BitVec 64)

/-- There is one link at most: a connection comes about while none is up, and
the link that goes down was up.  An attempt can fail at any time. -/
def connStep (s : BtPeripheral) : ConnEvent → Option BtPeripheral
  | .connected conn err uptime =>
    if err = 0 then
      if s.controller.links = [] then
        some (btCbConnected { s with controller := s.controller.linkUp conn } conn err uptime)
      else none
    else some (btCbConnected s conn err uptime)
  | .disconnected conn reason uptime =>
    if conn ∈ s.controller.links then
      some (btCbDisconnected { s with controller := s.controller.linkDown conn } conn reason uptime)
    else none

/-- **The flag and the pointer tell the truth about the link.** -/
structure ConnectionInStep (s : BtPeripheral) : Prop where
  connected_iff : s.valueConnected.get = true ↔ s.controller.links ≠ []
  conn_eq : s.conn = s.controller.links.head?

/-- The callback reports a connection that came about, or names the link that is
up anyway. -/
def ReportsLink (s : BtPeripheral) : ConnEvent → Prop
  | .connected conn err _ => err = 0 ∨ s.controller.links.head? = some conn
  | .disconnected _ _ _ => False

/-- The invariant: the property, and a single link. -/
structure SingleLinkInStep (s : BtPeripheral) : Prop extends ConnectionInStep s where
  single : s.controller.links.length ≤ 1

section Steps

variable {s s' : BtPeripheral}

theorem connStep_success {conn : BtConnPtr} {err : UInt8} {uptime : BitVec 64} (h : err = 0) :
    connStep s (.connected conn err uptime) =
      if s.controller.links = [] then
        some (btCbConnected { s with controller := s.controller.linkUp conn } conn err uptime)
      else none := if_pos h

theorem connStep_failure {conn : BtConnPtr} {err : UInt8} {uptime : BitVec 64} (h : ¬ err = 0) :
    connStep s (.connected conn err uptime) = some (btCbConnected s conn err uptime) := if_neg h

/-- A connection that comes about is recorded in all three places. -/
theorem SingleLinkInStep.connStep {e : ConnEvent} (inv : SingleLinkInStep s)
    (cond : ReportsLink s e) (taken : Ztacx.connStep s e = some s') : SingleLinkInStep s' := by
  cases e with
  | disconnected conn reason uptime => exact cond.elim
  | connected conn err uptime =>
      by_cases success : err = 0
      · rw [connStep_success success] at taken
        obtain ⟨free, after⟩ := Option.ite_none_right_eq_some.mp taken
        cases after
        refine ⟨⟨?_, ?_⟩, ?_⟩
        · exact iff_of_true (BoolVariable.get_set _ _) (List.cons_ne_nil _ _)
        · rfl
        · simp [btCbConnected, Controller.linkUp, free]
      · rw [connStep_failure success] at taken
        cases taken
        have named := cond.resolve_left success
        refine ⟨⟨?_, named.symm⟩, inv.single⟩
        refine iff_of_true (BoolVariable.get_set _ _) fun none => ?_
        rw [show s.controller.links = [] from none] at named
        cases named

/-- **Any other callback leaves the pointer wrong.** -/
theorem SingleLinkInStep.not_connectionInStep {e : ConnEvent} (inv : SingleLinkInStep s)
    (bad : ¬ ReportsLink s e) (taken : Ztacx.connStep s e = some s') :
    ¬ ConnectionInStep s' := by
  intro inStep
  cases e with
  | connected conn err uptime =>
      obtain ⟨failed, unnamed⟩ := not_or.mp bad
      rw [connStep_failure failed] at taken
      cases taken
      exact unnamed inStep.conn_eq.symm
  | disconnected conn reason uptime =>
      obtain ⟨up, after⟩ := Option.ite_none_right_eq_some.mp taken
      cases after
      have only : s.controller.links = [conn] := by
        have single := inv.single
        cases h : s.controller.links with
        | nil => rw [h] at up; cases up
        | cons c cs =>
            rw [h] at up single
            have none : cs = [] := List.length_eq_zero_iff.mp (by simpa using single)
            subst none
            rw [List.mem_singleton.mp up]
      have stale : s.conn = some conn := by rw [inv.conn_eq, only]; rfl
      have gone : s.conn = (s.controller.links.erase conn).head? := inStep.conn_eq
      rw [stale, only, List.erase_cons_head] at gone
      cases gone

theorem singleLinkInStep_boot : SingleLinkInStep BtPeripheral.boot where
  connected_iff := iff_of_false (by decide) (fun up => up rfl)
  conn_eq := rfl
  single := Nat.zero_le 1

end Steps

/-- **The connection state is right throughout a run of callbacks exactly when
every callback reports a connection that came about.** -/
theorem connectionInStep_throughout_iff (es : List ConnEvent) :
    Throughout connStep ConnectionInStep BtPeripheral.boot es ↔
      StepsMeet connStep ReportsLink BtPeripheral.boot es :=
  throughout_iff_stepsMeet (I := SingleLinkInStep) (fun inv => inv.toConnectionInStep)
    (fun inv cond taken => inv.connStep cond taken)
    (fun inv bad taken => inv.not_connectionInStep bad taken) singleLinkInStep_boot

/-! ### Where the state goes wrong -/

/-- After a disconnection the pointer still names the link that is gone. -/
theorem disconnected_not_connectionInStep :
    ¬ Throughout connStep ConnectionInStep BtPeripheral.boot
      [.connected 7 0 1, .disconnected 7 19 2] := by
  intro inStep
  have reached : ∃ s, run connStep BtPeripheral.boot
      [.connected 7 0 1, .disconnected 7 19 2] = some s ∧
      s.conn = some 7 ∧ s.controller.links = [] := ⟨_, rfl, rfl, rfl⟩
  obtain ⟨s, ran, stale, gone⟩ := reached
  have right := (inStep _ (List.prefix_refl _) s ran).conn_eq
  rw [stale, gone] at right
  cases right

end Ztacx
