import Ztacx.Bluetooth.Peripheral
import Ztacx.CModel.Run

/-!
# Advertising is never lost

Advertising data can be registered before the stack is up, while a central is
connected, or while other data is being advertised; links come and go behind
the program's back; and the work item that restarts advertising runs whenever
the work queue gets to it.  This file proves that none of that loses the
advertisement: once no work is pending, the stack is up, data has been
registered and no link is up, the stack advertises what was registered last.

Two facts carry the induction (`AdvertisingInv`).

* **The flag can be trusted in one direction**: when the stack advertises,
  `bt_peripheral_advertising` is true.  The other direction fails, since a link
  coming up stops advertising without the flag being told, and `stop_advertise`
  survives that because stopping twice is harmless.
* **Whatever is stale is also pending**: if the stack could advertise the
  registered data and does not, the work item is queued.
-/

namespace Ztacx

open CModel

/-- One atomic step of the peripheral. -/
inductive AdvEvent
  | advRegister (a : Advertisement) (nonempty : a.advData ≠ [])
  | btReady
  | runWork
  | linkUp (conn : BtConnPtr) (uptime : BitVec 64)
  | linkDown (conn : BtConnPtr) (reason : UInt8) (uptime : BitVec 64)
  | shellAdvertise (command : CString)
  | shellAdvertiseName (command name : CString) (rest : List CString)

/-- The stack comes up once, the work item runs when it is queued, and a link
that goes down was up. -/
def advStep (s : BtPeripheral) : AdvEvent → Option BtPeripheral
  | .advRegister a _ => some (ztacxBtAdvRegister s (some a.advData) a.scanresp)
  | .btReady =>
    if s.controller.ready then none
    else some (btReady { s with controller := { s.controller with ready := true } } 0 0)
  | .runWork => if s.advertiseWork then some (advertise { s with advertiseWork := false }) else none
  | .linkUp conn uptime =>
    some (btCbConnected { s with controller := s.controller.linkUp conn } conn 0 uptime)
  | .linkDown conn reason uptime =>
    if conn ∈ s.controller.links then
      some (btCbDisconnected { s with controller := s.controller.linkDown conn } conn reason uptime)
    else none
  | .shellAdvertise command => some (cmdZtacxBtPeripheral s 0 [command, .ofString "advertise"])
  | .shellAdvertiseName command name rest =>
    some (cmdZtacxBtPeripheral s 0
      (command :: .ofString "advertise" :: .ofString "name" :: name :: rest))

/-- The data registered last in a run, after `start`. -/
def lastRegistered (start : Option Advertisement) : List AdvEvent → Option Advertisement
  | [] => start
  | .advRegister a _ :: es => lastRegistered (some a) es
  | _ :: es => lastRegistered start es

/-! ## The invariant -/

/-- **The invariant of advertising.** -/
structure AdvertisingInv (s : BtPeripheral) : Prop where
  flag : s.controller.advertising ≠ none → s.valueAdvertising.get = true
  ok_iff : s.valueOk.get = true ↔ s.controller.ready = true
  pending : ∀ a, s.registered = some a → s.controller.ready = true →
    s.controller.links = [] → s.advertiseWork = true ∨ s.controller.advertising = some a

section Steps

variable {s : BtPeripheral}

/-- A step that queues the work item and leaves the stack alone. -/
theorem AdvertisingInv.submitAdvertise (inv : AdvertisingInv s) :
    AdvertisingInv s.submitAdvertise where
  flag := inv.flag
  ok_iff := inv.ok_iff
  pending := fun _ _ _ _ => .inl rfl

/-- Running the work item, or the shell doing the same without the queue. -/
theorem AdvertisingInv.advertise (inv : AdvertisingInv s) (queued : Bool) :
    AdvertisingInv (Ztacx.advertise { s with advertiseWork := queued }) := by
  have flag : ({ s with advertiseWork := queued } : BtPeripheral).controller.advertising ≠ none →
      ({ s with advertiseWork := queued } : BtPeripheral).valueAdvertising.get = true := inv.flag
  obtain ⟨stopped, off⟩ := stopAdvertise_advertising _ flag
  rcases advertise_cases _ flag with ⟨same, cannot⟩ | ⟨a, data, started⟩
  · rw [same]
    refine ⟨fun on => absurd stopped on, by simpa using inv.ok_iff, ?_⟩
    intro a registered ready links
    rw [stopAdvertise_registered] at registered
    rw [stopAdvertise_ready] at ready
    rw [stopAdvertise_links] at links
    exact absurd ⟨ready, links⟩ (cannot a registered)
  · rw [started]
    refine ⟨fun _ => BoolVariable.get_set _ _, by simpa using inv.ok_iff, ?_⟩
    intro b registered _ _
    have same : some a = some b := by
      rw [← data, ← registered, ← stopAdvertise_registered]
      rfl
    exact .inr same

/-- **Registering new data**: what is being advertised stops, and a restart is
pending if the stack is up. -/
theorem AdvertisingInv.ztacxBtAdvRegister (inv : AdvertisingInv s) (a : Advertisement) :
    AdvertisingInv (Ztacx.ztacxBtAdvRegister s (some a.advData) a.scanresp) := by
  obtain ⟨stopped, off⟩ := stopAdvertise_advertising s inv.flag
  unfold Ztacx.ztacxBtAdvRegister
  dsimp only
  split
  · exact ⟨fun on => absurd stopped on, by simpa [BtPeripheral.submitAdvertise] using inv.ok_iff,
      fun _ _ _ _ => .inl rfl⟩
  · rename_i notYet
    refine ⟨fun on => absurd stopped on, by simpa using inv.ok_iff, ?_⟩
    intro b registered ready _
    refine absurd ⟨?_, by rw [registered]; rfl⟩ notYet
    rw [stopAdvertise_valueOk]
    exact inv.ok_iff.mpr (by simpa using ready)

/-- **The step lemma.** -/
theorem AdvertisingInv.advStep {s' : BtPeripheral} {e : AdvEvent} (inv : AdvertisingInv s)
    (taken : Ztacx.advStep s e = some s') : AdvertisingInv s' := by
  cases e with
  | advRegister a nonempty =>
      cases taken
      exact inv.ztacxBtAdvRegister a
  | btReady =>
      obtain ⟨-, after⟩ := Option.ite_none_left_eq_some.mp taken
      cases after
      exact ⟨inv.flag, iff_of_true (BoolVariable.get_set _ _) rfl, fun _ _ _ _ => .inl rfl⟩
  | runWork =>
      obtain ⟨-, after⟩ := Option.ite_none_right_eq_some.mp taken
      cases after
      exact inv.advertise false
  | linkUp conn uptime =>
      cases taken
      exact ⟨fun on => absurd rfl on, inv.ok_iff, fun _ _ _ none => by cases none⟩
  | linkDown conn reason uptime =>
      obtain ⟨-, after⟩ := Option.ite_none_right_eq_some.mp taken
      cases after
      exact ⟨inv.flag, inv.ok_iff, fun _ _ _ _ => .inl rfl⟩
  | shellAdvertise command =>
      cases taken
      exact inv.advertise s.advertiseWork
  | shellAdvertiseName command name rest =>
      cases taken
      exact inv.submitAdvertise

theorem advertisingInv_boot : AdvertisingInv BtPeripheral.boot where
  flag := fun on => absurd rfl on
  ok_iff := iff_of_false (by decide) Bool.false_ne_true
  pending := fun _ registered => by cases registered

end Steps

/-! ## What a run has registered, and whether the stack is up -/

section Runs

variable {s t : BtPeripheral}

/-- Only `ztacx_bt_adv_register` changes the registered data. -/
theorem advStep_registered {e : AdvEvent} (taken : advStep s e = some t) :
    t.registered = lastRegistered s.registered [e] := by
  cases e with
  | advRegister a nonempty =>
      cases taken
      exact ztacxBtAdvRegister_registered s a nonempty
  | btReady =>
      obtain ⟨-, after⟩ := Option.ite_none_left_eq_some.mp taken
      cases after
      rfl
  | runWork =>
      obtain ⟨-, after⟩ := Option.ite_none_right_eq_some.mp taken
      cases after
      exact advertise_registered _
  | linkUp conn uptime =>
      cases taken
      rfl
  | linkDown conn reason uptime =>
      obtain ⟨-, after⟩ := Option.ite_none_right_eq_some.mp taken
      cases after
      rfl
  | shellAdvertise command =>
      cases taken
      exact advertise_registered s
  | shellAdvertiseName command name rest =>
      cases taken
      rfl

theorem run_registered {es : List AdvEvent} (reached : run advStep s es = some t) :
    t.registered = lastRegistered s.registered es := by
  induction es generalizing s with
  | nil =>
      cases reached
      rfl
  | cons e es ih =>
      obtain ⟨u, taken, rest⟩ := run_cons_eq_some.mp reached
      rw [ih rest, advStep_registered taken]
      cases e <;> rfl

/-- `bt_ready` brings the stack up, and nothing brings it down. -/
theorem advStep_ready {e : AdvEvent} (taken : advStep s e = some t)
    (up : s.controller.ready = true ∨ e = .btReady) : t.controller.ready = true := by
  cases e with
  | btReady =>
      obtain ⟨-, after⟩ := Option.ite_none_left_eq_some.mp taken
      cases after
      rfl
  | advRegister a nonempty =>
      cases taken
      simpa using up
  | runWork =>
      obtain ⟨-, after⟩ := Option.ite_none_right_eq_some.mp taken
      cases after
      simpa using up
  | linkUp conn uptime =>
      cases taken
      exact up.resolve_right AdvEvent.noConfusion
  | linkDown conn reason uptime =>
      obtain ⟨-, after⟩ := Option.ite_none_right_eq_some.mp taken
      cases after
      exact up.resolve_right AdvEvent.noConfusion
  | shellAdvertise command =>
      cases taken
      exact (advertise_ready s).trans (up.resolve_right AdvEvent.noConfusion)
  | shellAdvertiseName command name rest =>
      cases taken
      exact up.resolve_right AdvEvent.noConfusion

theorem run_ready {es : List AdvEvent} (reached : run advStep s es = some t)
    (up : s.controller.ready = true ∨ AdvEvent.btReady ∈ es) : t.controller.ready = true := by
  induction es generalizing s with
  | nil =>
      cases reached
      exact up.resolve_right List.not_mem_nil
  | cons e es ih =>
      obtain ⟨u, taken, rest⟩ := run_cons_eq_some.mp reached
      refine ih rest ?_
      rcases up with before | now
      · exact .inl (advStep_ready taken (.inl before))
      · rcases List.mem_cons.mp now with rfl | later
        · exact .inl (advStep_ready taken (.inr rfl))
        · exact .inr later

end Runs

/-- **Advertising is never lost.**  After any run in which `bt_ready` has run and
data has been registered, if no advertise work is queued and no link is up, the
stack advertises the data registered last. -/
theorem quiescent_advertises {es : List AdvEvent} {t : BtPeripheral} {a : Advertisement}
    (reached : run advStep BtPeripheral.boot es = some t)
    (ready : AdvEvent.btReady ∈ es) (data : lastRegistered none es = some a)
    (noLink : t.controller.links = []) (quiescent : t.advertiseWork = false) :
    t.controller.advertising = some a := by
  have inv : AdvertisingInv t :=
    run_invariant_of_step (fun inv taken => inv.advStep taken) advertisingInv_boot reached
  have registered : t.registered = some a := (run_registered reached).trans data
  have up : t.controller.ready = true := run_ready reached (.inr ready)
  rcases inv.pending a registered up noLink with queued | advertising
  · rw [quiescent] at queued
    cases queued
  · exact advertising

/-- An advertisement with one element. -/
def flagsOnly (flags : UInt8) : Advertisement := ⟨[⟨1, [flags]⟩], none⟩

/-- Data is replaced while a central is connected; the new data is advertised
after the link has gone down. -/
def replacedWhileConnected : List AdvEvent :=
  [.advRegister (flagsOnly 4) (by decide), .btReady, .runWork, .linkUp 0 5,
    .advRegister (flagsOnly 6) (by decide), .runWork, .linkDown 0 19 9, .runWork]

theorem replacedWhileConnected_advertises :
    ∃ t, run advStep BtPeripheral.boot replacedWhileConnected = some t ∧
      t.controller.advertising = some (flagsOnly 6) := by
  have reached : ∃ t, run advStep BtPeripheral.boot replacedWhileConnected = some t ∧
      t.controller.links = [] ∧ t.advertiseWork = false := ⟨_, rfl, rfl, rfl⟩
  obtain ⟨t, ran, noLink, quiescent⟩ := reached
  exact ⟨t, ran, quiescent_advertises ran (by simp [replacedWhileConnected]) rfl noLink quiescent⟩

end Ztacx
