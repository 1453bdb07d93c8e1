import Mathlib.Data.Fintype.Prod
import Ztacx.Variable

/-!
# The keypad

`kp_scan` of `src/ztacx_kp.c` and the event object its edges go to.

A scan compares the pins it reads with the pins of the scan before and posts one
event for each key that changed.  A `KeyEdge` is such a change, and
`KeyEdge.event` the mask that stands for it: one key bit and one direction bit,
so that a mask tells the edge (`KeyEdge.event_injective`).

`KEvent` is Zephyr's event object with the thread that waits on it.
`k_event_set` replaces the tracked mask, `k_event_wait` with `reset` clears it
before it waits; what is tracked while nobody waits is therefore never seen.
-/

namespace Ztacx

open CModel

/-! ## Event objects -/

/-- `struct k_event`: the tracked mask, and the mask the waiting thread wants. -/
structure KEvent where
  events : UInt32
  waiter : Option UInt32
deriving DecidableEq, Repr

/-- `k_event_set`, and the mask a thread it wakes returns with. -/
def kEventSet (e : KEvent) (event : UInt32) : KEvent × Option UInt32 :=
  match e.waiter with
  | none => ({ e with events := event }, none)
  | some mask =>
    if event &&& mask = 0 then ({ e with events := event }, none)
    else (⟨event, none⟩, some (event &&& mask))

/-- `k_event_wait` with `reset`: the tracked mask is cleared first, so the thread
has to wait. -/
def kEventWaitReset (mask : UInt32) : KEvent := ⟨0, some mask⟩

/-- `ztacx_variable_value_set_event`; the event pointer may be null. -/
def ztacxVariableValueSetEvent (valEvent : Option KEvent) (event : UInt32) :
    Option (KEvent × Option UInt32) × ℤ :=
  match valEvent with
  | some e => (some (kEventSet e event), 0)
  | none => (none, -ENODEV)

/-! ## Edges -/

def KP_EVENT_PRESS : UInt32 := 0x8000000

def KP_EVENT_RELEASE : UInt32 := 0x4000000

/-- A key that was pressed or released. -/
structure KeyEdge where
  bit : Fin 8
  press : Bool
deriving DecidableEq, Repr

/-- The event mask of an edge. -/
def KeyEdge.event (e : KeyEdge) : UInt32 :=
  (if e.press then KP_EVENT_PRESS else KP_EVENT_RELEASE) ||| (1 <<< UInt32.ofNat e.bit)

theorem KeyEdge.event_ne_zero (e : KeyEdge) : e.event ≠ 0 := by
  have all : ∀ (bit : Fin 8) (press : Bool), (KeyEdge.mk bit press).event ≠ 0 := by decide
  exact all e.bit e.press

/-- The mask tells the edge. -/
theorem KeyEdge.event_injective : Function.Injective KeyEdge.event := by
  have all : ∀ (bit bit' : Fin 8) (press press' : Bool),
      (KeyEdge.mk bit press).event = (KeyEdge.mk bit' press').event →
        bit = bit' ∧ press = press' := by decide
  intro e e' same
  obtain ⟨bit, press⟩ := all _ _ _ _ same
  cases e
  cases e'
  cases bit
  cases press
  rfl

/-- What the loop of `kp_scan` does for one bit. -/
def kpEdge (kpWas kpNew : UInt8) (bit : Fin 8) : Option KeyEdge :=
  let was := kpWas &&& (1 <<< UInt8.ofNat bit)
  let new := kpNew &&& (1 <<< UInt8.ofNat bit)
  if was = new then none else some ⟨bit, new = 0⟩

/-- The edges between two readings, in the order of the loop. -/
def kpEdges (kpWas kpNew : UInt8) : List KeyEdge := (List.finRange 8).filterMap (kpEdge kpWas kpNew)

/-! ## The scan -/

/-- `kp_scan`, from the result of `_kp_read` and the pins it read: the pins
variable after it and the edges it is going to post. -/
def kpScan (pins : ByteVariable) (rc : ℤ) (kpNew : UInt8) : ByteVariable × List KeyEdge :=
  if rc = 0 ∧ kpNew ≠ pins.get then (pins.set kpNew, kpEdges pins.get kpNew) else (pins, [])

end Ztacx
