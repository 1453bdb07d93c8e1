import Mathlib.Data.List.Chain
import Ztacx.KeypadDelivery

/-!
# The history of a keypad

Any number of scans one after another, with any readings and failures
(`KpHistory.scans`), and the masks they post.

A mask names one key, so the history of a key is a list of directions
(`direction`), and the current state of the key is bit `i` of the pins, inverted
(`pressed`).  What links the two is that a scan posts nothing for a key that is
as it was, and one mask with its new state for a key that is not
(`filterMap_direction_kpEdges`).  So the last direction in the history of a key is
its state, which makes the history alternate (`EdgeInv`) and makes the masks
enough to replay the pins (`getLsbD_replay`).
-/

namespace Ztacx

open CModel

/-- The pins of a keypad and the masks posted so far. -/
structure KpHistory where
  pins : ByteVariable
  posted : List UInt32

/-- A reading: what `_kp_read` returns and the pins it read. -/
structure KpReading where
  rc : ℤ
  kpNew : UInt8
deriving DecidableEq, Repr

/-- `kp_scan` with a reading: the edges go to `ztacx_variable_value_set_event`. -/
def KpHistory.scan (s : KpHistory) (reading : KpReading) : KpHistory :=
  let scanned := kpScan s.pins reading.rc reading.kpNew
  ⟨scanned.1, s.posted ++ scanned.2.map KeyEdge.event⟩

/-- One scan after another. -/
def KpHistory.scans (s : KpHistory) (readings : List KpReading) : KpHistory :=
  readings.foldl KpHistory.scan s

/-! ## Masks -/

/-- What a mask says about a key: nothing, that it was pressed (`true`) or that it
was released. -/
def direction (bit : Fin 8) (mask : UInt32) : Option Bool :=
  if mask &&& (1 <<< UInt32.ofNat bit) = 0 then none else some (mask &&& KP_EVENT_PRESS ≠ 0)

/-- A mask applied to pins: a press clears the bit of the key, a release sets it. -/
def replayEvent (pins : UInt8) (mask : UInt32) : UInt8 :=
  if mask &&& KP_EVENT_PRESS ≠ 0 then pins &&& ~~~mask.toUInt8 else pins ||| mask.toUInt8

def replay (pins : UInt8) (masks : List UInt32) : UInt8 := masks.foldl replayEvent pins

/-- A mask with one direction bit and one key bit. -/
def OneKey (mask : UInt32) : Prop :=
  ∃ bit : Fin 8, mask = KP_EVENT_PRESS ||| (1 <<< UInt32.ofNat bit) ∨
    mask = KP_EVENT_RELEASE ||| (1 <<< UInt32.ofNat bit)

/-- The pins of the last reading that succeeded, 0xFF before the first. -/
def lastReading (readings : List KpReading) : UInt8 :=
  readings.foldl (fun pins reading => if reading.rc = 0 then reading.kpNew else pins) 0xFF

/-- **The edges of a history.** -/
structure DetectsEdges (readings : List KpReading) (s : KpHistory) : Prop where
  /-- The directions of a key alternate; the key was up before the first. -/
  alternate : ∀ bit, List.IsChain (· ≠ ·) (false :: s.posted.filterMap (direction bit))
  oneKey : ∀ mask ∈ s.posted, OneKey mask
  replay_eq : replay 0xFF s.posted = s.pins.get
  pins_eq : s.pins.get = lastReading readings

/-! ## One key -/

/-- A key is pressed when its pin is low. -/
def pressed (pins : UInt8) (bit : Fin 8) : Bool := !pins.toBitVec.getLsbD bit

section Key

variable {pins was new : UInt8} {bit : Fin 8} {e : KeyEdge}

/-- Pins are the states of the eight keys. -/
theorem ext_pressed (same : ∀ bit, pressed was bit = pressed new bit) : was = new := by
  apply UInt8.eq_of_toBitVec_eq
  apply BitVec.eq_of_getLsbD_eq
  intro i inside
  exact Bool.not_inj (same ⟨i, inside⟩)

theorem toBitVec_key (bit : Fin 8) :
    ((1 : UInt8) <<< UInt8.ofNat bit).toBitVec = BitVec.twoPow 8 bit := by
  revert bit
  decide

/-- The test of the loop: a masked pin is zero or the whole mask. -/
theorem and_key (pins : UInt8) (bit : Fin 8) :
    pins &&& (1 <<< UInt8.ofNat bit) =
      if pressed pins bit then (0 : UInt8) else (1 : UInt8) <<< UInt8.ofNat bit := by
  apply UInt8.eq_of_toBitVec_eq
  rw [UInt8.toBitVec_and, toBitVec_key, BitVec.and_twoPow, pressed]
  cases pins.toBitVec.getLsbD bit with
  | true => exact (toBitVec_key bit).symm
  | false => rfl

theorem key_ne_zero (bit : Fin 8) : (1 : UInt8) <<< UInt8.ofNat bit ≠ 0 := by
  revert bit
  decide

/-- What the loop finds for one key. -/
theorem kpEdge_eq : kpEdge was new bit =
    if pressed was bit = pressed new bit then none else some ⟨bit, pressed new bit⟩ := by
  have nonzero := key_ne_zero bit
  unfold kpEdge
  rw [and_key was bit, and_key new bit]
  cases pressed was bit <;> cases pressed new bit <;> simp [nonzero, nonzero.symm]

theorem direction_event (bit : Fin 8) (e : KeyEdge) :
    direction bit e.event = if e.bit = bit then some e.press else none := by
  have all : ∀ (bit key : Fin 8) (press : Bool), direction bit (KeyEdge.mk key press).event =
      if key = bit then some press else none := by decide
  exact all bit e.bit e.press

theorem oneKey_event (e : KeyEdge) : OneKey e.event := by
  obtain ⟨bit, press⟩ := e
  cases press with
  | true => exact ⟨bit, .inl rfl⟩
  | false => exact ⟨bit, .inr rfl⟩

/-- A mask sets the state of its key and of no other. -/
theorem pressed_replayEvent (pins : UInt8) (e : KeyEdge) (bit : Fin 8) :
    pressed (replayEvent pins e.event) bit = (direction bit e.event).getD (pressed pins bit) := by
  have key : ∀ (key : Fin 8) (press : Bool),
      (KeyEdge.mk key press).event.toUInt8 = 1 <<< UInt8.ofNat key ∧
        ((KeyEdge.mk key press).event &&& KP_EVENT_PRESS ≠ 0 ↔ press = true) := by decide
  obtain ⟨low, press⟩ := key e.bit e.press
  have twoPow : (BitVec.twoPow 8 e.bit.val).getLsbD bit = decide (e.bit = bit) := by
    simp [Fin.ext_iff, eq_comm]
  have inside : bit.val < 8 := bit.isLt
  rw [direction_event, replayEvent, low]
  cases down : e.press with
  | true =>
      rw [if_pos (press.mpr down), pressed, UInt8.toBitVec_and, UInt8.toBitVec_not, toBitVec_key,
        BitVec.getLsbD_and, BitVec.getLsbD_not, twoPow]
      by_cases same : e.bit = bit <;> simp [same, pressed]
  | false =>
      rw [if_neg (by rw [press, down]; exact Bool.false_ne_true), pressed, UInt8.toBitVec_or,
        toBitVec_key, BitVec.getLsbD_or, twoPow]
      by_cases same : e.bit = bit <;> simp [same, pressed]

/-- **Replaying masks** leaves a key in the state that its last mask says. -/
theorem pressed_replay (pins : UInt8) (edges : List KeyEdge) (bit : Fin 8) :
    pressed (replay pins (edges.map KeyEdge.event)) bit =
      (((edges.map KeyEdge.event).filterMap (direction bit)).getLast?).getD
        (pressed pins bit) := by
  induction edges using List.reverseRecOn with
  | nil => rfl
  | append_singleton edges e ih =>
      rw [List.map_append, replay, List.foldl_append, List.filterMap_append]
      show pressed (replayEvent (replay pins _) e.event) bit = _
      rw [pressed_replayEvent, ih]
      show _ = (List.getLast? (_ ++ [e.event].filterMap (direction bit))).getD _
      cases said : direction bit e.event with
      | none => simp [List.filterMap, said]
      | some press => simp [List.filterMap, said]

end Key

/-! ## One scan -/

section Scan

variable {was new : UInt8} {bit : Fin 8}

/-- In a list without duplicates one element is picked out once. -/
theorem filterMap_pick {α β : Type*} [DecidableEq α] {f : α → Option β} {a : α} :
    ∀ {l : List α}, l.Nodup → a ∈ l →
      l.filterMap (fun x => if x = a then f x else none) = (f a).toList := by
  intro l
  induction l with
  | nil => intro _ mem; cases mem
  | cons x l ih =>
      intro distinct mem
      obtain ⟨fresh, distinct⟩ := List.nodup_cons.mp distinct
      by_cases here : x = a
      · subst here
        have later : l.filterMap (fun y => if y = x then f y else none) = [] := by
          refine List.filterMap_eq_nil_iff.mpr fun y inside => if_neg ?_
          rintro rfl
          exact fresh inside
        rw [List.filterMap_cons, if_pos rfl, later]
        cases f x <;> rfl
      · rw [List.filterMap_cons, if_neg here]
        exact ih distinct ((List.mem_cons.mp mem).resolve_left fun same => here same.symm)

/-- **What a scan posts for one key**: its new state if that is new. -/
theorem filterMap_direction_kpEdges (was new : UInt8) (bit : Fin 8) :
    ((kpEdges was new).map KeyEdge.event).filterMap (direction bit) =
      if pressed was bit = pressed new bit then [] else [pressed new bit] := by
  have each : ∀ key, (kpEdge was new key).bind (fun e => direction bit e.event) =
      if key = bit then (kpEdge was new key).map KeyEdge.press else none := by
    intro key
    rw [kpEdge_eq]
    by_cases same : pressed was key = pressed new key
    · rw [if_pos same]
      split <;> rfl
    · rw [if_neg same]
      exact direction_event bit _
  rw [kpEdges, List.filterMap_map, List.filterMap_filterMap]
  simp only [Function.comp_apply, each]
  rw [filterMap_pick (List.nodup_finRange 8) (List.mem_finRange bit), kpEdge_eq]
  split <;> rfl

/-- A scan that reads the pins posts the edges to the new reading. -/
theorem KpHistory.scan_of_read (s : KpHistory) {reading : KpReading} (read : reading.rc = 0) :
    (s.scan reading).pins.get = reading.kpNew ∧
      (s.scan reading).posted =
        s.posted ++ (kpEdges s.pins.get reading.kpNew).map KeyEdge.event := by
  unfold KpHistory.scan kpScan
  by_cases change : reading.kpNew = s.pins.get
  · have none : kpEdges s.pins.get s.pins.get = [] := by
      refine List.filterMap_eq_nil_iff.mpr fun bit _ => ?_
      exact if_pos rfl
    rw [if_neg fun both => both.2 change, change, none]
    exact ⟨rfl, rfl⟩
  · rw [if_pos ⟨read, change⟩]
    exact ⟨rfl, rfl⟩

/-- A scan that cannot read the pins does nothing. -/
theorem KpHistory.scan_of_failed (s : KpHistory) {reading : KpReading} (failed : reading.rc ≠ 0) :
    s.scan reading = s := by
  have nothing : kpScan s.pins reading.rc reading.kpNew = (s.pins, []) :=
    if_neg fun both => failed both.1
  unfold KpHistory.scan
  rw [nothing]
  simp

end Scan

/-! ## Runs -/

/-- **The invariant of a history**: the masks come from edges, and the last
direction of a key is its state. -/
structure EdgeInv (s : KpHistory) : Prop where
  edges : ∃ edges : List KeyEdge, s.posted = edges.map KeyEdge.event
  alternate : ∀ bit, List.IsChain (· ≠ ·) (false :: s.posted.filterMap (direction bit))
  state : ∀ bit, pressed s.pins.get bit =
    ((s.posted.filterMap (direction bit)).getLast?).getD false

section Runs

variable {s : KpHistory}

/-- The last direction of a key with the state it started from. -/
theorem getLast?_cons_eq {α : Type*} (a : α) (l : List α) :
    (a :: l).getLast? = some (l.getLast?.getD a) := by
  cases l using List.reverseRecOn with
  | nil => rfl
  | append_singleton l b => rw [← List.cons_append, List.getLast?_concat, List.getLast?_concat]; rfl

/-- **The step lemma.** -/
theorem EdgeInv.scan (inv : EdgeInv s) (reading : KpReading) : EdgeInv (s.scan reading) := by
  by_cases failed : reading.rc ≠ 0
  · rwa [s.scan_of_failed failed]
  · obtain ⟨pins, posted⟩ := s.scan_of_read (not_not.mp failed)
    have history : ∀ bit, (s.scan reading).posted.filterMap (direction bit) =
        s.posted.filterMap (direction bit) ++
          if pressed s.pins.get bit = pressed reading.kpNew bit then []
          else [pressed reading.kpNew bit] := by
      intro bit
      rw [posted, List.filterMap_append, filterMap_direction_kpEdges]
    refine ⟨?_, fun bit => ?_, fun bit => ?_⟩
    · obtain ⟨edges, same⟩ := inv.edges
      exact ⟨edges ++ kpEdges s.pins.get reading.kpNew, by rw [posted, same, List.map_append]⟩
    · rw [history bit]
      by_cases same : pressed s.pins.get bit = pressed reading.kpNew bit
      · rw [if_pos same, List.append_nil]
        exact inv.alternate bit
      · rw [if_neg same, ← List.cons_append]
        refine List.isChain_append.mpr ⟨inv.alternate bit, List.isChain_singleton _, ?_⟩
        intro last hlast new hnew
        rw [getLast?_cons_eq, ← inv.state bit] at hlast
        cases hlast
        cases hnew
        exact same
    · rw [pins, history bit]
      by_cases same : pressed s.pins.get bit = pressed reading.kpNew bit
      · rw [if_pos same, List.append_nil, ← same]
        exact inv.state bit
      · rw [if_neg same, List.getLast?_concat]
        rfl

/-- The run lemma. -/
theorem EdgeInv.scans (inv : EdgeInv s) (readings : List KpReading) :
    EdgeInv (s.scans readings) := by
  induction readings generalizing s with
  | nil => exact inv
  | cons reading readings ih => exact ih (inv.scan reading)

/-- A keypad with all keys up. -/
theorem pressed_released (bit : Fin 8) : pressed 0xFF bit = false := by
  revert bit
  decide

theorem edgeInv_start {pins : ByteVariable} (released : pins.get = 0xFF) :
    EdgeInv ⟨pins, []⟩ where
  edges := ⟨[], rfl⟩
  alternate := fun _ => List.isChain_singleton _
  state := fun bit => by
    show pressed pins.get bit = _
    rw [released, pressed_released]
    rfl

/-- The pins follow the readings that succeed. -/
theorem get_scans (s : KpHistory) (readings : List KpReading) :
    (s.scans readings).pins.get =
      readings.foldl (fun pins reading => if reading.rc = 0 then reading.kpNew else pins)
        s.pins.get := by
  induction readings generalizing s with
  | nil => rfl
  | cons reading readings ih =>
      have first : (s.scan reading).pins.get =
          if reading.rc = 0 then reading.kpNew else s.pins.get := by
        by_cases read : reading.rc = 0
        · rw [if_pos read]
          exact (s.scan_of_read read).1
        · rw [if_neg read, s.scan_of_failed read]
      show ((s.scan reading).scans readings).pins.get = _
      rw [ih, first]
      rfl

/-- The invariant says all there is about the edges. -/
theorem EdgeInv.replay_eq (inv : EdgeInv s) : replay 0xFF s.posted = s.pins.get := by
  obtain ⟨edges, posted⟩ := inv.edges
  apply ext_pressed
  intro bit
  rw [inv.state bit, posted, pressed_replay, pressed_released]

/-- **Edge detection.**  After any readings the masks posted are the edges of the
pins, and a scan that fails posts nothing and changes nothing. -/
theorem detectsEdges {pins : ByteVariable} (released : pins.get = 0xFF)
    (readings : List KpReading) :
    DetectsEdges readings (KpHistory.scans ⟨pins, []⟩ readings) ∧
      ∀ reading : KpReading, reading.rc ≠ 0 →
        KpHistory.scans ⟨pins, []⟩ (readings ++ [reading]) =
          KpHistory.scans ⟨pins, []⟩ readings := by
  have inv := (edgeInv_start released).scans readings
  refine ⟨⟨inv.alternate, ?_, inv.replay_eq, ?_⟩, fun reading failed => ?_⟩
  · obtain ⟨edges, posted⟩ := inv.edges
    rw [posted]
    intro mask mem
    obtain ⟨e, -, rfl⟩ := List.mem_map.mp mem
    exact oneKey_event e
  · rw [get_scans, released]
    rfl
  · rw [KpHistory.scans, List.foldl_append]
    exact KpHistory.scan_of_failed _ failed

end Runs

/-- Key 0 goes down, a read fails, and keys 0 and 1 change places. -/
def threeReadings : List KpReading := [⟨0, 0xFE⟩, ⟨-5, 0⟩, ⟨0, 0xFD⟩]

theorem detectsEdges_threeReadings :
    DetectsEdges threeReadings (KpHistory.scans ⟨releasedPins, []⟩ threeReadings) :=
  (detectsEdges rfl threeReadings).1

end Ztacx
