import Mathlib.Data.Fin.Basic
import Ztacx.Value

/-!
# Buttons

`ztacx_button_init` and `button_pressed` of `src/ztacx_button.c`.  A call of
`ztacx_button_init` enters its leaf in the first empty slot of the table before it
looks at the device, so the table holds the leaves of the first calls, the failed
ones among them (`initButtons_eq`).

An interrupt names the port, the callback structure of the button and its pin, and
`button_pressed` looks at the pin alone.  It finds the first leaf in the table with
that pin, which for a button that was initialised is there, in front of all empty
slots (`buttonPressed_eq`).  If this is not the button itself, then its handler is
submitted instead (`routesButtons_iff`).
-/

namespace Ztacx

open CModel

/-! ## The code -/

/-- A button leaf: the fields of its context. -/
structure ButtonLeaf where
  /-- The device of `button.port`. -/
  port : ℕ
  pin : Fin 32
  handler : Option KWorkPtr
deriving DecidableEq, Repr

/-- `ztacx_buttons` -/
abbrev ButtonTable := List (Option ButtonLeaf)

/-- A call of `ztacx_button_init`, and what it meets: whether the device is ready,
and what configuring the pin and its interrupt returns. -/
structure ButtonInit where
  leaf : ButtonLeaf
  ready : Bool
  pinConfigure : ℤ
  interruptConfigure : ℤ
deriving DecidableEq, Repr

def ztacxButtonInit (table : ButtonTable) (call : ButtonInit) : ButtonTable × ℤ :=
  match table.findIdx? Option.isNone with
  | none => (table, - ENOMEM)
  | some i =>
    let table := table.set i (some call.leaf)
    if !call.ready then (table, - ENODEV)
    else if call.pinConfigure ≠ 0 then (table, call.pinConfigure)
    else if call.interruptConfigure ≠ 0 then (table, call.interruptConfigure)
    else (table, 0)

/-- `BIT(pin)` -/
def pinMask (pin : Fin 32) : BitVec 32 := 1#32 <<< pin.val

/-- The loop of `button_pressed`. -/
def findPressed (pins : BitVec 32) : ButtonTable → Except Fault (Option ButtonLeaf)
  | [] => .ok none
  | none :: _ => .error .nullDeref
  | some leaf :: rest =>
    if pins &&& pinMask leaf.pin ≠ 0 then .ok (some leaf) else findPressed pins rest

/-- `button_pressed`: the work that it submits.  The device and the callback
structure are not looked at. -/
def buttonPressed (table : ButtonTable) (pins : BitVec 32) : Except Fault (Option KWorkPtr) :=
  (findPressed pins table).map fun leaf => leaf.bind ButtonLeaf.handler

/-! ## Initialising -/

/-- The table after a sequence of calls, and the leaves that were initialised. -/
def initButtons : ButtonTable → List ButtonInit → ButtonTable × List ButtonLeaf
  | table, [] => (table, [])
  | table, call :: calls =>
    let after := ztacxButtonInit table call
    let rest := initButtons after.1 calls
    (rest.1, if after.2 = 0 then call.leaf :: rest.2 else rest.2)

/-- A table with leaves in its first slots. -/
def filled (leaves : List ButtonLeaf) (empty : ℕ) : ButtonTable :=
  leaves.map some ++ List.replicate empty none

theorem findIdx?_filled (leaves : List ButtonLeaf) (empty : ℕ) :
    (filled leaves empty).findIdx? Option.isNone =
      if empty = 0 then none else some leaves.length := by
  have used : (leaves.map some).findIdx? Option.isNone = none := by
    refine List.findIdx?_eq_none_iff.mpr fun slot mem => ?_
    obtain ⟨leaf, -, rfl⟩ := List.mem_map.mp mem
    rfl
  rw [filled, List.findIdx?_append, used]
  cases empty with
  | zero => rfl
  | succ empty => simp [List.replicate_succ, List.findIdx?_cons]

/-- An empty slot takes the leaf, whatever becomes of it. -/
theorem ztacxButtonInit_filled (leaves : List ButtonLeaf) (empty : ℕ) (call : ButtonInit) :
    (ztacxButtonInit (filled leaves (empty + 1)) call).1 =
      filled (leaves ++ [call.leaf]) empty := by
  have entered : (filled leaves (empty + 1)).set leaves.length (some call.leaf) =
      filled (leaves ++ [call.leaf]) empty := by
    rw [filled, List.set_append_right _ _ (by simp), List.length_map, Nat.sub_self,
      List.replicate_succ, List.set_cons_zero, filled, List.map_append, List.append_assoc]
    rfl
  rw [ztacxButtonInit, findIdx?_filled, if_neg (Nat.succ_ne_zero _)]
  dsimp only
  rw [entered]
  split
  · rfl
  · split
    · rfl
    · split <;> rfl

/-- A full table takes nothing. -/
theorem ztacxButtonInit_full (leaves : List ButtonLeaf) (call : ButtonInit) :
    ztacxButtonInit (filled leaves 0) call = (filled leaves 0, - ENOMEM) := by
  rw [ztacxButtonInit, findIdx?_filled, if_pos rfl]

/-- **The table holds the leaves of the first calls**, and the initialised buttons are
among them. -/
theorem initButtons_eq (leaves : List ButtonLeaf) (empty : ℕ) (calls : List ButtonInit) :
    (initButtons (filled leaves empty) calls).1 =
        filled (leaves ++ (calls.map ButtonInit.leaf).take empty) (empty - calls.length) ∧
      ∀ b ∈ (initButtons (filled leaves empty) calls).2,
        b ∈ (calls.map ButtonInit.leaf).take empty := by
  induction calls generalizing leaves empty with
  | nil => simp [initButtons]
  | cons call calls ih =>
      cases empty with
      | zero =>
          obtain ⟨table, members⟩ := ih leaves 0
          have failed : ¬ - ENOMEM = 0 := by decide
          rw [initButtons, ztacxButtonInit_full]
          dsimp only
          rw [if_neg failed]
          refine ⟨?_, members⟩
          rw [table, Nat.zero_sub, Nat.zero_sub]
          rfl
      | succ empty =>
          obtain ⟨table, members⟩ := ih (leaves ++ [call.leaf]) empty
          rw [initButtons]
          dsimp only
          rw [ztacxButtonInit_filled, List.map_cons, List.take_succ_cons, List.length_cons,
            Nat.add_sub_add_right]
          refine ⟨?_, fun b mem => ?_⟩
          · rw [table, List.append_assoc, List.singleton_append]
          · split at mem
            · rcases List.mem_cons.mp mem with rfl | mem
              · exact List.mem_cons_self
              · exact List.mem_cons_of_mem _ (members b mem)
            · exact List.mem_cons_of_mem _ (members b mem)

/-! ## Interrupts -/

/-- The masks of two pins meet only if the pins are the same. -/
theorem pinMask_and_ne_zero (p q : Fin 32) : pinMask p &&& pinMask q ≠ 0 ↔ q = p := by
  revert p q
  decide +kernel

/-- The scan ends at the first leaf with the pin, in front of the empty slots. -/
theorem findPressed_filled {leaves : List ButtonLeaf} {pin : Fin 32}
    (present : ∃ b ∈ leaves, b.pin = pin) (empty : ℕ) :
    findPressed (pinMask pin) (filled leaves empty) = .ok (leaves.find? (·.pin = pin)) := by
  induction leaves with
  | nil =>
      obtain ⟨b, mem, -⟩ := present
      exact absurd mem List.not_mem_nil
  | cons leaf leaves ih =>
      show findPressed (pinMask pin) (some leaf :: filled leaves empty) = _
      rw [findPressed]
      by_cases same : leaf.pin = pin
      · rw [if_pos ((pinMask_and_ne_zero _ _).mpr same),
          List.find?_cons_of_pos (by simpa using same)]
      · have later : ∃ b ∈ leaves, b.pin = pin := by
          obtain ⟨b, mem, samePin⟩ := present
          rcases List.mem_cons.mp mem with rfl | mem
          · exact absurd samePin same
          · exact ⟨b, mem, samePin⟩
        rw [if_neg fun meet => same ((pinMask_and_ne_zero _ _).mp meet), ih later,
          List.find?_cons_of_neg (by simpa using same)]

/-- The calls of `ztacx_button_init` in a firmware whose table has `max` slots.  No
two of the buttons that come up share both port and pin. -/
structure ButtonSetup where
  max : ℕ
  calls : List ButtonInit
  distinct : ∀ a ∈ (initButtons (List.replicate max none) calls).2,
    ∀ b ∈ (initButtons (List.replicate max none) calls).2,
      a.port = b.port → a.pin = b.pin → a = b

namespace ButtonSetup

variable (s : ButtonSetup)

def table : ButtonTable := (initButtons (List.replicate s.max none) s.calls).1

/-- The buttons whose initialisation succeeded. -/
def initialised : List ButtonLeaf := (initButtons (List.replicate s.max none) s.calls).2

/-- The leaves in the table. -/
def registered : List ButtonLeaf := (s.calls.map ButtonInit.leaf).take s.max

theorem table_eq : s.table = filled s.registered (s.max - s.calls.length) :=
  (initButtons_eq [] s.max s.calls).1

theorem mem_registered {b : ButtonLeaf} (mem : b ∈ s.initialised) : b ∈ s.registered :=
  (initButtons_eq [] s.max s.calls).2 b mem

/-- **An interrupt goes to the first leaf with its pin.** -/
theorem buttonPressed_eq {b : ButtonLeaf} (mem : b ∈ s.initialised) :
    buttonPressed s.table (pinMask b.pin) =
      .ok ((s.registered.find? (·.pin = b.pin)).bind ButtonLeaf.handler) := by
  rw [buttonPressed, table_eq, findPressed_filled ⟨b, s.mem_registered mem, rfl⟩]
  rfl

end ButtonSetup

/-- An interrupt of a button submits the handler of this button. -/
def RoutesButtons (s : ButtonSetup) : Prop :=
  ∀ b ∈ s.initialised, buttonPressed s.table (pinMask b.pin) = .ok b.handler

theorem routesButtons_iff (s : ButtonSetup) :
    RoutesButtons s ↔ ∀ b ∈ s.initialised, ∀ a,
      s.registered.find? (·.pin = b.pin) = some a → a.handler = b.handler := by
  refine forall₂_congr fun b mem => ?_
  obtain ⟨a, found⟩ : ∃ a, s.registered.find? (·.pin = b.pin) = some a :=
    Option.isSome_iff_exists.mp (List.find?_isSome.mpr ⟨b, s.mem_registered mem, by simp⟩)
  rw [s.buttonPressed_eq mem, found, Option.bind_some]
  constructor
  · intro same a' found'
    rw [← Option.some.inj found']
    exact Except.ok.inj same
  · intro same
    rw [same a rfl]

/-- Two buttons with pin 3, on two ports. -/
def twoPorts : ButtonSetup where
  max := 4
  calls := [⟨⟨0, 3, some 10⟩, true, 0, 0⟩, ⟨⟨1, 3, some 11⟩, true, 0, 0⟩]
  distinct := by decide

/-- An interrupt of the second submits the handler of the first. -/
theorem twoPorts_not_routed :
    buttonPressed twoPorts.table (pinMask 3) = .ok (some 10) ∧ ¬ RoutesButtons twoPorts := by
  have first : buttonPressed twoPorts.table (pinMask 3) = .ok (some 10) := by decide
  refine ⟨first, fun routes => ?_⟩
  have second := routes ⟨1, 3, some 11⟩ (by decide)
  rw [first] at second
  exact absurd second (by decide)

end Ztacx
