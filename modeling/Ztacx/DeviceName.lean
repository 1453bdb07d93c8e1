import Ztacx.CModel.HexText
import Ztacx.CModel.Run
import Ztacx.CModel.StringCopy
import Ztacx.Value

/-!
# The name of the device

`ztacx_init` of `src/ztacx.c` prints the hardware id into `device_id_str`, its end into
`device_id_short`, and appends a dash and that end to `name_setting`.  `bt_ready` of
`src/ztacx_bt_peripheral.c` copies the setting `peripheral_name` over the name.

The counts of the two `strncat` bound what is appended, not what is there: every
`ztacx_init` makes the name longer, and at some point it leaves its array.  The count of
the `strncpy` is the size of the array, so that a longer override leaves no terminator.
The names are sound in every run in which each of them has room (`named_iff`).
-/

namespace Ztacx.DeviceName

open CModel

/-! ## The code -/

/-- What a build and its device fix: `CONFIG_ZTACX_NAME_BASE`, the id that
`hwinfo_get_device_id` returns, and `CONFIG_BT_DEVICE_NAME_DYNAMIC`. -/
structure Device where
  nameBase : CString
  nameBase_le : nameBase.strlen ≤ 20
  deviceId : List UInt8
  deviceId_le : deviceId.length ≤ 16
  nameDynamic : Bool

/-- The three arrays, and the name that `bt_set_name` was given last.  `initialised` is a
history: `ztacx_init` has been executed. -/
structure Names where
  nameSetting : List UInt8
  deviceIdStr : List UInt8
  deviceIdShort : List UInt8
  btName : Option CString
  initialised : Bool
deriving DecidableEq, Repr

variable (device : Device)

/-- The arrays as they are compiled in. -/
def bootNames : Names where
  nameSetting := device.nameBase.padded 21
  deviceIdStr := CString.empty.padded 35
  deviceIdShort := CString.empty.padded 7
  btName := none
  initialised := false

/-- A text of two characters. -/
def hexPair (b : UInt8) : CString := ⟨lowerHex [b], (hexSpelling_lowerHex [b]).digits.nul_free⟩

/-- The loop of `ztacx_init`, at `p = object + off`. -/
def printDeviceId (object : List UInt8) (off : ℕ) : List UInt8 → Except Fault (List UInt8)
  | [] => .ok object
  | b :: id =>
    (snprintfInto object off 3 (hexPair b)).bind fun printed =>
      printDeviceId printed.1 (off + 2) id

/-- The last four characters, or all of them. -/
def lastFour (s : CString) : CString := s.drop (s.strlen - 4)

/-- `name_setting` after a dash and the short id have been appended. -/
def appendShort (nameSetting : List UInt8) (short : CString) : Except Fault (List UInt8) := do
  let nameSetting ← strncatInto nameSetting (.ofString "-") 20
  strncatInto nameSetting short 20

/-- The part of `ztacx_init` that is about names. -/
def nameDevice (s : Names) : Except Fault Names := do
  let deviceIdStr ← printDeviceId s.deviceIdStr 0 device.deviceId
  let id ← readCString deviceIdStr
  let deviceIdShort ←
    if id.strlen < 4 then strcpyInto s.deviceIdShort id
    else strcpyInto s.deviceIdShort (id.drop (id.strlen - 4))
  let short ← readCString deviceIdShort
  let nameSetting ← appendShort s.nameSetting short
  return { s with
    nameSetting := nameSetting
    deviceIdStr := deviceIdStr
    deviceIdShort := deviceIdShort
    initialised := true }

/-- `ztacx_init`, from whether the mutex of the registry is free, which is asked for once
the names are done. -/
def ztacxInit (s : Names) (mutexFree : Bool) : Except Fault (Names × ℤ) :=
  (nameDevice device s).map fun s => if mutexFree then (s, 0) else (s, -EWOULDBLOCK)

/-- `bt_ready`, from its argument and the value of `peripheral_name`. -/
def btReady (s : Names) (err : ℤ) (nameOverride : Option CString) : Except Fault Names :=
  if err ≠ 0 then .ok s
  else do
    let nameSetting ←
      match nameOverride with
      | some name =>
        if device.nameDynamic ∧ name.strlen ≠ 0 then strncpyInto s.nameSetting name 21
        else .ok s.nameSetting
      | none => .ok s.nameSetting
    -- the name is logged, and handed to `bt_advertise_name`
    let name ← readCString nameSetting
    return { s with
      nameSetting := nameSetting
      btName := if device.nameDynamic then some name else s.btName }

/-- The events of a run: `ztacx_init`, at boot or by `ztacx boot`, and `bt_ready`. -/
inductive NamingEvent
  | ztacxInit (mutexFree : Bool)
  | btReady (err : ℤ) (nameOverride : Option CString)
deriving DecidableEq, Repr

def namingStep (s : Names) : NamingEvent → Option Names
  | .ztacxInit mutexFree => ((ztacxInit device s mutexFree).map Prod.fst).toOption
  | .btReady err nameOverride => (btReady device s err nameOverride).toOption

/-! ## What the arrays hold -/

/-- The lowercase hex of the id. -/
def idText : CString :=
  ⟨lowerHex device.deviceId, (hexSpelling_lowerHex device.deviceId).digits.nul_free⟩

/-- **The names are sound**: each array holds a text, and once `ztacx_init` has been
executed, that of the id is its lowercase hex, and the short one has the end of it. -/
structure Named (s : Names) : Prop where
  name : ∃ name, HasText s.nameSetting 21 name
  id : HasText s.deviceIdStr 35 (if s.initialised then idText device else .empty)
  short : HasText s.deviceIdShort 7 (if s.initialised then lastFour (idText device) else .empty)

/-- There is room for what an event makes of the name. -/
def HasRoom (s : Names) : NamingEvent → Prop
  | .ztacxInit _ =>
    (CString.ofBytes s.nameSetting).strlen + 1 + (lastFour (idText device)).strlen ≤ 20
  | .btReady err nameOverride =>
    err = 0 → device.nameDynamic = true → ∀ name ∈ nameOverride, name.strlen ≤ 20

instance decidableHasRoom (s : Names) : (e : NamingEvent) → Decidable (HasRoom device s e)
  | .ztacxInit _ => inferInstanceAs (Decidable
      ((CString.ofBytes s.nameSetting).strlen + 1 + (lastFour (idText device)).strlen ≤ 20))
  | .btReady err nameOverride => inferInstanceAs (Decidable
      (err = 0 → device.nameDynamic = true → ∀ name ∈ nameOverride, name.strlen ≤ 20))

/-! ## What the code does -/

section Naming

variable {device} {s : Names}

theorem hexPair_append (b : UInt8) (id : List UInt8) : (hexPair b).bytes ++ lowerHex id =
    lowerHex (b :: id) := rfl

/-- **The loop of `ztacx_init`** prints the id behind what is there, if there is room. -/
theorem printDeviceId_spec {object id : List UInt8} {n : ℕ} (front : CString)
    (length_eq : object.length = n) (here : object.take front.strlen = front.bytes)
    (last : id = [] → HasText object n front) (fits : front.strlen + 2 * id.length < n)
    (text : CString) (same : text.bytes = front.bytes ++ lowerHex id) :
    ∃ object', printDeviceId object front.strlen id = .ok object' ∧ HasText object' n text := by
  induction id generalizing object front with
  | nil =>
      have whole : text = front := CString.ext (same.trans (List.append_nil _))
      exact ⟨object, rfl, whole ▸ last rfl⟩
  | cons b id ih =>
      rw [List.length_cons] at fits
      have pair : (hexPair b).strlen = 2 := rfl
      obtain ⟨-, has⟩ := hasText_splice (s := hexPair b) length_eq here (by omega)
      have next : (front.append (hexPair b)).strlen = front.strlen + 2 := by
        rw [CString.strlen, CString.append_bytes, List.length_append]
        rfl
      have printed : printDeviceId object front.strlen (b :: id) =
          printDeviceId (splice object front.strlen (hexPair b).stored)
            (front.append (hexPair b)).strlen id := by
        rw [printDeviceId, snprintfInto_of_lt (by omega) (by omega), next]
        rfl
      rw [printed]
      refine ih _ has.length_eq has.take_strlen (fun _ => has) (by omega) ?_
      rw [same, CString.append_bytes, List.append_assoc, hexPair_append]

theorem strlen_lastFour_le (s : CString) : (lastFour s).strlen ≤ 4 := by
  rw [lastFour, CString.strlen, CString.drop_bytes, List.length_drop]
  show s.strlen - (s.strlen - 4) ≤ 4
  omega

/-- A short text is all of its end. -/
theorem lastFour_of_lt {s : CString} (short : s.strlen < 4) : lastFour s = s := by
  rw [lastFour, Nat.sub_eq_zero_of_le short.le]
  rfl

/-- What is printed into `device_id_str`, also where the id has been printed before. -/
theorem Named.printDeviceId (h : Named device s) :
    ∃ object, DeviceName.printDeviceId s.deviceIdStr 0 device.deviceId = .ok object ∧
      HasText object 35 (idText device) := by
  have fits := device.deviceId_le
  refine printDeviceId_spec .empty h.id.length_eq rfl (fun none => ?_)
    (by rw [CString.strlen, CString.empty, List.length_nil]; omega) _ rfl
  have empty : idText device = .empty := CString.ext (congrArg lowerHex none)
  have id := h.id
  rwa [empty, ite_self] at id

/-- Appending goes through if there is room for it. -/
theorem appendShort_spec {object : List UInt8} {name short : CString}
    (has : HasText object 21 name) (four : short.strlen ≤ 4) :
    if name.strlen + 1 + short.strlen ≤ 20 then
      ∃ object', appendShort object short = .ok object' ∧
        HasText object' 21 ((name.append (.ofString "-")).append short)
    else appendShort object short = .error .outOfBounds := by
  have whole : short.take 20 = short :=
    CString.ext (List.take_of_length_le (four.trans (by decide)))
  have dash := strncatInto_spec has (.ofString "-") 20
  have longer : (name.append (.ofString "-")).strlen = name.strlen + 1 := List.length_append
  rw [show (CString.ofString "-").take 20 = .ofString "-" by decide,
    show (CString.ofString "-").strlen = 1 from rfl] at dash
  unfold appendShort
  by_cases fits : name.strlen + 1 < 21
  · rw [if_pos fits] at dash
    obtain ⟨dashed, ran, has⟩ := dash
    have appended := strncatInto_spec has short 20
    rw [whole, longer] at appended
    rw [ran]
    show if name.strlen + 1 + short.strlen ≤ 20 then
        ∃ object', strncatInto dashed short 20 = .ok object' ∧ _
      else strncatInto dashed short 20 = _
    simp only [Nat.lt_succ_iff] at appended
    exact appended
  · rw [if_neg fits] at dash
    rw [if_neg (by omega), dash]
    rfl

/-- **What `ztacx_init` does to the names**: it leaves them sound, or it leaves the array of
the name. -/
theorem Named.nameDevice (h : Named device s) :
    if (CString.ofBytes s.nameSetting).strlen + 1 + (lastFour (idText device)).strlen ≤ 20 then
      ∃ s', DeviceName.nameDevice device s = .ok s' ∧ Named device s'
    else DeviceName.nameDevice device s = .error .outOfBounds := by
  obtain ⟨idStr, printed, idText⟩ := h.printDeviceId
  have four := strlen_lastFour_le (DeviceName.idText device)
  have copied := strcpyInto_spec h.short.length_eq (lastFour (DeviceName.idText device))
  rw [if_pos (by omega)] at copied
  obtain ⟨idShort, copied, short⟩ := copied
  obtain ⟨name, has⟩ := h.name
  have appended := appendShort_spec has four
  rw [← has.eq_ofBytes]
  have ran : DeviceName.nameDevice device s = (appendShort s.nameSetting
      (lastFour (DeviceName.idText device))).map fun nameSetting =>
        { s with
          nameSetting := nameSetting
          deviceIdStr := idStr
          deviceIdShort := idShort
          initialised := true } := by
    have all : (DeviceName.idText device).strlen < 4 →
        strcpyInto s.deviceIdShort (DeviceName.idText device) = .ok idShort := by
      intro all
      rwa [lastFour_of_lt all] at copied
    simp only [lastFour] at copied short ⊢
    simp only [DeviceName.nameDevice, bind, Except.bind, printed, idText.read]
    split
    · rename_i few
      simp only [all few, short.read]
      cases appendShort s.nameSetting _ <;> rfl
    · simp only [copied, short.read]
      cases appendShort s.nameSetting _ <;> rfl
  rw [ran]
  split
  · rename_i room
    rw [if_pos room] at appended
    obtain ⟨nameSetting, appended, named⟩ := appended
    rw [appended]
    exact ⟨_, rfl, ⟨_, named⟩, idText, short⟩
  · rename_i full
    rw [if_neg full] at appended
    rw [appended]
    rfl

/-- An array with a name is read and handed on. -/
theorem Named.withName (h : Named device s) {nameSetting : List UInt8} {name : CString}
    (has : HasText nameSetting 21 name) (btName : Option CString) :
    Named device { s with nameSetting := nameSetting, btName := btName } :=
  ⟨⟨name, has⟩, h.id, h.short⟩

/-- **What `bt_ready` does to the names**: it leaves them sound, or reads an array without
a terminator. -/
theorem Named.btReady (h : Named device s) (err : ℤ) (nameOverride : Option CString) :
    (HasRoom device s (.btReady err nameOverride) →
      ∃ s', DeviceName.btReady device s err nameOverride = .ok s' ∧ Named device s') ∧
    (¬ HasRoom device s (.btReady err nameOverride) →
      DeviceName.btReady device s err nameOverride = .error .outOfBounds) := by
  show ((err = 0 → device.nameDynamic = true → ∀ name ∈ nameOverride, name.strlen ≤ 20) → _) ∧ _
  unfold DeviceName.btReady
  by_cases failed : err ≠ 0
  · rw [if_pos failed]
    exact ⟨fun _ => ⟨s, rfl, h⟩, fun full => absurd (fun succeeded => absurd succeeded failed) full⟩
  rw [if_neg failed]
  obtain ⟨old, has⟩ := h.name
  cases nameOverride with
  | none =>
      refine ⟨fun _ => ?_, fun full => absurd (fun _ _ name none => ?_) full⟩
      · simp only [bind, Except.bind, has.read]
        exact ⟨_, rfl, h.withName has _⟩
      · exact absurd none (Option.not_mem_none name)
  | some name =>
      obtain ⟨object, copied, outcome⟩ := strncpyInto_spec has.length_eq name
      by_cases copies : device.nameDynamic = true ∧ name.strlen ≠ 0
      · simp only [if_pos copies, bind, Except.bind, copied]
        constructor
        · intro room
          have short := room (not_not.mp failed) copies.1 name rfl
          rw [if_pos (by omega)] at outcome
          simp only [outcome.read]
          exact ⟨_, rfl, h.withName outcome _⟩
        · intro full
          have long : ¬ name.strlen < 21 := by
            intro short
            refine full fun _ _ name' same => ?_
            cases same
            omega
          rw [if_neg long] at outcome
          simp only [outcome]
      · refine ⟨fun _ => ?_, fun full => absurd (fun _ dynamic name' same => ?_) full⟩
        · simp only [if_neg copies, bind, Except.bind, has.read]
          exact ⟨_, rfl, h.withName has _⟩
        · -- what is not copied is the empty text
          cases same
          have := not_not.mp fun some => copies ⟨dynamic, some⟩
          omega

theorem bootNames_named (device : Device) : Named device (bootNames device) where
  name := ⟨_, hasText_padded (Nat.lt_succ_of_le device.nameBase_le)⟩
  id := hasText_padded (by decide)
  short := hasText_padded (by decide)

/-- **What an event does to the names.** -/
theorem Named.step (h : Named device s) (e : NamingEvent) :
    (HasRoom device s e → ∃ s', namingStep device s e = some s' ∧ Named device s') ∧
      (¬ HasRoom device s e → namingStep device s e = none) := by
  cases e with
  | ztacxInit mutexFree =>
      have ran := h.nameDevice
      show (_ ≤ 20 → _) ∧ (¬ _ ≤ 20 → _)
      unfold namingStep DeviceName.ztacxInit
      constructor
      · intro room
        rw [if_pos room] at ran
        obtain ⟨s', ran, named⟩ := ran
        rw [ran]
        cases mutexFree with
        | false => exact ⟨s', rfl, named⟩
        | true => exact ⟨s', rfl, named⟩
      · intro full
        rw [if_neg full] at ran
        rw [ran]
        rfl
  | btReady err nameOverride =>
      obtain ⟨sound, faults⟩ := h.btReady err nameOverride
      constructor
      · intro room
        obtain ⟨s', ran, named⟩ := sound room
        exact ⟨s', toOption_eq_some_iff.mpr ran, named⟩
      · intro full
        exact congrArg Except.toOption (faults full)

/-- **When the names are sound throughout a run**: every `ztacx_init` has room for what it
appends, and every override that is copied has at most twenty characters. -/
theorem named_iff (device : Device) (events : List NamingEvent) :
    Safe (namingStep device) (Named device) (bootNames device) events ↔
      Meets (namingStep device) (HasRoom device) (bootNames device) events := by
  refine safe_iff_meets (I := Named device) (D := fun _ => True) id ?_ ?_
    (bootNames_named device) fun _ _ => trivial
  · exact fun h _ room => (h.step _).1 room
  · intro s e s' h _ full taken
    cases ((h.step e).2 full).symm.trans taken

end Naming

/-- A device with an id of eight bytes. -/
def exampleDevice (nameBase : String) (nameBase_le : (CString.ofString nameBase).strlen ≤ 20) :
    Device where
  nameBase := .ofString nameBase
  nameBase_le := nameBase_le
  deviceId := [0xF4, 0xCE, 0x36, 0x21, 0xA0, 0x5B, 0xC7, 0x1D]
  deviceId_le := by decide
  nameDynamic := true

/-- **Three ways out of the array**: a base of twenty characters, the third `ztacx boot` of a
device named `ztacx`, and an override of twenty-one characters. -/
theorem exampleDevice_not_named :
    ¬ Safe (namingStep (exampleDevice "ztacx-sensor-gateway" (by decide)))
        (Named (exampleDevice "ztacx-sensor-gateway" (by decide)))
        (bootNames (exampleDevice "ztacx-sensor-gateway" (by decide))) [.ztacxInit true] ∧
      ¬ Safe (namingStep (exampleDevice "ztacx" (by decide)))
        (Named (exampleDevice "ztacx" (by decide)))
        (bootNames (exampleDevice "ztacx" (by decide))) (List.replicate 4 (.ztacxInit true)) ∧
      ¬ Safe (namingStep (exampleDevice "ztacx" (by decide)))
        (Named (exampleDevice "ztacx" (by decide)))
        (bootNames (exampleDevice "ztacx" (by decide)))
        [.ztacxInit true, .btReady 0 (some (.ofString "ztacx-sensor-gateways"))] := by
  refine ⟨?_, ?_, ?_⟩ <;> rintro ⟨⟨t, ran⟩, -⟩
  · have faulted : run (namingStep (exampleDevice "ztacx-sensor-gateway" (by decide)))
        (bootNames (exampleDevice "ztacx-sensor-gateway" (by decide))) [.ztacxInit true] =
        none := by decide
    cases faulted.symm.trans ran
  · have faulted : run (namingStep (exampleDevice "ztacx" (by decide)))
        (bootNames (exampleDevice "ztacx" (by decide))) (List.replicate 4 (.ztacxInit true)) =
        none := by decide
    cases faulted.symm.trans ran
  · have faulted : run (namingStep (exampleDevice "ztacx" (by decide)))
        (bootNames (exampleDevice "ztacx" (by decide)))
        [.ztacxInit true, .btReady 0 (some (.ofString "ztacx-sensor-gateways"))] =
        none := by decide
    cases faulted.symm.trans ran

end Ztacx.DeviceName
