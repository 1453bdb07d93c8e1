import Ztacx.KeypadEdges

/-!
# The Bluetooth keypad

The loop of `samples/bt_keypad/bt_keypad.c`, which turns each event of the keypad into a
HID report for the host, between the scans of the keypad on one side and the Bluetooth
link on the other.

A report that is sent is that of an edge the keypad detected, in the order of the edges,
and no edge is reported twice; this holds however scans, connections and subscriptions
interleave (`sent_sublist`).  Where each event finds the loop waiting and the host
listening, all edges are reported.  Even then the host is not told everything: a report
holds one key code, so a key that is still down disappears from it when another key moves.
The host shows the keys that are down if and only if no key is down but the one whose press
was the last edge (`showsKeys_iff`).
-/

namespace Ztacx.BtKeypad

open CModel

/-! ## The code -/

/-- `enum hid_kbd_code`, as far as `kp_map` uses it. -/
def HID_KEY_A : UInt8 := 4

def HID_KEY_D : UInt8 := 7

def HID_KEY_P : UInt8 := 19

def HID_KEY_S : UInt8 := 22

def HID_KEY_W : UInt8 := 26

def HID_KEY_ESC : UInt8 := 41

def HID_KEY_BACKSPACE : UInt8 := 42

def HID_KEY_SPACE : UInt8 := 44

/-- `kp_map`, the key codes by pin. -/
def kpMap : Vector UInt8 8 :=
  #v[HID_KEY_S, HID_KEY_P, HID_KEY_D, HID_KEY_A, HID_KEY_W, HID_KEY_ESC, HID_KEY_BACKSPACE,
    HID_KEY_SPACE]

/-- The loop over the bits of an event: the last key wins. -/
def keyCode (event : UInt32) : UInt8 :=
  (List.finRange 8).foldl
    (fun code (i : Fin 8) => if event &&& (1 <<< UInt32.ofNat i) ≠ 0 then kpMap[i] else code) 0

/-- The report for an event, if it names a key and a direction. -/
def hidReport (event : UInt32) : Option (List UInt8) :=
  if event = 0 then none
  else if event &&& (KP_EVENT_PRESS ||| KP_EVENT_RELEASE) = 0 then none
  else if event &&& 0xFF = 0 then none
  else some [0, 0, if event &&& KP_EVENT_PRESS ≠ 0 then keyCode event else 0, 0, 0, 0, 0, 0]

def BT_GATT_CCC_NOTIFY : BitVec 16 := 1

/-- The keypad with the event that the loop waits for, the value of
`bt_peripheral_connected`, the flag of the subscription and the reports sent. -/
structure State where
  kp : KpDelivery
  connected : Bool
  notifySubscribed : Bool
  sent : List (List UInt8)

/-- A step of the keypad or of the loop, a link that comes up or goes down, or a write to
the CCC descriptor of the report. -/
inductive Event
  | kp (e : KpEvent)
  | connection (up : Bool)
  | inputCccChanged (value : BitVec 16)

/-- The body of the loop, for the mask that the wait returned. -/
def State.loopBody (s : State) (event : UInt32) : List (List UInt8) :=
  match hidReport event with
  | none => []
  | some report => if s.connected ∧ s.notifySubscribed then [report] else []

/-- The mask with which a wait returns in a step of the keypad or of the loop. -/
def returned (kp : KpDelivery) : KpEvent → List UInt32
  | .resume => kp.woken.toList
  | .scan _ _ | .post | .wait | .timeout => []

/-- A wait that has returned is followed by the body of the loop. -/
def State.sends (s : State) (e : KpEvent) : List (List UInt8) :=
  (returned s.kp e).flatMap s.loopBody

def step (s : State) : Event → Option State
  | .kp e => (kpStep s.kp e).map fun kp => { s with kp := kp, sent := s.sent ++ s.sends e }
  | .connection up => some { s with connected := up }
  | .inputCccChanged value => some { s with notifySubscribed := value == BT_GATT_CCC_NOTIFY }

/-- Nothing has happened yet. -/
def boot (pins : ByteVariable) : State := ⟨.boot pins, false, false, []⟩

/-! ## Reports -/

/-- The report of an edge. -/
def edgeReport (e : KeyEdge) : List UInt8 :=
  [0, 0, if e.press then kpMap[e.bit] else 0, 0, 0, 0, 0, 0]

/-- The host takes a key to be down: its code is in one of the six fields for keys. -/
def Shows (report : List UInt8) (bit : Fin 8) : Prop := kpMap[bit] ∈ report.drop 2

instance decidableShows (report : List UInt8) (bit : Fin 8) : Decidable (Shows report bit) :=
  inferInstanceAs (Decidable (_ ∈ _))

/-- The last report, or no key before the first. -/
def State.hostReport (s : State) : List UInt8 := s.sent.getLast?.getD (List.replicate 8 0)

theorem hidReport_event (e : KeyEdge) : hidReport e.event = some (edgeReport e) := by
  have all : ∀ (bit : Fin 8) (press : Bool),
      hidReport (KeyEdge.mk bit press).event = some (edgeReport ⟨bit, press⟩) := by decide
  exact all e.bit e.press

theorem filterMap_hidReport (edges : List KeyEdge) :
    (edges.map KeyEdge.event).filterMap hidReport = edges.map edgeReport := by
  have same : hidReport ∘ KeyEdge.event = some ∘ edgeReport := funext hidReport_event
  rw [List.filterMap_map, same, List.filterMap_eq_map]

/-- The codes of the keys differ, and none of them is 0. -/
theorem shows_edgeReport (e : KeyEdge) (bit : Fin 8) :
    Shows (edgeReport e) bit ↔ e = ⟨bit, true⟩ := by
  have all : ∀ (key bit : Fin 8) (press : Bool),
      Shows (edgeReport ⟨key, press⟩) bit ↔ KeyEdge.mk key press = ⟨bit, true⟩ := by decide
  exact all e.bit bit e.press

theorem not_shows_idle (bit : Fin 8) : ¬ Shows (List.replicate 8 0) bit := by
  revert bit
  decide

/-! ## Masks -/

/-- The masks that have got to the loop, or are on their way. -/
def masks (kp : KpDelivery) : List UInt32 :=
  kp.reports ++ kp.woken.toList ++ kp.posts.map KeyEdge.event

/-- The edges that a step detects. -/
def detected (kp : KpDelivery) : KpEvent → List KeyEdge
  | .scan rc kpNew => (kpScan kp.pins rc kpNew).2
  | .post | .wait | .timeout | .resume => []

section Masks

variable {kp kp' : KpDelivery} {e : KpEvent}

theorem edges_kpStep (taken : kpStep kp e = some kp') : kp'.edges = kp.edges ++ detected kp e := by
  cases e with
  | scan rc kpNew =>
      obtain ⟨-, rfl⟩ := kpStep_scan taken
      rfl
  | post =>
      obtain ⟨edge, rest, -, rfl⟩ := kpStep_post taken
      rw [detected, List.append_nil, KpDelivery.postOne]
      split <;> rfl
  | wait =>
      obtain ⟨-, rfl⟩ := kpStep_wait taken
      exact (List.append_nil _).symm
  | timeout =>
      obtain ⟨-, rfl⟩ := kpStep_timeout taken
      exact (List.append_nil _).symm
  | resume =>
      obtain ⟨mask, -, rfl⟩ := kpStep_resume taken
      exact (List.append_nil _).symm

theorem reports_kpStep (taken : kpStep kp e = some kp') :
    kp'.reports = kp.reports ++ returned kp e := by
  cases e with
  | scan rc kpNew =>
      obtain ⟨-, rfl⟩ := kpStep_scan taken
      exact (List.append_nil _).symm
  | post =>
      obtain ⟨edge, rest, -, rfl⟩ := kpStep_post taken
      rw [returned, List.append_nil, KpDelivery.postOne]
      split <;> rfl
  | wait =>
      obtain ⟨-, rfl⟩ := kpStep_wait taken
      exact (List.append_nil _).symm
  | timeout =>
      obtain ⟨-, rfl⟩ := kpStep_timeout taken
      exact (List.append_nil _).symm
  | resume =>
      obtain ⟨mask, woken, rfl⟩ := kpStep_resume taken
      rw [returned, woken]
      rfl

/-- A post that finds nobody waiting drops its mask; apart from that, a step only adds the
edges it detects. -/
theorem masks_kpStep (inv : DeliveryInv kp) (taken : kpStep kp e = some kp') :
    (masks kp').Sublist (masks kp ++ (detected kp e).map KeyEdge.event) ∧
      (PostFindsWaiter kp e → masks kp' = masks kp ++ (detected kp e).map KeyEdge.event) := by
  cases e with
  | scan rc kpNew =>
      obtain ⟨idle, rfl⟩ := kpStep_scan taken
      have same : masks kp = kp.reports ++ kp.woken.toList := by
        rw [masks, idle, List.map_nil, List.append_nil]
      rw [same]
      exact ⟨List.Sublist.refl _, fun _ => rfl⟩
  | post =>
      obtain ⟨edge, rest, posts, rfl⟩ := kpStep_post taken
      have before : masks kp = kp.reports ++ kp.woken.toList ++
          edge.event :: rest.map KeyEdge.event := by
        rw [masks, posts, List.map_cons]
      rw [detected, List.map_nil, List.append_nil, before]
      by_cases waiting : kp.Waiting
      · have asleep : kp.woken = none := by
          obtain ⟨event, mask, valEvent, waiter⟩ := waiting
          exact (inv.waits event mask valEvent waiter).2
        have same : masks (kp.postOne edge rest) = kp.reports ++ kp.woken.toList ++
            edge.event :: rest.map KeyEdge.event := by
          rw [postOne_of_waiting inv waiting, masks, asleep]
          simp
        rw [same]
        exact ⟨List.Sublist.refl _, fun _ => rfl⟩
      · refine ⟨?_, fun found => absurd found waiting⟩
        obtain ⟨valEvent, posted, -⟩ := postOne_of_not_waiting edge rest waiting
        rw [posted]
        exact List.Sublist.append_left (List.sublist_cons_self _ _) _
  | wait =>
      obtain ⟨-, rfl⟩ := kpStep_wait taken
      rw [detected, List.map_nil, List.append_nil]
      exact ⟨List.Sublist.refl _, fun _ => rfl⟩
  | timeout =>
      obtain ⟨-, rfl⟩ := kpStep_timeout taken
      rw [detected, List.map_nil, List.append_nil]
      exact ⟨List.Sublist.refl _, fun _ => rfl⟩
  | resume =>
      obtain ⟨mask, woken, rfl⟩ := kpStep_resume taken
      have same : masks { kp with woken := none, reports := kp.reports ++ [mask] } = masks kp := by
        simp [masks, woken]
      rw [same, detected, List.map_nil, List.append_nil]
      exact ⟨List.Sublist.refl _, fun _ => rfl⟩

end Masks

/-! ## What is sent -/

section Sent

variable {s t : State} {e : Event}

/-- What a step can do. -/
theorem step_kp {e : KpEvent} (taken : step s (.kp e) = some t) :
    ∃ kp, kpStep s.kp e = some kp ∧ t = { s with kp := kp, sent := s.sent ++ s.sends e } := by
  obtain ⟨kp, kpTaken, rfl⟩ := Option.map_eq_some_iff.mp taken
  exact ⟨kp, kpTaken, rfl⟩

theorem loopBody_sublist (s : State) (event : UInt32) :
    (s.loopBody event).Sublist (hidReport event).toList := by
  unfold State.loopBody
  cases hidReport event with
  | none => exact List.nil_sublist _
  | some report =>
      dsimp only
      split
      · exact List.Sublist.refl _
      · exact List.nil_sublist _

theorem loopBody_of_listening (listening : s.connected ∧ s.notifySubscribed) (event : UInt32) :
    s.loopBody event = (hidReport event).toList := by
  unfold State.loopBody
  cases hidReport event with
  | none => rfl
  | some report => exact if_pos listening

theorem sends_sublist (s : State) (e : KpEvent) :
    (s.sends e).Sublist ((returned s.kp e).filterMap hidReport) := by
  rw [State.sends, List.filterMap_eq_flatMap_toList]
  induction returned s.kp e with
  | nil => exact List.nil_sublist _
  | cons mask rest ih =>
      rw [List.flatMap_cons, List.flatMap_cons]
      exact (loopBody_sublist s mask).append ih

theorem sends_of_listening (listening : s.connected ∧ s.notifySubscribed) (e : KpEvent) :
    s.sends e = (returned s.kp e).filterMap hidReport := by
  rw [State.sends, List.filterMap_eq_flatMap_toList]
  exact List.flatMap_congr fun mask _ => loopBody_of_listening listening mask

/-- **Every report has its edge**: the masks are those of edges, in order, and so are the
reports. -/
structure InOrder (s : State) : Prop where
  delivery : DeliveryInv s.kp
  masks : (masks s.kp).Sublist (s.kp.edges.map KeyEdge.event)
  sent : s.sent.Sublist (s.kp.reports.filterMap hidReport)

theorem InOrder.step (inv : InOrder s) (taken : step s e = some t) : InOrder t := by
  cases e with
  | connection up =>
      cases taken
      exact ⟨inv.delivery, inv.masks, inv.sent⟩
  | inputCccChanged value =>
      cases taken
      exact ⟨inv.delivery, inv.masks, inv.sent⟩
  | kp e =>
      obtain ⟨kp, kpTaken, rfl⟩ := step_kp taken
      refine ⟨inv.delivery.kpStep kpTaken, ?_, ?_⟩
      · rw [edges_kpStep kpTaken, List.map_append]
        exact (masks_kpStep inv.delivery kpTaken).1.trans (inv.masks.append (List.Sublist.refl _))
      · rw [reports_kpStep kpTaken, List.filterMap_append]
        exact inv.sent.append (sends_sublist s e)

theorem inOrder_boot (pins : ByteVariable) : InOrder (boot pins) where
  delivery := deliveryInv_boot pins
  masks := List.Sublist.refl _
  sent := List.Sublist.refl _

/-- **No report is made up**: the reports sent are reports of edges that the keypad detected,
in their order and each at most once. -/
theorem sent_sublist {pins : ByteVariable} {es : List Event}
    (ran : run step (boot pins) es = some t) :
    t.sent.Sublist (t.kp.edges.map edgeReport) := by
  have inv : InOrder t := run_invariant_of_step InOrder.step (inOrder_boot pins) ran
  have arrived : t.kp.reports.Sublist (t.kp.edges.map KeyEdge.event) := by
    refine List.Sublist.trans ?_ inv.masks
    rw [masks, List.append_assoc]
    exact List.sublist_append_left _ _
  rw [← filterMap_hidReport]
  exact inv.sent.trans (arrived.filterMap hidReport)

/-! ## What the host shows -/

/-- An event finds the loop waiting, and the host is listening when the loop gets to it. -/
def Heard (s : State) : Event → Prop
  | .kp .resume => s.connected ∧ s.notifySubscribed
  | .kp e => PostFindsWaiter s.kp e
  | _ => True

instance decidableWaiting (kp : KpDelivery) : Decidable kp.Waiting :=
  decidable_of_iff ((kp.valEvent.bind KEvent.waiter).isSome = true) (by
    rw [Option.isSome_iff_exists]
    simp only [Option.bind_eq_some_iff, KpDelivery.Waiting]
    exact exists_comm.trans (by simp only [exists_and_left]))

instance decidableHeard (s : State) : (e : Event) → Decidable (Heard s e)
  | .kp .post => inferInstanceAs (Decidable s.kp.Waiting)
  | .kp .resume => inferInstanceAs (Decidable (_ ∧ _))
  | .kp (.scan _ _) | .kp .wait | .kp .timeout => isTrue trivial
  | .connection _ | .inputCccChanged _ => isTrue trivial

/-- The keypad has detected the edges up to its pins, and they are all on their way or
reported. -/
structure Complete (s : State) : Prop where
  delivery : DeliveryInv s.kp
  pins : EdgeInv ⟨s.kp.pins, s.kp.edges.map KeyEdge.event⟩
  masks : masks s.kp = s.kp.edges.map KeyEdge.event
  sent : s.sent = s.kp.reports.filterMap hidReport

theorem pins_kpStep {kp kp' : KpDelivery} {e : KpEvent}
    (pins : EdgeInv ⟨kp.pins, kp.edges.map KeyEdge.event⟩) (taken : kpStep kp e = some kp') :
    EdgeInv ⟨kp'.pins, kp'.edges.map KeyEdge.event⟩ := by
  cases e with
  | scan rc kpNew =>
      obtain ⟨-, rfl⟩ := kpStep_scan taken
      have scanned := pins.scan ⟨rc, kpNew⟩
      rw [KpHistory.scan, ← List.map_append] at scanned
      exact scanned
  | post =>
      obtain ⟨edge, rest, -, rfl⟩ := kpStep_post taken
      rw [KpDelivery.postOne]
      split <;> exact pins
  | wait =>
      obtain ⟨-, rfl⟩ := kpStep_wait taken
      exact pins
  | timeout =>
      obtain ⟨-, rfl⟩ := kpStep_timeout taken
      exact pins
  | resume =>
      obtain ⟨mask, -, rfl⟩ := kpStep_resume taken
      exact pins

theorem Complete.step (inv : Complete s) (heard : Heard s e) (taken : step s e = some t) :
    Complete t := by
  cases e with
  | connection up =>
      cases taken
      exact ⟨inv.delivery, inv.pins, inv.masks, inv.sent⟩
  | inputCccChanged value =>
      cases taken
      exact ⟨inv.delivery, inv.pins, inv.masks, inv.sent⟩
  | kp e =>
      obtain ⟨kp, kpTaken, rfl⟩ := step_kp taken
      have found : PostFindsWaiter s.kp e := by
        cases e with
        | resume => trivial
        | _ => exact heard
      have all : s.sends e = (returned s.kp e).filterMap hidReport := by
        cases e with
        | resume => exact sends_of_listening heard .resume
        | _ => rfl
      refine ⟨inv.delivery.kpStep kpTaken, pins_kpStep inv.pins kpTaken, ?_, ?_⟩
      · rw [(masks_kpStep inv.delivery kpTaken).2 found, inv.masks, edges_kpStep kpTaken,
          List.map_append]
      · rw [reports_kpStep kpTaken, List.filterMap_append, inv.sent, all]

theorem complete_boot {pins : ByteVariable} (released : pins.get = 0xFF) :
    Complete (boot pins) where
  delivery := deliveryInv_boot pins
  pins := edgeInv_start released
  masks := rfl
  sent := rfl

/-- A key that moved last is as it was left. -/
theorem pressed_of_last {kp : KpDelivery} {e : KeyEdge}
    (pins : EdgeInv ⟨kp.pins, kp.edges.map KeyEdge.event⟩) (last : kp.edges.getLast? = some e) :
    pressed kp.pins.get e.bit = e.press := by
  obtain ⟨edges, same⟩ := List.getLast?_eq_some_iff.mp last
  rw [pins.state e.bit, same, List.map_append, List.filterMap_append, List.map_singleton]
  have said : [e.event].filterMap (direction e.bit) = [e.press] := by
    rw [List.filterMap_cons, direction_event, if_pos rfl]
    rfl
  rw [said, List.getLast?_concat]
  rfl

/-- **When the host shows the keys that are down**: no key is down but the one whose press was
the last edge.  All edges have been reported. -/
theorem showsKeys_iff {pins : ByteVariable} {es : List Event} (released : pins.get = 0xFF)
    (ran : run step (boot pins) es = some t) (heard : StepsMeet step Heard (boot pins) es)
    (settled : t.kp.Settled) :
    t.sent = t.kp.edges.map edgeReport ∧
      ((∀ bit, Shows t.hostReport bit ↔ pressed t.kp.pins.get bit = true) ↔
        ∀ bit, pressed t.kp.pins.get bit = true → t.kp.edges.getLast? = some ⟨bit, true⟩) := by
  have inv : Complete t := run_invariant Complete.step (complete_boot released) heard ran
  have sent : t.sent = t.kp.edges.map edgeReport := by
    obtain ⟨noPosts, event, mask, valEvent, waiter⟩ := settled
    have asleep := (inv.delivery.waits event mask valEvent waiter).2
    have arrived := inv.masks
    rw [masks, noPosts, asleep, List.map_nil, Option.toList_none, List.append_nil,
      List.append_nil] at arrived
    rw [inv.sent, arrived, filterMap_hidReport]
  refine ⟨sent, ?_⟩
  rw [State.hostReport, sent, List.getLast?_map]
  cases last : t.kp.edges.getLast? with
  | none =>
      have up : ∀ bit, pressed t.kp.pins.get bit = false := by
        intro bit
        rw [inv.pins.state bit, List.getLast?_eq_none_iff.mp last]
        rfl
      refine iff_of_true (fun bit => ?_) fun bit down => absurd down ?_
      · exact iff_of_false (not_shows_idle bit) (by rw [up bit]; exact Bool.false_ne_true)
      · rw [up bit]
        exact Bool.false_ne_true
  | some e =>
      have state := pressed_of_last inv.pins last
      rw [Option.map_some, Option.getD_some]
      constructor
      · intro right bit down
        rw [(shows_edgeReport e bit).mp ((right bit).mpr down)]
      · intro only bit
        rw [shows_edgeReport]
        constructor
        · rintro rfl
          exact state
        · exact fun down => Option.some.inj (only bit down)

end Sent

/-- A host that listens, and a loop that waits. -/
def listening : List Event := [.connection true, .inputCccChanged 1, .kp .wait]

/-- A scan that finds one edge, which the loop handles. -/
def scanned (kpNew : UInt8) : List Event :=
  [.kp (.scan 0 kpNew), .kp .post, .kp .resume, .kp .wait]

/-- The host listens when the second of two keys is pressed. -/
def lateHost : List Event := .kp .wait :: scanned 0xFE ++ listening.take 2 ++ scanned 0xFC

theorem lateHost_sublist : ∃ t, run step (boot releasedPins) lateHost = some t ∧
    [edgeReport ⟨1, true⟩].Sublist ([⟨0, true⟩, ⟨1, true⟩].map edgeReport) := by
  have reached : ∃ t, run step (boot releasedPins) lateHost = some t ∧
      t.sent = [edgeReport ⟨1, true⟩] ∧ t.kp.edges = [⟨0, true⟩, ⟨1, true⟩] := ⟨_, rfl, rfl, rfl⟩
  obtain ⟨t, ran, sent, edges⟩ := reached
  have all := sent_sublist ran
  rw [sent, edges] at all
  exact ⟨t, ran, all⟩

/-- Key 1 is pressed and released while key 0 is down. -/
def heldKey : List Event := listening ++ scanned 0xFE ++ scanned 0xFC ++ scanned 0xFE

/-- Key 0 is still down, and the host does not know. -/
theorem heldKey_not_shown : ∃ t, run step (boot releasedPins) heldKey = some t ∧
    ¬ ∀ bit, Shows t.hostReport bit ↔ pressed t.kp.pins.get bit = true := by
  have reached : ∃ t, run step (boot releasedPins) heldKey = some t ∧ t.kp.Settled ∧
      pressed t.kp.pins.get 0 = true ∧ t.kp.edges.getLast? = some ⟨1, false⟩ :=
    ⟨_, rfl, ⟨rfl, _, _, rfl, rfl⟩, rfl, rfl⟩
  obtain ⟨t, ran, settled, down, last⟩ := reached
  refine ⟨t, ran, fun right => ?_⟩
  have only := (showsKeys_iff rfl ran (by decide) settled).2.mp right 0 down
  rw [last] at only
  exact absurd only nofun

end Ztacx.BtKeypad
