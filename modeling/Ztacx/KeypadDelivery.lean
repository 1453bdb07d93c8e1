import Mathlib.Data.List.Perm.Basic
import Ztacx.CModel.Run
import Ztacx.Keypad

/-!
# Delivery of key events

A keypad and one consumer: the scans of `kp_scan`, the single posts within a
scan, and a thread that calls `ztacx_variable_value_wait_event` with a full mask
over and over.  Between any two posts of a scan the consumer may run, be woken
or not get to run at all, so each is a step of its own (`KpEvent`).

The state keeps a history the code does not have: the edges the scans detected
(`edges`), the masks the waits returned (`reports`) and the posts that woke
nobody (`lost`).  `DeliveryInv.conserved` is the balance between them, and it
holds in every reachable state: an edge is reported, on its way, still to be
posted, or lost.

Since a wait clears the event before it looks, a post that finds no thread
waiting is lost for good.  So a run that ends with the consumer waiting and no
post outstanding has reported each edge exactly once if and only if every post
found the consumer waiting (`delivered_iff_postsFindWaiter`).
-/

namespace Ztacx

open CModel

/-- The mask of the consumer. -/
def fullMask : UInt32 := -1

structure KpDelivery where
  pins : ByteVariable
  /-- The edges that the scan in progress has not posted yet. -/
  posts : List KeyEdge
  /-- `value.val_event` of the keypad's event variable. -/
  valEvent : Option KEvent
  /-- The consumer has been woken and will return with this mask. -/
  woken : Option UInt32
  edges : List KeyEdge
  reports : List UInt32
  lost : List KeyEdge

/-- A step of the keypad or of the consumer. -/
inductive KpEvent
  | scan (rc : ℤ) (kpNew : UInt8)
  | post
  | wait
  | timeout
  | resume

namespace KpDelivery

/-- The keypad and the consumer before either has run. -/
def boot (pins : ByteVariable) : KpDelivery where
  pins := pins
  posts := []
  valEvent := some ⟨0, none⟩
  woken := none
  edges := []
  reports := []
  lost := []

/-- The consumer is blocked in its wait. -/
def Waiting (s : KpDelivery) : Prop := ∃ e mask, s.valEvent = some e ∧ e.waiter = some mask

/-- One post: whoever waits is woken, or nobody is. -/
def postOne (s : KpDelivery) (edge : KeyEdge) (rest : List KeyEdge) : KpDelivery :=
  let s := { s with posts := rest }
  match (ztacxVariableValueSetEvent s.valEvent edge.event).1 with
  | some (e, some mask) => { s with valEvent := some e, woken := some mask }
  | some (e, none) => { s with valEvent := some e, lost := s.lost ++ [edge] }
  | none => { s with lost := s.lost ++ [edge] }

end KpDelivery

/-- A scan starts when the scan before has finished, and the consumer calls again
when its wait has returned. -/
def kpStep (s : KpDelivery) : KpEvent → Option KpDelivery
  | .scan rc kpNew =>
    if s.posts = [] then
      let scanned := kpScan s.pins rc kpNew
      some { s with pins := scanned.1, posts := scanned.2, edges := s.edges ++ scanned.2 }
    else none
  | .post =>
    match s.posts with
    | [] => none
    | edge :: rest => some (s.postOne edge rest)
  | .wait =>
    match s.valEvent, s.woken with
    | some ⟨_, none⟩, none => some { s with valEvent := some (kEventWaitReset fullMask) }
    | _, _ => none
  | .timeout =>
    match s.valEvent with
    | some ⟨events, some _⟩ => some { s with valEvent := some ⟨events, none⟩ }
    | _ => none
  | .resume =>
    match s.woken with
    | some mask => some { s with woken := none, reports := s.reports ++ [mask] }
    | none => none

/-- A post finds the consumer waiting; the other steps are free. -/
def PostFindsWaiter (s : KpDelivery) : KpEvent → Prop
  | .post => s.Waiting
  | _ => True

/-- No post is outstanding and the consumer waits for the next event. -/
def KpDelivery.Settled (s : KpDelivery) : Prop := s.posts = [] ∧ s.Waiting

/-! ## The balance -/

/-- **The invariant of delivery.** -/
structure DeliveryInv (s : KpDelivery) : Prop where
  conserved : (s.edges.map KeyEdge.event).Perm
    (s.reports ++ s.woken.toList ++ s.posts.map KeyEdge.event ++ s.lost.map KeyEdge.event)
  waits : ∀ e mask, s.valEvent = some e → e.waiter = some mask →
    mask = fullMask ∧ s.woken = none

section Steps

variable {s t : KpDelivery} {edge : KeyEdge} {rest : List KeyEdge}

/-- What a step can do: a scan starts when the posts of the one before are done. -/
theorem kpStep_scan {rc : ℤ} {kpNew : UInt8} (taken : kpStep s (.scan rc kpNew) = some t) :
    s.posts = [] ∧ t = { s with
      pins := (kpScan s.pins rc kpNew).1
      posts := (kpScan s.pins rc kpNew).2
      edges := s.edges ++ (kpScan s.pins rc kpNew).2 } := by
  obtain ⟨idle, after⟩ := Option.ite_none_right_eq_some.mp taken
  cases after
  exact ⟨idle, rfl⟩

theorem kpStep_post (taken : kpStep s .post = some t) :
    ∃ edge rest, s.posts = edge :: rest ∧ t = s.postOne edge rest := by
  cases hposts : s.posts with
  | nil => simp [kpStep, hposts] at taken
  | cons edge rest =>
      simp only [kpStep, hposts, Option.some.injEq] at taken
      exact ⟨edge, rest, rfl, taken.symm⟩

theorem kpStep_wait (taken : kpStep s .wait = some t) :
    s.woken = none ∧ t = { s with valEvent := some (kEventWaitReset fullMask) } := by
  unfold kpStep at taken
  dsimp only at taken
  split at taken
  · rename_i events hevent asleep
    cases taken
    exact ⟨asleep, rfl⟩
  · cases taken

theorem kpStep_timeout (taken : kpStep s .timeout = some t) :
    ∃ events, t = { s with valEvent := some ⟨events, none⟩ } := by
  unfold kpStep at taken
  dsimp only at taken
  split at taken
  · cases taken
    exact ⟨_, rfl⟩
  · cases taken

theorem kpStep_resume (taken : kpStep s .resume = some t) :
    ∃ mask, s.woken = some mask ∧
      t = { s with woken := none, reports := s.reports ++ [mask] } := by
  unfold kpStep at taken
  dsimp only at taken
  split at taken
  · rename_i mask hwoken
    cases taken
    exact ⟨mask, hwoken, rfl⟩
  · cases taken

/-- A post that finds the consumer waiting wakes it with the whole mask. -/
theorem postOne_of_waiting (inv : DeliveryInv s) (waiting : s.Waiting) :
    s.postOne edge rest = { s with
      posts := rest, valEvent := some ⟨edge.event, none⟩, woken := some edge.event } := by
  obtain ⟨⟨events, waiter⟩, mask, hevent, hwaiter⟩ := waiting
  obtain ⟨rfl, -⟩ := inv.waits _ _ hevent hwaiter
  have full : edge.event &&& fullMask = edge.event := UInt32.and_neg_one
  dsimp only at hwaiter
  subst hwaiter
  unfold KpDelivery.postOne ztacxVariableValueSetEvent kEventSet
  simp only [hevent, full, edge.event_ne_zero, if_false]

/-- A post that finds nobody waiting is lost. -/
theorem postOne_of_not_waiting (edge : KeyEdge) (rest : List KeyEdge) (idle : ¬ s.Waiting) :
    ∃ valEvent, s.postOne edge rest = { s with
        posts := rest, valEvent := valEvent, lost := s.lost ++ [edge] } ∧
      ∀ e mask, valEvent = some e → e.waiter ≠ some mask := by
  cases hevent : s.valEvent with
  | none =>
      refine ⟨none, ?_, fun e mask none => by cases none⟩
      unfold KpDelivery.postOne ztacxVariableValueSetEvent
      simp [hevent]
  | some e =>
      have nobody : e.waiter = none := by
        cases hwaiter : e.waiter with
        | none => rfl
        | some mask => exact absurd ⟨e, mask, hevent, hwaiter⟩ idle
      refine ⟨some { e with events := edge.event }, ?_, ?_⟩
      · unfold KpDelivery.postOne ztacxVariableValueSetEvent kEventSet
        simp only [hevent, nobody]
      · intro e' mask same
        cases same
        show e.waiter ≠ some mask
        rw [nobody]
        intro same
        cases same

theorem deliveryInv_post (inv : DeliveryInv s) (hposts : s.posts = edge :: rest) :
    DeliveryInv (s.postOne edge rest) := by
  have balance := inv.conserved
  rw [hposts, List.map_cons] at balance
  by_cases waiting : s.Waiting
  · rw [postOne_of_waiting inv waiting]
    obtain ⟨e, mask, hevent, hwaiter⟩ := waiting
    obtain ⟨-, asleep⟩ := inv.waits e mask hevent hwaiter
    rw [asleep] at balance
    refine ⟨?_, fun e' mask' same hwaiter' => ?_⟩
    · simpa using balance
    · cases same
      cases hwaiter'
  · obtain ⟨valEvent, posted, nobody⟩ := postOne_of_not_waiting edge rest waiting
    rw [posted]
    refine ⟨?_, fun e mask same hwaiter => absurd hwaiter (nobody e mask same)⟩
    have moved : (edge.event :: (rest.map KeyEdge.event ++ s.lost.map KeyEdge.event)).Perm
        (rest.map KeyEdge.event ++ s.lost.map KeyEdge.event ++ [edge.event]) :=
      (List.perm_append_singleton _ _).symm
    refine balance.trans ?_
    simpa using List.Perm.append_left (s.reports ++ s.woken.toList) moved

/-- **The step lemma.** -/
theorem DeliveryInv.kpStep {e : KpEvent} (inv : DeliveryInv s) (taken : Ztacx.kpStep s e = some t) :
    DeliveryInv t := by
  cases e with
  | scan rc kpNew =>
      obtain ⟨idle, rfl⟩ := kpStep_scan taken
      refine ⟨?_, inv.waits⟩
      have balance := inv.conserved
      rw [idle] at balance
      have grown := balance.append_right ((kpScan s.pins rc kpNew).2.map KeyEdge.event)
      have swap : (s.lost.map KeyEdge.event ++
          (kpScan s.pins rc kpNew).2.map KeyEdge.event).Perm
          ((kpScan s.pins rc kpNew).2.map KeyEdge.event ++ s.lost.map KeyEdge.event) :=
        List.perm_append_comm
      rw [List.map_append]
      refine grown.trans ?_
      simpa using List.Perm.append_left (s.reports ++ s.woken.toList) swap
  | post =>
      obtain ⟨edge, rest, hposts, rfl⟩ := kpStep_post taken
      exact deliveryInv_post inv hposts
  | wait =>
      obtain ⟨asleep, rfl⟩ := kpStep_wait taken
      refine ⟨inv.conserved, fun e mask same hwaiter => ?_⟩
      cases same
      cases hwaiter
      exact ⟨rfl, asleep⟩
  | timeout =>
      obtain ⟨events, rfl⟩ := kpStep_timeout taken
      refine ⟨inv.conserved, fun e mask same hwaiter => ?_⟩
      cases same
      cases hwaiter
  | resume =>
      obtain ⟨mask, hwoken, rfl⟩ := kpStep_resume taken
      have balance := inv.conserved
      rw [hwoken] at balance
      refine ⟨by simpa using balance, fun e mask' same hwaiter => ?_⟩
      exact ⟨(inv.waits e mask' same hwaiter).1, rfl⟩

theorem deliveryInv_boot (pins : ByteVariable) : DeliveryInv (KpDelivery.boot pins) where
  conserved := List.Perm.refl _
  waits := fun e mask same hwaiter => by
    cases same
    cases hwaiter

/-! ## What is lost -/

/-- A step loses an edge exactly when it is a post that finds nobody waiting. -/
theorem kpStep_lost {e : KpEvent} (inv : DeliveryInv s) (taken : kpStep s e = some t) :
    s.lost <+: t.lost ∧ (t.lost = s.lost ↔ PostFindsWaiter s e) := by
  cases e with
  | post =>
      obtain ⟨edge, rest, -, rfl⟩ := kpStep_post taken
      by_cases waiting : s.Waiting
      · rw [postOne_of_waiting inv waiting]
        exact ⟨List.prefix_refl _, iff_of_true rfl waiting⟩
      · obtain ⟨valEvent, posted, -⟩ := postOne_of_not_waiting edge rest waiting
        rw [posted]
        refine ⟨List.prefix_append _ _, iff_of_false ?_ waiting⟩
        simp
  | scan rc kpNew =>
      obtain ⟨-, rfl⟩ := kpStep_scan taken
      exact ⟨List.prefix_refl _, iff_of_true rfl trivial⟩
  | wait =>
      obtain ⟨-, rfl⟩ := kpStep_wait taken
      exact ⟨List.prefix_refl _, iff_of_true rfl trivial⟩
  | timeout =>
      obtain ⟨events, rfl⟩ := kpStep_timeout taken
      exact ⟨List.prefix_refl _, iff_of_true rfl trivial⟩
  | resume =>
      obtain ⟨mask, -, rfl⟩ := kpStep_resume taken
      exact ⟨List.prefix_refl _, iff_of_true rfl trivial⟩

end Steps

/-- A run loses nothing exactly when each of its posts finds the consumer
waiting. -/
theorem run_lost {s t : KpDelivery} {es : List KpEvent} (inv : DeliveryInv s)
    (reached : run kpStep s es = some t) :
    s.lost <+: t.lost ∧ (t.lost = s.lost ↔ StepsMeet kpStep PostFindsWaiter s es) := by
  induction es generalizing s with
  | nil =>
      cases reached
      exact ⟨List.prefix_refl _, iff_of_true rfl trivial⟩
  | cons e es ih =>
      obtain ⟨u, taken, rest⟩ := run_cons_eq_some.mp reached
      obtain ⟨grew, kept⟩ := kpStep_lost inv taken
      obtain ⟨grew', kept'⟩ := ih (inv.kpStep taken) rest
      refine ⟨grew.trans grew', ?_⟩
      constructor
      · intro same
        -- lost edges are never taken back, so none was lost on the way
        have middle : u.lost = s.lost :=
          (grew.eq_of_length_le (by rw [← same]; exact grew'.length_le)).symm
        intro u' taken'
        cases taken.symm.trans taken'
        exact ⟨kept.mp middle, kept'.mp (same.trans middle.symm)⟩
      · intro meets
        obtain ⟨first, later⟩ := meets u taken
        exact (kept'.mpr later).trans (kept.mpr first)

/-- **Each edge is reported by exactly one returned wait if and only if every
post finds the consumer waiting**, in every run that ends with no post
outstanding and the consumer waiting for the next event. -/
theorem delivered_iff_postsFindWaiter {pins : ByteVariable} {es : List KpEvent} {t : KpDelivery}
    (reached : run kpStep (KpDelivery.boot pins) es = some t) (settled : t.Settled) :
    t.reports.Perm (t.edges.map KeyEdge.event) ↔
      StepsMeet kpStep PostFindsWaiter (KpDelivery.boot pins) es := by
  obtain ⟨noPosts, e, mask, hevent, hwaiter⟩ := settled
  have inv : DeliveryInv t :=
    run_invariant_of_step (fun inv taken => inv.kpStep taken) (deliveryInv_boot pins) reached
  obtain ⟨-, asleep⟩ := inv.waits e mask hevent hwaiter
  have balance := inv.conserved
  rw [noPosts, asleep] at balance
  simp only [Option.toList_none, List.map_nil, List.append_nil] at balance
  rw [← (run_lost (deliveryInv_boot pins) reached).2]
  constructor
  · intro delivered
    have lengths := (delivered.trans balance).length_eq
    rw [List.length_append, List.length_map] at lengths
    exact List.length_eq_zero_iff.mp (by omega)
  · intro none
    rw [show t.lost = [] from none, List.map_nil, List.append_nil] at balance
    exact balance.symm

/-! ### One key, and two keys at once -/

/-- The pins of an idle keypad. -/
def idlePins : ByteVariable where
  toVariable :=
    { name := .ofString "kp0_pins", name_lt := by decide, kind := .byte, value := .zero,
      onChange := none }
  kind_eq := rfl

/-- The pins as the keypad starts out. -/
def releasedPins : ByteVariable := idlePins.set 0xFF

/-- Key 0 is pressed while the consumer waits. -/
def oneKey : List KpEvent := [.wait, .scan 0 0xFE, .post, .resume, .wait]

theorem oneKey_delivered : ∃ t, run kpStep (KpDelivery.boot releasedPins) oneKey = some t ∧
    t.reports.Perm (t.edges.map KeyEdge.event) := by
  have reached : ∃ t, run kpStep (KpDelivery.boot releasedPins) oneKey = some t ∧ t.Settled ∧
      t.lost = [] := ⟨_, rfl, ⟨rfl, _, _, rfl, rfl⟩, rfl⟩
  obtain ⟨t, ran, settled, nothing⟩ := reached
  exact ⟨t, ran, (delivered_iff_postsFindWaiter ran settled).mpr
    ((run_lost (deliveryInv_boot releasedPins) ran).2.mp nothing)⟩

/-- Keys 0 and 1 are pressed between two scans.  The consumer is woken by the
first post and has not called again when the second comes. -/
def twoKeys : List KpEvent := [.wait, .scan 0 0xFC, .post, .post, .resume, .wait]

/-- The second key is never reported. -/
theorem twoKeys_not_delivered :
    ∃ t, run kpStep (KpDelivery.boot releasedPins) twoKeys = some t ∧ t.Settled ∧
      t.edges = [⟨0, true⟩, ⟨1, true⟩] ∧ ¬ t.reports.Perm (t.edges.map KeyEdge.event) := by
  have reached : ∃ t, run kpStep (KpDelivery.boot releasedPins) twoKeys = some t ∧ t.Settled ∧
      t.edges = [⟨0, true⟩, ⟨1, true⟩] ∧ t.reports = [0x8000001] :=
    ⟨_, rfl, ⟨rfl, _, _, rfl, rfl⟩, rfl, rfl⟩
  obtain ⟨t, ran, settled, edges, reports⟩ := reached
  refine ⟨t, ran, settled, edges, fun delivered => ?_⟩
  have lengths := delivered.length_eq
  rw [edges, reports] at lengths
  cases lengths

end Ztacx
