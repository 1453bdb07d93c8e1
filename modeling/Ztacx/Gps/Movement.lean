import Mathlib.Data.List.Destutter
import Ztacx.CModel.Run
import Ztacx.Gps.Distance
import Ztacx.Gps.Location

/-!
# Movement

`gps_location_change` of `src/ztacx_gps.c`, which `gps_location_line` calls at its end, and
which calls the application's `on_movement` when the receiver has moved by more than jitter.

What is reported is the route received without the steps that are too small
(`movements_destutter`): a position is compared with the last one reported, so that slow
movement is not lost.  The first position is compared with the origin of the globe.

The size of a step is measured by `distance`, which measures too little.  So jitter is
never reported: two positions on the globe that are reported one after the other are at least
the threshold apart (`movements_apart`).  But a step to the north or the south has no size at
all: a receiver that stays on its meridian is reported once, however far it travels
(`movements_length_le_one`).

What a receiver sends need not be on the globe.  A step off it may have a length that is not a
number, and such a length is not below any threshold.
-/

noncomputable section

namespace Ztacx.Gps

open CModel

/-- In degrees: the latitude and the longitude. -/
abbrev Position := ℚ × ℚ

/-- `distance` between two positions, from the one to the other.  It is not a number where the
root or the arc sine is not defined. -/
def stepLength (q p : Position) : Option ℝ :=
  let a := underRoot q.1 q.2 p.1 p.2
  if 0 ≤ a ∧ a ≤ 1 then some (distance q.1 q.2 p.1 p.2) else none

/-- The comparison `dist < threshold`. -/
def Below (dist : Option ℝ) (threshold : ℝ) : Prop := ∃ d, dist = some d ∧ d < threshold

/-! ## The code -/

/-- The globals and statics of `gps_location_change`. -/
structure Movement where
  movementThreshold : ℝ
  firstlat : ℚ
  firstlon : ℚ
  first : Bool
  lastMove : ℤ
  latwas : ℚ
  lonwas : ℚ

/-- A call of `on_movement`, and when it was made. -/
structure OnMovement where
  now : ℤ
  lat : ℚ
  lon : ℚ
  fromLast : Option ℝ
  fromStart : Option ℝ
  speed : Option ℝ

/-- In km/h.  The duration is in whole seconds. -/
def speedOf (lastMove now : ℤ) (dist : Option ℝ) : Option ℝ :=
  let duration := (now - lastMove).tdiv 1000
  if lastMove = 0 ∨ duration = 0 then some 0 else dist.map fun d => d / duration * 3.6

open Classical in
/-- `gps_location_change`. -/
def gpsLocationChange (m : Movement) (lat lon : ℚ) (now : ℤ) : Movement × Option OnMovement :=
  if lat = m.latwas ∧ lon = m.lonwas then (m, none)
  else
    let dist := stepLength (lat, lon) (m.latwas, m.lonwas)
    if Below dist m.movementThreshold then (m, none)
    else
      let speed := speedOf m.lastMove now dist
      if m.first then
        ({ m with
            firstlat := lat, firstlon := lon, first := false
            latwas := lat, lonwas := lon, lastMove := now },
          some ⟨now, lat, lon, dist, some 0, speed⟩)
      else
        ({ m with latwas := lat, lonwas := lon, lastMove := now },
          some ⟨now, lat, lon, dist, stepLength (lat, lon) (m.firstlat, m.firstlon), speed⟩)

/-! ## The receiver -/

/-- What the receiver sends. -/
inductive GpsSentence
  | location (buf : List UInt8) (now : ℤ)
  | date (buf : List UInt8)

/-- The decoded globals, and what `on_movement` has been called with. -/
structure Receiver where
  fix : GpsFix
  movement : Movement
  movements : List OnMovement

def Receiver.position (s : Receiver) : Position := (s.fix.lat, s.fix.lon)

/-- The last position reported. -/
def Receiver.was (s : Receiver) : Position := (s.movement.latwas, s.movement.lonwas)

def OnMovement.position (r : OnMovement) : Position := (r.lat, r.lon)

/-- The initial values of the globals and statics. -/
def Receiver.boot (movementThreshold : ℝ) : Receiver where
  fix := ⟨0, 0, 0, 0, 0, 0, 0, 0, 10, 0⟩
  movement := ⟨movementThreshold, 0, 0, true, 0, 0, 0⟩
  movements := []

def Receiver.located (s : Receiver) (fix : GpsFix) : Receiver := { s with fix := fix }

/-- `gps_location_change` at the end of `gps_location_line`. -/
def Receiver.change (s : Receiver) (now : ℤ) : Receiver :=
  let (movement, report) := gpsLocationChange s.movement s.fix.lat s.fix.lon now
  { s with movement := movement, movements := s.movements ++ report.toList }

/-- What a sentence makes of the globals, and when it calls `gps_location_change`: one that
is rejected returns before the call. -/
def decode (lib : LibraryChoices) (fix : GpsFix) : GpsSentence → Except Fault (GpsFix × Option ℤ)
  | .location buf now =>
    (gpsLocationLine lib fix buf).map fun r => (r.1, if r.2 = 0 then some now else none)
  | .date buf => (gpsDateLine lib fix buf).map fun r => (r.1, none)

/-- A sentence is processed. -/
def Receiver.step (lib : LibraryChoices) (s : Receiver) (e : GpsSentence) : Option Receiver :=
  match decode lib s.fix e with
  | .error _ => none
  | .ok (fix, none) => some (s.located fix)
  | .ok (fix, some now) => some ((s.located fix).change now)

/-- The positions received. -/
def received (lib : LibraryChoices) : GpsFix → List GpsSentence → List Position
  | _, [] => []
  | fix, e :: es =>
    match decode lib fix e with
    | .error _ => []
    | .ok (fix', none) => received lib fix' es
    | .ok (fix', some _) => (fix'.lat, fix'.lon) :: received lib fix' es

section Change

variable {lib : LibraryChoices} {s s' : Receiver}

/-- A step that is reported. -/
def Moved (threshold : ℝ) (p q : Position) : Prop := q ≠ p ∧ ¬ Below (stepLength q p) threshold

/-- The report of a step, whose predecessor was made at `lastMove`. -/
def Receiver.report (s : Receiver) (now : ℤ) : OnMovement where
  now := now
  lat := s.fix.lat
  lon := s.fix.lon
  fromLast := stepLength s.position s.was
  fromStart :=
    if s.movement.first then some 0
    else stepLength s.position (s.movement.firstlat, s.movement.firstlon)
  speed := speedOf s.movement.lastMove now (stepLength s.position s.was)

/-- The step has been reported. -/
def Receiver.reported (s : Receiver) (now : ℤ) : Receiver where
  fix := s.fix
  movement :=
    { s.movement with
      firstlat := if s.movement.first then s.fix.lat else s.movement.firstlat
      firstlon := if s.movement.first then s.fix.lon else s.movement.firstlon
      first := false
      lastMove := now
      latwas := s.fix.lat
      lonwas := s.fix.lon }
  movements := s.movements ++ [s.report now]

/-- **What a change does**: nothing, or it reports the step. -/
theorem Receiver.change_cases (s : Receiver) (now : ℤ) :
    (¬ Moved s.movement.movementThreshold s.was s.position ∧ s.change now = s) ∨
      (Moved s.movement.movementThreshold s.was s.position ∧ s.change now = s.reported now) := by
  obtain ⟨fix, movement, movements⟩ := s
  unfold Receiver.change gpsLocationChange
  by_cases same : fix.lat = movement.latwas ∧ fix.lon = movement.lonwas
  · left
    refine ⟨fun moved => moved.1 (Prod.ext same.1 same.2), ?_⟩
    simp only [if_pos same, Option.toList_none, List.append_nil]
  · have elsewhere : (fix.lat, fix.lon) ≠ (movement.latwas, movement.lonwas) :=
      fun eq => same (Prod.ext_iff.mp eq)
    by_cases small :
        Below (stepLength (fix.lat, fix.lon) (movement.latwas, movement.lonwas))
          movement.movementThreshold
    · left
      refine ⟨fun moved => moved.2 small, ?_⟩
      simp only [if_neg same, if_pos small, Option.toList_none, List.append_nil]
    · right
      refine ⟨⟨elsewhere, small⟩, ?_⟩
      simp only [if_neg same, if_neg small]
      cases first : movement.first with
      | true => simp [Receiver.reported, Receiver.report, Receiver.position, Receiver.was, first]
      | false => simp [Receiver.reported, Receiver.report, Receiver.position, Receiver.was, first]

/-- The position is accepted, or no position came. -/
theorem Receiver.step_cases {e : GpsSentence} (taken : s.step lib e = some s') :
    ∃ fix, (decode lib s.fix e = .ok (fix, none) ∧ s' = s.located fix) ∨
      ∃ now, decode lib s.fix e = .ok (fix, some now) ∧ s' = (s.located fix).change now := by
  unfold Receiver.step at taken
  cases decoded : decode lib s.fix e with
  | error => simp [decoded] at taken
  | ok result =>
      obtain ⟨fix, _ | now⟩ := result
      · simp only [decoded] at taken
        exact ⟨fix, .inl ⟨rfl, (Option.some.inj taken).symm⟩⟩
      · simp only [decoded] at taken
        exact ⟨fix, .inr ⟨now, rfl, (Option.some.inj taken).symm⟩⟩

end Change

/-! ## The route -/

section Route

open Classical in
/-- The reports of a run from any state: the route received, from the last position reported
on, without the steps that are too small. -/
theorem Receiver.movements_run {lib : LibraryChoices} {s t : Receiver} {es : List GpsSentence}
    (ran : run (Receiver.step lib) s es = some t) :
    ∃ later, t.movements = s.movements ++ later ∧
      s.was :: later.map OnMovement.position =
        (received lib s.fix es).destutter' (Moved s.movement.movementThreshold) s.was := by
  induction es generalizing s with
  | nil =>
      cases ran
      exact ⟨[], (List.append_nil _).symm, rfl⟩
  | cons e es ih =>
      obtain ⟨s', taken, rest⟩ := run_cons_eq_some.mp ran
      obtain ⟨later, reports, route⟩ := ih rest
      obtain ⟨fix, ⟨decoded, rfl⟩ | ⟨now, decoded, rfl⟩⟩ := Receiver.step_cases taken
      · refine ⟨later, reports, ?_⟩
        simp only [received, decoded]
        exact route
      · simp only [received, decoded]
        obtain ⟨small, same⟩ | ⟨moved, changed⟩ := (s.located fix).change_cases now
        · rw [same] at reports route
          refine ⟨later, reports, route.trans ?_⟩
          exact (List.destutter'_cons_neg _ small).symm
        · rw [changed] at reports route
          refine ⟨(s.located fix).report now :: later, ?_, ?_⟩
          · rw [reports, List.append_cons]
            rfl
          · refine (congrArg (s.was :: ·) route).trans ?_
            exact (List.destutter'_cons_pos _ moved).symm

open Classical in
/-- **The route that is reported** is the route received, from the origin of the globe on,
without the steps that are too small. -/
theorem movements_destutter {lib : LibraryChoices} {threshold : ℝ} {s : Receiver}
    {es : List GpsSentence} (ran : run (Receiver.step lib) (.boot threshold) es = some s) :
    (0, 0) :: s.movements.map OnMovement.position =
      (received lib (Receiver.boot threshold).fix es).destutter' (Moved threshold) (0, 0) := by
  obtain ⟨later, reports, route⟩ := Receiver.movements_run ran
  rw [reports]
  exact route

end Route

/-! ## Steps -/

/-- Where the first step starts. -/
def origin : OnMovement := ⟨0, 0, 0, some 0, some 0, some 0⟩

/-- What a report says, after the report of `p`. -/
structure OnMovement.Continues (threshold : ℝ) (p r : OnMovement) : Prop where
  moved : Moved threshold p.position r.position
  fromLast : r.fromLast = stepLength r.position p.position
  speed : r.speed = speedOf p.now r.now r.fromLast

/-- A position on the globe. -/
def Position.At (p : Position) (g : GeoPoint) : Prop := (p.1 : ℝ) = g.lat ∧ (p.2 : ℝ) = g.lon

/-- On the globe every step has a length. -/
theorem stepLength_of_at {p q : Position} {g h : GeoPoint} (gat : p.At g) (hat : q.At h) :
    stepLength q p = some (distance h.lat h.lon g.lat g.lon) := by
  rw [stepLength, gat.1, gat.2, hat.1, hat.2]
  exact if_pos ⟨h.underRoot_nonneg g, (h.underRoot_le_hav g).trans (h.hav_le_one g)⟩

/-- **A step is not jitter**: on the globe it is as long as the threshold. -/
theorem OnMovement.Continues.le_haversine {threshold : ℝ} {p r : OnMovement}
    (continues : p.Continues threshold r) {g h : GeoPoint} (gat : p.position.At g)
    (hat : r.position.At h) : threshold ≤ haversine h g := by
  refine le_trans ?_ (distance_le_haversine h g)
  by_contra small
  exact continues.moved.2 ⟨_, stepLength_of_at gat hat, not_le.mp small⟩

/-- The reports and the state fit together. -/
structure Receiver.Journey (threshold : ℝ) (s : Receiver) : Prop where
  same : s.movement.movementThreshold = threshold
  chain : (origin :: s.movements).IsChain (OnMovement.Continues threshold)
  last : ∀ r ∈ (origin :: s.movements).getLast?, r.position = s.was ∧ r.now = s.movement.lastMove
  first : s.movement.first = s.movements.isEmpty
  start : ∀ f later, s.movements = f :: later →
    f.position = (s.movement.firstlat, s.movement.firstlon) ∧
      ∀ r ∈ s.movements, r.fromStart = stepLength r.position f.position

section Journey

variable {lib : LibraryChoices} {threshold : ℝ} {s s' : Receiver} {e : GpsSentence}

/-- Along a meridian every step has the length 0. -/
theorem stepLength_meridian (lat1 lat2 lon : ℚ) : stepLength (lat1, lon) (lat2, lon) = some 0 := by
  rw [stepLength, underRoot_meridian, if_pos ⟨le_rfl, zero_le_one⟩]
  exact congrArg some (distance_meridian ..)

theorem stepLength_self (p : Position) : stepLength p p = some 0 := stepLength_meridian ..

theorem Receiver.Journey.located (journey : s.Journey threshold) (fix : GpsFix) :
    (s.located fix).Journey threshold :=
  ⟨journey.same, journey.chain, journey.last, journey.first, journey.start⟩

theorem Receiver.Journey.reported (journey : s.Journey threshold)
    (moved : Moved s.movement.movementThreshold s.was s.position) (now : ℤ) :
    (s.reported now).Journey threshold := by
  have split : origin :: (s.reported now).movements = origin :: s.movements ++ [s.report now] := rfl
  refine ⟨journey.same, ?_, ?_, ?_, ?_⟩
  · rw [split]
    refine List.isChain_append.mpr ⟨journey.chain, List.isChain_singleton _, ?_⟩
    intro p latest r mem
    cases Option.mem_some.mp mem
    obtain ⟨place, time⟩ := journey.last p latest
    refine ⟨?_, ?_, ?_⟩
    · rw [place, ← journey.same]
      exact moved
    · rw [place]
      rfl
    · rw [time]
      rfl
  · intro r latest
    rw [split, List.getLast?_concat] at latest
    cases Option.mem_some.mp latest
    exact ⟨rfl, rfl⟩
  · exact (List.isEmpty_eq_false_iff.mpr (List.append_ne_nil_of_right_ne_nil _
      (List.cons_ne_nil _ _))).symm
  · intro f later reports
    obtain ⟨none, only⟩ | ⟨before, some, -⟩ := List.append_eq_cons_iff.mp reports
    · have first := journey.first.trans (congrArg List.isEmpty none)
      obtain ⟨rfl, -⟩ := List.cons.inj only
      refine ⟨by simp only [Receiver.reported, first]; rfl, fun r mem => ?_⟩
      obtain old | new := List.mem_append.mp mem
      · exact absurd (none ▸ old) List.not_mem_nil
      · rw [List.mem_singleton.mp new, stepLength_self]
        simp only [Receiver.report, first]
        rfl
    · have first := journey.first.trans (congrArg List.isEmpty some)
      obtain ⟨place, fromStart⟩ := journey.start f before some
      refine ⟨by simp only [Receiver.reported, first]; exact place, fun r mem => ?_⟩
      obtain old | new := List.mem_append.mp mem
      · exact fromStart r old
      · rw [List.mem_singleton.mp new, place]
        simp only [Receiver.report, first]
        rfl

theorem Receiver.journey_boot (threshold : ℝ) : (Receiver.boot threshold).Journey threshold where
  same := rfl
  chain := List.isChain_singleton _
  last := by
    intro r latest
    cases Option.mem_some.mp latest
    exact ⟨rfl, rfl⟩
  first := rfl
  start := nofun

theorem Receiver.Journey.step (journey : s.Journey threshold)
    (taken : s.step lib e = some s') : s'.Journey threshold := by
  obtain ⟨fix, ⟨-, rfl⟩ | ⟨now, -, rfl⟩⟩ := Receiver.step_cases taken
  · exact journey.located fix
  · obtain ⟨-, same⟩ | ⟨moved, changed⟩ := (s.located fix).change_cases now
    · rw [same]
      exact journey.located fix
    · rw [changed]
      exact (journey.located fix).reported moved now

/-- **What the reports say**, in every run: each is a step from the one before, and the
distance from the start is the distance from the first of them. -/
theorem movements_apart {es : List GpsSentence}
    (ran : run (Receiver.step lib) (.boot threshold) es = some s) :
    (origin :: s.movements).IsChain (fun p r => p.Continues threshold r ∧
        ∀ g h, p.position.At g → r.position.At h → threshold ≤ haversine h g) ∧
      ∀ f later, s.movements = f :: later →
        ∀ r ∈ s.movements, r.fromStart = stepLength r.position f.position := by
  have journey : s.Journey threshold :=
    run_invariant_of_step Receiver.Journey.step (Receiver.journey_boot threshold) ran
  refine ⟨journey.chain.imp fun p r continues => ⟨continues, fun g h gat hat => ?_⟩, ?_⟩
  · exact continues.le_haversine gat hat
  · exact fun f later reports => (journey.start f later reports).2

end Journey

/-! ## Along a meridian -/

/-- A position that is sent is on this meridian. -/
def OnMeridian (lon : ℚ) : GpsSentence → Prop
  | .location buf _ => ∃ position t behind,
      buf = gllBytes position t ++ 0 :: behind ∧ ∀ p ∈ position, p.longitude = lon
  | .date _ => True

section Meridian

variable {lib : LibraryChoices} {threshold : ℝ} {lon : ℚ} {s s' : Receiver} {e : GpsSentence}

/-- A date is not a position. -/
theorem gpsDateLine_position {fix fix' : GpsFix} {buf : List UInt8} {rc : ℤ}
    (decoded : gpsDateLine lib fix buf = .ok (fix', rc)) :
    fix'.lat = fix.lat ∧ fix'.lon = fix.lon := by
  have keeps : ∀ fieldpos field f f', f.lat = fix.lat ∧ f.lon = fix.lon →
      gpsDateField lib fieldpos field f = .ok (some f') → f'.lat = fix.lat ∧ f'.lon = fix.lon := by
    intro fieldpos field f f' kept handled
    unfold gpsDateField at handled
    split at handled
    · obtain ⟨hh, -, rest⟩ := bind_eq_ok_iff.mp handled
      obtain ⟨mm, -, rest⟩ := bind_eq_ok_iff.mp rest
      obtain ⟨ss, -, same⟩ := map_eq_ok_iff.mp rest
      cases same
      exact kept
    all_goals
      cases handled
      exact kept
  exact sentenceFields_keeps keeps ⟨rfl, rfl⟩ decoded

/-- A sentence of this meridian leaves the position where it was, or on the meridian. -/
theorem decode_meridian {fix fix' : GpsFix} {called : Option ℤ} (on : OnMeridian lon e)
    (decoded : decode lib fix e = .ok (fix', called)) :
    fix'.lat = fix.lat ∧ fix'.lon = fix.lon ∨ fix'.lon = lon := by
  cases e with
  | location buf now =>
      obtain ⟨position, t, behind, rfl, there⟩ := on
      rw [decode, gpsLocationLine_gll] at decoded
      cases decoded
      cases position with
      | none => exact .inl ⟨rfl, rfl⟩
      | some p => exact .inr (there p rfl)
  | date buf =>
      obtain ⟨r, date, same⟩ := map_eq_ok_iff.mp decoded
      cases same
      exact .inl (gpsDateLine_position date)

/-- The receiver has been reported at most once, on this meridian, and has not left it. -/
structure Receiver.Stays (threshold : ℝ) (lon : ℚ) (s : Receiver) : Prop where
  same : s.movement.movementThreshold = threshold
  stays : s.position = s.was ∨ s.fix.lon = lon
  once : s.movements = [] ∨ s.movements.length = 1 ∧ s.movement.lonwas = lon

theorem Receiver.Stays.located (stays : s.Stays threshold lon) {fix : GpsFix}
    (there : fix.lat = s.fix.lat ∧ fix.lon = s.fix.lon ∨ fix.lon = lon) :
    (s.located fix).Stays threshold lon := by
  refine ⟨stays.same, ?_, stays.once⟩
  obtain ⟨lat, eq⟩ | on := there
  · refine stays.stays.imp (fun position => ?_) eq.trans
    exact (Prod.ext lat eq : (s.located fix).position = s.position).trans position
  · exact .inr on

/-- A step along the meridian has no length. -/
theorem Receiver.Stays.reported (pos : 0 < threshold) (stays : s.Stays threshold lon)
    (moved : Moved s.movement.movementThreshold s.was s.position) (now : ℤ) :
    (s.reported now).Stays threshold lon := by
  have on : s.fix.lon = lon := stays.stays.resolve_left moved.1
  refine ⟨stays.same, .inl rfl, ?_⟩
  obtain none | ⟨-, was⟩ := stays.once
  · refine .inr ⟨?_, on⟩
    show (s.movements ++ [s.report now]).length = 1
    rw [none]
    rfl
  · have still : stepLength s.position s.was = some 0 := by
      rw [Receiver.position, Receiver.was, on, was]
      exact stepLength_meridian ..
    rw [stays.same] at moved
    exact absurd ⟨0, still, pos⟩ moved.2

theorem Receiver.Stays.step (pos : 0 < threshold) (stays : s.Stays threshold lon)
    (on : OnMeridian lon e) (taken : s.step lib e = some s') : s'.Stays threshold lon := by
  obtain ⟨fix, ⟨decoded, rfl⟩ | ⟨now, decoded, rfl⟩⟩ := Receiver.step_cases taken
  · exact stays.located (decode_meridian on decoded)
  · have there := stays.located (decode_meridian on decoded)
    obtain ⟨-, same⟩ | ⟨moved, changed⟩ := (s.located fix).change_cases now
    · rw [same]
      exact there
    · rw [changed]
      exact there.reported pos moved now

/-- **Travelling to the north or the south is not noticed**: a receiver whose positions are
all on one meridian is reported once at most. -/
theorem movements_length_le_one (pos : 0 < threshold) {es : List GpsSentence}
    (meridian : ∀ e ∈ es, OnMeridian lon e)
    (ran : run (Receiver.step lib) (.boot threshold) es = some s) : s.movements.length ≤ 1 := by
  have boot : (Receiver.boot threshold).Stays threshold lon := ⟨rfl, .inl rfl, .inl rfl⟩
  have stays : s.Stays threshold lon :=
    run_follows_within (R := fun s _ => s.Stays threshold lon) (D := OnMeridian lon)
      (f := fun _ _ => ()) (a := ()) (fun stays on taken => stays.step pos on taken) boot meridian
      ran
  obtain none | ⟨once, -⟩ := stays.once
  · rw [none]
    exact Nat.zero_le _
  · exact once.le

end Meridian

/-! ## To the north -/

theorem zeros_plain : comma ∉ (CString.ofString "000000").bytes := by decide

def midnight : GllTime where
  time := .ofString "000000"
  time_plain := zeros_plain
  time_length := le_rfl
  rest := .empty

/-- The digits that the degrees are written with. -/
def digitZero : Fin 10 := ⟨0, Nat.zero_lt_succ 9⟩

def digitOne : Fin 10 := ⟨1, Nat.le_add_left 2 8⟩

def digitTwo : Fin 10 := ⟨2, Nat.le_add_left 3 7⟩

/-- Whole degrees. -/
def wholeDegrees (d : Fin 10) : Coordinate where
  degrees := [d]
  degrees_ne_nil := List.cons_ne_nil _ _
  degrees_length := Nat.le_add_left 1 2
  minuteTens := digitZero
  minuteUnits := digitZero
  fraction := []

/-- On the meridian of one degree to the east. -/
def eastern (d : Fin 10) : GllPosition := ⟨wholeDegrees d, false, wholeDegrees digitOne, false⟩

/-- The sentence for a position. -/
def gll (position : GllPosition) (now : ℤ) : GpsSentence :=
  .location (gllBytes (some position) midnight ++ [0]) now

/-- From one degree to the next in ten seconds. -/
def northbound : List GpsSentence := [gll (eastern digitOne) 10000, gll (eastern digitTwo) 20000]

/-- A library without choices to make. -/
def plainLibrary : LibraryChoices := ⟨fun _ => 0, fun _ => none⟩

theorem step_gll (s : Receiver) (position : GllPosition) (now : ℤ) :
    ∃ s', s.step plainLibrary (gll position now) = some s' := by
  obtain ⟨fix, decoded⟩ :
      ∃ fix, decode plainLibrary s.fix (gll position now) = .ok (fix, some now) := by
    rw [gll, decode, gpsLocationLine_gll]
    exact ⟨_, rfl⟩
  unfold Receiver.step
  rw [decoded]
  exact ⟨_, rfl⟩

theorem northbound_run :
    ∃ s, run (Receiver.step plainLibrary) (.boot 10) northbound = some s := by
  obtain ⟨s, first⟩ := step_gll (.boot 10) (eastern digitOne) 10000
  obtain ⟨s', second⟩ := step_gll s (eastern digitTwo) 20000
  exact ⟨s', run_cons_eq_some.mpr ⟨s, first, run_cons_eq_some.mpr ⟨s', second, rfl⟩⟩⟩

open Classical in
theorem northbound_destutter :
    ∃ s, run (Receiver.step plainLibrary) (.boot 10) northbound = some s ∧
      (0, 0) :: s.movements.map OnMovement.position =
        (received plainLibrary (Receiver.boot 10).fix northbound).destutter' (Moved 10) (0, 0) :=
  northbound_run.imp fun _ ran => ⟨ran, movements_destutter ran⟩

theorem northbound_apart :
    ∃ s, run (Receiver.step plainLibrary) (.boot 10) northbound = some s ∧
      (origin :: s.movements).IsChain (fun p r => p.Continues 10 r ∧
        ∀ g h, p.position.At g → r.position.At h → 10 ≤ haversine h g) :=
  northbound_run.imp fun _ ran => ⟨ran, (movements_apart ran).1⟩

/-- Over a hundred kilometres. -/
theorem northbound_unnoticed :
    ∃ s, run (Receiver.step plainLibrary) (.boot 10) northbound = some s ∧
      s.movements.length ≤ 1 := by
  have sent : ∀ d now, OnMeridian (eastern digitOne).longitude (gll (eastern d) now) :=
    fun d _ => ⟨some (eastern d), midnight, [], rfl, by rintro p ⟨⟩; rfl⟩
  have meridian : ∀ e ∈ northbound, OnMeridian (eastern digitOne).longitude e :=
    List.forall_mem_cons.mpr ⟨sent digitOne 10000,
      List.forall_mem_singleton.mpr (sent digitTwo 20000)⟩
  obtain ⟨s, ran⟩ := northbound_run
  exact ⟨s, ran, movements_length_le_one (by norm_num) meridian ran⟩

end Ztacx.Gps

end
