import Ztacx.CModel.Retry
import Ztacx.LorawanJoin

/-!
# Retrying the join

`joinLoop` says how many attempts the loop of `ztacx_lorawan_start` makes.
`joinAttempts` is the same loop with what can be seen of each attempt: the number that
is logged, which is the 16-bit counter, and what `lorawan_join` returned.

The counter and the limit are both `uint16_t`.  The counter is compared after it has
been incremented, so it is at most the limit whenever it is incremented again, and
65535 retries end before it wraps (`joinAttempts_spec`).  A limit of zero is one
attempt.
-/

namespace Ztacx

open CModel

/-! ## The attempts -/

/-- The attempts of the loop from here on: the number that is logged, and the result. -/
def joinAttempts (join : ℕ → ℤ) (tryMax : BitVec 16) :
    ℕ → BitVec 16 → ℕ → Except Fault (List (BitVec 16 × ℤ))
  | 0, _, _ => .error .diverged
  | fuel + 1, tried, made =>
    let tried := tried + 1
    if join made = 0 then .ok [(tried, join made)]
    else if tried < tryMax then
      (joinAttempts join tryMax fuel tried (made + 1)).map fun later => (tried, join made) :: later
    else .ok [(tried, join made)]

/-- An attempt returned zero. -/
def Joined (attempts : List (BitVec 16 × ℤ)) : Prop := ∃ a ∈ attempts, a.2 = 0

instance (attempts : List (BitVec 16 × ℤ)) : Decidable (Joined attempts) :=
  inferInstanceAs (Decidable (∃ a ∈ attempts, a.2 = 0))

/-- The loop counts the attempts, and finds out whether one succeeded. -/
theorem joinLoop_eq (join : ℕ → ℤ) (tryMax : BitVec 16) (fuel : ℕ) (tried : BitVec 16)
    (made : ℕ) :
    joinLoop join tryMax fuel tried made = (joinAttempts join tryMax fuel tried made).map
      fun attempts => (made + attempts.length, decide (Joined attempts)) := by
  induction fuel generalizing tried made with
  | zero => rfl
  | succ fuel ih =>
      rw [joinLoop, joinAttempts]
      by_cases success : join made = 0
      · rw [if_pos success, if_pos success]
        simp [Except.map, Joined, success]
      rw [if_neg success, if_neg success]
      by_cases again : tried + 1 < tryMax
      · rw [if_pos again, if_pos again, ih]
        cases joinAttempts join tryMax fuel (tried + 1) (made + 1) with
        | error fault => rfl
        | ok later =>
            have count : made + 1 + later.length = made + (later.length + 1) := by omega
            simp [Except.map, Joined, success, count]
      · rw [if_neg again, if_neg again]
        simp [Except.map, Joined, success]

/-- **The loop**, from the middle of it: the counter has counted what was made. -/
theorem joinAttempts_spec (join : ℕ → ℤ) (tryMax : BitVec 16) (fuel : ℕ) {tried : BitVec 16}
    {made : ℕ} (counts : tried.toNat = made) (low : made < 65535)
    (enough : 65536 ≤ made + fuel) :
    ∃ stop, Retried (fun k => join k = 0) tryMax.toNat made stop ∧
      joinAttempts join tryMax fuel tried made =
        .ok ((List.range' made (stop - made)).map fun k => (BitVec.ofNat 16 (k + 1), join k)) := by
  induction fuel generalizing tried made with
  | zero => omega
  | succ fuel ih =>
      have next : tried + 1 = BitVec.ofNat 16 (made + 1) := by
        apply BitVec.eq_of_toNat_eq
        rw [BitVec.toNat_add, BitVec.toNat_ofNat, counts]
        rfl
      have counts' : (tried + 1).toNat = made + 1 := by
        rw [next, BitVec.toNat_ofNat]
        omega
      have one : List.range' made (made + 1 - made) = [made] := by
        rw [Nat.add_sub_cancel_left]
        rfl
      rw [joinAttempts]
      by_cases success : join made = 0
      · refine ⟨made + 1, .success success, ?_⟩
        rw [if_pos success, one, next]
        rfl
      rw [if_neg success]
      by_cases again : tried + 1 < tryMax
      · have more : made + 1 < tryMax.toNat := counts' ▸ again
        have bound := tryMax.isLt
        obtain ⟨stop, later, ran⟩ := ih counts' (by omega) (by omega)
        refine ⟨stop, .again success more later, ?_⟩
        have started := later.made_lt
        rw [if_pos again, ran, show stop - made = stop - (made + 1) + 1 by omega,
          List.range'_succ, List.map_cons, next]
        rfl
      · have last : tryMax.toNat ≤ made + 1 := by
          rw [← counts']
          exact not_lt.mp again
        refine ⟨made + 1, .exhausted last, ?_⟩
        rw [if_neg again, one, next]
        rfl

/-! ## One call -/

/-- A call that gets to the loop in the state `s'`: LoRaWAN is enabled, a join is
configured or can be, and the stack starts. -/
structure ReachesJoin (s : LorawanState) (outcome : StartOutcome) (s' : LorawanState) : Prop where
  enabled : (s.settings .enable).valBool = true
  configured : configureJoin s outcome.alloc = .ok (s', 0)
  started : 0 ≤ outcome.lorawanStart

/-- **The attempts keep to the retries**, and so does the code that is returned. -/
structure KeepsToRetries (join : ℕ → ℤ) (tryMax : BitVec 16) (attempts : List (BitVec 16 × ℤ))
    (rc : ℤ) : Prop where
  /-- The counter takes the values 1, 2, 3 and so on, up to the number of attempts. -/
  counter : attempts.map (fun a => a.1.toNat) = List.range' 1 attempts.length
  results : attempts.map Prod.snd = (List.range attempts.length).map join
  length_eq : (attempts.length : ℕ∞) =
    min (firstSuccess fun k => join k = 0) (max 1 tryMax.toNat : ℕ)
  returns_zero_iff : rc = 0 ↔ ∃ k < max 1 tryMax.toNat, join k = 0
  failed : ∀ a ∈ attempts.dropLast, a.2 ≠ 0

/-- Configuring a join leaves the settings alone, and gets through with a join only. -/
theorem configureJoin_joins {s s' : LorawanState} {alloc : Bool} {err : ℤ}
    (ran : configureJoin s alloc = .ok (s', err)) :
    s'.settings = s.settings ∧ (err = 0 → s'.joinCfg.isSome) := by
  have mode : ∀ (arrays : LorawanArrays) (parsed : ℤ) (cfg : LorawanJoinConfig),
      (if parsed ≠ 0 then ({ s with arrays := arrays }, parsed)
        else if alloc then ({ s with arrays := arrays, joinCfg := some cfg }, 0)
        else ({ s with arrays := arrays, joinCfg := none }, - ENOMEM)) = (s', err) →
      s'.settings = s.settings ∧ (err = 0 → s'.joinCfg.isSome) := by
    intro arrays parsed cfg ended
    split at ended
    · cases ended
      exact ⟨rfl, fun zero => absurd zero ‹_›⟩
    split at ended
    · cases ended
      exact ⟨rfl, fun _ => rfl⟩
    · cases ended
      exact ⟨rfl, fun zero => absurd zero (by decide)⟩
  unfold configureJoin at ran
  dsimp only at ran
  split at ran
  · obtain ⟨⟨arrays, parsed⟩, -, ended⟩ := map_eq_ok_iff.mp ran
    exact mode arrays parsed _ ended
  split at ran
  · obtain ⟨⟨arrays, parsed⟩, -, ended⟩ := map_eq_ok_iff.mp ran
    exact mode arrays parsed _ ended
  split at ran
  · cases ran
    exact ⟨rfl, fun zero => absurd zero (by decide)⟩
  · cases ran
    exact ⟨rfl, fun _ => Option.isSome_iff_ne_none.mpr ‹_›⟩

/-- The calls that set the stack up before the first attempt. -/
def setUpCalls (settings : LorawanSettings) : List LorawanCall :=
  let mask := (parseHexSettingWords (settings .channelMask) 0 6).object
  [.start] ++ (if (settings .adr).valBool then [.enableAdr] else []) ++
    (if (settings .sendRetries).valUint16 ≠ 0 then
      [.setConfMsgTries (settings .sendRetries).valUint16] else []) ++
    (if mask ≠ [] then [.setChannelMask mask] else [])

theorem join_notMem_setUpCalls (settings : LorawanSettings) (cfg : LorawanJoinConfig) :
    .join cfg ∉ setUpCalls settings := by
  simp [setUpCalls]

/-- What `connect` does once the stack has started. -/
theorem connect_eq {s : LorawanState} {cfg : LorawanJoinConfig} (joins : s.joinCfg = some cfg)
    {outcome : StartOutcome} (started : 0 ≤ outcome.lorawanStart) :
    connect s outcome =
      (joinAttempts outcome.join (s.settings .joinRetries).valUint16 (2 ^ 16) 0 0).map
        fun attempts => (if Joined attempts then 0 else - ENETUNREACH,
          setUpCalls s.settings ++ List.replicate attempts.length (.join cfg)) := by
  unfold connect
  rw [if_neg (not_lt.mpr started), joins, joinLoop_eq]
  cases joinAttempts outcome.join (s.settings .joinRetries).valUint16 (2 ^ 16) 0 0 with
  | error fault => rfl
  | ok attempts => simp [Except.map, setUpCalls]

/-- What the loop has done by its end keeps to the retries. -/
theorem keepsToRetries_of_retried {join : ℕ → ℤ} {tryMax : BitVec 16} {stop : ℕ}
    (whole : Retried (fun k => join k = 0) tryMax.toNat 0 stop)
    {attempts : List (BitVec 16 × ℤ)}
    (made : attempts = (List.range stop).map fun k => (BitVec.ofNat 16 (k + 1), join k)) :
    KeepsToRetries join tryMax attempts (if Joined attempts then 0 else - ENETUNREACH) := by
  have length : attempts.length = stop := by
    rw [made, List.length_map, List.length_range]
  have joined : Joined attempts ↔ ∃ k < max 1 tryMax.toNat, join k = 0 := by
    rw [← whole.success_iff, Joined, made]
    constructor
    · rintro ⟨a, mem, zero⟩
      obtain ⟨k, within, rfl⟩ := List.mem_map.mp mem
      have within := List.mem_range.mp within
      exact ⟨k, le_antisymm within (whole.failed k k.zero_le zero), zero⟩
    · rintro ⟨k, rfl, zero⟩
      exact ⟨_, List.mem_map_of_mem (List.mem_range.mpr k.lt_succ_self), zero⟩
  refine ⟨?_, ?_, ?_, ?_, ?_⟩
  · -- the counter stays below the limit, which has sixteen bits
    have bound := tryMax.isLt
    have within := whole.within
    rw [length, made, List.map_map, List.range'_eq_map_range]
    refine List.map_congr_left fun k mem => ?_
    have small := List.mem_range.mp mem
    show (BitVec.ofNat 16 (k + 1)).toNat = 1 + k
    rw [BitVec.toNat_ofNat]
    omega
  · rw [length, made, List.map_map]
    rfl
  · rw [length]
    exact whole.eq_min
  · rw [← joined]
    split
    · exact iff_of_true rfl ‹_›
    · exact iff_of_false (by decide) ‹_›
  · obtain ⟨last, rfl⟩ := Nat.exists_eq_succ_of_ne_zero (Nat.ne_zero_of_lt whole.made_lt)
    rw [made, List.range_succ, List.map_append, List.map_singleton, List.dropLast_concat]
    intro a mem zero
    obtain ⟨k, within, rfl⟩ := List.mem_map.mp mem
    have late : last + 1 ≤ k + 1 := whole.failed k k.zero_le zero
    have early := List.mem_range.mp within
    omega

/-- **Join retries**: a call that gets to the loop comes to an end, whatever the attempts
return. -/
theorem ztacxLorawanStart_retries {s s' : LorawanState} {outcome : StartOutcome}
    (reaches : ReachesJoin s outcome s') :
    ∃ cfg setup attempts rc, (∀ c, .join c ∉ setup) ∧
      joinAttempts outcome.join (s.settings .joinRetries).valUint16 (2 ^ 16) 0 0 = .ok attempts ∧
      ztacxLorawanStart s outcome =
        .ok (s', rc, setup ++ List.replicate attempts.length (.join cfg)) ∧
      KeepsToRetries outcome.join (s.settings .joinRetries).valUint16 attempts rc := by
  obtain ⟨settings, joins⟩ := configureJoin_joins reaches.configured
  obtain ⟨cfg, joins⟩ := Option.isSome_iff_exists.mp (joins rfl)
  have counts : (0 : BitVec 16).toNat = 0 := rfl
  obtain ⟨stop, whole, ran⟩ := joinAttempts_spec outcome.join (s.settings .joinRetries).valUint16
    (2 ^ 16) counts (by decide) (by decide)
  rw [Nat.sub_zero, ← List.range_eq_range'] at ran
  refine ⟨cfg, setUpCalls s.settings, _, _, join_notMem_setUpCalls s.settings, ran, ?_,
    keepsToRetries_of_retried whole rfl⟩
  rw [ztacxLorawanStart, if_pos reaches.enabled, reaches.configured]
  show (connect s' outcome).map _ = _
  rw [connect_eq joins reaches.started, settings, ran]
  rfl

/-- A leaf that has a configuration already, with three attempts. -/
def retryingLeaf : LorawanState where
  settings := fun
    | .enable => setFlag
    | .joinRetries => { ZtacxValue.zero with bytes := 3 :: List.replicate 7 0, bytes_length := rfl }
    | _ => .zero
  arrays := fun a => List.replicate a.size 0
  joinCfg := some ⟨.devEui, .otaa .appKey .appKey .joinEui⟩

/-- The second attempt gets through. -/
def secondJoins : StartOutcome := ⟨true, 0, fun k => if k = 1 then 0 else -1⟩

theorem ztacxLorawanStart_retries_secondJoins :
    ∃ cfg setup attempts rc, (∀ c, .join c ∉ setup) ∧
      joinAttempts secondJoins.join 3 (2 ^ 16) 0 0 = .ok attempts ∧
      ztacxLorawanStart retryingLeaf secondJoins =
        .ok (retryingLeaf, rc, setup ++ List.replicate attempts.length (.join cfg)) ∧
      KeepsToRetries secondJoins.join 3 attempts rc := by
  have reaches : ReachesJoin retryingLeaf secondJoins retryingLeaf := ⟨rfl, rfl, le_rfl⟩
  exact ztacxLorawanStart_retries reaches

end Ztacx
