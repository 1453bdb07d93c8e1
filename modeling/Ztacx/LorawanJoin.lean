import Ztacx.CModel.Run
import Ztacx.Lorawan

/-!
# What `join_cfg` stands for

`join_cfg` is null until a call of `ztacx_lorawan_start` gets through, and a call
that does not may have written any part of the arrays `join_cfg` will point into.
Settings change between the calls, and after the call that sets `join_cfg` as
well.

None of this shows.  In every run of setting changes and calls
(`lorawan_joinConfigured`) `join_cfg` is null as long as no call configures a
join, and from the first call that does it stands for the credentials the
settings spelled at that call: the arrays it points into hold exactly the bytes
decoded then, and nothing writes to them any more.

* `configures` is what one call does in these terms: the credentials it sets, if
  it is enabled, all credentials of the mode decode and `calloc` succeeds.
* `firstConfigured` is the first of them along a list of events, and
  `lorawanRun_denoted` says that a run latches it.
-/

namespace Ztacx

open CModel

/-! ## Credentials -/

/-- What a join is made with. -/
inductive Credentials
  | abp (devEui : List UInt8) (devAddr : BitVec 32) (appSkey nwkSkey : List UInt8)
  | otaa (devEui appKey nwkKey joinEui : List UInt8)
deriving DecidableEq, Repr

/-- The credentials behind the pointers of a configuration. -/
def LorawanJoinConfig.denotes (arrays : LorawanArrays) (cfg : LorawanJoinConfig) : Credentials :=
  match cfg.mode with
  | .abp devAddr app nwk => .abp (arrays cfg.devEui) devAddr (arrays app) (arrays nwk)
  | .otaa app nwk join => .otaa (arrays cfg.devEui) (arrays app) (arrays nwk) (arrays join)

def LorawanState.denoted (s : LorawanState) : Option Credentials :=
  s.joinCfg.map fun cfg => cfg.denotes s.arrays

/-- The ABP credentials that the settings spell. -/
def abpCredentials (settings : LorawanSettings) : Option Credentials :=
  (decodeSetting? (settings .devEui) 8).bind fun devEui =>
    (decodeSetting? (settings .devAddr) 4).bind fun devAddr =>
      (decodeSetting? (settings .appSkey) 16).bind fun appSkey =>
        (decodeSetting? (settings .nwkSkey) 16).map fun nwkSkey =>
          .abp devEui (devAddrOf devAddr) appSkey nwkSkey

/-- The OTAA credentials that the settings spell. -/
def otaaCredentials (settings : LorawanSettings) : Option Credentials :=
  (decodeSetting? (settings .devEui) 8).bind fun devEui =>
    (decodeSetting? (settings .appKey) 16).bind fun appKey =>
      (decodeSetting? (settings .joinEui) 8).map fun joinEui =>
        .otaa devEui appKey appKey joinEui

/-- The credentials of the enabled mode, ABP in preference to OTAA. -/
def enabledCredentials (settings : LorawanSettings) : Option Credentials :=
  if (settings .authAbp).valBool then abpCredentials settings
  else if (settings .authOtaa).valBool then otaaCredentials settings
  else none

/-- The credentials that a call of `ztacx_lorawan_start` can configure a join with. -/
def configures (settings : LorawanSettings) (outcome : StartOutcome) : Option Credentials :=
  if (settings .enable).valBool ∧ outcome.alloc then enabledCredentials settings else none

/-! ## Runs -/

inductive LorawanEvent
  | change (index : LorawanSettingIndex) (value : ZtacxValue)
  | start (outcome : StartOutcome)

/-- A setting changes, or `ztacx_lorawan_start` is called. -/
def lorawanStep (s : LorawanState) : LorawanEvent → Option LorawanState
  | .change index value => some { s with settings := Function.update s.settings index value }
  | .start outcome => (ztacxLorawanStart s outcome).toOption.map Prod.fst

/-- The static storage before the first call. -/
def LorawanState.boot (settings : LorawanSettings) : LorawanState where
  settings := settings
  arrays := fun a => List.replicate a.size 0
  joinCfg := none

/-- The settings after the changes among some events. -/
def settingsAfter (settings : LorawanSettings) : List LorawanEvent → LorawanSettings
  | [] => settings
  | .change index value :: es => settingsAfter (Function.update settings index value) es
  | .start _ :: es => settingsAfter settings es

/-- No call among these events configures a join. -/
def NoneConfigures (settings : LorawanSettings) (es : List LorawanEvent) : Prop :=
  ∀ pre outcome post, es = pre ++ .start outcome :: post →
    configures (settingsAfter settings pre) outcome = none

/-- **The join is configured by the first call that can configure it**, with the
settings as they stand at that call, and never again. -/
structure JoinConfigured (settings : LorawanSettings) (es : List LorawanEvent)
    (s : LorawanState) : Prop where
  null : NoneConfigures settings es → s.joinCfg = none
  latched : ∀ pre outcome post creds, es = pre ++ .start outcome :: post →
    NoneConfigures settings pre →
      configures (settingsAfter settings pre) outcome = some creds → s.denoted = some creds

/-! ## Parsing the credentials of a mode -/

/-- The arrays keep their sizes. -/
def ArraysSized (arrays : LorawanArrays) : Prop := ∀ a, (arrays a).length = a.size

theorem ArraysSized.update {arrays : LorawanArrays} (sized : ArraysSized arrays)
    {a : LorawanArray} {bytes : List UInt8} (len : bytes.length = a.size) :
    ArraysSized (Function.update arrays a bytes) := by
  intro b
  by_cases same : b = a
  · rw [same, Function.update_self, len]
  · rw [Function.update_of_ne same, sized b]

theorem length_of_decodeSetting {setting : ZtacxValue} {n : ℕ} {bytes : List UInt8}
    (decoded : decodeSetting? setting n = some bytes) : bytes.length = n := by
  unfold decodeSetting? at decoded
  dsimp only at decoded
  split at decoded
  · rename_i fits
    cases decoded
    exact (length_hexBytes _).trans fits
  · cases decoded

/-- **Parsing credentials into arrays of their own**: either every one of them
decodes and the arrays hold exactly what they decode to, or one does not. -/
theorem parseCredentials_spec (settings : LorawanSettings) (steps : List CredentialStep)
    (sizes : ∀ c ∈ steps, 0 < c.size ∧ c.array.size = c.size)
    (nodup : (steps.map CredentialStep.array).Nodup) {arrays : LorawanArrays}
    (sized : ArraysSized arrays) :
    ∃ arrays' err, parseCredentials settings steps arrays = .ok (arrays', err) ∧
      ArraysSized arrays' ∧ (∀ a ∉ steps.map CredentialStep.array, arrays' a = arrays a) ∧
      ((err = 0 ∧ ∀ c ∈ steps,
          decodeSetting? (settings c.index) c.size = some (arrays' c.array)) ∨
        (err ≠ 0 ∧ ∃ c ∈ steps, decodeSetting? (settings c.index) c.size = none)) := by
  induction steps generalizing arrays with
  | nil => exact ⟨arrays, 0, rfl, sized, fun _ _ => rfl, Or.inl ⟨rfl, by simp⟩⟩
  | cons c steps ih =>
      obtain ⟨pos, size⟩ := sizes c List.mem_cons_self
      have parsed := parseHexSetting_exact (settings c.index) pos ((sized c.array).trans size)
      rw [List.map_cons, List.nodup_cons] at nodup
      unfold parseCredentials
      rw [parsed]
      cases decoded : decodeSetting? (settings c.index) c.size with
      | none =>
          refine ⟨arrays, - EMSGSIZE, ?_, sized, fun _ _ => rfl,
            Or.inr ⟨by decide, c, List.mem_cons_self, decoded⟩⟩
          have same : Function.update arrays c.array (arrays c.array) = arrays :=
            Function.update_eq_self c.array arrays
          exact congrArg (fun kept => Except.ok (kept, - EMSGSIZE)) same
      | some bytes =>
          have len : bytes.length = c.array.size :=
            (length_of_decodeSetting decoded).trans size.symm
          obtain ⟨arrays', err, ran, sized', frame, result⟩ :=
            ih (fun d mem => sizes d (List.mem_cons_of_mem c mem)) nodup.2 (sized.update len)
          -- no later step writes to the array of this one
          have written : arrays' c.array = bytes := by
            rw [frame c.array nodup.1, Function.update_self]
          refine ⟨arrays', err, ran, sized', fun a notMem => ?_, ?_⟩
          · rw [List.map_cons, List.mem_cons, not_or] at notMem
            rw [frame a notMem.2, Function.update_of_ne notMem.1]
          · rcases result with ⟨ok, all⟩ | ⟨failed, d, mem, short⟩
            · refine Or.inl ⟨ok, fun d mem => ?_⟩
              rcases List.mem_cons.mp mem with rfl | later
              · rw [decoded, written]
              · exact all d later
            · exact Or.inr ⟨failed, d, List.mem_cons_of_mem c mem, short⟩

/-! ## One call -/

theorem abpCredentials_eq_some {settings : LorawanSettings} {arrays : LorawanArrays}
    (all : ∀ c ∈ abpSteps, decodeSetting? (settings c.index) c.size = some (arrays c.array)) :
    abpCredentials settings = some (.abp (arrays .devEui) (devAddrOf (arrays .devAddr))
      (arrays .appSkey) (arrays .nwkSkey)) := by
  simp only [abpSteps, List.forall_mem_cons] at all
  obtain ⟨devEui, devAddr, appSkey, nwkSkey, -⟩ := all
  rw [abpCredentials, devEui, devAddr, appSkey, nwkSkey]
  rfl

theorem abpCredentials_eq_none {settings : LorawanSettings}
    (short : ∃ c ∈ abpSteps, decodeSetting? (settings c.index) c.size = none) :
    abpCredentials settings = none := by
  simp only [abpSteps, List.mem_cons, List.not_mem_nil, or_false, exists_eq_or_imp,
    exists_eq_left] at short
  rcases short with short | short | short | short <;> simp [abpCredentials, short]

theorem otaaCredentials_eq_some {settings : LorawanSettings} {arrays : LorawanArrays}
    (all : ∀ c ∈ otaaSteps, decodeSetting? (settings c.index) c.size = some (arrays c.array)) :
    otaaCredentials settings = some (.otaa (arrays .devEui) (arrays .appKey)
      (arrays .appKey) (arrays .joinEui)) := by
  simp only [otaaSteps, List.forall_mem_cons] at all
  obtain ⟨devEui, appKey, joinEui, -⟩ := all
  rw [otaaCredentials, devEui, appKey, joinEui]
  rfl

theorem otaaCredentials_eq_none {settings : LorawanSettings}
    (short : ∃ c ∈ otaaSteps, decodeSetting? (settings c.index) c.size = none) :
    otaaCredentials settings = none := by
  simp only [otaaSteps, List.mem_cons, List.not_mem_nil, or_false, exists_eq_or_imp,
    exists_eq_left] at short
  rcases short with short | short | short <;> simp [otaaCredentials, short]

/-- How a call whose mode is enabled ends, once it has parsed the credentials of the
mode into `arrays`. -/
theorem parsedMode_spec {s : LorawanState} (unset : s.joinCfg = none) (alloc : Bool)
    {arrays : LorawanArrays} {err : ℤ} (cfg : LorawanJoinConfig) {creds : Option Credentials}
    (sized : ArraysSized arrays)
    (result : (err = 0 ∧ creds = some (cfg.denotes arrays)) ∨ (err ≠ 0 ∧ creds = none)) :
    ∃ s' rc, (if err ≠ 0 then ({ s with arrays := arrays }, err)
        else if alloc then ({ s with arrays := arrays, joinCfg := some cfg }, 0)
        else ({ s with arrays := arrays, joinCfg := none }, - ENOMEM)) = (s', rc) ∧
      ArraysSized s'.arrays ∧ s'.settings = s.settings ∧
      s'.denoted = (if alloc then creds else none) ∧ (rc = 0 → s'.joinCfg.isSome) := by
  rcases result with ⟨rfl, rfl⟩ | ⟨failed, rfl⟩
  · rw [if_neg (not_not.mpr rfl)]
    cases alloc with
    | true => exact ⟨_, _, rfl, sized, rfl, rfl, fun _ => rfl⟩
    | false => exact ⟨_, _, rfl, sized, rfl, rfl, fun zero => absurd zero (by decide)⟩
  · rw [if_pos failed]
    refine ⟨_, _, rfl, sized, rfl, ?_, fun zero => absurd zero failed⟩
    show s.joinCfg.map _ = _
    rw [unset, Option.map_none, ite_self]

/-- What one call does to `join_cfg`: a configured join is left alone, and otherwise
the call configures what it can.  It gets past the configuration only with a join. -/
theorem configureJoin_spec {s : LorawanState} (sized : ArraysSized s.arrays) (alloc : Bool) :
    ∃ s' err, configureJoin s alloc = .ok (s', err) ∧ ArraysSized s'.arrays ∧
      s'.settings = s.settings ∧
      s'.denoted = s.denoted.or (if alloc then enabledCredentials s.settings else none) ∧
      (err = 0 → s'.joinCfg.isSome) := by
  unfold configureJoin enabledCredentials
  by_cases configured : s.joinCfg = none
  · have before : s.denoted = none := by rw [LorawanState.denoted, configured]; rfl
    rw [before, Option.none_or]
    by_cases abp : (s.settings .authAbp).valBool = true
    · obtain ⟨arrays, err, ran, sized', -, result⟩ :=
        parseCredentials_spec s.settings abpSteps (by decide) (by decide) sized
      obtain ⟨s', rc, ended, spec⟩ := parsedMode_spec configured alloc
        ⟨.devEui, .abp (devAddrOf (arrays .devAddr)) .appSkey .nwkSkey⟩ sized'
        (result.imp (And.imp_right abpCredentials_eq_some)
          (And.imp_right abpCredentials_eq_none))
      rw [if_pos abp, if_pos ⟨configured, abp⟩, ran]
      exact ⟨s', rc, congrArg Except.ok ended, spec⟩
    -- without ABP the call goes on to OTAA
    · rw [if_neg abp, if_neg fun both => abp both.2]
      by_cases otaa : (s.settings .authOtaa).valBool = true
      · obtain ⟨arrays, err, ran, sized', -, result⟩ :=
          parseCredentials_spec s.settings otaaSteps (by decide) (by decide) sized
        obtain ⟨s', rc, ended, spec⟩ := parsedMode_spec configured alloc
          ⟨.devEui, .otaa .appKey .appKey .joinEui⟩ sized'
          (result.imp (And.imp_right otaaCredentials_eq_some)
            (And.imp_right otaaCredentials_eq_none))
        rw [if_pos otaa, if_pos ⟨configured, otaa⟩, ran]
        exact ⟨s', rc, congrArg Except.ok ended, spec⟩
      · rw [if_neg otaa, if_neg fun both => otaa both.2, if_pos configured, ite_self]
        exact ⟨s, - EINVAL, rfl, sized, rfl, before, fun zero => absurd zero (by decide)⟩
  · -- every branch asks for a null `join_cfg` first
    obtain ⟨cfg, joins⟩ := Option.ne_none_iff_exists'.mp configured
    rw [if_neg fun both => configured both.1, if_neg fun both => configured both.1,
      if_neg configured]
    refine ⟨s, 0, rfl, sized, rfl, ?_, fun _ => by rw [joins]; rfl⟩
    rw [LorawanState.denoted, joins]
    rfl

/-- A call that gets to the join comes to an end. -/
theorem connect_ends {s : LorawanState} (joins : s.joinCfg.isSome) (outcome : StartOutcome) :
    ∃ r, connect s outcome = .ok r := by
  unfold connect
  dsimp only
  split
  · exact ⟨_, rfl⟩
  · obtain ⟨cfg, configured⟩ := Option.isSome_iff_exists.mp joins
    obtain ⟨r, ended⟩ := joinLoop_ends outcome.join (s.settings .joinRetries).valUint16
      (2 ^ 16) 0 0 (by decide) (by decide)
    rw [configured, ended]
    exact ⟨_, rfl⟩

/-- **The step lemma.** -/
theorem ztacxLorawanStart_spec {s : LorawanState} (sized : ArraysSized s.arrays)
    (outcome : StartOutcome) :
    ∃ s' rest, ztacxLorawanStart s outcome = .ok (s', rest) ∧ ArraysSized s'.arrays ∧
      s'.settings = s.settings ∧
      s'.denoted = s.denoted.or (configures s.settings outcome) := by
  unfold ztacxLorawanStart configures
  by_cases enabled : (s.settings .enable).valBool = true
  · obtain ⟨s', err, ran, sized', settings, denoted, joins⟩ :=
      configureJoin_spec sized outcome.alloc
    rw [if_pos enabled, ran]
    simp only [enabled, true_and]
    by_cases failed : err ≠ 0
    · exact ⟨s', (err, []), if_pos failed, sized', settings, denoted⟩
    · obtain ⟨r, ended⟩ := connect_ends (joins (not_not.mp failed)) outcome
      refine ⟨s', r, (if_neg failed).trans ?_, sized', settings, denoted⟩
      rw [ended]
      rfl
  · rw [if_neg enabled, if_neg fun both => enabled both.1, Option.or_none]
    exact ⟨s, _, rfl, sized, rfl, rfl⟩

/-! ## Runs latch the first configuration -/

/-- The credentials of the first call that configures a join. -/
def firstConfigured (settings : LorawanSettings) : List LorawanEvent → Option Credentials
  | [] => none
  | .change index value :: es => firstConfigured (Function.update settings index value) es
  | .start outcome :: es => (configures settings outcome).or (firstConfigured settings es)

theorem firstConfigured_append (settings : LorawanSettings) (pre post : List LorawanEvent) :
    firstConfigured settings (pre ++ post) =
      (firstConfigured settings pre).or (firstConfigured (settingsAfter settings pre) post) := by
  induction pre generalizing settings with
  | nil => rfl
  | cons e pre ih =>
      cases e with
      | change index value => exact ih _
      | start outcome =>
          rw [List.cons_append, firstConfigured, ih]
          exact (Option.or_assoc ..).symm

theorem firstConfigured_eq_none_iff {settings : LorawanSettings} {es : List LorawanEvent} :
    firstConfigured settings es = none ↔ NoneConfigures settings es := by
  constructor
  · rintro never pre outcome post rfl
    rw [firstConfigured_append, Option.or_eq_none_iff] at never
    exact (Option.or_eq_none_iff.mp never.2).1
  · intro never
    induction es generalizing settings with
    | nil => rfl
    | cons e es ih =>
        have later : NoneConfigures (settingsAfter settings [e]) es := by
          intro pre outcome post split
          have here := never (e :: pre) outcome post (by rw [split]; rfl)
          cases e <;> exact here
        cases e with
        | change index value => exact ih later
        | start outcome =>
            have here : configures settings outcome = none := never [] outcome es rfl
            rw [firstConfigured, here]
            exact ih later

/-- **The run lemma**: a run goes through, and `join_cfg` stands for what it stood
for before, or else for the first credentials configured on the way. -/
theorem lorawanRun_denoted {s : LorawanState} (sized : ArraysSized s.arrays)
    (es : List LorawanEvent) :
    ∃ t, run lorawanStep s es = some t ∧
      t.denoted = s.denoted.or (firstConfigured s.settings es) := by
  induction es generalizing s with
  | nil => exact ⟨s, rfl, (Option.or_none ..).symm⟩
  | cons e es ih =>
      cases e with
      | change index value =>
          exact ih (s := { s with settings := Function.update s.settings index value }) sized
      | start outcome =>
          obtain ⟨s', rest, ran, sized', settings, denoted⟩ :=
            ztacxLorawanStart_spec sized outcome
          obtain ⟨t, reached, latched⟩ := ih sized'
          refine ⟨t, ?_, ?_⟩
          · have step : lorawanStep s (.start outcome) = some s' := by
              rw [lorawanStep, ran]
              rfl
            exact run_cons_eq_some.mpr ⟨s', step, reached⟩
          · rw [latched, denoted, settings, firstConfigured]
            exact Option.or_assoc ..

theorem arraysSized_boot (settings : LorawanSettings) :
    ArraysSized (LorawanState.boot settings).arrays := fun _ => List.length_replicate

/-- **The join that a LoRaWAN leaf makes**: every run of setting changes and calls
goes through; `join_cfg` is null while no call configures a join, and stands for the
credentials of the first call that does from then on. -/
theorem lorawan_joinConfigured (settings : LorawanSettings) (es : List LorawanEvent) :
    ∃ s, run lorawanStep (.boot settings) es = some s ∧ JoinConfigured settings es s := by
  obtain ⟨s, reached, denoted⟩ := lorawanRun_denoted (arraysSized_boot settings) es
  have first : s.denoted = firstConfigured settings es := denoted
  refine ⟨s, reached, fun never => ?_, ?_⟩
  · rw [firstConfigured_eq_none_iff.mpr never] at first
    exact Option.map_eq_none_iff.mp first
  · intro pre outcome post creds split never configured
    rw [first, split, firstConfigured_append, firstConfigured_eq_none_iff.mpr never,
      Option.none_or, firstConfigured, configured]
    rfl

/-! ### A failed call before one that configures a join -/

/-- A value whose string is a literal. -/
def textSetting (text : String) : ZtacxValue :=
  { ZtacxValue.zero with valString := .literal (.ofString text) }

/-- A value whose scalar member is one. -/
def setFlag : ZtacxValue :=
  { ZtacxValue.zero with bytes := 1 :: List.replicate 7 0, bytes_length := rfl }

/-- Both modes are enabled; the keys of ABP are missing. -/
def otaaSettings : LorawanSettings
  | .authAbp | .authOtaa | .enable => setFlag
  | .devEui => textSetting "0011223344556677"
  | .appKey => textSetting "000102030405060708090a0b0c0d0e0F"
  | .joinEui => textSetting "70B3D57ED0000000"
  | .devAddr => textSetting "26011BDA"
  | _ => .zero

/-- Every allocation and every join succeeds. -/
def goodOutcome : StartOutcome := ⟨true, 0, fun _ => 0⟩

/-- The call that fails over the ABP keys, a new device EUI, ABP switched off, the
call that gets through, and another device EUI. -/
def otaaEvents : List LorawanEvent :=
  [.start goodOutcome, .change .devEui (textSetting "8899aabbccddeeff"),
   .change .authAbp .zero, .start goodOutcome, .change .devEui .zero]

theorem otaaEvents_joinConfigured :
    ∃ s, run lorawanStep (.boot otaaSettings) otaaEvents = some s ∧
      s.denoted = some (.otaa [0x88, 0x99, 0xaa, 0xbb, 0xcc, 0xdd, 0xee, 0xff]
        [0, 1, 2, 3, 4, 5, 6, 7, 8, 9, 10, 11, 12, 13, 14, 15]
        [0, 1, 2, 3, 4, 5, 6, 7, 8, 9, 10, 11, 12, 13, 14, 15]
        [0x70, 0xb3, 0xd5, 0x7e, 0xd0, 0, 0, 0]) := by
  obtain ⟨s, reached, joined⟩ := lorawan_joinConfigured otaaSettings otaaEvents
  exact ⟨s, reached, joined.latched (otaaEvents.take 3) goodOutcome (otaaEvents.drop 4) _ rfl
    (firstConfigured_eq_none_iff.mp rfl) rfl⟩

end Ztacx
