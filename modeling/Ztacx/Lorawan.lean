import Ztacx.CModel.Strtoul
import Ztacx.Value

/-!
# The LoRaWAN leaf

`ztacx_lorawan_start` of `src/ztacx_lorawan.c` with its two parsers of
hexadecimal settings.

The credentials of both authentication modes are parsed into static arrays
(`LorawanArray`) that the two modes partly share; `join_cfg` points into these
arrays.  A call that fails half-way has overwritten some of them.  The model
keeps this: a `LorawanJoinConfig` holds pointers, and what it stands for depends
on the arrays (`LorawanJoinConfig.denotes`).

The calls into the LoRaWAN stack are recorded (`LorawanCall`).  What the
stack answers, and whether `calloc` succeeds, are inputs (`StartOutcome`).
-/

namespace Ztacx

open CModel

/-! ## Settings and arrays -/

/-- `enum lorawan_setting_index`. -/
inductive LorawanSettingIndex
  | authAbp
  | authOtaa
  | devEui
  | appKey
  | joinEui
  | devAddr
  | nwkSkey
  | appSkey
  | channelMask
  | adr
  | sendRetries
  | joinRetries
  | enable
deriving DecidableEq, Repr

/-- The values in the table `lorawan_settings`. -/
abbrev LorawanSettings := LorawanSettingIndex → ZtacxValue

/-- The static byte arrays. -/
inductive LorawanArray
  | devEui
  | joinEui
  | appKey
  | devAddr
  | nwkSkey
  | appSkey
deriving DecidableEq, Repr

def LorawanArray.size : LorawanArray → ℕ
  | .devEui => 8
  | .joinEui => 8
  | .appKey => 16
  | .devAddr => 4
  | .nwkSkey => 16
  | .appSkey => 16

/-- What the arrays hold. -/
abbrev LorawanArrays := LorawanArray → List UInt8

/-! ## Parsing -/

/-- What a parser leaves in the caller's buffer and counter, and its return code.
A counter of `none` was not written. -/
structure Parsed (α : Type) where
  object : List α
  count : Option ℕ
  rc : ℤ
deriving DecidableEq, Repr

/-- The bytes that successive pairs of characters stand for; a last character
without a partner is left out. -/
def hexBytes : List UInt8 → List UInt8
  | a :: b :: rest => UInt8.ofNat (strtoul16 (.ofBytes [a, b, 0])).toNat :: hexBytes rest
  | _ => []

/-- The words that successive groups of four characters stand for. -/
def hexWords : List UInt8 → List (BitVec 16)
  | a :: b :: c :: d :: rest =>
    (strtoul16 (.ofBytes [a, b, c, d, 0])).truncate 16 :: hexWords rest
  | _ => []

/-- `parse_hex_setting`.  `bytesR` is the caller's buffer. -/
def parseHexSetting (setting : ZtacxValue) (min max : ℤ) (bytesR : List UInt8) :
    Except Fault (Parsed UInt8) :=
  let s := setting.valString.text.getD .empty
  let len := s.strlen
  if min = 0 ∧ len = 0 then .ok ⟨bytesR, some 0, 0⟩
  else
    let bytes := len / 2
    if bytes < min ∨ max < bytes then .ok ⟨bytesR, none, - EMSGSIZE⟩
    else (memcpyInto bytesR 0 (hexBytes s.bytes)).map fun object => ⟨object, some bytes, 0⟩

/-- `parse_hex_setting_words` into a buffer that is not null: the words it writes
at the start of the buffer. -/
def parseHexSettingWords (setting : ZtacxValue) (min max : ℤ) : Parsed (BitVec 16) :=
  let s := setting.valString.text.getD .empty
  let len := s.strlen
  if min = 0 ∧ len = 0 then ⟨[], some 0, 0⟩
  else
    let words := len / 4
    if words < min ∨ max < words then ⟨[], none, - EMSGSIZE⟩
    else ⟨hexWords s.bytes, some words, 0⟩

/-! ## Joining -/

/-- The union of `struct lorawan_join_config`, under the mode that selects its
member.  Keys are pointers to the static arrays. -/
inductive LorawanActivation
  | abp (devAddr : BitVec 32) (appSkeyPtr nwkSkeyPtr : LorawanArray)
  | otaa (appKeyPtr nwkKeyPtr joinEuiPtr : LorawanArray)
deriving DecidableEq, Repr

/-- `struct lorawan_join_config`. -/
structure LorawanJoinConfig where
  devEui : LorawanArray
  mode : LorawanActivation
deriving DecidableEq, Repr

structure LorawanState where
  settings : LorawanSettings
  arrays : LorawanArrays
  joinCfg : Option LorawanJoinConfig

/-- What one call of `ztacx_lorawan_start` meets: whether `calloc` succeeds, what
`lorawan_start` returns, and what each attempt to join returns. -/
structure StartOutcome where
  alloc : Bool
  lorawanStart : ℤ
  join : ℕ → ℤ

/-- A call into the LoRaWAN stack. -/
inductive LorawanCall
  | start
  | enableAdr
  | setConfMsgTries (tries : BitVec 16)
  | setChannelMask (mask : List (BitVec 16))
  | join (cfg : LorawanJoinConfig)
deriving DecidableEq, Repr

/-- One `err = parse_hex_setting(..); if (err) return err;` of the start callback. -/
structure CredentialStep where
  index : LorawanSettingIndex
  size : ℕ
  array : LorawanArray
deriving DecidableEq, Repr

/-- ABP mode requires dev_eui, dev_addr, the session keys. -/
def abpSteps : List CredentialStep :=
  [⟨.devEui, 8, .devEui⟩, ⟨.devAddr, 4, .devAddr⟩, ⟨.appSkey, 16, .appSkey⟩,
   ⟨.nwkSkey, 16, .nwkSkey⟩]

/-- OTAA mode requires dev_eui, app_key, join_eui. -/
def otaaSteps : List CredentialStep :=
  [⟨.devEui, 8, .devEui⟩, ⟨.appKey, 16, .appKey⟩, ⟨.joinEui, 8, .joinEui⟩]

/-- Parse credentials up to the first that fails. -/
def parseCredentials (settings : LorawanSettings) :
    List CredentialStep → LorawanArrays → Except Fault (LorawanArrays × ℤ)
  | [], arrays => .ok (arrays, 0)
  | c :: steps, arrays =>
    (parseHexSetting (settings c.index) c.size c.size (arrays c.array)).bind fun parsed =>
      let arrays := Function.update arrays c.array parsed.object
      if parsed.rc ≠ 0 then .ok (arrays, parsed.rc) else parseCredentials settings steps arrays

/-- `(dev_addr[0]<<24)|(dev_addr[1]<<16)|(dev_addr[2]<<8)|dev_addr[3]`. -/
def devAddrOf (devAddr : List UInt8) : BitVec 32 :=
  let byte (i : ℕ) : BitVec 32 := BitVec.ofNat 32 (devAddr.getD i 0).toNat
  byte 0 <<< 24 ||| byte 1 <<< 16 ||| byte 2 <<< 8 ||| byte 3

/-- The part of the start callback that fills `join_cfg`, with the code it returns
early, or zero. -/
def configureJoin (s : LorawanState) (alloc : Bool) : Except Fault (LorawanState × ℤ) :=
  let allocated (arrays : LorawanArrays) (parsed : LorawanJoinConfig) : LorawanState × ℤ :=
    if alloc then ({ s with arrays := arrays, joinCfg := some parsed }, 0)
    else ({ s with arrays := arrays, joinCfg := none }, - ENOMEM)
  if s.joinCfg = none ∧ (s.settings .authAbp).valBool then
    (parseCredentials s.settings abpSteps s.arrays).map fun (arrays, err) =>
      if err ≠ 0 then ({ s with arrays := arrays }, err)
      else
        allocated arrays
          ⟨.devEui, .abp (devAddrOf (arrays .devAddr)) .appSkey .nwkSkey⟩
  else if s.joinCfg = none ∧ (s.settings .authOtaa).valBool then
    (parseCredentials s.settings otaaSteps s.arrays).map fun (arrays, err) =>
      if err ≠ 0 then ({ s with arrays := arrays }, err)
      else allocated arrays ⟨.devEui, .otaa .appKey .appKey .joinEui⟩
  else if s.joinCfg = none then .ok (s, - EINVAL)
  else .ok (s, 0)

/-- The loop of join attempts: how many are made from here on, and whether one
succeeded.  `tried` is the 16-bit counter, `made` the number of attempts so far. -/
def joinLoop (join : ℕ → ℤ) (tryMax : BitVec 16) :
    ℕ → BitVec 16 → ℕ → Except Fault (ℕ × Bool)
  | 0, _, _ => .error .diverged
  | fuel + 1, tried, made =>
    let tried := tried + 1
    if join made = 0 then .ok (made + 1, true)
    else if tried < tryMax then joinLoop join tryMax fuel tried (made + 1)
    else .ok (made + 1, false)

/-- The rest of the start callback: what it returns, and the calls it makes. -/
def connect (s : LorawanState) (outcome : StartOutcome) : Except Fault (ℤ × List LorawanCall) :=
  -- a channel mask that does not parse is logged and left out
  let mask := (parseHexSettingWords (s.settings .channelMask) 0 6).object
  if outcome.lorawanStart < 0 then .ok (outcome.lorawanStart, [.start])
  else
    match s.joinCfg with
    | none => .error .nullDeref
    | some cfg =>
      let calls := [.start] ++ (if (s.settings .adr).valBool then [.enableAdr] else []) ++
        (if (s.settings .sendRetries).valUint16 ≠ 0 then
          [.setConfMsgTries (s.settings .sendRetries).valUint16] else []) ++
        (if mask ≠ [] then [.setChannelMask mask] else [])
      (joinLoop outcome.join (s.settings .joinRetries).valUint16 (2 ^ 16) 0 0).map
        fun (attempts, joined) =>
          (if joined then 0 else - ENETUNREACH, calls ++ List.replicate attempts (.join cfg))

/-- `ztacx_lorawan_start`. -/
def ztacxLorawanStart (s : LorawanState) (outcome : StartOutcome) :
    Except Fault (LorawanState × ℤ × List LorawanCall) :=
  if (s.settings .enable).valBool then
    (configureJoin s outcome.alloc).bind fun (s, err) =>
      if err ≠ 0 then .ok (s, err, [])
      else (connect s outcome).map fun (rc, calls) => (s, rc, calls)
  else .ok (s, - ENOTSUP, [])

/-! ## Parsing into an array of the right size -/

theorem length_hexBytes (text : List UInt8) : (hexBytes text).length = text.length / 2 := by
  induction text using hexBytes.induct with
  | case1 a b rest ih =>
      rw [hexBytes, List.length_cons, ih, List.length_cons, List.length_cons]
      omega
  | case2 text short =>
      match text, short with
      | [], _ => rfl
      | [_], _ => simp [hexBytes]
      | a :: b :: rest, short => exact absurd rfl (short a b rest)

/-- The bytes of a setting that spells `n` of them. -/
def decodeSetting? (setting : ZtacxValue) (n : ℕ) : Option (List UInt8) :=
  let s := setting.valString.text.getD .empty
  if s.strlen / 2 = n then some (hexBytes s.bytes) else none

/-- **A parse with equal limits** fills the array, or fails and leaves it alone. -/
theorem parseHexSetting_exact (setting : ZtacxValue) {n : ℕ} (pos : 0 < n)
    {array : List UInt8} (len : array.length = n) :
    parseHexSetting setting n n array = .ok
      (match decodeSetting? setting n with
      | some bytes => ⟨bytes, some n, 0⟩
      | none => ⟨array, none, - EMSGSIZE⟩) := by
  have limits : ¬ ((n : ℤ) = 0 ∧ (setting.valString.text.getD .empty).strlen = 0) := by
    omega
  unfold parseHexSetting decodeSetting?
  dsimp only
  rw [if_neg limits]
  by_cases fits : (setting.valString.text.getD .empty).strlen / 2 = n
  · have filled : memcpyInto array 0 (hexBytes (setting.valString.text.getD .empty).bytes) =
        .ok (hexBytes (setting.valString.text.getD .empty).bytes) := by
      have full : (hexBytes (setting.valString.text.getD .empty).bytes).length = n :=
        (length_hexBytes _).trans fits
      rw [memcpyInto_of_le (by omega), splice_zero, List.drop_eq_nil_of_le (by omega),
        List.append_nil]
    rw [if_neg (by omega), if_pos fits, filled, fits]
    rfl
  · rw [if_pos (by omega), if_neg fits]

/-! ## The loop of join attempts ends -/

/-- The 16-bit counter does not wrap: it is at most `try_max` when it is compared. -/
theorem joinLoop_ends (join : ℕ → ℤ) (tryMax : BitVec 16) (fuel : ℕ) (tried : BitVec 16)
    (made : ℕ) (low : tried.toNat < 65535) (enough : 65536 ≤ tried.toNat + fuel) :
    ∃ r, joinLoop join tryMax fuel tried made = .ok r := by
  induction fuel generalizing tried made with
  | zero => omega
  | succ fuel ih =>
      have next : (tried + 1).toNat = tried.toNat + 1 := by
        rw [BitVec.toNat_add]
        show (tried.toNat + 1) % 65536 = _
        omega
      rw [joinLoop]
      split
      · exact ⟨_, rfl⟩
      · split
        · rename_i _ again
          have below : (tried + 1).toNat < tryMax.toNat := again
          have := tryMax.isLt
          exact ih _ (made + 1) (by omega) (by omega)
        · exact ⟨_, rfl⟩

end Ztacx
