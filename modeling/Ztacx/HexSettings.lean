import Ztacx.CModel.HexText
import Ztacx.Lorawan

/-!
# Hexadecimal settings

What the two parsers of `src/ztacx_lorawan.c` make of a text.  A text of pairs of
hexadecimal digits is decoded to the bytes it spells, and four digits are the word
of two of these bytes (`hexSettings_decode`).

The text of any other setting is cut into pairs all the same.  A last character
without a partner is left out, and a pair that is no number is read as whatever
`strtoul` makes of it.  A text is refused for its length, and for nothing else
(`parseHexSetting_checks_length`, `refusesMalformed_iff`).
-/

namespace Ztacx

open CModel

/-! ## Decoding -/

variable {bytes chars : List UInt8}

/-- The byte of a pair. -/
theorem strtoul16_pair {a b : UInt8} {x y : ℕ} (ha : hexDigit a = some x)
    (hb : hexDigit b = some y) : (strtoul16 (.ofBytes [a, b, 0])).toNat = 16 * x + y := by
  have digits : HexDigits [a, b] := HexDigits.pair (List.forall_mem_nil _) ha hb
  rw [show [a, b, 0] = [a, b] ++ [0] from rfl, strtoul16_digits digits (by simp),
    hexNumber_pair ha hb, hexNumber]
  omega

/-- **The text of bytes is decoded to them.** -/
theorem hexBytes_of_spelling (spelled : HexSpelling bytes chars) : hexBytes chars = bytes := by
  induction spelled with
  | nil => rfl
  | @pair b hi lo bytes chars high low rest ih =>
      have value : 16 * (b.toNat / 16) + b.toNat % 16 = b.toNat := by omega
      rw [hexBytes, strtoul16_pair high low, value, ih, UInt8.ofNat_toNat]

/-- Pairs of bytes as words, the high byte first. -/
def bigEndianPairs : List UInt8 → List (BitVec 16)
  | hi :: lo :: rest => BitVec.ofNat 16 (256 * hi.toNat + lo.toNat) :: bigEndianPairs rest
  | _ => []

theorem strtoul16_group {a b c d : UInt8} {w x y z : ℕ} (ha : hexDigit a = some w)
    (hb : hexDigit b = some x) (hc : hexDigit c = some y) (hd : hexDigit d = some z) :
    (strtoul16 (.ofBytes [a, b, c, d, 0])).toNat = 256 * (16 * w + x) + (16 * y + z) := by
  have digits : HexDigits [a, b, c, d] :=
    (HexDigits.pair (List.forall_mem_nil _) hc hd).pair ha hb
  rw [show [a, b, c, d, 0] = [a, b, c, d] ++ [0] from rfl, strtoul16_digits digits (by simp),
    hexNumber_pair ha hb, hexNumber_pair hc hd, hexNumber]
  omega

/-- **Four digits are the word of two bytes.** -/
theorem hexWords_eq (digits : HexDigits chars) :
    ∀ {k : ℕ}, chars.length = 4 * k → hexWords chars = bigEndianPairs (hexBytes chars) := by
  induction chars using hexWords.induct with
  | case1 a b c d rest ih =>
      intro k length
      obtain ⟨⟨w, ha⟩, digits⟩ := HexDigits.cons_iff.mp digits
      obtain ⟨⟨x, hb⟩, digits⟩ := HexDigits.cons_iff.mp digits
      obtain ⟨⟨y, hc⟩, digits⟩ := HexDigits.cons_iff.mp digits
      obtain ⟨⟨z, hd⟩, digits⟩ := HexDigits.cons_iff.mp digits
      have tail : rest.length = 4 * (k - 1) := by
        simp only [List.length_cons] at length
        omega
      have small : 16 * w + x < 2 ^ 8 ∧ 16 * y + z < 2 ^ 8 := by
        have := (hexDigit_plain ha).1
        have := (hexDigit_plain hb).1
        have := (hexDigit_plain hc).1
        have := (hexDigit_plain hd).1
        omega
      have word : (strtoul16 (.ofBytes [a, b, c, d, 0])).truncate 16 =
          BitVec.ofNat 16 (256 * (16 * w + x) + (16 * y + z)) := by
        apply BitVec.eq_of_toNat_eq
        rw [BitVec.truncate_eq_setWidth, BitVec.toNat_setWidth, strtoul16_group ha hb hc hd,
          BitVec.toNat_ofNat]
      rw [hexWords, word, ih digits tail, hexBytes, hexBytes, bigEndianPairs,
        strtoul16_pair ha hb, strtoul16_pair hc hd, UInt8.toNat_ofNat_of_lt' small.1,
        UInt8.toNat_ofNat_of_lt' small.2]
  | case2 chars short =>
      intro k length
      rcases chars with - | ⟨a, - | ⟨b, - | ⟨c, - | ⟨d, rest⟩⟩⟩⟩
      · rfl
      · simp only [List.length_cons, List.length_nil] at length
        omega
      · simp only [List.length_cons, List.length_nil] at length
        omega
      · simp only [List.length_cons, List.length_nil] at length
        omega
      · exact absurd rfl (short a b c d rest)

/-! ## Settings -/

variable {setting : ZtacxValue} {s : CString} {min max : ℤ} {bytesR : List UInt8}

/-- A length within the limits is all that is asked of a text. -/
theorem parseHexSetting_of_mem (text : setting.valString.text.getD .empty = s)
    (low : min ≤ (s.strlen / 2 : ℕ)) (high : (s.strlen / 2 : ℕ) ≤ max)
    (room : max ≤ bytesR.length) :
    parseHexSetting setting min max bytesR =
      .ok ⟨hexBytes s.bytes ++ bytesR.drop (s.strlen / 2), some (s.strlen / 2), 0⟩ := by
  have size : (hexBytes s.bytes).length = s.strlen / 2 := length_hexBytes _
  have written : memcpyInto bytesR 0 (hexBytes s.bytes) =
      .ok (hexBytes s.bytes ++ bytesR.drop (s.strlen / 2)) := by
    rw [memcpyInto_of_le (by omega), splice_zero, size]
  unfold parseHexSetting
  dsimp only
  rw [text]
  by_cases unset : min = 0 ∧ s.strlen = 0
  · have nothing : hexBytes s.bytes = [] := by
      rw [← List.length_eq_zero_iff, size, unset.2]
    rw [if_pos unset, nothing, unset.2]
    rfl
  · rw [if_neg unset, if_neg (by omega), written]
    rfl

/-- A text of any other length changes nothing. -/
theorem parseHexSetting_of_notMem (text : setting.valString.text.getD .empty = s) (pos : 1 ≤ min)
    (outside : ¬ (min ≤ (s.strlen / 2 : ℕ) ∧ (s.strlen / 2 : ℕ) ≤ max)) :
    parseHexSetting setting min max bytesR = .ok ⟨bytesR, none, - EMSGSIZE⟩ := by
  unfold parseHexSetting
  dsimp only
  rw [text, if_neg (by omega), if_pos (by omega)]

theorem parseHexSettingWords_of_mem (text : setting.valString.text.getD .empty = s)
    (low : min ≤ (s.strlen / 4 : ℕ)) (high : (s.strlen / 4 : ℕ) ≤ max) :
    parseHexSettingWords setting min max = ⟨hexWords s.bytes, some (s.strlen / 4), 0⟩ := by
  unfold parseHexSettingWords
  dsimp only
  rw [text]
  by_cases unset : min = 0 ∧ s.strlen = 0
  · have nothing : s.bytes = [] := List.length_eq_zero_iff.mp unset.2
    rw [if_pos unset, nothing, unset.2]
    rfl
  · rw [if_neg unset, if_neg (by omega)]

/-- A setting that spells `b` is parsed to `b`, and one of digits in groups of four
to the words of what it is parsed to as bytes. -/
theorem hexSettings_decode (setting : ZtacxValue) (s : CString)
    (text : setting.valString.text = some s) (min max : ℤ) :
    (∀ b bytesR, HexSpelling b s.bytes → min ≤ b.length → b.length ≤ max →
      max ≤ bytesR.length → parseHexSetting setting min max bytesR =
        .ok ⟨b ++ bytesR.drop b.length, some b.length, 0⟩) ∧
    ∀ k : ℕ, HexDigits s.bytes → s.strlen = 4 * k → min ≤ k → k ≤ max →
      ∀ (minBytes maxBytes : ℤ) (bytesR : List UInt8), minBytes ≤ (2 * k : ℕ) →
        (2 * k : ℕ) ≤ maxBytes → maxBytes ≤ bytesR.length →
        ∃ b, b.length = 2 * k ∧
          parseHexSetting setting minBytes maxBytes bytesR =
            .ok ⟨b ++ bytesR.drop (2 * k), some (2 * k), 0⟩ ∧
          parseHexSettingWords setting min max = ⟨bigEndianPairs b, some k, 0⟩ := by
  have text : setting.valString.text.getD .empty = s := by rw [text, Option.getD_some]
  constructor
  · intro b bytesR spelled low high room
    have length : s.strlen / 2 = b.length := by
      have pairs : s.strlen = 2 * b.length := spelled.length_eq
      omega
    rw [parseHexSetting_of_mem text (by omega) (by omega) room, hexBytes_of_spelling spelled,
      length]
  · intro k digits length low high minBytes maxBytes bytesR lowBytes highBytes room
    have half : s.strlen / 2 = 2 * k := by omega
    have quarter : s.strlen / 4 = k := by omega
    refine ⟨hexBytes s.bytes, (length_hexBytes _).trans half, ?_, ?_⟩
    · rw [parseHexSetting_of_mem text (by omega) (by omega) room, half]
    · rw [parseHexSettingWords_of_mem text (by omega) (by omega), quarter,
        hexWords_eq digits length]

/-- A setting with a text. -/
def hexSetting (text : CString) : ZtacxValue :=
  { ZtacxValue.zero with valString := .block text }

theorem hexSettings_decode_mixedCase :
    parseHexSetting (hexSetting (.ofString "aBfF")) 1 4 [7, 7, 7, 7] =
        .ok ⟨[0xAB, 0xFF, 7, 7], some 2, 0⟩ ∧
      parseHexSettingWords (hexSetting (.ofString "aBfF")) 0 6 = ⟨[0xABFF], some 1, 0⟩ := by
  have spelled : HexSpelling [0xAB, 0xFF] (CString.ofString "aBfF").bytes :=
    .pair rfl rfl (.pair rfl rfl .nil)
  refine ⟨(hexSettings_decode _ _ rfl 1 4).1 [0xAB, 0xFF] [7, 7, 7, 7] spelled (by decide)
    (by decide) (by decide), ?_⟩
  obtain ⟨b, -, parsed, words⟩ := (hexSettings_decode (hexSetting (.ofString "aBfF")) _ rfl 0 6).2
    1 spelled.digits (by decide) (by decide) (by decide) 2 2 [0, 0] (by decide) (by decide)
    (by decide)
  have bytes : parseHexSetting (hexSetting (.ofString "aBfF")) 2 2 [0, 0] =
      .ok ⟨[0xAB, 0xFF], some 2, 0⟩ := by decide +kernel
  rw [bytes] at parsed
  have same : [0xAB, 0xFF] = b := by simpa using parsed
  rw [words, ← same]
  rfl

/-! ## What is refused -/

/-- The limits and the buffer of a setting that must not be empty. -/
structure HexRequest where
  min : ℤ
  max : ℤ
  bytesR : List UInt8
  one_le_min : 1 ≤ min
  min_le_max : min ≤ max
  room : max ≤ bytesR.length

/-- The setting is the spelling of as many bytes as are asked for. -/
def WellFormed (setting : ZtacxValue) (r : HexRequest) : Prop :=
  ∃ s n, setting.valString.text = some s ∧ r.min ≤ (n : ℕ) ∧ n ≤ r.max ∧ s.strlen = 2 * n ∧
    HexDigits s.bytes

/-- Whatever is not well formed is refused without a trace. -/
def RefusesMalformed (setting : ZtacxValue) (r : HexRequest) : Prop :=
  ∃ parsed, parseHexSetting setting r.min r.max r.bytesR = .ok parsed ∧
    (parsed.rc = 0 → WellFormed setting r) ∧
    (¬ WellFormed setting r → parsed.rc ≠ 0 ∧ parsed.object = r.bytesR)

/-- There are as many pairs of characters as are asked for. -/
def RightLength (setting : ZtacxValue) (r : HexRequest) : Prop :=
  ∃ s, setting.valString.text = some s ∧ r.min ≤ (s.strlen / 2 : ℕ) ∧
    (s.strlen / 2 : ℕ) ≤ r.max

variable {r : HexRequest}

/-- An unset text has no characters, and every minimum asks for some. -/
theorem rightLength_iff :
    RightLength setting r ↔
      r.min ≤ ((setting.valString.text.getD .empty).strlen / 2 : ℕ) ∧
        ((setting.valString.text.getD .empty).strlen / 2 : ℕ) ≤ r.max := by
  cases text : setting.valString.text with
  | some s =>
      constructor
      · rintro ⟨s', text', low, high⟩
        cases text.symm.trans text'
        exact ⟨low, high⟩
      · exact fun limits => ⟨s, text, limits⟩
  | none =>
      refine iff_of_false ?_ fun limits => ?_
      · rintro ⟨s, text', -⟩
        cases text.symm.trans text'
      · exact absurd (r.one_le_min.trans limits.1) (by decide)

theorem parseHexSetting_of_rightLength (right : RightLength setting r) :
    ∃ s, setting.valString.text = some s ∧
      parseHexSetting setting r.min r.max r.bytesR =
        .ok ⟨hexBytes s.bytes ++ r.bytesR.drop (s.strlen / 2), some (s.strlen / 2), 0⟩ := by
  obtain ⟨s, text, low, high⟩ := right
  exact ⟨s, text, parseHexSetting_of_mem (by rw [text, Option.getD_some]) low high r.room⟩

theorem parseHexSetting_of_not_rightLength (wrong : ¬ RightLength setting r) :
    parseHexSetting setting r.min r.max r.bytesR = .ok ⟨r.bytesR, none, - EMSGSIZE⟩ :=
  parseHexSetting_of_notMem rfl r.one_le_min fun limits => wrong (rightLength_iff.mpr limits)

theorem EMSGSIZE_ne_zero : - EMSGSIZE ≠ 0 := by decide

/-- The length decides, and the characters do not count. -/
theorem parseHexSetting_checks_length (setting : ZtacxValue) (r : HexRequest) :
    ∃ parsed, parseHexSetting setting r.min r.max r.bytesR = .ok parsed ∧
      (parsed.rc = 0 → RightLength setting r) ∧
      (¬ RightLength setting r → parsed.rc ≠ 0 ∧ parsed.object = r.bytesR) ∧
      ∀ s n, setting.valString.text = some s → s.strlen = 2 * n → r.min ≤ (n : ℕ) → n ≤ r.max →
        parsed.rc = 0 ∧ parsed.count = some n := by
  by_cases right : RightLength setting r
  · obtain ⟨s, text, parsed⟩ := parseHexSetting_of_rightLength right
    refine ⟨_, parsed, fun _ => right, fun wrong => absurd right wrong, ?_⟩
    intro s' n text' even _ _
    cases text.symm.trans text'
    refine ⟨rfl, ?_⟩
    rw [even, Nat.mul_div_cancel_left n two_pos]
  · refine ⟨_, parseHexSetting_of_not_rightLength right, fun zero => ?_, fun _ => ?_, ?_⟩
    · exact absurd zero EMSGSIZE_ne_zero
    · exact ⟨EMSGSIZE_ne_zero, rfl⟩
    · intro s n text even low high
      refine absurd ⟨s, text, ?_⟩ right
      rw [even, Nat.mul_div_cancel_left n two_pos]
      exact ⟨low, high⟩

/-- One byte. -/
def byteRequest : HexRequest := ⟨1, 1, [7], by decide, by decide, by decide⟩

/-- Text that is no number is taken for the byte 0. -/
theorem notHex_accepted :
    parseHexSetting (hexSetting (.ofString "no")) 1 1 [7] = .ok ⟨[0], some 1, 0⟩ ∧
      ¬ RefusesMalformed (hexSetting (.ofString "no")) byteRequest := by
  have parsed : parseHexSetting (hexSetting (.ofString "no")) 1 1 [7] = .ok ⟨[0], some 1, 0⟩ := by
    decide +kernel
  refine ⟨parsed, ?_⟩
  rintro ⟨out, same, onlyWell, -⟩
  obtain rfl := Except.ok.inj (parsed.symm.trans same)
  obtain ⟨s, n, text, -, -, -, digits⟩ := onlyWell rfl
  cases text
  exact absurd digits (by decide +kernel)

/-- **What should have been refused and is not**: a character over, or one that is no
digit, in a text of the right length. -/
theorem refusesMalformed_iff (setting : ZtacxValue) (r : HexRequest) :
    RefusesMalformed setting r ↔ (RightLength setting r → WellFormed setting r) := by
  constructor
  · rintro ⟨out, same, onlyWell, -⟩ right
    obtain ⟨s, -, parsed⟩ := parseHexSetting_of_rightLength right
    obtain rfl := Except.ok.inj (parsed.symm.trans same)
    exact onlyWell rfl
  · intro well
    by_cases right : RightLength setting r
    · obtain ⟨s, -, parsed⟩ := parseHexSetting_of_rightLength right
      exact ⟨_, parsed, fun _ => well right, fun malformed => absurd (well right) malformed⟩
    · exact ⟨_, parseHexSetting_of_not_rightLength right,
        fun zero => absurd zero EMSGSIZE_ne_zero, fun _ => ⟨EMSGSIZE_ne_zero, rfl⟩⟩

end Ztacx
