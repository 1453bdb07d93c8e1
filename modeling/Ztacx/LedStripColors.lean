import Ztacx.CModel.Decimal
import Ztacx.CModel.HexText
import Ztacx.LedStrip

/-!
# Notations of a colour

`color_parse` reads three notations of a colour: `#rrggbb`, `rgb:r,g,b` and a
name.  The first and the last give what they say.  In the second the pointer is
moved on by one character where it should have been moved behind `rgb:`, so the
red component is read from the text `gb:…` and always 0 (`colorParse_rgb`), and
the walk over the commas returns success wherever it stops.

A text is read as it should be unless it starts with `rgb:` and has fewer than two
commas, or denotes a colour with a red component (`Misread`, `parsesColor_iff`).
-/

namespace Ztacx

open CModel

/-! ## The notations -/

/-- `#rrggbb`, with digits of either case. -/
def IsHashText (c : CString) (color : LedRgb) : Prop :=
  ∃ digits, HexSpelling [color.r, color.g, color.b] digits ∧ c.bytes = 35 :: digits

/-- A component in decimal. -/
def componentText (x : UInt8) : List UInt8 := digitText (decimalDigits x.toNat)

/-- `rgb:` -/
def rgbPrefix : CString := .ofString "rgb:"

/-- `rgb:r,g,b` -/
def rgbText (color : LedRgb) : CString where
  bytes := rgbPrefix.bytes ++
    (componentText color.r ++ 44 :: (componentText color.g ++ 44 :: componentText color.b))
  nul_free := by
    simp [componentText, nul_notMem_digitText, rgbPrefix.nul_free]

/-- What parsing a colour is, for one text and whatever the output held before. -/
structure ParsesColor (atoi : CString → BitVec 32) (c : CString) : Prop where
  hash : ∀ color, IsHashText c color → ∀ before, colorParse atoi c before = (color, 0)
  rgb : ∀ color, c = rgbText color → ∀ before, colorParse atoi c before = (color, 0)
  /-- A colour that is accepted is that of the text. -/
  determined : ∀ before before', (colorParse atoi c before).2 = 0 →
    colorParse atoi c before' = colorParse atoi c before
  /-- A text that is not accepted leaves the output alone. -/
  unchanged : ∀ before, (colorParse atoi c before).2 ≠ 0 → (colorParse atoi c before).1 = before

/-! ## Hexadecimal -/

theorem colorParse_hash {atoi : CString → BitVec 32} {c : CString} {color : LedRgb}
    (spelled : IsHashText c color) (before : LedRgb) : colorParse atoi c before = (color, 0) := by
  obtain ⟨digits, spelled, bytes⟩ := spelled
  have value : (strtoul16 (c.drop 1)).toNat =
      65536 * color.r.toNat + 256 * color.g.toNat + color.b.toNat := by
    have text : c.drop 1 = .ofBytes (digits ++ [0]) := by
      have tail : c.drop 1 = ⟨digits, spelled.digits.nul_free⟩ :=
        CString.ext (by rw [CString.drop_bytes, bytes, List.drop_succ_cons, List.drop_zero])
      rw [tail]
      exact (CString.ofBytes_append_nul ⟨digits, spelled.digits.nul_free⟩ []).symm
    have short : digits.length ≤ 8 := by
      rw [spelled.length_eq]
      show 2 * 3 ≤ 8
      decide
    rw [text, strtoul16_digits spelled.digits short, spelled.hexNumber_eq]
    simp only [List.foldl_cons, List.foldl_nil]
    omega
  have component : ∀ x : UInt8, ∀ n : ℕ, n % 256 = x.toNat → UInt8.ofNat n = x := by
    intro x n low
    apply UInt8.toNat_inj.mp
    rw [UInt8.toNat_ofNat', low]
  have small := color.r.toNat_lt
  have small' := color.g.toNat_lt
  have small'' := color.b.toNat_lt
  rw [colorParse, if_pos (by rw [bytes]; rfl)]
  refine Prod.ext ?_ rfl
  show LedRgb.mk _ _ _ = color
  simp only [lowByte, BitVec.toNat_ushiftRight, value, Nat.shiftRight_eq_div_pow]
  rw [component color.r _ (by omega), component color.g _ (by omega),
    component color.b _ (by omega)]

/-! ## Decimal -/

/-- The first comma splits the text. -/
theorem strchr_append {s : CString} {front back : List UInt8} {x : UInt8}
    (bytes : s.bytes = front ++ x :: back) (absent : x ∉ front) (free : 0 ∉ x :: back) :
    strchr s x = some ⟨x :: back, free⟩ := by
  have found : s.bytes.findIdx? (· = x) = some front.length := by
    rw [bytes, List.findIdx?_append, List.findIdx?_eq_none_iff.mpr]
    · simp [List.findIdx?_cons]
    · intro y mem
      exact decide_eq_false fun same => absent (same ▸ mem)
  rw [strchr, found, Option.map_some]
  congr 1
  apply CString.ext
  rw [CString.drop_bytes, bytes, List.drop_left]

theorem strchr_eq_none {s : CString} {x : UInt8} (absent : x ∉ s.bytes) : strchr s x = none := by
  rw [strchr, List.findIdx?_eq_none_iff.mpr, Option.map_none]
  intro y mem
  exact decide_eq_false fun same => absent (same ▸ mem)

/-- Behind the comma that is found there is one comma less. -/
theorem count_strchr {s t : CString} {x : UInt8} (found : strchr s x = some t) :
    s.bytes.count x = (t.drop 1).bytes.count x + 1 := by
  by_cases mem : x ∈ s.bytes
  · obtain ⟨front, back, bytes, absent⟩ := List.eq_append_cons_of_mem mem
    have free : 0 ∉ x :: back := fun zero =>
      s.nul_free (bytes ▸ List.mem_append_right front zero)
    rw [strchr_append bytes absent free] at found
    rw [← Option.some.inj found, bytes, List.count_append, List.count_eq_zero_of_not_mem absent,
      List.count_cons_self, CString.drop_bytes, List.drop_succ_cons, List.drop_zero, Nat.zero_add]
  · rw [strchr_eq_none mem] at found
    cases found

theorem exists_strchr {s : CString} {x : UInt8} (some : 0 < s.bytes.count x) :
    ∃ t, strchr s x = .some t := by
  obtain ⟨front, back, bytes, absent⟩ := List.eq_append_cons_of_mem (List.count_pos_iff.mp some)
  have free : 0 ∉ x :: back := fun zero =>
    s.nul_free (bytes ▸ List.mem_append_right front zero)
  exact ⟨_, strchr_append bytes absent free⟩

section Rgb

variable {overflow : CString → BitVec 32} {c : CString} {rest : List UInt8}

theorem rgbPrefix_bytes : rgbPrefix.bytes = [114, 103, 98, 58] := rfl

/-- A text that starts with `rgb:`. -/
def StartsWithRgb (c : CString) : Prop := c.bytes.take 4 = rgbPrefix.bytes

instance decidableStartsWithRgb (c : CString) : Decidable (StartsWithRgb c) :=
  inferInstanceAs (Decidable (c.bytes.take 4 = rgbPrefix.bytes))

/-- The walk over the commas, behind a red component of 0. -/
def rgbWalk (atoi : CString → BitVec 32) (c : CString) (color : LedRgb) : LedRgb :=
  let color := { color with r := 0 }
  match strchr (c.drop 1) 44 with
  | none => color
  | some c =>
    let c := c.drop 1
    let color := { color with g := lowByte (atoi c) }
    match strchr c 44 with
    | none => color
    | some c => { color with b := lowByte (atoi (c.drop 1)) }

/-- The red component is read from `gb:…`. -/
theorem colorParse_rgb (starts : StartsWithRgb c) (before : LedRgb) :
    colorParse (atoi overflow) c before = (rgbWalk (atoi overflow) c before, 0) := by
  have bytes : c.bytes = 114 :: 103 :: 98 :: 58 :: c.bytes.drop 4 := by
    have whole := List.take_append_drop 4 c.bytes
    rw [starts, rgbPrefix_bytes] at whole
    exact whole.symm
  have red : lowByte (atoi overflow (c.drop 1)) = 0 := by
    have zero : decimalInt (c.drop 1) = 0 := by
      have moved : (c.drop 1).bytes = 103 :: 98 :: 58 :: c.bytes.drop 4 := by
        rw [CString.drop_bytes, bytes]
        rfl
      exact decimalInt_eq_zero moved (by decide) (by decide) (by decide)
    rw [atoi, zero, if_pos (by decide)]
    rfl
  have second : c.bytes.take 4 = (CString.ofString "rgb:").bytes := starts
  rw [colorParse, if_neg (by rw [bytes]; simp), if_pos second, rgbWalk]
  dsimp only
  rw [red]
  cases strchr (c.drop 1) 44 with
  | none => rfl
  | some c =>
      dsimp only
      cases strchr (c.drop 1) 44 <;> rfl

@[simp] theorem rgbWalk_r (atoi : CString → BitVec 32) (c : CString) (color : LedRgb) :
    (rgbWalk atoi c color).r = 0 := by
  unfold rgbWalk
  dsimp only
  split
  · rfl
  · split <;> rfl

/-- With fewer than two commas the blue component is not written. -/
theorem rgbWalk_b (atoi : CString → BitVec 32) (few : c.bytes.count 44 < 2) (color : LedRgb) :
    (rgbWalk atoi c color).b = color.b := by
  have start : (c.drop 1).bytes.count 44 ≤ c.bytes.count 44 :=
    (List.drop_sublist 1 c.bytes).count_le 44
  unfold rgbWalk
  dsimp only
  cases first : strchr (c.drop 1) 44 with
  | none => rfl
  | some t =>
      dsimp only
      cases second : strchr (t.drop 1) 44 with
      | none => rfl
      | some u =>
          have one := count_strchr first
          have two := count_strchr second
          omega

/-- With two commas all components are written. -/
theorem rgbWalk_congr (atoi : CString → BitVec 32) (starts : StartsWithRgb c)
    (enough : 2 ≤ c.bytes.count 44) (color color' : LedRgb) :
    rgbWalk atoi c color = rgbWalk atoi c color' := by
  have start : (c.drop 1).bytes.count 44 = c.bytes.count 44 := by
    have whole := List.take_append_drop 4 c.bytes
    rw [starts, rgbPrefix_bytes] at whole
    rw [CString.drop_bytes, ← whole]
    rfl
  obtain ⟨t, first⟩ := exists_strchr (s := c.drop 1) (x := 44) (by omega)
  have one := count_strchr first
  obtain ⟨u, second⟩ := exists_strchr (s := t.drop 1) (x := 44) (by omega)
  simp only [rgbWalk, first, second]

theorem comma_notMem_componentText (x : UInt8) : 44 ∉ componentText x :=
  plain_digitText (by decide) _

/-- A component is read up to the comma behind it. -/
theorem lowByte_atoi {s : CString} {x : UInt8} (bytes : s.bytes = componentText x ++ rest)
    (ends : ∀ c ∈ rest.head?, decDigit c = none) : lowByte (atoi overflow s) = x := by
  have small := x.toNat_lt
  have value : decimalInt s = x.toNat := by
    rw [decimalInt_digitText_append bytes (decimalDigits_ne_nil _) ends, digitsNat_decimalDigits]
  have fits : IsInt x.toNat := by
    unfold IsInt INT_MIN INT_MAX
    omega
  rw [atoi, value, if_pos fits, lowByte, BitVec.ofInt_natCast, BitVec.toNat_ofNat,
    Nat.mod_eq_of_lt (by omega), UInt8.ofNat_toNat]

/-- The three components in decimal. -/
theorem rgbWalk_rgbText (color before : LedRgb) :
    rgbWalk (atoi overflow) (rgbText color) before = { color with r := 0 } := by
  let blue : CString := ⟨44 :: componentText color.b, by
    simp [componentText, nul_notMem_digitText]⟩
  let green : CString := ⟨44 :: (componentText color.g ++ blue.bytes), by
    simp [blue, componentText, nul_notMem_digitText]⟩
  have first : strchr ((rgbText color).drop 1) 44 = some green := by
    have front : 44 ∉ [103, 98, 58] ++ componentText color.r := by
      rw [List.mem_append, not_or]
      exact ⟨by decide, comma_notMem_componentText _⟩
    refine strchr_append ?_ front _
    rw [List.append_assoc]
    rfl
  have second : strchr (green.drop 1) 44 = some blue :=
    strchr_append rfl (comma_notMem_componentText color.g) _
  have readGreen : lowByte (atoi overflow (green.drop 1)) = color.g := by
    have bytes : (green.drop 1).bytes = componentText color.g ++ blue.bytes := rfl
    refine lowByte_atoi bytes fun c comma => ?_
    rw [← Option.some.inj comma]
    rfl
  have readBlue : lowByte (atoi overflow (blue.drop 1)) = color.b :=
    @lowByte_atoi _ [] _ _ (List.append_nil _).symm nofun
  simp only [rgbWalk, first, second, readGreen, readBlue]

end Rgb

/-! ## What is misread -/

/-- A text that starts with `rgb:` and has fewer than two commas, or that denotes a
colour with a red component. -/
def Misread (c : CString) : Prop :=
  StartsWithRgb c ∧ (c.bytes.count 44 < 2 ∨ ∃ color, color.r ≠ 0 ∧ c = rgbText color)

theorem startsWithRgb_rgbText (color : LedRgb) : StartsWithRgb (rgbText color) := rfl

theorem not_startsWithRgb_of_hash {c : CString} {color : LedRgb} (hash : IsHashText c color) :
    ¬ StartsWithRgb c := by
  obtain ⟨digits, -, bytes⟩ := hash
  intro starts
  rw [StartsWithRgb, bytes, rgbPrefix_bytes] at starts
  exact absurd (List.cons.inj starts).1 (by decide)

/-- The other notations are read whole or not at all. -/
theorem colorParse_of_not_rgb (atoi : CString → BitVec 32) {c : CString}
    (other : ¬ StartsWithRgb c) :
    (∃ color, ∀ before, colorParse atoi c before = (color, 0)) ∨
      ∀ before, colorParse atoi c before = (before, -1) := by
  have second : ¬ c.bytes.take 4 = (CString.ofString "rgb:").bytes := other
  by_cases hash : c.bytes.head? = some 35
  · left
    exact ⟨_, fun before => by rw [colorParse, if_pos hash]⟩
  · cases named : colors.lookup c with
    | some color =>
        left
        exact ⟨color, fun before => by rw [colorParse, if_neg hash, if_neg second, named]⟩
    | none =>
        right
        exact fun before => by rw [colorParse, if_neg hash, if_neg second, named]

theorem parsesColor_of_not_rgb (atoi : CString → BitVec 32) {c : CString}
    (other : ¬ StartsWithRgb c) : ParsesColor atoi c where
  hash := fun _ spelled before => colorParse_hash spelled before
  rgb := by
    rintro color rfl
    exact absurd (startsWithRgb_rgbText color) other
  determined := by
    intro before before' accepted
    obtain ⟨color, all⟩ | all := colorParse_of_not_rgb atoi other
    · rw [all, all]
    · rw [all] at accepted
      exact absurd (show (-1 : ℤ) = 0 from accepted) (by decide)
  unchanged := by
    intro before refused
    obtain ⟨color, all⟩ | all := colorParse_of_not_rgb atoi other
    · rw [all] at refused
      exact absurd rfl refused
    · rw [all]

theorem parsesColor_of_rgb {overflow : CString → BitVec 32} {c : CString}
    (starts : StartsWithRgb c) (good : ¬ Misread c) : ParsesColor (atoi overflow) c where
  hash := fun _ spelled _ => absurd starts (not_startsWithRgb_of_hash spelled)
  rgb := by
    rintro color rfl before
    have red : color.r = 0 := by
      by_contra nonzero
      exact good ⟨starts, Or.inr ⟨color, nonzero, rfl⟩⟩
    rw [colorParse_rgb starts, rgbWalk_rgbText, ← red]
  determined := by
    intro before before' _
    have enough : 2 ≤ c.bytes.count 44 := by
      by_contra few
      exact good ⟨starts, Or.inl (by omega)⟩
    rw [colorParse_rgb starts, colorParse_rgb starts, rgbWalk_congr _ starts enough]
  unchanged := by
    intro before refused
    rw [colorParse_rgb starts] at refused
    exact absurd rfl refused

theorem parsesColor_iff (overflow : CString → BitVec 32) (c : CString) :
    ParsesColor (atoi overflow) c ↔ ¬ Misread c := by
  constructor
  · rintro parses ⟨starts, few | ⟨color, red, rfl⟩⟩
    · have same := parses.determined ⟨0, 0, 0⟩ ⟨0, 0, 1⟩ (by rw [colorParse_rgb starts])
      rw [colorParse_rgb starts, colorParse_rgb starts] at same
      have blue := congrArg LedRgb.b (Prod.mk.inj same).1
      rw [rgbWalk_b _ few, rgbWalk_b _ few] at blue
      exact absurd blue (by decide)
    · have whole := parses.rgb color rfl ⟨0, 0, 0⟩
      rw [colorParse_rgb starts] at whole
      have zero := congrArg LedRgb.r (Prod.mk.inj whole).1
      rw [rgbWalk_r] at zero
      exact red zero.symm
  · intro good
    by_cases starts : StartsWithRgb c
    · exact parsesColor_of_rgb starts good
    · exact parsesColor_of_not_rgb _ starts

/-- A red component is lost. -/
theorem rgbText_not_parsed :
    colorParse (atoi fun _ => 0) (rgbText ⟨10, 20, 30⟩) ⟨0, 0, 0⟩ = (⟨0, 20, 30⟩, 0) ∧
      ¬ ParsesColor (atoi fun _ => 0) (rgbText ⟨10, 20, 30⟩) := by
  have lost : colorParse (atoi fun _ => 0) (rgbText ⟨10, 20, 30⟩) ⟨0, 0, 0⟩ =
      (⟨0, 20, 30⟩, 0) := by decide +kernel
  refine ⟨lost, fun parses => ?_⟩
  rw [parses.rgb _ rfl] at lost
  exact absurd lost (by decide)

end Ztacx
