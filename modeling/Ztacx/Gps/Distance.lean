import Mathlib.Analysis.Real.Pi.Bounds
import Mathlib.Analysis.SpecialFunctions.Trigonometric.Inverse

/-!
# Distance between two positions

`distance` with its `double` arithmetic read as exact arithmetic of real numbers.
The haversine formula adds two terms under the root, one for the latitudes and
one for the longitudes (`haversine`).  In the code a parenthesis closes late: the
factors of the second term multiply the first one too.

What is lost under the root is exactly
`sin²(Δlat/2) · (1 - cos lat₂ · sin²(Δlon/2))` (`hav_sub_underRoot`).  It is never
negative, so the code measures too little or the right thing
(`distance_le_haversine`), and the root and the arc sine are injective on what
can occur.  Hence the code agrees with the formula on one parallel, and off it only for
a start on the equator half a turn away (`distance_eq_haversine_iff`), where the
way back is measured differently.

Along a meridian the whole value is lost (`distance_meridian`): however far the
two points are apart, the code says 0.
-/

noncomputable section

namespace Ztacx.Gps

open Real

/-! ## The code -/

/-- The source's decimal constant, not `π`. -/
def PIx : ℝ := 3.141592653589793

/-- In kilometres. -/
def earthRadius : ℝ := 6371

def convertToRadians (val : ℝ) : ℝ := val * PIx / 180

/-- The local `a` of `distance`. -/
def underRoot (lat1 lon1 lat2 lon2 : ℝ) : ℝ :=
  let dlon := convertToRadians (lon2 - lon1)
  let dlat := convertToRadians (lat2 - lat1)
  (sin (dlat / 2) ^ 2 + cos (convertToRadians lat1)) * cos (convertToRadians lat2) *
    sin (dlon / 2) ^ 2

/-- In metres. -/
def distance (lat1 lon1 lat2 lon2 : ℝ) : ℝ :=
  let angle := 2 * arcsin (√(underRoot lat1 lon1 lat2 lon2))
  angle * earthRadius * 1000

/-! ## The great circle -/

/-- A position on the globe, in degrees. -/
@[ext]
structure GeoPoint where
  lat : ℝ
  lon : ℝ
  neg_le_lat : -90 ≤ lat
  lat_le : lat ≤ 90
  neg_le_lon : -180 ≤ lon
  lon_le : lon ≤ 180

/-- The haversine of the angle between two points, angles in radians. -/
def hav (lat1 lat2 dlon : ℝ) : ℝ :=
  sin ((lat2 - lat1) / 2) ^ 2 + cos lat1 * cos lat2 * sin (dlon / 2) ^ 2

theorem hav_comm (lat1 lat2 dlon : ℝ) : hav lat1 lat2 dlon = hav lat2 lat1 (-dlon) := by
  have hlat : sin ((lat1 - lat2) / 2) ^ 2 = sin ((lat2 - lat1) / 2) ^ 2 := by
    rw [show (lat1 - lat2) / 2 = -((lat2 - lat1) / 2) by ring, sin_neg, neg_sq]
  rw [hav, hav, hlat, neg_div, sin_neg, neg_sq]
  ring

/-- The two terms together are what the half-angle formula leaves of 1. -/
theorem hav_le_one {lat1 lat2 : ℝ} (dlon : ℝ) (h1 : 0 ≤ cos lat1) (h2 : 0 ≤ cos lat2) :
    hav lat1 lat2 dlon ≤ 1 := by
  have hdlon : cos lat1 * cos lat2 * sin (dlon / 2) ^ 2 ≤ cos lat1 * cos lat2 :=
    mul_le_of_le_one_right (mul_nonneg h1 h2) (sin_sq_le_one _)
  have hdlat : sin ((lat2 - lat1) / 2) ^ 2 = (1 - cos (lat2 - lat1)) / 2 := by
    have hdouble := cos_two_mul ((lat2 - lat1) / 2)
    rw [mul_div_cancel₀ _ two_ne_zero] at hdouble
    linarith [sin_sq_add_cos_sq ((lat2 - lat1) / 2)]
  have hdiff := cos_sub lat2 lat1
  have hsum := cos_add lat2 lat1
  have hone := cos_le_one (lat2 + lat1)
  rw [hav, hdlat]
  nlinarith

/-- The haversine formula, in metres. -/
def haversine (p q : GeoPoint) : ℝ :=
  2 * (earthRadius * 1000) * arcsin (√(hav (convertToRadians p.lat) (convertToRadians q.lat)
    (convertToRadians (q.lon - p.lon))))

theorem convertToRadians_sub (x y : ℝ) :
    convertToRadians (x - y) = convertToRadians x - convertToRadians y := by
  simp only [convertToRadians]
  ring

theorem haversine_comm (p q : GeoPoint) : haversine p q = haversine q p := by
  rw [haversine, haversine, hav_comm, convertToRadians_sub, convertToRadians_sub, neg_sub]

/-! ## Angles that can occur -/

theorem PIx_pos : 0 < PIx := by norm_num [PIx]

theorem PIx_lt_pi : PIx < π := lt_trans (by norm_num [PIx]) pi_gt_d20

namespace GeoPoint

variable (p q : GeoPoint)

/-- Even at the poles, because the source's constant is below `π`. -/
theorem cos_lat_pos : 0 < cos (convertToRadians p.lat) := by
  have hlow := mul_le_mul_of_nonneg_right p.neg_le_lat PIx_pos.le
  have hhigh := mul_le_mul_of_nonneg_right p.lat_le PIx_pos.le
  refine cos_pos_of_mem_Ioo ⟨?_, ?_⟩ <;> rw [convertToRadians] <;> linarith [PIx_lt_pi]

theorem sin_dlat_eq_zero_iff :
    sin (convertToRadians (q.lat - p.lat) / 2) = 0 ↔ p.lat = q.lat := by
  have hlow : -180 * PIx ≤ (q.lat - p.lat) * PIx :=
    mul_le_mul_of_nonneg_right (by linarith [p.lat_le, q.neg_le_lat]) PIx_pos.le
  have hhigh : (q.lat - p.lat) * PIx ≤ 180 * PIx :=
    mul_le_mul_of_nonneg_right (by linarith [p.neg_le_lat, q.lat_le]) PIx_pos.le
  have hlt : convertToRadians (q.lat - p.lat) / 2 < π := by
    rw [convertToRadians]
    linarith [PIx_lt_pi, PIx_pos]
  have hgt : -π < convertToRadians (q.lat - p.lat) / 2 := by
    rw [convertToRadians]
    linarith [PIx_lt_pi, PIx_pos]
  rw [sin_eq_zero_iff_of_lt_of_lt hgt hlt]
  simp [convertToRadians, PIx_pos.ne', sub_eq_zero, eq_comm (a := p.lat)]

/-- The cosine of a latitude reaches 1 on the equator only. -/
theorem cos_lat_eq_one_iff : cos (convertToRadians p.lat) = 1 ↔ p.lat = 0 := by
  have hlow := mul_le_mul_of_nonneg_right p.neg_le_lat PIx_pos.le
  have hhigh := mul_le_mul_of_nonneg_right p.lat_le PIx_pos.le
  have hlt : convertToRadians p.lat < 2 * π := by
    rw [convertToRadians]
    linarith [PIx_lt_pi, PIx_pos]
  have hgt : -(2 * π) < convertToRadians p.lat := by
    rw [convertToRadians]
    linarith [PIx_lt_pi, PIx_pos]
  rw [cos_eq_one_iff_of_lt_of_lt hgt hlt]
  simp [convertToRadians, PIx_pos.ne']

/-- The sum under the root of the haversine formula. -/
def hav : ℝ :=
  Gps.hav (convertToRadians p.lat) (convertToRadians q.lat) (convertToRadians (q.lon - p.lon))

/-- The sum under the root of `distance`. -/
def underRoot : ℝ := Gps.underRoot p.lat p.lon q.lat q.lon

theorem hav_le_one : p.hav q ≤ 1 := Gps.hav_le_one _ p.cos_lat_pos.le q.cos_lat_pos.le

/-! ## What the parenthesis loses -/

theorem hav_sub_underRoot :
    p.hav q - p.underRoot q =
      sin (convertToRadians (q.lat - p.lat) / 2) ^ 2 *
        (1 - cos (convertToRadians q.lat) * sin (convertToRadians (q.lon - p.lon) / 2) ^ 2) := by
  rw [hav, Gps.hav, underRoot, Gps.underRoot, ← convertToRadians_sub]
  ring

theorem underRoot_nonneg : 0 ≤ p.underRoot q := by
  have h1 := p.cos_lat_pos
  have h2 := q.cos_lat_pos
  rw [underRoot, Gps.underRoot]
  positivity

theorem underRoot_le_hav : p.underRoot q ≤ p.hav q := by
  have hfactor : cos (convertToRadians q.lat) *
      sin (convertToRadians (q.lon - p.lon) / 2) ^ 2 ≤ 1 :=
    mul_le_one₀ (cos_le_one _) (sq_nonneg _) (sin_sq_le_one _)
  have hlost := mul_nonneg (sq_nonneg (sin (convertToRadians (q.lat - p.lat) / 2)))
    (sub_nonneg.mpr hfactor)
  linarith [hav_sub_underRoot p q]

/-- A product of two numbers below 1 reaches 1 only if both do. -/
theorem underRoot_eq_hav_iff :
    p.underRoot q = p.hav q ↔ p.lat = q.lat ∨
      q.lat = 0 ∧ sin (convertToRadians (q.lon - p.lon) / 2) ^ 2 = 1 := by
  have hpos := q.cos_lat_pos
  have hcos := cos_le_one (convertToRadians q.lat)
  have hsin := sin_sq_le_one (convertToRadians (q.lon - p.lon) / 2)
  have hsplit : 1 - cos (convertToRadians q.lat) *
        sin (convertToRadians (q.lon - p.lon) / 2) ^ 2 = 0 ↔
      cos (convertToRadians q.lat) = 1 ∧ sin (convertToRadians (q.lon - p.lon) / 2) ^ 2 = 1 := by
    constructor
    · intro h
      constructor <;> nlinarith [sq_nonneg (sin (convertToRadians (q.lon - p.lon) / 2))]
    · rintro ⟨hc, hs⟩
      rw [hc, hs]
      norm_num
  rw [eq_comm, ← sub_eq_zero, hav_sub_underRoot, mul_eq_zero, hsplit, cos_lat_eq_one_iff,
    pow_eq_zero_iff two_ne_zero, sin_dlat_eq_zero_iff]

end GeoPoint

/-! ## The distances -/

variable (p q : GeoPoint)

theorem distance_eq :
    distance p.lat p.lon q.lat q.lon =
      2 * (earthRadius * 1000) * arcsin (√(p.underRoot q)) := by
  rw [distance, GeoPoint.underRoot]
  ring

theorem haversine_eq :
    haversine p q = 2 * (earthRadius * 1000) * arcsin (√(p.hav q)) := rfl

theorem distance_le_haversine : distance p.lat p.lon q.lat q.lon ≤ haversine p q := by
  rw [distance_eq, haversine_eq]
  refine mul_le_mul_of_nonneg_left ?_ (by norm_num [earthRadius])
  exact monotone_arcsin (sqrt_le_sqrt (p.underRoot_le_hav q))

/-- Neither the root nor the arc sine identifies two values that can occur. -/
theorem arcsin_sqrt_inj {a b : ℝ} (ha : 0 ≤ a) (ha1 : a ≤ 1) (hb : 0 ≤ b) (hb1 : b ≤ 1) :
    arcsin (√a) = arcsin (√b) ↔ a = b := by
  have hlow : ∀ x : ℝ, -1 ≤ √x := fun x => by linarith [sqrt_nonneg x]
  rw [arcsin_inj (hlow a) (sqrt_le_one.mpr ha1) (hlow b) (sqrt_le_one.mpr hb1), sqrt_inj ha hb]

theorem distance_eq_haversine_iff :
    distance p.lat p.lon q.lat q.lon = haversine p q ↔ p.lat = q.lat ∨
      q.lat = 0 ∧ sin (convertToRadians (q.lon - p.lon) / 2) ^ 2 = 1 := by
  have hradius : 2 * (earthRadius * 1000) ≠ 0 := by norm_num [earthRadius]
  have hle := p.underRoot_le_hav q
  have hone := p.hav_le_one q
  have hzero := p.underRoot_nonneg q
  rw [distance_eq, haversine_eq, mul_right_inj' hradius,
    arcsin_sqrt_inj hzero (hle.trans hone) (hzero.trans hle) hone, p.underRoot_eq_hav_iff]

theorem underRoot_meridian (lat1 lat2 lon : ℝ) : underRoot lat1 lon lat2 lon = 0 := by
  simp [underRoot, convertToRadians]

/-- A step to the north or the south is not measured at all. -/
theorem distance_meridian (lat1 lat2 lon : ℝ) : distance lat1 lon lat2 lon = 0 := by
  simp [distance, underRoot_meridian]

/-- What `distance` is for, at two points. -/
structure FollowsHaversine : Prop where
  formula : distance p.lat p.lon q.lat q.lon = haversine p q
  symmetric : distance p.lat p.lon q.lat q.lon = distance q.lat q.lon p.lat p.lon
  meridian : p.lon = q.lon → p.lat ≠ q.lat → distance p.lat p.lon q.lat q.lon ≠ 0

theorem followsHaversine_of_lat_eq (h : p.lat = q.lat) : FollowsHaversine p q where
  formula := (distance_eq_haversine_iff p q).mpr (Or.inl h)
  symmetric := by
    rw [(distance_eq_haversine_iff p q).mpr (Or.inl h), haversine_comm,
      (distance_eq_haversine_iff q p).mpr (Or.inl h.symm)]
  meridian := fun _ hne => absurd h hne

/-- Off the parallel one way can be right, but not both. -/
theorem followsHaversine_iff : FollowsHaversine p q ↔ p.lat = q.lat := by
  constructor
  · intro h
    have hback : distance q.lat q.lon p.lat p.lon = haversine q p := by
      rw [← h.symmetric, h.formula, haversine_comm]
    obtain hlat | ⟨hq, -⟩ := (distance_eq_haversine_iff p q).mp h.formula
    · exact hlat
    obtain hlat | ⟨hp, -⟩ := (distance_eq_haversine_iff q p).mp hback
    · exact hlat.symm
    · rw [hp, hq]
  · exact followsHaversine_of_lat_eq p q

def nullPoint : GeoPoint := ⟨0, 0, by norm_num, by norm_num, by norm_num, by norm_num⟩

/-- One degree to the north of it. -/
def northPoint : GeoPoint := ⟨1, 0, by norm_num, by norm_num, by norm_num, by norm_num⟩

theorem northPoint_not_followsHaversine : ¬ FollowsHaversine nullPoint northPoint := by
  intro h
  have hlat : nullPoint.lat ≠ northPoint.lat := by norm_num [nullPoint, northPoint]
  exact h.meridian rfl hlat (distance_meridian 0 1 0)

end Ztacx.Gps

end
