import Datacube.Proofs.Axis.CellIndex
import Datacube.Proofs.Number.Leading
import Datacube.Proofs.Number.Slack
import Datacube.Proofs.Schema.FullTrim

-- How close the cell of a coordinate is to the one that exact arithmetic on the decimals of the
-- axis gives. It is the same cell, unless the coordinate lies very close to the edge of a cell, and
-- on the edge as well if all of the decimals are short binary fractions.
namespace Datacube

open Number (Decimal Divides Rounds floatText floorClamped int64Max parts roundoff value)

-- The cell at so many cell sizes from the start of the first cell.
def CellExtent.cellAt (cells : CellExtent) (q : ℚ) : Int :=
  min cells.hi (cells.lo + ⌊q⌋)

namespace Axis

variable {a : Axis} {b : NumericBounds} {cells : CellExtent} {lo hi v : Decimal} {x : Float}
  {i : Int}

-- How many cell sizes a coordinate lies behind the lower bound.
def steps (a : Axis) (lo v : Decimal) : ℚ :=
  (v.toRat - lo.toRat) / a.resolution.toRat

-- How much of a cell size is not certain.
def slack (a : Axis) (lo v : Decimal) : ℚ :=
  4 * Decimal.tolerance a.resolution.toRat *
    (1 + (|v.toRat| + |lo.toRat|) / a.resolution.toRat)

-- Bounds and cells of a size that doubles can deal with.
structure Moderate (a : Axis) (lo hi : Decimal) : Prop where
  lo : |lo.toRat| ≤ 10 ^ 300
  hi : |hi.toRat| ≤ 10 ^ 300
  size : 1 / 10 ^ 300 ≤ a.resolution.toRat

-- A coordinate, the lower bound and the size of the cells, if each of them is a whole number of
-- units, with not many digits, and the unit is a power of two.
structure ShortBinary (a : Axis) (lo v : Decimal) (unit m k : ℤ) (n : Nat) : Prop where
  coordinate : v.toRat = m * 2 ^ unit
  origin : lo.toRat = k * 2 ^ unit
  size : a.resolution.toRat = n * 2 ^ unit
  few : m.natAbs + k.natAbs + n < 2 ^ 50
  small : a.resolution.toRat < 10 ^ 24

-- What is certain about the cell of a coordinate.
structure Located (a : Axis) (cells : CellExtent) (lo v : Decimal) (i : Int) : Prop where
  lower : cells.cellAt (a.steps lo v - a.slack lo v) ≤ i
  upper : i ≤ cells.cellAt (a.steps lo v + a.slack lo v)
  apart : (∀ n : ℤ, a.slack lo v < |a.steps lo v - n|) → i = cells.cellAt (a.steps lo v)
  binary : ∀ unit m k n, a.ShortBinary lo v unit m k n → i = cells.cellAt (a.steps lo v)

theorem Moderate.pos (h : a.Moderate lo hi) : 0 < a.resolution.toRat :=
  lt_of_lt_of_le (by positivity) h.size

theorem Moderate.divides (hmoderate : a.Moderate lo hi) (hlimit : a.resolution.toRat < 10 ^ 301)
    (hlo : Decimal.ofFloat b.lo = some lo) (hhi : Decimal.ofFloat b.hi = some hi)
    (hxlo : b.lo ≤ x) (hxhi : x ≤ b.hi) (hv : Decimal.ofFloat x = some v) :
    Divides (x - b.lo) a.resolutionFloat (v.toRat - lo.toRat) (|v.toRat| + |lo.toRat|)
      a.resolution.toRat (Decimal.tolerance a.resolution.toRat) := by
  obtain ⟨hlonear, hlofinite⟩ := Decimal.near_ofFloat hlo
  obtain ⟨hhinear, hhifinite⟩ := Decimal.near_ofFloat hhi
  obtain ⟨hnear, hfinite⟩ := Decimal.near_ofFloat hv
  have hdifference := Number.near_difference hfinite hlofinite
  have horder := (Number.le_iff_value hlonear.number hnear.number).mp hxlo
  have hnonneg := Number.value_sub_nonneg hfinite hlofinite horder
  have hdistance : (parts (x - b.lo)).isFinite = true := by
    refine hdifference.isFinite (sub_nonneg.mpr horder) ?_
    have hone : (1 : ℚ) ≤ 10 ^ 300 := one_le_pow₀ (by norm_num)
    have hlower := (abs_le.mp (hlonear.abs_value_le hlofinite hone hmoderate.lo)).1
    have hupper := (abs_le.mp (hhinear.abs_value_le hhifinite hone hmoderate.hi)).2
    have hinside := (Number.le_iff_value hnear.number hhinear.number).mp hxhi
    refine Decimal.le_half_limit ?_
    rw [pow_succ]
    generalize (10 : ℚ) ^ 300 = bound at hone hlower hupper ⊢
    linarith
  obtain ⟨hsizefinite, hsize⟩ :=
    Decimal.toFloat_error (Decimal.toRat_pos_iff.mp hmoderate.pos) hmoderate.size hlimit
  have hsmaller : (1 : ℚ) / 10 ^ 301 ≤ 1 / 10 ^ 300 :=
    one_div_le_one_div_of_le (by positivity) (pow_le_pow_right₀ (by norm_num) (by norm_num))
  exact {
    dividend_finite := hdistance
    dividend_nonneg := hnonneg
    dividend := Number.sub_error hnear hlonear hfinite hlofinite hdistance
    divisor_finite := hsizefinite
    divisor := hsize
    nonneg := sub_nonneg.mpr (Decimal.toRat_le_of_le hxlo hlo hv)
    le_bound := by linarith [le_abs_self v.toRat, neg_abs_le lo.toRat]
    pos := hmoderate.pos
    underflow_le := Decimal.underflow_le (hsmaller.trans hmoderate.size)
    le_part := by
      have hpart := (Decimal.tolerance_bounds a.resolution.toRat).1
      unfold roundoff
      linarith
    part_le := (Decimal.tolerance_bounds a.resolution.toRat).2 }

section Floor

variable {w r : Float}
  (h : Divides w r (v.toRat - lo.toRat) (|v.toRat| + |lo.toRat|) a.resolution.toRat
    (Decimal.tolerance a.resolution.toRat))

include h

theorem steps_sub_slack : a.steps lo v - a.slack lo v =
    (v.toRat - lo.toRat - 4 * Decimal.tolerance a.resolution.toRat *
      (a.resolution.toRat + (|v.toRat| + |lo.toRat|))) / a.resolution.toRat := by
  have hpos := h.pos
  unfold steps slack
  field_simp

theorem steps_add_slack : a.steps lo v + a.slack lo v =
    (v.toRat - lo.toRat + 4 * Decimal.tolerance a.resolution.toRat *
      (a.resolution.toRat + (|v.toRat| + |lo.toRat|))) / a.resolution.toRat := by
  have hpos := h.pos
  unfold steps slack
  field_simp

theorem slack_nonneg : 0 ≤ a.slack lo v := by
  have hpart := h.part_nonneg
  have hpos := h.pos
  unfold slack
  positivity

-- A quotient that is farther from every whole number than the slack.
theorem floor_apart (hapart : ∀ n : ℤ, a.slack lo v < |a.steps lo v - n|) :
    ⌊a.steps lo v⌋ ≤ ⌊a.steps lo v - a.slack lo v⌋ ∧
      ⌊a.steps lo v + a.slack lo v⌋ ≤ ⌊a.steps lo v⌋ := by
  have hslack := slack_nonneg h
  constructor
  · have hbelow := hapart ⌊a.steps lo v⌋
    rw [abs_of_nonneg (sub_nonneg.mpr (Int.floor_le _))] at hbelow
    rw [Int.le_floor]
    linarith
  · have habove := hapart ⌊a.steps lo v + a.slack lo v⌋
    have hle := Int.floor_le (a.steps lo v + a.slack lo v)
    rw [Int.le_floor]
    by_contra hgreater
    rw [abs_of_neg (by linarith)] at habove
    linarith

-- A quotient of whole numbers that are so small that the slack does not reach the next one.
theorem ShortBinary.floor_le {unit m k : ℤ} {n : Nat} (hbinary : a.ShortBinary lo v unit m k n) :
    ⌊a.steps lo v + a.slack lo v⌋ ≤ ⌊a.steps lo v⌋ := by
  obtain ⟨hv, hlo, hsize, hfew, hsmall⟩ := hbinary
  have hunit : (0 : ℚ) < 2 ^ unit := by positivity
  have hn : (0 : ℚ) < n := by
    have hpos := h.pos
    rw [hsize] at hpos
    exact pos_of_mul_pos_left hpos hunit.le
  have hsteps : a.steps lo v = (m - k : ℤ) / n := by
    rw [steps, hv, hlo, hsize]
    push_cast
    field_simp
  have hslack : a.slack lo v < 1 / n := by
    have hsum : ((m.natAbs + k.natAbs + n : Nat) : ℚ) < 2 ^ 50 := by exact_mod_cast hfew
    have hbound : |v.toRat| + |lo.toRat| = (m.natAbs + k.natAbs : Nat) * 2 ^ unit := by
      rw [hv, hlo, abs_mul, abs_mul, abs_of_pos hunit, Nat.cast_add, Nat.cast_natAbs,
        Nat.cast_natAbs, Int.cast_abs, Int.cast_abs, add_mul]
    rw [slack, hbound, Decimal.tolerance, if_pos hsmall, hsize, mul_div_mul_right _ _ hunit.ne',
      lt_div_iff₀ hn]
    push_cast at hsum ⊢
    field_simp
    linarith
  have hle := Int.floor_le (a.steps lo v + a.slack lo v)
  generalize ⌊a.steps lo v + a.slack lo v⌋ = j at hle ⊢
  rw [hsteps] at hle ⊢
  rw [Int.le_floor, le_div_iff₀ hn]
  have hless : (j : ℚ) * n < (m - k : ℤ) + 1 := by
    calc (j : ℚ) * n < ((m - k : ℤ) / n + 1 / n) * n :=
          mul_lt_mul_of_pos_right (by linarith) hn
      _ = (m - k : ℤ) + 1 := by field_simp
  have hwhole : j * n < m - k + 1 := by exact_mod_cast hless
  exact_mod_cast Int.lt_add_one_iff.mp hwhole

end Floor

section Binary

variable {unit m k : ℤ} {n : Nat} (hmoderate : a.Moderate lo hi)
  (hbinary : a.ShortBinary lo v unit m k n)

include hmoderate hbinary

theorem ShortBinary.count_pos : 0 < n := by
  have hpos := hmoderate.pos
  rw [hbinary.size] at hpos
  exact_mod_cast pos_of_mul_pos_left hpos (zpow_pos two_pos unit).le

-- The unit is one that doubles have: it is not far below the size of the cells, and not above it.
theorem ShortBinary.least_le : -1074 ≤ unit := by
  by_contra hsmall
  have hpow : 10 ^ 300 * 2 ^ 50 < 2 ^ 1075 := by decide +kernel
  have hcast : (10 : ℚ) ^ 300 * 2 ^ 50 < 2 ^ (1075 : Nat) := by exact_mod_cast hpow
  have hfew : (n : ℚ) ≤ 2 ^ 50 := by
    have hfew := hbinary.few
    exact_mod_cast (by omega : n ≤ 2 ^ 50)
  have htiny : (2 : ℚ) ^ unit ≤ 1 / 2 ^ (1075 : Nat) := by
    rw [one_div, ← zpow_natCast, ← zpow_neg]
    exact Number.two_zpow_le (by push_cast; omega)
  have hless : a.resolution.toRat < 1 / 10 ^ 300 := by
    calc a.resolution.toRat = n * 2 ^ unit := hbinary.size
      _ ≤ 2 ^ 50 * (1 / 2 ^ (1075 : Nat)) := by gcongr
      _ < 1 / 10 ^ 300 := by
          rw [mul_one_div, div_lt_div_iff₀ (by positivity) (by positivity), one_mul, mul_comm]
          exact hcast
  exact hless.not_ge hmoderate.size

theorem ShortBinary.le_greatest : unit ≤ 971 := by
  by_contra hlarge
  have hcount : (1 : ℚ) ≤ n := by exact_mod_cast hbinary.count_pos hmoderate
  have hhuge : (2 : ℚ) ^ (80 : ℤ) ≤ 2 ^ unit := Number.two_zpow_le (by omega)
  have hmore : (2 : ℚ) ^ unit ≤ n * 2 ^ unit := le_mul_of_one_le_left (by positivity) hcount
  rw [← hbinary.size] at hmore
  have hbits : (10 : ℚ) ^ 24 ≤ 2 ^ (80 : ℤ) := by norm_num
  linarith [hbinary.small]

-- Nothing is rounded before the quotient.
theorem ShortBinary.le_floor
    (h : Divides (x - b.lo) a.resolutionFloat (v.toRat - lo.toRat) (|v.toRat| + |lo.toRat|)
      a.resolution.toRat (Decimal.tolerance a.resolution.toRat))
    (hlo : Decimal.ofFloat b.lo = some lo) (hv : Decimal.ofFloat x = some v) :
    ⌊a.steps lo v⌋ ≤ floorClamped ((x - b.lo) / a.resolutionFloat) := by
  obtain ⟨hlonear, hlofinite⟩ := Decimal.near_ofFloat hlo
  obtain ⟨hnear, hfinite⟩ := Decimal.near_ofFloat hv
  have hlow := hbinary.least_le hmoderate
  have hhigh := hbinary.le_greatest hmoderate
  have hcount := hbinary.count_pos hmoderate
  obtain ⟨hvunits, hlounits, hsize, hfew, hsmall⟩ := hbinary
  have hexact : ∀ {j : ℤ} {q w : ℚ}, j.natAbs < 2 ^ 53 → q = j * 2 ^ unit → Rounds q w → w = q := by
    rintro j _ w hj rfl hw
    exact hw.unique (Number.rounds_dyadic hj hlow hhigh)
  have hdistance : value (parts (x - b.lo)) = v.toRat - lo.toRat := by
    have hx := hexact (by omega) hvunits hnear.rounds
    have hbound := hexact (by omega) hlounits hlonear.rounds
    have hdifference := (Number.near_difference hfinite hlofinite).rounds
    rw [hx, hbound] at hdifference
    refine hexact (j := m - k) (by omega) ?_ hdifference
    rw [hvunits, hlounits]
    push_cast
    ring
  have hdivisor : value (parts a.resolutionFloat) ≤ a.resolution.toRat := by
    refine Decimal.value_toFloat_le (Decimal.toRat_pos_iff.mp h.pos) hsmall ?_
    rw [hsize]
    exact_mod_cast Number.rounds_dyadic (n := n) (by omega) hlow hhigh
  obtain ⟨j, hj⟩ : ∃ j : Nat, ⌊a.steps lo v⌋ = j :=
    Int.eq_ofNat_of_zero_le (Int.floor_nonneg.mpr (div_nonneg h.nonneg h.pos.le))
  have hmul : (j : ℚ) * a.resolution.toRat ≤ v.toRat - lo.toRat := by
    rw [← le_div_iff₀ h.pos, ← Int.cast_natCast, ← hj]
    exact Int.floor_le _
  have hshort : j < 2 ^ 53 := by
    rw [hvunits, hlounits, hsize, ← sub_mul, ← mul_assoc] at hmul
    have hwhole : (j : ℤ) * n ≤ m - k := by
      exact_mod_cast le_of_mul_le_mul_right hmul (zpow_pos two_pos unit)
    have hself : (j : ℤ) ≤ j * n := le_mul_of_one_le_right (by omega) (by exact_mod_cast hcount)
    omega
  rw [hj]
  refine Number.le_floorClamped_div hshort (Number.ne_notANumber_of_isFinite h.dividend_finite)
    h.not_le_zero h.divisor_finite ?_
  rw [hdistance]
  exact (mul_le_mul_of_nonneg_left hdivisor j.cast_nonneg).trans hmul

end Binary

theorem Moderate.located (hmoderate : a.Moderate lo hi) (hlimit : a.resolution.toRat < 10 ^ 301)
    (hlo : Decimal.ofFloat b.lo = some lo) (hhi : Decimal.ofFloat b.hi = some hi)
    (hxlo : b.lo ≤ x) (hxhi : x ≤ b.hi) (hv : Decimal.ofFloat x = some v)
    (hcells : cells.hi - cells.lo ≤ int64Max) :
    ¬a.resolutionFloat ≤ 0 ∧ a.Located cells lo v (min (cells.lo + a.offset b x) cells.hi) := by
  have h := hmoderate.divides hlimit hlo hhi hxlo hxhi hv
  have hlower := h.min_floor_le
  have hupper := h.le_floor_add
  rw [← steps_sub_slack h] at hlower
  rw [← steps_add_slack h] at hupper
  refine ⟨h.not_le_zero, ?_, ?_, fun hapart => ?_, fun unit m k n hbinary => ?_⟩
  · unfold CellExtent.cellAt offset
    omega
  · unfold CellExtent.cellAt offset
    omega
  · obtain ⟨hbelow, habove⟩ := floor_apart h hapart
    unfold CellExtent.cellAt offset
    omega
  · have hbelow := hbinary.le_floor hmoderate h hlo hv
    have habove := hbinary.floor_le h
    unfold CellExtent.cellAt offset
    omega

end Axis

theorem GridAxis.resolution_lt {a : GridAxis} {b : Axis} {bounds : NumericBounds} {lo hi : Decimal}
    (hchecked : a.domain.Checked) (hbounds : a.domain.numeric = some bounds)
    (hfitted : b.fitted a.cells.count = .ok a.domain)
    (hlo : Decimal.ofFloat bounds.lo = some lo) (hhi : Decimal.ofFloat bounds.hi = some hi)
    (hmoderate : a.domain.Moderate lo hi) : a.domain.resolution.toRat < 10 ^ 301 := by
  obtain ⟨hcount, lo', hi', hlo', hhi', hresolution⟩ := resolution_of_fitted hbounds hfitted
  obtain rfl := Option.some.inj (hlo.symm.trans hlo')
  obtain rfl := Option.some.inj (hhi.symm.trans hhi')
  have horder := Decimal.toRat_le_of_le (hchecked.bounds bounds hbounds).2.2 hlo hhi
  have hextent := Decimal.toRat_sub hi lo
  have hless := Decimal.divUp_lt_add_one (d := hi.sub lo) (by linarith) hcount
  have hone : (1 : ℚ) ≤ 10 ^ 300 := one_le_pow₀ (by norm_num)
  have hlower := (abs_le.mp hmoderate.lo).1
  have hupper := (abs_le.mp hmoderate.hi).2
  rw [hresolution, pow_succ]
  generalize (10 : ℚ) ^ 300 = bound at hone hlower hupper ⊢
  linarith

-- The cell of a coordinate of an axis of a coverage.
theorem Coverage.cellIndex_located {d : CoverageDef} {c : Coverage} (hc : Coverage.ofDef d = .ok c)
    {a : GridAxis} (ha : a ∈ c.axes) {bounds : NumericBounds}
    (hbounds : a.domain.numeric = some bounds) {lo hi : Decimal} (hwritten : bounds.Written lo hi)
    (hmoderate : a.domain.Moderate lo hi) (cells : CellExtent)
    (hcells : cells.hi - cells.lo ≤ int64Max) (x : Float) (hxlo : bounds.lo ≤ x)
    (hxhi : x ≤ bounds.hi) :
    ∃ v i, Decimal.written? (floatText x) = some v ∧ a.domain.cellIndex x cells = .ok i ∧
      a.domain.Located cells lo v i := by
  obtain ⟨b, hchecked, hnonempty, hfitted⟩ := Coverage.fitted_of_ofDef hc a ha
  obtain ⟨hchecked', -⟩ := hchecked.fitted hnonempty hfitted
  obtain ⟨hlofinite, hhifinite, -⟩ := hchecked'.bounds bounds hbounds
  obtain ⟨hlo, hhi⟩ := hwritten.ofFloat hlofinite hhifinite
  obtain ⟨-, hx⟩ := Number.number_of_le hxlo
  have hbelow := (Number.not_lt_iff_le (Number.ne_notANumber_of_isFinite hlofinite) hx).mpr hxlo
  have habove := (Number.not_lt_iff_le hx (Number.ne_notANumber_of_isFinite hhifinite)).mpr hxhi
  obtain ⟨v, hv⟩ := Decimal.exists_ofFloat
    (Number.isFinite_of_between hlofinite hhifinite hx hbelow habove)
  obtain ⟨hsize, hlocated⟩ := hmoderate.located
    (GridAxis.resolution_lt hchecked' hbounds hfitted hlo hhi hmoderate) hlo hhi hxlo hxhi hv hcells
  exact ⟨v, _, Number.written?_floatText hv,
    Axis.cellIndex_eq_ok_iff.mpr ⟨bounds, hbounds, hbelow, habove, hsize, rfl⟩, hlocated⟩

-- A row of cells of one tenth each.
def tenthsRow : CoverageDef where
  name := "A"
  kind := "GridCoverage"
  domain := [{ name := "x", kind := "x", numLo := some 0, numHi := some 0.9 }]
  cells := [⟨some 0, some 8⟩]
  description := { rangeFields := [{ name := "v", datatype := "char" }] }

theorem Coverage.cellIndex_located_tenths :
    ∃ c a bounds v, Coverage.ofDef tenthsRow = .ok c ∧ a ∈ c.axes ∧
      a.domain.numeric = some bounds ∧ bounds.Written ⟨0, 0⟩ ⟨9, 1⟩ ∧
      a.domain.Moderate ⟨0, 0⟩ ⟨9, 1⟩ ∧ a.cells.hi - a.cells.lo ≤ int64Max ∧ bounds.lo ≤ 0.35 ∧
      0.35 ≤ bounds.hi ∧ Decimal.written? (floatText 0.35) = some v ∧
      a.domain.cellIndex 0.35 a.cells = .ok (a.cells.cellAt (a.domain.steps ⟨0, 0⟩ v)) := by
  obtain ⟨c, a, bounds, hc, haxes, hbounds, hlo, hhi, hcells, hsize⟩ :
      ∃ c a bounds, Coverage.ofDef tenthsRow = .ok c ∧ c.axes = [a] ∧
        a.domain.numeric = some bounds ∧ bounds.lo = 0 ∧ bounds.hi = 0.9 ∧
        a.cells.hi - a.cells.lo ≤ int64Max ∧ a.domain.resolution = ⟨1, 1⟩ :=
    ⟨_, _, _, rfl, rfl, rfl, rfl, rfl, by decide, by decide +kernel⟩
  have ha : a ∈ c.axes := haxes ▸ List.mem_singleton_self a
  have hwritten : bounds.Written ⟨0, 0⟩ ⟨9, 1⟩ := by
    constructor
    · rw [hlo]
      decide +kernel
    · rw [hhi]
      decide +kernel
  have hmoderate : a.domain.Moderate ⟨0, 0⟩ ⟨9, 1⟩ := by
    have hone : (1 : ℚ) ≤ 10 ^ 300 := one_le_pow₀ (by norm_num)
    have hten : (1 : ℚ) / 10 ^ 300 ≤ 1 / 10 ^ 1 :=
      one_div_le_one_div_of_le (by norm_num) (pow_le_pow_right₀ (by norm_num) (by norm_num))
    refine ⟨by simp [Decimal.toRat], ?_, by simpa [hsize, Decimal.toRat] using hten⟩
    refine le_trans ?_ hone
    norm_num [Decimal.toRat, abs_le]
  have hlower : bounds.lo ≤ 0.35 := by
    rw [hlo]
    decide +kernel
  have hupper : 0.35 ≤ bounds.hi := by
    rw [hhi]
    decide +kernel
  have hv : Decimal.written? (floatText 0.35) = some ⟨35, 2⟩ := by decide +kernel
  obtain ⟨v, i, hv', hi, hlocated⟩ := Coverage.cellIndex_located hc ha hbounds hwritten hmoderate
    a.cells hcells 0.35 hlower hupper
  obtain rfl := Option.some.inj (hv.symm.trans hv')
  have hsteps : a.domain.steps ⟨0, 0⟩ ⟨35, 2⟩ = 7 / 2 := by
    norm_num [Axis.steps, Decimal.toRat, hsize]
  have hslack : a.domain.slack ⟨0, 0⟩ ⟨35, 2⟩ < 1 / 2 := by
    norm_num [Axis.slack, Decimal.tolerance, Decimal.toRat, hsize, abs_of_pos]
  have hexact := hlocated.apart fun n => by
    refine hslack.trans_le ?_
    rw [hsteps, le_abs]
    rcases le_or_gt n 3 with hn | hn
    · have hcast : (n : ℚ) ≤ 3 := by exact_mod_cast hn
      exact .inl (by linarith)
    · have hcast : (4 : ℚ) ≤ n := by exact_mod_cast hn
      exact .inr (by linarith)
  exact ⟨c, a, bounds, _, hc, ha, hbounds, hwritten, hmoderate, hcells, hlower, hupper, hv,
    by rw [hi, hexact]⟩

-- Three tenths lie on the edge of a cell, and their quotient by one tenth is rounded down.
theorem Coverage.cellIndex_edge :
    ∃ c a bounds, Coverage.ofDef tenthsRow = .ok c ∧ a ∈ c.axes ∧
      a.domain.numeric = some bounds ∧ bounds.Written ⟨0, 0⟩ ⟨9, 1⟩ ∧
      a.domain.resolution = ⟨1, 1⟩ ∧ bounds.lo ≤ 0.3 ∧ 0.3 ≤ bounds.hi ∧
      Decimal.written? (floatText 0.3) = some ⟨3, 1⟩ ∧ a.domain.cellIndex 0.3 a.cells = .ok 2 ∧
      a.cells.cellAt (a.domain.steps ⟨0, 0⟩ ⟨3, 1⟩) = 3 :=
  ⟨_, _, _, rfl, List.mem_singleton_self _, rfl, ⟨by decide +kernel, by decide +kernel⟩,
    by decide +kernel, by decide +kernel, by decide +kernel, by decide +kernel, by decide +kernel,
    by decide +kernel⟩

end Datacube
