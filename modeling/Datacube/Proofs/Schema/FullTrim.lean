import Datacube.Proofs.Number.Text
import Datacube.Proofs.Number.Whole
import Datacube.Proofs.Schema.Selected
import Datacube.Proofs.Text.Trim

-- The trim to the whole extent of an axis, in a reference system other than the grid. It selects
-- the cells from the first one as far as the extent reaches. As the resolution is rounded up, this
-- may be short of the last cell.
namespace Datacube

open Number (Decimal floatText floorClamped parts value)

namespace Axis

variable {a : Axis} {bounds : NumericBounds} {crs : String}

theorem mem_of_externalCrs (h : a.externalCrs = some crs) :
    crs ∈ a.crsSet ∧ Crs.isGrid crs = false :=
  ⟨List.mem_of_find?_eq_some h, by simpa using List.find?_some h⟩

-- The text of a finite coordinate is read as the coordinate.
theorem coordinateBound_floatText {x : Float} (hx : x.isFinite = true) (native : CellExtent)
    (current : Int) :
    a.coordinateBound (floatText x) native current = a.cellIndex x native := by
  have hnumeral := Number.all_floatText x
  have hopen : floatText x ≠ Subset.openBound := by
    intro heq
    have hstar : Number.IsNumeral '*' := hnumeral '*' (by rw [heq]; decide)
    exact absurd hstar (by decide)
  have htrim : Text.trim (floatText x) = floatText x :=
    Text.trim_of_not_blank fun c hc => Number.isBlank_of_isNumeral (hnumeral c hc)
  have hread : parseCoordinate a.name (floatText x) = .ok x := by
    unfold parseCoordinate
    rw [htrim, Number.parseFloat_floatText hx]
  unfold coordinateBound
  rw [if_neg hopen, hread]
  rfl

-- Why a coordinate has no cell if cells have no size.
def noSize (a : Axis) : Error :=
  .invalidMetadata a.name "axis resolution must be positive"

theorem cellIndex_eq (hbounds : a.numeric = some bounds) {x : Float} (hlo : ¬x < bounds.lo)
    (hhi : ¬bounds.hi < x) (cells : CellExtent) :
    a.cellIndex x cells = if a.resolutionFloat ≤ 0 then .error a.noSize
      else .ok (min (cells.lo + floorClamped ((x - bounds.lo) / a.resolutionFloat)) cells.hi) := by
  rw [cellIndex, hbounds]
  simp only [hlo, hhi, or_self, if_false]
  rfl

end Axis

namespace GridAxis

variable {a : GridAxis} {bounds : NumericBounds} {crs : String}

-- The trim to the bounds of the axis.
def fullTrim (a : GridAxis) (bounds : NumericBounds) (crs : String) : Subset :=
  (Subset.trim a.domain.name (floatText bounds.lo) (floatText bounds.hi)).withCrs crs

-- How many cells behind the first one the extent reaches.
def reach (a : GridAxis) (bounds : NumericBounds) : Int :=
  floorClamped ((bounds.hi - bounds.lo) / a.domain.resolutionFloat)

theorem resolve_fullTrim_eq (hchecked : a.domain.Checked) (hcells : a.cells.lo ≤ a.cells.hi)
    (hbounds : a.domain.numeric = some bounds) (hcrs : a.domain.externalCrs = some crs) :
    a.domain.resolve (a.fullTrim bounds crs) a.cells =
      if a.domain.resolutionFloat ≤ 0 then .error a.domain.noSize
      else .ok (a.cells.lo, min (a.cells.lo + a.reach bounds) a.cells.hi) := by
  obtain ⟨hlo, hhi, horder⟩ := hchecked.bounds bounds hbounds
  obtain ⟨hmem, hgrid⟩ := Axis.mem_of_externalCrs hcrs
  have hlonumber := Number.ne_notANumber_of_isFinite hlo
  have hhinumber := Number.ne_notANumber_of_isFinite hhi
  have hself : ∀ x : Float, parts x ≠ .notANumber → ¬x < x := by
    intro x hx
    rw [Number.lt_iff_value hx hx]
    exact lt_irrefl _
  have hgridless : Axis.inGrid (a.fullTrim bounds crs) = false := by
    simp [Axis.inGrid, fullTrim, Subset.withCrs, hgrid]
  have hresolve : a.domain.resolve (a.fullTrim bounds crs) a.cells = (do
      let lo ← a.domain.cellIndex bounds.lo a.cells
      let hi ← a.domain.cellIndex bounds.hi a.cells
      return (lo, hi)) := by
    rw [Axis.resolve, Axis.resolveOn, hgridless]
    simp only [fullTrim, Subset.trim, Subset.withCrs, Subset.bounds, Option.getD_some, if_pos hmem,
      Axis.coordinateBound_floatText hlo, Axis.coordinateBound_floatText hhi, if_false,
      Bool.false_eq_true]
  have hbelow : ¬bounds.hi < bounds.lo := (Number.not_lt_iff_le hlonumber hhinumber).mpr horder
  rw [hresolve, Axis.cellIndex_eq hbounds (hself _ hlonumber) hbelow,
    Axis.cellIndex_eq hbounds hbelow (hself _ hhinumber)]
  by_cases hsize : a.domain.resolutionFloat ≤ 0
  · simp only [if_pos hsize]
    rfl
  · obtain ⟨s, hs⟩ := Number.parts_sub_self hlo
    rw [if_neg hsize, if_neg hsize, if_neg hsize, Number.floorClamped_zero_div hs hsize, add_zero,
      min_eq_left hcells]
    rfl

theorem resolution_of_fitted {b : Axis} (hbounds : a.domain.numeric = some bounds)
    (hfitted : b.fitted a.cells.count = .ok a.domain) :
    0 < a.cells.count ∧ ∃ lo hi, Decimal.ofFloat bounds.lo = some lo ∧
      Decimal.ofFloat bounds.hi = some hi ∧
      a.domain.resolution = (hi.sub lo).divUp a.cells.count := by
  have hnumeric : b.numeric = some bounds := by
    rw [← hbounds, Axis.eq_of_fitted hfitted]
  rw [Axis.fitted, if_pos (by rw [hnumeric]; rfl)] at hfitted
  obtain ⟨hcount, bounds', lo, hi, hnumeric', hlo, hhi, heq⟩ := Axis.setResolution_eq_ok hfitted
  obtain rfl : bounds = bounds' := Option.some.inj (hnumeric.symm.trans hnumeric')
  exact ⟨hcount, lo, hi, hlo, hhi, by rw [heq]⟩

-- Cells between bounds that are one have no size.
theorem resolutionFloat_of_degenerate {b : Axis} (hchecked : a.domain.Checked)
    (hbounds : a.domain.numeric = some bounds)
    (hfitted : b.fitted a.cells.count = .ok a.domain) (hle : bounds.hi ≤ bounds.lo) :
    a.domain.resolutionFloat ≤ 0 := by
  obtain ⟨-, lo, hi, hlo, hhi, hresolution⟩ := resolution_of_fitted hbounds hfitted
  obtain ⟨-, -, horder⟩ := hchecked.bounds bounds hbounds
  have hzero : (hi.sub lo).toRat = 0 := by
    rw [Decimal.toRat_sub]
    linarith [Decimal.toRat_le_of_le horder hlo hhi, Decimal.toRat_le_of_le hle hhi hlo]
  have hdigits : (hi.sub lo).digits = 0 := by
    rw [Decimal.toRat, div_eq_zero_iff, or_iff_left (by positivity)] at hzero
    exact_mod_cast hzero
  have hextent : hi.sub lo = ⟨0, (hi.sub lo).scale⟩ := by rw [← hdigits]
  rw [Axis.resolutionFloat, hresolution, hextent, Decimal.divUp_zero]
  obtain ⟨hnumber, hvalue⟩ := Decimal.toFloat_zero (hi.sub lo).scale
  rw [Number.le_zero_iff hnumber, hvalue]

theorem reach_nonneg (hchecked : a.domain.Checked) (hbounds : a.domain.numeric = some bounds)
    (hsize : ¬a.domain.resolutionFloat ≤ 0) : 0 ≤ a.reach bounds := by
  obtain ⟨hlo, hhi, horder⟩ := hchecked.bounds bounds hbounds
  rw [Number.le_iff_value (Number.ne_notANumber_of_isFinite hlo)
    (Number.ne_notANumber_of_isFinite hhi)] at horder
  exact Number.floorClamped_div_nonneg (Number.near_difference hhi hlo).number
    (Number.value_sub_nonneg hhi hlo horder) hsize

theorem le_reach_of_inside (hchecked : a.domain.Checked) (hcells : a.cells.lo ≤ a.cells.hi)
    (hbounds : a.domain.numeric = some bounds) (hsize : ¬a.domain.resolutionFloat ≤ 0)
    (hfinite : a.domain.resolutionFloat.isFinite = true)
    (hfew : a.cells.hi - a.cells.lo < 2 ^ 53)
    (hinside : ((a.cells.hi - a.cells.lo : Int) : ℚ) * value (parts a.domain.resolutionFloat) ≤
      value (parts (bounds.hi - bounds.lo))) :
    a.cells.hi - a.cells.lo ≤ a.reach bounds := by
  obtain ⟨hlo, hhi, -⟩ := hchecked.bounds bounds hbounds
  obtain ⟨count, hcount⟩ := Int.eq_ofNat_of_zero_le (sub_nonneg.mpr hcells)
  rw [hcount] at hfew hinside ⊢
  rw [Int.cast_natCast] at hinside
  exact Number.le_floorClamped_div (by exact_mod_cast hfew) (Number.near_difference hhi hlo).number
    hsize hfinite hinside

-- Between whole numbers everything is exact.
theorem le_reach_iff_of_whole {b : Axis} (hchecked : a.domain.Checked)
    (hcells : a.cells.lo ≤ a.cells.hi) (hbounds : a.domain.numeric = some bounds)
    (hfitted : b.fitted a.cells.count = .ok a.domain) {lo hi : Int} (hlt : lo < hi)
    (hlo : lo.natAbs < 2 ^ 52) (hhi : hi.natAbs < 2 ^ 52) (hlovalue : value (parts bounds.lo) = lo)
    (hhivalue : value (parts bounds.hi) = hi) :
    ¬a.domain.resolutionFloat ≤ 0 ∧ (a.cells.hi - a.cells.lo ≤ a.reach bounds ↔
      ((a.cells.hi - a.cells.lo : Int) : ℚ) * a.domain.resolution.toRat ≤ hi - lo) := by
  obtain ⟨hlofinite, hhifinite, -⟩ := hchecked.bounds bounds hbounds
  obtain ⟨hcount, dlo, dhi, hdlo, hdhi, hresolution⟩ := resolution_of_fitted hbounds hfitted
  obtain rfl := Decimal.eq_whole hdlo (by omega) hlovalue
  obtain rfl := Decimal.eq_whole hdhi (by omega) hhivalue
  obtain ⟨extent, hextent⟩ := Int.eq_ofNat_of_zero_le (sub_nonneg.mpr hlt.le)
  obtain ⟨size, hdivided, hpos, hle⟩ := Decimal.divUp_whole (n := extent) (by omega) hcount
  rw [Decimal.sub_whole, hextent, hdivided] at hresolution
  obtain ⟨hnumber, hvalue⟩ := Decimal.toFloat_whole (n := size) (by omega)
  rw [← hresolution] at hnumber hvalue
  have hsize : ¬a.domain.resolutionFloat ≤ 0 := by
    rw [Axis.resolutionFloat, Number.not_le_zero_iff hnumber, hvalue]
    exact_mod_cast hpos
  refine ⟨hsize, ?_⟩
  have hnear := Number.near_difference hhifinite hlofinite
  rw [hlovalue, hhivalue, ← Int.cast_sub, hextent] at hnear
  have hdifference := hnear.value_intCast (by omega)
  obtain ⟨count, hlast⟩ := Int.eq_ofNat_of_zero_le (sub_nonneg.mpr hcells)
  have hquotient := Number.le_floorClamped_div_iff (k := count) (by omega) hpos hle
    (Number.isFinite_of_intCast hnear.number (by omega) hdifference) hdifference
    (Number.isFinite_of_intCast (n := size) hnumber (by omega) hvalue) hvalue
  have hexact : (hi : ℚ) - lo = (extent : Nat) := by
    rw [← Int.cast_sub, hextent, Int.cast_natCast]
  rw [hlast, hexact, hresolution, Decimal.toRat_whole, reach]
  refine hquotient.trans ?_
  exact_mod_cast Iff.rfl

-- What the trim to the bounds of the axis is answered with.
structure FullyTrimmed (a : GridAxis) (bounds : NumericBounds) (answer : Result (Int × Int)) :
    Prop where
  refused : answer = .error a.domain.noSize ↔ a.domain.resolutionFloat ≤ 0
  degenerate : bounds.hi ≤ bounds.lo → answer = .error a.domain.noSize
  selected : ¬a.domain.resolutionFloat ≤ 0 → 0 ≤ a.reach bounds ∧
    answer = .ok (a.cells.lo, min (a.cells.lo + a.reach bounds) a.cells.hi)
  whole : answer = .ok (a.cells.lo, a.cells.hi) ↔
    ¬a.domain.resolutionFloat ≤ 0 ∧ a.cells.hi - a.cells.lo ≤ a.reach bounds
  inside : ¬a.domain.resolutionFloat ≤ 0 → a.domain.resolutionFloat.isFinite = true →
    a.cells.hi - a.cells.lo < 2 ^ 53 →
    ((a.cells.hi - a.cells.lo : Int) : ℚ) * value (parts a.domain.resolutionFloat) ≤
      value (parts (bounds.hi - bounds.lo)) →
    answer = .ok (a.cells.lo, a.cells.hi)
  integral : ∀ lo hi : Int, lo.natAbs < 2 ^ 52 → hi.natAbs < 2 ^ 52 →
    value (parts bounds.lo) = lo → value (parts bounds.hi) = hi →
    (answer = .ok (a.cells.lo, a.cells.hi) ↔
      lo < hi ∧ ((a.cells.hi - a.cells.lo : Int) : ℚ) * a.domain.resolution.toRat ≤ hi - lo)

theorem fullyTrimmed_of_fitted {b : Axis} (hchecked : a.domain.Checked)
    (hcells : a.cells.lo ≤ a.cells.hi) (hbounds : a.domain.numeric = some bounds)
    (hcrs : a.domain.externalCrs = some crs)
    (hfitted : b.fitted a.cells.count = .ok a.domain) :
    a.FullyTrimmed bounds (a.domain.resolve (a.fullTrim bounds crs) a.cells) := by
  have hanswer := resolve_fullTrim_eq hchecked hcells hbounds hcrs
  have hdegenerate := resolutionFloat_of_degenerate hchecked hbounds hfitted
  have hreach := fun hsize => reach_nonneg hchecked hbounds hsize
  generalize a.domain.resolve (a.fullTrim bounds crs) a.cells = answer at hanswer
  have hwhole : answer = .ok (a.cells.lo, a.cells.hi) ↔
      ¬a.domain.resolutionFloat ≤ 0 ∧ a.cells.hi - a.cells.lo ≤ a.reach bounds := by
    by_cases hsize : a.domain.resolutionFloat ≤ 0
    · rw [hanswer, if_pos hsize]
      simp [hsize]
    · rw [hanswer, if_neg hsize, Except.ok.injEq, Prod.mk.injEq]
      constructor
      · rintro ⟨-, hlast⟩
        exact ⟨hsize, by omega⟩
      · rintro ⟨-, hlast⟩
        exact ⟨rfl, by omega⟩
  refine ⟨?_, ?_, ?_, hwhole, ?_, ?_⟩
  · by_cases hsize : a.domain.resolutionFloat ≤ 0
    · simp [hanswer, hsize]
    · simp [hanswer, hsize]
  · intro hle
    rw [hanswer, if_pos (hdegenerate hle)]
  · intro hsize
    exact ⟨hreach hsize, by rw [hanswer, if_neg hsize]⟩
  · intro hsize hfinite hfew hinside
    exact hwhole.mpr
      ⟨hsize, le_reach_of_inside hchecked hcells hbounds hsize hfinite hfew hinside⟩
  · intro lo hi hlo hhi hlovalue hhivalue
    by_cases hlt : lo < hi
    · obtain ⟨hsize, hreach⟩ :=
        le_reach_iff_of_whole hchecked hcells hbounds hfitted hlt hlo hhi hlovalue hhivalue
      rw [hwhole, hreach]
      exact and_congr_left fun _ => iff_of_true hsize hlt
    · have hle : bounds.hi ≤ bounds.lo := by
        obtain ⟨hlofinite, hhifinite, -⟩ := hchecked.bounds bounds hbounds
        rw [Number.le_iff_value (Number.ne_notANumber_of_isFinite hhifinite)
          (Number.ne_notANumber_of_isFinite hlofinite), hlovalue, hhivalue]
        exact_mod_cast not_lt.mp hlt
      rw [hwhole]
      exact iff_of_false (fun h => h.1 (hdegenerate hle)) fun h => hlt h.1

end GridAxis

-- The trim to the bounds of an axis of a coverage.
theorem Coverage.resolve_fullTrim {d : CoverageDef} {c : Coverage} (hc : Coverage.ofDef d = .ok c)
    {a : GridAxis} (ha : a ∈ c.axes) {bounds : NumericBounds}
    (hbounds : a.domain.numeric = some bounds) {crs : String}
    (hcrs : a.domain.externalCrs = some crs) :
    a.FullyTrimmed bounds (a.domain.resolve (a.fullTrim bounds crs) a.cells) := by
  obtain ⟨b, hchecked, hcells, hfitted⟩ := Coverage.fitted_of_ofDef hc a ha
  obtain ⟨hfitted', -⟩ := hchecked.fitted hcells hfitted
  exact GridAxis.fullyTrimmed_of_fitted hfitted' hcells hbounds hcrs hfitted

-- A row of cells from 0 to 10.
def measuredRow (cells : Int) : CoverageDef where
  name := "A"
  kind := "GridCoverage"
  domain := [{ name := "x", kind := "x", numLo := some 0, numHi := some 10,
               crsSet := ["EPSG:4326"] }]
  cells := [⟨some 0, some (cells - 1)⟩]
  description := { rangeFields := [{ name := "v", datatype := "char" }] }

-- Four cells are three units wide each, and the last one starts at nine.
theorem Coverage.resolve_fullTrim_four :
    ∃ c a bounds, Coverage.ofDef (measuredRow 4) = .ok c ∧ a ∈ c.axes ∧
      a.domain.numeric = some bounds ∧ a.domain.externalCrs = some "EPSG:4326" ∧
      a.FullyTrimmed bounds (a.domain.resolve (a.fullTrim bounds "EPSG:4326") a.cells) ∧
      a.domain.resolve (a.fullTrim bounds "EPSG:4326") a.cells = .ok (a.cells.lo, a.cells.hi) ∧
      a.cells.lo = 0 ∧ a.cells.hi = 3 := by
  obtain ⟨c, a, bounds, hc, haxes, hbounds, hcrs, hlo, hhi, hfirst, hlast, hsize⟩ :
      ∃ c a bounds, Coverage.ofDef (measuredRow 4) = .ok c ∧ c.axes = [a] ∧
        a.domain.numeric = some bounds ∧ a.domain.externalCrs = some "EPSG:4326" ∧
        bounds.lo = 0 ∧ bounds.hi = 10 ∧ a.cells.lo = 0 ∧ a.cells.hi = 3 ∧
        a.domain.resolution = ⟨3, 0⟩ :=
    ⟨_, _, _, rfl, rfl, rfl, rfl, rfl, rfl, rfl, rfl, rfl⟩
  have ha : a ∈ c.axes := haxes ▸ List.mem_singleton_self a
  have htrimmed := Coverage.resolve_fullTrim hc ha hbounds hcrs
  refine ⟨c, a, bounds, hc, ha, hbounds, hcrs, htrimmed, ?_, hfirst, hlast⟩
  have hlower : value (parts bounds.lo) = (0 : Int) := by
    rw [hlo]
    exact (Number.near_ofNat 0).value_intCast (n := 0) (by norm_num)
  have hupper : value (parts bounds.hi) = (10 : Int) := by
    rw [hhi]
    exact (Number.near_ofNat 10).value_intCast (n := 10) (by norm_num)
  refine (htrimmed.integral 0 10 (by norm_num) (by norm_num) hlower hupper).mpr ⟨by norm_num, ?_⟩
  rw [hsize, hfirst, hlast, Decimal.toRat_whole]
  norm_num

-- Twenty cells are one unit wide each instead of one half, and the extent ends with the eleventh.
theorem Coverage.resolve_fullTrim_twenty :
    ∃ c a bounds, Coverage.ofDef (measuredRow 20) = .ok c ∧ a ∈ c.axes ∧
      a.domain.numeric = some bounds ∧ a.domain.externalCrs = some "EPSG:4326" ∧
      a.cells.lo = 0 ∧ a.cells.hi = 19 ∧
      a.domain.resolve (a.fullTrim bounds "EPSG:4326") a.cells = .ok (0, 10) :=
  ⟨_, _, _, rfl, List.mem_singleton_self _, rfl, rfl, rfl, rfl, by decide +kernel⟩

end Datacube
