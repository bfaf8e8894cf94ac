import Datacube.Axis
import Datacube.Proofs.Outcome

-- When a coordinate has a cell, a bound is read and a subset selects cells on an axis, and which
-- cells these are.
namespace Datacube.Axis

open Result
open Number (floorClamped parseFloat)

variable {a : Axis} {t : Subset} {native current cells : CellExtent} {x : Float} {i j : Int}
  {name text : String}

-- How many cells behind the first one a coordinate lies.
def offset (a : Axis) (b : NumericBounds) (x : Float) : Int :=
  floorClamped ((x - b.lo) / a.resolutionFloat)

theorem cellIndex_eq_ok_iff : a.cellIndex x cells = .ok i ↔
    ∃ b, a.numeric = some b ∧ ¬x < b.lo ∧ ¬b.hi < x ∧ ¬a.resolutionFloat ≤ 0 ∧
      i = min (cells.lo + a.offset b x) cells.hi := by
  unfold cellIndex
  cases a.numeric with
  | none => simp
  | some b =>
      simp only [ite_error_eq_ok, not_or, Except.ok.injEq, Option.some.injEq, exists_eq_left',
        and_assoc, eq_comm (b := i)]
      rfl

theorem parseCoordinate_eq_ok_iff :
    parseCoordinate name text = .ok x ↔ parseFloat (Text.trim text) = some x := by
  unfold parseCoordinate
  split <;> simp_all

theorem coordinateBound_eq_ok_iff {n : Int} : a.coordinateBound text native n = .ok i ↔
    text = Subset.openBound ∧ i = n ∨ text ≠ Subset.openBound ∧
      ∃ x, parseFloat (Text.trim text) = some x ∧ a.cellIndex x native = .ok i := by
  unfold coordinateBound
  by_cases hopen : text = Subset.openBound
  · simp [hopen, eq_comm]
  · simp [hopen, parseCoordinate_eq_ok_iff]

-- Bounds in a reference system of the axis other than the grid.
theorem resolveOn_eq_ok_iff (hgrid : inGrid t = false) :
    a.resolveOn t native current = .ok (i, j) ↔ t.crs.getD "" ∈ a.crsSet ∧
      a.coordinateBound t.bounds.1 native current.lo = .ok i ∧
      a.coordinateBound t.bounds.2 native current.hi = .ok j := by
  unfold resolveOn
  simp only [hgrid, Bool.false_eq_true, if_false]
  split
  · next hknown => simp [hknown]
  · next hknown => simp [hknown]

end Datacube.Axis
