import Datacube.Proofs.Number.Written
import Datacube.Proofs.Schema.Sound

-- The size of the cells of an axis. It is the exact extent divided by the number of cells and
-- rounded up by less than one unit of the last place that the bounds are written with.
namespace Datacube

open Result
open Number (Decimal floatText)

-- The decimals that the shortest texts of the bounds write.
structure NumericBounds.Written (b : NumericBounds) (lo hi : Decimal) : Prop where
  lo : Decimal.written? (floatText b.lo) = some lo
  hi : Decimal.written? (floatText b.hi) = some hi

-- They are the decimals of the bounds.
theorem NumericBounds.Written.ofFloat {b : NumericBounds} {lo hi : Decimal} (h : b.Written lo hi)
    (hlo : b.lo.isFinite = true) (hhi : b.hi.isFinite = true) :
    Decimal.ofFloat b.lo = some lo ∧ Decimal.ofFloat b.hi = some hi := by
  have hdecimal : ∀ {x : Float} {d : Decimal}, x.isFinite = true →
      Decimal.written? (floatText x) = some d → Decimal.ofFloat x = some d := by
    intro x d hx hd
    obtain ⟨d', hd'⟩ := Decimal.exists_ofFloat hx
    rw [Number.written?_floatText hd'] at hd
    rw [hd', hd]
  exact ⟨hdecimal hlo h.lo, hdecimal hhi h.hi⟩

namespace Axis

variable {a : Axis} {b : NumericBounds} {cells : Nat}

-- The axes that there are: checked definitions, given other reference systems or other cells.
inductive Built : Axis → Prop where
  | made {d : AxisDef} {allowed : List AxisKind} {a : Axis} (h : make d allowed = .ok a) : Built a
  | described {a : Axis} (crsSet : List String) (h : Built a) : Built (a.withCrsSet crsSet)
  | sized {a b : Axis} {cells : Nat} (h : Built a) (hb : a.setResolution cells = .ok b) : Built b

theorem Built.checked (h : a.Built) : a.Checked := by
  induction h with
  | made h => exact checked_of_make h
  | described crsSet _ ih => exact ih.withCrsSet crsSet
  | sized _ hb ih =>
      obtain ⟨-, _, _, _, -, -, -, rfl⟩ := setResolution_eq_ok hb
      exact ⟨ih.bounds, ih.grid⟩

theorem exactDecimal_of_ofFloat {x : Float} {d : Decimal} (h : Decimal.ofFloat x = some d) :
    exactDecimal x = .ok d := by
  rw [exactDecimal, h]

-- The bounds of a checked axis have decimals, and any number of cells gives a size.
theorem Checked.setResolution_eq (h : a.Checked) (hb : a.numeric = some b) :
    ∃ lo hi, b.Written lo hi ∧ lo.toRat ≤ hi.toRat ∧ ∀ cells, 0 < cells →
      a.setResolution cells = .ok { a with resolution := (hi.sub lo).divUp cells } := by
  obtain ⟨hlofinite, hhifinite, horder⟩ := h.bounds b hb
  obtain ⟨lo, hlo⟩ := Decimal.exists_ofFloat hlofinite
  obtain ⟨hi, hhi⟩ := Decimal.exists_ofFloat hhifinite
  refine ⟨lo, hi, ⟨Number.written?_floatText hlo, Number.written?_floatText hhi⟩,
    Decimal.toRat_le_of_le horder hlo hhi, fun cells hcells => ?_⟩
  rw [setResolution, if_neg hcells.ne', hb]
  simp only [exactDecimal_of_ofFloat hlo, exactDecimal_of_ofFloat hhi, ok_bind]
  rfl

-- What is left of the axis by a call that may be refused: the axis itself if it is.
def resized (a : Axis) (cells : Nat) : Axis :=
  match a.setResolution cells with
  | .ok b => b
  | .error _ => a

theorem resized_eq (a : Axis) (cells : Nat) :
    ∃ r, a.resized cells = { a with resolution := r } := by
  unfold resized
  split
  · next b hb =>
    obtain ⟨-, _, _, _, -, -, -, rfl⟩ := setResolution_eq_ok hb
    exact ⟨_, rfl⟩
  · exact ⟨a.resolution, rfl⟩

theorem foldl_resized_eq (a : Axis) (counts : List Nat) :
    ∃ r, counts.foldl resized a = { a with resolution := r } := by
  induction counts generalizing a with
  | nil => exact ⟨a.resolution, rfl⟩
  | cons cells counts ih =>
      obtain ⟨r, hr⟩ := resized_eq a cells
      rw [List.foldl_cons, hr]
      exact ih { a with resolution := r }

theorem Checked.setResolution_error_iff (h : a.Checked) :
    (∃ e, a.setResolution cells = .error e) ↔ cells = 0 ∨ a.numeric = none := by
  by_cases hcells : cells = 0
  · simp [setResolution, hcells]
  · cases hb : a.numeric with
    | none => simp [setResolution, hcells, hb]
    | some b =>
        obtain ⟨lo, hi, -, -, hsize⟩ := h.setResolution_eq hb
        simp [hsize cells (Nat.pos_of_ne_zero hcells), hcells]

-- The size of the cells is the exact quotient rounded up, and is not larger for more cells. A call
-- is refused only for no cells or without bounds of numbers, and whatever is called, nothing but
-- the size changes.
theorem setResolution_roundsUp (a : Axis) (h : a.Built) :
    (∀ b, a.numeric = some b → ∃ lo hi, b.Written lo hi ∧
      (∀ cells, 0 < cells → ∃ r, a.setResolution cells = .ok { a with resolution := r } ∧
        hi.toRat - lo.toRat ≤ r.toRat * cells ∧
        (r.toRat - (10 ^ max hi.scale lo.scale)⁻¹) * cells < hi.toRat - lo.toRat) ∧
      ∀ few many u v, few ≤ many → a.setResolution few = .ok u → a.setResolution many = .ok v →
        v.resolution.toRat ≤ u.resolution.toRat) ∧
    (∀ cells, ((∃ e, a.setResolution cells = .error e) ↔ cells = 0 ∨ a.numeric = none) ∧
      (cells = 0 ∨ a.numeric = none → a.resized cells = a)) ∧
    ∀ counts : List Nat, ∃ r, counts.foldl resized a = { a with resolution := r } := by
  refine ⟨fun b hb => ?_, fun cells => ⟨h.checked.setResolution_error_iff, fun hrefused => ?_⟩,
    foldl_resized_eq a⟩
  · obtain ⟨lo, hi, hwritten, horder, hsize⟩ := h.checked.setResolution_eq hb
    have hextent : 0 ≤ (hi.sub lo).toRat := by
      rw [Decimal.toRat_sub]
      linarith
    refine ⟨lo, hi, hwritten, fun cells hcells => ⟨_, hsize cells hcells, ?_, ?_⟩, ?_⟩
    · rw [← Decimal.toRat_sub]
      exact Decimal.toRat_le_divUp_mul _ hcells
    · rw [← Decimal.toRat_sub]
      exact Decimal.divUp_sub_unit_mul_lt hextent hcells
    · intro few many u v hle hu hv
      have hfew := (setResolution_eq_ok hu).1
      rw [hsize few hfew] at hu
      rw [hsize many (hfew.trans_le hle)] at hv
      rw [← Except.ok.inj hu, ← Except.ok.inj hv]
      exact Decimal.divUp_antitone hextent hfew hle
  · obtain ⟨e, he⟩ := h.checked.setResolution_error_iff.mpr hrefused
    rw [resized, he]

-- An axis from 0.1 to 0.7.
def tenths : AxisDef where
  name := "x"
  kind := "x"
  numLo := some 0.1
  numHi := some 0.7

-- Four cells of two tenths cover six tenths, and four cells of one tenth do not.
theorem setResolution_roundsUp_tenths :
    ∃ a b r, ofDef tenths = .ok a ∧ a.Built ∧ a.numeric = some b ∧
      b.Written ⟨1, 1⟩ ⟨7, 1⟩ ∧ a.setResolution 4 = .ok { a with resolution := r } ∧
      (7 / 10 - 1 / 10 : ℚ) ≤ r.toRat * 4 ∧ (r.toRat - 1 / 10) * 4 < (7 / 10 - 1 / 10 : ℚ) := by
  obtain ⟨a, b, ha, hb, hlo, hhi⟩ : ∃ a b, ofDef tenths = .ok a ∧ a.numeric = some b ∧
      b.lo = 0.1 ∧ b.hi = 0.7 := ⟨_, _, rfl, rfl, rfl, rfl⟩
  have hbuilt : a.Built := .made ha
  have hwritten : b.Written ⟨1, 1⟩ ⟨7, 1⟩ := by
    constructor
    · rw [hlo]
      decide +kernel
    · rw [hhi]
      decide +kernel
  obtain ⟨lo, hi, hwritten', hsize, -⟩ := (setResolution_roundsUp a hbuilt).1 b hb
  obtain rfl := Option.some.inj (hwritten'.lo.symm.trans hwritten.lo)
  obtain rfl := Option.some.inj (hwritten'.hi.symm.trans hwritten.hi)
  obtain ⟨r, hr, hcovers, hleast⟩ := hsize 4 (by decide)
  norm_num [Decimal.toRat] at hcovers hleast ⊢
  exact ⟨a, ha, hbuilt, b, hb, hwritten, r, hr, hcovers, hleast⟩

end Axis

end Datacube
