import Datacube.Proofs.Axis.Resolution
import Datacube.Proofs.Axis.Selection
import Datacube.Proofs.Number.Floor
import Datacube.Proofs.Number.Word

-- The cell of a coordinate. It is a cell of the axis, and a larger coordinate has no earlier cell.
-- Every coordinate within the bounds has one, and so has what is not a number.
namespace Datacube.Axis

open Result
open Number (parts parseFloat SaysNotANumber)

variable {a : Axis} {b : NumericBounds} {t : Subset} {native current cells : CellExtent}
  {x y : Float} {i j : Int} {name text : String}

section Monotone

variable (h : a.Checked) (hb : a.numeric = some b)

include h hb

theorem Checked.offset_nonneg (hlo : ¬x < b.lo) (hhi : ¬b.hi < x) (hsize : ¬a.resolutionFloat ≤ 0) :
    0 ≤ a.offset b x := by
  obtain ⟨hlofinite, hhifinite, -⟩ := h.bounds b hb
  by_cases hx : parts x = .notANumber
  · exact (Number.floorClamped_div_notANumber (Number.sub_notANumber hx)).ge
  · have hfinite := Number.isFinite_of_between hlofinite hhifinite hx hlo hhi
    rw [Number.not_lt_iff_le (Number.ne_notANumber_of_isFinite hlofinite) hx,
      Number.le_iff_value (Number.ne_notANumber_of_isFinite hlofinite) hx] at hlo
    exact Number.floorClamped_div_nonneg (Number.near_difference hfinite hlofinite).number
      (Number.value_sub_nonneg hfinite hlofinite hlo) hsize

-- The difference to the lower bound, its quotient and the floor keep the order one by one.
theorem Checked.offset_mono (hlo : ¬x < b.lo) (hhi : ¬b.hi < y) (hxy : x ≤ y)
    (hsize : ¬a.resolutionFloat ≤ 0) : a.offset b x ≤ a.offset b y := by
  obtain ⟨hlofinite, hhifinite, -⟩ := h.bounds b hb
  obtain ⟨hx, hy⟩ := Number.number_of_le hxy
  have hlonumber := Number.ne_notANumber_of_isFinite hlofinite
  have hhinumber := Number.ne_notANumber_of_isFinite hhifinite
  have hvalues := (Number.le_iff_value hx hy).mp hxy
  have hxhi : ¬b.hi < x := by
    rw [Number.lt_iff_value hhinumber hy] at hhi
    rw [Number.lt_iff_value hhinumber hx]
    linarith
  have hylo : ¬y < b.lo := by
    rw [Number.lt_iff_value hx hlonumber] at hlo
    rw [Number.lt_iff_value hy hlonumber]
    linarith
  have hnear := Number.near_difference
    (Number.isFinite_of_between hlofinite hhifinite hx hlo hxhi) hlofinite
  have hnear' := Number.near_difference
    (Number.isFinite_of_between hlofinite hhifinite hy hylo hhi) hlofinite
  exact Number.floorClamped_div_mono hsize hnear.number hnear'.number
    (hnear.value_le hnear' (by linarith))

end Monotone

-- The cell of an accepted coordinate is one of the cells, and that of a larger coordinate is not
-- before it. So a trim whose bounds are coordinates in order selects cells in order.
theorem cellIndex_monotone (a : Axis) (h : a.Built) (cells : CellExtent)
    (hcells : cells.lo ≤ cells.hi) :
    (∀ x i, a.cellIndex x cells = .ok i → cells.lo ≤ i ∧ i ≤ cells.hi) ∧
    (∀ x y i j, x ≤ y → a.cellIndex x cells = .ok i → a.cellIndex y cells = .ok j → i ≤ j) ∧
    ∀ (t : Subset) (low high : String) (x y : Float) (current : CellExtent) (lo hi : Int),
      inGrid t = false → t.selection = .trim low high → parseFloat (Text.trim low) = some x →
      parseFloat (Text.trim high) = some y → x ≤ y →
      a.resolveOn t cells current = .ok (lo, hi) → cells.lo ≤ lo ∧ lo ≤ hi ∧ hi ≤ cells.hi := by
  have hinside : ∀ x i, a.cellIndex x cells = .ok i → cells.lo ≤ i ∧ i ≤ cells.hi := by
    intro x i hx
    obtain ⟨b, hb, hlo, hhi, hsize, rfl⟩ := cellIndex_eq_ok_iff.mp hx
    have hnonneg := h.checked.offset_nonneg hb hlo hhi hsize
    omega
  have hordered : ∀ x y i j, x ≤ y → a.cellIndex x cells = .ok i → a.cellIndex y cells = .ok j →
      i ≤ j := by
    intro x y i j hxy hx hy
    obtain ⟨b, hb, hlo, -, hsize, rfl⟩ := cellIndex_eq_ok_iff.mp hx
    obtain ⟨b', hb', -, hhi, -, rfl⟩ := cellIndex_eq_ok_iff.mp hy
    obtain rfl := Option.some.inj (hb.symm.trans hb')
    have hoffset := h.checked.offset_mono hb hlo hhi hxy hsize
    omega
  refine ⟨hinside, hordered, fun t low high x y current lo hi hgrid htrim hlow hhigh hxy ht => ?_⟩
  -- A bound that is a coordinate is not open.
  have hclosed : ∀ {text x}, parseFloat (Text.trim text) = some x → text ≠ Subset.openBound := by
    rintro _ x hx rfl
    have hnone : parseFloat (Text.trim Subset.openBound) = none := by decide +kernel
    rw [hnone] at hx
    cases hx
  obtain ⟨-, hlo, hhi⟩ := (resolveOn_eq_ok_iff hgrid).mp ht
  simp only [Subset.bounds, htrim, coordinateBound_eq_ok_iff, hclosed hlow, hclosed hhigh, hlow,
    hhigh, false_and, false_or, ne_eq, not_false_eq_true, true_and, Option.some.injEq,
    exists_eq_left'] at hlo hhi
  exact ⟨(hinside x lo hlo).1, hordered x y lo hi hxy hlo hhi, (hinside y hi hhi).2⟩

-- An axis from 0 to 10.
def tens : AxisDef where
  name := "x"
  kind := "x"
  numLo := some 0
  numHi := some 10
  crsSet := ["EPSG:4326"]

theorem cellIndex_monotone_tens :
    ∃ a, (do (← ofDef tens).setResolution 10) = .ok a ∧ a.Built ∧
      a.cellIndex 2.5 ⟨0, 9, none⟩ = .ok 2 ∧ a.cellIndex 10 ⟨0, 9, none⟩ = .ok 9 ∧
      (2 : Int) ≤ 9 ∧
      a.resolveOn ((Subset.trim "x" "2.5" " 7.25").withCrs "EPSG:4326") ⟨0, 9, none⟩ ⟨4, 9, none⟩ =
        .ok (2, 7) ∧
      (0 : Int) ≤ 2 ∧ (2 : Int) ≤ 7 ∧ (7 : Int) ≤ 9 := by
  obtain ⟨a, b, x, y, ha, hb, hfirst, hlast, hx, hy, hxy, htrim⟩ : ∃ a b x y, ofDef tens = .ok a ∧
      a.setResolution 10 = .ok b ∧ b.cellIndex 2.5 ⟨0, 9, none⟩ = .ok 2 ∧
      b.cellIndex 10 ⟨0, 9, none⟩ = .ok 9 ∧ parseFloat (Text.trim "2.5") = some x ∧
      parseFloat (Text.trim " 7.25") = some y ∧ x ≤ y ∧
      b.resolveOn ((Subset.trim "x" "2.5" " 7.25").withCrs "EPSG:4326") ⟨0, 9, none⟩ ⟨4, 9, none⟩ =
        .ok (2, 7) :=
    ⟨_, _, _, _, rfl, rfl, by decide +kernel, by decide +kernel, rfl, rfl, by decide +kernel,
      by decide +kernel⟩
  have hbuilt : b.Built := .sized (.made ha) hb
  obtain ⟨-, hordered, hselected⟩ := cellIndex_monotone b hbuilt ⟨0, 9, none⟩ (by decide)
  exact ⟨b, by rw [ha, ok_bind, hb], hbuilt, hfirst, hlast,
    hordered _ _ _ _ (by decide +kernel) hfirst hlast, htrim,
    hselected _ _ _ x y _ _ _ (by decide +kernel) rfl hx hy hxy htrim⟩

section Accepted

-- Whether a coordinate lies between the bounds is asked by two comparisons, which what is not a
-- number does not fail.
theorem Checked.not_beyond_iff (h : a.Checked) (hb : a.numeric = some b)
    (hx : parseFloat text = some x) :
    ¬x < b.lo ∧ ¬b.hi < x ↔ SaysNotANumber text ∨ b.lo ≤ x ∧ x ≤ b.hi := by
  obtain ⟨hlo, hhi, -⟩ := h.bounds b hb
  have hword := Number.parseFloat_notANumber_iff hx
  by_cases hnumber : parts x = .notANumber
  · exact iff_of_true
      ⟨Number.not_lt_of_notANumber (.inl hnumber), Number.not_lt_of_notANumber (.inr hnumber)⟩
      (.inl (hword.mp hnumber))
  · rw [Number.not_lt_iff_le (Number.ne_notANumber_of_isFinite hlo) hnumber,
      Number.not_lt_iff_le hnumber (Number.ne_notANumber_of_isFinite hhi),
      or_iff_right (mt hword.mpr hnumber)]

-- An open bound, or one that is read as a coordinate between those of the axis or as not a number.
def AcceptsBound (a : Axis) (text : String) : Prop :=
  text = Subset.openBound ∨ ¬a.resolutionFloat ≤ 0 ∧
    ∃ b x, a.numeric = some b ∧ parseFloat (Text.trim text) = some x ∧
      (SaysNotANumber (Text.trim text) ∨ b.lo ≤ x ∧ x ≤ b.hi)

theorem Checked.acceptsBound_iff (h : a.Checked) (native : CellExtent) (n : Int) :
    (∃ i, a.coordinateBound text native n = .ok i) ↔ a.AcceptsBound text := by
  simp only [coordinateBound_eq_ok_iff, cellIndex_eq_ok_iff, AcceptsBound]
  constructor
  · rintro ⟨i, ⟨hopen, -⟩ | ⟨-, x, hx, b, hb, hlo, hhi, hsize, -⟩⟩
    · exact .inl hopen
    · exact .inr ⟨hsize, b, x, hb, hx, (h.not_beyond_iff hb hx).mp ⟨hlo, hhi⟩⟩
  · rintro (hopen | ⟨hsize, b, x, hb, hx, hinside⟩)
    · exact ⟨n, .inl ⟨hopen, rfl⟩⟩
    · by_cases hopen : text = Subset.openBound
      · exact ⟨n, .inl ⟨hopen, rfl⟩⟩
      · obtain ⟨hlo, hhi⟩ := (h.not_beyond_iff hb hx).mpr hinside
        exact ⟨_, .inr ⟨hopen, x, hx, b, hb, hlo, hhi, hsize, rfl⟩⟩

-- In a reference system of the axis other than the grid, a subset is accepted exactly if each of
-- its bounds is open, or is read as a coordinate within the bounds or as not a number.
theorem resolveOn_accepted_iff (a : Axis) (h : a.Built) (t : Subset) (crs : String)
    (hcrs : t.crs = some crs) (hgrid : Crs.isGrid crs = false) (hknown : crs ∈ a.crsSet)
    (native current : CellExtent) :
    (∃ cells, a.resolveOn t native current = .ok cells) ↔
      a.AcceptsBound t.bounds.1 ∧ a.AcceptsBound t.bounds.2 := by
  have houtside : inGrid t = false := by simp [inGrid, hcrs, hgrid]
  have hmember : t.crs.getD "" ∈ a.crsSet := by simpa [hcrs] using hknown
  have hlower : (∃ i, a.coordinateBound t.bounds.1 native current.lo = .ok i) ↔
      a.AcceptsBound t.bounds.1 := h.checked.acceptsBound_iff native current.lo
  have hupper : (∃ i, a.coordinateBound t.bounds.2 native current.hi = .ok i) ↔
      a.AcceptsBound t.bounds.2 := h.checked.acceptsBound_iff native current.hi
  simp only [Prod.exists, resolveOn_eq_ok_iff houtside, hmember, true_and, ← hlower, ← hupper]
  constructor
  · rintro ⟨i, j, hi, hj⟩
    exact ⟨⟨i, hi⟩, j, hj⟩
  · rintro ⟨⟨i, hi⟩, j, hj⟩
    exact ⟨i, j, hi, hj⟩

-- A trim of the axis from 0 to 10.
def tensTrim (low high : String) : Subset :=
  (Subset.trim "x" low high).withCrs "EPSG:4326"

theorem resolveOn_accepted_iff_tens :
    ∃ a, (do (← ofDef tens).setResolution 10) = .ok a ∧ a.Built ∧
      Crs.isGrid "EPSG:4326" = false ∧ "EPSG:4326" ∈ a.crsSet ∧
      a.resolveOn (tensTrim " 2.5 " "*") ⟨0, 9, none⟩ ⟨4, 8, none⟩ = .ok (2, 8) ∧
      a.AcceptsBound " 2.5 " ∧ ¬a.AcceptsBound "10.5" := by
  obtain ⟨a, b, x, ha, hb, hknown, haccepted, hrefused⟩ : ∃ a b x, ofDef tens = .ok a ∧
      a.setResolution 10 = .ok b ∧ "EPSG:4326" ∈ b.crsSet ∧
      b.resolveOn (tensTrim " 2.5 " "*") ⟨0, 9, none⟩ ⟨4, 8, none⟩ = .ok (2, 8) ∧
      b.resolveOn (tensTrim "10.5" "*") ⟨0, 9, none⟩ ⟨4, 8, none⟩ = .error x :=
    ⟨_, _, _, rfl, rfl, by decide +kernel, by decide +kernel, rfl⟩
  have hbuilt : b.Built := .sized (.made ha) hb
  have hgrid : Crs.isGrid "EPSG:4326" = false := by decide +kernel
  have hiff := fun low => resolveOn_accepted_iff b hbuilt (tensTrim low "*") _ rfl hgrid hknown
    ⟨0, 9, none⟩ ⟨4, 8, none⟩
  refine ⟨b, by rw [ha, ok_bind, hb], hbuilt, hgrid, hknown, haccepted,
    ((hiff " 2.5 ").mp ⟨_, haccepted⟩).1, fun hbound => ?_⟩
  obtain ⟨cells, hcells⟩ := (hiff "10.5").mpr ⟨hbound, .inl rfl⟩
  rw [hrefused] at hcells
  cases hcells

-- The word for not a number is accepted as a lower bound, and selects the first cell.
theorem resolveOn_notANumber :
    ∃ a b x, (do (← ofDef tens).setResolution 10) = .ok a ∧ a.numeric = some b ∧
      Crs.isGrid "EPSG:4326" = false ∧ "EPSG:4326" ∈ a.crsSet ∧
      a.resolveOn (tensTrim "nan" "5") ⟨0, 9, none⟩ ⟨4, 8, none⟩ = .ok (0, 5) ∧
      "nan" ≠ Subset.openBound ∧ parseFloat (Text.trim "nan") = some x ∧
      ¬(b.lo ≤ x ∧ x ≤ b.hi) :=
  ⟨_, _, _, rfl, rfl, by decide +kernel, by decide +kernel, by decide +kernel, by decide, rfl,
    by decide +kernel⟩

end Accepted

end Datacube.Axis
