import Datacube.Proofs.Axis.Definition
import Datacube.Proofs.Expr.Subsetting
import Datacube.Proofs.Number.Decimal
import Datacube.Store

-- What holds of every axis that has been checked and fitted to its cells.
namespace Datacube

open Result
open Number (Decimal)

-- Bounds of numbers are finite and in order, and the grid is among the reference systems.
structure Axis.Checked (a : Axis) : Prop where
  bounds : ∀ b, a.numeric = some b → b.lo.isFinite = true ∧ b.hi.isFinite = true ∧ b.lo ≤ b.hi
  grid : ∃ crs ∈ a.crsSet, Crs.isGrid crs = true

-- A number of cells of the axis covers the exact extent between its bounds.
def Axis.Covers (a : Axis) (cells : Int) : Prop :=
  ∀ b, a.numeric = some b → ∃ lo hi, Decimal.ofFloat b.lo = some lo ∧
    Decimal.ofFloat b.hi = some hi ∧ hi.toRat - lo.toRat ≤ a.resolution.toRat * cells

structure AxisView.Sound (a : AxisView) : Prop where
  cells : a.cells.lo ≤ a.cells.hi
  native : a.native.lo ≤ a.native.hi
  checked : a.domain.Checked
  covers : a.domain.Covers (a.native.hi - a.native.lo + 1)

-- The cells that are left are native cells.
def AxisView.Inside (a : AxisView) : Prop :=
  a.native.lo ≤ a.cells.lo ∧ a.cells.hi ≤ a.native.hi

section Axes

variable {a b : Axis}

theorem Axis.Checked.withCrsSet (h : a.Checked) (names : List String) :
    (a.withCrsSet names).Checked :=
  ⟨h.bounds, Crs.exists_grid_normalize names⟩

theorem Axis.checked_of_make {d : AxisDef} {allowed : List AxisKind}
    (h : Axis.make d allowed = .ok a) : a.Checked := by
  obtain ⟨-, kind, -, -, hbounded, rfl⟩ := Axis.make_eq_ok_iff.mp h
  refine ⟨fun bounds hbounds => ?_, Crs.exists_grid_normalize _⟩
  obtain ⟨hlo, hhi, horder⟩ := (AxisDef.bounded_iff.mp hbounded).1 bounds hbounds
  exact ⟨hlo, hhi, horder⟩

theorem Axis.exactDecimal_eq_ok {x : Float} {d : Decimal} (h : Axis.exactDecimal x = .ok d) :
    Decimal.ofFloat x = some d := by
  unfold Axis.exactDecimal at h
  split at h
  · next hx => rw [hx, Except.ok.inj h]
  · cases h

-- The exact extent divided by the cells and rounded up.
theorem Axis.setResolution_eq_ok {cells : Nat} (h : a.setResolution cells = .ok b) :
    0 < cells ∧ ∃ bounds lo hi, a.numeric = some bounds ∧ Decimal.ofFloat bounds.lo = some lo ∧
      Decimal.ofFloat bounds.hi = some hi ∧
      b = { a with resolution := (hi.sub lo).divUp cells } := by
  simp only [Axis.setResolution, ite_error_eq_ok] at h
  obtain ⟨hcells, h⟩ := h
  split at h
  · cases h
  · next bounds hbounds =>
    simp only [bind_eq_ok, pure_eq_ok] at h
    obtain ⟨hi, hhi, lo, hlo, rfl⟩ := h
    exact ⟨Nat.pos_of_ne_zero hcells, bounds, lo, hi, hbounds, exactDecimal_eq_ok hlo,
      exactDecimal_eq_ok hhi, rfl⟩

theorem Axis.fitted_of_setResolution {cells : Nat} (h : a.setResolution cells = .ok b) :
    a.fitted cells = .ok b := by
  obtain ⟨-, bounds, _, _, hbounds, -⟩ := setResolution_eq_ok h
  rw [Axis.fitted, if_pos (by simp [hbounds]), h]

-- The number of cells, up to the greatest number of 64 bits.
theorem CellExtent.count_eq {cells : CellExtent} (h : cells.lo ≤ cells.hi) :
    cells.count = min (cells.hi - cells.lo + 1).toNat Number.uint64Max := by
  unfold CellExtent.count
  simp only
  split <;> omega

theorem CellExtent.count_pos {cells : CellExtent} (h : cells.lo ≤ cells.hi) : 0 < cells.count := by
  have hmax : 0 < Number.uint64Max := by decide
  rw [count_eq h]
  omega

-- There are at least as many cells as are counted.
theorem CellExtent.count_le {cells : CellExtent} (h : cells.lo ≤ cells.hi) :
    (cells.count : Int) ≤ cells.hi - cells.lo + 1 := by
  rw [count_eq h]
  omega

-- Fewer cells than there are cover the extent already, as no cell has a negative size.
theorem Axis.Checked.fitted {cells : CellExtent} (h : a.Checked) (hcells : cells.lo ≤ cells.hi)
    (hfitted : a.fitted cells.count = .ok b) :
    b.Checked ∧ b.Covers (cells.hi - cells.lo + 1) := by
  unfold Axis.fitted at hfitted
  split at hfitted
  · obtain ⟨hpos, bounds, lo, hi, hbounds, hlo, hhi, rfl⟩ := setResolution_eq_ok hfitted
    refine ⟨⟨h.bounds, h.grid⟩, fun bounds' hbounds' => ?_⟩
    obtain rfl : bounds' = bounds := Option.some.inj (hbounds'.symm.trans hbounds)
    have horder := Decimal.toRat_le_of_le (h.bounds _ hbounds).2.2 hlo hhi
    have hextent : 0 ≤ (hi.sub lo).toRat := by
      rw [Decimal.toRat_sub]
      linarith
    have hsize := Decimal.divUp_nonneg hextent cells.count
    have hcount : (cells.count : ℚ) ≤ ((cells.hi - cells.lo + 1 : Int) : ℚ) := by
      exact_mod_cast CellExtent.count_le hcells
    refine ⟨lo, hi, hlo, hhi, ?_⟩
    calc hi.toRat - lo.toRat = (hi.sub lo).toRat := (Decimal.toRat_sub hi lo).symm
      _ ≤ ((hi.sub lo).divUp cells.count).toRat * cells.count := Decimal.toRat_le_divUp_mul _ hpos
      _ ≤ ((hi.sub lo).divUp cells.count).toRat * ((cells.hi - cells.lo + 1 : Int) : ℚ) := by
          gcongr
  · next hnumeric =>
    obtain rfl := Except.ok.inj hfitted
    exact ⟨h, fun bounds hbounds => by simp [hbounds] at hnumeric⟩

end Axes

-- An axis that is fitted to the cells it starts with.
theorem AxisView.sound_of_fitted {a b : Axis} {cells : CellExtent} (h : a.Checked)
    (hcells : cells.lo ≤ cells.hi) (hfitted : a.fitted cells.count = .ok b) :
    AxisView.Sound ⟨b, cells, cells⟩ ∧ AxisView.Inside ⟨b, cells, cells⟩ := by
  obtain ⟨hchecked, hcovers⟩ := h.fitted hcells hfitted
  exact ⟨⟨hcells, hcells, hchecked, hcovers⟩, Int.le_refl _, Int.le_refl _⟩

theorem CellExtent.ofBounds_eq_ok_iff {lo hi : Option Int} {cells : CellExtent} :
    CellExtent.ofBounds lo hi = .ok cells ↔
      lo = some cells.lo ∧ hi = some cells.hi ∧ cells.lo ≤ cells.hi ∧ cells.subset = none := by
  obtain ⟨l, h, subset⟩ := cells
  cases lo with
  | none => simp [ofBounds]
  | some lo =>
      cases hi with
      | none => simp [ofBounds]
      | some hi =>
          simp only [ofBounds, make, ite_error_eq_ok, Int.not_lt, Except.ok.injEq, mk.injEq,
            Option.some.injEq]
          constructor
          · rintro ⟨hle, rfl, rfl, rfl⟩
            exact ⟨rfl, rfl, hle, rfl⟩
          · rintro ⟨rfl, rfl, hle, rfl⟩
            exact ⟨hle, rfl, rfl, rfl⟩

section Coverages

-- An axis of a coverage is checked and then fitted to its cells.
theorem Coverage.makeAxis_eq_ok_iff {coverage : String} {seen : List String} {d : AxisDef}
    {bounds : CellBounds} {axis : GridAxis} :
    Coverage.makeAxis coverage seen d bounds = .ok axis ↔
      ∃ a, Axis.ofDef d = .ok a ∧ a.name ∉ seen ∧
        CellExtent.ofBounds bounds.lo bounds.hi = .ok axis.cells ∧
        a.fitted axis.cells.count = .ok axis.domain := by
  simp only [Coverage.makeAxis, bind_eq_ok, throw_bind, ite_throw_eq_ok]
  refine exists_congr fun a => and_congr_right fun _ => and_congr_right fun _ => ?_
  cases CellExtent.ofBounds bounds.lo bounds.hi with
  | error e => simp
  | ok extent =>
      obtain ⟨domain, cells⟩ := axis
      unfold Axis.fitted
      simp only [pure_bind, Except.ok.injEq]
      split <;> simp only [bind_eq_ok, pure_eq_ok, Except.ok.injEq, GridAxis.mk.injEq]
      · constructor
        · rintro ⟨b, hb, rfl, rfl⟩
          exact ⟨rfl, hb⟩
        · rintro ⟨rfl, hb⟩
          exact ⟨_, hb, rfl, rfl⟩
      · exact and_comm

-- Every axis of a coverage was checked and then fitted to its cells.
theorem Coverage.fitted_of_makeAxes {coverage : String} {seen : List String}
    {defs : List (AxisDef × CellBounds)} {axes : List GridAxis}
    (h : Coverage.makeAxes coverage seen defs = .ok axes) :
    ∀ axis ∈ axes, ∃ a : Axis, a.Checked ∧ axis.cells.lo ≤ axis.cells.hi ∧
      a.fitted axis.cells.count = .ok axis.domain := by
  induction defs generalizing seen axes with
  | nil =>
      obtain rfl := Except.ok.inj h
      simp
  | cons d defs ih =>
      simp only [Coverage.makeAxes, bind_eq_ok, pure_eq_ok] at h
      obtain ⟨axis, haxis, more, hmore, rfl⟩ := h
      obtain ⟨a, ha, -, hcells, hfitted⟩ := makeAxis_eq_ok_iff.mp haxis
      obtain ⟨-, -, hcells, -⟩ := CellExtent.ofBounds_eq_ok_iff.mp hcells
      simp only [List.mem_cons, forall_eq_or_imp]
      exact ⟨⟨a, Axis.checked_of_make ha, hcells, hfitted⟩, ih hmore⟩

theorem Coverage.fitted_of_ofDef {d : CoverageDef} {c : Coverage} (h : Coverage.ofDef d = .ok c) :
    ∀ axis ∈ c.axes, ∃ a : Axis, a.Checked ∧ axis.cells.lo ≤ axis.cells.hi ∧
      a.fitted axis.cells.count = .ok axis.domain := by
  simp only [Coverage.ofDef, throw_bind, ite_throw_eq_ok, bind_eq_ok, pure_eq_ok] at h
  obtain ⟨-, -, -, axes, haxes, rfl⟩ := h
  exact fitted_of_makeAxes haxes

theorem Coverage.sound_of_ofDef {d : CoverageDef} {c : Coverage} (h : Coverage.ofDef d = .ok c) :
    ∀ axis ∈ (Schema.ofCoverage c).axes, axis.Sound ∧ axis.Inside := by
  intro view hview
  obtain ⟨axis, haxis, rfl⟩ := List.mem_map.mp hview
  obtain ⟨a, hchecked, hcells, hfitted⟩ := fitted_of_ofDef h axis haxis
  exact AxisView.sound_of_fitted hchecked hcells hfitted

-- Every coverage of the store comes from a definition that was checked.
def Store.Validated (s : Store) : Prop :=
  ∀ id c, s.read id = .ok c → ∃ d, Coverage.ofDef d = .ok c

theorem Store.mem_put {α : Type} {name : String} {value : α} {entries : List (String × α)}
    {entry : String × α} (h : entry ∈ Store.put name value entries) :
    entry = (name, value) ∨ entry ∈ entries := by
  induction entries with
  | nil => exact .inl (List.mem_singleton.mp h)
  | cons other rest ih =>
      unfold Store.put at h
      split at h
      · simp only [List.mem_cons] at h ⊢
        tauto
      · split at h
        · simp only [List.mem_cons] at h ⊢
          tauto
        · simp only [List.mem_cons] at h ⊢
          rcases h with h | h
          · exact .inr (.inl h)
          · exact (ih h).imp_right .inr

theorem Store.validated_of_ofDefs {defs : List CoverageDef} {store : Store}
    (h : Store.ofDefs defs = .ok store) : store.Validated := by
  have hentries : ∀ entry ∈ store.coverages, ∃ d, Coverage.ofDef d = .ok entry.2 := by
    refine foldlM_preserves (P := fun s : Store =>
      ∀ entry ∈ s.coverages, ∃ d, Coverage.ofDef d = .ok entry.2) ?_ ?_ h
    · intro d _ s s' hs hstep
      simp only [bind_eq_ok, pure_eq_ok] at hstep
      obtain ⟨c, hc, rfl⟩ := hstep
      intro entry hentry
      rcases mem_put hentry with rfl | hentry
      · exact ⟨d, hc⟩
      · exact hs entry hentry
    · simp [Store.empty]
  intro id c hread
  unfold Store.read at hread
  split at hread
  · next c' hlookup =>
    obtain rfl := Except.ok.inj hread
    obtain ⟨before, after, hsplit, -⟩ := List.lookup_eq_some_iff.mp hlookup
    exact hentries (id, c') (by simp [hsplit])
  · cases hread

end Coverages

end Datacube
