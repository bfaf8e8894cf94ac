import Datacube.Proofs.Expr.Production
import Datacube.Proofs.Expr.Subsetting

-- Schemas that agree in everything a query is made from. What an operation makes of one it makes of
-- the other.
namespace Datacube

open Datacube.Expr Result

structure Axis.Alike (a b : Axis) : Prop where
  name : a.name = b.name
  numeric : a.numeric = b.numeric
  resolution : a.resolution = b.resolution
  crsSet : ∀ crs, crs ∈ a.crsSet ↔ crs ∈ b.crsSet

structure CellExtent.Alike (a b : CellExtent) : Prop where
  lo : a.lo = b.lo
  hi : a.hi = b.hi

structure AxisView.Alike (a b : AxisView) : Prop where
  domain : a.domain.Alike b.domain
  cells : a.cells.Alike b.cells
  native : a.native.Alike b.native

structure Schema.Alike (a b : Schema) : Prop where
  axes : List.Forall₂ AxisView.Alike a.axes b.axes
  fields : ∀ field, a.hasField field = b.hasField field

-- Coverages that differ in nothing but their cells, their values and how they are described.
structure Coverage.Alike (c d : Coverage) : Prop where
  axes : List.Forall₂ (fun a b => a.domain.Alike b.domain) c.axes d.axes
  fields : ∀ field, field ∈ c.description.rangeFields.map (·.name) ↔
    field ∈ d.description.rangeFields.map (·.name)

@[refl] theorem Axis.Alike.refl (a : Axis) : a.Alike a :=
  ⟨rfl, rfl, rfl, fun _ => .rfl⟩

@[refl] theorem AxisView.Alike.refl (a : AxisView) : a.Alike a :=
  ⟨.refl _, ⟨rfl, rfl⟩, ⟨rfl, rfl⟩⟩

-- Cells and bounds of coordinates are found alike.
section Resolve

variable {a b : Axis} {native native' current current' : CellExtent}

theorem Axis.Alike.cellIndex_eq (h : a.Alike b) (hcells : native.Alike native') (value : Float) :
    a.cellIndex value native = b.cellIndex value native' := by
  have hres : a.resolutionFloat = b.resolutionFloat := congrArg Number.Decimal.toFloat h.resolution
  simp only [Axis.cellIndex, h.numeric, h.name, hres, hcells.lo, hcells.hi]

theorem Axis.Alike.coordinateBound_eq (h : a.Alike b) (hcells : native.Alike native')
    (text : String) (bound : Int) :
    a.coordinateBound text native bound = b.coordinateBound text native' bound := by
  simp only [Axis.coordinateBound, h.name, h.cellIndex_eq hcells]

theorem Axis.Alike.resolveOn_eq (h : a.Alike b) (hnative : native.Alike native')
    (hcurrent : current.Alike current') (s : Subset) :
    a.resolveOn s native current = b.resolveOn s native' current' := by
  simp only [Axis.resolveOn, h.name, h.crsSet, hcurrent.lo, hcurrent.hi,
    h.coordinateBound_eq hnative]

theorem Axis.Alike.setResolution {a' : Axis} {cells : Nat} (h : a.Alike b)
    (ha : a.setResolution cells = .ok a') : ∃ b', b.setResolution cells = .ok b' ∧ a'.Alike b' := by
  simp only [Axis.setResolution, ite_error_eq_ok] at ha ⊢
  obtain ⟨hcells, ha⟩ := ha
  rw [← h.numeric]
  split at ha
  · simp at ha
  · simp only [bind_eq_ok, pure_eq_ok] at ha ⊢
    obtain ⟨hi, hhi, lo, hlo, rfl⟩ := ha
    exact ⟨_, ⟨hcells, hi, hhi, lo, hlo, rfl⟩, h.name, rfl, rfl, h.crsSet⟩

theorem Axis.Alike.fitted {a' : Axis} {cells : Nat} (h : a.Alike b)
    (ha : a.fitted cells = .ok a') : ∃ b', b.fitted cells = .ok b' ∧ a'.Alike b' := by
  unfold Axis.fitted at ha ⊢
  rw [← h.numeric]
  split at ha
  · next hnumeric =>
    rw [if_pos hnumeric]
    exact h.setResolution ha
  · next hnumeric =>
    rw [if_neg hnumeric]
    exact ⟨b, rfl, Except.ok.inj ha ▸ h⟩

end Resolve

namespace Schema.Alike

variable {a b : Schema}

theorem extents_eq (h : a.Alike b) : a.extents = b.extents := by
  have hmap : ∀ {as bs : List AxisView}, List.Forall₂ AxisView.Alike as bs →
      as.map (fun v => (v.cells.lo, v.cells.hi)) = bs.map fun v => (v.cells.lo, v.cells.hi) := by
    intro as bs hall
    induction hall with
    | nil => rfl
    | cons hab _ ih => simp only [List.map_cons, hab.cells.lo, hab.cells.hi, ih]
  exact hmap h.axes

theorem dimension_eq (h : a.Alike b) : a.dimension = b.dimension :=
  h.axes.length_eq

theorem find_axis {as bs : List AxisView} (h : List.Forall₂ AxisView.Alike as bs) (name : String)
    {place i : Nat} {axis : AxisView}
    (hfind : ((as.zipIdx place).find? fun (v, _) => v.domain.name = name) = some (axis, i)) :
    ∃ axis', ((bs.zipIdx place).find? fun (v, _) => v.domain.name = name) = some (axis', i) ∧
      axis.Alike axis' := by
  induction h generalizing place with
  | nil => simp at hfind
  | @cons v v' _ _ hv _ ih =>
      simp only [List.zipIdx_cons, List.find?_cons] at hfind ⊢
      rw [← hv.domain.name]
      by_cases hname : v.domain.name = name
      · simp only [hname, decide_true, Option.some.injEq, Prod.mk.injEq] at hfind ⊢
        obtain ⟨rfl, rfl⟩ := hfind
        exact ⟨v', ⟨rfl, rfl⟩, hv⟩
      · simp only [hname, decide_false] at hfind ⊢
        exact ih hfind

theorem requireAxis (h : a.Alike b) {name : String} {i : Nat} {axis : AxisView}
    (ha : a.requireAxis name = .ok (i, axis)) :
    ∃ axis', b.requireAxis name = .ok (i, axis') ∧ axis.Alike axis' := by
  unfold Schema.requireAxis at ha
  split at ha
  · next v j hfind =>
    obtain ⟨rfl, rfl⟩ : j = i ∧ v = axis := by simpa using ha
    obtain ⟨v', hfind', hv⟩ := find_axis h.axes name hfind
    exact ⟨v', by simp [Schema.requireAxis, hfind'], hv⟩
  · simp at ha

theorem withDatatype (h : a.Alike b) (datatype : String) :
    (a.withDatatype datatype).Alike (b.withDatatype datatype) := by
  refine ⟨h.axes, fun field => ?_⟩
  have hfields := h.fields field
  simp only [Schema.hasField, Schema.withDatatype, List.any_map, Function.comp_def] at hfields ⊢
  exact hfields

theorem resolveSpec (h : a.Alike b) {op : SubsetOp} {earlier : List SubsetSpec} {subset : Subset}
    {spec : SubsetSpec} (ha : resolveSpec op a earlier subset = .ok spec) :
    Expr.resolveSpec op b earlier subset = .ok spec := by
  rw [resolveSpec_eq_ok_iff] at ha ⊢
  obtain ⟨i, axis, lo, hi, haxis, hfirst, hresolve, hle, hinside, rfl⟩ := ha
  obtain ⟨axis', haxis', halike⟩ := h.requireAxis haxis
  rw [halike.domain.resolveOn_eq halike.native halike.cells] at hresolve
  rw [halike.cells.lo, halike.cells.hi] at hinside
  exact ⟨i, axis', lo, hi, haxis', hfirst, hresolve, hle, hinside, rfl⟩

theorem resolveSpecs (h : a.Alike b) {op : SubsetOp} {earlier specs : List SubsetSpec}
    {subsets : List Subset} (ha : resolveSpecs op a earlier subsets = .ok specs) :
    Expr.resolveSpecs op b earlier subsets = .ok specs := by
  induction subsets generalizing earlier with
  | nil => exact ha
  | cons subset subsets ih =>
      simp only [Expr.resolveSpecs, bind_eq_ok] at ha ⊢
      obtain ⟨spec, hspec, hrest⟩ := ha
      exact ⟨spec, h.resolveSpec hspec, ih hrest⟩

theorem subsetSchema (h : a.Alike b) (op : SubsetOp) (specs : List SubsetSpec) :
    (subsetSchema op a specs).Alike (Expr.subsetSchema op b specs) := by
  have haxis : ∀ {v v' : AxisView} (place : Nat), v.Alike v' →
      Option.Rel AxisView.Alike (subsetAxis op specs v place) (subsetAxis op specs v' place) := by
    intro v v' place hv
    unfold subsetAxis
    split
    · split
      · exact .none
      · exact .some ⟨hv.domain, ⟨rfl, rfl⟩, hv.native⟩
    · exact .some hv
  have haxes : ∀ {as bs : List AxisView} (place : Nat), List.Forall₂ AxisView.Alike as bs →
      List.Forall₂ AxisView.Alike
        ((as.zipIdx place).filterMap fun (v, i) => subsetAxis op specs v i)
        ((bs.zipIdx place).filterMap fun (v, i) => subsetAxis op specs v i) := by
    intro as bs place hall
    induction hall generalizing place with
    | nil => exact .nil
    | cons hv _ ih =>
        simp only [List.zipIdx_cons, List.filterMap_cons]
        have hkept := haxis place hv
        generalize subsetAxis op specs _ place = kept at hkept ⊢
        generalize subsetAxis op specs _ place = kept' at hkept ⊢
        cases hkept with
        | none => exact ih _
        | some hkept => exact .cons hkept (ih _)
  exact ⟨haxes 0 h.axes, h.fields⟩

theorem set_axis (h : a.Alike b) {v v' : AxisView} (i : Nat) (hv : v.Alike v') :
    Alike { a with axes := a.axes.set i v } { b with axes := b.axes.set i v' } := by
  have hset : ∀ {as bs : List AxisView} (i : Nat), List.Forall₂ AxisView.Alike as bs →
      List.Forall₂ AxisView.Alike (as.set i v) (bs.set i v') := by
    intro as bs i hall
    induction hall generalizing i with
    | nil => exact .nil
    | cons hw hrest ih =>
        cases i with
        | zero => exact .cons hv hrest
        | succ i => exact .cons hw (ih i)
  exact ⟨hset i h.axes, h.fields⟩

theorem scaleAxis (h : a.Alike b) {subset : Subset} {a' : Schema}
    (ha : scaleAxis a subset = .ok a') : ∃ b', Expr.scaleAxis b subset = .ok b' ∧ a'.Alike b' := by
  simp only [scaleAxis_eq_ok_iff] at ha ⊢
  obtain ⟨i, axis, lo, hi, domain, haxis, hresolve, hle, hdomain, rfl⟩ := ha
  obtain ⟨axis', haxis', halike⟩ := h.requireAxis haxis
  obtain ⟨domain', hdomain', hdomains⟩ := halike.domain.fitted hdomain
  rw [halike.domain.resolveOn_eq halike.native halike.cells] at hresolve
  exact ⟨_, ⟨i, axis', lo, hi, domain', haxis', hresolve, hle, hdomain', rfl⟩,
    h.set_axis i ⟨hdomains, ⟨rfl, rfl⟩, ⟨rfl, rfl⟩⟩⟩

theorem scaleAxes (h : a.Alike b) {subsets : List Subset} {a' : Schema}
    (ha : subsets.foldlM Expr.scaleAxis a = .ok a') :
    ∃ b', subsets.foldlM Expr.scaleAxis b = .ok b' ∧ a'.Alike b' := by
  induction subsets generalizing a b with
  | nil =>
      obtain rfl := pure_eq_ok.mp ha
      exact ⟨b, rfl, h⟩
  | cons subset subsets ih =>
      simp only [List.foldlM_cons, bind_eq_ok] at ha ⊢
      obtain ⟨c, hc, hrest⟩ := ha
      obtain ⟨d, hd, hcd⟩ := h.scaleAxis hc
      obtain ⟨b', hb', halike⟩ := ih hcd hrest
      exact ⟨b', ⟨d, hd, hb'⟩, halike⟩

theorem metadataApply (h : a.Alike b) {change : MetadataChange} {a' : Schema}
    (ha : change.apply a = .ok a') : ∃ b', change.apply b = .ok b' ∧ a'.Alike b' := by
  cases change with
  | identifier | nullSet =>
      obtain rfl : _ = a' := by simpa [MetadataChange.apply] using ha
      exact ⟨_, rfl, h.axes, h.fields⟩
  | interpolationDefault field method | interpolationSet field method =>
      simp only [MetadataChange.apply, bind_eq_ok, pure_eq_ok] at ha ⊢
      obtain ⟨_, hfield, rfl⟩ := ha
      rw [requireField_eq_ok_iff, h.fields] at hfield
      exact ⟨_, ⟨(), requireField_eq_ok_iff.mpr hfield, rfl⟩, h.axes, h.fields⟩
  | crsSet names =>
      obtain rfl : _ = a' := by simpa [MetadataChange.apply] using ha
      refine ⟨_, rfl, ?_, h.fields⟩
      rw [List.forall₂_map_left_iff, List.forall₂_map_right_iff]
      exact h.axes.imp fun _ _ hv =>
        ⟨⟨hv.domain.name, hv.domain.numeric, hv.domain.resolution, fun _ => .rfl⟩, hv.cells,
          hv.native⟩

end Schema.Alike

end Datacube
