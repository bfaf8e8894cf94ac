import Datacube.Proofs.Axis.Definition
import Datacube.Proofs.Axis.Resolution
import Datacube.Proofs.Schema.Selected

-- Which definitions of a coverage are accepted, what becomes of their axes, and how the others are
-- refused.
namespace Datacube

open Result

section Axes

variable {a b : Axis} {n : Nat}

theorem Axis.fitted_eq_ok_iff : a.fitted n = .ok b ↔
    (a.numeric ≠ none → a.setResolution n = .ok b) ∧ (a.numeric = none → b = a) := by
  unfold Axis.fitted
  cases a.numeric <;> simp [eq_comm]

theorem Axis.Checked.exists_fitted (h : a.Checked) (hn : 0 < n) : ∃ b, a.fitted n = .ok b := by
  cases hbounds : a.numeric with
  | none => exact ⟨a, Axis.fitted_eq_ok_iff.mpr (by simp [hbounds])⟩
  | some bounds =>
      obtain ⟨lo, hi, -, -, hsize⟩ := h.setResolution_eq hbounds
      exact ⟨_, Axis.fitted_eq_ok_iff.mpr
        ⟨fun _ => hsize n hn, fun hnone => absurd (hbounds.symm.trans hnone) (Option.some_ne_none _)⟩⟩

theorem Axis.resolution_of_ofDef {d : AxisDef} (h : Axis.ofDef d = .ok a) :
    a.resolution = .one := by
  obtain ⟨-, _, -, -, -, rfl⟩ := Axis.make_eq_ok_iff.mp h
  rfl

end Axes

-- An axis with its cells as it is defined. An axis that is measured by numbers has the resolution
-- that the number of its cells gives, and any other has cells of size one.
structure GridAxis.Defined (d : AxisDef) (bounds : CellBounds) (axis : GridAxis) : Prop where
  lo : bounds.lo = some axis.cells.lo
  hi : bounds.hi = some axis.cells.hi
  ordered : axis.cells.lo ≤ axis.cells.hi
  whole : axis.cells.subset = none
  domain : ∃ a, Axis.ofDef d = .ok a ∧
    (a.numeric ≠ none →
      a.setResolution (min (axis.cells.hi - axis.cells.lo + 1).toNat Number.uint64Max) =
        .ok axis.domain) ∧
    (a.numeric = none → axis.domain = { a with resolution := .one })

-- Two bounds in order.
def CellBounds.Complete (bounds : CellBounds) : Prop :=
  ∃ lo hi, bounds.lo = some lo ∧ bounds.hi = some hi ∧ lo ≤ hi

section Defined

variable {d : AxisDef} {bounds : CellBounds} {axis : GridAxis}

theorem GridAxis.defined_iff : axis.Defined d bounds ↔
    CellExtent.ofBounds bounds.lo bounds.hi = .ok axis.cells ∧
      ∃ a, Axis.ofDef d = .ok a ∧ a.fitted axis.cells.count = .ok axis.domain := by
  rw [CellExtent.ofBounds_eq_ok_iff]
  constructor
  · rintro ⟨hlo, hhi, hordered, hwhole, a, ha, hmeasured, hother⟩
    refine ⟨⟨hlo, hhi, hordered, hwhole⟩, a, ha, Axis.fitted_eq_ok_iff.mpr ⟨?_, fun hnone => ?_⟩⟩
    · rwa [CellExtent.count_eq hordered]
    · rw [hother hnone, ← Axis.resolution_of_ofDef ha]
  · rintro ⟨⟨hlo, hhi, hordered, hwhole⟩, a, ha, hfitted⟩
    obtain ⟨hmeasured, hother⟩ := Axis.fitted_eq_ok_iff.mp hfitted
    rw [CellExtent.count_eq hordered] at hmeasured
    refine ⟨hlo, hhi, hordered, hwhole, a, ha, hmeasured, fun hnone => ?_⟩
    rw [hother hnone, ← Axis.resolution_of_ofDef ha]

theorem GridAxis.Defined.name_eq (h : axis.Defined d bounds) :
    axis.domain.name = Text.trim d.name := by
  obtain ⟨-, a, ha, hfitted⟩ := GridAxis.defined_iff.mp h
  rw [Axis.name_of_fitted hfitted, Axis.name_of_make ha]

-- The resolution can always be found, as there is a cell and the bounds of numbers are finite.
theorem GridAxis.exists_defined_iff :
    (∃ axis : GridAxis, axis.Defined d bounds) ↔ (∃ a, Axis.ofDef d = .ok a) ∧ bounds.Complete := by
  constructor
  · rintro ⟨axis, h⟩
    obtain ⟨a, ha, -⟩ := h.domain
    exact ⟨⟨a, ha⟩, _, _, h.lo, h.hi, h.ordered⟩
  · rintro ⟨⟨a, ha⟩, lo, hi, hlo, hhi, hordered⟩
    have hcells : CellExtent.ofBounds bounds.lo bounds.hi = .ok ⟨lo, hi, none⟩ :=
      CellExtent.ofBounds_eq_ok_iff.mpr ⟨hlo, hhi, hordered, rfl⟩
    have hcount : 0 < CellExtent.count ⟨lo, hi, none⟩ := CellExtent.count_pos hordered
    obtain ⟨b, hb⟩ := (Axis.checked_of_make ha).exists_fitted hcount
    exact ⟨⟨b, _⟩, GridAxis.defined_iff.mpr ⟨hcells, a, ha, hb⟩⟩

end Defined

namespace Coverage

variable {d : CoverageDef} {c : Coverage} {coverage : String} {seen : List String}
  {bounds : CellBounds} {axis : GridAxis} {defs : List (AxisDef × CellBounds)}
  {axes : List GridAxis}

theorem makeAxis_eq_ok_iff_defined {d : AxisDef} : makeAxis coverage seen d bounds = .ok axis ↔
    Text.trim d.name ∉ seen ∧ axis.Defined d bounds := by
  rw [GridAxis.defined_iff, makeAxis_eq_ok_iff]
  constructor
  · rintro ⟨a, ha, hnew, hcells, hfitted⟩
    exact ⟨Axis.name_of_make ha ▸ hnew, hcells, a, ha, hfitted⟩
  · rintro ⟨hnew, hcells, a, ha, hfitted⟩
    exact ⟨a, ha, Axis.name_of_make ha ▸ hnew, hcells, hfitted⟩

-- The axes are made one by one, and each name is looked for among those before it.
theorem makeAxes_eq_ok_iff : makeAxes coverage seen defs = .ok axes ↔
    List.Forall₂ (fun (d : AxisDef × CellBounds) axis => axis.Defined d.1 d.2) defs axes ∧
      (defs.map (Text.trim ·.1.name)).Nodup ∧ ∀ d ∈ defs, Text.trim d.1.name ∉ seen := by
  induction defs generalizing seen axes with
  | nil => simp [makeAxes, eq_comm]
  | cons d defs ih =>
      have hname : Text.trim d.1.name ∉ defs.map (Text.trim ·.1.name) ↔
          ∀ d' ∈ defs, Text.trim d'.1.name ≠ Text.trim d.1.name := by
        simp only [List.mem_map, not_exists, not_and]
      simp only [makeAxes, bind_eq_ok, pure_eq_ok, makeAxis_eq_ok_iff_defined, ih, List.map_cons,
        List.nodup_cons, List.mem_cons, forall_eq_or_imp, List.forall₂_cons_left_iff, hname]
      constructor
      · rintro ⟨axis, ⟨hnew, hfirst⟩, more, ⟨hmore, hnodup, hfresh⟩, rfl⟩
        simp only [hfirst.name_eq, not_or] at hfresh
        exact ⟨⟨axis, more, hfirst, hmore, rfl⟩, ⟨fun d' hd' => (hfresh d' hd').1, hnodup⟩, hnew,
          fun d' hd' => (hfresh d' hd').2⟩
      · rintro ⟨⟨axis, more, hfirst, hmore, rfl⟩, ⟨hother, hnodup⟩, hnew, hfresh⟩
        refine ⟨axis, ⟨hnew, hfirst⟩, more, ⟨hmore, hnodup, fun d' hd' => ?_⟩, rfl⟩
        rw [hfirst.name_eq, not_or]
        exact ⟨hother d' hd', hfresh d' hd'⟩

theorem ofDef_eq_ok_iff : ofDef d = .ok c ↔ Text.trim d.name ≠ "" ∧
    d.domain.length = d.cells.length ∧ d.domain ≠ [] ∧ (d.domain.map (Text.trim ·.name)).Nodup ∧
      List.Forall₂ (fun (d : AxisDef × CellBounds) axis => axis.Defined d.1 d.2)
        (d.domain.zip d.cells) c.axes ∧
      c = ⟨Text.trim d.name, CoverageKind.ofLabel d.kind, c.axes, d.description⟩ := by
  have hnames (h : d.domain.length = d.cells.length) :
      (d.domain.zip d.cells).map (Text.trim ·.1.name) = d.domain.map (Text.trim ·.name) := by
    calc (d.domain.zip d.cells).map (Text.trim ·.1.name)
      _ = ((d.domain.zip d.cells).map Prod.fst).map (Text.trim ·.name) := by rw [List.map_map]; rfl
      _ = d.domain.map (Text.trim ·.name) := by rw [List.map_fst_zip h.le]
  simp only [ofDef, throw_bind, ite_throw_eq_ok, bind_eq_ok, pure_eq_ok, makeAxes_eq_ok_iff,
    not_not, List.isEmpty_iff, List.not_mem_nil]
  constructor
  · rintro ⟨hname, hlength, hsome, axes, ⟨haxes, hnodup, -⟩, rfl⟩
    exact ⟨hname, hlength, hsome, hnames hlength ▸ hnodup, haxes, rfl⟩
  · rintro ⟨hname, hlength, hsome, hnodup, haxes, hc⟩
    exact ⟨hname, hlength, hsome, c.axes, ⟨haxes, hnames hlength ▸ hnodup, by simp⟩, hc.symm⟩

theorem bounded_of_ofDef (h : ofDef d = .ok c) : ∀ axis ∈ c.axes, axis.domain.Bounded := by
  intro axis haxis
  obtain ⟨-, -, -, -, haxes, -⟩ := ofDef_eq_ok_iff.mp h
  obtain ⟨_, -, hdefined⟩ := exists_mem_of_forall₂ haxes axis haxis
  obtain ⟨-, a, ha, hfitted⟩ := GridAxis.defined_iff.mp hdefined
  have hbounded : a.Bounded := Axis.bounded_of_make ha
  rw [Axis.eq_of_fitted hfitted]
  exact hbounded

-- There is an axis for every place if every definition and all bounds are in order.
theorem exists_axes_iff {defs : List AxisDef} {cells : List CellBounds}
    (hlength : defs.length = cells.length) :
    (∃ axes, List.Forall₂ (fun (d : AxisDef × CellBounds) (a : GridAxis) => a.Defined d.1 d.2)
      (defs.zip cells) axes) ↔
      (∀ a ∈ defs, ∃ axis, Axis.ofDef a = .ok axis) ∧ ∀ bounds ∈ cells, bounds.Complete := by
  have hdefs : (defs.zip cells).map Prod.fst = defs := List.map_fst_zip hlength.le
  have hcells : (defs.zip cells).map Prod.snd = cells := List.map_snd_zip hlength.ge
  simp only [exists_forall₂_iff, GridAxis.exists_defined_iff, forall_and]
  refine and_congr ?_ ?_
  · conv_rhs => rw [← hdefs, List.forall_mem_map]
  · conv_rhs => rw [← hcells, List.forall_mem_map]

section Refused

theorem refuses_makeAxis {d : AxisDef} :
    Refuses (fun e => ∃ locator, e.Blames locator) (makeAxis coverage seen d bounds) := by
  simp only [makeAxis, throw_bind]
  refine .bind ((Axis.refuses_make d AxisKind.all).mono fun _ h => ⟨_, h⟩) fun a ha => ?_
  refine .guard (fun _ => ⟨_, _, rfl⟩) fun _ => ?_
  split
  · next cells hcells =>
    -- Cells of a positive number always have a size.
    obtain ⟨b, hb⟩ := (Axis.checked_of_make ha).exists_fitted
      (CellExtent.count_pos (CellExtent.ofBounds_eq_ok_iff.mp hcells).2.2.1)
    refine .ite (fun hnumeric => ?_) fun _ => .ok _
    rw [Axis.fitted, if_pos hnumeric] at hb
    rw [hb]
    exact .ok _
  · exact .error ⟨_, _, rfl⟩

theorem refuses_makeAxes :
    Refuses (fun e => ∃ locator, e.Blames locator) (makeAxes coverage seen defs) := by
  induction defs generalizing seen with
  | nil => exact .ok _
  | cons d defs ih => exact .bind refuses_makeAxis fun _ _ => .bind ih fun _ _ => .ok _

theorem refuses_ofDef (d : CoverageDef) :
    Refuses (fun e => ∃ locator, e.Blames locator) (ofDef d) := by
  simp only [ofDef, throw_bind]
  refine .guard (fun _ => ⟨_, _, rfl⟩) fun _ => .guard (fun _ => ⟨_, _, rfl⟩) fun _ => ?_
  exact .guard (fun _ => ⟨_, _, rfl⟩) fun _ => .bind refuses_makeAxes fun _ _ => .ok _

end Refused

-- A coverage is accepted if it has a name, as many bounds of cells as axes, and axes that are
-- accepted one by one and named apart. Its axes are the defined ones, place by place.
theorem ofDef_accepted_iff (d : CoverageDef) :
    ((∃ c, ofDef d = .ok c) ↔
      Text.trim d.name ≠ "" ∧ d.domain.length = d.cells.length ∧ d.domain ≠ [] ∧
      (∀ a ∈ d.domain, ∃ axis, Axis.ofDef a = .ok axis) ∧
      (d.domain.map (Text.trim ·.name)).Nodup ∧ ∀ bounds ∈ d.cells, bounds.Complete) ∧
    (∀ c, ofDef d = .ok c → c.name = Text.trim d.name ∧ c.kind = CoverageKind.ofLabel d.kind ∧
      c.description = d.description ∧
      List.Forall₂ (fun (d : AxisDef × CellBounds) axis => axis.Defined d.1 d.2)
        (d.domain.zip d.cells) c.axes) ∧
    ∀ e, ofDef d = .error e → ∃ locator, e.Blames locator := by
  refine ⟨?_, fun c hc => ?_, refuses_ofDef d⟩
  · constructor
    · rintro ⟨c, hc⟩
      obtain ⟨hname, hlength, hsome, hnodup, haxes, -⟩ := ofDef_eq_ok_iff.mp hc
      obtain ⟨hdomain, hcells⟩ := (exists_axes_iff hlength).mp ⟨_, haxes⟩
      exact ⟨hname, hlength, hsome, hdomain, hnodup, hcells⟩
    · rintro ⟨hname, hlength, hsome, hdomain, hnodup, hcells⟩
      obtain ⟨axes, haxes⟩ := (exists_axes_iff hlength).mpr ⟨hdomain, hcells⟩
      exact ⟨⟨_, _, axes, _⟩, ofDef_eq_ok_iff.mpr ⟨hname, hlength, hsome, hnodup, haxes, rfl⟩⟩
  · obtain ⟨-, -, -, -, haxes, hc⟩ := ofDef_eq_ok_iff.mp hc
    exact ⟨by rw [hc], by rw [hc], by rw [hc], haxes⟩

-- Days, and the bands that are seen on each of them.
def spectral (days bands : CellBounds) : CoverageDef where
  name := " spectra "
  kind := "GridCoverage"
  domain := [Axis.dated 364 "2010-01-01T00:00:00Z" "2010-12-31T00:00:00Z",
    { name := "band", kind := "other", strLo := some "blue", strHi := some "red" }]
  cells := [days, bands]

-- All numbers of 64 bits are one more than can be counted with as many bits.
theorem ofDef_accepted_iff_spectral :
    (∃ c day band a, ofDef (spectral ⟨some (-2 ^ 63), some (2 ^ 63 - 1)⟩ ⟨some 0, some 2⟩) = .ok c ∧
      c.name = "spectra" ∧ c.axes = [day, band] ∧
      Axis.ofDef (Axis.dated 364 "2010-01-01T00:00:00Z" "2010-12-31T00:00:00Z") = .ok a ∧
      a.setResolution Number.uint64Max = .ok day.domain ∧ band.domain.resolution = .one) ∧
    ∃ e, ofDef (spectral ⟨some 0, some 364⟩ ⟨some 2, some 0⟩) = .error e ∧
      ∃ locator, e.Blames locator := by
  constructor
  · obtain ⟨haccepted, hdefined, -⟩ :=
      ofDef_accepted_iff (spectral ⟨some (-2 ^ 63), some (2 ^ 63 - 1)⟩ ⟨some 0, some 2⟩)
    have haxes : ∀ d ∈ (spectral ⟨none, none⟩ ⟨none, none⟩).domain, ∃ a, Axis.ofDef d = .ok a :=
      List.forall_mem_cons.mpr ⟨⟨_, rfl⟩, List.forall_mem_singleton.mpr ⟨_, rfl⟩⟩
    have hcells : ∀ b ∈ [CellBounds.mk (some (-2 ^ 63)) (some (2 ^ 63 - 1)), ⟨some 0, some 2⟩],
        b.Complete :=
      List.forall_mem_cons.mpr ⟨⟨_, _, rfl, rfl, by decide⟩,
        List.forall_mem_singleton.mpr ⟨_, _, rfl, rfl, by decide⟩⟩
    obtain ⟨c, hc⟩ := haccepted.mpr
      ⟨by decide +kernel, rfl, List.cons_ne_nil _ _, haxes, by decide +kernel, hcells⟩
    obtain ⟨hname, -, -, hplaces⟩ := hdefined c hc
    obtain ⟨day, _, hday, hbands, hplaces⟩ := List.forall₂_cons_left_iff.mp hplaces
    obtain ⟨band, _, hband, hnone, rfl⟩ := List.forall₂_cons_left_iff.mp hbands
    obtain rfl := List.forall₂_nil_left_iff.mp hnone
    obtain ⟨a, ha, hmeasured, -⟩ := hday.domain
    obtain ⟨b, hb, -, hother⟩ := hband.domain
    have hcount : min (day.cells.hi - day.cells.lo + 1).toNat Number.uint64Max =
        Number.uint64Max := by
      rw [← Option.some.inj hday.lo, ← Option.some.inj hday.hi]
      decide
    refine ⟨c, day, band, a, hc, hname.trans (by decide +kernel), hplaces, ha, ?_, ?_⟩
    · obtain ⟨-, _, -, -, -, rfl⟩ := Axis.make_eq_ok_iff.mp ha
      exact hcount ▸ hmeasured (Option.some_ne_none _)
    · obtain ⟨-, _, -, -, -, rfl⟩ := Axis.make_eq_ok_iff.mp hb
      rw [hother rfl]
  · obtain ⟨e, he⟩ : ∃ e, ofDef (spectral ⟨some 0, some 364⟩ ⟨some 2, some 0⟩) = .error e :=
      ⟨_, rfl⟩
    exact ⟨e, he, (ofDef_accepted_iff _).2.2 e he⟩

end Coverage

end Datacube
