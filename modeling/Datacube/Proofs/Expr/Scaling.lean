import Datacube.Proofs.Expr.Soundness
import Datacube.Proofs.Number.Numeral
import Datacube.Proofs.Schema.Selected
import Datacube.Sample.Coverages

-- Where an axis starts after it was scaled. Its cells then count from its lower bound, whatever
-- the operand's first cell was, so that the start is kept exactly if the operand starts there.
namespace Datacube

open Number (Same)
open Result

namespace AxisView

variable {a b : AxisView} {bounds : NumericBounds}

-- The lower edge of the first cell.
def start (a : AxisView) : Option Float :=
  a.domain.coordinate a.cells.lo a.native

-- The two zeros are one place.
def StartsAt (a : AxisView) (x : Float) : Prop :=
  ∃ y, a.start = some y ∧ Same y x

def SameStart (a b : AxisView) : Prop :=
  ∃ x, b.start = some x ∧ a.StartsAt x

-- The first native cell lies at the lower bound, unless its size is out of reach.
theorem startsAt_lower (hbounds : a.domain.numeric = some bounds)
    (hlo : bounds.lo.isFinite = true) (hsize : a.domain.resolutionFloat.isFinite = true)
    (hfirst : a.cells.lo = a.native.lo) : a.StartsAt bounds.lo := by
  refine ⟨bounds.lo + Float.ofInt 0 * a.domain.resolutionFloat, ?_, ?_⟩
  · rw [start, Axis.coordinate, hbounds, hfirst, sub_self]
    rfl
  · exact Number.add_zero_mul_same hlo hsize

theorem sameStart_iff {x : Float} (hb : b.StartsAt x) : a.SameStart b ↔ a.StartsAt x := by
  obtain ⟨z, hz, hsame⟩ := hb
  constructor
  · rintro ⟨z', hz', y, hy, hyz⟩
    obtain rfl : z = z' := Option.some.inj (hz.symm.trans hz')
    exact ⟨y, hy, hyz.trans hsame⟩
  · rintro ⟨y, hy, hyx⟩
    exact ⟨z, hz, y, hy, hyx.trans hsame.symm⟩

end AxisView

namespace Expr

open Markup (Element)

-- What scaling to targets makes of an axis: only the resolution and the cells change, and the cells
-- then start at the lower bound. Axes that no target names stay as they are.
structure Rescaled (axes : List AxisView) (targets : List Subset) (a b : AxisView) : Prop where
  domain_eq : b.domain = { a.domain with resolution := b.domain.resolution }
  kept_or_native : b = a ∨ b.native = b.cells
  unnamed : (∀ t ∈ targets, t.axis ≠ a.domain.name) → b = a
  named : DistinctNames axes → (∃ t ∈ targets, t.axis = a.domain.name) → b.native = b.cells

theorem Rescaled.name_eq {axes : List AxisView} {targets : List Subset} {a b : AxisView}
    (h : Rescaled axes targets a b) : b.domain.name = a.domain.name := by
  rw [h.domain_eq]

-- Place by place.
def RescaledAxes (axes : List AxisView) (targets : List Subset) (out : List AxisView) : Prop :=
  out.length = axes.length ∧
    ∀ (i : Nat) (a b : AxisView), axes[i]? = some a → out[i]? = some b → Rescaled axes targets a b

section Steps

variable {axes : List AxisView} {targets : List Subset} {t : Subset} {schema schema' : Schema}

theorem rescaledAxes_nil : RescaledAxes axes [] axes := by
  refine ⟨rfl, fun i a b ha hb => ?_⟩
  obtain rfl : a = b := Option.some.inj (ha.symm.trans hb)
  exact ⟨rfl, .inl rfl, fun _ => rfl, fun _ => nofun⟩

theorem RescaledAxes.names_eq {out : List AxisView} (h : RescaledAxes axes targets out) :
    out.map (·.domain.name) = axes.map (·.domain.name) := by
  refine List.ext_getElem? fun i => ?_
  rw [List.getElem?_map, List.getElem?_map]
  by_cases hi : i < axes.length
  · have hi' : i < out.length := h.1 ▸ hi
    rw [List.getElem?_eq_getElem hi, List.getElem?_eq_getElem hi']
    have hrescaled := h.2 i _ _ (List.getElem?_eq_getElem hi) (List.getElem?_eq_getElem hi')
    exact congrArg some hrescaled.name_eq
  · rw [List.getElem?_eq_none (not_lt.mp hi), List.getElem?_eq_none (h.1 ▸ not_lt.mp hi)]

theorem RescaledAxes.distinctNames {out : List AxisView} (h : RescaledAxes axes targets out)
    (hnames : DistinctNames axes) : DistinctNames out := by
  rw [DistinctNames, h.names_eq]
  exact hnames

-- One target more changes the axis it is on, and that one starts anew.
theorem RescaledAxes.scaleAxis (h : RescaledAxes axes targets schema.axes)
    (hscale : scaleAxis schema t = .ok schema') :
    RescaledAxes axes (targets ++ [t]) schema'.axes := by
  obtain ⟨i, axis, lo, hi, domain, haxis, -, -, hdomain, rfl⟩ := scaleAxis_eq_ok_iff.mp hscale
  obtain ⟨hget, hname⟩ := Schema.requireAxis_eq_ok haxis
  refine ⟨by simpa using h.1, fun j a b ha hb => ?_⟩
  by_cases hij : i = j
  · subst hij
    rw [List.getElem?_set_self (List.getElem?_eq_some_iff.mp hget).1] at hb
    obtain rfl := Option.some.inj hb
    have hbefore := h.2 i a axis ha hget
    refine ⟨?_, .inr rfl, fun hunnamed => ?_, fun _ _ => rfl⟩
    · rw [Axis.eq_of_fitted hdomain, hbefore.domain_eq]
    · exact absurd (hname.symm.trans hbefore.name_eq) (hunnamed t (by simp))
  · rw [List.getElem?_set_ne hij] at hb
    have hbefore := h.2 j a b ha hb
    refine ⟨hbefore.domain_eq, hbefore.kept_or_native, fun hunnamed => ?_, fun hnames htarget => ?_⟩
    · exact hbefore.unnamed fun u hu => hunnamed u (List.mem_append_left _ hu)
    · obtain ⟨u, hu, huname⟩ := htarget
      rcases List.mem_append.mp hu with hu | hu
      · exact hbefore.named hnames ⟨u, hu, huname⟩
      · -- The target would be on two axes of one name.
        obtain rfl := List.mem_singleton.mp hu
        have hplace := (h.distinctNames hnames).place_eq hget hb
          (hname.trans (huname.trans hbefore.name_eq.symm))
        exact absurd hplace hij

theorem rescaledAxes_of_foldlM (h : targets.foldlM scaleAxis schema = .ok schema') :
    RescaledAxes schema.axes targets schema'.axes := by
  induction targets using List.reverseRecOn generalizing schema' with
  | nil =>
      obtain rfl : schema = schema' := pure_eq_ok.mp h
      exact rescaledAxes_nil
  | append_singleton targets t ih =>
      rw [List.foldlM_append, bind_eq_ok] at h
      obtain ⟨before, hbefore, hlast⟩ := h
      simp only [List.foldlM_cons, List.foldlM_nil, bind_pure] at hlast
      exact (ih hbefore).scaleAxis hlast

end Steps

-- Where an axis with numbers starts before and after it was scaled.
structure Starts (axes : List AxisView) (targets : List Subset) (a b : AxisView)
    (bounds : NumericBounds) : Prop where
  numeric : b.domain.numeric = some bounds
  unnamed : (∀ t ∈ targets, t.axis ≠ a.domain.name) → b = a
  named : DistinctNames axes → (∃ t ∈ targets, t.axis = a.domain.name) → b.native = b.cells
  lower : b.native = b.cells → b.domain.resolutionFloat.isFinite = true → b.StartsAt bounds.lo
  same_iff : b.native = b.cells → b.domain.resolutionFloat.isFinite = true →
    (a.SameStart b ↔ a.StartsAt bounds.lo)
  same_of_first : a.cells.lo = a.native.lo → a.domain.resolutionFloat.isFinite = true →
    b.domain.resolutionFloat.isFinite = true → a.SameStart b

theorem Rescaled.starts {axes : List AxisView} {targets : List Subset} {a b : AxisView}
    {bounds : NumericBounds} (h : Rescaled axes targets a b)
    (hbounds : a.domain.numeric = some bounds) (hlo : bounds.lo.isFinite = true) :
    Starts axes targets a b bounds := by
  have hnumeric : b.domain.numeric = some bounds := by rw [h.domain_eq, hbounds]
  have hlower : b.native = b.cells → b.domain.resolutionFloat.isFinite = true →
      b.StartsAt bounds.lo := fun hnative hsize =>
    AxisView.startsAt_lower hnumeric hlo hsize (by rw [hnative])
  refine ⟨hnumeric, h.unnamed, h.named, hlower, fun hnative hsize =>
    AxisView.sameStart_iff (hlower hnative hsize), fun hfirst hsize hsize' => ?_⟩
  have hstart := AxisView.startsAt_lower hbounds hlo hsize hfirst
  rcases h.kept_or_native with rfl | hnative
  · exact (AxisView.sameStart_iff hstart).mpr hstart
  · exact (AxisView.sameStart_iff (hlower hnative hsize')).mpr hstart

section Operand

variable {limit : Nat} {s : Scope} {e : Element}

theorem scale_of_reads {levels : Nat} {x : CoverageExpr} {schema : Schema}
    (h : (Grammar.level limit levels).ReadsCoverage s e (.scale x schema)) :
    ∃ c lower targets, (Grammar.level limit lower).ReadsCoverage s c x ∧
      axisSubsets e .trim = .ok targets ∧ targets.foldlM scaleAxis x.schema = .ok schema := by
  cases levels with
  | zero => exact (Grammar.not_readsCoverage_zero h).elim
  | succ levels =>
      cases Grammar.readsCoverage_succ_iff.mp h with
      | scale _ hx hsubsets hschema =>
          obtain ⟨c, -, hc⟩ := hx
          exact ⟨c, levels, _, hc, hsubsets, hschema⟩

theorem sound_of_reads {levels : Nat} {x : CoverageExpr} (hvalid : s.store.Validated)
    (h : (Grammar.level limit levels).ReadsCoverage s e x) : ∀ a ∈ x.schema.axes, a.Sound := by
  have hlevels := Grammar.level_induction (P := SoundExpr) (Q := fun _ _ _ => True)
    (fun _ _ _ => soundExpr_of_form) (fun _ _ _ _ => trivial) limit levels
  exact (hlevels.1 s e x h hvalid).sound

end Operand

-- A scaled axis starts at its lower bound. It starts where the operand's axis does exactly if that
-- one starts there as well, as it does unless it was trimmed or extended below.
theorem scale_starts (limit : Nat) (s : Scope) (e : Element) (x : CoverageExpr) (schema : Schema)
    (hvalid : s.store.Validated)
    (h : (Grammar.upTo limit).parseCoverage s e = .ok (.scale x schema)) :
    ∃ targets, axisSubsets e .trim = .ok targets ∧ schema.axes.length = x.schema.axes.length ∧
      ∀ (i : Nat) (a b : AxisView), x.schema.axes[i]? = some a → schema.axes[i]? = some b →
        ∀ bounds, a.domain.numeric = some bounds → Starts x.schema.axes targets a b bounds := by
  obtain ⟨c, levels, targets, hreads, htargets, hschema⟩ :=
    scale_of_reads (parseCoverage_eq_ok_iff.mp h)
  obtain ⟨hlength, haxes⟩ := rescaledAxes_of_foldlM hschema
  refine ⟨targets, htargets, hlength, fun i a b ha hb bounds hbounds => ?_⟩
  have hsound := sound_of_reads hvalid hreads a (List.mem_of_getElem? ha)
  exact (haxes i a b ha hb).starts hbounds (hsound.checked.bounds bounds hbounds).1

-- The axis that is not trimmed keeps its start.
theorem scaledTrim_sameStart :
    ∃ store x schema a b, Store.ofDefs [Sample.airTemperature "T"] = .ok store ∧
      (Grammar.upTo 3).parseCoverage ⟨store, [("c", ["T"])], []⟩ scaledTrim =
        .ok (.scale x schema) ∧
      x.schema.axes[1]? = some a ∧ schema.axes[1]? = some b ∧ a.SameStart b := by
  obtain ⟨store, x, schema, a, b, bounds, hstore, hx, ha, hb, hbounds, hfirst, hsize, hsize'⟩ :
      ∃ store x schema a b bounds, Store.ofDefs [Sample.airTemperature "T"] = .ok store ∧
        (Grammar.upTo 3).parseCoverage ⟨store, [("c", ["T"])], []⟩ scaledTrim =
          .ok (.scale x schema) ∧
        x.schema.axes[1]? = some a ∧ schema.axes[1]? = some b ∧ a.domain.numeric = some bounds ∧
        a.cells.lo = a.native.lo ∧ a.domain.resolutionFloat.isFinite = true ∧
        b.domain.resolutionFloat.isFinite = true :=
    ⟨_, _, _, _, _, _, rfl, rfl, rfl, rfl, rfl, rfl, by decide +kernel, by decide +kernel⟩
  obtain ⟨targets, -, -, hstarts⟩ :=
    scale_starts 3 _ scaledTrim x schema (Store.validated_of_ofDefs hstore) hx
  exact ⟨store, x, schema, a, b, hstore, hx, ha, hb,
    (hstarts 1 a b ha hb bounds hbounds).same_of_first hfirst hsize hsize'⟩

-- The second half of an axis, scaled along the same axis.
def scaledHalf : Element where
  name := "scale"
  children := [
    { name := "trim"
      children := [{ name := "coverage", text := "c" }, { name := "axis", text := "x" },
        { name := "lowerBound", text := "10" }, { name := "upperBound", text := "19" }] },
    { name := "axis", text := "x" }, { name := "lowerBound", text := "0" },
    { name := "upperBound", text := "9" }]

-- The half starts at 50, and at 0 once it is scaled.
theorem scaledHalf_moves :
    ∃ store x schema a b p q, Store.ofDefs [Sample.airTemperature "T"] = .ok store ∧
      (Grammar.upTo 3).parseCoverage ⟨store, [("c", ["T"])], []⟩ scaledHalf =
        .ok (.scale x schema) ∧
      x.schema.axes[0]? = some a ∧ schema.axes[0]? = some b ∧ a.start = some p ∧
      b.start = some q ∧ Number.floatText p = "50" ∧ Number.floatText q = "0" ∧
      ¬a.SameStart b := by
  obtain ⟨store, x, schema, a, b, p, q, hstore, hx, ha, hb, hp, hq, htext, htext', hle⟩ :
      ∃ store x schema a b p q, Store.ofDefs [Sample.airTemperature "T"] = .ok store ∧
        (Grammar.upTo 3).parseCoverage ⟨store, [("c", ["T"])], []⟩ scaledHalf =
          .ok (.scale x schema) ∧
        x.schema.axes[0]? = some a ∧ schema.axes[0]? = some b ∧ a.start = some p ∧
        b.start = some q ∧ Number.floatText p = "50" ∧ Number.floatText q = "0" ∧ ¬p ≤ q :=
    ⟨_, _, _, _, _, _, _, rfl, rfl, rfl, rfl, rfl, rfl, by decide +kernel, by decide +kernel,
      by decide +kernel⟩
  refine ⟨store, x, schema, a, b, p, q, hstore, hx, ha, hb, hp, hq, htext, htext', ?_⟩
  rintro ⟨q', hq', p', hp', hsame⟩
  obtain rfl : q = q' := Option.some.inj (hq.symm.trans hq')
  obtain rfl : p = p' := Option.some.inj (hp.symm.trans hp')
  exact hle hsame.1

end Expr

end Datacube
