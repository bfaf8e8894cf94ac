import Datacube.Proofs.Expr.Domain
import Datacube.Proofs.Schema.Sound
import Datacube.Sample.Coverages

-- All axes of the schema of an expression over checked coverages are sound.
namespace Datacube

-- Nothing in the element extends an axis.
def Markup.Element.ExtendsNothing (e : Markup.Element) : Prop :=
  ∀ d, e.Holds d → d.name ≠ "extend"

theorem Markup.Element.ExtendsNothing.held {e c : Markup.Element} (h : e.ExtendsNothing)
    (hc : e.Holds c) : c.ExtendsNothing :=
  fun d hd => h d (hc.trans hd)

namespace Expr

open Markup (Element)
open Result

-- Axes of an expression in an element: sound, and inside their native cells unless something in
-- the element extends them.
structure SoundAxes (e : Element) (axes : List AxisView) : Prop where
  sound : ∀ a ∈ axes, a.Sound
  inside : e.ExtendsNothing → ∀ a ∈ axes, a.Inside

theorem SoundAxes.of_forall {e : Element} {axes : List AxisView}
    (h : ∀ a ∈ axes, a.Sound ∧ a.Inside) : SoundAxes e axes :=
  ⟨fun a ha => (h a ha).1, fun _ a ha => (h a ha).2⟩

theorem SoundAxes.outer {e c : Element} {axes : List AxisView} (hc : e.Holds c)
    (h : SoundAxes c axes) : SoundAxes e axes :=
  ⟨h.sound, fun hnone => h.inside (hnone.held hc)⟩

theorem soundAxes_constructed {e : Element} {name : String} {iterators : List AxisIterator}
    {fields : List RangeField} {schema : Schema}
    (h : constructedSchema name iterators fields = .ok schema) : SoundAxes e schema.axes := by
  refine .of_forall fun a ha => ?_
  obtain ⟨i, -, hview⟩ := exists_mem_of_forall₂ (constructedSchema_eq_ok h) a ha
  obtain ⟨axis, haxis, domain, hdomain, hle, rfl⟩ := axisView_eq_ok hview
  exact AxisView.sound_of_fitted (Axis.checked_of_make haxis) hle
    (Axis.fitted_of_setResolution hdomain)

theorem SoundAxes.scaleAxis {e : Element} {schema schema' : Schema} {subset : Subset}
    (h : SoundAxes e schema.axes) (hscale : scaleAxis schema subset = .ok schema') :
    SoundAxes e schema'.axes := by
  obtain ⟨i, axis, lo, hi, domain, haxis, -, hle, hdomain, rfl⟩ := scaleAxis_eq_ok_iff.mp hscale
  have hmem := List.mem_of_getElem? (Schema.requireAxis_eq_ok haxis).1
  have hnew := AxisView.sound_of_fitted (h.sound axis hmem).checked hle hdomain
  refine ⟨fun a ha => ?_, fun hnone a ha => ?_⟩
  · rcases List.mem_or_eq_of_mem_set ha with ha | rfl
    · exact h.sound a ha
    · exact hnew.1
  · rcases List.mem_or_eq_of_mem_set ha with ha | rfl
    · exact h.inside hnone a ha
    · exact hnew.2

theorem SoundAxes.metadataApply {e : Element} {change : MetadataChange} {schema schema' : Schema}
    (h : SoundAxes e schema.axes) (hchange : change.apply schema = .ok schema') :
    SoundAxes e schema'.axes := by
  rcases metadataApply_axes hchange with haxes | ⟨names, haxes⟩ <;> rw [haxes]
  · exact h
  · refine ⟨fun a ha => ?_, fun hnone a ha => ?_⟩
    · obtain ⟨b, hb, rfl⟩ := List.mem_map.mp ha
      have hsound := h.sound b hb
      exact ⟨hsound.cells, hsound.native, hsound.checked.withCrsSet names, hsound.covers⟩
    · obtain ⟨b, hb, rfl⟩ := List.mem_map.mp ha
      exact h.inside hnone b hb

theorem SoundAxes.subsetSchema {e : Element} {op : SubsetOp} {operand : Schema}
    {subsets : List Subset} {specs : List SubsetSpec} (htag : e.name = op.tag)
    (h : SoundAxes e operand.axes) (hspecs : resolveSpecs op operand [] subsets = .ok specs) :
    SoundAxes e (subsetSchema op operand specs).axes := by
  obtain ⟨-, hresolves⟩ := resolves_of_resolveSpecs hspecs
  refine ⟨fun a ha => ?_, fun hnone a ha => ?_⟩
  · obtain ⟨axis, haxis, rfl | ⟨lo, hi, subset, rfl, hle, -⟩⟩ := mem_subsetSchema_axes hresolves ha
    · exact h.sound a haxis
    · have hsound := h.sound axis haxis
      exact ⟨hle, hsound.native, hsound.checked, hsound.covers⟩
  · obtain ⟨axis, haxis, rfl | ⟨lo, hi, subset, rfl, -, hop | hinside⟩⟩ :=
      mem_subsetSchema_axes hresolves ha
    · exact h.inside hnone a haxis
    · subst hop
      exact absurd htag (hnone e .refl)
    · obtain ⟨hlo, hhi⟩ := h.inside hnone axis haxis
      exact ⟨hlo.trans hinside.1, hinside.2.trans hhi⟩

def SoundExpr (s : Scope) (e : Element) (x : CoverageExpr) : Prop :=
  s.store.Validated → SoundAxes e x.schema.axes

theorem soundExpr_of_form {s : Scope} {e : Element} {x : CoverageExpr}
    (h : CoverageForm SoundExpr (fun _ _ _ => True) s e x) : SoundExpr s e x := by
  intro hvalid
  -- What holds of an operand in its own element holds of it in this one.
  have h : CoverageForm (fun s' _ y => s'.store.Validated → SoundAxes e y.schema.axes)
      (fun _ _ _ => True) s e x :=
    h.mono (fun _ _ _ hc hy hvalid => (hy hvalid).outer hc) fun _ _ _ _ hy => hy
  cases h with
  | reference _ _ hschema _ =>
      simp only [readSchema, bind_eq_ok, pure_eq_ok] at hschema
      obtain ⟨c, hread, rfl⟩ := hschema
      obtain ⟨d, hd⟩ := hvalid _ c hread
      exact .of_forall (Coverage.sound_of_ofDef hd)
  | constant _ _ hschema _ => exact soundAxes_constructed hschema
  | construct _ _ _ _ hschema => exact soundAxes_constructed hschema
  | scale _ hx _ hschema =>
      obtain ⟨_, -, hx⟩ := hx
      exact foldlM_preserves (P := fun schema : Schema => SoundAxes e schema.axes)
        (fun _ _ _ _ hsound hstep => hsound.scaleAxis hstep) (hx hvalid) hschema
  | @switch branches _ hbranches _ =>
      obtain ⟨y, rest, hexprs, hschema⟩ := branches.exprs_eq_cons
      obtain ⟨_, hy⟩ := hbranches.exprs y (by simp [hexprs])
      simp only [CoverageExpr.schema, hschema]
      exact hy hvalid
  | setMetadata _ hx hschema =>
      obtain ⟨_, -, hx⟩ := hx
      exact (hx hvalid).metadataApply hschema
  | unary _ hx =>
      obtain ⟨_, -, hx⟩ := hx
      simpa only [CoverageExpr.schema] using hx hvalid
  | bit _ hx _ _ | cast _ hx _ | fieldSelect _ hx _ _ =>
      obtain ⟨_, -, hx⟩ := hx
      exact hx hvalid
  | @rangeConstructor components _ hcomponents _ =>
      obtain ⟨field, hhead⟩ := components.exists_head_mem
      obtain ⟨_, -, -, _, -, hx⟩ := exists_mem_of_forall₂ hcomponents _ hhead
      exact hx hvalid
  | @binary op _ _ pair _ _ hpair =>
      have hsound : SoundAxes e pair.schema.axes := by
        cases hpair with
        | coverageScalar hx _ => exact hx hvalid
        | scalarCoverage _ hy => exact hy hvalid
        | coverages hx _ _ => exact hx hvalid
      simp only [CoverageExpr.schema]
      split
      · exact hsound
      · exact hsound
  | subset htag hx _ hspecs _ =>
      obtain ⟨_, -, hx⟩ := hx
      exact (hx hvalid).subsetSchema htag hspecs

-- Whatever is read over checked coverages has a schema with sound axes.
theorem schema_axes_sound (limit : Nat) (s : Scope) (e : Element) (x : CoverageExpr)
    (hvalid : s.store.Validated) (h : (Grammar.upTo limit).parseCoverage s e = .ok x) :
    (∀ a ∈ x.schema.axes, a.Sound) ∧
      ((∀ d, e.Holds d → d.name ≠ "extend") → ∀ a ∈ x.schema.axes, a.Inside) := by
  have hlevels := Grammar.level_induction (P := SoundExpr) (Q := fun _ _ _ => True)
    (fun _ _ _ => soundExpr_of_form) (fun _ _ _ _ => trivial) limit limit
  have hsound := hlevels.1 s e x (parseCoverage_eq_ok_iff.mp h) hvalid
  exact ⟨hsound.sound, hsound.inside⟩

-- A trim of one axis, scaled along the other.
def scaledTrim : Element where
  name := "scale"
  children := [
    { name := "trim"
      children := [{ name := "coverage", text := "c" }, { name := "axis", text := "x" },
        { name := "lowerBound", text := "2" }, { name := "upperBound", text := "*" }] },
    { name := "axis", text := "y" }, { name := "lowerBound", text := "0" },
    { name := "upperBound", text := "18446744073709551615" }]

theorem scaledTrim_axes_sound :
    ∃ store x, Store.ofDefs [Sample.airTemperature "T"] = .ok store ∧ store.Validated ∧
      (Grammar.upTo 3).parseCoverage ⟨store, [("c", ["T"])], []⟩ scaledTrim = .ok x ∧
      schemaDomain x.schema = [⟨2, 19⟩, ⟨0, 18446744073709551615⟩] ∧
      (∀ a ∈ x.schema.axes, a.Sound) ∧
      ((∀ d, scaledTrim.Holds d → d.name ≠ "extend") → ∀ a ∈ x.schema.axes, a.Inside) := by
  obtain ⟨store, x, hstore, hx, hdomain⟩ : ∃ store x,
      Store.ofDefs [Sample.airTemperature "T"] = .ok store ∧
      (Grammar.upTo 3).parseCoverage ⟨store, [("c", ["T"])], []⟩ scaledTrim = .ok x ∧
      schemaDomain x.schema = [⟨2, 19⟩, ⟨0, 18446744073709551615⟩] := ⟨_, _, rfl, rfl, rfl⟩
  have hvalid := Store.validated_of_ofDefs hstore
  exact ⟨store, x, hstore, hvalid, hx, hdomain, schema_axes_sound 3 _ scaledTrim x hvalid hx⟩

end Expr

end Datacube
