import Datacube.Proofs.Expr.Level
import Datacube.Proofs.Schema.Selected

-- Trims and slices on distinct axes: how they are written as an element around an operand, and the
-- axes of the operand that they leave.
namespace Datacube

open Markup (Element)
open Result

-- The elements that describe a subset.
def Subset.elements (t : Subset) : List Element :=
  let crs := t.crs.toList.map fun crs => { name := "srsName", text := crs }
  let bounds := match t.selection with
    | .trim low high =>
      [{ name := "lowerBound", text := low }, { name := "upperBound", text := high }]
    | .slice point => [{ name := "slicingPosition", text := point }]
  { name := "axis", text := t.axis } :: crs ++ bounds

-- Nothing of the texts is lost when they are read without the blanks around them, and an empty text
-- would not be read at all.
structure Subset.Plain (t : Subset) : Prop where
  axis : Text.trim t.axis = t.axis
  low : Text.trim t.bounds.1 = t.bounds.1 ∧ t.bounds.1 ≠ ""
  high : Text.trim t.bounds.2 = t.bounds.2 ∧ t.bounds.2 ≠ ""
  crs : ∀ crs, t.crs = some crs → Text.trim crs = crs ∧ crs ≠ ""

namespace Expr

-- A subset operation on an operand. Without subsets it is the operand itself.
def layer (op : SubsetOp) (operand : Element) (subsets : List Subset) : Element :=
  if subsets.isEmpty then operand
  else { name := op.tag, children := operand :: subsets.flatMap Subset.elements }

-- Subsets that one layer can hold: trims or slices on distinct axes.
structure Layerable (op : SubsetOp) (subsets : List Subset) : Prop where
  narrowing : op ≠ .extend
  alike : ∀ t ∈ subsets, t.isSlice = decide (op = .slice)
  plain : ∀ t ∈ subsets, t.Plain
  distinct : (subsets.map (·.axis)).Nodup

-- The parameters of a subset as they are collected.
def AxisGroup.ofSubset (t : Subset) : AxisGroup :=
  ⟨t.axis, t.crs, some t.bounds.1, some t.bounds.2⟩

section Writing

variable {op : SubsetOp} {t : Subset} {subsets : List Subset} {operand : Element}

theorem axisGroups_elements (ht : t.Plain) (owner : String) (current : Option AxisGroup)
    (rest : List Element) :
    axisGroups owner current (t.elements ++ rest) = (do
      let more ← axisGroups owner (some (.ofSubset t)) rest
      return current.toList ++ more) := by
  obtain ⟨axis, crs, selection⟩ := t
  obtain ⟨haxis, hlow, hhigh, hcrs⟩ := ht
  cases crs <;> cases selection <;>
    simp_all [Subset.elements, axisGroups, subsetParameters, AxisGroup.addParameter, boundText,
      Element.trimmedText, AxisGroup.ofSubset, Subset.bounds]

theorem axisGroups_flatMap_elements (hplain : ∀ t ∈ subsets, t.Plain) (owner : String)
    (current : Option AxisGroup) :
    axisGroups owner current (subsets.flatMap Subset.elements) =
      .ok (current.toList ++ subsets.map AxisGroup.ofSubset) := by
  induction subsets generalizing current with
  | nil => simp [axisGroups]
  | cons t subsets ih =>
      obtain ⟨ht, hsubsets⟩ := List.forall_mem_cons.mp hplain
      rw [List.flatMap_cons, axisGroups_elements ht, ih hsubsets, ok_bind]
      rfl

theorem toSubset_ofSubset (ht : t.Plain) (hop : op ≠ .extend)
    (hslice : t.isSlice = decide (op = .slice)) : (AxisGroup.ofSubset t).toSubset op = .ok t := by
  obtain ⟨axis, crs, selection⟩ := t
  have hcrs := ht.crs
  cases crs <;> cases selection <;> cases op <;>
    simp_all [Subset.isSlice, AxisGroup.ofSubset, AxisGroup.toSubset, AxisGroup.require,
      Subset.bounds, Subset.trim, Subset.slice, Subset.withCrs]

-- What is written is read back.
theorem axisSubsets_layer (h : Layerable op subsets) (hsome : subsets ≠ [])
    (hoperand : operand.name ∉ subsetParameters) :
    axisSubsets (layer op operand subsets) op = .ok subsets := by
  have haxis : operand.name ≠ "axis" := by
    rintro h
    exact hoperand (by simp [h, subsetParameters])
  simp only [axisSubsets, layer, List.isEmpty_iff, if_neg hsome, axisGroups, if_neg haxis,
    if_neg hoperand, axisGroups_flatMap_elements h.plain, ok_bind, Option.toList_none,
    List.nil_append, mapM_eq_ok_iff, List.forall₂_map_left_iff, List.forall₂_same]
  exact fun t ht => toSubset_ofSubset (h.plain t ht) h.narrowing (h.alike t ht)

theorem childBeside?_layer (hsome : subsets ≠ []) (hoperand : operand.name ∉ subsetParameters) :
    (layer op operand subsets).childBeside? subsetParameters = some operand := by
  simp [layer, hsome, Element.childBeside?, hoperand]

end Writing

section Resolving

variable {op : SubsetOp} {operand : Schema} {t : Subset} {subsets : List Subset}
  {specs : List SubsetSpec} {spec : SubsetSpec}

theorem resolveSpec_eq_ok_iff_resolves (hnames : DistinctNames operand.axes) :
    resolveSpec op operand [] t = .ok spec ↔ spec.Resolves op operand.axes t := by
  refine ⟨fun h => (resolves_of_resolveSpec h).2, ?_⟩
  rintro ⟨a, rfl, hplace, hname, hresolve, hle, hinside⟩
  have haxis := (Schema.requireAxis_eq_ok_iff hnames).mpr ⟨hplace, hname⟩
  exact resolveSpec_eq_ok_iff.mpr
    ⟨spec.axis, a, spec.lo, spec.hi, haxis, nofun, hresolve, hle, hinside, rfl⟩

-- Subsets in the same place are on the same axis.
theorem nodup_places {axes : List AxisView} (hdistinct : (subsets.map (·.axis)).Nodup)
    (h : List.Forall₂ (SubsetSpec.Resolves op axes) subsets specs) :
    (specs.map (·.axis)).Nodup := by
  induction h with
  | nil => simp
  | @cons t spec subsets specs hspec hrest ih =>
      obtain ⟨hnew, hdistinct⟩ := List.nodup_cons.mp hdistinct
      refine List.nodup_cons.mpr ⟨fun hmem => ?_, ih hdistinct⟩
      obtain ⟨other, hother, hplace⟩ := List.mem_map.mp hmem
      obtain ⟨u, hu, b, hb⟩ := exists_mem_of_forall₂ hrest other hother
      obtain ⟨a, ha⟩ := hspec
      obtain rfl : b = a := Option.some.inj (hb.place.symm.trans (hplace ▸ ha.place))
      exact hnew (List.mem_map.mpr ⟨u, hu, hb.name.symm.trans ha.name⟩)

-- Subsets on distinct axes are resolved one by one.
theorem resolveSpecs_eq_ok_iff (hnames : DistinctNames operand.axes)
    (hdistinct : (subsets.map (·.axis)).Nodup) :
    resolveSpecs op operand [] subsets = .ok specs ↔
      List.Forall₂ (SubsetSpec.Resolves op operand.axes) subsets specs := by
  simp only [resolveSpecs_iff_alone, resolveSpec_eq_ok_iff_resolves hnames]
  exact ⟨And.right, fun h => ⟨nodup_places hdistinct h, h⟩⟩

end Resolving

section Leaving

-- What a layer of trims or slices leaves of an axis: slices take their axes away.
def leave (op : SubsetOp) (subsets : List Subset) (a : AxisView) : Option AxisView :=
  if op = .slice ∧ ∃ t ∈ subsets, t.axis = a.domain.name then none else some (a.takeAll subsets)

-- The axes that subsets are on have all their cells.
def WholeFor (axes : List AxisView) (subsets : List Subset) : Prop :=
  ∀ a ∈ axes, ∀ t ∈ subsets, t.axis = a.domain.name → a.cells = a.native

variable {op : SubsetOp} {axes : List AxisView} {subsets : List Subset} {specs : List SubsetSpec}
  {a : AxisView} {i : Nat}

theorem exists_resolves_iff (hop : op ≠ .extend) (hwhole : WholeFor axes subsets) :
    (∃ specs, List.Forall₂ (SubsetSpec.Resolves op axes) subsets specs) ↔ Accepts axes subsets := by
  rw [exists_forall₂_iff]
  refine forall₂_congr fun t ht => ?_
  constructor
  · rintro ⟨spec, a, -, hplace, hname, hresolve, hle, hinside⟩
    have ha := List.mem_of_getElem? hplace
    have hcells := hwhole a ha t ht hname.symm
    rw [hcells] at hresolve hinside
    exact ⟨a, ha, hname.symm, spec.lo, spec.hi, hresolve, hle, hinside.resolve_left hop⟩
  · rintro ⟨a, ha, haxis, lo, hi, hresolve, hle, hinside⟩
    obtain ⟨i, hi'⟩ := List.getElem?_of_mem ha
    have hcells := hwhole a ha t ht haxis
    exact ⟨⟨i, t, lo, hi⟩, a, rfl, hi', haxis.symm, by rw [hcells]; exact hresolve, hle,
      .inr (by rw [hcells]; exact hinside)⟩

theorem subsetAxis_eq_leave (hnames : DistinctNames axes)
    (hdistinct : (subsets.map (·.axis)).Nodup) (hwhole : WholeFor axes subsets)
    (hspecs : List.Forall₂ (SubsetSpec.Resolves op axes) subsets specs) (ha : axes[i]? = some a) :
    subsetAxis op specs a i = leave op subsets a := by
  unfold subsetAxis
  cases hfind : specs.find? (·.axis = i) with
  | some spec =>
      obtain ⟨t, ht, b, hsubset, hplace, hname, hresolve, -⟩ :=
        exists_mem_of_forall₂ hspecs spec (List.mem_of_find?_eq_some hfind)
      have hi : spec.axis = i := by simpa using List.find?_some hfind
      obtain rfl : a = b := Option.some.inj (ha.symm.trans (hi ▸ hplace))
      have hnamed : ∃ t ∈ subsets, t.axis = a.domain.name := ⟨t, ht, hname.symm⟩
      rw [hwhole a (List.mem_of_getElem? ha) t ht hname.symm] at hresolve
      simp only [leave, hnamed, and_true, a.takeAll_of_mem hdistinct ht hname.symm,
        AxisView.take_of_resolve hname.symm hresolve, CellExtent.applyResolved, hsubset]
  | none =>
      have hnamed : ∀ t ∈ subsets, t.axis ≠ a.domain.name := by
        intro t ht haxis
        obtain ⟨spec, hspec, b, hb⟩ := exists_mem_of_forall₂ hspecs.flip t ht
        have hi := hnames.place_eq hb.place ha (hb.name.trans haxis)
        simpa [hi] using List.find?_eq_none.mp hfind spec hspec
      have hnone : ¬∃ t ∈ subsets, t.axis = a.domain.name := by simpa using hnamed
      simp only [leave, hnone, and_false, if_false, AxisView.takeAll_of_forall_ne hnamed]

theorem subsetSchema_axes {operand : Schema} (hnames : DistinctNames operand.axes)
    (hdistinct : (subsets.map (·.axis)).Nodup) (hwhole : WholeFor operand.axes subsets)
    (hspecs : List.Forall₂ (SubsetSpec.Resolves op operand.axes) subsets specs) :
    (subsetSchema op operand specs).axes = operand.axes.filterMap (leave op subsets) := by
  have hplaces : (subsetSchema op operand specs).axes =
      operand.axes.zipIdx.filterMap fun p => leave op subsets p.1 := by
    refine List.filterMap_congr fun p hp => ?_
    exact subsetAxis_eq_leave hnames hdistinct hwhole hspecs
      (List.mem_zipIdx_iff_getElem?.mp hp)
  calc (subsetSchema op operand specs).axes
      = operand.axes.zipIdx.filterMap fun p => leave op subsets p.1 := hplaces
    _ = (operand.axes.zipIdx.map Prod.fst).filterMap (leave op subsets) := by
        rw [List.filterMap_map]
        rfl
    _ = operand.axes.filterMap (leave op subsets) := by rw [List.zipIdx_map_fst]

end Leaving

section Reading

variable {s : Scope} {e operand : Element} {op : SubsetOp} {subsets : List Subset}
  {axes : List AxisView} {depth : Nat} {accepted : Prop}

theorem coverageForm_subset {g : Grammar} {x : CoverageExpr} (htag : e.name = op.tag)
    (h : g.CoverageForm s e x) :
    ∃ y subsets specs, OperandBeside g.ReadsCoverage s e subsetParameters y ∧
      axisSubsets e op = .ok subsets ∧ resolveSpecs op y.schema [] subsets = .ok specs ∧
      specs ≠ [] ∧ x = .subset op y specs (subsetSchema op y.schema specs) := by
  have hop := SubsetOp.ofTag?_eq_some_iff.mpr htag
  cases h with
  | @subset op' y subsets specs htag' hx hsubsets hspecs hsome =>
      rw [SubsetOp.ofTag?_eq_some_iff.mpr htag'] at hop
      obtain rfl := Option.some.inj hop
      exact ⟨y, subsets, specs, hx, hsubsets, hspecs, hsome, rfl⟩
  | setMetadata hchange =>
      have hnone := parseChange?_of_not_mem (e := e) (by rw [htag]; cases op <;> decide)
      simp [hnone] at hchange
  | @unary op' _ htag' | @binary op' _ _ _ htag' =>
      rw [htag'] at hop
      cases op' <;> cases hop
  | reference htag' | constant htag' | construct htag' | scale htag' | switch htag' | bit htag'
  | cast htag' | fieldSelect htag' | rangeConstructor htag' =>
      rw [htag'] at hop
      cases hop

theorem readsCoverage_subset_iff {limit levels : Nat} {x : CoverageExpr} (htag : e.name = op.tag) :
    (Grammar.level limit (levels + 1)).ReadsCoverage s e x ↔
      ∃ c y subsets specs, e.childBeside? subsetParameters = some c ∧
        (Grammar.level limit levels).ReadsCoverage s c y ∧ axisSubsets e op = .ok subsets ∧
        resolveSpecs op y.schema [] subsets = .ok specs ∧ specs ≠ [] ∧
        x = .subset op y specs (subsetSchema op y.schema specs) := by
  rw [Grammar.readsCoverage_succ_iff]
  constructor
  · intro h
    obtain ⟨y, subsets, specs, ⟨c, hc, hy⟩, hsubsets, hspecs, hsome, rfl⟩ :=
      coverageForm_subset htag h
    exact ⟨c, y, subsets, specs, hc, hy, hsubsets, hspecs, hsome, rfl⟩
  · rintro ⟨c, y, subsets, specs, hc, hy, hsubsets, hspecs, hsome, rfl⟩
    exact .subset htag ⟨c, hc, hy⟩ hsubsets hspecs hsome

-- With enough levels an element is read exactly if it is accepted, and it has the given axes.
structure Reads (s : Scope) (e : Element) (depth : Nat) (accepted : Prop) (axes : List AxisView) :
    Prop where
  accepted_iff : ∀ limit levels, depth ≤ levels →
    ((∃ x, (Grammar.level limit levels).ReadsCoverage s e x) ↔ accepted)
  axes_eq : ∀ limit levels x, (Grammar.level limit levels).ReadsCoverage s e x →
    x.schema.axes = axes

-- A written layer is read if its operand is and all its subsets fit the operand.
theorem readsCoverage_layer_iff {limit levels : Nat} {x : CoverageExpr}
    (hlayer : Layerable op subsets) (hsome : subsets ≠ [])
    (hoperand : operand.name ∉ subsetParameters)
    (hnames : ∀ y, (Grammar.level limit levels).ReadsCoverage s operand y →
      DistinctNames y.schema.axes) :
    (Grammar.level limit (levels + 1)).ReadsCoverage s (layer op operand subsets) x ↔
      ∃ y specs, (Grammar.level limit levels).ReadsCoverage s operand y ∧
        List.Forall₂ (SubsetSpec.Resolves op y.schema.axes) subsets specs ∧
        x = .subset op y specs (subsetSchema op y.schema specs) := by
  have htag : (layer op operand subsets).name = op.tag := by simp [layer, hsome]
  have hchild := @childBeside?_layer op subsets operand hsome hoperand
  have hsubsets := axisSubsets_layer hlayer hsome hoperand
  have hresolve : ∀ y specs, (Grammar.level limit levels).ReadsCoverage s operand y →
      (resolveSpecs op y.schema [] subsets = .ok specs ↔
        List.Forall₂ (SubsetSpec.Resolves op y.schema.axes) subsets specs) :=
    fun y specs hy => resolveSpecs_eq_ok_iff (hnames y hy) hlayer.distinct
  rw [readsCoverage_subset_iff htag]
  constructor
  · rintro ⟨c, y, subsets', specs, hc, hy, hsubsets', hspecs, -, rfl⟩
    obtain rfl := Option.some.inj (hchild.symm.trans hc)
    obtain rfl := Except.ok.inj (hsubsets.symm.trans hsubsets')
    exact ⟨y, specs, hy, (hresolve y specs hy).mp hspecs, rfl⟩
  · rintro ⟨y, specs, hy, hspecs, rfl⟩
    refine ⟨operand, y, subsets, specs, hchild, hy, hsubsets, (hresolve y specs hy).mpr hspecs, ?_,
      rfl⟩
    rintro rfl
    exact hsome (List.forall₂_nil_right_iff.mp hspecs)

theorem Reads.layer (h : Reads s operand depth accepted axes)
    (hoperand : operand.name ∉ subsetParameters) (hlayer : Layerable op subsets)
    (hnames : DistinctNames axes) (hwhole : WholeFor axes subsets) :
    Reads s (layer op operand subsets) (depth + 1) (accepted ∧ Accepts axes subsets)
      (axes.filterMap (leave op subsets)) := by
  by_cases hsome : subsets = []
  · -- An omitted layer accepts everything and leaves all axes.
    subst hsome
    have hall : leave op [] = some := by
      funext a
      simp [leave]
    refine ⟨fun limit levels hlevels => ?_, fun limit levels x hx => ?_⟩
    · rw [← h.accepted_iff limit levels (by omega)]
      simp [Accepts, Expr.layer]
    · rw [hall, List.filterMap_some]
      exact h.axes_eq limit levels x hx
  have hoperandNames : ∀ limit levels y, (Grammar.level limit levels).ReadsCoverage s operand y →
      DistinctNames y.schema.axes := by
    intro limit levels y hy
    rwa [h.axes_eq limit levels y hy]
  refine ⟨fun limit levels hlevels => ?_, fun limit levels x hx => ?_⟩
  · obtain ⟨levels, rfl⟩ : ∃ left, levels = left + 1 := ⟨levels - 1, by omega⟩
    simp only [readsCoverage_layer_iff hlayer hsome hoperand (hoperandNames limit levels)]
    rw [← h.accepted_iff limit levels (by omega), ← exists_resolves_iff hlayer.narrowing hwhole]
    constructor
    · rintro ⟨_, y, specs, hy, hspecs, rfl⟩
      rw [h.axes_eq limit levels y hy] at hspecs
      exact ⟨⟨y, hy⟩, specs, hspecs⟩
    · rintro ⟨⟨y, hy⟩, specs, hspecs⟩
      rw [← h.axes_eq limit levels y hy] at hspecs
      exact ⟨_, y, specs, hy, hspecs, rfl⟩
  · cases levels with
    | zero => exact (Grammar.not_readsCoverage_zero hx).elim
    | succ levels =>
        rw [readsCoverage_layer_iff hlayer hsome hoperand (hoperandNames limit levels)] at hx
        obtain ⟨y, specs, hy, hspecs, rfl⟩ := hx
        have haxes := h.axes_eq limit levels y hy
        rw [← haxes] at hnames hwhole ⊢
        exact subsetSchema_axes hnames hlayer.distinct hwhole hspecs

end Reading

end Expr

end Datacube
