import Datacube.Expr.Subsetting
import Datacube.Proofs.Outcome
import Mathlib.Data.List.Nodup

-- When a subset of an axis is accepted, and what becomes of the axis.
namespace Datacube

open Result

-- An axis measured by numbers gets its resolution from the number of its cells; any other keeps it.
def Axis.fitted (a : Axis) (cells : Nat) : Result Axis :=
  if a.numeric.isSome then a.setResolution cells else .ok a

-- An axis is looked up by the names alone.
theorem Schema.requireAxis_iff_axisIndex? {s : Schema} {name : String} {i : Nat}
    {axis : AxisView} :
    s.requireAxis name = .ok (i, axis) ↔ s.axisIndex? name = some i ∧ s.axes[i]? = some axis := by
  rw [axisIndex?, List.findIdx?_eq_fst_find?_zipIdx]
  unfold requireAxis
  split
  · next v j hfind =>
    have hj : s.axes[j]? = some v :=
      List.mem_zipIdx_iff_getElem?.mp (List.mem_of_find?_eq_some hfind)
    simp only [hfind, Except.ok.injEq, Prod.mk.injEq, Option.map_some, Option.some.injEq]
    constructor
    · rintro ⟨rfl, rfl⟩
      exact ⟨rfl, hj⟩
    · rintro ⟨rfl, haxis⟩
      exact ⟨rfl, Option.some.inj (hj.symm.trans haxis)⟩
  · next hfind => simp [hfind]

theorem Schema.axisIndex?_eq (s : Schema) (name : String) :
    s.axisIndex? name = s.axisLabels.findIdx? (· = name) := by
  rw [axisLabels, List.findIdx?_map]
  rfl

theorem Schema.axisLabels_set {s : Schema} {i : Nat} {a b : AxisView} (ha : s.axes[i]? = some a)
    (hname : b.domain.name = a.domain.name) :
    axisLabels { s with axes := s.axes.set i b } = s.axisLabels := by
  obtain ⟨hi, rfl⟩ := List.getElem?_eq_some_iff.mp ha
  simp only [axisLabels, List.map_set, hname]
  rw [← List.getElem_map (fun a : AxisView => a.domain.name) (h := by simpa),
    List.set_getElem_self]

-- Replacing an axis by another of its name does not change how the others are found.
theorem Schema.requireAxis_set_iff {s : Schema} {name : String} {i j : Nat} {a b axis : AxisView}
    (ha : s.axes[i]? = some a) (hname : b.domain.name = a.domain.name) (hij : i ≠ j) :
    requireAxis { s with axes := s.axes.set i b } name = .ok (j, axis) ↔
      s.requireAxis name = .ok (j, axis) := by
  rw [requireAxis_iff_axisIndex?, requireAxis_iff_axisIndex?, axisIndex?_eq, axisIndex?_eq,
    axisLabels_set ha hname, List.getElem?_set_ne hij]

theorem Schema.requireAxis_eq_ok {s : Schema} {name : String} {i : Nat} {axis : AxisView}
    (h : s.requireAxis name = .ok (i, axis)) :
    s.axes[i]? = some axis ∧ axis.domain.name = name := by
  unfold Schema.requireAxis at h
  split at h
  · next v j hfind =>
    obtain ⟨rfl, rfl⟩ : j = i ∧ v = axis := by simpa using h
    exact ⟨List.mem_zipIdx_iff_getElem?.mp (List.mem_of_find?_eq_some hfind),
      by simpa using List.find?_some hfind⟩
  · cases h

namespace Expr

theorem AxisGroup.require_eq_ok_iff {g : AxisGroup} {what text : String}
    {given : Option String} :
    g.require what given = .ok text ↔ given = some text := by
  cases given <;> simp [AxisGroup.require]

theorem toSubset_trim_eq_ok {g : AxisGroup} {t : Subset} (h : g.toSubset .trim = .ok t) :
    t.axis = g.axis ∧ g.low = some t.bounds.1 ∧ g.high = some t.bounds.2 := by
  simp only [AxisGroup.toSubset, bind_eq_ok, pure_eq_ok, AxisGroup.require_eq_ok_iff] at h
  obtain ⟨low, hlow, high, hhigh, _, rfl, hcrs⟩ := h
  split at hcrs
  · obtain rfl := pure_eq_ok.mp hcrs
    split <;> exact ⟨rfl, hlow, hhigh⟩
  · obtain rfl := pure_eq_ok.mp hcrs
    exact ⟨rfl, hlow, hhigh⟩

theorem resolveSpec_eq_ok_iff {op : SubsetOp} {operand : Schema} {earlier : List SubsetSpec}
    {subset : Subset} {spec : SubsetSpec} :
    resolveSpec op operand earlier subset = .ok spec ↔
      ∃ i axis lo hi, operand.requireAxis subset.axis = .ok (i, axis) ∧
        (∀ other ∈ earlier, other.axis ≠ i) ∧
        axis.domain.resolveOn subset axis.native axis.cells = .ok (lo, hi) ∧ lo ≤ hi ∧
        (op = .extend ∨ axis.cells.lo ≤ lo ∧ hi ≤ axis.cells.hi) ∧ spec = ⟨i, subset, lo, hi⟩ := by
  simp only [resolveSpec, bind_eq_ok, throw_bind, ite_throw_eq_ok, pure_eq_ok, Prod.exists,
    List.any_eq_true, decide_eq_true_eq, not_exists, not_and, Int.not_lt, ne_eq,
    Classical.not_imp, Classical.not_not]
  constructor
  · rintro ⟨i, axis, haxis, hfirst, lo, hi, hresolve, hle, hinside, rfl⟩
    exact ⟨i, axis, lo, hi, haxis, hfirst, hresolve, hle, Classical.or_iff_not_imp_left.mpr hinside,
      rfl⟩
  · rintro ⟨i, axis, lo, hi, haxis, hfirst, hresolve, hle, hinside, rfl⟩
    exact ⟨i, axis, haxis, hfirst, lo, hi, hresolve, hle, Classical.or_iff_not_imp_left.mp hinside,
      rfl⟩

-- A subset on the axis at its place, with its bounds in order and, unless it extends the axis,
-- inside the cells.
structure SubsetSpec.Places (op : SubsetOp) (axes : List AxisView) (t : Subset)
    (spec : SubsetSpec) (a : AxisView) : Prop where
  subset : spec.subset = t
  place : axes[spec.axis]? = some a
  name : a.domain.name = t.axis
  resolve : a.domain.resolveOn t a.native a.cells = .ok (spec.lo, spec.hi)
  order : spec.lo ≤ spec.hi
  inside : op = .extend ∨ a.cells.lo ≤ spec.lo ∧ spec.hi ≤ a.cells.hi

def SubsetSpec.Resolves (op : SubsetOp) (axes : List AxisView) (t : Subset) (spec : SubsetSpec) :
    Prop :=
  ∃ a, spec.Places op axes t a

theorem resolves_of_resolveSpec {op : SubsetOp} {operand : Schema} {earlier : List SubsetSpec}
    {t : Subset} {spec : SubsetSpec} (h : resolveSpec op operand earlier t = .ok spec) :
    (∀ other ∈ earlier, other.axis ≠ spec.axis) ∧ spec.Resolves op operand.axes t := by
  obtain ⟨i, a, lo, hi, haxis, hfirst, hresolve, hle, hinside, rfl⟩ := resolveSpec_eq_ok_iff.mp h
  obtain ⟨hplace, hname⟩ := Schema.requireAxis_eq_ok haxis
  exact ⟨hfirst, a, rfl, hplace, hname, hresolve, hle, hinside⟩

-- A subset is resolved on its own; those before it only have to be in other places.
theorem resolveSpec_iff_alone {op : SubsetOp} {operand : Schema} {earlier : List SubsetSpec}
    {t : Subset} {spec : SubsetSpec} :
    resolveSpec op operand earlier t = .ok spec ↔
      (∀ other ∈ earlier, other.axis ≠ spec.axis) ∧ resolveSpec op operand [] t = .ok spec := by
  simp only [resolveSpec_eq_ok_iff]
  constructor
  · rintro ⟨i, a, lo, hi, haxis, hfirst, hresolve, hle, hinside, rfl⟩
    exact ⟨hfirst, i, a, lo, hi, haxis, nofun, hresolve, hle, hinside, rfl⟩
  · rintro ⟨hfirst, i, a, lo, hi, haxis, -, hresolve, hle, hinside, rfl⟩
    exact ⟨i, a, lo, hi, haxis, hfirst, hresolve, hle, hinside, rfl⟩

theorem resolveSpecs_iff_append {op : SubsetOp} {operand : Schema}
    {earlier specs : List SubsetSpec} {subsets : List Subset}
    (hearlier : (earlier.map (·.axis)).Nodup) :
    resolveSpecs op operand earlier subsets = .ok specs ↔
      ∃ new, specs = earlier ++ new ∧ (specs.map (·.axis)).Nodup ∧
        List.Forall₂ (fun t spec => resolveSpec op operand [] t = .ok spec) subsets new := by
  induction subsets generalizing earlier with
  | nil =>
      constructor
      · intro h
        obtain rfl := Except.ok.inj h
        exact ⟨[], by simp, hearlier, .nil⟩
      · rintro ⟨_, rfl, -, ⟨⟩⟩
        rw [List.append_nil, resolveSpecs]
  | cons t subsets ih =>
      have hplaces : ∀ spec : SubsetSpec, (∀ other ∈ earlier, other.axis ≠ spec.axis) →
          ((earlier ++ [spec]).map (·.axis)).Nodup := by
        intro spec hfirst
        simpa [List.nodup_append, hearlier] using hfirst
      simp only [resolveSpecs, bind_eq_ok, @resolveSpec_iff_alone op operand earlier]
      constructor
      · rintro ⟨spec, ⟨hfirst, hspec⟩, hrest⟩
        obtain ⟨new, rfl, hnodup, hsubsets⟩ := (ih (hplaces spec hfirst)).mp hrest
        exact ⟨spec :: new, by simp, hnodup, .cons hspec hsubsets⟩
      · rintro ⟨_, rfl, hnodup, hsubsets⟩
        obtain ⟨spec, new, hspec, hmore, rfl⟩ := List.forall₂_cons_left_iff.mp hsubsets
        have hfirst : ∀ other ∈ earlier, other.axis ≠ spec.axis := by
          rw [List.map_append, List.nodup_append] at hnodup
          exact fun other hother =>
            hnodup.2.2 _ (List.mem_map_of_mem hother) _ (by simp)
        exact ⟨spec, ⟨hfirst, hspec⟩,
          (ih (hplaces spec hfirst)).mpr ⟨new, by simp, hnodup, hmore⟩⟩

-- Each subset is resolved on its own, and no two of them are in the same place.
theorem resolveSpecs_iff_alone {op : SubsetOp} {operand : Schema} {specs : List SubsetSpec}
    {subsets : List Subset} :
    resolveSpecs op operand [] subsets = .ok specs ↔ (specs.map (·.axis)).Nodup ∧
      List.Forall₂ (fun t spec => resolveSpec op operand [] t = .ok spec) subsets specs := by
  rw [resolveSpecs_iff_append (by simp)]
  constructor
  · rintro ⟨_, rfl, hnodup, hsubsets⟩
    exact ⟨hnodup, hsubsets⟩
  · rintro ⟨hnodup, hsubsets⟩
    exact ⟨specs, rfl, hnodup, hsubsets⟩

theorem resolves_of_resolveSpecs {op : SubsetOp} {operand : Schema} {specs : List SubsetSpec}
    {subsets : List Subset} (h : resolveSpecs op operand [] subsets = .ok specs) :
    (specs.map (·.axis)).Nodup ∧
      List.Forall₂ (SubsetSpec.Resolves op operand.axes) subsets specs := by
  obtain ⟨hnodup, hsubsets⟩ := resolveSpecs_iff_alone.mp h
  exact ⟨hnodup, hsubsets.imp fun _ _ hspec => (resolves_of_resolveSpec hspec).2⟩

-- The subset in a place, of subsets that are all in different places.
theorem find?_place_eq_some_iff {specs : List SubsetSpec} (hplaces : (specs.map (·.axis)).Nodup)
    {place : Nat} {spec : SubsetSpec} :
    specs.find? (·.axis = place) = some spec ↔ spec ∈ specs ∧ spec.axis = place := by
  constructor
  · intro h
    exact ⟨List.mem_of_find?_eq_some h, by simpa using List.find?_some h⟩
  · rintro ⟨hspec, rfl⟩
    cases hfind : specs.find? (·.axis = spec.axis) with
    | none => simpa using List.find?_eq_none.mp hfind spec hspec
    | some other =>
        have hother := List.mem_of_find?_eq_some hfind
        have haxis : other.axis = spec.axis := by simpa using List.find?_some hfind
        rw [List.inj_on_of_nodup_map hplaces hother hspec haxis]

-- An axis of the result is one of the operand's, with other cells if a subset names it.
theorem mem_subsetSchema_axes {op : SubsetOp} {operand : Schema} {specs : List SubsetSpec}
    {subsets : List Subset} {a : AxisView}
    (hspecs : List.Forall₂ (SubsetSpec.Resolves op operand.axes) subsets specs)
    (ha : a ∈ (subsetSchema op operand specs).axes) :
    ∃ axis ∈ operand.axes, a = axis ∨
      ∃ lo hi subset, a = { axis with cells := ⟨lo, hi, some subset⟩ } ∧ lo ≤ hi ∧
        (op = .extend ∨ axis.cells.lo ≤ lo ∧ hi ≤ axis.cells.hi) := by
  simp only [subsetSchema, List.mem_filterMap] at ha
  obtain ⟨⟨axis, i⟩, hmem, hkept⟩ := ha
  have hget := List.mem_zipIdx_iff_getElem?.mp hmem
  refine ⟨axis, List.mem_of_getElem? hget, ?_⟩
  simp only [subsetAxis] at hkept
  split at hkept
  · next spec hfind =>
    have hplace : spec.axis = i := by simpa using List.find?_some hfind
    obtain ⟨_, -, axis', hplaces⟩ :=
      exists_mem_of_forall₂ hspecs spec (List.mem_of_find?_eq_some hfind)
    obtain rfl : axis' = axis := Option.some.inj (by rw [← hplaces.place, hplace, hget])
    split at hkept
    · cases hkept
    · obtain rfl := Option.some.inj hkept
      exact .inr ⟨spec.lo, spec.hi, spec.subset, rfl, hplaces.order, hplaces.inside⟩
  · exact .inl (Option.some.inj hkept).symm

theorem scaleAxis_eq_ok_iff {schema schema' : Schema} {subset : Subset} :
    scaleAxis schema subset = .ok schema' ↔
      ∃ i axis lo hi domain, schema.requireAxis subset.axis = .ok (i, axis) ∧
        axis.domain.resolveOn subset axis.native axis.cells = .ok (lo, hi) ∧ lo ≤ hi ∧
        axis.domain.fitted (axis.cells.applyResolved subset lo hi).count = .ok domain ∧
        schema' = { schema with
          axes := schema.axes.set i
            ⟨domain, ⟨lo, hi, some subset⟩, ⟨lo, hi, some subset⟩⟩ } := by
  simp only [scaleAxis, bind_eq_ok, throw_bind, ite_throw_eq_ok, Prod.exists, Int.not_lt]
  constructor
  · rintro ⟨i, axis, haxis, lo, hi, hresolve, hle, h⟩
    unfold Axis.fitted
    split at h
    · next hnumeric =>
      simp only [bind_eq_ok, pure_eq_ok] at h
      obtain ⟨domain, hdomain, rfl⟩ := h
      exact ⟨i, axis, lo, hi, domain, haxis, hresolve, hle, by rwa [if_pos hnumeric], rfl⟩
    · next hnumeric =>
      obtain rfl := pure_eq_ok.mp h
      exact ⟨i, axis, lo, hi, axis.domain, haxis, hresolve, hle, if_neg hnumeric, rfl⟩
  · rintro ⟨i, axis, lo, hi, domain, haxis, hresolve, hle, hdomain, rfl⟩
    refine ⟨i, axis, haxis, lo, hi, hresolve, hle, ?_⟩
    unfold Axis.fitted at hdomain
    split at hdomain <;> simp_all [CellExtent.applyResolved]

end Expr

end Datacube
