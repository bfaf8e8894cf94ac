import Datacube.Proofs.Expr.Height
import Datacube.Proofs.Expr.Layer
import Datacube.Proofs.Text.Trim

-- A trim around a trim. Where all its bounds are given, the outer trim selects what it would select
-- of the operand itself, and it is accepted if that is left by the inner one.
namespace Datacube

open Markup (Element)
open Result

-- Both bounds are given.
def Subset.Closed (t : Subset) : Prop :=
  Text.trim t.bounds.1 ≠ openBound ∧ Text.trim t.bounds.2 ≠ openBound

section Bounds

variable {text : String}

theorem Axis.cellBound_of_closed (h : Text.trim text ≠ Subset.openBound) (axis : String)
    (current other : Int) : cellBound axis text current = cellBound axis text other := by
  rw [cellBound, if_neg h, cellBound, if_neg h]

theorem Axis.coordinateBound_of_closed (h : Text.trim text ≠ Subset.openBound) (a : Axis)
    (native : CellExtent) (current other : Int) :
    a.coordinateBound text native current = a.coordinateBound text native other := by
  have hopen : text ≠ Subset.openBound := by
    rintro rfl
    exact h (by decide +kernel)
  rw [coordinateBound, if_neg hopen, coordinateBound, if_neg hopen]

-- What is left of the cells shows in open bounds only.
theorem Axis.resolveOn_of_closed {t : Subset} (h : t.Closed) (a : Axis)
    (native cells other : CellExtent) :
    a.resolveOn t native cells = a.resolveOn t native other := by
  unfold resolveOn
  simp only [cellBound_of_closed h.1 a.name cells.lo other.lo,
    cellBound_of_closed h.2 a.name cells.hi other.hi,
    coordinateBound_of_closed h.1 a native cells.lo other.lo,
    coordinateBound_of_closed h.2 a native cells.hi other.hi]

end Bounds

namespace Expr

-- The axis in a place with the cells that trims give it.
def trimmedAxis (specs : List SubsetSpec) (place : Nat) (a : AxisView) : AxisView :=
  match specs.find? (·.axis = place) with
  | some spec => { a with cells := ⟨spec.lo, spec.hi, some spec.subset⟩ }
  | none => a

section Trimmed

variable {specs : List SubsetSpec} {place : Nat} {a b : AxisView} {operand : Schema}
  {subsets : List Subset} {t : Subset} {spec : SubsetSpec} {name : String}

@[simp] theorem trimmedAxis_domain : (trimmedAxis specs place a).domain = a.domain := by
  unfold trimmedAxis
  split <;> rfl

@[simp] theorem trimmedAxis_native : (trimmedAxis specs place a).native = a.native := by
  unfold trimmedAxis
  split <;> rfl

theorem trimmedAxis_of_mem (hplaces : (specs.map (·.axis)).Nodup) (hspec : spec ∈ specs)
    (a : AxisView) :
    trimmedAxis specs spec.axis a = { a with cells := ⟨spec.lo, spec.hi, some spec.subset⟩ } := by
  rw [trimmedAxis, (find?_place_eq_some_iff hplaces).mpr ⟨hspec, rfl⟩]

theorem trimmedAxis_of_forall_ne (h : ∀ spec ∈ specs, spec.axis ≠ place) :
    trimmedAxis specs place a = a := by
  have hnone : specs.find? (·.axis = place) = none := by simpa using h
  rw [trimmedAxis, hnone]

theorem subsetSchema_trim_axes (operand : Schema) (specs : List SubsetSpec) :
    (subsetSchema .trim operand specs).axes = operand.axes.mapIdx (trimmedAxis specs) := by
  have hkept : ∀ p : AxisView × Nat,
      subsetAxis .trim specs p.1 p.2 = some (trimmedAxis specs p.2 p.1) := by
    intro p
    cases hfind : specs.find? (·.axis = p.2) <;>
      simp [subsetAxis, trimmedAxis, hfind, CellExtent.applyResolved]
  rw [List.mapIdx_eq_zipIdx_map, ← List.filterMap_eq_map]
  exact List.filterMap_congr fun p _ => hkept p

theorem getElem?_trim (operand : Schema) (specs : List SubsetSpec) (place : Nat) :
    (subsetSchema .trim operand specs).axes[place]? =
      operand.axes[place]?.map (trimmedAxis specs place) := by
  rw [subsetSchema_trim_axes, List.getElem?_mapIdx]

theorem axisLabels_trim (operand : Schema) (specs : List SubsetSpec) :
    (subsetSchema .trim operand specs).axisLabels = operand.axisLabels := by
  refine List.ext_getElem? fun i => ?_
  simp [Schema.axisLabels, getElem?_trim, Function.comp_def]

theorem requireAxis_trim_iff :
    (subsetSchema .trim operand specs).requireAxis name = .ok (place, b) ↔
      ∃ a, operand.requireAxis name = .ok (place, a) ∧ b = trimmedAxis specs place a := by
  simp only [Schema.requireAxis_iff_axisIndex?, Schema.axisIndex?_eq, axisLabels_trim,
    getElem?_trim, Option.map_eq_some_iff, and_assoc, exists_and_left, eq_comm (b := b)]

-- A trim leaves cells that were there.
theorem trimmedAxis_inside
    (hspecs : List.Forall₂ (SubsetSpec.Resolves .trim operand.axes) subsets specs)
    (ha : operand.axes[place]? = some a) :
    a.cells.lo ≤ (trimmedAxis specs place a).cells.lo ∧
      (trimmedAxis specs place a).cells.hi ≤ a.cells.hi := by
  unfold trimmedAxis
  split
  · next spec hfind =>
    obtain ⟨t, -, a', hspec⟩ := exists_mem_of_forall₂ hspecs spec (List.mem_of_find?_eq_some hfind)
    have hplace : spec.axis = place := by simpa using List.find?_some hfind
    obtain rfl : a = a' := Option.some.inj (ha.symm.trans (hplace ▸ hspec.place))
    exact hspec.inside.resolve_left (by decide)
  · exact ⟨le_rfl, le_rfl⟩

end Trimmed

-- The cells of a subset are left on its axis.
def SubsetSpec.Fits (axes : List AxisView) (spec : SubsetSpec) : Prop :=
  ∀ a, axes[spec.axis]? = some a → a.cells.lo ≤ spec.lo ∧ spec.hi ≤ a.cells.hi

section Resolved

variable {operand : Schema} {first second : List Subset} {specs specs' : List SubsetSpec}
  {t : Subset} {spec : SubsetSpec}

theorem resolveSpec_trim_iff (hclosed : t.Closed)
    (hspecs : List.Forall₂ (SubsetSpec.Resolves .trim operand.axes) first specs) :
    resolveSpec .trim (subsetSchema .trim operand specs) [] t = .ok spec ↔
      resolveSpec .trim operand [] t = .ok spec ∧
        spec.Fits (subsetSchema .trim operand specs).axes := by
  simp only [resolveSpec_eq_ok_iff, requireAxis_trim_iff, reduceCtorEq, false_or]
  constructor
  · rintro ⟨i, _, lo, hi, ⟨a, haxis, rfl⟩, -, hresolve, hle, hinside, rfl⟩
    have ha := (Schema.requireAxis_iff_axisIndex?.mp haxis).2
    obtain ⟨hlo, hhi⟩ := trimmedAxis_inside hspecs ha
    rw [trimmedAxis_domain, trimmedAxis_native, Axis.resolveOn_of_closed hclosed _ _ _ a.cells]
      at hresolve
    refine ⟨⟨i, a, lo, hi, haxis, nofun, hresolve, hle,
      ⟨hlo.trans hinside.1, hinside.2.trans hhi⟩, rfl⟩, fun b hb => ?_⟩
    rw [getElem?_trim, ha] at hb
    obtain rfl := Option.some.inj hb
    exact hinside
  · rintro ⟨⟨i, a, lo, hi, haxis, -, hresolve, hle, -, rfl⟩, hfits⟩
    have ha := (Schema.requireAxis_iff_axisIndex?.mp haxis).2
    refine ⟨i, _, lo, hi, ⟨a, haxis, rfl⟩, nofun, ?_, hle, hfits _ ?_, rfl⟩
    · rw [trimmedAxis_domain, trimmedAxis_native, Axis.resolveOn_of_closed hclosed _ _ _ a.cells]
      exact hresolve
    · rw [getElem?_trim, ha, Option.map_some]

-- The outer trim is resolved as on the operand itself.
theorem resolveSpecs_trim_iff (hclosed : ∀ t ∈ second, t.Closed)
    (hspecs : List.Forall₂ (SubsetSpec.Resolves .trim operand.axes) first specs) :
    resolveSpecs .trim (subsetSchema .trim operand specs) [] second = .ok specs' ↔
      resolveSpecs .trim operand [] second = .ok specs' ∧
        ∀ spec ∈ specs', spec.Fits (subsetSchema .trim operand specs).axes := by
  simp only [resolveSpecs_iff_alone]
  constructor
  · rintro ⟨hnodup, hresolved⟩
    refine ⟨⟨hnodup, forall₂_imp_mem hresolved fun t spec ht h => ?_⟩, fun spec hspec => ?_⟩
    · exact ((resolveSpec_trim_iff (hclosed t ht) hspecs).mp h).1
    · obtain ⟨t, ht, h⟩ := exists_mem_of_forall₂ hresolved spec hspec
      exact ((resolveSpec_trim_iff (hclosed t ht) hspecs).mp h).2
  · rintro ⟨⟨hnodup, hresolved⟩, hfits⟩
    have hboth := forall₂_imp_mem hresolved fun t spec ht h => And.intro (hclosed t ht) h
    refine ⟨hnodup, (forall₂_imp_mem hboth.flip fun spec t hspec h => ?_).flip⟩
    exact (resolveSpec_trim_iff h.1 hspecs).mpr ⟨h.2, hfits spec hspec⟩

end Resolved

-- The axes of a trim around a trim: those that the outer one names are as it would leave them of
-- the operand itself, the others as the inner one leaves them.
structure Composed (names : List String) (inner direct nested : List AxisView) : Prop where
  inner_length : inner.length = nested.length
  direct_length : direct.length = nested.length
  named : ∀ (i : Nat) (a : AxisView), nested[i]? = some a → a.domain.name ∈ names →
    direct[i]? = some a
  unnamed : ∀ (i : Nat) (a : AxisView), nested[i]? = some a → a.domain.name ∉ names →
    inner[i]? = some a

section Composition

variable {operand : Schema} {first second : List Subset} {specs specs' : List SubsetSpec}

-- A subset is in the place of the first axis of its name.
theorem axisIndex?_of_resolveSpec {op : SubsetOp} {t : Subset} {spec : SubsetSpec}
    (h : resolveSpec op operand [] t = .ok spec) :
    operand.axisIndex? t.axis = some spec.axis := by
  obtain ⟨i, a, lo, hi, haxis, -, -, -, -, rfl⟩ := resolveSpec_eq_ok_iff.mp h
  exact (Schema.requireAxis_iff_axisIndex?.mp haxis).1

theorem name_of_axisIndex? {name : String} {i : Nat} {a : AxisView}
    (h : operand.axisIndex? name = some i) (ha : operand.axes[i]? = some a) :
    a.domain.name = name :=
  (Schema.requireAxis_eq_ok (Schema.requireAxis_iff_axisIndex?.mpr ⟨h, ha⟩)).2

theorem composed_of_resolved (hspecs : resolveSpecs .trim operand [] first = .ok specs)
    (hspecs' : resolveSpecs .trim operand [] second = .ok specs') :
    Composed (second.map (·.axis)) (subsetSchema .trim operand specs).axes
      (subsetSchema .trim operand specs').axes
      (subsetSchema .trim (subsetSchema .trim operand specs) specs').axes := by
  obtain ⟨-, hfirst⟩ := resolveSpecs_iff_alone.mp hspecs
  obtain ⟨hplaces, hsecond⟩ := resolveSpecs_iff_alone.mp hspecs'
  refine ⟨by simp [subsetSchema_trim_axes], by simp [subsetSchema_trim_axes],
    fun i b hb hname => ?_, fun i b hb hname => ?_⟩
  all_goals
    rw [getElem?_trim, getElem?_trim, Option.map_map] at hb
    obtain ⟨a, ha, rfl⟩ := Option.map_eq_some_iff.mp hb
    rw [getElem?_trim, ha, Option.map_some, Function.comp_apply]
    simp only [Function.comp_apply, trimmedAxis_domain] at hname
  · by_cases hin : ∃ spec ∈ specs', spec.axis = i
    · obtain ⟨spec, hspec, rfl⟩ := hin
      rw [trimmedAxis_of_mem hplaces hspec, trimmedAxis_of_mem hplaces hspec, trimmedAxis_domain,
        trimmedAxis_native]
    · -- An axis behind another one of its name is out of reach for both trims.
      have hout : ∀ spec ∈ specs, spec.axis ≠ i := by
        rintro spec hspec rfl
        obtain ⟨t, -, ht⟩ := exists_mem_of_forall₂ hfirst spec hspec
        obtain ⟨u, hu, haxis⟩ := List.mem_map.mp hname
        obtain ⟨spec', hspec', hu⟩ := exists_mem_of_forall₂ hsecond.flip u hu
        have hindex := axisIndex?_of_resolveSpec ht
        rw [← name_of_axisIndex? hindex ha, ← haxis, axisIndex?_of_resolveSpec hu] at hindex
        exact hin ⟨spec', hspec', Option.some.inj hindex⟩
      rw [trimmedAxis_of_forall_ne hout]
  · have hout : ∀ spec ∈ specs', spec.axis ≠ i := by
      rintro spec hspec rfl
      obtain ⟨t, ht, hresolve⟩ := exists_mem_of_forall₂ hsecond spec hspec
      have haxis := name_of_axisIndex? (axisIndex?_of_resolveSpec hresolve) ha
      exact hname (List.mem_map.mpr ⟨t, ht, haxis.symm⟩)
    rw [trimmedAxis_of_forall_ne hout]

-- What one trim selects is left by another.
def LeftBy (names : List String) (inner direct : List AxisView) : Prop :=
  ∀ (i : Nat) (a b : AxisView), inner[i]? = some a → direct[i]? = some b → b.domain.name ∈ names →
    a.cells.lo ≤ b.cells.lo ∧ b.cells.hi ≤ a.cells.hi

theorem fits_of_leftBy {inner : List AxisView}
    (hspecs : resolveSpecs .trim operand [] second = .ok specs)
    (hleft : LeftBy (second.map (·.axis)) inner (subsetSchema .trim operand specs).axes) :
    ∀ spec ∈ specs, spec.Fits inner := by
  intro spec hspec a ha
  obtain ⟨hplaces, hresolved⟩ := resolves_of_resolveSpecs hspecs
  obtain ⟨t, ht, b, hb⟩ := exists_mem_of_forall₂ hresolved spec hspec
  refine hleft spec.axis a { b with cells := ⟨spec.lo, spec.hi, some spec.subset⟩ } ha ?_
    (List.mem_map.mpr ⟨t, ht, hb.name.symm⟩)
  rw [getElem?_trim, hb.place, Option.map_some, trimmedAxis_of_mem hplaces hspec]

end Composition

-- A trim of an operand along the axes of its groups.
structure Trims (e operand : Element) (groups : List AxisGroup) : Prop where
  tag : e.name = SubsetOp.trim.tag
  operand : e.childBeside? subsetParameters = some operand
  groups : axisGroups e.name none e.children = .ok groups

-- Neither bound of the group is open.
def AxisGroup.Closed (g : AxisGroup) : Prop :=
  g.low ≠ some Subset.openBound ∧ g.high ≠ some Subset.openBound

section Groups

variable {owner : String} {current : Option AxisGroup} {elements : List Element}
  {groups : List AxisGroup} {g : AxisGroup}

-- The bounds of a group are texts without blanks around them.
def AxisGroup.Trimmed (g : AxisGroup) : Prop :=
  ∀ text, g.low = some text ∨ g.high = some text → Text.trim text = text

theorem trim_boundText (e : Element) : Text.trim (boundText e) = boundText e := by
  unfold boundText
  simp only
  split
  · exact Text.trim_trim e.text
  · split
    · next child _ => exact Text.trim_trim child.text
    · decide +kernel

theorem AxisGroup.Trimmed.addParameter (h : g.Trimmed) (e : Element) :
    (g.addParameter e).Trimmed := by
  have hbound : ∀ text, some (boundText e) = some text → Text.trim text = text := by
    rintro _ ⟨⟩
    exact trim_boundText e
  intro text htext
  unfold AxisGroup.addParameter at htext
  split at htext
  · exact h text htext
  · exact h text htext
  · exact htext.elim (hbound text) fun hhigh => h text (.inr hhigh)
  · exact htext.elim (fun hlow => h text (.inl hlow)) (hbound text)
  · exact htext.elim (hbound text) (hbound text)
  · exact h text htext

theorem trimmed_of_axisGroups (hcurrent : ∀ g ∈ current, g.Trimmed)
    (h : axisGroups owner current elements = .ok groups) : ∀ g ∈ groups, g.Trimmed := by
  induction elements generalizing current groups with
  | nil =>
      obtain rfl := Except.ok.inj h
      simpa using hcurrent
  | cons e rest ih =>
      unfold axisGroups at h
      split at h
      · simp only [bind_eq_ok, pure_eq_ok] at h
        obtain ⟨more, hmore, rfl⟩ := h
        have hnew : ∀ g ∈ some ({ axis := e.trimmedText } : AxisGroup), g.Trimmed := by
          simp [AxisGroup.Trimmed]
        intro g hg
        rcases List.mem_append.mp hg with hg | hg
        · exact hcurrent g (by simpa using hg)
        · exact ih hnew hmore g hg
      · split at h
        · cases current with
          | none => cases h
          | some g =>
              refine ih (fun g' hg' => ?_) h
              obtain rfl := Option.some.inj hg'
              exact (hcurrent g rfl).addParameter e
        · exact ih hcurrent h

theorem closed_of_toSubset {t : Subset} (hg : g.Closed) (htrimmed : g.Trimmed)
    (h : g.toSubset .trim = .ok t) : t.Closed := by
  obtain ⟨-, hlow, hhigh⟩ := toSubset_trim_eq_ok h
  unfold Subset.Closed
  rw [htrimmed _ (.inl hlow), htrimmed _ (.inr hhigh)]
  exact ⟨fun hopen => hg.1 (hopen ▸ hlow), fun hopen => hg.2 (hopen ▸ hhigh)⟩

end Groups

section Reading

variable {limit levels : Nat} {s : Scope} {e operand : Element} {groups : List AxisGroup}
  {subsets : List Subset} {x : CoverageExpr}

theorem Trims.closed (h : Trims e operand groups) (hclosed : ∀ g ∈ groups, g.Closed)
    (hsubsets : groups.mapM (·.toSubset .trim) = .ok subsets) : ∀ t ∈ subsets, t.Closed := by
  intro t ht
  obtain ⟨g, hg, hgt⟩ := exists_mem_of_forall₂ (mapM_eq_ok_iff.mp hsubsets) t ht
  exact closed_of_toSubset (hclosed g hg) (trimmed_of_axisGroups (by simp) h.groups g hg) hgt

theorem axes_of_mapM_toSubset (h : groups.mapM (·.toSubset .trim) = .ok subsets) :
    subsets.map (·.axis) = groups.map (·.axis) := by
  have haxes : List.Forall₂ (· = ·) (subsets.map (·.axis)) (groups.map (·.axis)) := by
    rw [List.forall₂_map_left_iff, List.forall₂_map_right_iff]
    exact (mapM_eq_ok_iff.mp h).flip.imp fun _ _ ht => (toSubset_trim_eq_ok ht).1
  rwa [List.forall₂_eq_eq_eq] at haxes

theorem Trims.readsCoverage_iff (h : Trims e operand groups) :
    (Grammar.level limit (levels + 1)).ReadsCoverage s e x ↔
      ∃ w subsets specs, (Grammar.level limit levels).ReadsCoverage s operand w ∧
        groups.mapM (·.toSubset .trim) = .ok subsets ∧
        resolveSpecs .trim w.schema [] subsets = .ok specs ∧ specs ≠ [] ∧
        x = .subset .trim w specs (subsetSchema .trim w.schema specs) := by
  have hsubsets : axisSubsets e .trim = groups.mapM (·.toSubset .trim) := by
    rw [axisSubsets, h.groups, ok_bind]
  rw [readsCoverage_subset_iff h.tag, hsubsets, h.operand]
  constructor
  · rintro ⟨c, w, subsets, specs, hc, hrest⟩
    obtain rfl := Option.some.inj hc
    exact ⟨w, subsets, specs, hrest⟩
  · rintro ⟨w, subsets, specs, hrest⟩
    exact ⟨operand, w, subsets, specs, rfl, hrest⟩

end Reading

-- A trim with given bounds around another trim is accepted only if it is accepted on the operand
-- itself. It then leaves the axes it names as it does there, and the others as the inner one does.
-- It is accepted if both trims of the operand are, the inner one leaves the cells that it selects,
-- and there is a level more.
theorem trims_compose (limit : Nat) (s : Scope) (operand inner outer direct : Element)
    (first second : List AxisGroup) (hinner : Trims inner operand first)
    (houter : Trims outer inner second) (hdirect : Trims direct operand second)
    (hclosed : ∀ g ∈ second, g.Closed) :
    (∀ x, (Grammar.upTo limit).parseCoverage s outer = .ok x →
      ∃ y z, (Grammar.upTo limit).parseCoverage s inner = .ok y ∧
        (Grammar.upTo limit).parseCoverage s direct = .ok z ∧
        Composed (second.map (·.axis)) y.schema.axes z.schema.axes x.schema.axes) ∧
    ∀ y z, (Grammar.upTo limit).parseCoverage s inner = .ok y →
      (Grammar.upTo limit).parseCoverage s direct = .ok z → y.height < limit →
      LeftBy (second.map (·.axis)) y.schema.axes z.schema.axes →
      ∃ x, (Grammar.upTo limit).parseCoverage s outer = .ok x := by
  simp only [parseCoverage_eq_ok_iff, Grammar.upTo]
  constructor
  · intro x hx
    obtain _ | limit := limit
    · exact (Grammar.not_readsCoverage_zero hx).elim
    obtain ⟨y, subsets', specs', hy, hsubsets', hspecs', hsome', rfl⟩ :=
      houter.readsCoverage_iff.mp hx
    obtain _ | levels := limit
    · exact (Grammar.not_readsCoverage_zero hy).elim
    obtain ⟨w, subsets, specs, hw, -, hspecs, -, rfl⟩ := hinner.readsCoverage_iff.mp hy
    -- The outer trim selects the same cells of the operand.
    obtain ⟨hselected, -⟩ := (resolveSpecs_trim_iff (houter.closed hclosed hsubsets')
      (resolves_of_resolveSpecs hspecs).2).mp hspecs'
    refine ⟨_, _, Grammar.readsCoverage_of_le hy _ (Nat.le_succ _),
      hdirect.readsCoverage_iff.mpr ⟨w, subsets', specs', Grammar.readsCoverage_of_le hw _
        (Nat.le_succ _), hsubsets', hselected, hsome', rfl⟩, ?_⟩
    rw [← axes_of_mapM_toSubset hsubsets']
    exact composed_of_resolved hspecs hselected
  · intro y z hy hz hroom hleft
    obtain _ | levels := limit
    · exact absurd hroom (Nat.not_lt_zero _)
    obtain ⟨w, subsets, specs, hw, hsubsets, hspecs, hsome, rfl⟩ := hinner.readsCoverage_iff.mp hy
    obtain ⟨w', subsets', specs', hw', hsubsets', hspecs', hsome', rfl⟩ :=
      hdirect.readsCoverage_iff.mp hz
    obtain rfl : w = w' := Attempt.matched.inj (Except.ok.inj (hw.symm.trans hw'))
    rw [← axes_of_mapM_toSubset hsubsets'] at hleft
    have hfits := fits_of_leftBy hspecs' hleft
    have hlower := (Grammar.reads_of_height_le _ _).1 s inner _ hy (levels + 1) levels
      (Nat.le_of_lt_succ hroom)
    exact ⟨_, houter.readsCoverage_iff.mpr ⟨_, subsets', specs', hlower, hsubsets',
      (resolveSpecs_trim_iff (houter.closed hclosed hsubsets')
        (resolves_of_resolveSpecs hspecs).2).mpr ⟨hspecs', hfits⟩, hsome', rfl⟩⟩

-- Trims by cells, with bounds left open, and one by coordinates.
def cellTrims : List Subset :=
  [.trim "x" "10" "*", .trim "y" "*" "7"]

def degreeTrims : List Subset :=
  [(Subset.trim "x" "50" "60").withCrs Sample.wgs84]

-- The coordinates are those of the cells 10 to 12, of all the cells and of those that are left.
theorem trims_compose_degrees :
    ∃ store x y z, Store.ofDefs [Sample.airTemperature "T"] = .ok store ∧
      (∀ g ∈ degreeTrims.map AxisGroup.ofSubset, g.Closed) ∧
      (Grammar.upTo 3).parseCoverage ⟨store, [("c", ["T"])], []⟩
        (layer .trim (layer .trim { name := "coverage", text := "c" } cellTrims) degreeTrims) =
        .ok x ∧
      (Grammar.upTo 3).parseCoverage ⟨store, [("c", ["T"])], []⟩
        (layer .trim { name := "coverage", text := "c" } cellTrims) = .ok y ∧
      (Grammar.upTo 3).parseCoverage ⟨store, [("c", ["T"])], []⟩
        (layer .trim { name := "coverage", text := "c" } degreeTrims) = .ok z ∧
      y.schema.extents = [(10, 19), (0, 7)] ∧ z.schema.extents = [(10, 12), (0, 9)] ∧
      Composed ["x"] y.schema.axes z.schema.axes x.schema.axes := by
  have hread : (do
      let store ← Store.ofDefs [Sample.airTemperature "T"]
      let y ← (Grammar.upTo 3).parseCoverage ⟨store, [("c", ["T"])], []⟩
        (layer .trim { name := "coverage", text := "c" } cellTrims)
      let z ← (Grammar.upTo 3).parseCoverage ⟨store, [("c", ["T"])], []⟩
        (layer .trim { name := "coverage", text := "c" } degreeTrims)
      return (y.height, y.schema.extents, z.schema.extents, z.schema.axisLabels)) =
        .ok (2, [(10, 19), (0, 7)], [(10, 12), (0, 9)], ["x", "y"]) := by decide +kernel
  simp only [bind_eq_ok, pure_eq_ok, Prod.mk.injEq] at hread
  obtain ⟨store, hstore, y, hy, z, hz, hheight, hextents, hextents', hlabels⟩ := hread
  have hclosed : ∀ g ∈ degreeTrims.map AxisGroup.ofSubset, g.Closed := by
    simp [degreeTrims, AxisGroup.ofSubset, AxisGroup.Closed, Subset.trim, Subset.withCrs,
      Subset.bounds, Subset.openBound]
  obtain ⟨hcomposed, haccepted⟩ := trims_compose 3 ⟨store, [("c", ["T"])], []⟩
    { name := "coverage", text := "c" }
    (layer .trim { name := "coverage", text := "c" } cellTrims)
    (layer .trim (layer .trim { name := "coverage", text := "c" } cellTrims) degreeTrims)
    (layer .trim { name := "coverage", text := "c" } degreeTrims)
    (cellTrims.map AxisGroup.ofSubset) (degreeTrims.map AxisGroup.ofSubset)
    ⟨rfl, rfl, rfl⟩ ⟨rfl, rfl, rfl⟩ ⟨rfl, rfl, rfl⟩ hclosed
  obtain ⟨x, hx⟩ := haccepted y z hy hz (by omega) fun i a b ha hb hnamed => by
    have hinner : y.schema.extents[i]? = some (a.cells.lo, a.cells.hi) := by
      simp [Schema.extents, ha]
    have hdirect : z.schema.extents[i]? = some (b.cells.lo, b.cells.hi) := by
      simp [Schema.extents, hb]
    have hlabel : z.schema.axisLabels[i]? = some b.domain.name := by simp [Schema.axisLabels, hb]
    rw [hextents] at hinner
    rw [hextents'] at hdirect
    rw [hlabels] at hlabel
    obtain _ | _ | i := i
    · simp only [List.getElem?_cons_zero, Option.some.injEq, Prod.mk.injEq] at hinner hdirect
      omega
    · obtain hname := Option.some.inj hlabel
      exact absurd (hname ▸ hnamed) (by decide)
    · simp at hlabel
  obtain ⟨y', z', hy', hz', haxes⟩ := hcomposed x hx
  obtain rfl : y = y' := Except.ok.inj (hy.symm.trans hy')
  obtain rfl : z = z' := Except.ok.inj (hz.symm.trans hz')
  exact ⟨store, x, y, z, hstore, hclosed, hx, hy, hz, hextents, hextents', haxes⟩

end Expr

end Datacube
