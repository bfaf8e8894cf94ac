import Datacube.Proofs.Axis.Selection
import Datacube.Proofs.Expr.Nesting

-- An extension gives its axes the cells that are asked for. They are cells around those of the
-- operand only if no bound lies inside.
namespace Datacube

open Markup (Element)
open Result

-- The cell that a bound stands for: the current bound if it is open, else the cell it counts or, in
-- a reference system of the axis, the cell of its coordinate.
inductive AxisView.Bound (a : AxisView) (t : Subset) (text : String) (current : Int) :
    Int → Prop where
  | unbounded (hopen : text = Subset.openBound) : Bound a t text current current
  | cell {n : Int} (hgiven : text ≠ Subset.openBound) (hgrid : Axis.inGrid t = true)
      (hn : Number.parseBig text = some n) : Bound a t text current n
  | coordinate {crs : String} {x : Float} {n : Int} (hgiven : text ≠ Subset.openBound)
      (hcrs : t.crs = some crs) (hexternal : Crs.isGrid crs = false)
      (hknown : crs ∈ a.domain.crsSet) (hx : Number.parseFloat text = some x)
      (hn : a.domain.cellIndex x a.native = .ok n) : Bound a t text current n

-- Neither bound of a subset lies inside the cells of its axis.
def Subset.Covers (t : Subset) (a : AxisView) : Prop :=
  (∀ n, a.Bound t t.bounds.1 a.cells.lo n → n ≤ a.cells.lo) ∧
    ∀ n, a.Bound t t.bounds.2 a.cells.hi n → a.cells.hi ≤ n

-- Every axis has at least the cells that it has in another schema.
def Schema.Contains (after before : Schema) : Prop :=
  ∀ (i : Nat) (a b : AxisView), before.axes[i]? = some a → after.axes[i]? = some b →
    b.cells.lo ≤ a.cells.lo ∧ a.cells.hi ≤ b.cells.hi

theorem Schema.contains_iff_extents (after before : Schema) :
    after.Contains before ↔
      ∀ p ∈ before.extents.zip after.extents, p.2.1 ≤ p.1.1 ∧ p.1.2 ≤ p.2.2 := by
  simp only [Schema.Contains, Schema.extents, List.mem_iff_getElem?, List.zip_map,
    List.getElem?_map, List.getElem?_zip_eq_some, Option.map_eq_some_iff]
  constructor
  · rintro h _ ⟨i, ⟨a, b⟩, ⟨ha, hb⟩, rfl⟩
    exact h i a b ha hb
  · intro h i a b ha hb
    exact h _ ⟨i, (a, b), ⟨ha, hb⟩, rfl⟩

section Bounds

variable {a : AxisView} {t : Subset} {text : String} {current m n lo hi : Int}

theorem AxisView.Bound.unique (hm : a.Bound t text current m) (hn : a.Bound t text current n) :
    m = n := by
  cases hm with
  | unbounded hopen =>
      cases hn with
      | unbounded _ => rfl
      | cell hgiven => exact absurd hopen hgiven
      | coordinate hgiven => exact absurd hopen hgiven
  | cell hgiven hgrid hm =>
      cases hn with
      | unbounded hopen => exact absurd hopen hgiven
      | cell _ _ hn => exact Option.some.inj (hm.symm.trans hn)
      | coordinate _ hcrs hexternal => simp [Axis.inGrid, hcrs, hexternal] at hgrid
  | coordinate hgiven hcrs hexternal _ hx hm =>
      cases hn with
      | unbounded hopen => exact absurd hopen hgiven
      | cell _ hgrid => simp [Axis.inGrid, hcrs, hexternal] at hgrid
      | coordinate _ _ _ _ hx' hn =>
          obtain rfl := Option.some.inj (hx.symm.trans hx')
          exact Except.ok.inj (hm.symm.trans hn)

theorem AxisView.bound_of_cellBound (htrim : Text.trim text = text) (hgrid : Axis.inGrid t = true)
    (h : Axis.cellBound a.domain.name text current = .ok n) : a.Bound t text current n := by
  unfold Axis.cellBound at h
  rw [htrim] at h
  split at h
  · next hopen =>
    obtain rfl := Except.ok.inj h
    exact .unbounded hopen
  · next hgiven =>
    split at h
    · next n hn =>
      obtain rfl := Except.ok.inj h
      exact .cell hgiven hgrid hn
    · cases h

theorem AxisView.bound_of_coordinateBound {crs : String} (htrim : Text.trim text = text)
    (hcrs : t.crs = some crs) (hexternal : Crs.isGrid crs = false) (hknown : crs ∈ a.domain.crsSet)
    (h : a.domain.coordinateBound text a.native current = .ok n) : a.Bound t text current n := by
  obtain ⟨hopen, rfl⟩ | ⟨hgiven, x, hx, hn⟩ := Axis.coordinateBound_eq_ok_iff.mp h
  · exact .unbounded hopen
  · rw [htrim] at hx
    exact .coordinate hgiven hcrs hexternal hknown hx hn

theorem AxisView.bounds_of_resolveOn (hlow : Text.trim t.bounds.1 = t.bounds.1)
    (hhigh : Text.trim t.bounds.2 = t.bounds.2)
    (h : a.domain.resolveOn t a.native a.cells = .ok (lo, hi)) :
    a.Bound t t.bounds.1 a.cells.lo lo ∧ a.Bound t t.bounds.2 a.cells.hi hi := by
  cases hgrid : Axis.inGrid t with
  | true =>
      simp only [Axis.resolveOn, hgrid, if_true, bind_eq_ok, pure_eq_ok, Prod.mk.injEq] at h
      obtain ⟨_, hlo, _, hhi, rfl, rfl⟩ := h
      exact ⟨bound_of_cellBound hlow hgrid hlo, bound_of_cellBound hhigh hgrid hhi⟩
  | false =>
      obtain ⟨hknown, hlo, hhi⟩ := (Axis.resolveOn_eq_ok_iff hgrid).mp h
      obtain ⟨crs, hcrs, hexternal⟩ : ∃ crs, t.crs = some crs ∧ Crs.isGrid crs = false := by
        simpa [Axis.inGrid, Option.all_eq_false] using hgrid
      rw [hcrs, Option.getD_some] at hknown
      exact ⟨bound_of_coordinateBound hlow hcrs hexternal hknown hlo,
        bound_of_coordinateBound hhigh hcrs hexternal hknown hhi⟩

end Bounds

namespace Expr

-- What subsets make of a schema. Names are looked up, so of several axes of one name the first
-- counts.
structure Extends (subsets : List Subset) (before after : Schema) : Prop where
  length : after.axes.length = before.axes.length
  named : ∀ t ∈ subsets, ∃ i a lo hi, before.requireAxis t.axis = .ok (i, a) ∧
    a.Bound t t.bounds.1 a.cells.lo lo ∧ a.Bound t t.bounds.2 a.cells.hi hi ∧ lo ≤ hi ∧
    after.axes[i]? = some { a with cells := ⟨lo, hi, some t⟩ }
  unnamed : ∀ (i : Nat) (a : AxisView), before.axes[i]? = some a →
    (∀ t ∈ subsets, before.axisIndex? t.axis ≠ some i) → after.axes[i]? = some a

section Extending

variable {operand before after : Schema} {subsets : List Subset} {specs : List SubsetSpec}
  {e : Element}

theorem subsetSchema_extend (operand : Schema) (specs : List SubsetSpec) :
    subsetSchema .extend operand specs = subsetSchema .trim operand specs := rfl

theorem trimmed_of_axisSubsets (h : axisSubsets e .extend = .ok subsets) :
    ∀ t ∈ subsets, Text.trim t.bounds.1 = t.bounds.1 ∧ Text.trim t.bounds.2 = t.bounds.2 := by
  intro t ht
  simp only [axisSubsets, bind_eq_ok, mapM_eq_ok_iff] at h
  obtain ⟨groups, hgroups, hsubsets⟩ := h
  obtain ⟨g, hg, hgt⟩ := exists_mem_of_forall₂ hsubsets t ht
  have htrimmed := trimmed_of_axisGroups (by simp) hgroups g hg
  have hsame : g.toSubset .trim = .ok t := hgt
  obtain ⟨-, hlow, hhigh⟩ := toSubset_trim_eq_ok hsame
  exact ⟨htrimmed _ (.inl hlow), htrimmed _ (.inr hhigh)⟩

theorem extends_of_resolveSpecs
    (htrimmed : ∀ t ∈ subsets,
      Text.trim t.bounds.1 = t.bounds.1 ∧ Text.trim t.bounds.2 = t.bounds.2)
    (h : resolveSpecs .extend operand [] subsets = .ok specs) :
    Extends subsets operand (subsetSchema .extend operand specs) := by
  obtain ⟨hplaces, hresolved⟩ := resolveSpecs_iff_alone.mp h
  rw [subsetSchema_extend]
  constructor
  case length => simp [subsetSchema_trim_axes]
  case named =>
    intro t ht
    obtain ⟨spec, hspec, hresolve⟩ := exists_mem_of_forall₂ hresolved.flip t ht
    obtain ⟨i, a, lo, hi, haxis, -, hbounds, hle, -, rfl⟩ := resolveSpec_eq_ok_iff.mp hresolve
    obtain ⟨hlo, hhi⟩ := AxisView.bounds_of_resolveOn (htrimmed t ht).1 (htrimmed t ht).2 hbounds
    refine ⟨i, a, lo, hi, haxis, hlo, hhi, hle, ?_⟩
    rw [getElem?_trim, (Schema.requireAxis_iff_axisIndex?.mp haxis).2, Option.map_some]
    exact congrArg some (trimmedAxis_of_mem hplaces hspec a)
  case unnamed =>
    intro i a ha hunnamed
    have hout : ∀ spec ∈ specs, spec.axis ≠ i := by
      rintro spec hspec rfl
      obtain ⟨t, ht, hresolve⟩ := exists_mem_of_forall₂ hresolved spec hspec
      exact hunnamed t ht (axisIndex?_of_resolveSpec hresolve)
    rw [getElem?_trim, ha, Option.map_some, trimmedAxis_of_forall_ne hout]

-- Only the axes that are named can lose cells, each at the bounds it is given.
theorem Extends.contains_iff (h : Extends subsets before after) :
    after.Contains before ↔
      ∀ t ∈ subsets, ∀ i a, before.requireAxis t.axis = .ok (i, a) → t.Covers a := by
  constructor
  · intro hcontains t ht i a haxis
    obtain ⟨i', a', lo, hi, haxis', hlo, hhi, -, hafter⟩ := h.named t ht
    obtain ⟨rfl, rfl⟩ := Prod.mk.inj (Except.ok.inj (haxis.symm.trans haxis'))
    obtain ⟨hle, hge⟩ :=
      hcontains i a _ (Schema.requireAxis_iff_axisIndex?.mp haxis).2 hafter
    exact ⟨fun n hn => hn.unique hlo ▸ hle, fun n hn => hn.unique hhi ▸ hge⟩
  · intro hcovers i a b ha hb
    by_cases hnamed : ∃ t ∈ subsets, before.axisIndex? t.axis = some i
    · obtain ⟨t, ht, hindex⟩ := hnamed
      obtain ⟨i', a', lo, hi, haxis, hlo, hhi, -, hafter⟩ := h.named t ht
      obtain ⟨hindex', ha'⟩ := Schema.requireAxis_iff_axisIndex?.mp haxis
      obtain rfl := Option.some.inj (hindex.symm.trans hindex')
      obtain rfl := Option.some.inj (ha.symm.trans ha')
      obtain rfl := Option.some.inj (hb.symm.trans hafter)
      obtain ⟨hcoversLo, hcoversHi⟩ := hcovers t ht i a haxis
      exact ⟨hcoversLo lo hlo, hcoversHi hi hhi⟩
    · have hafter := h.unnamed i a ha fun t ht hindex => hnamed ⟨t, ht, hindex⟩
      obtain rfl := Option.some.inj (hb.symm.trans hafter)
      exact ⟨le_rfl, le_rfl⟩

end Extending

-- An extension keeps the axes that it does not name and gives the others the cells of their bounds.
-- It contains its operand exactly if none of these bounds lies inside.
theorem extend_contains_iff (limit levels : Nat) (s : Scope) (e : Element) (x : CoverageExpr)
    (htag : e.name = SubsetOp.extend.tag)
    (hx : (Grammar.level limit levels).parseCoverage s e = .ok x) :
    ∃ c y subsets, e.childBeside? subsetParameters = some c ∧
      (Grammar.level limit levels).parseCoverage s c = .ok y ∧
      axisSubsets e .extend = .ok subsets ∧ Extends subsets y.schema x.schema ∧
      (x.schema.Contains y.schema ↔
        ∀ t ∈ subsets, ∀ i a, y.schema.requireAxis t.axis = .ok (i, a) → t.Covers a) := by
  rw [parseCoverage_eq_ok_iff] at hx
  obtain _ | levels := levels
  · exact (Grammar.not_readsCoverage_zero hx).elim
  obtain ⟨c, y, subsets, specs, hc, hy, hsubsets, hspecs, -, rfl⟩ :=
    (readsCoverage_subset_iff htag).mp hx
  have hextends := extends_of_resolveSpecs (trimmed_of_axisSubsets hsubsets) hspecs
  have hoperand := Grammar.readsCoverage_of_le hy limit (Nat.le_succ levels)
  exact ⟨c, y, subsets, hc, parseCoverage_eq_ok_iff.mpr hoperand, hsubsets, hextends,
    hextends.contains_iff⟩

-- The second half of an axis, and cells around it: by coordinates along this axis, by their numbers
-- along the other.
def secondHalf : Element :=
  layer .trim { name := "coverage", text := "c" } [.trim "x" "10" "*"]

def outwards : List Subset :=
  [(Subset.trim "x" "25" "100").withCrs Sample.wgs84, .trim "y" "-3" "*"]

-- The coordinates are those of the cells 5 to 19.
theorem extend_contains_outwards :
    ∃ store x y, Store.ofDefs [Sample.airTemperature "T"] = .ok store ∧
      (Grammar.upTo 3).parseCoverage ⟨store, [("c", ["T"])], []⟩ secondHalf = .ok y ∧
      (Grammar.upTo 3).parseCoverage ⟨store, [("c", ["T"])], []⟩
        (layer .extend secondHalf outwards) = .ok x ∧
      y.schema.extents = [(10, 19), (0, 9)] ∧ x.schema.extents = [(5, 19), (-3, 9)] ∧
      Extends outwards y.schema x.schema ∧ x.schema.Contains y.schema ∧
      ∀ t ∈ outwards, ∀ i a, y.schema.requireAxis t.axis = .ok (i, a) → t.Covers a := by
  have hread : (do
      let store ← Store.ofDefs [Sample.airTemperature "T"]
      let y ← (Grammar.upTo 3).parseCoverage ⟨store, [("c", ["T"])], []⟩ secondHalf
      let x ← (Grammar.upTo 3).parseCoverage ⟨store, [("c", ["T"])], []⟩
        (layer .extend secondHalf outwards)
      return (y.schema.extents, x.schema.extents)) =
        .ok ([(10, 19), (0, 9)], [(5, 19), (-3, 9)]) := by decide +kernel
  simp only [bind_eq_ok, pure_eq_ok, Prod.mk.injEq] at hread
  obtain ⟨store, hstore, y, hy, x, hx, hextents, hextents'⟩ := hread
  obtain ⟨c, y', subsets, hc, hy', hsubsets, hextends, hiff⟩ :=
    extend_contains_iff 3 3 _ (layer .extend secondHalf outwards) x rfl hx
  obtain rfl : secondHalf = c := Option.some.inj hc
  obtain rfl : y = y' := Except.ok.inj (hy.symm.trans hy')
  obtain rfl : outwards = subsets := Except.ok.inj hsubsets
  have hcontains : x.schema.Contains y.schema := by
    rw [Schema.contains_iff_extents, hextents, hextents']
    decide
  exact ⟨store, x, y, hstore, hy, hx, hextents, hextents', hextends, hcontains, hiff.mp hcontains⟩

-- An extension to cells inside the axis is read, and takes the others away.
theorem extend_cuts :
    ∃ store x y, Store.ofDefs [Sample.airTemperature "T"] = .ok store ∧
      (Grammar.upTo 3).parseCoverage ⟨store, [("c", ["T"])], []⟩
        { name := "coverage", text := "c" } = .ok y ∧
      (Grammar.upTo 3).parseCoverage ⟨store, [("c", ["T"])], []⟩
        (layer .extend { name := "coverage", text := "c" } [.trim "x" "2" "3"]) = .ok x ∧
      y.schema.extents = [(0, 19), (0, 9)] ∧ x.schema.extents = [(2, 3), (0, 9)] ∧
      ¬x.schema.Contains y.schema := by
  refine ⟨_, _, _, rfl, rfl, rfl, rfl, rfl, ?_⟩
  rw [Schema.contains_iff_extents]
  decide +kernel

end Expr

end Datacube
