import Datacube.Proofs.Expr.Layer
import Datacube.Proofs.Response.Narrowed
import Datacube.Sample.Coverages

-- A request and an expression with the same trims and slices select the same cells: the two ways of
-- resolving subsets accept the same ones and leave the same axes.
namespace Datacube.Response

open Datacube.Expr (Grammar Scope layer leave Layerable Reads WholeFor)
open Markup (Element)
open Result

-- The element that refers to the coverages of an iterator.
def referenceTo (iterator : String) : Element :=
  { name := "coverage", text := iterator }

section Expression

variable {s : Scope} {iterator id : String} {c : Coverage} {trims slices : List Subset}

theorem reads_referenceTo (hiterator : s.iterators.lookup (Text.trim iterator) = some [id])
    (hread : s.store.read id = .ok c) :
    Reads s (referenceTo iterator) 1 True (c.axes.map GridAxis.view) := by
  have hnames := Expr.coverageNames_eq_ok_iff.mpr hiterator
  have hparse : Expr.parseReference s (referenceTo iterator) =
      .ok (.reference (Text.trim iterator) (Schema.ofCoverage c)) := by
    simp [Expr.parseReference, referenceTo, Element.trimmedText, hnames, Expr.readSchema, hread,
      Expr.checkSame]
  have hreads : ∀ limit levels x,
      (Grammar.level limit (levels + 1)).ReadsCoverage s (referenceTo iterator) x ↔
        .reference (Text.trim iterator) (Schema.ofCoverage c) = x := by
    intro limit levels x
    have htag : (referenceTo iterator).name = "coverage" := rfl
    simp [Grammar.ReadsCoverage, Grammar.level, Expr.tryCoverage, htag, hparse]
  refine ⟨fun limit levels hlevels => ?_, fun limit levels x hx => ?_⟩
  · obtain ⟨levels, rfl⟩ : ∃ left, levels = left + 1 := ⟨levels - 1, by omega⟩
    simp [hreads]
  · cases levels with
    | zero => exact (Grammar.not_readsCoverage_zero hx).elim
    | succ levels =>
        obtain rfl := (hreads limit levels x).mp hx
        rfl

-- Trims leave all axes.
theorem filterMap_leave_trim (axes : List AxisView) (trims : List Subset) :
    axes.filterMap (leave .trim trims) = axes.map (·.takeAll trims) := by
  have hleave : leave .trim trims = fun a => some (a.takeAll trims) := by
    funext a
    simp [leave]
  rw [hleave, List.filterMap_eq_map']

-- No trim has touched the axes that are sliced next.
theorem wholeFor_slices {axes : List AxisView} (hwhole : ∀ a ∈ axes, a.cells = a.native)
    (hdistinct : ((trims ++ slices).map (·.axis)).Nodup) :
    WholeFor (axes.map (·.takeAll trims)) slices := by
  rw [List.map_append, List.nodup_append] at hdistinct
  intro b hb t ht haxis
  obtain ⟨a, ha, rfl⟩ := List.mem_map.mp hb
  have huntouched : a.takeAll trims = a := by
    refine AxisView.takeAll_of_forall_ne fun u hu hname => ?_
    exact hdistinct.2.2 _ (List.mem_map_of_mem hu) _ (List.mem_map_of_mem ht)
      (hname.trans (by simpa using haxis.symm))
  rw [huntouched]
  exact hwhole a ha

-- Trims and slices on distinct axes are accepted one by one, whichever layer they are in.
theorem reads_layers {axes : List AxisView} {operand : Element} {depth : Nat}
    (hoperand : Reads s operand depth True axes) (hname : operand.name ∉ Expr.subsetParameters)
    (hnames : DistinctNames axes) (hwhole : ∀ a ∈ axes, a.cells = a.native)
    (htrims : Layerable .trim trims) (hslices : Layerable .slice slices)
    (hdistinct : ((trims ++ slices).map (·.axis)).Nodup) :
    Reads s (layer .slice (layer .trim operand trims) slices) (depth + 2)
      (Accepts axes (trims ++ slices))
      ((axes.map (·.takeAll trims)).filterMap (leave .slice slices)) := by
  have hlayer := hoperand.layer hname htrims hnames fun a ha _ _ _ => hwhole a ha
  rw [filterMap_leave_trim] at hlayer
  have hname' : (layer .trim operand trims).name ∉ Expr.subsetParameters := by
    unfold layer
    split
    · exact hname
    · exact (by decide : "trim" ∉ Expr.subsetParameters)
  have hlayers := hlayer.layer hname' hslices (hnames.map_takeAll trims)
    (wholeFor_slices hwhole hdistinct)
  simpa [accepts_map_takeAll, Accepts, or_imp, forall_and] using hlayers

end Expression

section Retained

variable {axes : List AxisView} {subsets trims slices : List Subset} {a : AxisView}

-- Subsets that are accepted on distinct axes are recorded with the cells they select.
theorem cells_takeAll (hdistinct : (subsets.map (·.axis)).Nodup) (hnames : DistinctNames axes)
    (haccepts : Accepts axes subsets) (ha : a ∈ axes) {t : Subset} (ht : t ∈ subsets)
    (haxis : t.axis = a.domain.name) : (a.takeAll subsets).cells.subset = some t := by
  obtain ⟨b, hb, hname, lo, hi, hresolve, -⟩ := haccepts t ht
  obtain rfl : a = b := List.inj_on_of_nodup_map hnames ha hb (haxis.symm.trans hname)
  rw [a.takeAll_of_mem hdistinct ht haxis, AxisView.take_of_resolve haxis hresolve]

-- The axes that are left are those that no slice is on.
theorem isSliced_takeAll (htrims : ∀ t ∈ trims, t.isSlice = false)
    (hslices : ∀ t ∈ slices, t.isSlice = true)
    (hdistinct : ((trims ++ slices).map (·.axis)).Nodup) (hnames : DistinctNames axes)
    (haccepts : Accepts axes (trims ++ slices)) (ha : a ∈ axes) (hsubset : a.cells.subset = none) :
    Context.isSliced (a.takeAll (trims ++ slices)).cells = true ↔
      ∃ t ∈ slices, t.axis = a.domain.name := by
  constructor
  · intro hsliced
    by_cases hnamed : ∃ t ∈ trims ++ slices, t.axis = a.domain.name
    · obtain ⟨t, ht, haxis⟩ := hnamed
      have hcells := cells_takeAll hdistinct hnames haccepts ha ht haxis
      simp only [Context.isSliced, hcells, Option.any_some] at hsliced
      rcases List.mem_append.mp ht with ht | ht
      · simp [htrims t ht] at hsliced
      · exact ⟨t, ht, haxis⟩
    · rw [AxisView.takeAll_of_forall_ne fun t ht haxis => hnamed ⟨t, ht, haxis⟩] at hsliced
      simp [Context.isSliced, hsubset] at hsliced
  · rintro ⟨t, ht, haxis⟩
    have hcells := cells_takeAll hdistinct hnames haccepts ha (List.mem_append_right _ ht) haxis
    simp [Context.isSliced, hcells, hslices t ht]

theorem filter_not_isSliced (htrims : ∀ t ∈ trims, t.isSlice = false)
    (hslices : ∀ t ∈ slices, t.isSlice = true)
    (hdistinct : ((trims ++ slices).map (·.axis)).Nodup) (hnames : DistinctNames axes)
    (haccepts : Accepts axes (trims ++ slices)) (hsubset : ∀ a ∈ axes, a.cells.subset = none) :
    ((axes.map (·.takeAll (trims ++ slices))).filter fun a => !Context.isSliced a.cells) =
      (axes.map (·.takeAll trims)).filterMap (leave .slice slices) := by
  rw [← List.filterMap_eq_filter, List.filterMap_map, List.filterMap_map]
  refine List.filterMap_congr fun a ha => ?_
  have hsliced := isSliced_takeAll htrims hslices hdistinct hnames haccepts ha (hsubset a ha)
  simp only [Function.comp_apply, Option.guard, leave, AxisView.takeAll_domain, true_and,
    ← AxisView.takeAll_append, ← hsliced]
  by_cases h : Context.isSliced (a.takeAll (trims ++ slices)).cells = true <;> simp [h]

end Retained

-- A request is accepted exactly if the expression with its trims and slices in two layers is, and
-- the answer has the axes of the expression.
theorem request_agrees_with_layers (limit : Nat) (s : Scope) (iterator : String) (d : CoverageDef)
    (c : Coverage) (r : GetCoverage) (trims slices : List Subset) (hlimit : 3 ≤ limit)
    (hvalid : Coverage.ofDef d = .ok c) (haligned : c.checkAligned = .ok ())
    (hkind : c.kind ≠ .multiPoint)
    (hiterator : s.iterators.lookup (Text.trim iterator) = some [r.id])
    (hread : s.store.read r.id = .ok c) (htrims : ∀ t ∈ trims, t.isSlice = false)
    (hslices : ∀ t ∈ slices, t.isSlice = true)
    (hdistinct : ((trims ++ slices).map (·.axis)).Nodup)
    (hplain : ∀ t ∈ trims ++ slices, t.Plain) (hsubsets : r.subsets.Perm (trims ++ slices)) :
    ((∃ x, (Grammar.upTo limit).parseCoverage s
          (layer .slice (layer .trim (referenceTo iterator) trims) slices) = .ok x) ↔
        ∃ ctx, Context.make r s.store = .ok ctx) ∧
      ∀ x ctx, (Grammar.upTo limit).parseCoverage s
          (layer .slice (layer .trim (referenceTo iterator) trims) slices) = .ok x →
        Context.make r s.store = .ok ctx → x.schema.axes = ctx.retained := by
  obtain ⟨hnames, haxes⟩ := Coverage.names_of_ofDef hvalid
  have hdistinct' := hdistinct
  rw [List.map_append, List.nodup_append] at hdistinct'
  obtain ⟨hnodupTrims, hnodupSlices, -⟩ := hdistinct'
  have hlayers := reads_layers (reads_referenceTo hiterator hread)
    (by decide : "coverage" ∉ Expr.subsetParameters) hnames (fun a ha => (haxes a ha).1)
    ⟨by decide, htrims, fun t ht => hplain t (List.mem_append_left _ ht), hnodupTrims⟩
    ⟨by decide, hslices, fun t ht => hplain t (List.mem_append_right _ ht), hnodupSlices⟩ hdistinct
  have hmake := fun ctx => @Context.make_eq_ok_iff c r s.store ctx hread haligned hkind hnames
  have haccepts : Accepts (c.axes.map GridAxis.view) r.subsets ↔
      Accepts (c.axes.map GridAxis.view) (trims ++ slices) := by
    simp only [Accepts, hsubsets.mem_iff]
  simp only [Expr.parseCoverage_eq_ok_iff, Grammar.upTo, hmake]
  refine ⟨?_, ?_⟩
  · rw [hlayers.accepted_iff limit limit hlimit, ← haccepts]
    simp
  · rintro x _ hx ⟨haccepted, rfl⟩
    have htaken : (fun a : AxisView => a.takeAll r.subsets) = (·.takeAll (trims ++ slices)) := by
      funext a
      exact (a.takeAll_perm hdistinct hsubsets.symm).symm
    rw [hlayers.axes_eq limit limit x hx, Context.retained, htaken,
      filter_not_isSliced htrims hslices hdistinct hnames (haccepts.mp haccepted)
        fun a ha => (haxes a ha).2]

-- The second half of one axis at a single cell of the other, and the same in a request that names
-- the slice first.
theorem request_agrees_with_slicedTrim :
    ∃ store c x ctx, Store.ofDefs [Sample.airTemperature "T"] = .ok store ∧
      Coverage.ofDef (Sample.airTemperature "T") = .ok c ∧ store.read "T" = .ok c ∧
      (Grammar.upTo 3).parseCoverage ⟨store, [("c", ["T"])], []⟩
        (layer .slice (layer .trim (referenceTo "c") [.trim "x" "10" "*"]) [.slice "y" "4"]) =
        .ok x ∧
      Context.make { id := "T", subsets := [.slice "y" "4", .trim "x" "10" "*"] } store = .ok ctx ∧
      x.schema.axes = ctx.retained ∧
      ctx.retained.map (fun a => (a.domain.name, a.cells.lo, a.cells.hi)) = [("x", 10, 19)] := by
  obtain ⟨store, c, x, hstore, hc, hread, haligned, hkind, hx, hcells⟩ : ∃ store c x,
      Store.ofDefs [Sample.airTemperature "T"] = .ok store ∧
      Coverage.ofDef (Sample.airTemperature "T") = .ok c ∧ store.read "T" = .ok c ∧
      c.checkAligned = .ok () ∧ c.kind ≠ .multiPoint ∧
      (Grammar.upTo 3).parseCoverage ⟨store, [("c", ["T"])], []⟩
        (layer .slice (layer .trim (referenceTo "c") [.trim "x" "10" "*"]) [.slice "y" "4"]) =
        .ok x ∧
      x.schema.axes.map (fun a => (a.domain.name, a.cells.lo, a.cells.hi)) = [("x", 10, 19)] :=
    ⟨_, _, _, rfl, rfl, rfl, rfl, by decide, rfl, rfl⟩
  have hplain : ∀ t ∈ [Subset.trim "x" "10" "*"] ++ [Subset.slice "y" "4"], t.Plain := by
    intro t ht
    have ht : t = .trim "x" "10" "*" ∨ t = .slice "y" "4" := by simpa using ht
    rcases ht with rfl | rfl <;>
      exact ⟨by decide +kernel, by decide +kernel, by decide +kernel, fun _ h => nomatch h⟩
  have hiterator : List.lookup (Text.trim "c") [("c", ["T"])] = some ["T"] := by decide +kernel
  obtain ⟨haccepted, haxes⟩ := request_agrees_with_layers 3 ⟨store, [("c", ["T"])], []⟩ "c"
    (Sample.airTemperature "T") c { id := "T", subsets := [.slice "y" "4", .trim "x" "10" "*"] }
    [.trim "x" "10" "*"] [.slice "y" "4"] (by decide) hc haligned hkind hiterator hread
    (by decide) (by decide) (by decide) hplain (List.Perm.swap _ _ [])
  obtain ⟨ctx, hctx⟩ := haccepted.mp ⟨x, hx⟩
  have hretained := haxes x ctx hx hctx
  exact ⟨store, c, x, ctx, hstore, hc, hread, hx, hctx, hretained, hretained ▸ hcells⟩

end Datacube.Response
