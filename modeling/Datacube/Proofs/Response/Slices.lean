import Datacube.Proofs.Axis.Selection
import Datacube.Proofs.Expr.Production
import Datacube.Proofs.Response.Kinds

-- A slice at a point leaves a single cell of its axis, wherever it is applied. At an open point it
-- leaves the cells there are, and still only the first of them is asked for.
namespace Datacube

open Result

namespace Number

-- No number has a star in it.
section Star

variable {cs : List Char}

theorem star_mem_takeSign (h : '*' ∈ cs) : '*' ∈ (takeSign cs).2 := by
  unfold takeSign
  split <;> simp_all

theorem star_mem_dropWhile (h : '*' ∈ cs) : '*' ∈ cs.dropWhile isDigit := by
  rw [← List.takeWhile_append_dropWhile (p := isDigit) (l := cs), List.mem_append] at h
  rcases h with h | h
  · exact absurd (List.mem_takeWhile_imp h) (by decide)
  · exact h

theorem parsePower_of_star (h : '*' ∈ cs) : parsePower cs = none := by
  unfold parsePower
  split
  · cases h
  · next c cs =>
    split
    · next hmark =>
      have hmem : '*' ∈ cs := by
        rcases List.mem_cons.mp h with rfl | hmem
        · simp at hmark
        · exact hmem
      have hdigits : (takeSign cs).2.all isDigit = false :=
        List.all_eq_false.mpr ⟨'*', star_mem_takeSign hmem, by decide⟩
      simp [parseDigits, hdigits]
    · rfl

theorem parseNumeral_of_star (h : '*' ∈ cs) : parseNumeral cs = none := by
  have hrest := star_mem_dropWhile h
  unfold parseNumeral
  simp only
  split
  · next rest hpoint =>
    have hmem : '*' ∈ rest := by simpa [hpoint] using hrest
    simp [parsePower_of_star (star_mem_dropWhile hmem)]
  · simp [parsePower_of_star hrest]

theorem parseFloat_of_star {s : String} (h : '*' ∈ s.toList) : parseFloat s = none := by
  have hbody := star_mem_takeSign h
  -- The words for the infinity and not a number have no star in them either.
  have hword : ∀ word : String, '*' ∉ word.toList →
      Text.lowerAscii (String.ofList (takeSign s.toList).2) ≠ word := by
    rintro word hstar rfl
    refine hstar ?_
    rw [Text.lowerAscii, String.toList_ofList, String.toList_ofList]
    exact List.mem_map.mpr ⟨'*', hbody, by decide⟩
  simp only [parseFloat, hword "inf" (by decide), hword "infinity" (by decide),
    hword "nan" (by decide), or_self, if_false, parseNumeral_of_star hbody, Option.map_none]

end Star

end Number

-- A point that keeps what there is, once blanks and then double quotes around it are dropped.
def Subset.OpenPoint (point : String) : Prop :=
  String.ofList (Text.stripEnds (· = '"') (Text.trim point).toList) = openBound

instance : DecidablePred Subset.OpenPoint := fun _ =>
  inferInstanceAs (Decidable (String.ofList _ = Subset.openBound))

open Subset (OpenPoint)

-- The bounds that a slice at a point makes of cells: those of a single one, unless the point is
-- open. Nothing changes then.
structure CellExtent.SlicedAt (cells : CellExtent) (point : String) (lo hi : Int) : Prop where
  single : ¬OpenPoint point → lo = hi
  whole : OpenPoint point → lo = cells.lo ∧ hi = cells.hi

section Points

variable {axis point : String} {a : Axis} {t : Subset} {native cells out : CellExtent} {lo hi : Int}

theorem CellExtent.slicedAt_of_parseBound (hlo : parseBound axis point cells.lo = .ok lo)
    (hhi : parseBound axis point cells.hi = .ok hi) : cells.SlicedAt point lo hi := by
  rw [parseBound_eq_ok_iff, Number.bound?] at hlo hhi
  constructor
  · intro hpoint
    rw [OpenPoint] at hpoint
    rw [if_neg hpoint] at hlo hhi
    exact Option.some.inj (hlo.symm.trans hhi)
  · intro hopen
    rw [OpenPoint] at hopen
    rw [if_pos hopen] at hlo hhi
    exact ⟨(Option.some.inj hlo).symm, (Option.some.inj hhi).symm⟩

theorem CellExtent.slicedAt_of_applySubset (hslice : t.selection = .slice point)
    (h : cells.applySubset t = .ok out) :
    cells.SlicedAt point out.lo out.hi ∧ out.subset = some t := by
  obtain ⟨lo, hi, hlo, hhi, -, rfl⟩ := applySubset_eq_ok_iff.mp h
  simp only [Subset.bounds, hslice] at hlo hhi
  exact ⟨slicedAt_of_parseBound hlo hhi, rfl⟩

theorem Subset.not_openPoint_of_parseFloat {x : Float}
    (h : Number.parseFloat (Text.trim point) = some x) : ¬OpenPoint point := by
  intro hopen
  have hbare : '*' ∈ Text.stripEnds (· = '"') (Text.trim point).toList := by
    rw [← String.toList_ofList (l := Text.stripEnds _ _), hopen]
    decide
  simp [Number.parseFloat_of_star (Text.mem_of_mem_stripEnds hbare)] at h

-- Here only the bare star is open, and any other open point is refused: it is not a number.
theorem Axis.slicedAt_of_coordinateBound (hlo : a.coordinateBound point native cells.lo = .ok lo)
    (hhi : a.coordinateBound point native cells.hi = .ok hi) : cells.SlicedAt point lo hi := by
  obtain ⟨hbare, rfl⟩ | ⟨hgiven, x, hx, hlo⟩ := coordinateBound_eq_ok_iff.mp hlo
  · obtain ⟨-, rfl⟩ | ⟨hgiven, -⟩ := coordinateBound_eq_ok_iff.mp hhi
    · have hopen : OpenPoint point := by rw [hbare]; decide
      exact ⟨fun hpoint => absurd hopen hpoint, fun _ => ⟨rfl, rfl⟩⟩
    · exact absurd hbare hgiven
  · obtain ⟨hbare, -⟩ | ⟨-, x', hx', hhi⟩ := coordinateBound_eq_ok_iff.mp hhi
    · exact absurd hbare hgiven
    · obtain rfl := Option.some.inj (hx.symm.trans hx')
      obtain rfl := Except.ok.inj (hlo.symm.trans hhi)
      exact ⟨fun _ => rfl, fun hopen => absurd hopen (Subset.not_openPoint_of_parseFloat hx)⟩

theorem Axis.slicedAt_of_resolveOn (hslice : t.selection = .slice point)
    (h : a.resolveOn t native cells = .ok (lo, hi)) : cells.SlicedAt point lo hi := by
  simp only [resolveOn, Subset.bounds, hslice] at h
  split at h
  · simp only [bind_eq_ok, pure_eq_ok, Prod.mk.injEq, cellBound_iff_parseBound t.axis] at h
    obtain ⟨lo, ⟨hlo, -⟩, hi, ⟨hhi, -⟩, rfl, rfl⟩ := h
    exact CellExtent.slicedAt_of_parseBound hlo hhi
  · split at h
    · simp only [bind_eq_ok, pure_eq_ok, Prod.mk.injEq] at h
      obtain ⟨lo, hlo, hi, hhi, rfl, rfl⟩ := h
      exact slicedAt_of_coordinateBound hlo hhi
    · cases h

end Points

namespace Expr

section Specs

variable {e : Markup.Element} {subsets : List Subset} {specs : List SubsetSpec} {spec : SubsetSpec}

theorem selection_of_axisSubsets (h : axisSubsets e .slice = .ok subsets) :
    ∀ t ∈ subsets, ∃ point, t.selection = .slice point := by
  simp only [axisSubsets, bind_eq_ok, mapM_eq_ok_iff] at h
  obtain ⟨groups, -, hgroups⟩ := h
  intro t ht
  obtain ⟨g, -, hg⟩ := exists_mem_of_forall₂ hgroups t ht
  simp only [AxisGroup.toSubset, bind_eq_ok, pure_eq_ok] at hg
  obtain ⟨point, -, _, rfl, hcrs⟩ := hg
  refine ⟨point, ?_⟩
  split at hcrs
  · obtain rfl := pure_eq_ok.mp hcrs
    split <;> rfl
  · obtain rfl := pure_eq_ok.mp hcrs
    rfl

-- No other subset is in the same place.
theorem subsetIndex_of_mem (hplaces : (specs.map (·.axis)).Nodup) (hspec : spec ∈ specs) :
    subsetIndex specs true spec.axis = .point spec.lo := by
  rw [subsetIndex, (find?_place_eq_some_iff hplaces).mpr ⟨hspec, rfl⟩]
  rfl

-- The places of the slices in the subscript are those of their axes in the operand.
theorem slicedAt_of_trySubset {g : Grammar} {s : Scope} {x : CoverageExpr} {schema : Schema}
    (h : trySubset g s e = .ok (.matched (.subset .slice x specs schema))) :
    ∃ indices, (CoverageExpr.subset .slice x specs schema).term = .subscript x.term indices ∧
      ∀ spec ∈ specs, ∃ a point, x.schema.axes[spec.axis]? = some a ∧
        spec.subset.selection = .slice point ∧ a.cells.SlicedAt point spec.lo spec.hi ∧
        indices[spec.axis]? = some (.point spec.lo) := by
  cases form_of_trySubset h with
  | subset _ _ hsubsets hspecs _ =>
      obtain ⟨hplaces, hresolves⟩ := resolves_of_resolveSpecs hspecs
      refine ⟨_, by rw [CoverageExpr.term], fun spec hspec => ?_⟩
      obtain ⟨t, ht, a, hresolve⟩ := exists_mem_of_forall₂ hresolves spec hspec
      obtain ⟨point, hslice⟩ := selection_of_axisSubsets hsubsets t ht
      have hplace : spec.axis < x.schema.dimension :=
        (List.getElem?_eq_some_iff.mp hresolve.place).1
      refine ⟨a, point, hresolve.place, hresolve.subset ▸ hslice,
        Axis.slicedAt_of_resolveOn hslice hresolve.resolve, ?_⟩
      rw [List.getElem?_map, List.getElem?_range hplace, Option.map_some,
        subsetIndex_of_mem hplaces hspec]

end Specs

end Expr

namespace Response.Context

section Slices

variable {t : Subset} {point : String}

-- The cells that an open bound keeps: what earlier subsets left of the axis if the coverage is one
-- of points, and all of the axis otherwise.
def openCells (kind : CoverageKind) (a : AxisView) : CellExtent :=
  if kind = .multiPoint then a.cells else a.native

theorem slicedAt_of_narrowAxis {kind : CoverageKind} {a b : AxisView}
    (hslice : t.selection = .slice point) (h : narrowAxis kind a t = .ok b) :
    (openCells kind a).SlicedAt point b.cells.lo b.cells.hi := by
  unfold openCells
  unfold narrowAxis at h
  split at h
  · next hkind =>
    simp only [bind_eq_ok, pure_eq_ok] at h
    obtain ⟨cells, hcells, rfl⟩ := h
    rw [if_pos hkind]
    exact (CellExtent.slicedAt_of_applySubset hslice hcells).1
  · next hkind =>
    simp only [bind_eq_ok, pure_eq_ok, Prod.exists] at h
    obtain ⟨lo, hi, hresolve, ⟨⟩, -, rfl⟩ := h
    rw [if_neg hkind]
    exact Axis.slicedAt_of_resolveOn hslice hresolve

-- Of an axis that is sliced, the first cell is asked for.
theorem indexText_of_slice {cells : CellExtent} (hsubset : cells.subset = some t)
    (hslice : t.selection = .slice point) : indexText cells = Number.intText cells.lo := by
  simp [indexText, isSliced, hsubset, Subset.isSlice, hslice]

-- The last of the subsets on an axis makes its cells out of those that earlier ones left.
theorem exists_narrowAxis_of_make {r : GetCoverage} {store : Store} {ctx : Context}
    {earlier later : List Subset} (h : make r store = .ok ctx)
    (hsplit : r.subsets = earlier ++ t :: later) (hlast : ∀ u ∈ later, u.axis ≠ t.axis) :
    ∃ before a b, make { r with subsets := earlier } store = .ok before ∧ a ∈ before.axes ∧
      b ∈ ctx.axes ∧ a.domain.name = t.axis ∧ narrowAxis ctx.kind a t = .ok b := by
  simp only [make, hsplit, List.foldlM_append, List.foldlM_cons, bind_eq_ok, pure_eq_ok] at h ⊢
  obtain ⟨c, hread, ⟨⟩, haligned, axes, ⟨views, hviews, more, hmore, hrest⟩, rfl⟩ := h
  obtain ⟨i, a, b, ha, hname, hb, rfl⟩ := narrow_eq_ok hmore
  have hmem : b ∈ views.set i b := List.mem_set (List.getElem?_eq_some_iff.mp ha).1 b
  refine ⟨_, a, b, ⟨c, hread, (), haligned, views, hviews, rfl⟩, List.mem_of_getElem? ha,
    mem_of_foldlM_narrow hmem (fun u hu haxis => ?_) hrest, hname, hb⟩
  rw [(narrowAxis_eq_ok hb).1, hname] at haxis
  exact hlast u hu haxis

end Slices

end Response.Context

namespace Response

open Datacube.Expr (CoverageExpr Grammar Scope SubsetSpec trySubset)

-- Wherever a slice is accepted, at a point that is not open a single cell of the axis is left and
-- that one is asked for. At an open point the axis has the cells it had, of which the first is
-- asked for.
theorem slices_leave_single (t : Subset) (point : String) (hslice : t.selection = .slice point) :
    (∀ cells out : CellExtent, cells.applySubset t = .ok out →
      cells.SlicedAt point out.lo out.hi ∧ Context.indexText out = Number.intText out.lo) ∧
    (∀ (g : Grammar) (s : Scope) (e : Markup.Element) (x : CoverageExpr) (specs : List SubsetSpec)
      (schema : Schema), trySubset g s e = .ok (.matched (.subset .slice x specs schema)) →
      ∃ indices, (CoverageExpr.subset .slice x specs schema).term = .subscript x.term indices ∧
        ∀ spec ∈ specs, spec.subset.isSlice = true ∧
          (spec.subset = t → ∃ a, x.schema.axes[spec.axis]? = some a ∧
            a.cells.SlicedAt point spec.lo spec.hi ∧
            indices[spec.axis]? = some (.point spec.lo))) ∧
    (∀ (store : Store) (r : GetCoverage) (ctx : Context) (earlier later : List Subset),
      Context.make r store = .ok ctx → r.subsets = earlier ++ t :: later →
      (∀ u ∈ later, u.axis ≠ t.axis) →
      ∃ before a b, Context.make { r with subsets := earlier } store = .ok before ∧
        a ∈ before.axes ∧ b ∈ ctx.axes ∧ a.domain.name = t.axis ∧ b.domain = a.domain ∧
        b.cells.subset = some t ∧
        (Context.openCells ctx.kind a).SlicedAt point b.cells.lo b.cells.hi ∧
        Context.indexText b.cells = Number.intText b.cells.lo) := by
  refine ⟨?_, ?_, ?_⟩
  · intro cells out h
    obtain ⟨hsliced, hsubset⟩ := CellExtent.slicedAt_of_applySubset hslice h
    exact ⟨hsliced, Context.indexText_of_slice hsubset hslice⟩
  · intro g s e x specs schema h
    obtain ⟨indices, hterm, hspecs⟩ := Expr.slicedAt_of_trySubset h
    refine ⟨indices, hterm, fun spec hspec => ?_⟩
    obtain ⟨a, other, hplace, hselection, hsliced, hindex⟩ := hspecs spec hspec
    refine ⟨by rw [Subset.isSlice, hselection], ?_⟩
    rintro rfl
    obtain rfl : other = point := Selection.slice.inj (hselection.symm.trans hslice)
    exact ⟨a, hplace, hsliced, hindex⟩
  · intro store r ctx earlier later h hsplit hlast
    obtain ⟨before, a, b, hbefore, ha, hb, hname, hnarrow⟩ :=
      Context.exists_narrowAxis_of_make h hsplit hlast
    obtain ⟨hdomain, -, hsubset⟩ := Context.narrowAxis_eq_ok hnarrow
    exact ⟨before, a, b, hbefore, ha, hb, hname, hdomain, hsubset,
      Context.slicedAt_of_narrowAxis hslice hnarrow, Context.indexText_of_slice hsubset hslice⟩

-- A slice of an operand's first axis.
def firstAxisSlice (point : String) : Markup.Element where
  name := "slice"
  children := [{ name := "coverage", text := "c" }, { name := "axis", text := "x" },
    { name := "slicingPosition", text := point }]

theorem slices_leave_single_seventh :
    ∃ store x spec schema ctx, Store.ofDefs [Sample.airTemperature "T"] = .ok store ∧
      (Subset.slice "x" "+7").selection = .slice "+7" ∧
      CellExtent.applySubset ⟨0, 19, none⟩ (.slice "x" "+7") =
        .ok ⟨7, 7, some (.slice "x" "+7")⟩ ∧
      CellExtent.SlicedAt ⟨0, 19, none⟩ "+7" 7 7 ∧
      trySubset (.level 256 1) ⟨store, [("c", ["T"])], []⟩ (firstAxisSlice "+7") =
        .ok (.matched (.subset .slice x [spec] schema)) ∧
      spec.lo = spec.hi ∧
      Context.make ⟨"T", none, [.trim "y" "2" "5", .slice "x" "+7", .trim "y" "3" "4"], false⟩
        store = .ok ctx ∧
      ∃ b ∈ ctx.axes, b.domain.name = "x" ∧ b.cells.lo = b.cells.hi ∧
        Context.indexText b.cells = Number.intText b.cells.lo := by
  obtain ⟨store, x, spec, schema, ctx, hstore, hcells, htry, hspec, hctx⟩ :
      ∃ store x spec schema ctx, Store.ofDefs [Sample.airTemperature "T"] = .ok store ∧
        CellExtent.applySubset ⟨0, 19, none⟩ (.slice "x" "+7") =
          .ok ⟨7, 7, some (.slice "x" "+7")⟩ ∧
        trySubset (.level 256 1) ⟨store, [("c", ["T"])], []⟩ (firstAxisSlice "+7") =
          .ok (.matched (.subset .slice x [spec] schema)) ∧
        spec.subset = .slice "x" "+7" ∧
        Context.make ⟨"T", none, [.trim "y" "2" "5", .slice "x" "+7", .trim "y" "3" "4"], false⟩
          store = .ok ctx :=
    ⟨_, _, _, _, _, rfl, rfl, rfl, rfl, rfl⟩
  obtain ⟨happly, hexpr, hmake⟩ := slices_leave_single (.slice "x" "+7") "+7" rfl
  obtain ⟨_, -, hspecs⟩ := hexpr _ _ _ x [spec] schema htry
  obtain ⟨a, -, ha, -⟩ := (hspecs spec (List.mem_singleton_self spec)).2 hspec
  obtain ⟨-, a', b, -, -, hb, hname, hdomain, -, hsliced, hindex⟩ :=
    hmake store _ ctx [.trim "y" "2" "5"] [.trim "y" "3" "4"] hctx rfl (by decide)
  exact ⟨store, x, spec, schema, ctx, hstore, rfl, hcells, (happly _ _ hcells).1, htry,
    ha.single (by decide), hctx, b, hb, hdomain ▸ hname, hsliced.single (by decide), hindex⟩

-- Each time all twenty cells are kept, and only the first of them is asked for.
theorem openSlices_keep_cells :
    ∃ store x spec schema ctx y, Store.ofDefs [Sample.airTemperature "T"] = .ok store ∧
      CellExtent.applySubset ⟨0, 19, none⟩ (.slice "x" "*") =
        .ok ⟨0, 19, some (.slice "x" "*")⟩ ∧
      trySubset (.level 256 1) ⟨store, [("c", ["T"])], []⟩ (firstAxisSlice "*") =
        .ok (.matched (.subset .slice x [spec] schema)) ∧
      spec.lo = 0 ∧ spec.hi = 19 ∧
      (CoverageExpr.subset .slice x [spec] schema).text = "(c)[0,*:*]" ∧
      Context.make ⟨"T", none, [.slice "x" "*"], false⟩ store = .ok ctx ∧
      ctx.cells = [⟨0, 19, some (.slice "x" "*")⟩, y] ∧ ctx.sdom = "[0,0:9]" :=
  ⟨_, _, _, _, _, _, rfl, rfl, rfl, rfl, rfl, rfl, rfl, rfl, rfl⟩

end Response

end Datacube
