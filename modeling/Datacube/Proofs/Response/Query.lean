import Datacube.Proofs.Number.Text
import Datacube.Proofs.Response.Narrowed

-- The query for a grid's cells and the description of the answer agree: the intervals of the query
-- are the limits of the grid, on the axes that the answer names.
namespace Datacube.Response

open Result

-- The subset that counts on an axis: the last one that names it.
def GetCoverage.carried (r : GetCoverage) (axis : String) : Option Subset :=
  r.subsets.reverse.find? (·.axis = axis)

-- An entry of a query's subscript that keeps its axis.
def isInterval (entry : String) : Bool :=
  ':' ∈ entry.toList

section Carried

-- With one subset at most for an axis, the one that names it counts.
theorem GetCoverage.carried_eq_some_iff {r : GetCoverage}
    (hdistinct : (r.subsets.map (·.axis)).Nodup) {axis : String} {t : Subset} :
    r.carried axis = some t ↔ t ∈ r.subsets ∧ t.axis = axis := by
  constructor
  · intro h
    exact ⟨List.mem_reverse.mp (List.mem_of_find?_eq_some h), by simpa using List.find?_some h⟩
  · rintro ⟨ht, rfl⟩
    cases hfind : r.carried t.axis with
    | none => simpa using List.find?_eq_none.mp hfind t (List.mem_reverse.mpr ht)
    | some u =>
        have hu := List.mem_reverse.mp (List.mem_of_find?_eq_some hfind)
        have haxis : u.axis = t.axis := by simpa using List.find?_some hfind
        rw [List.inj_on_of_nodup_map hdistinct hu ht haxis]

end Carried

namespace Context

variable {c : Context}

theorem isInterval_indexText (cells : CellExtent) :
    isInterval (indexText cells) = !isSliced cells := by
  have hcolon : ∀ n : Int, ':' ∉ (Number.intText n).toList :=
    fun n => (Number.all_intText n).not_mem (by decide)
  unfold isInterval indexText
  cases isSliced cells with
  | true => simpa using hcolon cells.lo
  | false => simp [CellExtent.interval]

theorem comma_not_mem_indexText (cells : CellExtent) : ',' ∉ (indexText cells).toList := by
  have hcomma : ∀ n : Int, ',' ∉ (Number.intText n).toList :=
    fun n => (Number.all_intText n).not_mem (by decide)
  unfold indexText
  split
  · exact hcomma cells.lo
  · simp [CellExtent.interval, hcomma]

theorem words_low : Text.words c.low = c.retained.map (Number.intText ·.cells.lo) := by
  refine Text.words_intercalate fun t ht => ?_
  obtain ⟨a, -, rfl⟩ := List.mem_map.mp ht
  exact Number.isWord_intText a.cells.lo

theorem words_high : Text.words c.high = c.retained.map (Number.intText ·.cells.hi) := by
  refine Text.words_intercalate fun t ht => ?_
  obtain ⟨a, -, rfl⟩ := List.mem_map.mp ht
  exact Number.isWord_intText a.cells.hi

-- One entry of the subscript for each axis.
def entries (c : Context) : List String :=
  c.axes.map fun a => indexText a.cells

theorem filter_isInterval :
    (c.axes.filter fun a => isInterval (indexText a.cells)) = c.retained := by
  simp only [isInterval_indexText]
  rfl

theorem filter_entries : c.entries.filter isInterval = c.retained.map (·.cells.interval) := by
  rw [entries, List.filter_map, Function.comp_def, filter_isInterval]
  refine List.map_congr_left fun a ha => ?_
  have hsliced : isSliced a.cells = false := by simpa using (List.mem_filter.mp ha).2
  simp [indexText, hsliced]

-- The text of a query, with a subscript if an axis carries a subset.
theorem query_eq : c.query = "select csv(c" ++
    (if c.cells.any (·.subset.isSome) then c.sdom else "") ++ ") from " ++ c.coverageId ++
      " as c" := by
  delta query
  rfl

theorem query_of_subset (h : ∃ a ∈ c.axes, a.cells.subset.isSome) :
    c.query =
      "select csv(c[" ++ ",".intercalate c.entries ++ "]) from " ++ c.coverageId ++ " as c" := by
  have hany : c.cells.any (·.subset.isSome) = true := by simpa [cells] using h
  have hsdom : c.sdom = "[" ++ ",".intercalate c.entries ++ "]" := by
    simp [sdom, cells, entries, Function.comp_def]
  rw [query_eq, if_pos hany, hsdom]
  exact String.toList_inj.mp (by simp)

theorem query_of_no_subset (h : ∀ a ∈ c.axes, a.cells.subset = none) :
    c.query = "select csv(c) from " ++ c.coverageId ++ " as c" := by
  have hnone : c.cells.any (·.subset.isSome) = false := by simpa [cells] using h
  rw [query_eq, if_neg (by simp [hnone])]
  simp

end Context

-- What a query with a subscript says: an entry for each axis in order, where the intervals are made
-- of the limits of the answer and stand on the axes it names, and the others on sliced axes.
structure Describes (r : GetCoverage) (c : Coverage) (ctx : Context) (entries : List String) :
    Prop where
  query_eq : ctx.query =
    "select csv(c[" ++ ",".intercalate entries ++ "]) from " ++ c.name ++ " as c"
  separate : ∀ entry ∈ entries, ',' ∉ entry.toList
  length_eq : entries.length = c.dimension
  intervals : entries.filter isInterval =
    List.zipWith (fun lo hi => lo ++ ":" ++ hi) (Text.words ctx.low) (Text.words ctx.high)
  corners : (Text.words ctx.low).length = (entries.filter isInterval).length ∧
    (Text.words ctx.high).length = (entries.filter isInterval).length
  labels : ctx.axisLabels =
    " ".intercalate (((c.axisLabels.zip entries).filter fun e => isInterval e.2).map (·.1))
  slices : ∀ e ∈ c.axisLabels.zip entries,
    isInterval e.2 = false ↔ ∃ t, r.carried e.1 = some t ∧ t.isSlice = true
  slices_distinct : (r.subsets.map (·.axis)).Nodup → ∀ e ∈ c.axisLabels.zip entries,
    isInterval e.2 = false ↔ ∃ t ∈ r.subsets, t.axis = e.1 ∧ t.isSlice = true

section Narrowed

variable {d : CoverageDef} {c : Coverage} {r : GetCoverage} {store : Store} {ctx : Context}

-- The axes of an answer are those of the coverage, each with the subset that counts on it.
structure Narrows (r : GetCoverage) (c : Coverage) (ctx : Context) : Prop where
  coverage_eq : ctx.coverage = c
  names_eq : ctx.axes.map (·.domain.name) = c.axisLabels
  natives_eq : ctx.axes.map (·.native) = c.axes.map (·.cells)
  carries : ∀ a ∈ ctx.axes, a.cells.subset = r.carried a.domain.name
  whole : ∀ a ∈ ctx.axes, r.carried a.domain.name = none → a.cells = a.native

theorem narrows_of_make (hvalid : Coverage.ofDef d = .ok c) (hread : store.read r.id = .ok c)
    (hkind : c.kind ≠ .multiPoint) (h : Context.make r store = .ok ctx) : Narrows r c ctx := by
  obtain ⟨hnames, hfresh⟩ := Coverage.names_of_ofDef hvalid
  have haligned : c.checkAligned = .ok () := by
    simp only [Context.make, hread, ok_bind, bind_eq_ok] at h
    obtain ⟨⟨⟩, haligned, -⟩ := h
    exact haligned
  obtain ⟨haccepts, rfl⟩ := (Context.make_eq_ok_iff hread haligned hkind hnames).mp h
  refine ⟨rfl, ?_, ?_, fun b hb => ?_, fun b hb hnone => ?_⟩
  · simp [Coverage.axisLabels, GridAxis.view, Function.comp_def]
  · simp [GridAxis.view, Function.comp_def]
  · exact Context.make_carries hvalid h b hb
  · obtain ⟨a, ha, rfl⟩ := List.mem_map.mp hb
    rw [AxisView.takeAll_domain] at hnone
    have huntouched : a.takeAll r.subsets = a := by
      refine AxisView.takeAll_of_forall_ne fun t ht haxis => ?_
      simpa [haxis] using List.find?_eq_none.mp hnone t (List.mem_reverse.mpr ht)
    rw [huntouched]
    exact (hfresh a ha).1

theorem describes_of_narrows (h : Narrows r c ctx)
    (hsome : ∃ name ∈ c.axisLabels, (r.carried name).isSome) : Describes r c ctx ctx.entries := by
  have hzip : c.axisLabels.zip ctx.entries =
      ctx.axes.map fun a => (a.domain.name, Context.indexText a.cells) := by
    rw [← h.names_eq, Context.entries, List.zip_map']
  have hcounts : ctx.entries.filter isInterval = ctx.retained.map (·.cells.interval) :=
    Context.filter_entries
  have hslices : ∀ e ∈ c.axisLabels.zip ctx.entries,
      isInterval e.2 = false ↔ ∃ t, r.carried e.1 = some t ∧ t.isSlice = true := by
    intro e he
    rw [hzip] at he
    obtain ⟨a, ha, rfl⟩ := List.mem_map.mp he
    rw [Context.isInterval_indexText, ← h.carries a ha]
    simp [Context.isSliced, Option.any_eq_true]
  have hquery : ∃ a ∈ ctx.axes, a.cells.subset.isSome := by
    obtain ⟨name, hname, hcarried⟩ := hsome
    rw [← h.names_eq] at hname
    obtain ⟨a, ha, rfl⟩ := List.mem_map.mp hname
    exact ⟨a, ha, h.carries a ha ▸ hcarried⟩
  refine ⟨?_, ?_, ?_, ?_, ?_, ?_, hslices, fun hdistinct e he => ?_⟩
  · rw [Context.query_of_subset hquery, Context.coverageId, h.coverage_eq]
  · intro entry hentry
    obtain ⟨a, -, rfl⟩ := List.mem_map.mp hentry
    exact Context.comma_not_mem_indexText a.cells
  · have hlength := congrArg List.length h.names_eq
    simpa [Context.entries, Coverage.dimension, Coverage.axisLabels] using hlength
  · rw [hcounts, Context.words_low, Context.words_high, List.zipWith_map, List.zipWith_self]
    rfl
  · simp [hcounts, Context.words_low, Context.words_high]
  · rw [hzip, List.filter_map, List.map_map]
    exact congrArg (fun axes => " ".intercalate (axes.map (·.domain.name)))
      Context.filter_isInterval.symm
  · rw [hslices e he]
    simp only [GetCoverage.carried_eq_some_iff hdistinct, and_assoc]

end Narrowed

-- A grid's query selects the cells that the answer describes; without subsets these are all cells.
theorem query_describes_answer (d : CoverageDef) (c : Coverage) (r : GetCoverage) (store : Store)
    (ctx : Context) (hvalid : Coverage.ofDef d = .ok c) (hgrid : c.kind.isGrid = true)
    (hread : store.read r.id = .ok c) (h : Context.make r store = .ok ctx) :
    ((∃ name ∈ c.axisLabels, (r.carried name).isSome) → ∃ entries, Describes r c ctx entries) ∧
      ((∀ name ∈ c.axisLabels, r.carried name = none) →
        ctx.query = "select csv(c) from " ++ c.name ++ " as c" ∧
          ctx.low = " ".intercalate (c.axes.map (Number.intText ·.cells.lo)) ∧
          ctx.high = " ".intercalate (c.axes.map (Number.intText ·.cells.hi))) := by
  have hkind : c.kind ≠ .multiPoint := by
    intro hkind
    simp [hkind, CoverageKind.isGrid] at hgrid
  have hnarrows := narrows_of_make hvalid hread hkind h
  refine ⟨fun hsome => ⟨_, describes_of_narrows hnarrows hsome⟩, fun hnone => ?_⟩
  have huncarried : ∀ a ∈ ctx.axes, r.carried a.domain.name = none := fun a ha =>
    hnone _ (hnarrows.names_eq ▸ List.mem_map_of_mem ha)
  have hsubset : ∀ a ∈ ctx.axes, a.cells.subset = none := fun a ha =>
    (hnarrows.carries a ha).trans (huncarried a ha)
  have hretained : ctx.retained = ctx.axes :=
    List.filter_eq_self.mpr fun a ha => by simp [Context.isSliced, hsubset a ha]
  have hcells : ctx.axes.map (·.cells) = c.axes.map (·.cells) := by
    rw [← hnarrows.natives_eq]
    exact List.map_congr_left fun a ha => hnarrows.whole a ha (huncarried a ha)
  have hbounds : ∀ bound : CellExtent → Int,
      ctx.retained.map (fun a => Number.intText (bound a.cells)) =
        c.axes.map fun a => Number.intText (bound a.cells) := by
    intro bound
    simpa [hretained, Function.comp_def] using
      congrArg (List.map fun cells => Number.intText (bound cells)) hcells
  refine ⟨?_, congrArg _ (hbounds (·.lo)), congrArg _ (hbounds (·.hi))⟩
  rw [Context.query_of_no_subset hsubset, Context.coverageId, hnarrows.coverage_eq]

-- A box of three axes.
def box : CoverageDef where
  name := "B"
  kind := "GridCoverage"
  domain := [
    { name := "x", kind := "x", numLo := some 0, numHi := some 10 },
    { name := "y", kind := "y", numLo := some 0, numHi := some 10 },
    { name := "t", kind := "other", numLo := some 0, numHi := some 10 }]
  cells := [⟨some 0, some 9⟩, ⟨some 0, some 9⟩, ⟨some (-5), some 4⟩]

-- One axis trimmed, one sliced and one left alone.
theorem query_describes_box :
    ∃ store c ctx entries, Store.ofDefs [box] = .ok store ∧ Coverage.ofDef box = .ok c ∧
      store.read "B" = .ok c ∧
      Context.make { id := "B", subsets := [.slice "y" "3", .trim "x" "2" "5"] } store = .ok ctx ∧
      Describes { id := "B", subsets := [.slice "y" "3", .trim "x" "2" "5"] } c ctx entries ∧
      ctx.query = "select csv(c[2:5,3,-5:4]) from B as c" ∧ ctx.axisLabels = "x t" ∧
      ctx.low = "2 -5" ∧ ctx.high = "5 4" := by
  obtain ⟨store, c, ctx, hstore, hc, hgrid, hread, hctx, hcarried, hquery, hlabels, hlow, hhigh⟩ :
      ∃ store c ctx, Store.ofDefs [box] = .ok store ∧ Coverage.ofDef box = .ok c ∧
        c.kind.isGrid = true ∧ store.read "B" = .ok c ∧
        Context.make { id := "B", subsets := [.slice "y" "3", .trim "x" "2" "5"] } store =
          .ok ctx ∧
        "x" ∈ c.axisLabels ∧ ctx.query = "select csv(c[2:5,3,-5:4]) from B as c" ∧
        ctx.axisLabels = "x t" ∧ ctx.low = "2 -5" ∧ ctx.high = "5 4" :=
    ⟨_, _, _, rfl, rfl, rfl, rfl, rfl, by decide, by decide +kernel, by decide +kernel,
      by decide +kernel, by decide +kernel⟩
  obtain ⟨entries, hentries⟩ := (query_describes_answer box c _ store ctx hc hgrid hread hctx).1
    ⟨"x", hcarried, by decide⟩
  exact ⟨store, c, ctx, entries, hstore, hc, hread, hctx, hentries, hquery, hlabels, hlow, hhigh⟩

end Datacube.Response
