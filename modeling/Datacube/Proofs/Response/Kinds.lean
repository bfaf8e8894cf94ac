import Datacube.Proofs.Response.Narrowed
import Datacube.Proofs.Text.Trim
import Datacube.Sample.Coverages

-- A request narrows a multipoint coverage as it narrows a grid with the same axes. Two things tell
-- them apart: a grid takes no quotes around a bound, and no cells outside its own.
namespace Datacube

open Result

-- No double quote stands at either end, once blanks are dropped.
structure Text.Unquoted (s : String) : Prop where
  first : (trim s).toList.head? ≠ some '"'
  last : (trim s).toList.getLast? ≠ some '"'

theorem Text.Unquoted.stripEnds {s : String} (h : Unquoted s) :
    stripEnds (· = '"') (trim s).toList = (trim s).toList := by
  refine stripEnds_of_ends (fun c hc => ?_) (fun c hc => ?_)
  · simpa using fun hquote : c = '"' => h.first (hquote ▸ hc)
  · simpa using fun hquote : c = '"' => h.last (hquote ▸ hc)

theorem Text.unquoted_of_not_mem {s : String} (h : '"' ∉ (trim s).toList) : Unquoted s :=
  ⟨fun hfirst => h (List.mem_of_head? hfirst), fun hlast => h (List.mem_of_getLast? hlast)⟩

namespace Number

theorem isDigit_quote : isDigit '"' = false := by decide

-- Signs, digits and underscores are all there is in a number.
theorem quote_not_mem_of_parseBig {s : String} {n : Int} (h : parseBig s = some n) :
    '"' ∉ s.toList := by
  have hrest : ∀ (negative : Bool) (c : Char) (cs : List Char),
      (if isDigit c && cs.all (fun d => isDigit d || d = '_') then
        some (signed negative (ofDigits (c :: cs.filter isDigit))) else none) = some n →
      '"' ∉ c :: cs := by
    intro negative c cs hcs hmem
    simp only [Option.ite_none_right_eq_some, Bool.and_eq_true, List.all_eq_true] at hcs
    rcases List.mem_cons.mp hmem with rfl | hmem
    · simp [isDigit_quote] at hcs
    · simpa [isDigit_quote] using hcs.1.2 _ hmem
  unfold parseBig takeSign at h
  split at h
  · next negative c cs hsign =>
    have hcs := hrest negative c cs h
    split at hsign <;> simp_all
  · cases h

-- A bound in cells, where `*` keeps the current one.
def bound? (s : String) (current : Int) : Option Int :=
  if s = Subset.openBound then some current else parseBig s

theorem quote_not_mem_of_bound? {s : String} {current n : Int} (h : bound? s current = some n) :
    '"' ∉ s.toList := by
  unfold bound? at h
  split at h
  · next hopen =>
    subst hopen
    decide
  · exact quote_not_mem_of_parseBig h

end Number

section Bounds

variable {axis text : String} {current n : Int}

theorem Axis.cellBound_eq_ok_iff :
    cellBound axis text current = .ok n ↔ Number.bound? (Text.trim text) current = some n := by
  unfold cellBound Number.bound?
  split
  · simp
  · split <;> simp_all

theorem CellExtent.parseBound_eq_ok_iff :
    parseBound axis text current = .ok n ↔
      Number.bound? (String.ofList (Text.stripEnds (· = '"') (Text.trim text).toList)) current =
        some n := by
  unfold parseBound Number.bound?
  simp only
  split
  · simp
  · split <;> simp_all

-- The two ways to read a bound in cells differ in quotes only.
theorem Axis.cellBound_iff_parseBound (other : String) :
    cellBound axis text current = .ok n ↔
      CellExtent.parseBound other text current = .ok n ∧ Text.Unquoted text := by
  rw [cellBound_eq_ok_iff, CellExtent.parseBound_eq_ok_iff]
  constructor
  · intro h
    have hunquoted := Text.unquoted_of_not_mem (Number.quote_not_mem_of_bound? h)
    exact ⟨by rwa [hunquoted.stripEnds, String.ofList_toList], hunquoted⟩
  · rintro ⟨h, hunquoted⟩
    rwa [hunquoted.stripEnds, String.ofList_toList] at h

end Bounds

-- Neither bound has quotes around it.
def Subset.Unquoted (t : Subset) : Prop :=
  Text.Unquoted t.bounds.1 ∧ Text.Unquoted t.bounds.2

theorem CellExtent.applySubset_eq_ok_iff {cells out : CellExtent} {t : Subset} :
    cells.applySubset t = .ok out ↔
      ∃ lo hi, parseBound t.axis t.bounds.1 cells.lo = .ok lo ∧
        parseBound t.axis t.bounds.2 cells.hi = .ok hi ∧ lo ≤ hi ∧ out = ⟨lo, hi, some t⟩ := by
  simp only [applySubset, bind_eq_ok, ite_error_eq_ok, Int.not_lt, Except.ok.injEq, applyResolved]
  constructor
  · rintro ⟨lo, hlo, hi, hhi, hle, rfl⟩
    exact ⟨lo, hi, hlo, hhi, hle, rfl⟩
  · rintro ⟨lo, hi, hlo, hhi, hle, rfl⟩
    exact ⟨lo, hlo, hi, hhi, hle, rfl⟩

theorem Axis.resolve_eq_ok_iff {a : Axis} {t : Subset} {cells : CellExtent} {lo hi : Int}
    (hcrs : t.crs = none) :
    a.resolve t cells = .ok (lo, hi) ↔
      cellBound a.name t.bounds.1 cells.lo = .ok lo ∧
        cellBound a.name t.bounds.2 cells.hi = .ok hi := by
  have hgrid : inGrid t = true := by simp [inGrid, hcrs]
  simp [resolve, resolveOn, hgrid]

namespace Response.Context

variable {c p : Coverage} {axes out : List AxisView} {t : Subset} {subsets : List Subset}

-- On an axis that is still whole, a grid takes what points take without quotes and inside.
theorem narrowAxis_iff_points {kind : CoverageKind} {a b : AxisView} (hkind : kind ≠ .multiPoint)
    (hcrs : t.crs = none) (hwhole : a.cells = a.native) :
    narrowAxis kind a t = .ok b ↔
      narrowAxis .multiPoint a t = .ok b ∧ t.Unquoted ∧ b.Inside := by
  simp only [narrowAxis, if_neg hkind, if_true, bind_eq_ok, pure_eq_ok, Prod.exists,
    CellExtent.applySubset_eq_ok_iff, Axis.resolve_eq_ok_iff hcrs, hwhole,
    Axis.cellBound_iff_parseBound t.axis]
  constructor
  · rintro ⟨lo, hi, ⟨⟨hlo, hquotes⟩, hhi, hquotes'⟩, ⟨⟩, hwithin, rfl⟩
    obtain ⟨hle, hinside⟩ := checkWithin_eq_ok_iff.mp hwithin
    exact ⟨⟨_, ⟨lo, hi, hlo, hhi, hle, rfl⟩, rfl⟩, ⟨hquotes, hquotes'⟩, hinside⟩
  · rintro ⟨⟨_, ⟨lo, hi, hlo, hhi, hle, rfl⟩, rfl⟩, ⟨hquotes, hquotes'⟩, hinside⟩
    exact ⟨lo, hi, ⟨⟨hlo, hquotes⟩, hhi, hquotes'⟩, (), checkWithin_eq_ok_iff.mpr ⟨hle, hinside⟩,
      rfl⟩

-- The axes that subsets name are still whole.
def Whole (axes : List AxisView) (subsets : List Subset) : Prop :=
  ∀ a ∈ axes, ∀ t ∈ subsets, t.axis = a.domain.name → a.cells = a.native

theorem narrow_iff_points (hkind : c.kind ≠ .multiPoint) (hpoints : p.kind = .multiPoint)
    (hcrs : t.crs = none) (hwhole : Whole axes [t]) (hinside : ∀ a ∈ axes, a.Inside) :
    narrow c axes t = .ok out ↔
      narrow p axes t = .ok out ∧ t.Unquoted ∧ ∀ a ∈ out, a.Inside := by
  unfold narrow
  split
  · simp
  · next a i hfind =>
    have hget := List.mem_zipIdx_iff_getElem?.mp (List.mem_of_find?_eq_some hfind)
    have hname : a.domain.name = t.axis := by simpa using List.find?_some hfind
    have ha := hwhole a (List.mem_of_getElem? hget) t (by simp) hname.symm
    have hlength := (List.getElem?_eq_some_iff.mp hget).1
    simp only [bind_eq_ok, pure_eq_ok, narrowAxis_iff_points hkind hcrs ha, hpoints]
    constructor
    · rintro ⟨b, ⟨hb, hunquoted, hbInside⟩, rfl⟩
      refine ⟨⟨b, hb, rfl⟩, hunquoted, fun v hv => ?_⟩
      rcases List.mem_or_eq_of_mem_set hv with hv | rfl
      · exact hinside v hv
      · exact hbInside
    · rintro ⟨⟨b, hb, rfl⟩, hunquoted, hout⟩
      exact ⟨b, ⟨hb, hunquoted, hout b (List.mem_set hlength b)⟩, rfl⟩

-- Subsets on other axes leave an axis in its place.
theorem mem_of_foldlM_narrow {a : AxisView} (ha : a ∈ axes)
    (hother : ∀ t ∈ subsets, t.axis ≠ a.domain.name)
    (h : subsets.foldlM (narrow c) axes = .ok out) : a ∈ out := by
  refine foldlM_preserves (P := fun views : List AxisView => a ∈ views) ?_ ha h
  intro t ht views more hviews hmore
  obtain ⟨i, b, b', hb, hname, -, rfl⟩ := narrow_eq_ok hmore
  obtain ⟨j, hj⟩ := List.getElem?_of_mem hviews
  have hij : i ≠ j := by
    rintro rfl
    obtain rfl : a = b := Option.some.inj (hj.symm.trans hb)
    exact hother t ht hname.symm
  exact List.mem_of_getElem? ((List.getElem?_set_ne hij).trans hj)

theorem Whole.narrow (hwhole : Whole axes (t :: subsets))
    (hdistinct : ((t :: subsets).map (·.axis)).Nodup) (h : narrow c axes t = .ok out) :
    Whole out subsets := by
  obtain ⟨i, a, b, ha, hname, hb, rfl⟩ := narrow_eq_ok h
  intro v hv u hu haxis
  rcases List.mem_or_eq_of_mem_set hv with hv | rfl
  · exact hwhole v hv u (List.mem_cons_of_mem _ hu) haxis
  · -- The axis that was narrowed is not named again.
    rw [(narrowAxis_eq_ok hb).1, hname] at haxis
    exact absurd (List.mem_map.mpr ⟨u, hu, haxis⟩) (List.nodup_cons.mp hdistinct).1

-- What later subsets leave inside was inside before them.
theorem inside_of_foldlM_narrow (hwhole : Whole axes subsets)
    (h : subsets.foldlM (narrow c) axes = .ok out) (hout : ∀ a ∈ out, a.Inside) :
    ∀ a ∈ axes, a.Inside := by
  intro a ha
  by_cases hnamed : ∃ t ∈ subsets, t.axis = a.domain.name
  · obtain ⟨t, ht, haxis⟩ := hnamed
    have hcells := hwhole a ha t ht haxis
    exact ⟨by rw [hcells], by rw [hcells]⟩
  · exact hout a (mem_of_foldlM_narrow ha (fun t ht haxis => hnamed ⟨t, ht, haxis⟩) h)

theorem foldlM_narrow_iff_points (hkind : c.kind ≠ .multiPoint) (hpoints : p.kind = .multiPoint)
    (hcrs : ∀ t ∈ subsets, t.crs = none) (hdistinct : (subsets.map (·.axis)).Nodup)
    (hwhole : Whole axes subsets) (hinside : ∀ a ∈ axes, a.Inside) :
    subsets.foldlM (narrow c) axes = .ok out ↔
      subsets.foldlM (narrow p) axes = .ok out ∧ (∀ t ∈ subsets, t.Unquoted) ∧
        ∀ a ∈ out, a.Inside := by
  induction subsets generalizing axes with
  | nil =>
      simp only [List.foldlM_nil, pure_eq_ok]
      constructor
      · rintro rfl
        exact ⟨rfl, by simp, hinside⟩
      · rintro ⟨rfl, -⟩
        rfl
  | cons t subsets ih =>
      have hfirst : Whole axes [t] := fun a ha u hu =>
        hwhole a ha u (by rw [List.mem_singleton.mp hu]; exact List.mem_cons_self)
      have hstep := fun views => @narrow_iff_points c p axes views t hkind hpoints
        (hcrs t List.mem_cons_self) hfirst hinside
      have hcrs' : ∀ u ∈ subsets, u.crs = none := fun u hu => hcrs u (List.mem_cons_of_mem _ hu)
      have hdistinct' : (subsets.map (·.axis)).Nodup := (List.nodup_cons.mp hdistinct).2
      simp only [List.foldlM_cons, bind_eq_ok, List.mem_cons, forall_eq_or_imp]
      constructor
      · rintro ⟨views, hviews, hrest⟩
        obtain ⟨hpviews, hunquoted, hvinside⟩ := (hstep views).mp hviews
        obtain ⟨hprest, hothers, hout⟩ :=
          (ih hcrs' hdistinct' (hwhole.narrow hdistinct hviews) hvinside).mp hrest
        exact ⟨⟨views, hpviews, hprest⟩, ⟨hunquoted, hothers⟩, hout⟩
      · rintro ⟨⟨views, hviews, hrest⟩, ⟨hunquoted, hothers⟩, hout⟩
        have hvwhole := hwhole.narrow hdistinct hviews
        have hvinside := inside_of_foldlM_narrow hvwhole hrest hout
        exact ⟨views, (hstep views).mpr ⟨hviews, hunquoted, hvinside⟩,
          (ih hcrs' hdistinct' hvwhole hvinside).mpr ⟨hrest, hothers, hout⟩⟩

end Response.Context

namespace Response

-- A grid takes the subsets that points with the same axes take, if no bound is in quotes and no
-- cell outside the native ones is asked for. Both then have the same cells.
theorem grid_iff_points (gridStore pointStore : Store) (d : CoverageDef) (c : Coverage)
    (r : GetCoverage) (hvalid : Coverage.ofDef d = .ok c) (hkind : c.kind.isGrid = true)
    (hgrid : gridStore.read r.id = .ok c)
    (hpoints : pointStore.read r.id = .ok { c with kind := .multiPoint })
    (hdistinct : (r.subsets.map (·.axis)).Nodup) (hcrs : ∀ t ∈ r.subsets, t.crs = none) :
    ((∃ g, Context.make r gridStore = .ok g) ↔
        (∃ p, Context.make r pointStore = .ok p ∧ ∀ a ∈ p.axes, a.Inside) ∧
          ∀ t ∈ r.subsets, t.Unquoted) ∧
      ∀ g p, Context.make r gridStore = .ok g → Context.make r pointStore = .ok p →
        g.cells = p.cells := by
  have hkind' : c.kind ≠ .multiPoint := by
    intro h
    simp [h, CoverageKind.isGrid] at hkind
  obtain ⟨-, hviews⟩ := Coverage.names_of_ofDef hvalid
  have hwhole : Context.Whole (c.axes.map GridAxis.view) r.subsets :=
    fun a ha _ _ _ => (hviews a ha).1
  have hinside : ∀ a ∈ c.axes.map GridAxis.view, a.Inside := by
    intro a ha
    exact ⟨by rw [(hviews a ha).1], by rw [(hviews a ha).1]⟩
  have hruns := fun out => @Context.foldlM_narrow_iff_points c { c with kind := .multiPoint }
    (c.axes.map GridAxis.view) out r.subsets hkind' rfl hcrs hdistinct hwhole hinside
  have haligned : ({ c with kind := .multiPoint } : Coverage).checkAligned = c.checkAligned := rfl
  simp only [Context.make, hgrid, hpoints, haligned, ok_bind, bind_eq_ok, pure_eq_ok, hruns]
  refine ⟨⟨?_, ?_⟩, ?_⟩
  · rintro ⟨g, ⟨⟩, ha, axes, ⟨hrun, hunquoted, hout⟩, rfl⟩
    exact ⟨⟨_, ⟨(), ha, axes, hrun, rfl⟩, hout⟩, hunquoted⟩
  · rintro ⟨⟨p, ⟨⟨⟩, ha, axes, hrun, rfl⟩, hout⟩, hunquoted⟩
    exact ⟨_, (), ha, axes, ⟨hrun, hunquoted, hout⟩, rfl⟩
  · rintro g p ⟨⟨⟩, -, axes, ⟨hrun, -⟩, rfl⟩ ⟨⟨⟩, -, axes', hrun', rfl⟩
    obtain rfl : axes = axes' := Except.ok.inj (hrun.symm.trans hrun')
    rfl

-- The same coverage as a multipoint one.
def pointsOn (d : CoverageDef) : CoverageDef :=
  { d with kind := "MultiPointCoverage" }

theorem grid_iff_points_box :
    ∃ gridStore pointStore c g p, Store.ofDefs [Sample.airTemperature "T"] = .ok gridStore ∧
      Store.ofDefs [pointsOn (Sample.airTemperature "T")] = .ok pointStore ∧
      gridStore.read "T" = .ok c ∧ pointStore.read "T" = .ok { c with kind := .multiPoint } ∧
      Context.make ⟨"T", none, [.slice "y" " 4", .trim "x" "10" "*"], false⟩ gridStore = .ok g ∧
      Context.make ⟨"T", none, [.slice "y" " 4", .trim "x" "10" "*"], false⟩ pointStore = .ok p ∧
      g.cells = p.cells ∧ p.cells.map (fun a => (a.lo, a.hi)) = [(10, 19), (4, 4)] := by
  obtain ⟨gridStore, pointStore, c, g, hgridStore, hpointStore, hc, hkind, hgrid, hpoints, hg,
      hcells⟩ : ∃ gridStore pointStore c g,
      Store.ofDefs [Sample.airTemperature "T"] = .ok gridStore ∧
      Store.ofDefs [pointsOn (Sample.airTemperature "T")] = .ok pointStore ∧
      Coverage.ofDef (Sample.airTemperature "T") = .ok c ∧ c.kind.isGrid = true ∧
      gridStore.read "T" = .ok c ∧ pointStore.read "T" = .ok { c with kind := .multiPoint } ∧
      Context.make ⟨"T", none, [.slice "y" " 4", .trim "x" "10" "*"], false⟩ gridStore = .ok g ∧
      g.cells.map (fun a => (a.lo, a.hi)) = [(10, 19), (4, 4)] :=
    ⟨_, _, _, _, rfl, rfl, rfl, rfl, rfl, rfl, rfl, rfl⟩
  obtain ⟨haccepted, hsame⟩ := grid_iff_points gridStore pointStore (Sample.airTemperature "T") c
    ⟨"T", none, [.slice "y" " 4", .trim "x" "10" "*"], false⟩ hc hkind hgrid hpoints (by decide)
    (by decide)
  obtain ⟨⟨p, hp, -⟩, -⟩ := haccepted.mp ⟨g, hg⟩
  have hboth := hsame g p hg hp
  exact ⟨gridStore, pointStore, c, g, p, hgridStore, hpointStore, hgrid, hpoints, hg, hp, hboth,
    hboth ▸ hcells⟩

-- Points take a bound in quotes and a trim that leaves the native cells; a grid refuses both.
theorem points_take_more :
    ∃ gridStore pointStore c p q e f, Store.ofDefs [Sample.airTemperature "T"] = .ok gridStore ∧
      Store.ofDefs [pointsOn (Sample.airTemperature "T")] = .ok pointStore ∧
      gridStore.read "T" = .ok c ∧ pointStore.read "T" = .ok { c with kind := .multiPoint } ∧
      c.kind.isGrid = true ∧
      Context.make ⟨"T", none, [.trim "x" "\"2\"" "5"], false⟩ pointStore = .ok p ∧
      Context.make ⟨"T", none, [.trim "x" "\"2\"" "5"], false⟩ gridStore = .error e ∧
      Context.make ⟨"T", none, [.trim "x" "0" "40"], false⟩ pointStore = .ok q ∧
      Context.make ⟨"T", none, [.trim "x" "0" "40"], false⟩ gridStore = .error f :=
  ⟨_, _, _, _, _, _, _, rfl, rfl, rfl, rfl, rfl, rfl, rfl, rfl, rfl⟩

end Response

end Datacube
