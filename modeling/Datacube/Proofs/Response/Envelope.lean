import Datacube.Proofs.Number.Sign
import Datacube.Proofs.Response.Narrowed

-- The corners of an answer in coordinates. They lie within the axis, but each is held on one side
-- only: they are in order exactly if the requested cells reach the axis.
namespace Datacube.Response

open Float.Model (UnpackedFloat)
open Result
open Number (parts value greatestFloat leastFloat)

section Edges

variable {a : AxisView} {b : NumericBounds}

-- Cells cover an extent that is not negative, so that their size is not negative either.
theorem resolution_nonneg (h : a.Sound) (hb : a.domain.numeric = some b) :
    0 ≤ a.domain.resolution.digits := by
  obtain ⟨lo, hi, hlo, hhi, hcovers⟩ := h.covers b hb
  have horder := Number.Decimal.toRat_le_of_le (h.checked.bounds b hb).2.2 hlo hhi
  have hcells : (0 : ℚ) < ((a.native.hi - a.native.lo + 1 : Int) : ℚ) := by
    have hnative := h.native
    exact_mod_cast (by omega : (0 : Int) < a.native.hi - a.native.lo + 1)
  rw [← Number.Decimal.toRat_nonneg_iff]
  by_contra hneg
  have := mul_neg_of_neg_of_pos (not_le.mp hneg) hcells
  linarith

-- Where the cell of an index starts.
def edge (a : AxisView) (b : NumericBounds) (index : Int) : Float :=
  b.lo + Float.ofInt (index - a.native.lo) * a.domain.resolutionFloat

theorem coordinate_eq (hb : a.domain.numeric = some b) (index : Int) :
    a.domain.coordinate index a.native = some (edge a b index) := by
  rw [Axis.coordinate, hb]
  rfl

-- A later cell does not start before an earlier one.
theorem not_edge_lt (h : a.Sound) (hb : a.domain.numeric = some b) {i j : Int} (hij : i ≤ j) :
    ¬edge a b j < edge a b i :=
  Number.not_step_lt (h.checked.bounds b hb).1
    (Number.Decimal.value_toFloat_nonneg (resolution_nonneg h hb)) (by omega)

theorem lowerCoordinate_eq (hb : a.domain.numeric = some b) :
    Context.lowerCoordinate a b = greatestFloat (edge a b a.cells.lo) b.lo := by
  rw [Context.lowerCoordinate, coordinate_eq hb]

theorem upperCoordinate_eq (hb : a.domain.numeric = some b) :
    Context.upperCoordinate a b = leastFloat (edge a b (a.cells.hi + 1)) b.hi := by
  rw [Context.upperCoordinate, coordinate_eq hb]

end Edges

-- The corners of an axis lie within its bounds, and are in order unless its first cell starts above
-- it or its last cell ends below it.
structure Enveloped (a : AxisView) (b : NumericBounds) : Prop where
  lower : b.lo ≤ Context.lowerCoordinate a b
  upper : Context.upperCoordinate a b ≤ b.hi
  ordered_iff : Context.lowerCoordinate a b ≤ Context.upperCoordinate a b ↔
    (∀ x, a.domain.coordinate a.cells.lo a.native = some x → ¬b.hi < x) ∧
      ∀ x, a.domain.coordinate (a.cells.hi + 1) a.native = some x → ¬x < b.lo

theorem enveloped_of_sound {a : AxisView} {b : NumericBounds} (h : a.Sound)
    (hb : a.domain.numeric = some b) : Enveloped a b := by
  obtain ⟨hlo, hhi, hle⟩ := h.checked.bounds b hb
  have hlo : parts b.lo ≠ .notANumber := Number.ne_notANumber_of_isFinite hlo
  have hhi : parts b.hi ≠ .notANumber := Number.ne_notANumber_of_isFinite hhi
  have hedges := not_edge_lt h hb (h.cells.trans (Int.le_add_one le_rfl))
  refine ⟨?_, ?_, ?_⟩
  · rw [lowerCoordinate_eq hb]
    exact Number.le_greatestFloat hlo
  · rw [upperCoordinate_eq hb]
    exact Number.leastFloat_le hhi
  · simp only [lowerCoordinate_eq hb, upperCoordinate_eq hb, coordinate_eq hb, Option.some.injEq,
      forall_eq']
    exact Number.greatestFloat_le_leastFloat_iff hlo hhi hle hedges

namespace Context

variable {c : Coverage} {axes out : List AxisView} {s : Subset}

-- Whatever narrows an axis leaves at least one cell.
theorem narrowAxis_sound {kind : CoverageKind} {a b : AxisView} (h : a.Sound)
    (hb : narrowAxis kind a s = .ok b) : b.Sound := by
  unfold narrowAxis at hb
  split at hb
  · simp only [bind_eq_ok, pure_eq_ok, CellExtent.applySubset, ite_error_eq_ok,
      Except.ok.injEq] at hb
    obtain ⟨_, ⟨lo, -, hi, -, hle, rfl⟩, rfl⟩ := hb
    exact ⟨Int.not_lt.mp hle, h.native, h.checked, h.covers⟩
  · simp only [bind_eq_ok, pure_eq_ok, Prod.exists] at hb
    obtain ⟨lo, hi, -, ⟨⟩, hwithin, rfl⟩ := hb
    exact ⟨(checkWithin_eq_ok_iff.mp hwithin).1, h.native, h.checked, h.covers⟩

theorem narrow_sound (h : ∀ a ∈ axes, a.Sound) (hout : narrow c axes s = .ok out) :
    ∀ a ∈ out, a.Sound := by
  obtain ⟨i, a, b, ha, -, hb, rfl⟩ := narrow_eq_ok hout
  intro view hview
  rcases List.mem_or_eq_of_mem_set hview with hview | rfl
  · exact h view hview
  · exact narrowAxis_sound (h a (List.mem_of_getElem? ha)) hb

-- All axes of an answer, also those of multipoint coverages, whose cells may leave the native ones.
theorem make_sound {r : GetCoverage} {store : Store} {ctx : Context} {d : CoverageDef}
    (hvalid : Coverage.ofDef d = .ok c) (hread : store.read r.id = .ok c)
    (h : make r store = .ok ctx) : ∀ a ∈ ctx.axes, a.Sound := by
  simp only [make, hread, ok_bind, bind_eq_ok, pure_eq_ok] at h
  obtain ⟨-, -, axes, haxes, rfl⟩ := h
  refine foldlM_preserves (P := fun axes : List AxisView => ∀ a ∈ axes, a.Sound) ?_ ?_ haxes
  · intro s _ axes out hsound hout
    exact narrow_sound hsound hout
  · exact fun a ha => (Coverage.sound_of_ofDef hvalid a ha).1

end Context

-- So it is with every answer, whatever the kind of its coverage.
theorem make_enveloped (d : CoverageDef) (c : Coverage) (r : GetCoverage) (store : Store)
    (ctx : Context) (hvalid : Coverage.ofDef d = .ok c) (hread : store.read r.id = .ok c)
    (h : Context.make r store = .ok ctx) (a : AxisView) (ha : a ∈ ctx.retained)
    (b : NumericBounds) (hb : a.domain.numeric = some b) : Enveloped a b :=
  enveloped_of_sound (Context.make_sound hvalid hread h a (List.mem_of_mem_filter ha)) hb

-- A row whose cells are twice as many as fit: half a unit for each is rounded up to one.
def doubledRow : CoverageDef where
  name := "A"
  kind := "GridCoverage"
  domain := [{ name := "x", kind := "x", numLo := some 0, numHi := some 10 }]
  cells := [⟨some 0, some 19⟩]
  description := { rangeFields := [{ name := "v", datatype := "char" }] }

-- Cells of the first half of the row have corners in order.
theorem make_enveloped_doubledRow :
    ∃ store c ctx a b, Store.ofDefs [doubledRow] = .ok store ∧ Coverage.ofDef doubledRow = .ok c ∧
      store.read "A" = .ok c ∧
      Context.make { id := "A", subsets := [.trim "x" "2" "5"] } store = .ok ctx ∧
      a ∈ ctx.retained ∧ a.domain.numeric = some b ∧ Enveloped a b ∧
      Context.lowerCoordinate a b ≤ Context.upperCoordinate a b := by
  obtain ⟨store, c, ctx, a, b, hstore, hc, hread, hctx, hretained, hb, hle⟩ : ∃ store c ctx a b,
      Store.ofDefs [doubledRow] = .ok store ∧ Coverage.ofDef doubledRow = .ok c ∧
      store.read "A" = .ok c ∧
      Context.make { id := "A", subsets := [.trim "x" "2" "5"] } store = .ok ctx ∧
      ctx.retained = [a] ∧ a.domain.numeric = some b ∧
      Context.lowerCoordinate a b ≤ Context.upperCoordinate a b :=
    ⟨_, _, _, _, _, rfl, rfl, rfl, rfl, rfl, rfl, by decide +kernel⟩
  have ha : a ∈ ctx.retained := hretained ▸ List.mem_singleton_self a
  exact ⟨store, c, ctx, a, b, hstore, hc, hread, hctx, ha, hb,
    make_enveloped doubledRow c _ store ctx hc hread hctx a ha b hb, hle⟩

-- Cells of the second half start above the upper bound, and the corners change places.
theorem make_inverted :
    ∃ store c ctx a b, Store.ofDefs [doubledRow] = .ok store ∧ Coverage.ofDef doubledRow = .ok c ∧
      store.read "A" = .ok c ∧
      Context.make { id := "A", subsets := [.trim "x" "15" "18"] } store = .ok ctx ∧
      ctx.retained = [a] ∧ a.domain.numeric = some b ∧
      Context.upperCoordinate a b < Context.lowerCoordinate a b ∧
      ctx.domLow = "15" ∧ ctx.domHigh = "10" :=
  ⟨_, _, _, _, _, rfl, rfl, rfl, rfl, rfl, rfl, by decide +kernel, by decide +kernel,
    by decide +kernel⟩

end Datacube.Response
