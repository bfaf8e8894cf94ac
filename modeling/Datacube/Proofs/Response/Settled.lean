import Datacube.Proofs.Response.Query
import Datacube.Sample.Coverages

-- Requests with any number of subsets on an axis. Each subset is resolved against the native cells,
-- so that the last one on an axis settles its cells.
namespace Datacube

open Result

namespace AxisView

variable {a : AxisView} {t : Subset} {subsets : List Subset}

-- Nothing is left of the subsets before one that the axis admits.
theorem take_takeAll (h : a.Admits t) : (a.takeAll subsets).take t = a.take t := by
  obtain ⟨haxis, lo, hi, hresolve, -⟩ := h
  have haxis' : t.axis = (a.takeAll subsets).domain.name := by simpa using haxis
  have hresolve' : (a.takeAll subsets).domain.resolve t (a.takeAll subsets).native =
      .ok (lo, hi) := by simpa using hresolve
  rw [take_of_resolve haxis hresolve, take_of_resolve haxis' hresolve', takeAll_domain,
    takeAll_native]

theorem takeAll_of_last (hlast : subsets.reverse.find? (·.axis = a.domain.name) = some t)
    (h : a.Admits t) : a.takeAll subsets = a.take t := by
  induction subsets using List.reverseRecOn with
  | nil => simp at hlast
  | append_singleton subsets u ih =>
      rw [List.reverse_append, List.reverse_singleton, List.singleton_append] at hlast
      rw [takeAll_append, takeAll_cons, takeAll_nil]
      by_cases hu : u.axis = a.domain.name
      · rw [List.find?_cons_of_pos (by simpa using hu)] at hlast
        obtain rfl : u = t := Option.some.inj hlast
        exact take_takeAll h
      · rw [List.find?_cons_of_neg (by simpa using hu)] at hlast
        rw [take_of_ne (by simpa using hu)]
        exact ih hlast

end AxisView

namespace Response

-- An axis of the coverage and what an answer has of it: the last subset on the axis gives the
-- cells, and without one they are all there.
structure Settles (r : GetCoverage) (a : GridAxis) (b : AxisView) : Prop where
  domain_eq : b.domain = a.domain
  native_eq : b.native = a.cells
  named : ∀ t, r.carried a.domain.name = some t →
    ∃ lo hi, a.domain.resolve t a.cells = .ok (lo, hi) ∧ b.cells = ⟨lo, hi, some t⟩
  unnamed : (∀ t ∈ r.subsets, t.axis ≠ a.domain.name) → b.cells = a.cells ∧ b.cells.subset = none

section Settling

variable {r : GetCoverage} {axes : List AxisView} {a : GridAxis}

-- The axis that admits a subset is the one with its name.
theorem admits_of_accepts (hnames : DistinctNames axes) (haccepts : Accepts axes r.subsets)
    {view : AxisView} (hview : view ∈ axes) {t : Subset} (ht : t ∈ r.subsets)
    (haxis : t.axis = view.domain.name) : view.Admits t := by
  obtain ⟨b, hb, hadmits⟩ := haccepts t ht
  obtain rfl : view = b :=
    List.inj_on_of_nodup_map hnames hview hb (haxis.symm.trans hadmits.1)
  exact hadmits

theorem settles_takeAll (hnames : DistinctNames axes) (haccepts : Accepts axes r.subsets)
    (ha : a.view ∈ axes) (hfresh : a.cells.subset = none) :
    Settles r a (a.view.takeAll r.subsets) := by
  refine ⟨AxisView.takeAll_domain _ _, AxisView.takeAll_native _ _, fun t hlast => ?_,
    fun hunnamed => ?_⟩
  · have ht : t ∈ r.subsets := List.mem_reverse.mp (List.mem_of_find?_eq_some hlast)
    have haxis : t.axis = a.domain.name := by simpa using List.find?_some hlast
    have hadmits := admits_of_accepts hnames haccepts ha ht haxis
    have htaken : a.view.takeAll r.subsets = a.view.take t :=
      AxisView.takeAll_of_last hlast hadmits
    obtain ⟨-, lo, hi, hresolve, -⟩ := hadmits
    exact ⟨lo, hi, hresolve, by rw [htaken, AxisView.take_of_resolve haxis hresolve]⟩
  · rw [AxisView.takeAll_of_forall_ne hunnamed]
    exact ⟨rfl, hfresh⟩

end Settling

-- A request for a coverage other than one of points is answered exactly if each of its subsets is
-- on an axis and has its bounds in order among the native cells there. The last subset on an axis
-- settles it, the rest of the coverage stays as it is, and subsets on distinct axes may come in any
-- order.
theorem make_settles (d : CoverageDef) (c : Coverage) (store : Store) (r : GetCoverage)
    (hvalid : Coverage.ofDef d = .ok c) (hread : store.read r.id = .ok c)
    (haligned : c.checkAligned = .ok ()) (hkind : c.kind ≠ .multiPoint) :
    ((∃ ctx, Context.make r store = .ok ctx) ↔
      ∀ t ∈ r.subsets, ∃ a ∈ c.axes, t.axis = a.domain.name ∧
        ∃ lo hi, a.domain.resolve t a.cells = .ok (lo, hi) ∧ lo ≤ hi ∧ a.cells.lo ≤ lo ∧
          hi ≤ a.cells.hi) ∧
      (∀ ctx, Context.make r store = .ok ctx →
        ctx.requestedId = r.id ∧ ctx.coverage = c ∧
          List.Forall₂ (Settles r) c.axes ctx.axes) ∧
      ∀ others, (r.subsets.map (·.axis)).Nodup → others.Perm r.subsets →
        ∀ ctx, Context.make { r with subsets := others } store = .ok ctx ↔
          Context.make r store = .ok ctx := by
  obtain ⟨hnames, hfresh⟩ := Coverage.names_of_ofDef hvalid
  have hmake : ∀ subsets ctx, Context.make { r with subsets := subsets } store = .ok ctx ↔
      Accepts (c.axes.map GridAxis.view) subsets ∧
        ctx = ⟨r.id, c, (c.axes.map GridAxis.view).map (·.takeAll subsets)⟩ := fun subsets ctx =>
    Context.make_eq_ok_iff (r := { r with subsets := subsets }) hread haligned hkind hnames
  refine ⟨?_, fun ctx hctx => ?_, fun others hdistinct hperm ctx => ?_⟩
  · have haccepts : (∃ ctx, Context.make r store = .ok ctx) ↔
        Accepts (c.axes.map GridAxis.view) r.subsets := by
      simp [hmake r.subsets]
    rw [haccepts]
    simp only [Accepts, List.mem_map, exists_exists_and_eq_and, AxisView.Admits, GridAxis.view]
  · obtain ⟨haccepts, rfl⟩ := (hmake r.subsets ctx).mp hctx
    refine ⟨rfl, rfl, ?_⟩
    rw [List.map_map, List.forall₂_map_right_iff, List.forall₂_same]
    intro a ha
    have hview : a.view ∈ c.axes.map GridAxis.view := List.mem_map_of_mem ha
    exact settles_takeAll hnames haccepts hview (hfresh _ hview).2
  · have haccepts : Accepts (c.axes.map GridAxis.view) others ↔
        Accepts (c.axes.map GridAxis.view) r.subsets := by
      simp only [Accepts, hperm.mem_iff]
    have htaken : (fun a : AxisView => a.takeAll others) = (·.takeAll r.subsets) := by
      funext a
      exact (a.takeAll_perm hdistinct hperm.symm).symm
    rw [hmake others ctx, haccepts, htaken, ← hmake r.subsets ctx]

-- The second trim of one axis is open above and goes to the last cell, although the first one ends
-- before it. With the slice in front of it the answer is the same.
theorem make_settles_twice :
    ∃ store c ctx, Store.ofDefs [Sample.airTemperature "T"] = .ok store ∧
      Coverage.ofDef (Sample.airTemperature "T") = .ok c ∧
      Context.make { id := "T", subsets := [.trim "x" "2" "5", .slice "y" "3", .trim "x" "4" "*"] }
        store = .ok ctx ∧
      ctx.cells = [⟨4, 19, some (.trim "x" "4" "*")⟩, ⟨3, 3, some (.slice "y" "3")⟩] ∧
      List.Forall₂
        (Settles { id := "T", subsets := [.trim "x" "2" "5", .slice "y" "3", .trim "x" "4" "*"] })
        c.axes ctx.axes ∧
      Context.make { id := "T", subsets := [.slice "y" "3", .trim "x" "4" "*"] } store =
        .ok ctx := by
  obtain ⟨store, c, ctx, hstore, hc, hread, haligned, hkind, hctx, hcells, hlast⟩ :
      ∃ store c ctx, Store.ofDefs [Sample.airTemperature "T"] = .ok store ∧
        Coverage.ofDef (Sample.airTemperature "T") = .ok c ∧ store.read "T" = .ok c ∧
        c.checkAligned = .ok () ∧ c.kind ≠ .multiPoint ∧
        Context.make
          { id := "T", subsets := [.trim "x" "2" "5", .slice "y" "3", .trim "x" "4" "*"] } store =
          .ok ctx ∧
        ctx.cells = [⟨4, 19, some (.trim "x" "4" "*")⟩, ⟨3, 3, some (.slice "y" "3")⟩] ∧
        Context.make { id := "T", subsets := [.trim "x" "4" "*", .slice "y" "3"] } store =
          .ok ctx :=
    ⟨_, _, _, rfl, rfl, rfl, rfl, by decide, rfl, rfl, rfl⟩
  obtain ⟨-, hsettles, -⟩ := make_settles (Sample.airTemperature "T") c store
    { id := "T", subsets := [.trim "x" "2" "5", .slice "y" "3", .trim "x" "4" "*"] } hc hread
    haligned hkind
  obtain ⟨-, -, hreorder⟩ := make_settles (Sample.airTemperature "T") c store
    { id := "T", subsets := [.trim "x" "4" "*", .slice "y" "3"] } hc hread haligned hkind
  exact ⟨store, c, ctx, hstore, hc, hctx, hcells, (hsettles ctx hctx).2.2,
    (hreorder [.slice "y" "3", .trim "x" "4" "*"] (by decide) (List.Perm.swap _ _ []) ctx).mpr
      hlast⟩

end Response

end Datacube
