import Datacube.Proofs.Schema.Selected
import Datacube.Response.Context

-- When the subsets of a request are accepted, and what they leave of the axes.
namespace Datacube.Response.Context

open Result

variable {c : Coverage} {axes out : List AxisView} {t : Subset} {subsets : List Subset}

theorem checkWithin_eq_ok_iff {lo hi : Int} {extent : CellExtent} :
    checkWithin t lo hi extent = .ok () ↔ lo ≤ hi ∧ extent.lo ≤ lo ∧ hi ≤ extent.hi := by
  simp only [checkWithin, ite_error_eq_ok, not_or, Int.not_lt, and_true]

-- Whatever the kind of the coverage, only the cells change, and they carry the subset.
theorem narrowAxis_eq_ok {kind : CoverageKind} {a b : AxisView} (h : narrowAxis kind a t = .ok b) :
    b.domain = a.domain ∧ b.native = a.native ∧ b.cells.subset = some t := by
  unfold narrowAxis at h
  split at h
  · simp only [bind_eq_ok, pure_eq_ok, CellExtent.applySubset, ite_error_eq_ok,
      Except.ok.injEq] at h
    obtain ⟨_, ⟨lo, -, hi, -, -, rfl⟩, rfl⟩ := h
    exact ⟨rfl, rfl, rfl⟩
  · simp only [bind_eq_ok, pure_eq_ok, Prod.exists] at h
    obtain ⟨lo, hi, -, ⟨⟩, -, rfl⟩ := h
    exact ⟨rfl, rfl, rfl⟩

-- A subset changes one axis, the first of its name.
theorem narrow_eq_ok (h : narrow c axes t = .ok out) :
    ∃ i a b, axes[i]? = some a ∧ a.domain.name = t.axis ∧ narrowAxis c.kind a t = .ok b ∧
      out = axes.set i b := by
  unfold narrow at h
  split at h
  · cases h
  · next a i hfind =>
    simp only [bind_eq_ok, pure_eq_ok] at h
    obtain ⟨b, hb, rfl⟩ := h
    exact ⟨i, a, b, List.mem_zipIdx_iff_getElem?.mp (List.mem_of_find?_eq_some hfind),
      by simpa using List.find?_some hfind, hb, rfl⟩

theorem map_set_of_eq {α : Type} (f : AxisView → α) {a b : AxisView} {i : Nat}
    (ha : axes[i]? = some a) (hf : f b = f a) : (axes.set i b).map f = axes.map f := by
  obtain ⟨hi, rfl⟩ := List.getElem?_eq_some_iff.mp ha
  have hmap : i < (axes.map f).length := by simpa using hi
  rw [List.map_set, hf, ← List.getElem_map f (h := hmap), List.set_getElem_self]

-- What subsets never change: the axes and the cells they start with.
theorem narrow_keeps (h : narrow c axes t = .ok out) :
    out.map (·.domain) = axes.map (·.domain) ∧ out.map (·.native) = axes.map (·.native) := by
  obtain ⟨i, a, b, ha, -, hb, rfl⟩ := narrow_eq_ok h
  obtain ⟨hdomain, hnative, -⟩ := narrowAxis_eq_ok hb
  exact ⟨map_set_of_eq (·.domain) ha hdomain, map_set_of_eq (·.native) ha hnative⟩

theorem foldlM_narrow_keeps (h : subsets.foldlM (narrow c) axes = .ok out) :
    out.map (·.domain) = axes.map (·.domain) ∧ out.map (·.native) = axes.map (·.native) := by
  refine foldlM_preserves (P := fun views : List AxisView =>
    views.map (·.domain) = axes.map (·.domain) ∧ views.map (·.native) = axes.map (·.native))
    ?_ ⟨rfl, rfl⟩ h
  intro t _ views more hviews hmore
  obtain ⟨hdomains, hnatives⟩ := narrow_keeps hmore
  exact ⟨hdomains.trans hviews.1, hnatives.trans hviews.2⟩

-- Each axis carries the last of the subsets that name it.
def Carries (axes : List AxisView) (subsets : List Subset) : Prop :=
  ∀ a ∈ axes, a.cells.subset = subsets.reverse.find? (·.axis = a.domain.name)

theorem narrow_carries (hnames : DistinctNames axes) (hcarries : Carries axes subsets)
    (h : narrow c axes t = .ok out) : Carries out (subsets ++ [t]) := by
  obtain ⟨i, a, b, ha, hname, hb, rfl⟩ := narrow_eq_ok h
  obtain ⟨hdomain, -, hsubset⟩ := narrowAxis_eq_ok hb
  intro view hview
  obtain ⟨j, hj⟩ := List.getElem?_of_mem hview
  rw [List.reverse_append, List.reverse_singleton, List.singleton_append]
  by_cases hij : i = j
  · -- The axis that the subset is on.
    subst hij
    rw [List.getElem?_set_self (List.getElem?_eq_some_iff.mp ha).1] at hj
    obtain rfl : b = view := Option.some.inj hj
    rw [hsubset, List.find?_cons_of_pos (by simp [hdomain, hname])]
  · rw [List.getElem?_set_ne hij] at hj
    have hother : t.axis ≠ view.domain.name := by
      intro hsame
      exact hij (hnames.place_eq ha hj (hname.trans hsame))
    rw [List.find?_cons_of_neg (by simpa using hother)]
    exact hcarries view (List.mem_of_getElem? hj)

theorem foldlM_narrow_carries (hnames : DistinctNames axes)
    (hnone : ∀ a ∈ axes, a.cells.subset = none) (h : subsets.foldlM (narrow c) axes = .ok out) :
    Carries out subsets := by
  induction subsets using List.reverseRecOn generalizing out with
  | nil =>
      obtain rfl : axes = out := pure_eq_ok.mp h
      exact hnone
  | append_singleton subsets t ih =>
      rw [List.foldlM_append, bind_eq_ok] at h
      obtain ⟨views, hviews, hlast⟩ := h
      simp only [List.foldlM_cons, List.foldlM_nil, bind_pure] at hlast
      have hdistinct : DistinctNames views := by
        have hdomains := congrArg (List.map Axis.name) (foldlM_narrow_keeps hviews).1
        rw [List.map_map, List.map_map] at hdomains
        show (views.map (Axis.name ∘ (·.domain))).Nodup
        rw [hdomains]
        exact hnames
      exact narrow_carries hdistinct (ih hviews) hlast

theorem narrowAxis_eq_ok_iff {kind : CoverageKind} {a b : AxisView} (hkind : kind ≠ .multiPoint)
    (haxis : t.axis = a.domain.name) :
    narrowAxis kind a t = .ok b ↔ a.Admits t ∧ b = a.take t := by
  simp only [narrowAxis, if_neg hkind, bind_eq_ok, pure_eq_ok, Prod.exists]
  constructor
  · rintro ⟨lo, hi, hresolve, ⟨⟩, hwithin, rfl⟩
    exact ⟨⟨haxis, lo, hi, hresolve, checkWithin_eq_ok_iff.mp hwithin⟩,
      (AxisView.take_of_resolve haxis hresolve).symm⟩
  · rintro ⟨⟨-, lo, hi, hresolve, hwithin⟩, rfl⟩
    exact ⟨lo, hi, hresolve, (), checkWithin_eq_ok_iff.mpr hwithin,
      (AxisView.take_of_resolve haxis hresolve).symm⟩

-- Changing the one axis of a subset is the same as taking the subset on all axes.
theorem set_take {a : AxisView} {i : Nat} (hnames : DistinctNames axes) (ha : axes[i]? = some a)
    (haxis : a.domain.name = t.axis) : axes.set i (a.take t) = axes.map (·.take t) := by
  refine List.ext_getElem? fun j => ?_
  rw [List.getElem?_map]
  by_cases hij : i = j
  · rw [← hij, ha, List.getElem?_set_self (List.getElem?_eq_some_iff.mp ha).1, Option.map_some]
  · rw [List.getElem?_set_ne hij]
    cases hb : axes[j]? with
    | none => rfl
    | some b =>
        have hne : t.axis ≠ b.domain.name := fun h => hij (hnames.place_eq ha hb (haxis.trans h))
        rw [Option.map_some, AxisView.take_of_ne hne]

section Distinct

variable (hkind : c.kind ≠ .multiPoint)

include hkind

theorem narrow_eq_ok_iff (hnames : DistinctNames axes) :
    narrow c axes t = .ok out ↔ (∃ a ∈ axes, a.Admits t) ∧ out = axes.map (·.take t) := by
  unfold narrow
  split
  · next hfind =>
    -- No axis has the name of the subset.
    simp only [reduceCtorEq, false_iff, not_and]
    rintro ⟨a, ha, hadmits, -⟩
    obtain ⟨i, hi⟩ := List.getElem?_of_mem ha
    exact absurd (hnames.find?_eq_some_iff.mpr ⟨hi, hadmits.symm⟩) (by simp [hfind])
  · next a i hfind =>
    obtain ⟨hget, hname⟩ := hnames.find?_eq_some_iff.mp hfind
    simp only [bind_eq_ok, pure_eq_ok, narrowAxis_eq_ok_iff hkind hname.symm]
    constructor
    · rintro ⟨_, ⟨hadmits, rfl⟩, rfl⟩
      exact ⟨⟨a, List.mem_of_getElem? hget, hadmits⟩, set_take hnames hget hname⟩
    · rintro ⟨⟨b, hb, hadmits⟩, rfl⟩
      obtain ⟨j, hj⟩ := List.getElem?_of_mem hb
      obtain rfl := hnames.place_eq hget hj (hname.trans hadmits.1)
      obtain rfl : a = b := Option.some.inj (hget.symm.trans hj)
      exact ⟨_, ⟨hadmits, rfl⟩, set_take hnames hget hname⟩

-- Subsets are accepted one by one: none changes what another one needs.
theorem foldlM_narrow_eq_ok_iff (hnames : DistinctNames axes) :
    subsets.foldlM (narrow c) axes = .ok out ↔
      Accepts axes subsets ∧ out = axes.map (·.takeAll subsets) := by
  induction subsets generalizing axes with
  | nil =>
      have hnone : Accepts axes [] := by simp [Accepts]
      simp [hnone, eq_comm (a := out)]
  | cons t subsets ih =>
      have htaken : DistinctNames (axes.map (·.take t)) := hnames.map_takeAll [t]
      have hothers : Accepts (axes.map (·.take t)) subsets ↔ Accepts axes subsets :=
        accepts_map_takeAll [t]
      simp only [List.foldlM_cons, bind_eq_ok, narrow_eq_ok_iff hkind hnames]
      constructor
      · rintro ⟨_, ⟨ht, rfl⟩, hrest⟩
        obtain ⟨haccepts, rfl⟩ := (ih htaken).mp hrest
        exact ⟨List.forall_mem_cons.mpr ⟨ht, hothers.mp haccepts⟩, List.map_map⟩
      · rintro ⟨haccepts, rfl⟩
        obtain ⟨ht, hsubsets⟩ := List.forall_mem_cons.mp haccepts
        exact ⟨_, ⟨ht, rfl⟩, (ih htaken).mpr ⟨hothers.mpr hsubsets, by simp [Function.comp_def]⟩⟩

end Distinct

theorem make_eq_ok_iff {r : GetCoverage} {store : Store} {ctx : Context}
    (hread : store.read r.id = .ok c) (haligned : c.checkAligned = .ok ())
    (hkind : c.kind ≠ .multiPoint) (hnames : DistinctNames (c.axes.map GridAxis.view)) :
    make r store = .ok ctx ↔ Accepts (c.axes.map GridAxis.view) r.subsets ∧
      ctx = ⟨r.id, c, (c.axes.map GridAxis.view).map (·.takeAll r.subsets)⟩ := by
  simp only [make, hread, haligned, ok_bind, bind_eq_ok, pure_eq_ok,
    foldlM_narrow_eq_ok_iff hkind hnames]
  constructor
  · rintro ⟨_, ⟨haccepts, rfl⟩, rfl⟩
    exact ⟨haccepts, rfl⟩
  · rintro ⟨haccepts, rfl⟩
    exact ⟨_, ⟨haccepts, rfl⟩, rfl⟩

-- The axes of an answer, whatever the kind of its coverage: those of the coverage, each with the
-- last of the subsets that name it.
theorem make_keeps {r : GetCoverage} {store : Store} {ctx : Context}
    (h : make r store = .ok ctx) :
    store.read r.id = .ok ctx.coverage ∧ ctx.requestedId = r.id ∧
      ctx.axes.map (·.domain) = ctx.coverage.axes.map (·.domain) ∧
      ctx.axes.map (·.native) = ctx.coverage.axes.map (·.cells) := by
  simp only [make, bind_eq_ok, pure_eq_ok] at h
  obtain ⟨c, hread, _, -, axes, haxes, rfl⟩ := h
  obtain ⟨hdomains, hnatives⟩ := foldlM_narrow_keeps haxes
  rw [List.map_map] at hdomains hnatives
  exact ⟨hread, rfl, hdomains, hnatives⟩

theorem make_carries {d : CoverageDef} {r : GetCoverage} {store : Store} {ctx : Context}
    (hvalid : Coverage.ofDef d = .ok ctx.coverage) (h : make r store = .ok ctx) :
    Carries ctx.axes r.subsets := by
  obtain ⟨hnames, hfresh⟩ := Coverage.names_of_ofDef hvalid
  simp only [make, bind_eq_ok, pure_eq_ok] at h
  obtain ⟨c, -, _, -, axes, haxes, rfl⟩ := h
  exact foldlM_narrow_carries hnames (fun a ha => (hfresh a ha).2) haxes

end Datacube.Response.Context
