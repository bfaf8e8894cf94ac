import Datacube.Proofs.Schema.Sound

-- What subsets select of axes with distinct names: each subset is on one axis and leaves the
-- others as they are.
namespace Datacube

open Result

def DistinctNames (axes : List AxisView) : Prop :=
  (axes.map (·.domain.name)).Nodup

section Names

variable {axes : List AxisView} {a b : AxisView} {name : String} {i j : Nat}

theorem DistinctNames.place_eq (hnames : DistinctNames axes) (ha : axes[i]? = some a)
    (hb : axes[j]? = some b) (hname : a.domain.name = b.domain.name) : i = j := by
  have hi : i < axes.length := (List.getElem?_eq_some_iff.mp ha).1
  exact (List.getElem?_inj (by simpa using hi) hnames).mp (by simp [ha, hb, hname])

-- The first axis of a name is the only one.
theorem DistinctNames.find?_eq_some_iff (hnames : DistinctNames axes) :
    (axes.zipIdx.find? fun (axis, _) => axis.domain.name = name) = some (a, i) ↔
      axes[i]? = some a ∧ a.domain.name = name := by
  constructor
  · intro h
    exact ⟨List.mem_zipIdx_iff_getElem?.mp (List.mem_of_find?_eq_some h),
      by simpa using List.find?_some h⟩
  · rintro ⟨hget, hname⟩
    cases hfind : axes.zipIdx.find? fun (axis, _) => axis.domain.name = name with
    | none =>
        have hmem : (a, i) ∈ axes.zipIdx := List.mem_zipIdx_iff_getElem?.mpr hget
        simpa [hname] using List.find?_eq_none.mp hfind (a, i) hmem
    | some found =>
        obtain ⟨b, j⟩ := found
        have hget' := List.mem_zipIdx_iff_getElem?.mp (List.mem_of_find?_eq_some hfind)
        have hname' : b.domain.name = name := by simpa using List.find?_some hfind
        obtain rfl := hnames.place_eq hget hget' (hname.trans hname'.symm)
        rw [Option.some.inj (hget.symm.trans hget')]

theorem Schema.requireAxis_eq_ok_iff {s : Schema} (hnames : DistinctNames s.axes) :
    s.requireAxis name = .ok (i, a) ↔ s.axes[i]? = some a ∧ a.domain.name = name := by
  rw [← hnames.find?_eq_some_iff]
  unfold Schema.requireAxis
  split
  · next b j hfind => simp [hfind, and_comm]
  · next hfind => simp [hfind]

end Names

-- A subset on the axis, with its bounds in order among the native cells.
def AxisView.Admits (a : AxisView) (t : Subset) : Prop :=
  t.axis = a.domain.name ∧ ∃ lo hi, a.domain.resolve t a.native = .ok (lo, hi) ∧ lo ≤ hi ∧
    a.native.lo ≤ lo ∧ hi ≤ a.native.hi

-- Every subset is on one of the axes and has room there.
def Accepts (axes : List AxisView) (subsets : List Subset) : Prop :=
  ∀ t ∈ subsets, ∃ a ∈ axes, a.Admits t

-- The axis with the cells of a subset, unless the subset is on another axis.
def AxisView.take (a : AxisView) (t : Subset) : AxisView :=
  if t.axis = a.domain.name then
    match a.domain.resolve t a.native with
    | .ok (lo, hi) => { a with cells := ⟨lo, hi, some t⟩ }
    | .error _ => a
  else a

-- The axis as the last of the subsets on it leaves it.
def AxisView.takeAll (subsets : List Subset) (a : AxisView) : AxisView :=
  subsets.foldl AxisView.take a

namespace AxisView

variable {a : AxisView} {t u : Subset} {subsets : List Subset} {lo hi : Int}

@[simp] theorem take_domain (a : AxisView) (t : Subset) : (a.take t).domain = a.domain := by
  unfold take
  split
  · split <;> rfl
  · rfl

@[simp] theorem take_native (a : AxisView) (t : Subset) : (a.take t).native = a.native := by
  unfold take
  split
  · split <;> rfl
  · rfl

theorem take_of_ne (h : t.axis ≠ a.domain.name) : a.take t = a := if_neg h

theorem take_of_resolve (haxis : t.axis = a.domain.name)
    (hresolve : a.domain.resolve t a.native = .ok (lo, hi)) :
    a.take t = { a with cells := ⟨lo, hi, some t⟩ } := by
  simp [take, haxis, hresolve]

@[simp] theorem admits_take : (a.take t).Admits u ↔ a.Admits u := by
  simp [Admits]

-- Subsets on different axes do not interfere.
theorem take_comm (h : t.axis = u.axis → t = u) : (a.take t).take u = (a.take u).take t := by
  by_cases ht : t.axis = a.domain.name
  · by_cases hu : u.axis = a.domain.name
    · rw [h (ht.trans hu.symm)]
    · rw [take_of_ne hu, take_of_ne (by simpa using hu)]
  · rw [take_of_ne ht, @take_of_ne (a.take u) t (by simpa using ht)]

@[simp] theorem takeAll_nil (a : AxisView) : a.takeAll [] = a := rfl

@[simp] theorem takeAll_cons (t : Subset) (subsets : List Subset) (a : AxisView) :
    a.takeAll (t :: subsets) = (a.take t).takeAll subsets := rfl

@[simp] theorem takeAll_domain (subsets : List Subset) (a : AxisView) :
    (a.takeAll subsets).domain = a.domain := by
  induction subsets generalizing a with
  | nil => rfl
  | cons t subsets ih => rw [takeAll_cons, ih, take_domain]

@[simp] theorem takeAll_native (subsets : List Subset) (a : AxisView) :
    (a.takeAll subsets).native = a.native := by
  induction subsets generalizing a with
  | nil => rfl
  | cons t subsets ih => rw [takeAll_cons, ih, take_native]

@[simp] theorem admits_takeAll : (a.takeAll subsets).Admits t ↔ a.Admits t := by
  simp [Admits]

theorem takeAll_of_forall_ne (h : ∀ t ∈ subsets, t.axis ≠ a.domain.name) :
    a.takeAll subsets = a := by
  induction subsets with
  | nil => rfl
  | cons t subsets ih =>
      simp only [List.mem_cons, forall_eq_or_imp] at h
      rw [takeAll_cons, take_of_ne h.1, ih h.2]

theorem takeAll_append (subsets more : List Subset) (a : AxisView) :
    a.takeAll (subsets ++ more) = (a.takeAll subsets).takeAll more :=
  List.foldl_append

section Distinct

variable (hdistinct : (subsets.map (·.axis)).Nodup)

include hdistinct

-- Of subsets on distinct axes only one matters to an axis.
theorem takeAll_of_mem (ht : t ∈ subsets) (haxis : t.axis = a.domain.name) :
    a.takeAll subsets = a.take t := by
  induction subsets with
  | nil => cases ht
  | cons u subsets ih =>
      obtain ⟨hu, hrest⟩ := List.nodup_cons.mp hdistinct
      rw [takeAll_cons]
      rcases List.mem_cons.mp ht with rfl | ht
      · refine takeAll_of_forall_ne fun v hv hname => hu ?_
        exact List.mem_map.mpr ⟨v, hv, by simpa [haxis] using hname⟩
      · have hne : u.axis ≠ a.domain.name := by
          intro hname
          exact hu (List.mem_map.mpr ⟨t, ht, haxis.trans hname.symm⟩)
        rw [take_of_ne hne, ih hrest ht]

-- The order of subsets on distinct axes does not matter.
theorem takeAll_perm {others : List Subset} (hperm : subsets.Perm others) (a : AxisView) :
    a.takeAll subsets = a.takeAll others := by
  refine hperm.foldl_eq' (fun t ht u hu a => take_comm fun hname => ?_) a
  exact List.inj_on_of_nodup_map hdistinct ht hu hname

end Distinct

end AxisView

section Coverages

-- Fitting an axis to its cells changes nothing but its resolution.
theorem Axis.eq_of_fitted {a b : Axis} {cells : Nat} (h : a.fitted cells = .ok b) :
    b = { a with resolution := b.resolution } := by
  unfold Axis.fitted at h
  split at h
  · obtain ⟨-, _, _, _, -, -, -, rfl⟩ := Axis.setResolution_eq_ok h
    rfl
  · rw [← Except.ok.inj h]

theorem Axis.name_of_fitted {a b : Axis} {cells : Nat} (h : a.fitted cells = .ok b) :
    b.name = a.name := by
  rw [eq_of_fitted h]

-- Axes of a coverage have names of their own, and no subset has narrowed them.
theorem Coverage.names_of_makeAxes {coverage : String} {seen : List String}
    {defs : List (AxisDef × CellBounds)} {axes : List GridAxis}
    (h : Coverage.makeAxes coverage seen defs = .ok axes) :
    (axes.map (·.domain.name)).Nodup ∧
      ∀ axis ∈ axes, axis.domain.name ∉ seen ∧ axis.cells.subset = none := by
  induction defs generalizing seen axes with
  | nil =>
      obtain rfl := Except.ok.inj h
      simp
  | cons d defs ih =>
      simp only [Coverage.makeAxes, bind_eq_ok, pure_eq_ok] at h
      obtain ⟨axis, haxis, more, hmore, rfl⟩ := h
      obtain ⟨a, -, hnew, hcells, hfitted⟩ := Coverage.makeAxis_eq_ok_iff.mp haxis
      obtain ⟨-, -, -, hsubset⟩ := CellExtent.ofBounds_eq_ok_iff.mp hcells
      obtain ⟨hnodup, hmore⟩ := ih hmore
      rw [← Axis.name_of_fitted hfitted] at hnew
      simp only [List.map_cons, List.nodup_cons, List.mem_cons, forall_eq_or_imp, List.mem_map,
        not_exists, not_and, not_or] at hmore ⊢
      exact ⟨⟨fun b hb => (hmore b hb).1.1, hnodup⟩, ⟨hnew, hsubset⟩,
        fun b hb => ⟨(hmore b hb).1.2, (hmore b hb).2⟩⟩

theorem Coverage.names_of_ofDef {d : CoverageDef} {c : Coverage} (h : Coverage.ofDef d = .ok c) :
    DistinctNames (c.axes.map GridAxis.view) ∧
      ∀ a ∈ c.axes.map GridAxis.view, a.cells = a.native ∧ a.cells.subset = none := by
  simp only [Coverage.ofDef, throw_bind, ite_throw_eq_ok, bind_eq_ok, pure_eq_ok] at h
  obtain ⟨-, -, -, axes, haxes, rfl⟩ := h
  obtain ⟨hnodup, hsubset⟩ := names_of_makeAxes haxes
  simp only [DistinctNames, GridAxis.view, List.map_map, Function.comp_def, List.mem_map,
    forall_exists_index, and_imp, forall_apply_eq_imp_iff₂, true_and]
  exact ⟨hnodup, fun axis haxis => (hsubset axis haxis).2⟩

end Coverages

section Axes

variable {axes : List AxisView} {subsets : List Subset}

theorem DistinctNames.map_takeAll (hnames : DistinctNames axes) (subsets : List Subset) :
    DistinctNames (axes.map (·.takeAll subsets)) := by
  simpa [DistinctNames, Function.comp_def] using hnames

theorem accepts_map_takeAll (others : List Subset) :
    Accepts (axes.map (·.takeAll others)) subsets ↔ Accepts axes subsets := by
  simp [Accepts]

end Axes

end Datacube
