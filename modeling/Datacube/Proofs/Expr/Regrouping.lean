import Datacube.Proofs.Expr.Layer
import Datacube.Proofs.Expr.Scaling
import Datacube.Sample.Coverages
import Mathlib.Data.List.Perm.Basic
import Mathlib.Data.List.SplitBy

-- The axes that an element names in another order, each with its own parameters.
namespace Datacube

open Markup (Element)
open Result

namespace Expr

-- The parameters of an element in runs. Every run but the first begins with an axis, and so does
-- the first unless parameters stand before all axes.
def axisRuns (e : Element) : List (List Element) :=
  (e.children.filter (·.name ∈ subsetParameters)).splitBy fun _ next => next.name ≠ "axis"

-- The runs in another order. The other children stay in theirs, wherever they stand among the runs.
structure Regrouped (e e' : Element) : Prop where
  name : e'.name = e.name
  others : e'.children.filter (·.name ∉ subsetParameters) =
    e.children.filter (·.name ∉ subsetParameters)
  runs : (axisRuns e').Perm (axisRuns e)

theorem Regrouped.symm {e e' : Element} (h : Regrouped e e') : Regrouped e' e :=
  ⟨h.name.symm, h.others.symm, h.runs.symm⟩

theorem Regrouped.childBeside?_eq {e e' : Element} {names : List String} (h : Regrouped e e')
    (hnames : subsetParameters ⊆ names) : e'.childBeside? names = e.childBeside? names := by
  have hothers : ∀ children : List Element, children.find? (·.name ∉ names) =
      (children.filter (·.name ∉ subsetParameters)).find? (·.name ∉ names) := by
    intro children
    rw [List.find?_filter]
    congr 1
    funext c
    simpa using fun hc hmem => hc (hnames hmem)
  unfold Element.childBeside?
  rw [hothers, h.others, ← hothers]

-- The parameters of an axis, in a run that begins with it.
def AxisGroup.ofRun? : List Element → Option AxisGroup
  | [] => none
  | first :: rest =>
    if first.name = "axis" then
      some (rest.foldl AxisGroup.addParameter { axis := first.trimmedText })
    else none

section Collecting

variable {owner : String} {current : Option AxisGroup} {g : AxisGroup} {groups : List AxisGroup}
  {elements rest : List Element} {run : List Element} {runs : List (List Element)} {e : Element}

theorem axisGroups_filter (owner : String) (current : Option AxisGroup) (elements : List Element) :
    axisGroups owner current (elements.filter (·.name ∈ subsetParameters)) =
      axisGroups owner current elements := by
  induction elements generalizing current with
  | nil => rfl
  | cons e elements ih =>
      by_cases haxis : e.name = "axis"
      · rw [List.filter_cons_of_pos (by simp [haxis, subsetParameters])]
        simp only [axisGroups, if_pos haxis, ih]
      · by_cases hparameter : e.name ∈ subsetParameters
        · rw [List.filter_cons_of_pos (by simpa using hparameter)]
          simp only [axisGroups, if_neg haxis, if_pos hparameter, ih]
        · rw [List.filter_cons_of_neg (by simpa using hparameter)]
          simp only [axisGroups, if_neg haxis, if_neg hparameter, ih]

-- A parameter that belongs to the axis before it.
def FollowsAxis (e : Element) : Prop :=
  e.name ≠ "axis" ∧ e.name ∈ subsetParameters

theorem axisGroups_follow (hrest : ∀ e ∈ rest, FollowsAxis e) :
    axisGroups owner (some g) (rest ++ elements) =
      axisGroups owner (some (rest.foldl AxisGroup.addParameter g)) elements := by
  induction rest generalizing g with
  | nil => rfl
  | cons e rest ih =>
      obtain ⟨⟨haxis, hparameter⟩, hrest⟩ := List.forall_mem_cons.mp hrest
      rw [List.cons_append, axisGroups, if_neg haxis, if_pos hparameter, ih hrest]
      rfl

-- A run that begins with an axis.
def Headed (run : List Element) : Prop :=
  ∃ first rest, run = first :: rest ∧ first.name = "axis" ∧ ∀ e ∈ rest, FollowsAxis e

theorem axisGroups_flatten (hruns : ∀ run ∈ runs, Headed run) (owner : String)
    (current : Option AxisGroup) :
    ∃ groups, List.Forall₂ (fun run g => AxisGroup.ofRun? run = some g) runs groups ∧
      axisGroups owner current runs.flatten = .ok (current.toList ++ groups) := by
  induction runs generalizing current with
  | nil => exact ⟨[], .nil, by simp [axisGroups]⟩
  | cons run runs ih =>
      obtain ⟨⟨first, rest, rfl, haxis, hrest⟩, hmore⟩ := List.forall_mem_cons.mp hruns
      obtain ⟨groups, hgroups, hread⟩ :=
        ih hmore (some (rest.foldl AxisGroup.addParameter { axis := first.trimmedText }))
      refine ⟨_ :: groups, .cons (if_pos haxis) hgroups, ?_⟩
      simp only [List.flatten_cons, List.cons_append, axisGroups, if_pos haxis,
        axisGroups_follow hrest, hread, ok_bind]
      rfl

theorem forall_mem_tail_of_isChain {α : Type} {P : α → Prop} {as : List α}
    (h : as.IsChain fun _ next => P next) : ∀ a ∈ as.tail, P a := by
  induction h with
  | nil => simp
  | singleton => simp
  | cons_cons hnext _ ih => exact List.forall_mem_cons.mpr ⟨hnext, ih⟩

theorem flatten_axisRuns (e : Element) :
    (axisRuns e).flatten = e.children.filter (·.name ∈ subsetParameters) :=
  List.flatten_splitBy _ _

theorem parameter_of_mem_axisRuns (hrun : run ∈ axisRuns e) :
    ∀ p ∈ run, p.name ∈ subsetParameters := by
  intro p hp
  have hmem := List.mem_flatten_of_mem hrun hp
  rw [flatten_axisRuns] at hmem
  simpa using (List.mem_filter.mp hmem).2

theorem follows_of_mem_axisRuns (hrun : run ∈ axisRuns e) : ∀ p ∈ run.tail, FollowsAxis p := by
  intro p hp
  have hchain := List.isChain_of_mem_splitBy hrun
  simp only [decide_eq_true_eq] at hchain
  exact ⟨forall_mem_tail_of_isChain hchain p hp,
    parameter_of_mem_axisRuns hrun p (List.mem_of_mem_tail hp)⟩

theorem headed_of_mem_tail_axisRuns (hrun : run ∈ (axisRuns e).tail) : Headed run := by
  have hchain : (axisRuns e).IsChain fun _ next =>
      ∃ hnext : next ≠ [], (next.head hnext).name = "axis" :=
    (List.isChain_getLast_head_splitBy _ _).imp fun _ _ ⟨_, hnext, hhead⟩ =>
      ⟨hnext, by simpa using hhead⟩
  obtain ⟨hnext, hhead⟩ := forall_mem_tail_of_isChain hchain run hrun
  obtain ⟨first, rest, rfl⟩ := List.exists_cons_of_ne_nil hnext
  exact ⟨first, rest, rfl, hhead, follows_of_mem_axisRuns (List.mem_of_mem_tail hrun)⟩

-- Each run is collected on its own.
theorem axisGroups_eq_ok_iff :
    axisGroups owner none e.children = .ok groups ↔
      List.Forall₂ (fun run g => AxisGroup.ofRun? run = some g) (axisRuns e) groups := by
  rw [← axisGroups_filter, ← flatten_axisRuns]
  cases hruns : axisRuns e with
  | nil => cases groups <;> simp [axisGroups]
  | cons run runs =>
      have hrun : run ∈ axisRuns e := by simp [hruns]
      obtain ⟨first, rest, rfl⟩ := List.exists_cons_of_ne_nil (List.ne_nil_of_mem_splitBy hrun)
      by_cases haxis : first.name = "axis"
      · have hheaded : ∀ run ∈ (first :: rest) :: runs, Headed run :=
          List.forall_mem_cons.mpr ⟨⟨first, rest, rfl, haxis, follows_of_mem_axisRuns hrun⟩,
            fun run hmem => headed_of_mem_tail_axisRuns (by rwa [hruns])⟩
        obtain ⟨collected, hcollected, hread⟩ := axisGroups_flatten hheaded owner none
        rw [hread, Option.toList_none, List.nil_append, Except.ok.injEq]
        constructor
        · rintro rfl
          exact hcollected
        · exact List.right_unique_forall₂' (fun _ _ _ hg hg' => Option.some.inj (hg.symm.trans hg'))
            hcollected
      · -- A parameter before all axes is refused.
        have hparameter := parameter_of_mem_axisRuns hrun first (by simp)
        simp only [List.flatten_cons, List.cons_append, axisGroups, if_neg haxis, if_pos hparameter,
          reduceCtorEq, false_iff]
        rintro (_ | ⟨hfirst, -⟩)
        simp [AxisGroup.ofRun?, haxis] at hfirst

end Collecting

-- Two elements are read alike: both or neither, with the same text and schema.
structure ReadAlike (g : Grammar) (s : Scope) (e e' : Element) : Prop where
  accepted_iff : (∃ x, g.parseCoverage s e' = .ok x) ↔ ∃ x, g.parseCoverage s e = .ok x
  same : ∀ x x', g.parseCoverage s e = .ok x → g.parseCoverage s e' = .ok x' →
    x'.text = x.text ∧ x'.schema = x.schema

theorem readAlike_of_reads {g : Grammar} {s : Scope} {e e' : Element}
    (hthere : ∀ x, g.ReadsCoverage s e x →
      ∃ x', g.ReadsCoverage s e' x' ∧ x'.text = x.text ∧ x'.schema = x.schema)
    (hback : ∀ x, g.ReadsCoverage s e' x →
      ∃ x', g.ReadsCoverage s e x' ∧ x'.text = x.text ∧ x'.schema = x.schema) :
    ReadAlike g s e e' := by
  constructor
  · simp only [parseCoverage_eq_ok_iff]
    exact ⟨fun ⟨x, hx⟩ => (hback x hx).imp fun _ => And.left,
      fun ⟨x, hx⟩ => (hthere x hx).imp fun _ => And.left⟩
  · intro x x' hx hx'
    obtain ⟨x'', hx'', hsame⟩ := hthere x (parseCoverage_eq_ok_iff.mp hx)
    obtain rfl := Except.ok.inj (hx'.symm.trans (parseCoverage_eq_ok_iff.mpr hx''))
    exact hsame

section Subsets

variable {op : SubsetOp} {operand : Schema} {subsets subsets' : List Subset}
  {specs specs' : List SubsetSpec} {s : Scope} {e e' : Element}

theorem Regrouped.exists_perm_subsets (h : Regrouped e e')
    (hsubsets : axisSubsets e op = .ok subsets) :
    ∃ subsets', axisSubsets e' op = .ok subsets' ∧ subsets'.Perm subsets := by
  simp only [axisSubsets, bind_eq_ok, axisGroups_eq_ok_iff, mapM_eq_ok_iff] at hsubsets ⊢
  obtain ⟨groups, hgroups, hsubsets⟩ := hsubsets
  obtain ⟨groups', hgroups', hperm⟩ := List.perm_comp_forall₂ h.runs hgroups
  obtain ⟨subsets', hsubsets', hperm⟩ := List.perm_comp_forall₂ hperm hsubsets
  exact ⟨subsets', ⟨groups', hgroups', hsubsets'⟩, hperm⟩

theorem exists_perm_specs (hperm : subsets'.Perm subsets)
    (hspecs : resolveSpecs op operand [] subsets = .ok specs) :
    ∃ specs', resolveSpecs op operand [] subsets' = .ok specs' ∧ specs'.Perm specs := by
  simp only [resolveSpecs_iff_alone] at hspecs ⊢
  obtain ⟨hplaces, hspecs⟩ := hspecs
  obtain ⟨specs', hspecs', hperm⟩ := List.perm_comp_forall₂ hperm hspecs
  exact ⟨specs', ⟨(hperm.map _).nodup_iff.mpr hplaces, hspecs'⟩, hperm⟩

theorem find?_place_perm (hplaces : (specs.map (·.axis)).Nodup) (hperm : specs'.Perm specs)
    (place : Nat) : specs'.find? (·.axis = place) = specs.find? (·.axis = place) := by
  ext spec
  rw [find?_place_eq_some_iff hplaces,
    find?_place_eq_some_iff ((hperm.map _).nodup_iff.mpr hplaces), hperm.mem_iff]

theorem subsetSchema_perm (hplaces : (specs.map (·.axis)).Nodup) (hperm : specs'.Perm specs) :
    subsetSchema op operand specs' = subsetSchema op operand specs := by
  simp only [subsetSchema, subsetAxis, find?_place_perm hplaces hperm]

theorem term_subset_perm (hplaces : (specs.map (·.axis)).Nodup) (hperm : specs'.Perm specs)
    (y : CoverageExpr) (schema : Schema) :
    (CoverageExpr.subset op y specs' schema).term =
      (CoverageExpr.subset op y specs schema).term := by
  have hindex : subsetIndex specs' = subsetIndex specs := by
    funext slice place
    simp only [subsetIndex, find?_place_perm hplaces hperm]
  have hinterval : extendedInterval specs' = extendedInterval specs := by
    funext cells place
    simp only [extendedInterval, find?_place_perm hplaces hperm]
  cases op <;> simp only [CoverageExpr.term, hindex, hinterval]

theorem Regrouped.reads_subset {limit levels : Nat} {x : CoverageExpr} (h : Regrouped e e')
    (htag : e.name = op.tag) (hx : (Grammar.level limit levels).ReadsCoverage s e x) :
    ∃ x', (Grammar.level limit levels).ReadsCoverage s e' x' ∧ x'.text = x.text ∧
      x'.schema = x.schema := by
  obtain _ | levels := levels
  · exact (Grammar.not_readsCoverage_zero hx).elim
  obtain ⟨c, y, subsets, specs, hc, hy, hsubsets, hspecs, hsome, rfl⟩ :=
    (readsCoverage_subset_iff htag).mp hx
  obtain ⟨subsets', hsubsets', hperm⟩ := h.exists_perm_subsets hsubsets
  obtain ⟨specs', hspecs', hperm⟩ := exists_perm_specs hperm hspecs
  have hplaces := (resolveSpecs_iff_alone.mp hspecs).1
  have hsome' : specs' ≠ [] := by
    rintro rfl
    exact hsome hperm.nil_eq.symm
  rw [← h.childBeside?_eq (List.Subset.refl _)] at hc
  refine ⟨_, (readsCoverage_subset_iff (h.name.trans htag)).mpr
    ⟨c, y, subsets', specs', hc, hy, hsubsets', hspecs', hsome', rfl⟩, ?_, ?_⟩
  · rw [subsetSchema_perm hplaces hperm]
    exact congrArg Rasql.Term.text (term_subset_perm hplaces hperm y _)
  · exact subsetSchema_perm hplaces hperm

end Subsets

-- It does not matter in which order a trim, an extension or a slice names its axes.
theorem subset_regrouped (limit : Nat) (s : Scope) (op : SubsetOp) (e e' : Element)
    (htag : e.name = op.tag) (h : Regrouped e e') : ReadAlike (Grammar.upTo limit) s e e' :=
  readAlike_of_reads (fun _ hx => h.reads_subset htag hx)
    fun _ hx => h.symm.reads_subset (h.name.trans htag) hx

-- Bounds of an axis, and of another one with the upper bound first.
def xBounds (low high : String) : List Element :=
  [{ name := "axis", text := "x" }, { name := "lowerBound", text := low },
    { name := "upperBound", text := high }]

def yBounds (low high : String) : List Element :=
  [{ name := "axis", text := "y" }, { name := "upperBound", text := high },
    { name := "lowerBound", text := low }]

-- The operand stands between the two axes, or among the bounds of one of them.
def trimXY : Element where
  name := "trim"
  children := xBounds "10" "19" ++ { name := "coverage", text := "c" } :: yBounds "*" "7"

def trimYX : Element where
  name := "trim"
  children := yBounds "*" "7" ++
    [{ name := "axis", text := "x" }, { name := "coverage", text := "c" },
      { name := "lowerBound", text := "10" }, { name := "upperBound", text := "19" }]

theorem subset_regrouped_trimXY :
    Regrouped trimXY trimYX ∧
      ∃ store x x', Store.ofDefs [Sample.airTemperature "T"] = .ok store ∧
        (Grammar.upTo 3).parseCoverage ⟨store, [("c", ["T"])], []⟩ trimXY = .ok x ∧
        (Grammar.upTo 3).parseCoverage ⟨store, [("c", ["T"])], []⟩ trimYX = .ok x' ∧
        x.text = "(c)[10:19,0:7]" ∧ x'.text = x.text ∧ x'.schema = x.schema := by
  have hregrouped : Regrouped trimXY trimYX :=
    ⟨rfl, rfl, List.Perm.swap (xBounds "10" "19") (yBounds "*" "7") []⟩
  obtain ⟨store, x, hstore, hx, htext⟩ :
      ∃ store x, Store.ofDefs [Sample.airTemperature "T"] = .ok store ∧
        (Grammar.upTo 3).parseCoverage ⟨store, [("c", ["T"])], []⟩ trimXY = .ok x ∧
        x.text = "(c)[10:19,0:7]" :=
    ⟨_, _, rfl, rfl, rfl⟩
  obtain ⟨haccepted, hsame⟩ :=
    subset_regrouped 3 ⟨store, [("c", ["T"])], []⟩ .trim trimXY trimYX rfl hregrouped
  obtain ⟨x', hx'⟩ := haccepted.mpr ⟨x, hx⟩
  exact ⟨hregrouped, store, x, x', hstore, hx, hx', htext, hsame x x' hx hx'⟩

section Targets

variable {s : Scope} {e e' : Element} {targets targets' : List Subset}

-- The runs on an axis.
def runsOn (axis : String) (e : Element) : List (List Element) :=
  (axisRuns e).filter fun run => run.head?.map (·.trimmedText) = some axis

@[simp] theorem AxisGroup.axis_addParameter (g : AxisGroup) (e : Element) :
    (g.addParameter e).axis = g.axis := by
  unfold AxisGroup.addParameter
  split <;> rfl

@[simp] theorem AxisGroup.axis_foldl_addParameter (elements : List Element) (g : AxisGroup) :
    (elements.foldl AxisGroup.addParameter g).axis = g.axis := by
  induction elements generalizing g with
  | nil => rfl
  | cons e elements ih => rw [List.foldl_cons, ih, AxisGroup.axis_addParameter]

theorem AxisGroup.axis_of_ofRun? {run : List Element} {g : AxisGroup}
    (h : AxisGroup.ofRun? run = some g) : run.head?.map (·.trimmedText) = some g.axis := by
  cases run with
  | nil => cases h
  | cons first rest =>
      simp only [AxisGroup.ofRun?, Option.ite_none_right_eq_some, Option.some.injEq] at h
      obtain ⟨-, rfl⟩ := h
      simp

theorem filter_targets (htargets : axisSubsets e .trim = .ok targets)
    (htargets' : axisSubsets e' .trim = .ok targets') {axis : String}
    (hruns : runsOn axis e' = runsOn axis e) :
    targets'.filter (·.axis = axis) = targets.filter (·.axis = axis) := by
  simp only [axisSubsets, bind_eq_ok, axisGroups_eq_ok_iff, mapM_eq_ok_iff] at htargets htargets'
  obtain ⟨groups, hgroups, htargets⟩ := htargets
  obtain ⟨groups', hgroups', htargets'⟩ := htargets'
  have hfilter : groups'.filter (·.axis = axis) = groups.filter (·.axis = axis) :=
    filter_eq_of_forall₂ (fun _ _ _ hg hg' => Option.some.inj (hg.symm.trans hg'))
      (fun run g hg => by simp [AxisGroup.axis_of_ofRun? hg]) hgroups hgroups' hruns
  exact filter_eq_of_forall₂ (fun _ _ _ ht ht' => Except.ok.inj (ht.symm.trans ht'))
    (fun g t ht => by simp [(toSubset_trim_eq_ok ht).1]) htargets htargets' hfilter

theorem scaleAxis_exchanges : Exchanges Subset.axis scaleAxis := by
  intro t u schema next last hne hnext hlast
  obtain ⟨i, a, lo, hi, domain, ha, hresolve, hle, hdomain, rfl⟩ := scaleAxis_eq_ok_iff.mp hnext
  obtain ⟨j, b, lo', hi', domain', hb, hresolve', hle', hdomain', rfl⟩ :=
    scaleAxis_eq_ok_iff.mp hlast
  obtain ⟨haplace, haname⟩ := Schema.requireAxis_eq_ok ha
  obtain ⟨hbplace, hbname⟩ := Schema.requireAxis_eq_ok hb
  have hij : i ≠ j := by
    rintro rfl
    rw [List.getElem?_set_self (List.getElem?_eq_some_iff.mp haplace).1] at hbplace
    obtain rfl := Option.some.inj hbplace
    exact hne (by rw [← haname, ← hbname, Axis.name_of_fitted hdomain])
  rw [Schema.requireAxis_set_iff haplace (Axis.name_of_fitted hdomain) hij] at hb
  rw [List.getElem?_set_ne hij] at hbplace
  refine ⟨_, scaleAxis_eq_ok_iff.mpr
    ⟨j, b, lo', hi', domain', hb, hresolve', hle', hdomain', rfl⟩, scaleAxis_eq_ok_iff.mpr
    ⟨i, a, lo, hi, domain, ?_, hresolve, hle, hdomain, ?_⟩⟩
  · exact (Schema.requireAxis_set_iff hbplace (Axis.name_of_fitted hdomain') hij.symm).mpr ha
  · simp only [List.set_comm _ _ hij]

theorem readsCoverage_scale_iff {limit levels : Nat} {x : CoverageExpr} (htag : e.name = "scale") :
    (Grammar.level limit (levels + 1)).ReadsCoverage s e x ↔
      ∃ c y targets schema,
        e.childBeside? (subsetParameters ++ ["fieldInterpolation"]) = some c ∧
        (Grammar.level limit levels).ReadsCoverage s c y ∧ axisSubsets e .trim = .ok targets ∧
        targets.foldlM scaleAxis y.schema = .ok schema ∧ x = .scale y schema := by
  constructor
  · intro h
    have hread : tryCoverage (Grammar.level limit levels) s e = .ok (.matched x) := h
    simp only [tryCoverage, htag, parseScale, bind_eq_ok, pure_eq_ok, Attempt.matched.injEq,
      exists_eq_right] at hread
    split at hread
    · cases hread
    · next c hc =>
      simp only [bind_eq_ok, pure_eq_ok, parseCoverage_eq_ok_iff] at hread
      obtain ⟨y, hy, targets, htargets, schema, hschema, rfl⟩ := hread
      exact ⟨c, y, targets, schema, hc, hy, htargets, hschema, rfl⟩
  · rintro ⟨c, y, targets, schema, hc, hy, htargets, hschema, rfl⟩
    exact Grammar.readsCoverage_succ_iff.mpr (.scale htag ⟨c, hc, hy⟩ htargets hschema)

theorem Regrouped.reads_scale {limit levels : Nat} {x : CoverageExpr} (h : Regrouped e e')
    (htag : e.name = "scale") (hruns : ∀ axis, runsOn axis e' = runsOn axis e)
    (hx : (Grammar.level limit levels).ReadsCoverage s e x) :
    ∃ x', (Grammar.level limit levels).ReadsCoverage s e' x' ∧ x'.text = x.text ∧
      x'.schema = x.schema := by
  obtain _ | levels := levels
  · exact (Grammar.not_readsCoverage_zero hx).elim
  obtain ⟨c, y, targets, schema, hc, hy, htargets, hschema, rfl⟩ :=
    (readsCoverage_scale_iff htag).mp hx
  obtain ⟨targets', htargets', -⟩ := h.exists_perm_subsets htargets
  have hschema' := scaleAxis_exchanges.foldlM_eq_ok
    (fun axis => filter_targets htargets htargets' (hruns axis)) hschema
  rw [← h.childBeside?_eq (List.subset_append_left _ _)] at hc
  exact ⟨_, (readsCoverage_scale_iff (h.name.trans htag)).mpr
    ⟨c, y, targets', schema, hc, hy, htargets', hschema', rfl⟩, rfl, rfl⟩

end Targets

-- Nor does it matter for a scale, as long as the targets on each axis stay in their order: the last
-- of them counts.
theorem scale_regrouped (limit : Nat) (s : Scope) (e e' : Element) (htag : e.name = "scale")
    (h : Regrouped e e') (hruns : ∀ axis, runsOn axis e' = runsOn axis e) :
    ReadAlike (Grammar.upTo limit) s e e' :=
  readAlike_of_reads (fun _ hx => h.reads_scale htag hruns hx)
    fun _ hx => h.symm.reads_scale (h.name.trans htag) (fun axis => (hruns axis).symm) hx

def scaleTo (targets : List (List Element)) : Element where
  name := "scale"
  children := { name := "coverage", text := "c" } :: targets.flatten

-- The second target on an axis keeps the lower end of the first.
def scaleXYX : Element :=
  scaleTo [xBounds "5" "39", yBounds "0" "4", xBounds "*" "9"]

def scaleXXY : Element :=
  scaleTo [xBounds "5" "39", xBounds "*" "9", yBounds "0" "4"]

theorem scale_regrouped_scaleXYX :
    Regrouped scaleXYX scaleXXY ∧ (∀ axis, runsOn axis scaleXXY = runsOn axis scaleXYX) ∧
      ∃ store x x', Store.ofDefs [Sample.airTemperature "T"] = .ok store ∧
        (Grammar.upTo 3).parseCoverage ⟨store, [("c", ["T"])], []⟩ scaleXYX = .ok x ∧
        (Grammar.upTo 3).parseCoverage ⟨store, [("c", ["T"])], []⟩ scaleXXY = .ok x' ∧
        x.text = "scale(c, [5:9,0:4])" ∧ x'.text = x.text ∧ x'.schema = x.schema := by
  have hregrouped : Regrouped scaleXYX scaleXXY :=
    ⟨rfl, rfl, .cons (xBounds "5" "39") (.swap (yBounds "0" "4") (xBounds "*" "9") [])⟩
  have hruns : ∀ axis, runsOn axis scaleXXY = runsOn axis scaleXYX := by
    intro axis
    have hxyx : axisRuns scaleXYX = [xBounds "5" "39", yBounds "0" "4", xBounds "*" "9"] := rfl
    have hxxy : axisRuns scaleXXY = [xBounds "5" "39", xBounds "*" "9", yBounds "0" "4"] := rfl
    have hx : ∀ low high, (xBounds low high).head?.map (·.trimmedText) = some "x" :=
      fun _ _ => rfl
    have hy : ∀ low high, (yBounds low high).head?.map (·.trimmedText) = some "y" :=
      fun _ _ => rfl
    rw [runsOn, runsOn, hxyx, hxxy]
    by_cases haxis : "x" = axis
    · subst haxis
      rfl
    · simp only [List.filter_cons, hx, hy, Option.some.injEq, haxis, decide_false,
        Bool.false_eq_true, if_false, List.filter_nil]
  obtain ⟨store, x, hstore, hx, htext⟩ :
      ∃ store x, Store.ofDefs [Sample.airTemperature "T"] = .ok store ∧
        (Grammar.upTo 3).parseCoverage ⟨store, [("c", ["T"])], []⟩ scaleXYX = .ok x ∧
        x.text = "scale(c, [5:9,0:4])" :=
    ⟨_, _, rfl, rfl, rfl⟩
  obtain ⟨haccepted, hsame⟩ :=
    scale_regrouped 3 ⟨store, [("c", ["T"])], []⟩ scaleXYX scaleXXY rfl hregrouped hruns
  obtain ⟨x', hx'⟩ := haccepted.mpr ⟨x, hx⟩
  exact ⟨hregrouped, hruns, store, x, x', hstore, hx, hx', htext, hsame x x' hx hx'⟩

-- Of two targets on an axis the last one counts, so their order matters.
theorem scale_twice_not_alike :
    Regrouped (scaleTo [xBounds "0" "39", xBounds "0" "9"])
        (scaleTo [xBounds "0" "9", xBounds "0" "39"]) ∧
      ∃ store x x', Store.ofDefs [Sample.airTemperature "T"] = .ok store ∧
        (Grammar.upTo 3).parseCoverage ⟨store, [("c", ["T"])], []⟩
          (scaleTo [xBounds "0" "39", xBounds "0" "9"]) = .ok x ∧
        (Grammar.upTo 3).parseCoverage ⟨store, [("c", ["T"])], []⟩
          (scaleTo [xBounds "0" "9", xBounds "0" "39"]) = .ok x' ∧
        x.text = "scale(c, [0:9,0:9])" ∧ x'.text = "scale(c, [0:39,0:9])" ∧
        ¬ReadAlike (Grammar.upTo 3) ⟨store, [("c", ["T"])], []⟩
          (scaleTo [xBounds "0" "39", xBounds "0" "9"])
          (scaleTo [xBounds "0" "9", xBounds "0" "39"]) := by
  refine ⟨⟨rfl, rfl, .swap (xBounds "0" "39") (xBounds "0" "9") []⟩, ?_⟩
  obtain ⟨store, x, x', hstore, hx, hx', htext, htext'⟩ :
      ∃ store x x', Store.ofDefs [Sample.airTemperature "T"] = .ok store ∧
        (Grammar.upTo 3).parseCoverage ⟨store, [("c", ["T"])], []⟩
          (scaleTo [xBounds "0" "39", xBounds "0" "9"]) = .ok x ∧
        (Grammar.upTo 3).parseCoverage ⟨store, [("c", ["T"])], []⟩
          (scaleTo [xBounds "0" "9", xBounds "0" "39"]) = .ok x' ∧
        x.text = "scale(c, [0:9,0:9])" ∧ x'.text = "scale(c, [0:39,0:9])" :=
    ⟨_, _, _, rfl, rfl, rfl, rfl, rfl⟩
  refine ⟨store, x, x', hstore, hx, hx', htext, htext', fun halike => ?_⟩
  have hsame := (halike.same x x' hx hx').1
  rw [htext, htext'] at hsame
  exact absurd hsame (by decide)

end Expr

end Datacube
