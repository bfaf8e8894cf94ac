import Datacube.Proofs.Expr.Scaling
import Datacube.Proofs.Text.Trim
import Datacube.Sample.Coverages

-- Where the names of an expression's axes come from, and when all axes are found by name.
namespace Datacube

open Result

-- A lookup by the name of an axis leads to that axis.
def Schema.EveryAxisFound (s : Schema) : Prop :=
  ∀ i a, s.axes[i]? = some a →
    s.axisIndex? a.domain.name = some i ∧ s.requireAxis a.domain.name = .ok (i, a)

theorem Schema.nodup_axisLabels_iff (s : Schema) : s.axisLabels.Nodup ↔ s.EveryAxisFound := by
  constructor
  · intro hnames i a ha
    have hrequire : s.requireAxis a.domain.name = .ok (i, a) :=
      (requireAxis_eq_ok_iff hnames).mpr ⟨ha, rfl⟩
    have hfind := (DistinctNames.find?_eq_some_iff hnames).mpr ⟨ha, rfl⟩
    refine ⟨?_, hrequire⟩
    rw [axisIndex?, List.findIdx?_eq_fst_find?_zipIdx, hfind]
    rfl
  · intro hfound
    refine List.pairwise_iff_getElem.mpr fun i j hi hj hij hname => ?_
    simp only [axisLabels, List.length_map, List.getElem_map] at hi hj hname
    have hindex := (hfound i _ (List.getElem?_eq_getElem hi)).1
    have hindex' := (hfound j _ (List.getElem?_eq_getElem hj)).1
    rw [hname, hindex'] at hindex
    exact hij.ne (Option.some.inj hindex).symm

-- Nothing in the element slices an axis away.
def Markup.Element.SlicesNothing (e : Markup.Element) : Prop :=
  ∀ d, e.Holds d → d.name ≠ "slice"

-- No coverage is made over two axes of one name in the element.
def Markup.Element.DistinctIterators (e : Markup.Element) : Prop :=
  ∀ d, e.Holds d → d.name = "const" ∨ d.name = "construct" →
    ∀ iterators, Expr.parseIterators d = .ok iterators → (iterators.map (·.axis)).Nodup

namespace Expr

open Markup (Element)

-- The names that an expression in an element may start from: those of a stored coverage, or those
-- of the iterators of a coverage that is made in the element.
inductive LabelSource (s : Store) (e : Element) : List String → Prop where
  | stored {id : String} {c : Coverage} (hread : s.read id = .ok c) :
      LabelSource s e c.axisLabels
  | made {d : Element} {iterators : List AxisIterator} (hd : e.Holds d)
      (htag : d.name = "const" ∨ d.name = "construct")
      (hiterators : parseIterators d = .ok iterators) :
      LabelSource s e (iterators.map (·.axis))

theorem LabelSource.outer {s : Store} {e c : Element} {labels : List String} (hc : e.Holds c)
    (h : LabelSource s c labels) : LabelSource s e labels := by
  cases h with
  | stored hread => exact .stored hread
  | made hd htag hiterators => exact .made (hc.trans hd) htag hiterators

-- Axes have the names of a source, in its order, without those that were sliced away.
def Labelled (s : Store) (e : Element) (schema : Schema) : Prop :=
  ∃ labels, LabelSource s e labels ∧ schema.axisLabels.Sublist labels ∧
    (e.SlicesNothing → schema.axisLabels = labels)

section Steps

variable {s : Store} {e : Element} {schema schema' : Schema}

theorem LabelSource.labelled (h : LabelSource s e schema.axisLabels) : Labelled s e schema :=
  ⟨_, h, .refl _, fun _ => rfl⟩

theorem Labelled.outer {c : Element} (hc : e.Holds c) (h : Labelled s c schema) :
    Labelled s e schema := by
  obtain ⟨labels, hsource, hsublist, hwhole⟩ := h
  exact ⟨labels, hsource.outer hc, hsublist, fun hnone => hwhole fun d hd => hnone d (hc.trans hd)⟩

theorem Labelled.of_eq (h : Labelled s e schema)
    (hlabels : schema'.axisLabels = schema.axisLabels) : Labelled s e schema' := by
  unfold Labelled
  rw [hlabels]
  exact h

theorem axisLabels_scaled {targets : List Subset}
    (h : targets.foldlM scaleAxis schema = .ok schema') :
    schema'.axisLabels = schema.axisLabels :=
  (rescaledAxes_of_foldlM h).names_eq

theorem axisLabels_metadataApply {change : MetadataChange} (h : change.apply schema = .ok schema') :
    schema'.axisLabels = schema.axisLabels := by
  unfold Schema.axisLabels
  rcases metadataApply_axes h with haxes | ⟨names, haxes⟩ <;> rw [haxes]
  rw [List.map_map]
  rfl

theorem name_of_subsetAxis {op : SubsetOp} {specs : List SubsetSpec} {a b : AxisView} {place : Nat}
    (h : subsetAxis op specs a place = some b) : b.domain.name = a.domain.name := by
  unfold subsetAxis at h
  split at h
  · split at h
    · cases h
    · rw [← Option.some.inj h]
  · rw [← Option.some.inj h]

-- What is left of axes has their names, in their order.
theorem names_filterMap {f : AxisView → Nat → Option AxisView} (axes : List AxisView)
    (hname : ∀ a i b, f a i = some b → b.domain.name = a.domain.name) (place : Nat) :
    (((axes.zipIdx place).filterMap fun a => f a.1 a.2).map (·.domain.name)).Sublist
        (axes.map (·.domain.name)) ∧
      ((∀ a i, f a i ≠ none) →
        ((axes.zipIdx place).filterMap fun a => f a.1 a.2).map (·.domain.name) =
          axes.map (·.domain.name)) := by
  induction axes generalizing place with
  | nil => simp
  | cons a axes ih =>
      obtain ⟨hsublist, hwhole⟩ := ih (place + 1)
      cases hb : f a place with
      | none =>
          simp only [List.zipIdx_cons, List.filterMap_cons, hb]
          exact ⟨hsublist.cons _, fun hall => absurd hb (hall a place)⟩
      | some b =>
          simp only [List.zipIdx_cons, List.filterMap_cons, hb, List.map_cons, hname a place b hb]
          exact ⟨hsublist.cons_cons _, fun hall => by rw [hwhole hall]⟩

theorem Labelled.subsetSchema {op : SubsetOp} {specs : List SubsetSpec} (htag : e.name = op.tag)
    (h : Labelled s e schema) : Labelled s e (subsetSchema op schema specs) := by
  obtain ⟨labels, hsource, hsublist, hwhole⟩ := h
  obtain ⟨hleft, hall⟩ := names_filterMap (f := subsetAxis op specs) schema.axes
    (fun _ _ _ => name_of_subsetAxis) 0
  refine ⟨labels, hsource, hleft.trans hsublist, fun hnone => ?_⟩
  rw [← hwhole hnone]
  refine hall fun a i => ?_
  have hop : op ≠ .slice := fun hslice => hnone e .refl (by rw [htag, hslice]; rfl)
  unfold subsetAxis
  split
  · simp [hop]
  · simp

end Steps

section Made

variable {e : Element} {i : AxisIterator} {iterators : List AxisIterator}

theorem AxisIterator.trimmed_of_parse (h : AxisIterator.parse e = .ok i) : Text.Trimmed i.axis := by
  simp only [AxisIterator.parse, bind_eq_ok] at h
  obtain ⟨var, -, axis, haxis, h⟩ := h
  have htrimmed : Text.Trimmed axis := by
    unfold Element.requiredText Element.childText? at haxis
    split at haxis
    · next text htext =>
      obtain ⟨c, -, rfl⟩ := Option.map_eq_some_iff.mp htext
      obtain rfl := Except.ok.inj haxis
      exact Text.trim_trim c.text
    · cases haxis
  split at h
  · simp at h
  · simp at h
  · simp only [bind_eq_ok, ite_throw_eq_ok, throw_bind, pure_eq_ok] at h
    obtain ⟨lo, -, hi, -, -, rfl⟩ := h
    exact htrimmed

theorem trimmed_of_parseIterators (h : parseIterators e = .ok iterators) :
    ∀ i ∈ iterators, Text.Trimmed i.axis := by
  simp only [parseIterators, bind_eq_ok] at h
  obtain ⟨parsed, hparsed, h⟩ := h
  split at h
  · simp at h
  · obtain rfl := pure_eq_ok.mp h
    intro i hi
    obtain ⟨c, -, hc⟩ := exists_mem_of_forall₂ (mapM_eq_ok_iff.mp hparsed) i hi
    exact AxisIterator.trimmed_of_parse hc

-- A coverage that is made has one axis for each iterator, under the name given there.
theorem axisLabels_constructed {name : String} {fields : List RangeField} {schema : Schema}
    (hiterators : parseIterators e = .ok iterators)
    (hschema : constructedSchema name iterators fields = .ok schema) :
    schema.axisLabels = iterators.map (·.axis) := by
  have hnames : List.Forall₂ (· = ·) (iterators.map (·.axis))
      (schema.axes.map (·.domain.name)) := by
    rw [List.forall₂_map_left_iff, List.forall₂_map_right_iff]
    refine forall₂_imp_mem (constructedSchema_eq_ok hschema) fun i view hi hview => ?_
    obtain ⟨axis, haxis, domain, hdomain, -, rfl⟩ := axisView_eq_ok hview
    calc i.axis = Text.trim i.axis := (trimmed_of_parseIterators hiterators i hi).symm
      _ = axis.name := (Axis.name_of_make haxis).symm
      _ = domain.name := (Axis.name_of_fitted (Axis.fitted_of_setResolution hdomain)).symm
  rw [List.forall₂_eq_eq_eq] at hnames
  exact hnames.symm

end Made

-- The iterators of a coverage that is made from nothing.
def CoverageExpr.made? : CoverageExpr → Option (List AxisIterator)
  | .constant iterators _ _ => some iterators
  | .construct iterators _ _ => some iterators
  | _ => none

section Forms

variable {s : Scope} {e : Element} {x : CoverageExpr}

theorem axisLabels_of_made {C : Scope → Element → CoverageExpr → Prop}
    {S : Scope → Element → ScalarExpr → Prop} {iterators : List AxisIterator}
    (h : CoverageForm C S s e x) (hmade : x.made? = some iterators) :
    x.schema.axisLabels = iterators.map (·.axis) := by
  cases h with
  | constant _ hiterators hschema _ | construct _ hiterators _ _ hschema =>
      obtain rfl := Option.some.inj hmade
      exact axisLabels_constructed hiterators hschema
  | _ => cases hmade

theorem labelled_of_form
    (h : CoverageForm (fun s e x => Labelled s.store e x.schema) (fun _ _ _ => True) s e x) :
    Labelled s.store e x.schema := by
  -- What holds of an operand in its own element holds of it in this one.
  have h : CoverageForm (fun s' _ y => Labelled s'.store e y.schema) (fun _ _ _ => True) s e x :=
    h.mono (fun _ _ _ hc hy => hy.outer hc) fun _ _ _ _ hy => hy
  cases h with
  | reference _ _ hschema _ =>
      simp only [readSchema, bind_eq_ok, pure_eq_ok] at hschema
      obtain ⟨c, hread, rfl⟩ := hschema
      have hlabels : (Schema.ofCoverage c).axisLabels = c.axisLabels := by
        simp [Schema.axisLabels, Schema.ofCoverage, Coverage.axisLabels, GridAxis.view]
      exact LabelSource.labelled (hlabels ▸ .stored hread)
  | constant htag hiterators hschema _ =>
      exact LabelSource.labelled
        (axisLabels_constructed hiterators hschema ▸ .made .refl (.inl htag) hiterators)
  | construct htag hiterators _ _ hschema =>
      exact LabelSource.labelled
        (axisLabels_constructed hiterators hschema ▸ .made .refl (.inr htag) hiterators)
  | scale _ hx _ hschema =>
      obtain ⟨_, -, hx⟩ := hx
      exact hx.of_eq (axisLabels_scaled hschema)
  | @switch branches _ hbranches _ =>
      obtain ⟨y, rest, hexprs, hschema⟩ := branches.exprs_eq_cons
      obtain ⟨_, hy⟩ := hbranches.exprs y (by simp [hexprs])
      simp only [CoverageExpr.schema, hschema]
      exact hy
  | setMetadata _ hx hschema =>
      obtain ⟨_, -, hx⟩ := hx
      exact hx.of_eq (axisLabels_metadataApply hschema)
  | unary _ hx | bit _ hx _ _ | cast _ hx _ | fieldSelect _ hx _ _ =>
      obtain ⟨_, -, hx⟩ := hx
      exact hx.of_eq rfl
  | @rangeConstructor components _ hcomponents _ =>
      obtain ⟨field, hhead⟩ := components.exists_head_mem
      obtain ⟨_, -, -, _, -, hx⟩ := exists_mem_of_forall₂ hcomponents _ hhead
      exact hx.of_eq rfl
  | @binary op _ _ pair _ _ hpair =>
      have hlabelled : Labelled s.store e pair.schema := by
        cases hpair with
        | coverageScalar hx _ => exact hx
        | scalarCoverage _ hy => exact hy
        | coverages hx _ _ => exact hx
      refine hlabelled.of_eq ?_
      simp only [CoverageExpr.schema]
      split <;> rfl
  | subset htag hx _ _ _ =>
      obtain ⟨_, -, hx⟩ := hx
      exact hx.subsetSchema htag

end Forms

theorem LabelSource.nodup {s : Store} {e : Element} {labels : List String} (hvalid : s.Validated)
    (hdistinct : e.DistinctIterators) (h : LabelSource s e labels) : labels.Nodup := by
  cases h with
  | @stored id c hread =>
      obtain ⟨d, hd⟩ := hvalid id c hread
      obtain ⟨hnames, -⟩ := Coverage.names_of_ofDef hd
      simpa [DistinctNames, Coverage.axisLabels, GridAxis.view, Function.comp_def] using hnames
  | made hd htag hiterators => exact hdistinct _ hd htag _ hiterators

-- The axes of what is read are named after one source, and slices take some of them away. So the
-- names are distinct if no coverage is made over two axes of one name, and for a coverage that is
-- made only then. Every axis is found by its name just if the names are distinct.
theorem axisLabels_nodup (limit : Nat) (s : Scope) (e : Element) (x : CoverageExpr)
    (hvalid : s.store.Validated) (h : (Grammar.upTo limit).parseCoverage s e = .ok x) :
    (∃ labels, LabelSource s.store e labels ∧ x.schema.axisLabels.Sublist labels ∧
        (e.SlicesNothing → x.schema.axisLabels = labels)) ∧
      (e.DistinctIterators → x.schema.axisLabels.Nodup) ∧
      (∀ iterators, x.made? = some iterators →
        (x.schema.axisLabels.Nodup ↔ (iterators.map (·.axis)).Nodup)) ∧
      (x.schema.axisLabels.Nodup ↔ x.schema.EveryAxisFound) := by
  have hlevels := Grammar.level_induction (P := fun s e x => Labelled s.store e x.schema)
    (Q := fun _ _ _ => True) (fun _ _ _ => labelled_of_form) (fun _ _ _ _ => trivial) limit limit
  have hreads := parseCoverage_eq_ok_iff.mp h
  obtain ⟨labels, hsource, hsublist, hwhole⟩ := hlevels.1 s e x hreads
  refine ⟨⟨labels, hsource, hsublist, hwhole⟩, fun hdistinct => ?_, fun iterators hmade => ?_,
    x.schema.nodup_axisLabels_iff⟩
  · exact hsublist.nodup (hsource.nodup hvalid hdistinct)
  · cases limit with
    | zero => exact (Grammar.not_readsCoverage_zero hreads).elim
    | succ limit =>
        rw [axisLabels_of_made (Grammar.readsCoverage_succ_iff.mp hreads) hmade]

-- A coverage made of ones, over iterators along the axes with these names.
def onesOver (axes : List String) : Element where
  name := "construct"
  children := (axes.map fun axis =>
      { name := "axisIterator"
        children := [{ name := "iteratorVar", text := "i" }, { name := "axis", text := axis },
          { name := "lowerBound", text := "0" }, { name := "upperBound", text := "1" }] }) ++
    [{ name := "numericConstant", text := "1" }]

theorem axisLabels_nodup_onesOver :
    ∃ store x, Store.ofDefs [Sample.row] = .ok store ∧ store.Validated ∧
      (Grammar.upTo 3).parseCoverage ⟨store, [], []⟩ (onesOver ["x", "y"]) = .ok x ∧
      x.schema.axisLabels = ["x", "y"] ∧ x.schema.EveryAxisFound := by
  obtain ⟨store, x, iterators, hstore, hx, hmade, hlabels, haxes⟩ : ∃ store x iterators,
      Store.ofDefs [Sample.row] = .ok store ∧
      (Grammar.upTo 3).parseCoverage ⟨store, [], []⟩ (onesOver ["x", "y"]) = .ok x ∧
      x.made? = some iterators ∧ x.schema.axisLabels = ["x", "y"] ∧
      iterators.map (·.axis) = ["x", "y"] := ⟨_, _, _, rfl, rfl, rfl, rfl, rfl⟩
  have hvalid := Store.validated_of_ofDefs hstore
  obtain ⟨-, -, hnodup, hfound⟩ := axisLabels_nodup 3 ⟨store, [], []⟩ _ x hvalid hx
  refine ⟨store, x, hstore, hvalid, hx, hlabels, hfound.mp ((hnodup iterators hmade).mpr ?_)⟩
  rw [haxes]
  decide

-- Two iterators along axes of one name make two axes of one name, and the second is out of reach.
theorem axisLabels_repeated :
    ∃ store x first, Store.ofDefs [Sample.row] = .ok store ∧ store.Validated ∧
      (Grammar.upTo 3).parseCoverage ⟨store, [], []⟩ (onesOver ["x", "x"]) = .ok x ∧
      x.schema.axisLabels = ["x", "x"] ∧ x.schema.axisIndex? "x" = some 0 ∧
      x.schema.requireAxis "x" = .ok (0, first) ∧ ¬x.schema.EveryAxisFound := by
  obtain ⟨store, x, first, hstore, hx, hlabels, hindex, hrequire⟩ : ∃ store x first,
      Store.ofDefs [Sample.row] = .ok store ∧
      (Grammar.upTo 3).parseCoverage ⟨store, [], []⟩ (onesOver ["x", "x"]) = .ok x ∧
      x.schema.axisLabels = ["x", "x"] ∧ x.schema.axisIndex? "x" = some 0 ∧
      x.schema.requireAxis "x" = .ok (0, first) := ⟨_, _, _, rfl, rfl, rfl, rfl, rfl⟩
  refine ⟨store, x, first, hstore, Store.validated_of_ofDefs hstore, hx, hlabels, hindex, hrequire,
    fun hfound => ?_⟩
  have hnodup := x.schema.nodup_axisLabels_iff.mpr hfound
  rw [hlabels] at hnodup
  exact absurd hnodup (by decide)

end Expr

end Datacube
