import Datacube.Proofs.Expr.Level
import Datacube.Proofs.Rasql.Shape

-- The extents of the schema of an expression are the domain that its query denotes.
namespace Datacube.Expr

open Markup (Element)
open Result

def gridDomain (axes : List AxisView) : List Rasql.Interval :=
  axes.map fun a => ⟨a.cells.lo, a.cells.hi⟩

theorem schemaDomain_eq (schema : Schema) : schemaDomain schema = gridDomain schema.axes := rfl

theorem schemaDomain_eq_of_extents {a b : Schema} (h : a.extents = b.extents) :
    schemaDomain a = schemaDomain b := by
  have hmap : ∀ schema : Schema,
      schemaDomain schema = schema.extents.map fun extent => ⟨extent.1, extent.2⟩ := by
    intro schema
    simp [schemaDomain, Schema.extents]
  rw [hmap, hmap, h]

-- The cells of a stored coverage along its axes.
def Scope.coverageDomain (s : Scope) (name : String) : Option (List Rasql.Interval) :=
  (s.store.read name).toOption.map fun c => gridDomain (c.axes.map GridAxis.view)

-- The domain that all coverages of an iterator have in common.
def Scope.iteratorDomain (s : Scope) (iterator : String) : Option (List Rasql.Interval) := do
  let names ← s.iterators.lookup iterator
  let domain ← s.coverageDomain (← names.head?)
  if names.all (s.coverageDomain · = some domain) then some domain else none

section References

variable {s : Scope}

theorem coverageDomain_of_readSchema {name : String} {schema : Schema}
    (h : readSchema s name = .ok schema) : s.coverageDomain name = some (schemaDomain schema) := by
  simp only [readSchema, bind_eq_ok, pure_eq_ok] at h
  obtain ⟨c, hread, rfl⟩ := h
  simp [Scope.coverageDomain, hread, Except.toOption, schemaDomain_eq, Schema.ofCoverage]

theorem checkSame_eq_ok_iff {iterator : String} {first : Schema} {names : List String} :
    checkSame s iterator first names = .ok () ↔
      ∀ name ∈ names, ∃ other, readSchema s name = .ok other ∧ first.extents = other.extents := by
  induction names with
  | nil => simp [checkSame]
  | cons name names ih =>
      simp only [checkSame, bind_eq_ok, List.mem_cons, forall_eq_or_imp]
      constructor
      · rintro ⟨other, hread, ⟨⟩, hsame, hrest⟩
        exact ⟨⟨other, hread, ensureCompatible_eq_ok_iff.mp hsame⟩, ih.mp hrest⟩
      · rintro ⟨⟨other, hread, hsame⟩, hrest⟩
        exact ⟨other, hread, (), ensureCompatible_eq_ok_iff.mpr hsame, ih.mpr hrest⟩

theorem iteratorDomain_of_reference {iterator first : String} {rest : List String} {schema : Schema}
    (hnames : s.iterators.lookup iterator = some (first :: rest))
    (hschema : readSchema s first = .ok schema)
    (hsame : checkSame s iterator schema rest = .ok ()) :
    s.iteratorDomain iterator = some (schemaDomain schema) := by
  have hfirst := coverageDomain_of_readSchema hschema
  have hrest : ∀ name ∈ rest, s.coverageDomain name = some (schemaDomain schema) := by
    intro name hname
    obtain ⟨other, hread, hextents⟩ := checkSame_eq_ok_iff.mp hsame name hname
    rw [coverageDomain_of_readSchema hread, schemaDomain_eq_of_extents hextents]
  have hall : (first :: rest).all (s.coverageDomain · = some (schemaDomain schema)) = true := by
    simpa [hfirst] using hrest
  simp only [Scope.iteratorDomain, hnames, List.head?_cons, hfirst, Option.bind_eq_bind,
    Option.bind_some]
  rw [if_pos hall]

end References

section Constructors

theorem cellExtent_make_eq_ok_iff {lo hi : Int} {cells : CellExtent} :
    CellExtent.make lo hi = .ok cells ↔ lo ≤ hi ∧ cells = ⟨lo, hi, none⟩ := by
  simp only [CellExtent.make, ite_error_eq_ok, Int.not_lt, Except.ok.injEq]
  exact and_congr_right fun _ => eq_comm

-- An iterator makes an axis whose cells and native cells are those it runs over.
theorem axisView_eq_ok {i : AxisIterator} {view : AxisView} (h : i.axisView = .ok view) :
    ∃ axis, Axis.ofDef {
        name := i.axis
        kind := ((AxisKind.ofLabel? i.axis).getD .other).label
        numLo := some (Float.ofInt i.lo)
        numHi := some (Float.ofInt i.hi) } = .ok axis ∧
      ∃ domain, axis.setResolution (CellExtent.count ⟨i.lo, i.hi, none⟩) = .ok domain ∧
        i.lo ≤ i.hi ∧ view = ⟨domain, ⟨i.lo, i.hi, none⟩, ⟨i.lo, i.hi, none⟩⟩ := by
  simp only [AxisIterator.axisView, bind_eq_ok, pure_eq_ok, cellExtent_make_eq_ok_iff] at h
  obtain ⟨axis, haxis, _, ⟨hle, rfl⟩, domain, hdomain, rfl⟩ := h
  exact ⟨axis, haxis, domain, hdomain, hle, rfl⟩

theorem constructedSchema_eq_ok {name : String} {iterators : List AxisIterator}
    {fields : List RangeField} {schema : Schema}
    (h : constructedSchema name iterators fields = .ok schema) :
    List.Forall₂ (fun (i : AxisIterator) view => i.axisView = .ok view) iterators schema.axes := by
  simp only [constructedSchema, bind_eq_ok, pure_eq_ok, mapM_eq_ok_iff] at h
  obtain ⟨axes, haxes, rfl⟩ := h
  exact haxes

theorem schemaDomain_constructed {name : String} {iterators : List AxisIterator}
    {fields : List RangeField} {schema : Schema}
    (h : constructedSchema name iterators fields = .ok schema) :
    schemaDomain schema = iterators.map (·.interval) := by
  have haxes := constructedSchema_eq_ok h
  rw [schemaDomain_eq, gridDomain]
  generalize schema.axes = axes at haxes ⊢
  clear h
  induction haxes with
  | nil => rfl
  | cons hview _ ih =>
      obtain ⟨_, _, _, _, _, rfl⟩ := axisView_eq_ok hview
      simpa [AxisIterator.interval] using ih

end Constructors

-- A change of metadata leaves the axes alone, or replaces the reference systems of all of them.
theorem metadataApply_axes {change : MetadataChange} {schema changed : Schema}
    (h : change.apply schema = .ok changed) :
    changed.axes = schema.axes ∨
      ∃ names, changed.axes =
        schema.axes.map fun a => { a with domain := a.domain.withCrsSet names } := by
  cases change with
  | identifier id => simp [MetadataChange.apply] at h; simp [← h]
  | nullSet values => simp [MetadataChange.apply] at h; simp [← h]
  | interpolationDefault field method =>
      simp only [MetadataChange.apply, bind_eq_ok, pure_eq_ok] at h
      obtain ⟨_, _, rfl⟩ := h
      exact .inl rfl
  | interpolationSet field methods =>
      simp only [MetadataChange.apply, bind_eq_ok, pure_eq_ok] at h
      obtain ⟨_, _, rfl⟩ := h
      exact .inl rfl
  | crsSet names =>
      simp only [MetadataChange.apply, Except.ok.injEq] at h
      obtain rfl := h
      exact .inr ⟨_, rfl⟩

theorem schemaDomain_metadataApply {change : MetadataChange} {schema changed : Schema}
    (h : change.apply schema = .ok changed) : schemaDomain changed = schemaDomain schema := by
  rcases metadataApply_axes h with haxes | ⟨names, haxes⟩
  · rw [schemaDomain_eq, haxes, schemaDomain_eq]
  · simp [schemaDomain_eq, gridDomain, haxes]

-- Other types of cells are no other cells.
theorem schemaDomain_binary (op : BinaryOp) (schema : Schema) :
    schemaDomain (if op.isBoolean then schema.withDatatype "boolean" else schema) =
      schemaDomain schema := by
  split <;> rfl

section Subsets

-- What a subscript keeps of an axis.
def keptInterval (specs : List SubsetSpec) (slice : Bool) (axis : AxisView) (place : Nat) :
    Option Rasql.Interval :=
  match subsetIndex specs slice place with
  | .all => some ⟨axis.cells.lo, axis.cells.hi⟩
  | .range interval => some interval
  | .point _ => none

theorem subscriptDomain_eq (specs : List SubsetSpec) (slice : Bool) (axes : List AxisView)
    (place : Nat) :
    Rasql.subscriptDomain (gridDomain axes)
        ((List.range' place axes.length).map (subsetIndex specs slice)) =
      some ((axes.zipIdx place).filterMap fun a => keptInterval specs slice a.1 a.2) := by
  induction axes generalizing place with
  | nil => rfl
  | cons axis axes ih =>
      have hrest := ih (place + 1)
      rw [List.length_cons, List.range'_succ, List.map_cons, List.zipIdx_cons,
        List.filterMap_cons]
      change Rasql.subscriptDomain (_ :: gridDomain axes) _ = _
      simp only [keptInterval]
      cases subsetIndex specs slice place with
      | all | range _ | point _ => simp [Rasql.subscriptDomain, hrest, keptInterval]

theorem gridDomain_filterMap {f : AxisView → Nat → Option AxisView}
    {f' : AxisView → Nat → Option Rasql.Interval} (axes : List AxisView)
    (hf : ∀ axis place, (f axis place).map (fun a => ⟨a.cells.lo, a.cells.hi⟩) = f' axis place) :
    gridDomain (axes.zipIdx.filterMap fun a => f a.1 a.2) =
      axes.zipIdx.filterMap fun a => f' a.1 a.2 := by
  simp only [gridDomain, List.map_filterMap, hf]

theorem keptInterval_trim (specs : List SubsetSpec) (axis : AxisView) (place : Nat) :
    (subsetAxis .trim specs axis place).map (fun a => ⟨a.cells.lo, a.cells.hi⟩) =
      keptInterval specs false axis place := by
  unfold subsetAxis keptInterval subsetIndex
  cases specs.find? (·.axis = place) <;> simp [CellExtent.applyResolved]

theorem keptInterval_slice (specs : List SubsetSpec) (axis : AxisView) (place : Nat) :
    (subsetAxis .slice specs axis place).map (fun a => ⟨a.cells.lo, a.cells.hi⟩) =
      keptInterval specs true axis place := by
  unfold subsetAxis keptInterval subsetIndex
  cases specs.find? (·.axis = place) <;> simp

theorem extendedInterval_eq (specs : List SubsetSpec) (axis : AxisView) (place : Nat) :
    (subsetAxis .extend specs axis place).map (fun a => ⟨a.cells.lo, a.cells.hi⟩) =
      some (extendedInterval specs axis.cells place) := by
  unfold subsetAxis extendedInterval
  cases specs.find? (·.axis = place) <;> simp [CellExtent.applyResolved]

-- What the subscript of a trim or a slice leaves of the domain is that of the new schema.
theorem subscriptDomain_trim (specs : List SubsetSpec) (schema : Schema) :
    Rasql.subscriptDomain (schemaDomain schema)
        ((List.range schema.dimension).map (subsetIndex specs false)) =
      some (schemaDomain (subsetSchema .trim schema specs)) := by
  have hindices := subscriptDomain_eq specs false schema.axes 0
  rw [← List.range_eq_range', ← gridDomain_filterMap _ (keptInterval_trim specs)] at hindices
  exact hindices

theorem subscriptDomain_slice (specs : List SubsetSpec) (schema : Schema) :
    Rasql.subscriptDomain (schemaDomain schema)
        ((List.range schema.dimension).map (subsetIndex specs true)) =
      some (schemaDomain (subsetSchema .slice schema specs)) := by
  have hindices := subscriptDomain_eq specs true schema.axes 0
  rw [← List.range_eq_range', ← gridDomain_filterMap _ (keptInterval_slice specs)] at hindices
  exact hindices

theorem schemaDomain_extend (specs : List SubsetSpec) (schema : Schema) :
    schemaDomain (subsetSchema .extend schema specs) =
      schema.axes.zipIdx.map fun (axis, i) => extendedInterval specs axis.cells i := by
  rw [schemaDomain_eq, subsetSchema, gridDomain_filterMap _ (extendedInterval_eq specs),
    List.filterMap_eq_map']

theorem shape_subset {domains : String → Option (List Rasql.Interval)} (op : SubsetOp)
    (specs : List SubsetSpec) {x : CoverageExpr}
    (hx : x.term.shape domains = some (.array (schemaDomain x.schema))) :
    (CoverageExpr.subset op x specs (subsetSchema op x.schema specs)).term.shape domains =
      some (.array (schemaDomain (subsetSchema op x.schema specs))) := by
  cases op with
  | trim =>
      simp [CoverageExpr.term, Rasql.Term.shape, hx, Rasql.Shape.domain?, subscriptDomain_trim]
  | slice =>
      simp [CoverageExpr.term, Rasql.Term.shape, hx, Rasql.Shape.domain?, subscriptDomain_slice]
  | extend =>
      simp [CoverageExpr.term, Rasql.Term.shape, hx, Rasql.Shape.domain?, schemaDomain_extend]

end Subsets

theorem shape_components {domains : String → Option (List Rasql.Interval)} {shape : Rasql.Shape} :
    ∀ components : Components,
      (∀ c ∈ components.toList, c.2.term.shape domains = some shape) →
        components.term.shape domains = some shape
  | .one field x, h => by
      simpa [Components.term, Rasql.Components.shape] using
        h (field, x) (by simp [Components.toList])
  | .more field x rest, h => by
      have hx := h (field, x) (by simp [Components.toList])
      have hrest := shape_components rest fun c hc => h c (by simp [Components.toList, hc])
      simp only [Components.term, Rasql.Components.shape, hx, hrest]
      simp

theorem shape_branches {domains : String → Option (List Rasql.Interval)} {shape : Rasql.Shape} :
    ∀ branches : Branches,
      (∀ x ∈ branches.exprs, x.term.shape domains = some shape) →
        branches.term.shape domains = some shape
  | .default x, h => by
      simpa [Branches.term, Rasql.Branches.shape] using h x (by simp [Branches.exprs])
  | .case x y rest, h => by
      have hx := h x (by simp [Branches.exprs])
      have hy := h y (by simp [Branches.exprs])
      have hrest := shape_branches rest fun z hz => h z (by simp [Branches.exprs, hz])
      simp only [Branches.term, Rasql.Branches.shape, hx, hy, hrest]
      simp

theorem Branches.exprs_eq_cons (branches : Branches) :
    ∃ x rest, branches.exprs = x :: rest ∧ branches.schema = x.schema := by
  cases branches with
  | default x => exact ⟨x, [], rfl, rfl⟩
  | case x y rest => exact ⟨x, y :: rest.exprs, rfl, rfl⟩

theorem Components.exists_head_mem (components : Components) :
    ∃ field, (field, components.head) ∈ components.toList := by
  cases components with
  | one field x => exact ⟨field, List.mem_cons_self⟩
  | more field x rest => exact ⟨field, List.mem_cons_self⟩

-- Every condition and result comes from an element.
theorem BranchesForm.exprs {C : Scope → Element → CoverageExpr → Prop} {s : Scope}
    {elements : List Element} {branches : Branches} (h : BranchesForm C s elements branches) :
    ∀ x ∈ branches.exprs, ∃ e, C s e x := by
  induction h with
  | default _ _ _ hx =>
      obtain ⟨c, -, hx⟩ := hx
      simpa [Branches.exprs] using ⟨c, hx⟩
  | case _ _ _ _ hx hy _ ih =>
      obtain ⟨c, -, hx⟩ := hx
      obtain ⟨d, -, hy⟩ := hy
      simp only [Branches.exprs, List.mem_cons, forall_eq_or_imp]
      exact ⟨⟨c, hx⟩, ⟨d, hy⟩, ih⟩

-- The query of an expression ranges over the cells of its schema.
def Shaped (s : Scope) (_ : Element) (x : CoverageExpr) : Prop :=
  x.term.shape s.iteratorDomain = some (.array (schemaDomain x.schema))

def ScalarShaped (s : Scope) (_ : Element) (x : ScalarExpr) : Prop :=
  x.term.shape s.iteratorDomain = some .value

theorem shape_pair {s : Scope} {left right : Element} {pair : Pair}
    (h : PairForm Shaped ScalarShaped s left right pair) :
    (do
      let first ← pair.first.term.shape s.iteratorDomain
      first.join (← pair.second.term.shape s.iteratorDomain)) =
        some (.array (schemaDomain pair.schema)) := by
  cases h with
  | coverageScalar hx hy =>
      unfold Shaped at hx
      unfold ScalarShaped at hy
      simp [Operand.term, hx, hy]
  | scalarCoverage hx hy =>
      unfold ScalarShaped at hx
      unfold Shaped at hy
      simp [Operand.term, hx, hy]
  | coverages hx hy hsame =>
      unfold Shaped at hx hy
      simp [Operand.term, hx, hy, schemaDomain_eq_of_extents hsame]

theorem shaped_of_form {s : Scope} {e : Element} {x : CoverageExpr}
    (h : CoverageForm Shaped ScalarShaped s e x) : Shaped s e x := by
  cases h with
  | reference _ hnames hschema hsame =>
      simp [Shaped, CoverageExpr.term, Rasql.Term.shape, CoverageExpr.schema,
        iteratorDomain_of_reference hnames hschema hsame]
  | constant _ _ hschema _ =>
      simp [Shaped, CoverageExpr.term, Rasql.Term.shape, CoverageExpr.schema,
        schemaDomain_constructed hschema]
  | @construct _ _ body _ _ _ _ hbody hschema =>
      have hshape : ∃ shape, body.term.shape s.iteratorDomain = some shape := by
        cases hbody with
        | scalar hx => exact ⟨_, hx⟩
        | coverage hx => exact ⟨_, hx⟩
      obtain ⟨shape, hshape⟩ := hshape
      simp [Shaped, CoverageExpr.term, Rasql.Term.shape, CoverageExpr.schema, hshape,
        schemaDomain_constructed hschema, Function.comp_def]
  | scale _ hx _ _ =>
      obtain ⟨_, -, hx⟩ := hx
      unfold Shaped at hx
      simp [Shaped, CoverageExpr.term, Rasql.Term.shape, CoverageExpr.schema, hx,
        Rasql.Shape.domain?]
  | @switch branches _ hbranches hsame =>
      have hshapes := hbranches.exprs
      simp only [Shaped, CoverageExpr.term, Rasql.Term.shape, CoverageExpr.schema]
      apply shape_branches
      intro y hy
      obtain ⟨_, hshape⟩ := hshapes y hy
      rw [schemaDomain_eq_of_extents (hsame y hy)]
      exact hshape
  | setMetadata _ hx hschema =>
      obtain ⟨_, -, hx⟩ := hx
      simpa [Shaped, CoverageExpr.term, CoverageExpr.schema,
        schemaDomain_metadataApply hschema] using hx
  | unary _ hx =>
      obtain ⟨_, -, hx⟩ := hx
      simpa [Shaped, CoverageExpr.term, Rasql.Term.shape, CoverageExpr.schema] using hx
  | bit _ hx _ _ | cast _ hx _ | fieldSelect _ hx _ _ =>
      obtain ⟨_, -, hx⟩ := hx
      unfold Shaped at hx ⊢
      simp only [CoverageExpr.term, Rasql.Term.shape, hx]
      rfl
  | @rangeConstructor components _ hcomponents hsame =>
      simp only [Shaped, CoverageExpr.term, Rasql.Term.shape, CoverageExpr.schema]
      apply shape_components
      intro c hc
      obtain ⟨_, _, -, _, -, hx⟩ := exists_mem_of_forall₂ hcomponents c hc
      unfold Shaped at hx
      rw [hx, ← schemaDomain_eq_of_extents (hsame c hc)]
      rfl
  | binary _ _ hpair =>
      simp only [Shaped, CoverageExpr.term, Rasql.Term.shape, CoverageExpr.schema,
        schemaDomain_binary]
      exact shape_pair hpair
  | subset _ hx _ _ _ =>
      obtain ⟨_, -, hx⟩ := hx
      exact shape_subset _ _ hx

theorem scalarShaped_of_form {s : Scope} {e : Element} {x : ScalarExpr}
    (h : ScalarForm Shaped ScalarShaped s e x) : ScalarShaped s e x := by
  cases h with
  | numeric | boolean | string | axisVariable =>
      simp [ScalarShaped, ScalarExpr.term, Rasql.Term.shape]
  | unary _ _ hx =>
      simpa [ScalarShaped, ScalarExpr.term, Rasql.Term.shape] using hx
  | binary _ _ hx hy =>
      unfold ScalarShaped at hx hy
      simp [ScalarShaped, ScalarExpr.term, Rasql.Term.shape, hx, hy]
  | condense _ hx =>
      obtain ⟨_, -, hx⟩ := hx
      unfold Shaped at hx
      simp [ScalarShaped, ScalarExpr.term, Rasql.Term.shape, hx, Rasql.Shape.domain?]

end Datacube.Expr
