import Datacube.Proofs.Expr.Domain
import Datacube.Proofs.Schema.Alike

-- An expression is read alike where its iterators stand for one of their coverages only.
namespace Datacube

-- An element mentions an iterator if it holds a reference to it.
def Markup.Element.Mentions (e : Markup.Element) (iterator : String) : Prop :=
  ∃ d, e.Holds d ∧ d.name = "coverage" ∧ d.trimmedText = iterator

theorem Markup.Element.Holds.mentions {top e : Markup.Element} {iterator : String}
    (he : top.Holds e) (h : e.Mentions iterator) : top.Mentions iterator := by
  obtain ⟨d, hd, hname, htext⟩ := h
  exact ⟨d, he.trans hd, hname, htext⟩

theorem Coverage.Alike.schema {c d : Coverage} (h : c.Alike d)
    (hextents : (Schema.ofCoverage c).extents = (Schema.ofCoverage d).extents) :
    (Schema.ofCoverage c).Alike (Schema.ofCoverage d) := by
  have haxes : ∀ {as bs : List GridAxis}, List.Forall₂ (fun a b => a.domain.Alike b.domain) as bs →
      as.map (fun a => (a.cells.lo, a.cells.hi)) = bs.map (fun b => (b.cells.lo, b.cells.hi)) →
      List.Forall₂ AxisView.Alike (as.map GridAxis.view) (bs.map GridAxis.view) := by
    intro as bs hall
    induction hall with
    | nil => intro _; exact .nil
    | cons hab _ ih =>
        simp only [List.map_cons, List.cons.injEq, Prod.mk.injEq]
        rintro ⟨⟨hlo, hhi⟩, hrest⟩
        exact .cons ⟨hab, ⟨hlo, hhi⟩, ⟨hlo, hhi⟩⟩ (ih hrest)
  refine ⟨haxes h.axes ?_, fun field => ?_⟩
  · simpa [Schema.extents, Schema.ofCoverage, Function.comp_def, GridAxis.view] using hextents
  · have hfield := h.fields field
    rw [Bool.eq_iff_iff]
    simpa [Schema.hasField, Schema.ofCoverage] using hfield

namespace Expr

open Markup (Element)
open Result

-- The second scope has one coverage for each iterator that an element mentions: one of those of the
-- first scope, like the first of them.
structure Scope.Narrows (e : Element) (s t : Scope) : Prop where
  store : t.store = s.store
  axisVariables : t.axisVariables = s.axisVariables
  chosen : ∀ {iterator first : String} {rest : List String}, e.Mentions iterator →
    s.iterators.lookup iterator = some (first :: rest) →
    ∃ name ∈ first :: rest, t.iterators.lookup iterator = some [name] ∧
      ∀ c d, s.store.read first = .ok c → s.store.read name = .ok d → c.Alike d

theorem Scope.Narrows.held {e c : Element} {s t : Scope} (h : Scope.Narrows e s t)
    (hc : e.Holds c) : Scope.Narrows c s t :=
  ⟨h.store, h.axisVariables, fun hmentions => h.chosen (hc.mentions hmentions)⟩

theorem Scope.Narrows.withVariables {e : Element} {s t : Scope} (h : Scope.Narrows e s t)
    (names : List String) : Scope.Narrows e (s.withVariables names) (t.withVariables names) :=
  ⟨h.store, congrArg (· ++ names) h.axisVariables, h.chosen⟩

structure CoverageExpr.Like (x y : CoverageExpr) : Prop where
  term : x.term = y.term
  schema : x.schema.Alike y.schema

theorem extents_eq_of_like {x y x' y' : CoverageExpr} (hx : x.Like x') (hy : y.Like y')
    (h : x.schema.extents = y.schema.extents) : x'.schema.extents = y'.schema.extents := by
  rw [← hx.schema.extents_eq, ← hy.schema.extents_eq, h]

def ScalarExpr.Like (x y : ScalarExpr) : Prop :=
  x.term = y.term

inductive Operand.Like : Operand → Operand → Prop where
  | coverage {x y : CoverageExpr} (h : x.Like y) : Like (.coverage x) (.coverage y)
  | scalar {x y : ScalarExpr} (h : x.Like y) : Like (.scalar x) (.scalar y)

theorem Operand.Like.term {x y : Operand} (h : x.Like y) : x.term = y.term := by
  cases h with
  | coverage h => exact h.term
  | scalar h => exact h

-- The fields that a constructor takes over have the same names.
theorem Operand.Like.fields {x y : Operand} (h : x.Like y) (field : String) :
    (x.fields.any (·.name = field)) = y.fields.any (·.name = field) := by
  cases h with
  | coverage h => exact h.schema.fields field
  | scalar h => rfl

def ComponentLike (c c' : String × CoverageExpr) : Prop :=
  c.1 = c'.1 ∧ c.2.Like c'.2

section Simulation

-- What the first reader accepts in a scope, the second accepts alike in a narrower one.
def Simulates {α : Type} (Like : α → α → Prop) (R R' : Scope → Element → α → Prop) : Prop :=
  ∀ s t e x, Scope.Narrows e s t → R s e x → ∃ y, R' t e y ∧ Like x y

variable {C C' : Scope → Element → CoverageExpr → Prop} {S S' : Scope → Element → ScalarExpr → Prop}
  {s t : Scope} {e : Element}

theorem OperandForm.simulate (hC : Simulates CoverageExpr.Like C C')
    (hS : Simulates ScalarExpr.Like S S') (hscope : Scope.Narrows e s t) {x : Operand}
    (h : OperandForm C S s e x) : ∃ y, OperandForm C' S' t e y ∧ x.Like y := by
  cases h with
  | scalar hx =>
      obtain ⟨y, hy, hlike⟩ := hS _ _ _ _ hscope hx
      exact ⟨.scalar y, .scalar hy, .scalar hlike⟩
  | coverage hx =>
      obtain ⟨y, hy, hlike⟩ := hC _ _ _ _ hscope hx
      exact ⟨.coverage y, .coverage hy, .coverage hlike⟩

theorem PairForm.simulate (hC : Simulates CoverageExpr.Like C C')
    (hS : Simulates ScalarExpr.Like S S') {left right : Element}
    (hleft : Scope.Narrows left s t) (hright : Scope.Narrows right s t) {pair : Pair}
    (h : PairForm C S s left right pair) :
    ∃ pair', PairForm C' S' t left right pair' ∧ pair.first.Like pair'.first ∧
      pair.second.Like pair'.second ∧ pair.schema.Alike pair'.schema := by
  cases h with
  | coverageScalar hx hy =>
      obtain ⟨x', hx', hxlike⟩ := hC _ _ _ _ hleft hx
      obtain ⟨y', hy', hylike⟩ := hS _ _ _ _ hright hy
      exact ⟨_, .coverageScalar hx' hy', .coverage hxlike, .scalar hylike, hxlike.schema⟩
  | scalarCoverage hx hy =>
      obtain ⟨x', hx', hxlike⟩ := hS _ _ _ _ hleft hx
      obtain ⟨y', hy', hylike⟩ := hC _ _ _ _ hright hy
      exact ⟨_, .scalarCoverage hx' hy', .scalar hxlike, .coverage hylike, hylike.schema⟩
  | coverages hx hy hsame =>
      obtain ⟨x', hx', hxlike⟩ := hC _ _ _ _ hleft hx
      obtain ⟨y', hy', hylike⟩ := hC _ _ _ _ hright hy
      have hsame' := extents_eq_of_like hxlike hylike hsame
      exact ⟨_, .coverages hx' hy' hsame', .coverage hxlike, .coverage hylike, hxlike.schema⟩

theorem OperandBeside.simulate (hC : Simulates CoverageExpr.Like C C')
    (hscope : Scope.Narrows e s t) {parameters : List String} {x : CoverageExpr}
    (h : OperandBeside C s e parameters x) : ∃ y, OperandBeside C' t e parameters y ∧ x.Like y := by
  obtain ⟨c, hc, hx⟩ := h
  have hheld : e.Holds c := .child .refl (List.mem_of_find?_eq_some hc)
  obtain ⟨y, hy, hlike⟩ := hC _ _ _ _ (hscope.held hheld) hx
  exact ⟨y, ⟨c, hc, hy⟩, hlike⟩

theorem OnlyOperand.simulate (hC : Simulates CoverageExpr.Like C C')
    (hscope : Scope.Narrows e s t) {x : CoverageExpr}
    (h : OnlyOperand C s e x) : ∃ y, OnlyOperand C' t e y ∧ x.Like y := by
  obtain ⟨c, hc, hx⟩ := h
  have hheld : e.Holds c := .child .refl (List.mem_of_mem_head? hc)
  obtain ⟨y, hy, hlike⟩ := hC _ _ _ _ (hscope.held hheld) hx
  exact ⟨y, ⟨c, hc, hy⟩, hlike⟩

theorem BranchesForm.simulate (hC : Simulates CoverageExpr.Like C C') {elements : List Element}
    (hscope : ∀ e ∈ elements, Scope.Narrows e s t) {branches : Branches}
    (h : BranchesForm C s elements branches) :
    ∃ branches', BranchesForm C' t elements branches' ∧ branches.term = branches'.term ∧
      List.Forall₂ CoverageExpr.Like branches.exprs branches'.exprs := by
  induction h with
  | @default e part _ htag hparts hpart hx =>
      have he := hscope _ List.mem_cons_self
      have hmem : part ∈ e.children := by simp [hparts]
      obtain ⟨y, hy, hlike⟩ := hx.simulate hC (he.held (.child .refl hmem))
      exact ⟨.default y, .default htag hparts hpart hy, by simp [Branches.term, hlike.term],
        .cons hlike .nil⟩
  | @case e condition result _ _ _ _ htag hparts hcondition hresult hx hy _ ih =>
      have he := hscope _ List.mem_cons_self
      have hmem : condition ∈ e.children ∧ result ∈ e.children := by
        rcases hparts with hparts | hparts <;> simp [hparts]
      obtain ⟨x', hx', hxlike⟩ := hx.simulate hC (he.held (.child .refl hmem.1))
      obtain ⟨y', hy', hylike⟩ := hy.simulate hC (he.held (.child .refl hmem.2))
      obtain ⟨rest', hrest', hterm, hlikes⟩ := ih fun e he => hscope e (List.mem_cons_of_mem _ he)
      exact ⟨.case x' y' rest', .case htag hparts hcondition hresult hx' hy' hrest',
        by simp [Branches.term, hxlike.term, hylike.term, hterm],
        .cons hxlike (.cons hylike hlikes)⟩

theorem componentForms_simulate (hC : Simulates CoverageExpr.Like C C') :
    ∀ (components : Components) {elements : List Element},
      (∀ e ∈ elements, Scope.Narrows e s t) →
      List.Forall₂ (ComponentForm C s) elements components.toList →
      ∃ components' : Components, List.Forall₂ (ComponentForm C' t) elements components'.toList ∧
        components.term = components'.term ∧ components.head.Like components'.head ∧
        List.Forall₂ ComponentLike components.toList components'.toList
  | .one field x, elements, hscope, h => by
      obtain ⟨e, rest, ⟨hfield, hx⟩, hrest, rfl⟩ := List.forall₂_cons_right_iff.mp h
      obtain rfl := List.forall₂_nil_right_iff.mp hrest
      obtain ⟨y, hy, hlike⟩ := hx.simulate hC (hscope e List.mem_cons_self)
      exact ⟨.one field y, .cons ⟨hfield, hy⟩ .nil, by simp [Components.term, hlike.term], hlike,
        .cons ⟨rfl, hlike⟩ .nil⟩
  | .more field x others, elements, hscope, h => by
      obtain ⟨e, rest, ⟨hfield, hx⟩, hrest, rfl⟩ := List.forall₂_cons_right_iff.mp h
      obtain ⟨y, hy, hlike⟩ := hx.simulate hC (hscope e List.mem_cons_self)
      obtain ⟨others', hothers', hterm, -, hlikes⟩ := componentForms_simulate hC others
        (fun e he => hscope e (List.mem_cons_of_mem _ he)) hrest
      exact ⟨.more field y others', .cons ⟨hfield, hy⟩ hothers',
        by simp [Components.term, hlike.term, hterm], hlike, .cons ⟨rfl, hlike⟩ hlikes⟩

theorem term_subset_eq {op : SubsetOp} {x y : CoverageExpr} (h : x.Like y)
    (specs : List SubsetSpec) (a b : Schema) :
    (CoverageExpr.subset op x specs a).term = (CoverageExpr.subset op y specs b).term := by
  have hdimension := h.schema.dimension_eq
  have hextended : ∀ {as bs : List AxisView} (place : Nat), List.Forall₂ AxisView.Alike as bs →
      (as.zipIdx place).map (fun p => extendedInterval specs p.1.cells p.2) =
        (bs.zipIdx place).map fun p => extendedInterval specs p.1.cells p.2 := by
    intro as bs place hall
    induction hall generalizing place with
    | nil => rfl
    | cons hv _ ih =>
        simp only [List.zipIdx_cons, List.map_cons, ih]
        simp only [extendedInterval, hv.cells.lo, hv.cells.hi]
  cases op with
  | trim | slice => simp only [CoverageExpr.term, h.term, hdimension]
  | extend =>
      simp only [CoverageExpr.term, h.term]
      exact congrArg _ (hextended 0 h.schema.axes)

theorem reference_simulate (hscope : Scope.Narrows e s t) (htag : e.name = "coverage")
    {first : String} {rest : List String} {schema : Schema}
    (hnames : s.iterators.lookup e.trimmedText = some (first :: rest))
    (hschema : readSchema s first = .ok schema)
    (hsame : checkSame s e.trimmedText schema rest = .ok ()) :
    ∃ name schema', t.iterators.lookup e.trimmedText = some [name] ∧
      readSchema t name = .ok schema' ∧ schema.Alike schema' := by
  obtain ⟨name, hname, hlookup, halike⟩ := hscope.chosen ⟨e, .refl, htag, rfl⟩ hnames
  have hread : ∃ other, readSchema s name = .ok other ∧ schema.extents = other.extents := by
    rcases List.mem_cons.mp hname with rfl | hrest
    · exact ⟨schema, hschema, rfl⟩
    · exact checkSame_eq_ok_iff.mp hsame name hrest
  obtain ⟨other, hother, hextents⟩ := hread
  refine ⟨name, other, hlookup, ?_, ?_⟩
  · rw [readSchema, hscope.store]
    exact hother
  · simp only [readSchema, bind_eq_ok, pure_eq_ok] at hschema hother
    obtain ⟨c, hc, rfl⟩ := hschema
    obtain ⟨d, hd, rfl⟩ := hother
    exact (halike c d hc hd).schema hextents

-- A constructor over operands with the same fields makes alike schemas.
theorem constructedSchema_alike {name : String} {iterators : List AxisIterator}
    {fields fields' : List RangeField} {schema : Schema}
    (hfields : ∀ field, fields.any (·.name = field) = fields'.any (·.name = field))
    (h : constructedSchema name iterators fields = .ok schema) :
    ∃ schema', constructedSchema name iterators fields' = .ok schema' ∧ schema.Alike schema' := by
  simp only [constructedSchema, bind_eq_ok, pure_eq_ok] at h ⊢
  obtain ⟨axes, haxes, rfl⟩ := h
  exact ⟨_, ⟨axes, haxes, rfl⟩, List.forall₂_same.mpr fun v _ => .refl v, hfields⟩

theorem branches_schema_alike {branches branches' : Branches}
    (h : List.Forall₂ CoverageExpr.Like branches.exprs branches'.exprs) :
    branches.schema.Alike branches'.schema := by
  obtain ⟨x, rest, hexprs, hschema⟩ := branches.exprs_eq_cons
  obtain ⟨x', rest', hexprs', hschema'⟩ := branches'.exprs_eq_cons
  rw [hexprs, hexprs', List.forall₂_cons] at h
  rw [hschema, hschema']
  exact h.1.schema

-- Of the fields of a selection only the selected one is left.
theorem fieldSelect_alike {a b : Schema} (h : a.Alike b) (field : String) :
    Schema.Alike { a with rangeFields := a.rangeFields.filter (·.name = field) }
      { b with rangeFields := b.rangeFields.filter (·.name = field) } := by
  refine ⟨h.axes, fun other => ?_⟩
  have hselected : ∀ fields : List RangeField,
      (fields.filter (·.name = field)).any (·.name = other) =
        (decide (field = other) && fields.any (·.name = field)) := by
    intro fields
    rw [Bool.eq_iff_iff]
    simp only [List.any_eq_true, List.mem_filter, decide_eq_true_eq, Bool.and_eq_true]
    constructor
    · rintro ⟨f, ⟨hf, hfield⟩, hother⟩
      exact ⟨hfield.symm.trans hother, f, hf, hfield⟩
    · rintro ⟨hother, f, hf, hfield⟩
      exact ⟨f, ⟨hf, hfield⟩, hfield.trans hother⟩
  have hfield := h.fields field
  simp only [Schema.hasField] at hfield ⊢
  rw [hselected, hselected, hfield]

theorem rangeConstructor_alike {components components' : Components}
    (hhead : components.head.Like components'.head)
    (h : List.Forall₂ ComponentLike components.toList components'.toList) :
    Schema.Alike
      { components.head.schema with
        rangeFields := components.toList.map fun c => componentField c.1 c.2 }
      { components'.head.schema with
        rangeFields := components'.toList.map fun c => componentField c.1 c.2 } := by
  refine ⟨hhead.schema.axes, fun field => ?_⟩
  simp only [Schema.hasField, List.any_map, Function.comp_def, componentField]
  generalize components.toList = cs, components'.toList = cs' at h
  induction h with
  | nil => rfl
  | cons hc _ ih => simp only [List.any_cons, hc.1, ih]

theorem CoverageForm.simulate (hC : Simulates CoverageExpr.Like C C')
    (hS : Simulates ScalarExpr.Like S S') (hscope : Scope.Narrows e s t) {x : CoverageExpr}
    (h : CoverageForm C S s e x) : ∃ y, CoverageForm C' S' t e y ∧ x.Like y := by
  cases h with
  | reference htag hnames hschema hsame =>
      obtain ⟨name, schema', hlookup, hschema', halike⟩ :=
        reference_simulate hscope htag hnames hschema hsame
      exact ⟨_, .reference htag hlookup hschema' rfl, by simp only [CoverageExpr.term], halike⟩
  | constant htag hiterators hschema hcount =>
      exact ⟨_, .constant htag hiterators hschema hcount, rfl,
        List.forall₂_same.mpr fun v _ => .refl v, fun _ => rfl⟩
  | construct htag hiterators hchild hbody hschema =>
      have hheld := hscope.held (.child .refl (List.mem_of_find?_eq_some hchild))
      obtain ⟨body', hbody', hlike⟩ := hbody.simulate hC hS (hheld.withVariables _)
      obtain ⟨schema', hschema', halike⟩ := constructedSchema_alike hlike.fields hschema
      exact ⟨_, .construct htag hiterators hchild hbody' hschema',
        by simp only [CoverageExpr.term, hlike.term], halike⟩
  | scale htag hx hsubsets hschema =>
      obtain ⟨y, hy, hlike⟩ := hx.simulate hC hscope
      obtain ⟨schema', hschema', halike⟩ := hlike.schema.scaleAxes hschema
      have hdomain := schemaDomain_eq_of_extents halike.extents_eq
      exact ⟨_, .scale htag hy hsubsets hschema',
        by simp only [CoverageExpr.term, hlike.term, hdomain], halike⟩
  | @switch branches htag hbranches hsame =>
      obtain ⟨branches', hbranches', hterm, hlikes⟩ :=
        hbranches.simulate hC fun c hc => hscope.held (.child .refl hc)
      have halike := branches_schema_alike hlikes
      refine ⟨_, .switch htag hbranches' fun y hy => ?_,
        by simp only [CoverageExpr.term, hterm], ?_⟩
      · obtain ⟨x, hx, hlike⟩ := exists_mem_of_forall₂ hlikes y hy
        rw [← halike.extents_eq, ← hlike.schema.extents_eq]
        exact hsame x hx
      · simpa only [CoverageExpr.schema] using halike
  | setMetadata hchange hx hschema =>
      obtain ⟨y, hy, hlike⟩ := hx.simulate hC hscope
      obtain ⟨schema', hschema', halike⟩ := hlike.schema.metadataApply hschema
      exact ⟨_, .setMetadata hchange hy hschema', by simp only [CoverageExpr.term, hlike.term],
        halike⟩
  | unary htag hx =>
      obtain ⟨y, hy, hlike⟩ := hx.simulate hC hscope
      exact ⟨_, .unary htag hy, by simp only [CoverageExpr.term, hlike.term],
        by simpa only [CoverageExpr.schema] using hlike.schema⟩
  | bit htag hx hchild hindex =>
      obtain ⟨y, hy, hlike⟩ := hx.simulate hC hscope
      exact ⟨_, .bit htag hy hchild hindex, by simp only [CoverageExpr.term, hlike.term],
        hlike.schema.withDatatype _⟩
  | cast htag hx htarget =>
      obtain ⟨y, hy, hlike⟩ := hx.simulate hC hscope
      exact ⟨_, .cast htag hy htarget, by simp only [CoverageExpr.term, hlike.term],
        hlike.schema.withDatatype _⟩
  | @fieldSelect _ field htag hx hfield hpresent =>
      obtain ⟨y, hy, hlike⟩ := hx.simulate hC hscope
      rw [hlike.schema.fields] at hpresent
      exact ⟨_, .fieldSelect htag hy hfield hpresent, by simp only [CoverageExpr.term, hlike.term],
        fieldSelect_alike hlike.schema field⟩
  | rangeConstructor htag hcomponents hsame =>
      obtain ⟨components', hcomponents', hterm, hhead, hlikes⟩ :=
        componentForms_simulate hC _ (fun c hc => hscope.held
          (.child .refl (List.mem_of_mem_filter hc))) hcomponents
      refine ⟨_, .rangeConstructor htag hcomponents' fun c' hc' => ?_,
        by simp only [CoverageExpr.term, hterm], rangeConstructor_alike hhead hlikes⟩
      obtain ⟨c, hc, hlike⟩ := exists_mem_of_forall₂ hlikes c' hc'
      exact extents_eq_of_like hhead hlike.2 (hsame c hc)
  | @binary op _ _ _ htag hchildren hpair =>
      have hleft := hscope.held (.child .refl (by rw [hchildren]; exact List.mem_cons_self))
      have hright := hscope.held
        (.child .refl (by rw [hchildren]; exact List.mem_cons_of_mem _ List.mem_cons_self))
      obtain ⟨pair', hpair', hfirst, hsecond, halike⟩ := hpair.simulate hC hS hleft hright
      refine ⟨_, .binary htag hchildren hpair',
        by simp only [CoverageExpr.term, hfirst.term, hsecond.term], ?_⟩
      simp only [CoverageExpr.schema]
      split
      · exact halike.withDatatype _
      · exact halike
  | subset htag hx hsubsets hspecs hsome =>
      obtain ⟨y, hy, hlike⟩ := hx.simulate hC hscope
      exact ⟨_, .subset htag hy hsubsets (hlike.schema.resolveSpecs hspecs) hsome,
        term_subset_eq hlike _ _ _, hlike.schema.subsetSchema _ _⟩

theorem ScalarForm.simulate (hC : Simulates CoverageExpr.Like C C')
    (hS : Simulates ScalarExpr.Like S S') (hscope : Scope.Narrows e s t) {x : ScalarExpr}
    (h : ScalarForm C S s e x) : ∃ y, ScalarForm C' S' t e y ∧ x.Like y := by
  cases h with
  | numeric htag hvalue => exact ⟨_, .numeric htag hvalue, rfl⟩
  | boolean htag hvalue => exact ⟨_, .boolean htag hvalue, rfl⟩
  | string htag => exact ⟨_, .string htag, rfl⟩
  | axisVariable htag hin => exact ⟨_, .axisVariable htag (hscope.axisVariables ▸ hin), rfl⟩
  | unary htag hchild hx =>
      have hheld := hscope.held (.child .refl (List.mem_of_mem_head? hchild))
      obtain ⟨y, hy, hlike⟩ := hS _ _ _ _ hheld hx
      unfold ScalarExpr.Like at hlike
      exact ⟨_, .unary htag hchild hy, by simp only [ScalarExpr.Like, ScalarExpr.term, hlike]⟩
  | binary htag hchildren hx hy =>
      have hleft := hscope.held (.child .refl (by rw [hchildren]; exact List.mem_cons_self))
      have hright := hscope.held
        (.child .refl (by rw [hchildren]; exact List.mem_cons_of_mem _ List.mem_cons_self))
      obtain ⟨x', hx', hxlike⟩ := hS _ _ _ _ hleft hx
      obtain ⟨y', hy', hylike⟩ := hS _ _ _ _ hright hy
      unfold ScalarExpr.Like at hxlike hylike
      exact ⟨_, .binary htag hchildren hx' hy',
        by simp only [ScalarExpr.Like, ScalarExpr.term, hxlike, hylike]⟩
  | condense htag hx =>
      obtain ⟨y, hy, hlike⟩ := hx.simulate hC hscope
      exact ⟨_, .condense htag hy, by simp only [ScalarExpr.Like, ScalarExpr.term, hlike.term]⟩

end Simulation

-- Every level of the grammar reads alike in a narrower scope.
theorem Grammar.level_simulates (limit levels : Nat) :
    Simulates CoverageExpr.Like (level limit levels).ReadsCoverage
        (level limit levels).ReadsCoverage ∧
      Simulates ScalarExpr.Like (level limit levels).ReadsScalar
        (level limit levels).ReadsScalar := by
  induction levels with
  | zero =>
      exact ⟨fun _ _ _ _ _ h => (not_readsCoverage_zero h).elim,
        fun _ _ _ _ _ h => (not_readsScalar_zero h).elim⟩
  | succ levels ih =>
      simp only [Simulates, readsCoverage_succ_iff, readsScalar_succ_iff]
      exact ⟨fun _ _ _ _ hscope h => h.simulate ih.1 ih.2 hscope,
        fun _ _ _ _ hscope h => h.simulate ih.1 ih.2 hscope⟩

end Expr

end Datacube
