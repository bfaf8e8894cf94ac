import Datacube.Proofs.Expr.Domain
import Datacube.Proofs.Expr.Variation
import Datacube.Proofs.Rasql.Literal
import Datacube.Proofs.Schema.Alike

-- What is read of an element is alike if what is read below it is: a likeness of schemas and of
-- texts that operations keep carries over from one operand to all that is made of it.
namespace Datacube

open Markup (Element)
open Rasql (quotedText)
open Result

-- A likeness of schemas with the same axes and fields, which every operation keeps.
structure Schema.Congruence (T : Schema → Schema → Prop) : Prop where
  refl : ∀ a, T a a
  axes : ∀ {a b}, T a b → a.axes = b.axes
  fields : ∀ {a b}, T a b → a.rangeFields = b.rangeFields
  withAxes : ∀ {a b}, T a b → ∀ axes, T { a with axes := axes } { b with axes := axes }
  withFields : ∀ {a b}, T a b → ∀ fields,
    T { a with rangeFields := fields } { b with rangeFields := fields }
  change : ∀ {a b a'} {change : Expr.MetadataChange}, T a b → change.apply a = .ok a' →
    ∃ b', change.apply b = .ok b' ∧ T a' b'

theorem Schema.congruence_eq : Schema.Congruence Eq where
  refl _ := rfl
  axes h := congrArg _ h
  fields h := congrArg _ h
  withAxes h _ := by rw [h]
  withFields h _ := by rw [h]
  change h ha := ⟨_, h ▸ ha, rfl⟩

-- A likeness of texts that what stands around them does not end.
structure Rasql.Congruence (E : String → String → Prop) : Prop where
  refl : ∀ text, E text text
  append_left : ∀ {text text'}, E text text' → ∀ more, E (more ++ text) (more ++ text')
  append_right : ∀ {text text'}, E text text' → ∀ more, E (text ++ more) (text' ++ more)

theorem Rasql.Congruence.between {E : String → String → Prop} (hE : Rasql.Congruence E)
    {text text' : String} (h : E text text') (before after : String) :
    E (before ++ text ++ after) (before ++ text' ++ after) :=
  hE.append_right (hE.append_left h before) after

namespace Schema.Congruence

open Datacube.Expr

variable {T : Schema → Schema → Prop} (hT : Schema.Congruence T) {a b : Schema}

include hT

theorem alike (h : T a b) : a.Alike b where
  axes := by
    rw [hT.axes h]
    exact List.forall₂_same.mpr fun v _ => .refl v
  fields field := by rw [Schema.hasField, hT.fields h, Schema.hasField]

theorem extents_eq (h : T a b) : a.extents = b.extents :=
  (hT.alike h).extents_eq

theorem withDatatype (h : T a b) (datatype : String) :
    T (a.withDatatype datatype) (b.withDatatype datatype) := by
  unfold Schema.withDatatype
  rw [hT.fields h]
  exact hT.withFields h _

theorem subsetSchema (h : T a b) (op : SubsetOp) (specs : List SubsetSpec) :
    T (subsetSchema op a specs) (Expr.subsetSchema op b specs) := by
  unfold Expr.subsetSchema
  rw [hT.axes h]
  exact hT.withAxes h _

theorem requireAxis_eq_ok (h : T a b) {name : String} {found : Nat × AxisView}
    (ha : a.requireAxis name = .ok found) : b.requireAxis name = .ok found := by
  unfold Schema.requireAxis at ha ⊢
  rw [← hT.axes h]
  split at ha
  · exact ha
  · simp at ha

theorem scaleAxis (h : T a b) {subset : Subset} {a' : Schema} (ha : scaleAxis a subset = .ok a') :
    ∃ b', Expr.scaleAxis b subset = .ok b' ∧ T a' b' := by
  obtain ⟨i, axis, lo, hi, domain, haxis, hresolve, hle, hdomain, rfl⟩ := scaleAxis_eq_ok_iff.mp ha
  have haxis' := hT.requireAxis_eq_ok h haxis
  refine ⟨_, scaleAxis_eq_ok_iff.mpr
    ⟨i, axis, lo, hi, domain, haxis', hresolve, hle, hdomain, rfl⟩, ?_⟩
  rw [hT.axes h]
  exact hT.withAxes h _

theorem scaleAxes (h : T a b) {subsets : List Subset} {a' : Schema}
    (ha : subsets.foldlM Expr.scaleAxis a = .ok a') :
    ∃ b', subsets.foldlM Expr.scaleAxis b = .ok b' ∧ T a' b' := by
  induction subsets generalizing a b with
  | nil =>
      obtain rfl := pure_eq_ok.mp ha
      exact ⟨b, rfl, h⟩
  | cons subset subsets ih =>
      simp only [List.foldlM_cons, bind_eq_ok] at ha ⊢
      obtain ⟨c, hc, hrest⟩ := ha
      obtain ⟨d, hd, hcd⟩ := hT.scaleAxis h hc
      obtain ⟨b', hb', hlike⟩ := ih hcd hrest
      exact ⟨b', ⟨d, hd, hb'⟩, hlike⟩

end Schema.Congruence

namespace Expr

section Akin

variable (T : Schema → Schema → Prop) (E : String → String → Prop)

structure CoverageExpr.Akin (x y : CoverageExpr) : Prop where
  schema : T x.schema y.schema
  text : E x.text y.text

def ScalarExpr.Akin (x y : ScalarExpr) : Prop :=
  E x.text y.text

inductive Operand.Akin : Operand → Operand → Prop where
  | coverage {x y : CoverageExpr} (h : x.Akin T E y) : Akin (.coverage x) (.coverage y)
  | scalar {x y : ScalarExpr} (h : x.Akin E y) : Akin (.scalar x) (.scalar y)

-- A reader that reads related elements to something that is alike.
def Follows {α : Type} (R : Element → Element → Prop) (Like : α → α → Prop)
    (Reads : Scope → Element → α → Prop) : Prop :=
  ∀ s e e' x, R e e' → Reads s e x → ∃ y, Reads s e' y ∧ Like x y

end Akin

variable {R : Element → Element → Prop} {T : Schema → Schema → Prop} {E : String → String → Prop}
  {C : Scope → Element → CoverageExpr → Prop} {S : Scope → Element → ScalarExpr → Prop}
  {s : Scope} {e e' : Element}

theorem Operand.Akin.text {x y : Operand} (h : x.Akin T E y) : E x.text y.text := by
  cases h with
  | coverage h => exact h.text
  | scalar h => exact h

theorem Operand.Akin.fields (hT : Schema.Congruence T) {x y : Operand} (h : x.Akin T E y) :
    x.fields = y.fields := by
  cases h with
  | coverage h => exact hT.fields h.schema
  | scalar h => rfl

theorem CoverageExpr.Akin.refl (hT : Schema.Congruence T) (hE : Rasql.Congruence E)
    (x : CoverageExpr) : x.Akin T E x :=
  ⟨hT.refl _, hE.refl _⟩

-- One of the two operands of an operation differs.
theorem operation_akin (hE : Rasql.Congruence E) {first first' second second' : Operand}
    {op : BinaryOp} {schema schema' : Schema}
    (h : (first.Akin T E first' ∧ second = second') ∨
      (first = first' ∧ second.Akin T E second')) :
    E (CoverageExpr.binary op first second schema).text
      (CoverageExpr.binary op first' second' schema').text := by
  rcases h with ⟨h, rfl⟩ | ⟨rfl, h⟩
  · refine hE.append_right (hE.append_right (hE.append_right (hE.append_right ?_ _) _) _) _
    exact hE.between h.text _ _
  · exact hE.between h.text _ _

-- The indices of a subset are those of the same axes.
theorem CoverageExpr.Akin.subset (hT : Schema.Congruence T) (hE : Rasql.Congruence E)
    {x y : CoverageExpr} (h : x.Akin T E y) (op : SubsetOp) (specs : List SubsetSpec)
    (a b : Schema) :
    E (CoverageExpr.subset op x specs a).text (CoverageExpr.subset op y specs b).text := by
  unfold CoverageExpr.text
  cases op with
  | trim | slice =>
      simp only [CoverageExpr.term, (hT.alike h.schema).dimension_eq]
      exact hE.append_right (hE.append_right (hE.between h.text _ _) _) _
  | extend =>
      simp only [CoverageExpr.term, hT.axes h.schema]
      exact hE.append_right (hE.append_right (hE.between h.text _ _) _) _

theorem Components.toList_eq_cons (components : Components) :
    ∃ field rest, components.toList = (field, components.head) :: rest := by
  cases components with
  | one field x => exact ⟨field, [], rfl⟩
  | more field x others => exact ⟨field, others.toList, rfl⟩

-- The first of the branches, or of the components, gives the schema.
theorem Branches.schema_akin {branches branches' : Branches}
    (h : List.Forall₂ (fun x y => T x.schema y.schema) branches.exprs branches'.exprs) :
    T branches.schema branches'.schema := by
  obtain ⟨x, rest, hexprs, hschema⟩ := branches.exprs_eq_cons
  obtain ⟨x', rest', hexprs', hschema'⟩ := branches'.exprs_eq_cons
  rw [hexprs, hexprs', List.forall₂_cons] at h
  rw [hschema, hschema']
  exact h.1

theorem Components.head_akin {components components' : Components}
    (h : List.Forall₂ (fun c c' => c.1 = c'.1 ∧ T c.2.schema c'.2.schema) components.toList
      components'.toList) : T components.head.schema components'.head.schema := by
  obtain ⟨field, rest, hlist⟩ := components.toList_eq_cons
  obtain ⟨field', rest', hlist'⟩ := components'.toList_eq_cons
  rw [hlist, hlist', List.forall₂_cons] at h
  exact h.1.2

theorem componentFields_eq (hT : Schema.Congruence T) {cs cs' : List (String × CoverageExpr)}
    (h : List.Forall₂ (fun c c' => c.1 = c'.1 ∧ T c.2.schema c'.2.schema) cs cs') :
    (cs.map fun c => componentField c.1 c.2) = cs'.map fun c => componentField c.1 c.2 := by
  have hfield : ∀ {c c' : String × CoverageExpr}, c.1 = c'.1 ∧ T c.2.schema c'.2.schema →
      componentField c.1 c.2 = componentField c'.1 c'.2 := by
    rintro c c' ⟨hname, hschema⟩
    rw [componentField, hname, hT.fields hschema, componentField]
  induction h with
  | nil => rfl
  | cons hhead _ ih => exact congrArg₂ List.cons (hfield hhead) ih

theorem OperandForm.follow (hC : Follows R (CoverageExpr.Akin T E) C)
    (hS : Follows R (ScalarExpr.Akin E) S) (he : R e e') {x : Operand}
    (h : OperandForm C S s e x) : ∃ y, OperandForm C S s e' y ∧ x.Akin T E y := by
  cases h with
  | scalar hx =>
      obtain ⟨y, hy, hlike⟩ := hS _ _ _ _ he hx
      exact ⟨.scalar y, .scalar hy, .scalar hlike⟩
  | coverage hx =>
      obtain ⟨y, hy, hlike⟩ := hC _ _ _ _ he hx
      exact ⟨.coverage y, .coverage hy, .coverage hlike⟩

-- Of two operands, one is the same.
theorem PairForm.follow (hT : Schema.Congruence T) (hC : Follows R (CoverageExpr.Akin T E) C)
    (hS : Follows R (ScalarExpr.Akin E) S)
    {left right left' right' : Element} (he : OneOff R [left, right] [left', right']) {pair : Pair}
    (h : PairForm C S s left right pair) :
    ∃ pair', PairForm C S s left' right' pair' ∧ T pair.schema pair'.schema ∧
      ((pair.first.Akin T E pair'.first ∧ pair.second = pair'.second) ∨
        (pair.first = pair'.first ∧ pair.second.Akin T E pair'.second)) := by
  cases he with
  | head hleft =>
      cases h with
      | coverageScalar hx hy =>
          obtain ⟨x', hx', hlike⟩ := hC _ _ _ _ hleft hx
          exact ⟨_, .coverageScalar hx' hy, hlike.schema, .inl ⟨.coverage hlike, rfl⟩⟩
      | scalarCoverage hx hy =>
          obtain ⟨x', hx', hlike⟩ := hS _ _ _ _ hleft hx
          exact ⟨_, .scalarCoverage hx' hy, hT.refl _, .inl ⟨.scalar hlike, rfl⟩⟩
      | coverages hx hy hsame =>
          obtain ⟨x', hx', hlike⟩ := hC _ _ _ _ hleft hx
          exact ⟨_, .coverages hx' hy ((hT.extents_eq hlike.schema).symm.trans hsame),
            hlike.schema, .inl ⟨.coverage hlike, rfl⟩⟩
  | tail he =>
      cases he with
      | tail he => cases he
      | head hright =>
          cases h with
          | coverageScalar hx hy =>
              obtain ⟨y', hy', hlike⟩ := hS _ _ _ _ hright hy
              exact ⟨_, .coverageScalar hx hy', hT.refl _, .inr ⟨rfl, .scalar hlike⟩⟩
          | scalarCoverage hx hy =>
              obtain ⟨y', hy', hlike⟩ := hC _ _ _ _ hright hy
              exact ⟨_, .scalarCoverage hx hy', hlike.schema, .inr ⟨rfl, .coverage hlike⟩⟩
          | coverages hx hy hsame =>
              obtain ⟨y', hy', hlike⟩ := hC _ _ _ _ hright hy
              exact ⟨_, .coverages hx hy' (hsame.trans (hT.extents_eq hlike.schema)), hT.refl _,
                .inr ⟨rfl, .coverage hlike⟩⟩

-- A default has one part.
theorem Varied.defaultPart (hR : Inert partTags R) {part : Element} (he : Varied R e e')
    (hparts : e.children = [part]) (hpart : part.name = "result") :
    ∃ part', e'.children = [part'] ∧ part'.name = "result" ∧ Varied R part part' := by
  rcases he.children with hsame | hone
  · exact ⟨part, hsame ▸ hparts, hpart, .refl part⟩
  · generalize e'.children = children' at hone ⊢
    rw [hparts] at hone
    rcases hone with h | ⟨⟨⟩⟩
    exact ⟨_, rfl, (hR.name_iff h _ (by decide)).mp hpart, hR.inner h (hpart ▸ by decide)⟩

-- A case has two parts, of which one is the same.
theorem Varied.caseParts (hR : Inert partTags R) {condition result : Element} (he : Varied R e e')
    (hparts : e.children = [condition, result] ∨ e.children = [result, condition])
    (hcondition : condition.name = "condition") (hresult : result.name = "result") :
    ∃ condition' result',
      (e'.children = [condition', result'] ∨ e'.children = [result', condition']) ∧
      condition'.name = "condition" ∧ result'.name = "result" ∧
      ((Varied R condition condition' ∧ result = result') ∨
        (condition = condition' ∧ Varied R result result')) := by
  have hcondition' : ∀ {c}, R condition c → c.name = "condition" ∧ Varied R condition c :=
    fun h => ⟨(hR.name_iff h _ (by decide)).mp hcondition, hR.inner h (hcondition ▸ by decide)⟩
  have hresult' : ∀ {c}, R result c → c.name = "result" ∧ Varied R result c :=
    fun h => ⟨(hR.name_iff h _ (by decide)).mp hresult, hR.inner h (hresult ▸ by decide)⟩
  rcases he.children with hsame | hone
  · exact ⟨condition, result, hsame ▸ hparts, hcondition, hresult, .inl ⟨.refl condition, rfl⟩⟩
  · generalize e'.children = children' at hone ⊢
    rcases hparts with hparts | hparts <;> rw [hparts] at hone <;>
      rcases hone with h | (h | ⟨⟨⟩⟩)
    · exact ⟨_, _, .inl rfl, (hcondition' h).1, hresult, .inl ⟨(hcondition' h).2, rfl⟩⟩
    · exact ⟨_, _, .inl rfl, hcondition, (hresult' h).1, .inr ⟨rfl, (hresult' h).2⟩⟩
    · exact ⟨_, _, .inr rfl, hcondition, (hresult' h).1, .inr ⟨rfl, (hresult' h).2⟩⟩
    · exact ⟨_, _, .inr rfl, (hcondition' h).1, hresult, .inl ⟨(hcondition' h).2, rfl⟩⟩

section Step

variable (hT : Schema.Congruence T) (hE : Rasql.Congruence E)
  (hC : Follows R (CoverageExpr.Akin T E) C)

include hT hE hC

theorem OperandBeside.follow {parameters : List String} {x : CoverageExpr} (he : Varied R e e')
    (hnames : ∀ c c', R c c' → (c.name ∈ parameters ↔ c'.name ∈ parameters))
    (h : OperandBeside C s e parameters x) :
    ∃ y, OperandBeside C s e' parameters y ∧ x.Akin T E y := by
  obtain ⟨c, hc, hx⟩ := h
  rcases he.childBeside hnames hc with hsame | ⟨c', hc', hrelated⟩
  · exact ⟨x, ⟨c, hsame, hx⟩, .refl hT hE x⟩
  · obtain ⟨y, hy, hlike⟩ := hC _ _ _ _ hrelated hx
    exact ⟨y, ⟨c', hc', hy⟩, hlike⟩

theorem OnlyOperand.follow (he : Varied R e e') {x : CoverageExpr} (h : OnlyOperand C s e x) :
    ∃ y, OnlyOperand C s e' y ∧ x.Akin T E y := by
  obtain ⟨c, hc, hx⟩ := h
  rcases he.firstChild hc with hsame | ⟨c', hc', hrelated⟩
  · exact ⟨x, ⟨c, hsame, hx⟩, .refl hT hE x⟩
  · obtain ⟨y, hy, hlike⟩ := hC _ _ _ _ hrelated hx
    exact ⟨y, ⟨c', hc', hy⟩, hlike⟩

variable (hR : Inert partTags R)

include hR

-- A switch has the text and the schemas of its branches, of which one differs.
theorem BranchesForm.follow {elements elements' : List Element} (he : OneOff R elements elements')
    {branches : Branches} (h : BranchesForm C s elements branches) :
    ∃ branches', BranchesForm C s elements' branches' ∧
      E branches.term.text branches'.term.text ∧
      List.Forall₂ (fun x y => T x.schema y.schema) branches.exprs branches'.exprs := by
  have hsame : ∀ xs : List CoverageExpr, List.Forall₂ (fun x y => T x.schema y.schema) xs xs :=
    fun xs => List.forall₂_same.mpr fun x _ => hT.refl _
  induction h generalizing elements' with
  | @default e part x htag hparts hpart hx =>
      rcases he with he | ⟨⟨⟩⟩
      have htag' := (hR.name_iff he _ (by decide)).mp htag
      have hinner := hR.inner he (htag ▸ by decide)
      obtain ⟨part', hparts', hpart', hvaried⟩ := hinner.defaultPart hR hparts hpart
      obtain ⟨y, hy, hlike⟩ := hx.follow hT hE hC hvaried
      exact ⟨_, .default htag' hparts' hpart' hy, hE.append_left hlike.text _,
        .cons hlike.schema .nil⟩
  | @case e condition result x y rest branches htag hparts hcondition hresult hx hy hrest ih =>
      rcases he with he | he
      · have htag' := (hR.name_iff he _ (by decide)).mp htag
        have hinner := hR.inner he (htag ▸ by decide)
        obtain ⟨condition', result', hparts', hcondition', hresult', hone⟩ :=
          hinner.caseParts hR hparts hcondition hresult
        rcases hone with ⟨hvaried, rfl⟩ | ⟨rfl, hvaried⟩
        · obtain ⟨x', hx', hlike⟩ := hx.follow hT hE hC hvaried
          refine ⟨_, .case htag' hparts' hcondition' hresult' hx' hy hrest, ?_,
            .cons hlike.schema (hsame _)⟩
          refine hE.append_right (hE.append_right (hE.append_right ?_ _) _) _
          exact hE.between hlike.text _ _
        · obtain ⟨y', hy', hlike⟩ := hy.follow hT hE hC hvaried
          refine ⟨_, .case htag' hparts' hcondition' hresult' hx hy' hrest, ?_,
            .cons (hT.refl _) (.cons hlike.schema (hsame _))⟩
          exact hE.append_right (hE.between hlike.text _ _) _
      · obtain ⟨branches', hbranches', hlike, hschemas⟩ := ih he
        exact ⟨_, .case htag hparts hcondition hresult hx hy hbranches', hE.append_left hlike _,
          .cons (hT.refl _) (.cons (hT.refl _) hschemas)⟩

theorem ComponentForm.follow (he : Varied R e e') {c : String × CoverageExpr}
    (h : ComponentForm C s e c) :
    ∃ y, ComponentForm C s e' (c.1, y) ∧ c.2.Akin T E y := by
  obtain ⟨hfield, hx⟩ := h
  have hfields : Inert ["field"] R := hR.mono (by decide)
  obtain ⟨y, hy, hlike⟩ := hx.follow hT hE hC he fun _ _ => hfields.mem_iff
  rw [he.childText?_eq hR (by decide)] at hfield
  exact ⟨y, ⟨hfield, hy⟩, hlike⟩

theorem componentForms_follow :
    ∀ (components : Components) {elements elements' : List Element},
      (∀ c ∈ elements, c.name = "component") → OneOff R elements elements' →
      List.Forall₂ (ComponentForm C s) elements components.toList →
      ∃ components' : Components, List.Forall₂ (ComponentForm C s) elements' components'.toList ∧
        E components.term.text components'.term.text ∧
        List.Forall₂ (fun c c' => c.1 = c'.1 ∧ T c.2.schema c'.2.schema) components.toList
          components'.toList
  | .one field x, elements, elements', hnames, he, h => by
      obtain ⟨e, rest, hx, hrest, rfl⟩ := List.forall₂_cons_right_iff.mp h
      obtain rfl := List.forall₂_nil_right_iff.mp hrest
      rcases he with he | ⟨⟨⟩⟩
      have hinner := hR.inner he (hnames e List.mem_cons_self ▸ by decide)
      obtain ⟨y, hy, hlike⟩ := hx.follow hT hE hC hR hinner
      exact ⟨.one field y, .cons hy .nil, hlike.text, .cons ⟨rfl, hlike.schema⟩ .nil⟩
  | .more field x others, elements, elements', hnames, he, h => by
      obtain ⟨e, rest, hx, hrest, rfl⟩ := List.forall₂_cons_right_iff.mp h
      obtain ⟨hname, hnames⟩ := List.forall_mem_cons.mp hnames
      rcases he with he | he
      · have hinner := hR.inner he (hname ▸ by decide)
        obtain ⟨y, hy, hlike⟩ := hx.follow hT hE hC hR hinner
        refine ⟨.more field y others, .cons hy hrest, ?_, .cons ⟨rfl, hlike.schema⟩ ?_⟩
        · exact hE.append_right (hE.append_right hlike.text _) _
        · exact List.forall₂_same.mpr fun c _ => ⟨rfl, hT.refl _⟩
      · obtain ⟨others', hothers', hlike, hschemas⟩ := componentForms_follow others hnames he hrest
        exact ⟨.more field x others', .cons hx hothers', hE.append_left hlike _,
          .cons ⟨rfl, hT.refl _⟩ hschemas⟩

theorem switch_follows (he : Varied R e e') (hswitch : e.name = "switch") {branches : Branches}
    (hbranches : BranchesForm C s e.children branches)
    (hsame : ∀ x ∈ branches.exprs, branches.schema.extents = x.schema.extents) :
    ∃ y, CoverageForm C S s e' y ∧ (CoverageExpr.switch branches).Akin T E y := by
  have hname := he.name
  rcases he.children with hchildren | hone
  · exact ⟨_, .switch (hname ▸ hswitch) (hchildren ▸ hbranches) hsame, .refl hT hE _⟩
  · obtain ⟨branches', hbranches', hlike, hschemas⟩ := hbranches.follow hT hE hC hR hone
    have hschema := Branches.schema_akin hschemas
    refine ⟨_, .switch (hname ▸ hswitch) hbranches' fun y hy => ?_, hschema, hE.between hlike _ _⟩
    obtain ⟨x, hx, hxy⟩ := exists_mem_of_forall₂ hschemas y hy
    rw [← hT.extents_eq hschema, ← hT.extents_eq hxy]
    exact hsame x hx

theorem rangeConstructor_follows (he : Varied R e e') (hrange : e.name = "rangeConstructor")
    {components : Components}
    (hcomponents : List.Forall₂ (ComponentForm C s) (e.childrenNamed "component")
      components.toList)
    (hsame : ∀ c ∈ components.toList, components.head.schema.extents = c.2.schema.extents) :
    ∃ y, CoverageForm C S s e' y ∧ (CoverageExpr.rangeConstructor components
      { components.head.schema with
        rangeFields := components.toList.map fun c => componentField c.1 c.2 }).Akin T E y := by
  have hname := he.name
  rcases he.childrenNamed hR (show "component" ∈ partTags by decide) with hchildren | hone
  · exact ⟨_, .rangeConstructor (hname ▸ hrange) (hchildren ▸ hcomponents) hsame, .refl hT hE _⟩
  · have hnames : ∀ c ∈ e.childrenNamed "component", c.name = "component" := by
      simp [Element.childrenNamed]
    obtain ⟨components', hcomponents', hlike, hschemas⟩ :=
      componentForms_follow hT hE hC hR components hnames hone hcomponents
    have hhead := Components.head_akin hschemas
    refine ⟨_, .rangeConstructor (hname ▸ hrange) hcomponents' fun c' hc' => ?_, ?_,
      hE.between hlike _ _⟩
    · obtain ⟨c, hc, -, hcc'⟩ := exists_mem_of_forall₂ hschemas c' hc'
      rw [← hT.extents_eq hhead, ← hT.extents_eq hcc']
      exact hsame c hc
    · simp only [CoverageExpr.schema, componentFields_eq hT hschemas]
      exact hT.withFields hhead _

variable (hS : Follows R (ScalarExpr.Akin E) S)

include hS

omit hR in
theorem binary_follows (he : Varied R e e') {op : BinaryOp} (hop : e.name = op.tag)
    {left right : Element} (hchildren : e.children = [left, right]) {pair : Pair}
    (hpair : PairForm C S s left right pair) :
    ∃ y, CoverageForm C S s e' y ∧ (CoverageExpr.binary op pair.first pair.second
      (if op.isBoolean then pair.schema.withDatatype "boolean" else pair.schema)).Akin T E y := by
  have hname := he.name
  rcases he.children with hsame | hone
  · exact ⟨_, .binary (hname ▸ hop) (hsame ▸ hchildren) hpair, .refl hT hE _⟩
  · rw [hchildren] at hone
    obtain ⟨left', right', hchildren'⟩ := hone.pair
    rw [hchildren'] at hone
    obtain ⟨pair', hpair', hschema, hlike⟩ := hpair.follow hT hC hS hone
    refine ⟨_, .binary (hname ▸ hop) hchildren' hpair', ?_, operation_akin hE hlike⟩
    simp only [CoverageExpr.schema]
    split
    · exact hT.withDatatype hschema _
    · exact hschema

-- One step of the grammar: an operand that differs makes the expression differ in a like way, and
-- all that is read beside the operands is the same.
theorem CoverageForm.follow (he : Varied R e e') (htext : e.trimmedText = e'.trimmedText)
    {x : CoverageExpr} (h : CoverageForm C S s e x) :
    ∃ y, CoverageForm C S s e' y ∧ x.Akin T E y := by
  have hname := he.name
  have hbeside : ∀ {parameters : List String} {x : CoverageExpr}, parameters ⊆ partTags →
      OperandBeside C s e parameters x →
      ∃ y, OperandBeside C s e' parameters y ∧ x.Akin T E y :=
    fun hsub hx => hx.follow hT hE hC he fun _ _ => (hR.mono hsub).mem_iff
  cases h with
  | reference hcoverage hnames hschema hsame =>
      rw [htext] at hnames hsame ⊢
      exact ⟨_, .reference (hname ▸ hcoverage) hnames hschema hsame, .refl hT hE _⟩
  | constant hconst hiterators hschema hcount =>
      have hvalues := he.texts_eq hR (show "value" ∈ partTags by decide)
      have hlength := congrArg List.length hvalues
      rw [List.length_map, List.length_map] at hlength
      rw [he.parseIterators_eq hR] at hiterators
      rw [he.childText?_eq hR (by decide)] at hschema
      rw [hlength] at hcount
      rw [hvalues]
      exact ⟨_, .constant (hname ▸ hconst) hiterators hschema hcount, .refl hT hE _⟩
  | construct hconstruct hiterators hchild hbody hschema =>
      rw [he.parseIterators_eq hR] at hiterators
      rw [he.childText?_eq hR (by decide)] at hschema
      have hnames : Inert ["name", "axisIterator"] R := hR.mono (by decide)
      rcases he.childBeside (fun _ _ => hnames.mem_iff) hchild with hsame | ⟨c', hchild', hrelated⟩
      · exact ⟨_, .construct (hname ▸ hconstruct) hiterators hsame hbody hschema, .refl hT hE _⟩
      · obtain ⟨body', hbody', hlike⟩ := hbody.follow hC hS hrelated
        rw [hlike.fields hT] at hschema
        exact ⟨_, .construct (hname ▸ hconstruct) hiterators hchild' hbody' hschema, hT.refl _,
          hE.append_left hlike.text _⟩
  | scale hscale hx hsubsets hschema =>
      obtain ⟨y, hy, hlike⟩ := hbeside (by decide) hx
      obtain ⟨schema', hschema', hschemas⟩ := hT.scaleAxes hlike.schema hschema
      rw [he.axisSubsets_eq hR] at hsubsets
      refine ⟨_, .scale (hname ▸ hscale) hy hsubsets hschema', hschemas, ?_⟩
      simp only [CoverageExpr.text, CoverageExpr.term, schemaDomain, hT.axes hschemas]
      exact hE.append_right (hE.append_right (hE.between hlike.text _ _) _) _
  | switch hswitch hbranches hsame =>
      exact switch_follows hT hE hC hR he hswitch hbranches hsame
  | setMetadata hchange hx hschema =>
      obtain ⟨y, hy, hlike⟩ := hbeside (by decide) hx
      obtain ⟨schema', hschema', hschemas⟩ := hT.change hlike.schema hschema
      rw [he.parseChange?_eq hR] at hchange
      exact ⟨_, .setMetadata hchange hy hschema', hschemas, hlike.text⟩
  | unary hop hx =>
      obtain ⟨y, hy, hlike⟩ := hx.follow hT hE hC he
      exact ⟨_, .unary (hname ▸ hop) hy, hlike.schema, hE.between hlike.text _ _⟩
  | @bit x c index hbit hx hchild hindex =>
      obtain ⟨y, hy, hlike⟩ := hbeside (by decide) hx
      rcases he.integerChild hR (show "bitIndex" ∈ partTags by decide) (by decide) with
        ⟨hnone, -⟩ | ⟨d, d', hfound, hfound', hsame⟩
      · simp [hnone] at hchild
      · obtain rfl := Option.some.inj (hfound.symm.trans hchild)
        rw [hsame] at hindex
        exact ⟨_, .bit (hname ▸ hbit) hy hfound' hindex, hT.withDatatype hlike.schema _,
          hE.append_right (hE.append_right (hE.between hlike.text _ _) _) _⟩
  | cast hcast hx htarget =>
      obtain ⟨y, hy, hlike⟩ := hbeside (by decide) hx
      rw [he.childText?_eq hR (by decide)] at htarget
      exact ⟨_, .cast (hname ▸ hcast) hy htarget, hT.withDatatype hlike.schema _,
        hE.between hlike.text _ _⟩
  | fieldSelect hselect hx hfield hpresent =>
      obtain ⟨y, hy, hlike⟩ := hbeside (by decide) hx
      rw [he.selectedField?_eq hR] at hfield
      rw [(hT.alike hlike.schema).fields] at hpresent
      refine ⟨_, .fieldSelect (hname ▸ hselect) hy hfield hpresent, ?_,
        hE.append_right (hE.between hlike.text _ _) _⟩
      simp only [CoverageExpr.schema, hT.fields hlike.schema]
      exact hT.withFields hlike.schema _
  | rangeConstructor hrange hcomponents hsame =>
      exact rangeConstructor_follows hT hE hC hR he hrange hcomponents hsame
  | binary hop hchildren hpair => exact binary_follows hT hE hC hS he hop hchildren hpair
  | subset hsubset hx hsubsets hspecs hsome =>
      obtain ⟨y, hy, hlike⟩ := hbeside (by decide) hx
      rw [he.axisSubsets_eq hR] at hsubsets
      have hspecs' := (hT.alike hlike.schema).resolveSpecs hspecs
      exact ⟨_, .subset (hname ▸ hsubset) hy hsubsets hspecs' hsome,
        hT.subsetSchema hlike.schema _ _, hlike.subset hT hE _ _ _ _⟩

-- The text of a string constant is the only one that is written as it stands.
omit hR in
theorem ScalarForm.follow (he : Varied R e e')
    (htext : e.name ≠ "stringConstant" → e.trimmedText = e'.trimmedText)
    (hstring : e.name = "stringConstant" → E (quotedText e.text) (quotedText e'.text))
    {x : ScalarExpr} (h : ScalarForm C S s e x) : ∃ y, ScalarForm C S s e' y ∧ x.Akin E y := by
  have hname := he.name
  cases h with
  | numeric hnumeric hvalue =>
      rw [htext (hnumeric ▸ by decide)] at hvalue ⊢
      exact ⟨_, .numeric (hname ▸ hnumeric) hvalue, hE.refl _⟩
  | boolean hboolean hvalue =>
      rw [htext (hboolean ▸ by decide)] at hvalue
      exact ⟨_, .boolean (hname ▸ hboolean) hvalue, hE.refl _⟩
  | string htag => exact ⟨_, .string (hname ▸ htag), hstring htag⟩
  | axisVariable hvariable hscope =>
      rw [htext (hvariable ▸ by decide)] at hscope ⊢
      exact ⟨_, .axisVariable (hname ▸ hvariable) hscope, hE.refl _⟩
  | unary hop hchild hx =>
      rcases he.firstChild hchild with hsame | ⟨c', hchild', hrelated⟩
      · exact ⟨_, .unary (hname ▸ hop) hsame hx, hE.refl _⟩
      · obtain ⟨y, hy, hlike⟩ := hS _ _ _ _ hrelated hx
        exact ⟨_, .unary (hname ▸ hop) hchild' hy, hE.between hlike _ _⟩
  | @binary op left right x y hop hchildren hx hy =>
      rcases he.children with hsame | hone
      · exact ⟨_, .binary (hname ▸ hop) (hsame ▸ hchildren) hx hy, hE.refl _⟩
      · rw [hchildren] at hone
        obtain ⟨left', right', hchildren'⟩ := hone.pair
        rw [hchildren'] at hone
        rcases hone with hleft | (hright | ⟨⟨⟩⟩)
        · obtain ⟨x', hx', hlike⟩ := hS _ _ _ _ hleft hx
          refine ⟨_, .binary (hname ▸ hop) hchildren' hx' hy, ?_⟩
          refine hE.append_right (hE.append_right (hE.append_right (hE.append_right ?_ _) _) _) _
          exact hE.between hlike _ _
        · obtain ⟨y', hy', hlike⟩ := hS _ _ _ _ hright hy
          exact ⟨_, .binary (hname ▸ hop) hchildren' hx hy', hE.between hlike _ _⟩
  | condense hop hx =>
      obtain ⟨y, hy, hlike⟩ := hx.follow hT hE hC he
      exact ⟨_, .condense (hname ▸ hop) hy, hE.between hlike.text _ _⟩

end Step

end Expr

end Datacube
