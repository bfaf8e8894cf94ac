import Datacube.Proofs.Expr.Domain

-- The operands of an expression: the expressions one step below it in the tree, and the scope in
-- which each of them was read.
namespace Datacube.Expr

open Markup (Element)
open Result

def CoverageExpr.operands : CoverageExpr → List Operand
  | .reference _ _ | .constant _ _ _ => []
  | .construct _ body _ => [body]
  | .scale x _ | .setMetadata _ x _ | .unary _ x | .bit x _ _ | .cast x _ _ | .fieldSelect x _ _
  | .subset _ x _ _ => [.coverage x]
  | .switch branches => branches.exprs.map .coverage
  | .rangeConstructor components _ => components.toList.map fun c => .coverage c.2
  | .binary _ first second _ => [first, second]

def ScalarExpr.operands : ScalarExpr → List Operand
  | .numeric _ | .boolean _ | .string _ | .axisVariable _ => []
  | .unary _ x => [.scalar x]
  | .binary _ x y => [.scalar x, .scalar y]
  | .condense _ x => [.coverage x]

def Operand.operands : Operand → List Operand
  | .coverage x => x.operands
  | .scalar x => x.operands

-- The iterators whose variables an expression declares for its operands.
def CoverageExpr.declared : CoverageExpr → List AxisIterator
  | .construct iterators _ _ => iterators
  | _ => []

def Operand.declared : Operand → List AxisIterator
  | .coverage x => x.declared
  | .scalar _ => []

theorem Scope.withVariables_nil (s : Scope) : s.withVariables [] = s := by
  simp [Scope.withVariables]

section Forms

variable {C : Scope → Element → CoverageExpr → Prop} {S : Scope → Element → ScalarExpr → Prop}
  {s : Scope} {e : Element}

theorem OperandForm.and {x : Operand} {P : Operand → Prop} (h : OperandForm C S s e x)
    (hx : P x) : OperandForm (fun s c y => C s c y ∧ P (.coverage y))
      (fun s c y => S s c y ∧ P (.scalar y)) s e x := by
  cases h with
  | scalar h => exact .scalar ⟨h, hx⟩
  | coverage h => exact .coverage ⟨h, hx⟩

theorem PairForm.and {left right : Element} {pair : Pair} {P : Operand → Prop}
    (h : PairForm C S s left right pair) (hfirst : P pair.first) (hsecond : P pair.second) :
    PairForm (fun s c y => C s c y ∧ P (.coverage y)) (fun s c y => S s c y ∧ P (.scalar y)) s left
      right pair := by
  cases h with
  | coverageScalar hx hy => exact .coverageScalar ⟨hx, hfirst⟩ ⟨hy, hsecond⟩
  | scalarCoverage hx hy => exact .scalarCoverage ⟨hx, hfirst⟩ ⟨hy, hsecond⟩
  | coverages hx hy hsame => exact .coverages ⟨hx, hfirst⟩ ⟨hy, hsecond⟩ hsame

theorem OperandBeside.and {parameters : List String} {x : CoverageExpr} {P : CoverageExpr → Prop}
    (h : OperandBeside C s e parameters x) (hx : P x) :
    OperandBeside (fun s c y => C s c y ∧ P y) s e parameters x := by
  obtain ⟨c, hc, h⟩ := h
  exact ⟨c, hc, h, hx⟩

theorem OnlyOperand.and {x : CoverageExpr} {P : CoverageExpr → Prop} (h : OnlyOperand C s e x)
    (hx : P x) : OnlyOperand (fun s c y => C s c y ∧ P y) s e x := by
  obtain ⟨c, hc, h⟩ := h
  exact ⟨c, hc, h, hx⟩

theorem BranchesForm.and {elements : List Element} {branches : Branches} {P : CoverageExpr → Prop}
    (h : BranchesForm C s elements branches) (hx : ∀ x ∈ branches.exprs, P x) :
    BranchesForm (fun s c y => C s c y ∧ P y) s elements branches := by
  induction h with
  | default htag hparts hpart h =>
      exact .default htag hparts hpart (h.and (hx _ List.mem_cons_self))
  | case htag hparts hcondition hresult hc hr _ ih =>
      simp only [Branches.exprs, List.mem_cons, forall_eq_or_imp] at hx
      exact .case htag hparts hcondition hresult (hc.and hx.1) (hr.and hx.2.1) (ih hx.2.2)

theorem componentForms_and {elements : List Element} {components : List (String × CoverageExpr)}
    {P : CoverageExpr → Prop} (h : List.Forall₂ (ComponentForm C s) elements components)
    (hx : ∀ c ∈ components, P c.2) :
    List.Forall₂ (ComponentForm (fun s c y => C s c y ∧ P y) s) elements components := by
  induction h with
  | nil => exact .nil
  | cons hc _ ih =>
      simp only [List.mem_cons, forall_eq_or_imp] at hx
      exact .cons ⟨hc.1, hc.2.and hx.1⟩ (ih hx.2)

-- A form says something about the operands of the expression only.
theorem CoverageForm.and {x : CoverageExpr} {P : Operand → Prop} (h : CoverageForm C S s e x)
    (hP : ∀ o ∈ x.operands, P o) :
    CoverageForm (fun s c y => C s c y ∧ P (.coverage y)) (fun s c y => S s c y ∧ P (.scalar y)) s e
      x := by
  cases h with
  | reference htag hnames hschema hsame => exact .reference htag hnames hschema hsame
  | constant htag hiterators hschema hcount => exact .constant htag hiterators hschema hcount
  | construct htag hiterators hchild hbody hschema =>
      exact .construct htag hiterators hchild (hbody.and (hP _ List.mem_cons_self)) hschema
  | scale htag hx hsubsets hschema =>
      exact .scale htag (hx.and (hP _ List.mem_cons_self)) hsubsets hschema
  | switch htag hbranches hsame =>
      exact .switch htag (hbranches.and fun y hy => hP _ (List.mem_map_of_mem hy)) hsame
  | setMetadata hchange hx hschema =>
      exact .setMetadata hchange (hx.and (hP _ List.mem_cons_self)) hschema
  | unary htag hx => exact .unary htag (hx.and (hP _ List.mem_cons_self))
  | bit htag hx hchild hindex => exact .bit htag (hx.and (hP _ List.mem_cons_self)) hchild hindex
  | cast htag hx htarget => exact .cast htag (hx.and (hP _ List.mem_cons_self)) htarget
  | fieldSelect htag hx hfield hpresent =>
      exact .fieldSelect htag (hx.and (hP _ List.mem_cons_self)) hfield hpresent
  | rangeConstructor htag hcomponents hsame =>
      refine .rangeConstructor htag (componentForms_and hcomponents fun c hc => ?_) hsame
      exact hP _ (List.mem_map_of_mem hc)
  | binary htag hchildren hpair =>
      have hfirst := hP _ List.mem_cons_self
      have hsecond := hP _ (List.mem_cons_of_mem _ List.mem_cons_self)
      exact .binary htag hchildren (hpair.and hfirst hsecond)
  | subset htag hx hsubsets hspecs hsome =>
      exact .subset htag (hx.and (hP _ List.mem_cons_self)) hsubsets hspecs hsome

theorem ScalarForm.and {x : ScalarExpr} {P : Operand → Prop} (h : ScalarForm C S s e x)
    (hP : ∀ o ∈ x.operands, P o) :
    ScalarForm (fun s c y => C s c y ∧ P (.coverage y)) (fun s c y => S s c y ∧ P (.scalar y)) s e
      x := by
  cases h with
  | numeric htag hvalue => exact .numeric htag hvalue
  | boolean htag hvalue => exact .boolean htag hvalue
  | string htag => exact .string htag
  | axisVariable htag hscope => exact .axisVariable htag hscope
  | unary htag hchild hx => exact .unary htag hchild ⟨hx, hP _ List.mem_cons_self⟩
  | binary htag hchildren hx hy =>
      have hfirst := hP _ List.mem_cons_self
      have hsecond := hP _ (List.mem_cons_of_mem _ List.mem_cons_self)
      exact .binary htag hchildren ⟨hx, hfirst⟩ ⟨hy, hsecond⟩
  | condense htag hx => exact .condense htag (hx.and (hP _ List.mem_cons_self))

theorem PairForm.operand {left right : Element} {pair : Pair} (h : PairForm C S s left right pair) :
    (∃ c, OperandForm C S s c pair.first) ∧ ∃ c, OperandForm C S s c pair.second := by
  cases h with
  | coverageScalar hx hy => exact ⟨⟨left, .coverage hx⟩, right, .scalar hy⟩
  | scalarCoverage hx hy => exact ⟨⟨left, .scalar hx⟩, right, .coverage hy⟩
  | coverages hx hy _ => exact ⟨⟨left, .coverage hx⟩, right, .coverage hy⟩

-- Every operand was read in the scope of the expression, with the variables that the expression
-- declares.
theorem CoverageForm.operand {x : CoverageExpr} (h : CoverageForm C S s e x) :
    ∀ o ∈ x.operands, ∃ c, OperandForm C S (s.withVariables (x.declared.map (·.var))) c o := by
  have hscope : ∀ {o : Operand}, (∃ c, OperandForm C S s c o) →
      ∃ c, OperandForm C S (s.withVariables (([] : List AxisIterator).map (·.var))) c o := by
    intro o ho
    simpa only [List.map_nil, Scope.withVariables_nil] using ho
  cases h with
  | reference | constant => simp [CoverageExpr.operands]
  | construct _ _ _ hbody _ =>
      intro o ho
      obtain rfl := List.mem_singleton.mp ho
      exact ⟨_, hbody⟩
  | scale _ hx _ _ | setMetadata _ hx _ | unary _ hx | bit _ hx _ _ | cast _ hx _
  | fieldSelect _ hx _ _ | subset _ hx _ _ _ =>
      intro o ho
      obtain rfl := List.mem_singleton.mp ho
      obtain ⟨c, -, hx⟩ := hx
      exact hscope ⟨c, .coverage hx⟩
  | switch _ hbranches _ =>
      intro o ho
      obtain ⟨y, hy, rfl⟩ := List.mem_map.mp ho
      obtain ⟨c, hy⟩ := hbranches.exprs y hy
      exact hscope ⟨c, .coverage hy⟩
  | rangeConstructor _ hcomponents _ =>
      intro o ho
      obtain ⟨y, hy, rfl⟩ := List.mem_map.mp ho
      obtain ⟨_, -, -, c, -, hy⟩ := exists_mem_of_forall₂ hcomponents y hy
      exact hscope ⟨c, .coverage hy⟩
  | binary _ _ hpair =>
      simp only [CoverageExpr.operands, List.mem_cons, List.not_mem_nil, or_false,
        forall_eq_or_imp, forall_eq]
      exact ⟨hscope hpair.operand.1, hscope hpair.operand.2⟩

theorem ScalarForm.operand {x : ScalarExpr} (h : ScalarForm C S s e x) :
    ∀ o ∈ x.operands, ∃ c, OperandForm C S s c o := by
  cases h with
  | numeric | boolean | string | axisVariable => simp [ScalarExpr.operands]
  | @unary _ c _ _ _ hx => simpa [ScalarExpr.operands] using ⟨c, .scalar hx⟩
  | @binary _ left right _ _ _ _ hx hy =>
      simpa [ScalarExpr.operands] using ⟨⟨left, .scalar hx⟩, right, .scalar hy⟩
  | condense _ hx =>
      obtain ⟨c, -, hx⟩ := hx
      simpa [ScalarExpr.operands] using ⟨c, .coverage hx⟩

end Forms

end Datacube.Expr
