import Datacube.Proofs.Expr.Vocabulary

-- The levels of the grammar. What each level hands on from the levels below it holds of everything
-- that is read.
namespace Datacube

-- An element holds itself and the children of all that it holds.
inductive Markup.Element.Holds (top : Markup.Element) : Markup.Element → Prop where
  | refl : Holds top top
  | child {parent child : Markup.Element} (hparent : Holds top parent)
      (hchild : child ∈ parent.children) : Holds top child

theorem Markup.Element.Holds.trans {top e c : Markup.Element} (he : top.Holds e) (hc : e.Holds c) :
    top.Holds c := by
  induction hc with
  | refl => exact he
  | child _ hchild ih => exact ih.child hchild

namespace Expr

open Markup (Element)
open Result

section Monotone

variable {C C' : Scope → Element → CoverageExpr → Prop} {S S' : Scope → Element → ScalarExpr → Prop}
  {s : Scope} {top e : Element}

theorem OperandForm.mono {x : Operand} (he : top.Holds e)
    (hC : ∀ s c x, top.Holds c → C s c x → C' s c x)
    (hS : ∀ s c x, top.Holds c → S s c x → S' s c x) (h : OperandForm C S s e x) :
    OperandForm C' S' s e x := by
  cases h with
  | scalar hx => exact .scalar (hS _ _ _ he hx)
  | coverage hx => exact .coverage (hC _ _ _ he hx)

theorem PairForm.mono {left right : Element} {pair : Pair} (hleft : top.Holds left)
    (hright : top.Holds right) (hC : ∀ s c x, top.Holds c → C s c x → C' s c x)
    (hS : ∀ s c x, top.Holds c → S s c x → S' s c x) (h : PairForm C S s left right pair) :
    PairForm C' S' s left right pair := by
  cases h with
  | coverageScalar hx hy => exact .coverageScalar (hC _ _ _ hleft hx) (hS _ _ _ hright hy)
  | scalarCoverage hx hy => exact .scalarCoverage (hS _ _ _ hleft hx) (hC _ _ _ hright hy)
  | coverages hx hy hsame => exact .coverages (hC _ _ _ hleft hx) (hC _ _ _ hright hy) hsame

theorem OperandBeside.mono {parameters : List String} {x : CoverageExpr} (he : top.Holds e)
    (hC : ∀ s c x, top.Holds c → C s c x → C' s c x) (h : OperandBeside C s e parameters x) :
    OperandBeside C' s e parameters x := by
  obtain ⟨c, hc, hx⟩ := h
  exact ⟨c, hc, hC _ _ _ (he.child (List.mem_of_find?_eq_some hc)) hx⟩

theorem OnlyOperand.mono {x : CoverageExpr} (he : top.Holds e)
    (hC : ∀ s c x, top.Holds c → C s c x → C' s c x) (h : OnlyOperand C s e x) :
    OnlyOperand C' s e x := by
  obtain ⟨c, hc, hx⟩ := h
  exact ⟨c, hc, hC _ _ _ (he.child (List.mem_of_mem_head? hc)) hx⟩

theorem BranchesForm.mono {elements : List Element} {branches : Branches}
    (helements : ∀ e ∈ elements, top.Holds e)
    (hC : ∀ s c x, top.Holds c → C s c x → C' s c x) (h : BranchesForm C s elements branches) :
    BranchesForm C' s elements branches := by
  induction h with
  | default htag hparts hpart hx =>
      have he := helements _ List.mem_cons_self
      exact .default htag hparts hpart (hx.mono (he.child (by simp [hparts])) hC)
  | case htag hparts hcondition hresult hx hy _ ih =>
      have he := helements _ List.mem_cons_self
      have hrest := ih fun e he => helements e (List.mem_cons_of_mem _ he)
      have hheld := fun c (hc : c ∈ _) => he.child hc
      rcases hparts with hparts | hparts <;>
        exact .case htag (by simp [hparts]) hcondition hresult
          (hx.mono (hheld _ (by simp [hparts])) hC) (hy.mono (hheld _ (by simp [hparts])) hC) hrest

-- An element has a form also by weaker properties of the elements it holds.
theorem CoverageForm.mono {x : CoverageExpr} (hC : ∀ s c x, e.Holds c → C s c x → C' s c x)
    (hS : ∀ s c x, e.Holds c → S s c x → S' s c x) (h : CoverageForm C S s e x) :
    CoverageForm C' S' s e x := by
  have he : e.Holds e := .refl
  cases h with
  | reference htag hnames hschema hsame => exact .reference htag hnames hschema hsame
  | constant htag hiterators hschema hcount => exact .constant htag hiterators hschema hcount
  | construct htag hiterators hchild hbody hschema =>
      have hc := he.child (List.mem_of_find?_eq_some hchild)
      exact .construct htag hiterators hchild (hbody.mono hc hC hS) hschema
  | scale htag hx hsubsets hschema => exact .scale htag (hx.mono he hC) hsubsets hschema
  | switch htag hbranches hsame =>
      exact .switch htag (hbranches.mono (fun _ hc => he.child hc) hC) hsame
  | setMetadata hchange hx hschema => exact .setMetadata hchange (hx.mono he hC) hschema
  | unary htag hx => exact .unary htag (hx.mono he hC)
  | bit htag hx hchild hindex => exact .bit htag (hx.mono he hC) hchild hindex
  | cast htag hx htarget => exact .cast htag (hx.mono he hC) htarget
  | fieldSelect htag hx hfield hpresent => exact .fieldSelect htag (hx.mono he hC) hfield hpresent
  | rangeConstructor htag hcomponents hsame =>
      refine .rangeConstructor htag (forall₂_imp_mem hcomponents fun c _ hc h => ?_) hsame
      exact ⟨h.1, h.2.mono (he.child (List.mem_of_mem_filter hc)) hC⟩
  | binary htag hchildren hpair =>
      have hleft := he.child (by rw [hchildren]; exact List.mem_cons_self)
      have hright := he.child (by rw [hchildren]; exact List.mem_cons_of_mem _ List.mem_cons_self)
      exact .binary htag hchildren (hpair.mono hleft hright hC hS)
  | subset htag hx hsubsets hspecs hsome =>
      exact .subset htag (hx.mono he hC) hsubsets hspecs hsome

theorem ScalarForm.mono {x : ScalarExpr} (hC : ∀ s c x, e.Holds c → C s c x → C' s c x)
    (hS : ∀ s c x, e.Holds c → S s c x → S' s c x) (h : ScalarForm C S s e x) :
    ScalarForm C' S' s e x := by
  have he : e.Holds e := .refl
  cases h with
  | numeric htag hvalue => exact .numeric htag hvalue
  | boolean htag hvalue => exact .boolean htag hvalue
  | string htag => exact .string htag
  | axisVariable htag hscope => exact .axisVariable htag hscope
  | unary htag hchild hx =>
      exact .unary htag hchild (hS _ _ _ (he.child (List.mem_of_mem_head? hchild)) hx)
  | binary htag hchildren hx hy =>
      have hleft := he.child (by rw [hchildren]; exact List.mem_cons_self)
      have hright := he.child (by rw [hchildren]; exact List.mem_cons_of_mem _ List.mem_cons_self)
      exact .binary htag hchildren (hS _ _ _ hleft hx) (hS _ _ _ hright hy)
  | condense htag hx => exact .condense htag (hx.mono he hC)

end Monotone

variable {g : Grammar} {s : Scope} {e : Element}

namespace Grammar

theorem level_exclusive (limit levels : Nat) : (level limit levels).Exclusive := by
  cases levels with
  | zero => constructor <;> (intro s e x h; simp [ReadsCoverage, ReadsScalar, level] at h)
  | succ levels =>
      constructor
      · intro s e x h
        exact declines_tryScalar_iff.mpr (not_scalar_of_coverage _ (name_mem_of_tryCoverage h))
      · intro s e x h
        refine declines_tryCoverage_iff.mpr fun hname => ?_
        exact not_scalar_of_coverage _ hname (name_mem_of_tryScalar h)

theorem not_readsCoverage_zero {limit : Nat} {x : CoverageExpr} :
    ¬(level limit 0).ReadsCoverage s e x := by
  simp [ReadsCoverage, level]

theorem not_readsScalar_zero {limit : Nat} {x : ScalarExpr} :
    ¬(level limit 0).ReadsScalar s e x := by
  simp [ReadsScalar, level]

theorem readsCoverage_succ_iff {limit levels : Nat} {x : CoverageExpr} :
    (level limit (levels + 1)).ReadsCoverage s e x ↔ (level limit levels).CoverageForm s e x :=
  tryCoverage_eq_matched_iff (level_exclusive limit levels)

theorem readsScalar_succ_iff {limit levels : Nat} {x : ScalarExpr} :
    (level limit (levels + 1)).ReadsScalar s e x ↔ (level limit levels).ScalarForm s e x :=
  tryScalar_eq_matched_iff

theorem name_mem_of_readsCoverage {limit levels : Nat} {x : CoverageExpr}
    (h : (level limit levels).ReadsCoverage s e x) : e.name ∈ coverageVocabulary := by
  cases levels with
  | zero => exact (not_readsCoverage_zero h).elim
  | succ levels => exact name_mem_of_tryCoverage h

theorem name_mem_of_readsScalar {limit levels : Nat} {x : ScalarExpr}
    (h : (level limit levels).ReadsScalar s e x) : e.name ∈ scalarVocabulary := by
  cases levels with
  | zero => exact (not_readsScalar_zero h).elim
  | succ levels => exact name_mem_of_tryScalar h

-- Induction on the levels: a property of all forms whose operands have it is one of all that is
-- read.
theorem level_induction {P : Scope → Element → CoverageExpr → Prop}
    {Q : Scope → Element → ScalarExpr → Prop}
    (hcoverage : ∀ s e x, Expr.CoverageForm P Q s e x → P s e x)
    (hscalar : ∀ s e x, Expr.ScalarForm P Q s e x → Q s e x) (limit levels : Nat) :
    (∀ s e x, (level limit levels).ReadsCoverage s e x → P s e x) ∧
      ∀ s e x, (level limit levels).ReadsScalar s e x → Q s e x := by
  induction levels with
  | zero =>
      exact ⟨fun _ _ _ h => (not_readsCoverage_zero h).elim,
        fun _ _ _ h => (not_readsScalar_zero h).elim⟩
  | succ levels ih =>
      constructor
      · intro s e x h
        exact hcoverage s e x ((readsCoverage_succ_iff.mp h).mono (fun s c x _ => ih.1 s c x)
          fun s c x _ => ih.2 s c x)
      · intro s e x h
        exact hscalar s e x ((readsScalar_succ_iff.mp h).mono (fun s c x _ => ih.1 s c x)
          fun s c x _ => ih.2 s c x)

end Grammar

end Expr

end Datacube
