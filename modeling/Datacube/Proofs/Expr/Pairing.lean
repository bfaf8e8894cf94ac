import Datacube.Proofs.Expr.Level

-- The two operands of a binary operation. Which of them stands first decides nothing but whose
-- schema two coverages are given.
namespace Datacube.Expr

open Markup (Element)
open Result

-- How a grammar reads two operands, in both orders.
structure Pair.Symmetric (g : Grammar) (s : Scope) (left right : Element) : Prop where
  accepted : (∃ pair, Pair.parse g s left right = .ok pair) ↔
    ∃ pair, Pair.parse g s right left = .ok pair
  exchanged : ∀ pair other, Pair.parse g s left right = .ok pair →
    Pair.parse g s right left = .ok other →
    other.first = pair.second ∧ other.second = pair.first
  -- At least one of them is a coverage, and two scalars are refused as such.
  coverage : ∀ pair, Pair.parse g s left right = .ok pair →
    (∃ x, g.parseCoverage s left = .ok x) ∨ ∃ y, g.parseCoverage s right = .ok y
  scalars : ∀ x y, g.parseScalar s left = .ok x → g.parseScalar s right = .ok y →
    Pair.parse g s left right = .error (Pair.fault left right)
  -- A coverage beside a scalar gives its schema in both orders.
  mixed : ∀ x y, g.parseCoverage s left = .ok x → g.parseScalar s right = .ok y →
    (∃ pair, Pair.parse g s left right = .ok pair) ∧ ∃ pair, Pair.parse g s right left = .ok pair
  alone : ∀ x, g.parseCoverage s left = .ok x → (∀ y, g.parseCoverage s right ≠ .ok y) →
    ∀ pair, Pair.parse g s left right = .ok pair ∨ Pair.parse g s right left = .ok pair →
    pair.schema = x.schema
  -- Two coverages need the same cells, and the first gives its schema.
  coverages : ∀ x y, g.parseCoverage s left = .ok x → g.parseCoverage s right = .ok y →
    ((∃ pair, Pair.parse g s left right = .ok pair) ↔ x.schema.extents = y.schema.extents) ∧
    ∀ pair, Pair.parse g s left right = .ok pair → pair.schema = x.schema

section Forms

variable {C : Scope → Element → CoverageExpr → Prop} {S : Scope → Element → ScalarExpr → Prop}
  {s : Scope} {left right : Element} {pair : Pair}

theorem PairForm.swap (h : PairForm C S s left right pair) :
    ∃ other, PairForm C S s right left other ∧ other.first = pair.second ∧
      other.second = pair.first := by
  cases h with
  | coverageScalar hx hy => exact ⟨_, .scalarCoverage hy hx, rfl, rfl⟩
  | scalarCoverage hx hy => exact ⟨_, .coverageScalar hy hx, rfl, rfl⟩
  | coverages hx hy hsame => exact ⟨_, .coverages hy hx hsame.symm, rfl, rfl⟩

theorem PairForm.exists_coverage (h : PairForm C S s left right pair) :
    (∃ x, C s left x) ∨ ∃ y, C s right y := by
  cases h with
  | coverageScalar hx _ => exact .inl ⟨_, hx⟩
  | scalarCoverage _ hy => exact .inr ⟨_, hy⟩
  | coverages hx _ _ => exact .inl ⟨_, hx⟩

-- The schema is that of the left operand, if it is a coverage.
theorem PairForm.schema_left (hC : ∀ x y, C s left x → C s left y → x = y)
    (hapart : ∀ x y, C s left x → ¬S s left y) {x : CoverageExpr} (hx : C s left x)
    (h : PairForm C S s left right pair) : pair.schema = x.schema := by
  cases h with
  | coverageScalar hx' _ => rw [hC _ _ hx hx']
  | scalarCoverage hx' _ => exact absurd hx' (hapart _ _ hx)
  | coverages hx' _ _ => rw [hC _ _ hx hx']

-- And that of the right one, if only that is.
theorem PairForm.schema_right (hC : ∀ x y, C s right x → C s right y → x = y)
    (hleft : ∀ x, ¬C s left x) {y : CoverageExpr} (hy : C s right y)
    (h : PairForm C S s left right pair) : pair.schema = y.schema := by
  cases h with
  | coverageScalar hx _ => exact absurd hx (hleft _)
  | scalarCoverage _ hy' => rw [hC _ _ hy hy']
  | coverages hx _ _ => exact absurd hx (hleft _)

theorem PairForm.extents_eq (hC : ∀ e x y, C s e x → C s e y → x = y)
    (hapart : ∀ e x y, C s e x → ¬S s e y) {x y : CoverageExpr} (hx : C s left x)
    (hy : C s right y) (h : PairForm C S s left right pair) :
    x.schema.extents = y.schema.extents := by
  cases h with
  | coverageScalar _ hy' => exact absurd hy' (hapart _ _ _ hy)
  | scalarCoverage hx' _ => exact absurd hx' (hapart _ _ _ hx)
  | coverages hx' hy' hsame => rwa [hC _ _ _ hx hx', hC _ _ _ hy hy']

end Forms

section Grammars

variable {g : Grammar} {s : Scope} {e left right : Element}

theorem Grammar.ReadsCoverage.unique {x y : CoverageExpr} (hx : g.ReadsCoverage s e x)
    (hy : g.ReadsCoverage s e y) : x = y :=
  Attempt.matched.inj (Except.ok.inj (hx.symm.trans hy))

theorem Grammar.Exclusive.not_readsScalar (hg : g.Exclusive) {x : CoverageExpr} {y : ScalarExpr}
    (hx : g.ReadsCoverage s e x) : ¬g.ReadsScalar s e y := by
  intro hy
  obtain ⟨reason, hdeclined⟩ := hg.scalar_declines hx
  cases hdeclined.symm.trans hy

theorem pairParse_swap (hg : g.Exclusive) {pair : Pair}
    (h : Pair.parse g s left right = .ok pair) :
    ∃ other, Pair.parse g s right left = .ok other ∧ other.first = pair.second ∧
      other.second = pair.first := by
  obtain ⟨other, hother, hoperands⟩ := ((pairParse_eq_ok_iff hg).mp h).swap
  exact ⟨other, (pairParse_eq_ok_iff hg).mpr hother, hoperands⟩

-- The left one is declined as a coverage and taken as a scalar, and then only a coverage may follow.
theorem pairParse_of_scalars (hg : g.Exclusive) {x y : ScalarExpr} (hx : g.ReadsScalar s left x)
    (hy : g.ReadsScalar s right y) :
    Pair.parse g s left right = .error (Pair.fault left right) := by
  obtain ⟨_, hleft⟩ := hg.coverage_declines hx
  obtain ⟨_, hright⟩ := hg.coverage_declines hy
  unfold Grammar.ReadsScalar at hx
  simp only [Pair.parse, hleft, hx, hright, ok_bind]
  rfl

end Grammars

-- At every level of the grammar and in every scope, two operands are read alike in both orders.
theorem pair_symmetric (limit levels : Nat) (s : Scope) (left right : Element) :
    Pair.Symmetric (Grammar.level limit levels) s left right := by
  have hg := Grammar.level_exclusive limit levels
  have hunique : ∀ e x y, (Grammar.level limit levels).ReadsCoverage s e x →
      (Grammar.level limit levels).ReadsCoverage s e y → x = y :=
    fun _ _ _ hx hy => hx.unique hy
  have hapart : ∀ e x y, (Grammar.level limit levels).ReadsCoverage s e x →
      ¬(Grammar.level limit levels).ReadsScalar s e y :=
    fun _ _ _ hx => hg.not_readsScalar hx
  constructor
  case accepted =>
    have hswap : ∀ l r, (∃ pair, Pair.parse (Grammar.level limit levels) s l r = .ok pair) →
        ∃ pair, Pair.parse (Grammar.level limit levels) s r l = .ok pair := by
      rintro l r ⟨_, h⟩
      obtain ⟨other, hother, -⟩ := pairParse_swap hg h
      exact ⟨other, hother⟩
    exact ⟨hswap left right, hswap right left⟩
  case exchanged =>
    intro pair other h hother
    obtain ⟨_, h', hoperands⟩ := pairParse_swap hg h
    rwa [Except.ok.inj (hother.symm.trans h')]
  all_goals
    simp only [parseCoverage_eq_ok_iff, parseScalar_eq_ok_iff, pairParse_eq_ok_iff hg, ne_eq]
  case coverage => exact fun _ h => h.exists_coverage
  case scalars => exact fun _ _ hx hy => pairParse_of_scalars hg hx hy
  case mixed => exact fun _ _ hx hy => ⟨⟨_, .coverageScalar hx hy⟩, _, .scalarCoverage hy hx⟩
  case alone =>
    intro x hx hright pair h
    rcases h with h | h
    · exact h.schema_left (hunique left) (hapart left) hx
    · exact h.schema_right (hunique left) hright hx
  case coverages =>
    intro x y hx hy
    refine ⟨⟨?_, fun hsame => ⟨_, .coverages hx hy hsame⟩⟩,
      fun _ h => h.schema_left (hunique left) (hapart left) hx⟩
    rintro ⟨_, h⟩
    exact h.extents_eq hunique hapart hx hy

end Datacube.Expr
