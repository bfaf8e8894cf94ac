import Datacube.Proofs.Expr.Congruence
import Datacube.Proofs.Expr.Retexted

-- The text of a string constant is written between quotes and has no other effect: an element in
-- which it is another text is read to an expression that differs in one literal.
namespace Datacube.Expr

open Markup (Element)
open Rasql (Exchanges)

theorem exchanges_congruence (content content' : String) :
    Rasql.Congruence (Exchanges content content') where
  refl := .refl
  append_left := .append_left
  append_right := .append_right

-- Two coverages have the same schema, and their queries differ in one literal at most.
abbrev CoverageExpr.Exchanged (content content' : String) : CoverageExpr → CoverageExpr → Prop :=
  CoverageExpr.Akin Eq (Exchanges content content')

abbrev ScalarExpr.Exchanged (content content' : String) : ScalarExpr → ScalarExpr → Prop :=
  ScalarExpr.Akin (Exchanges content content')

-- No literal but a string constant is an expression.
theorem not_vocabulary_of_literalTags : ∀ tag ∈ literalTags,
    tag ∉ coverageVocabulary ∧ (tag ∈ scalarVocabulary → tag = "stringConstant") := by
  decide

variable {tag text text' content content' : String}

-- Every level of the grammar reads on, whatever the text of the literal is.
theorem Grammar.level_follows (htag : tag ∈ literalTags)
    (hwritten : tag = "stringConstant" → content = text ∧ content' = text') (limit levels : Nat) :
    Follows (Retexted tag text text') (CoverageExpr.Exchanged content content')
        (level limit levels).ReadsCoverage ∧
      Follows (Retexted tag text text') (ScalarExpr.Exchanged content content')
        (level limit levels).ReadsScalar := by
  have hE := exchanges_congruence content content'
  have hR : Inert partTags (Retexted tag text text') :=
    Retexted.inert (not_partTags_of_literalTags tag htag)
  induction levels with
  | zero =>
      exact ⟨fun _ _ _ _ _ h => (not_readsCoverage_zero h).elim,
        fun _ _ _ _ _ h => (not_readsScalar_zero h).elim⟩
  | succ levels ih =>
      constructor
      · intro s e e' x he h
        have hname := name_mem_of_readsCoverage h
        have hne : e.name ≠ tag :=
          fun heq => (not_vocabulary_of_literalTags tag htag).1 (heq ▸ hname)
        rw [readsCoverage_succ_iff] at h
        simp only [readsCoverage_succ_iff]
        exact h.follow Schema.congruence_eq hE ih.1 hR ih.2 he.varied (he.text_eq hne)
      · intro s e e' x he h
        have hname := name_mem_of_readsScalar h
        have hne : e.name ≠ "stringConstant" → e.name ≠ tag := by
          rintro hother rfl
          exact hother ((not_vocabulary_of_literalTags _ htag).2 hname)
        rw [readsScalar_succ_iff] at h
        simp only [readsScalar_succ_iff]
        refine h.follow Schema.congruence_eq hE ih.1 ih.2 he.varied (fun h => he.text_eq (hne h)) ?_
        -- This is the one place where a text becomes a literal as it stands.
        intro hstring
        cases he with
        | here =>
            obtain ⟨rfl, rfl⟩ := hwritten hstring
            exact Exchanges.quoted
        | inside => exact Exchanges.refl _

end Datacube.Expr
