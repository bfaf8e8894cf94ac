import Datacube.Proofs.Expr.Vocabulary

-- No element is known to two readers, so the order in which they are tried does not matter: not
-- that of the groups of coverage readers, and not that of the two grammars for an operand.
namespace Datacube.Expr

open Markup (Element)
open Result

variable {s : Scope} {e : Element} {read read' : CoverageReader}
  {readers readers' : List CoverageReader}

-- One of two readers declines the element.
abbrev Apart (s : Scope) (e : Element) (read read' : CoverageReader) : Prop :=
  Declines (read s e) ∨ Declines (read' s e)

theorem firstMatch_swap (h : Apart s e read read') :
    firstMatch (read :: read' :: readers) s e = firstMatch (read' :: read :: readers) s e := by
  wlog hfirst : Declines (read s e) generalizing read read'
  · exact (this h.symm (h.resolve_left hfirst)).symm
  rw [firstMatch_of_declines hfirst]
  by_cases hsecond : Declines (read' s e)
  · rw [firstMatch_of_declines hsecond, firstMatch_of_declines hsecond,
      firstMatch_of_declines hfirst]
  · rw [firstMatch_of_not_declines hsecond, firstMatch_of_not_declines hsecond]

theorem firstMatch_cons_congr (h : firstMatch readers s e = firstMatch readers' s e) :
    firstMatch (read :: readers) s e = firstMatch (read :: readers') s e := by
  by_cases hread : Declines (read s e)
  · rw [firstMatch_of_declines hread, firstMatch_of_declines hread, h]
  · rw [firstMatch_of_not_declines hread, firstMatch_of_not_declines hread]

-- Induction on the permutation: two neighbours may change places, since one of them declines.
theorem firstMatch_perm (hperm : readers.Perm readers') (hapart : readers.Pairwise (Apart s e)) :
    firstMatch readers s e = firstMatch readers' s e := by
  induction hperm with
  | nil => rfl
  | cons read _ ih => exact firstMatch_cons_congr (ih (List.pairwise_cons.mp hapart).2)
  | swap read read' rest =>
      exact firstMatch_swap ((List.pairwise_cons.mp hapart).1 read List.mem_cons_self)
  | trans hfirst _ ih ih' =>
      exact (ih hapart).trans (ih' ((hfirst.pairwise_iff Or.symm).mp hapart))

-- The groups in the order in which they are tried.
def groupReaders : List (Grammar → CoverageReader) :=
  [trySetMetadata, tryInduced, trySubset]

theorem groups_eq_map (g : Grammar) : groups g = groupReaders.map (· g) := rfl

theorem groups_apart (g : Grammar) (s : Scope) (e : Element) :
    (groups g).Pairwise (Apart s e) := by
  have hmetadata : ∀ name ∈ metadataTags, name ∉ inducedTags ∧ name ∉ subsetTags := by
    decide +kernel
  have hinduced : ∀ name ∈ inducedTags, name ∉ subsetTags := by decide +kernel
  simp only [groups, List.pairwise_cons, List.forall_mem_cons, List.not_mem_nil, false_implies,
    implies_true, and_true, List.Pairwise.nil, Apart, declines_trySetMetadata_iff,
    declines_tryInduced_iff, declines_trySubset_iff]
  refine ⟨⟨?_, ?_⟩, ?_⟩
  · exact or_iff_not_imp_left.mpr fun h => (hmetadata _ (not_not.mp h)).1
  · exact or_iff_not_imp_left.mpr fun h => (hmetadata _ (not_not.mp h)).2
  · exact or_iff_not_imp_left.mpr fun h => hinduced _ (not_not.mp h)

-- Read a coverage expression with the groups tried in another order.
def tryCoverageIn (order : List (Grammar → CoverageReader)) (g : Grammar) (s : Scope)
    (e : Element) : Result (Attempt CoverageExpr) :=
  if e.name ∈ reservedTags then tryCoverage g s e else firstMatch (order.map (· g)) s e

-- The readers with a number of levels left, where the groups are tried in another order on every
-- level.
def Grammar.levelIn (order : List (Grammar → CoverageReader)) (limit : Nat) : Nat → Grammar
  | 0 => level limit 0
  | left + 1 =>
    ⟨fun s e => tryCoverageIn order (levelIn order limit left) s e,
      fun s e => tryScalar (levelIn order limit left) s e⟩

section Order

variable {order : List (Grammar → CoverageReader)}

theorem tryCoverageIn_eq (horder : order.Perm groupReaders) (g : Grammar) (s : Scope)
    (e : Element) : tryCoverageIn order g s e = tryCoverage g s e := by
  unfold tryCoverageIn
  split
  · rfl
  · next hreserved =>
    rw [tryCoverage_of_not_reserved hreserved]
    have hperm : (groups g).Perm (order.map (· g)) := by
      rw [groups_eq_map]
      exact horder.symm.map _
    exact (firstMatch_perm hperm (groups_apart g s e)).symm

theorem Grammar.levelIn_eq (horder : order.Perm groupReaders) (limit left : Nat) :
    levelIn order limit left = level limit left := by
  induction left with
  | zero => rfl
  | succ left ih =>
      unfold levelIn level
      simp only [ih, tryCoverageIn_eq horder]

end Order

namespace Grammar

-- Read an element that may be either, as a coverage expression first.
def parseOperandAsCoverage (g : Grammar) (s : Scope) (e : Element) : Result Operand := do
  match ← g.coverage s e with
  | .matched expr => return .coverage expr
  | .noMatch _ => return .scalar (← g.parseScalar s e)

theorem parseOperandAsCoverage_eq {g : Grammar}
    (h : Declines (g.coverage s e) ∨ Declines (g.scalar s e)) :
    g.parseOperandAsCoverage s e = g.parseOperand s e := by
  unfold parseOperandAsCoverage parseOperand parseCoverage parseScalar
  rcases h with ⟨reason, hcoverage⟩ | ⟨reason, hscalar⟩
  · rw [hcoverage]
    rcases g.scalar s e with fault | ⟨x | other⟩ <;> rfl
  · rw [hscalar]
    rcases g.coverage s e with fault | ⟨x | other⟩ <;> rfl

variable {limit left : Nat}

theorem declines_level_coverage_iff :
    Declines ((level limit (left + 1)).coverage s e) ↔ e.name ∉ coverageVocabulary :=
  declines_tryCoverage_iff

theorem declines_level_scalar_iff :
    Declines ((level limit (left + 1)).scalar s e) ↔ e.name ∉ scalarVocabulary :=
  declines_tryScalar_iff

-- Each grammar declines just the names outside its vocabulary, and no name is in both. Neither the
-- order of the groups nor that of the grammars has an effect on what becomes of an element.
theorem order_of_readers_immaterial {order : List (Grammar → CoverageReader)}
    (horder : order.Perm groupReaders) (limit left : Nat) (s : Scope) (e : Element) :
    (Declines ((level limit (left + 1)).coverage s e) ↔ e.name ∉ coverageVocabulary) ∧
      (Declines ((level limit (left + 1)).scalar s e) ↔ e.name ∉ scalarVocabulary) ∧
      (∀ name, ¬(name ∈ coverageVocabulary ∧ name ∈ scalarVocabulary)) ∧
      (levelIn order limit (left + 1)).coverage s e = (level limit (left + 1)).coverage s e ∧
      (level limit (left + 1)).parseOperandAsCoverage s e =
        (level limit (left + 1)).parseOperand s e := by
  refine ⟨declines_level_coverage_iff, declines_level_scalar_iff, fun name h => ?_, ?_, ?_⟩
  · exact not_scalar_of_coverage name h.1 h.2
  · rw [levelIn_eq horder]
  · apply parseOperandAsCoverage_eq
    rw [declines_level_coverage_iff, declines_level_scalar_iff]
    exact or_iff_not_imp_left.mpr fun h => not_scalar_of_coverage _ (not_not.mp h)

-- The unknown iterator below an induced operation and a change of metadata is what is refused also
-- with the groups the other way round.
theorem order_of_readers_immaterial_reversed :
    groupReaders.reverse.Perm groupReaders ∧
      (levelIn groupReaders.reverse 3 3).coverage ⟨.empty, [], []⟩
        { name := "unaryMinus", children := [{ name := "setNullSet", children :=
          [{ name := "null", text := "0" }, { name := "coverage", text := "c" }] }] } =
      .error (.undefinedIterator "c") := by
  refine ⟨List.reverse_perm _, ?_⟩
  rw [(order_of_readers_immaterial (List.reverse_perm _) 3 2 _ _).2.2.2.1]
  rfl

end Grammar

end Datacube.Expr
