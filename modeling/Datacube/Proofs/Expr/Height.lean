import Datacube.Proofs.Expr.Denotation
import Datacube.Proofs.Expr.Operands

-- The levels of the grammar that an expression needs are its height, no more and no less.
namespace Datacube.Expr

open Markup (Element)

mutual

-- The number of expressions on the longest way from an expression down to one without operands.
def CoverageExpr.height : CoverageExpr → Nat
  | .reference _ _ | .constant _ _ _ => 1
  | .construct _ body _ => body.height + 1
  | .scale x _ | .setMetadata _ x _ | .unary _ x | .bit x _ _ | .cast x _ _ | .fieldSelect x _ _
  | .subset _ x _ _ => x.height + 1
  | .switch branches => branches.height + 1
  | .rangeConstructor components _ => components.height + 1
  | .binary _ first second _ => max first.height second.height + 1

def ScalarExpr.height : ScalarExpr → Nat
  | .numeric _ | .boolean _ | .string _ | .axisVariable _ => 1
  | .unary _ x => x.height + 1
  | .binary _ x y => max x.height y.height + 1
  | .condense _ x => x.height + 1

def Operand.height : Operand → Nat
  | .coverage x => x.height
  | .scalar x => x.height

-- Branches and components are no expressions of their own: only the highest of theirs counts.
def Branches.height : Branches → Nat
  | .default x => x.height
  | .case x y rest => max (max x.height y.height) rest.height

def Components.height : Components → Nat
  | .one _ x => x.height
  | .more _ x rest => max x.height rest.height

end

theorem Branches.height_le_iff {n : Nat} :
    ∀ branches : Branches, branches.height ≤ n ↔ ∀ x ∈ branches.exprs, x.height ≤ n
  | .default x => by simp [Branches.height, Branches.exprs]
  | .case x y rest => by
      simp only [Branches.height, Branches.exprs, Nat.max_le, List.forall_mem_cons,
        Branches.height_le_iff rest, and_assoc]

theorem Components.height_le_iff {n : Nat} :
    ∀ components : Components, components.height ≤ n ↔ ∀ c ∈ components.toList, c.2.height ≤ n
  | .one _ x => by simp [Components.height, Components.toList]
  | .more _ x rest => by
      simp only [Components.height, Components.toList, Nat.max_le, List.forall_mem_cons,
        Components.height_le_iff rest]

theorem CoverageExpr.height_pos (x : CoverageExpr) : 0 < x.height := by
  cases x <;> simp [CoverageExpr.height]

theorem ScalarExpr.height_pos (x : ScalarExpr) : 0 < x.height := by
  cases x <;> simp [ScalarExpr.height]

theorem CoverageExpr.height_le_succ_iff {n : Nat} (x : CoverageExpr) :
    x.height ≤ n + 1 ↔ ∀ o ∈ x.operands, o.height ≤ n := by
  cases x with
  | rangeConstructor components schema =>
      simp only [CoverageExpr.height, CoverageExpr.operands, Nat.add_le_add_iff_right,
        Components.height_le_iff, List.forall_mem_map, Operand.height]
  | binary op first second schema =>
      rw [CoverageExpr.height, CoverageExpr.operands, Nat.add_le_add_iff_right, Nat.max_le,
        List.forall_mem_cons, List.forall_mem_singleton]
  | _ => simp [CoverageExpr.height, CoverageExpr.operands, Operand.height, Branches.height_le_iff]

theorem ScalarExpr.height_le_succ_iff {n : Nat} (x : ScalarExpr) :
    x.height ≤ n + 1 ↔ ∀ o ∈ x.operands, o.height ≤ n := by
  cases x with
  | binary op first second =>
      rw [ScalarExpr.height, ScalarExpr.operands, Nat.add_le_add_iff_right, Nat.max_le,
        List.forall_mem_cons, List.forall_mem_singleton, Operand.height, Operand.height]
  | _ => simp [ScalarExpr.height, ScalarExpr.operands, Operand.height]

namespace Grammar

variable {s : Scope} {e : Element}

-- A level reads nothing higher than itself: each expression takes one level from its operands.
theorem height_le_of_reads (limit levels : Nat) :
    (∀ s e x, (level limit levels).ReadsCoverage s e x → x.height ≤ levels) ∧
      ∀ s e x, (level limit levels).ReadsScalar s e x → x.height ≤ levels := by
  induction levels with
  | zero =>
      exact ⟨fun _ _ _ h => (not_readsCoverage_zero h).elim,
        fun _ _ _ h => (not_readsScalar_zero h).elim⟩
  | succ levels ih =>
      have hoperand : ∀ {s c o}, OperandForm (level limit levels).ReadsCoverage
          (level limit levels).ReadsScalar s c o → o.height ≤ levels := by
        intro s c o ho
        cases ho with
        | scalar hx => exact ih.2 _ _ _ hx
        | coverage hx => exact ih.1 _ _ _ hx
      constructor
      · intro s e x h
        refine x.height_le_succ_iff.mpr fun o ho => ?_
        obtain ⟨c, hc⟩ := (readsCoverage_succ_iff.mp h).operand o ho
        exact hoperand hc
      · intro s e x h
        refine x.height_le_succ_iff.mpr fun o ho => ?_
        obtain ⟨c, hc⟩ := (readsScalar_succ_iff.mp h).operand o ho
        exact hoperand hc

-- What any level reads, every level reads that is at least as high as the result.
theorem reads_of_height_le (limit levels : Nat) :
    (∀ s e x, (level limit levels).ReadsCoverage s e x →
      ∀ other n, x.height ≤ n → (level other n).ReadsCoverage s e x) ∧
    ∀ s e x, (level limit levels).ReadsScalar s e x →
      ∀ other n, x.height ≤ n → (level other n).ReadsScalar s e x := by
  refine level_induction ?_ ?_ limit levels
  · intro s e x h other n hn
    cases n with
    | zero => exact absurd hn (Nat.not_le.mpr x.height_pos)
    | succ n =>
        -- The operands are lower, so that one level less is enough for each of them.
        have hoperands := h.and (P := (·.height ≤ n)) (x.height_le_succ_iff.mp hn)
        exact readsCoverage_succ_iff.mpr (hoperands.mono (fun _ _ _ _ hy => hy.1 other n hy.2)
          fun _ _ _ _ hy => hy.1 other n hy.2)
  · intro s e x h other n hn
    cases n with
    | zero => exact absurd hn (Nat.not_le.mpr x.height_pos)
    | succ n =>
        have hoperands := h.and (P := (·.height ≤ n)) (x.height_le_succ_iff.mp hn)
        exact readsScalar_succ_iff.mpr (hoperands.mono (fun _ _ _ _ hy => hy.1 other n hy.2)
          fun _ _ _ _ hy => hy.1 other n hy.2)

-- More levels change nothing for what is read already.
theorem readsCoverage_of_le {limit levels : Nat} {x : CoverageExpr}
    (h : (level limit levels).ReadsCoverage s e x) (other : Nat) {n : Nat} (hn : levels ≤ n) :
    (level other n).ReadsCoverage s e x := by
  have hheight := (height_le_of_reads limit levels).1 s e x h
  exact (reads_of_height_le limit levels).1 s e x h other n (Nat.le_trans hheight hn)

-- An element that is read within some limit is read, with the same result, within exactly the
-- limits that are not below the height of the result.
theorem parseCoverage_iff_height_le (limit : Nat) (s : Scope) (e : Element) (x : CoverageExpr)
    (h : (upTo limit).parseCoverage s e = .ok x) :
    x.height ≤ limit ∧
      ∀ other, (upTo other).parseCoverage s e = .ok x ↔ x.height ≤ other := by
  simp only [parseCoverage_eq_ok_iff] at h ⊢
  refine ⟨(height_le_of_reads limit limit).1 s e x h, fun other => ⟨?_, ?_⟩⟩
  · exact (height_le_of_reads other other).1 s e x
  · exact (reads_of_height_le limit limit).1 s e x h other other

-- The slice, the trim below it and the reference below that make three levels.
theorem parseCoverage_slicedTrim_height :
    ∃ store x, Store.ofDefs [Sample.airTemperature "T"] = .ok store ∧
      (upTo 256).parseCoverage ⟨store, [("c", ["T"])], []⟩ slicedTrim = .ok x ∧ x.height = 3 ∧
      x.height ≤ 256 ∧
      ∀ other, (upTo other).parseCoverage ⟨store, [("c", ["T"])], []⟩ slicedTrim = .ok x ↔
        x.height ≤ other :=
  ⟨_, _, rfl, rfl, rfl, parseCoverage_iff_height_le 256 _ slicedTrim _ rfl⟩

end Grammar

end Datacube.Expr
