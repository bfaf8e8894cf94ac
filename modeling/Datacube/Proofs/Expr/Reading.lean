import Datacube.Proofs.Expr.Form

-- Each reader of the grammar accepts exactly the elements of its form.
namespace Datacube.Expr

open Markup (Element)
open Result

namespace Grammar

def ReadsCoverage (g : Grammar) (s : Scope) (e : Element) (x : CoverageExpr) : Prop :=
  g.coverage s e = .ok (.matched x)

def ReadsScalar (g : Grammar) (s : Scope) (e : Element) (x : ScalarExpr) : Prop :=
  g.scalar s e = .ok (.matched x)

-- No element is read both ways: what one reader accepts, the other declines.
structure Exclusive (g : Grammar) : Prop where
  scalar_declines :
    ∀ {s e x}, g.ReadsCoverage s e x → ∃ reason, g.scalar s e = .ok (.noMatch reason)
  coverage_declines :
    ∀ {s e x}, g.ReadsScalar s e x → ∃ reason, g.coverage s e = .ok (.noMatch reason)

end Grammar

variable {g : Grammar} {s : Scope} {e : Element}

theorem onlyChild_eq_ok_iff {c : Element} : e.onlyChild = .ok c ↔ e.firstChild? = some c := by
  unfold Element.onlyChild
  split <;> simp_all

theorem twoChildren_eq_ok_iff {left right : Element} :
    twoChildren e = .ok (left, right) ↔ e.children = [left, right] := by
  unfold twoChildren
  split <;> simp_all

theorem parseCoverage_eq_ok_iff {x : CoverageExpr} :
    g.parseCoverage s e = .ok x ↔ g.ReadsCoverage s e x := by
  simp only [Grammar.parseCoverage, bind_eq_ok, Grammar.ReadsCoverage]
  constructor
  · rintro ⟨attempt, hread, hx⟩
    cases attempt with
    | matched value => rw [hread, pure_eq_ok.mp hx]
    | noMatch reason => exact (throw_eq_ok.mp hx).elim
  · intro h
    exact ⟨_, h, rfl⟩

theorem parseScalar_eq_ok_iff {x : ScalarExpr} :
    g.parseScalar s e = .ok x ↔ g.ReadsScalar s e x := by
  simp only [Grammar.parseScalar, bind_eq_ok, Grammar.ReadsScalar]
  constructor
  · rintro ⟨attempt, hread, hx⟩
    cases attempt with
    | matched value => rw [hread, pure_eq_ok.mp hx]
    | noMatch reason => exact (throw_eq_ok.mp hx).elim
  · intro h
    exact ⟨_, h, rfl⟩

theorem parseOperand_eq_ok_iff (hg : g.Exclusive) {x : Operand} :
    g.parseOperand s e = .ok x ↔ OperandForm g.ReadsCoverage g.ReadsScalar s e x := by
  simp only [Grammar.parseOperand, bind_eq_ok]
  constructor
  · rintro ⟨attempt, hread, hx⟩
    cases attempt with
    | matched value =>
        obtain rfl := pure_eq_ok.mp hx
        exact .scalar hread
    | noMatch reason =>
        simp only [bind_eq_ok, pure_eq_ok, parseCoverage_eq_ok_iff] at hx
        obtain ⟨y, hy, rfl⟩ := hx
        exact .coverage hy
  · rintro (hx | hx)
    · exact ⟨_, hx, rfl⟩
    · obtain ⟨reason, hscalar⟩ := hg.scalar_declines hx
      refine ⟨_, hscalar, ?_⟩
      simpa only [bind_eq_ok, pure_eq_ok, Operand.coverage.injEq, exists_eq_right,
        parseCoverage_eq_ok_iff] using hx

theorem parseOperandBeside_eq_ok_iff {parameters : List String} {x : CoverageExpr} :
    g.parseOperandBeside s e parameters = .ok x ↔
      OperandBeside g.ReadsCoverage s e parameters x := by
  unfold Grammar.parseOperandBeside OperandBeside
  split <;> simp_all [parseCoverage_eq_ok_iff]

-- Read the only child as a coverage and go on with it.
theorem parseOnlyChild_eq_ok_iff {α : Type} {f : CoverageExpr → Result α} {a : α} :
    (do
      let x ← g.parseCoverage s (← e.onlyChild)
      f x) = .ok a ↔
      ∃ x, OnlyOperand g.ReadsCoverage s e x ∧ f x = .ok a := by
  simp only [bind_eq_ok, onlyChild_eq_ok_iff, parseCoverage_eq_ok_iff, OnlyOperand]
  constructor
  · rintro ⟨c, hc, x, hx, h⟩
    exact ⟨x, ⟨c, hc, hx⟩, h⟩
  · rintro ⟨x, ⟨c, hc, hx⟩, h⟩
    exact ⟨c, hc, x, hx, h⟩

theorem ensureCompatible_eq_ok_iff {a b : Schema} {context : String} :
    a.ensureCompatible b context = .ok () ↔ a.extents = b.extents := by
  simp [Schema.ensureCompatible, Schema.isCompatible]

theorem ofCoverages_eq_ok_iff {x y : CoverageExpr} {pair : Pair} :
    Pair.ofCoverages x y = .ok pair ↔
      x.schema.extents = y.schema.extents ∧ ⟨.coverage x, .coverage y, x.schema⟩ = pair := by
  simp only [Pair.ofCoverages, bind_eq_ok, pure_eq_ok]
  constructor
  · rintro ⟨⟨⟩, hsame, rfl⟩
    exact ⟨ensureCompatible_eq_ok_iff.mp hsame, rfl⟩
  · rintro ⟨hsame, rfl⟩
    exact ⟨(), ensureCompatible_eq_ok_iff.mpr hsame, rfl⟩

-- The combinations of two operands that are not a coverage with a scalar, with what became of the
-- left one as a coverage. They begin with the left one as a scalar.
def Pair.parseOther (g : Grammar) (s : Scope) (left right : Element)
    (attempt : Attempt CoverageExpr) : Result Pair := do
  match ← g.scalar s left with
  | .matched first =>
    match ← g.coverage s right with
    | .matched second => return ⟨.scalar first, .coverage second, second.schema⟩
    | .noMatch _ => throw (Pair.fault left right)
  | .noMatch _ =>
    match attempt with
    | .matched first =>
      match ← g.coverage s right with
      | .matched second => Pair.ofCoverages first second
      | .noMatch _ => throw (Pair.fault left right)
    | .noMatch _ => throw (Pair.fault left right)

theorem pairForm_of_parse {left right : Element} {pair : Pair}
    (h : Pair.parse g s left right = .ok pair) :
    PairForm g.ReadsCoverage g.ReadsScalar s left right pair := by
  have hlater : ∀ attempt, g.coverage s left = .ok attempt →
      Pair.parseOther g s left right attempt = .ok pair →
      PairForm g.ReadsCoverage g.ReadsScalar s left right pair := by
    intro attempt hattempt h
    obtain ⟨scalar, hscalar, h⟩ := bind_eq_ok.mp h
    cases scalar with
    | matched x =>
        obtain ⟨second, hsecond, h⟩ := bind_eq_ok.mp h
        cases second with
        | matched y =>
            obtain rfl := pure_eq_ok.mp h
            exact .scalarCoverage hscalar hsecond
        | noMatch reason => exact (throw_eq_ok.mp h).elim
    | noMatch reason =>
        cases attempt with
        | matched x =>
            obtain ⟨second, hsecond, h⟩ := bind_eq_ok.mp h
            cases second with
            | matched y =>
                obtain ⟨hsame, rfl⟩ := ofCoverages_eq_ok_iff.mp h
                exact .coverages hattempt hsecond hsame
            | noMatch reason => exact (throw_eq_ok.mp h).elim
        | noMatch reason => exact (throw_eq_ok.mp h).elim
  obtain ⟨attempt, hattempt, h⟩ := bind_eq_ok.mp h
  cases attempt with
  | matched x =>
      obtain ⟨second, hsecond, h⟩ := bind_eq_ok.mp h
      cases second with
      | matched y =>
          obtain rfl := pure_eq_ok.mp h
          exact .coverageScalar hattempt hsecond
      | noMatch reason => exact hlater _ hattempt h
  | noMatch reason => exact hlater _ hattempt h

theorem parse_of_pairForm (hg : g.Exclusive) {left right : Element} {pair : Pair}
    (h : PairForm g.ReadsCoverage g.ReadsScalar s left right pair) :
    Pair.parse g s left right = .ok pair := by
  cases h with
  | coverageScalar hx hy =>
      unfold Grammar.ReadsCoverage at hx
      unfold Grammar.ReadsScalar at hy
      simp [Pair.parse, hx, hy]
  | scalarCoverage hx hy =>
      obtain ⟨reason, hdeclined⟩ := hg.coverage_declines hx
      unfold Grammar.ReadsScalar at hx
      unfold Grammar.ReadsCoverage at hy
      simp [Pair.parse, hdeclined, hx, hy]
  | coverages hx hy hsame =>
      obtain ⟨_, hleft⟩ := hg.scalar_declines hx
      obtain ⟨_, hright⟩ := hg.scalar_declines hy
      unfold Grammar.ReadsCoverage at hx hy
      simp [Pair.parse, hx, hy, hleft, hright, ofCoverages_eq_ok_iff, hsame]

theorem pairParse_eq_ok_iff (hg : g.Exclusive) {left right : Element} {pair : Pair} :
    Pair.parse g s left right = .ok pair ↔
      PairForm g.ReadsCoverage g.ReadsScalar s left right pair :=
  ⟨pairForm_of_parse, parse_of_pairForm hg⟩

-- A part of a case sets the condition or the result, whichever it is, unless that is set already.
theorem addCasePart_eq_ok_iff {parts parts' : CaseParts} {part : Element} :
    addCasePart g s parts part = .ok parts' ↔
      (part.name = "condition" ∧ parts.condition = none ∧
        ∃ x, OnlyOperand g.ReadsCoverage s part x ∧ { parts with condition := some x } = parts') ∨
      (part.name = "result" ∧ parts.result = none ∧
        ∃ x, OnlyOperand g.ReadsCoverage s part x ∧ { parts with result := some x } = parts') := by
  unfold addCasePart
  by_cases hcondition : part.name = "condition"
  · by_cases hfree : parts.condition = none
    · rw [if_pos ⟨hcondition, by simp [hfree]⟩, parseOnlyChild_eq_ok_iff]
      simp [hcondition, hfree]
    · simp [hcondition, hfree]
  · by_cases hresult : part.name = "result"
    · by_cases hfree : parts.result = none
      · rw [if_neg (by simp [hcondition]), if_pos ⟨hresult, by simp [hfree]⟩,
          parseOnlyChild_eq_ok_iff]
        simp [hresult, hfree]
      · simp [hresult, hfree]
    · simp [hcondition, hresult]

-- Once both are set there is nothing more to read.
theorem addCaseParts_full {u v : CoverageExpr} {rest : List Element} {parts : CaseParts}
    (h : rest.foldlM (addCasePart g s) ⟨some u, some v⟩ = .ok parts) :
    rest = [] ∧ parts = ⟨some u, some v⟩ := by
  cases rest with
  | nil => exact ⟨rfl, (pure_eq_ok.mp h).symm⟩
  | cons c rest =>
      simp [addCasePart_eq_ok_iff] at h

theorem parseCase_eq_ok_iff {x y : CoverageExpr} :
    parseCase g s e = .ok (x, y) ↔
      ∃ condition result,
        (e.children = [condition, result] ∨ e.children = [result, condition]) ∧
        condition.name = "condition" ∧ result.name = "result" ∧
        OnlyOperand g.ReadsCoverage s condition x ∧ OnlyOperand g.ReadsCoverage s result y := by
  simp only [parseCase, bind_eq_ok]
  constructor
  · rintro ⟨parts, hparts, h⟩
    rcases hlist : e.children with _ | ⟨a, _ | ⟨b, rest⟩⟩ <;>
      simp only [hlist, List.foldlM_nil, List.foldlM_cons, bind_eq_ok, pure_eq_ok] at hparts
    · subst hparts
      simp at h
    · obtain ⟨first, hfirst, rfl⟩ := hparts
      rcases addCasePart_eq_ok_iff.mp hfirst with ⟨-, -, _, -, rfl⟩ | ⟨-, -, _, -, rfl⟩ <;>
        simp at h
    · obtain ⟨first, hfirst, second, hsecond, hrest⟩ := hparts
      rcases addCasePart_eq_ok_iff.mp hfirst with ⟨ha, -, u, hu, rfl⟩ | ⟨ha, -, u, hu, rfl⟩ <;>
        rcases addCasePart_eq_ok_iff.mp hsecond with
          ⟨hb, hfree, v, hv, rfl⟩ | ⟨hb, hfree, v, hv, rfl⟩
      · simp at hfree
      · obtain ⟨rfl, rfl⟩ := addCaseParts_full hrest
        obtain ⟨rfl, rfl⟩ := Prod.mk.inj (pure_eq_ok.mp h)
        exact ⟨a, b, .inl rfl, ha, hb, hu, hv⟩
      · obtain ⟨rfl, rfl⟩ := addCaseParts_full hrest
        obtain ⟨rfl, rfl⟩ := Prod.mk.inj (pure_eq_ok.mp h)
        exact ⟨b, a, .inr rfl, hb, ha, hv, hu⟩
      · simp at hfree
  · rintro ⟨condition, result, hlist | hlist, hcondition, hresult, hx, hy⟩
    · refine ⟨⟨some x, some y⟩, ?_, rfl⟩
      rw [hlist]
      simp only [List.foldlM_nil, List.foldlM_cons, bind_eq_ok, pure_eq_ok]
      refine ⟨⟨some x, none⟩, addCasePart_eq_ok_iff.mpr (.inl ⟨hcondition, rfl, x, hx, rfl⟩), _,
        addCasePart_eq_ok_iff.mpr (.inr ⟨hresult, rfl, y, hy, rfl⟩), rfl⟩
    · refine ⟨⟨some x, some y⟩, ?_, rfl⟩
      rw [hlist]
      simp only [List.foldlM_nil, List.foldlM_cons, bind_eq_ok, pure_eq_ok]
      refine ⟨⟨none, some y⟩, addCasePart_eq_ok_iff.mpr (.inr ⟨hresult, rfl, y, hy, rfl⟩), _,
        addCasePart_eq_ok_iff.mpr (.inl ⟨hcondition, rfl, x, hx, rfl⟩), rfl⟩

theorem addDefaultPart_eq_ok_iff {earlier later : Option CoverageExpr} {part : Element} :
    addDefaultPart g s earlier part = .ok later ↔
      part.name = "result" ∧ earlier = none ∧
        ∃ x, OnlyOperand g.ReadsCoverage s part x ∧ some x = later := by
  unfold addDefaultPart
  by_cases hname : part.name = "result"
  · cases earlier with
    | none =>
        rw [if_neg (by simp [hname]), parseOnlyChild_eq_ok_iff]
        simp [hname]
    | some x => simp
  · simp [hname]

theorem parseDefault_eq_ok_iff {x : CoverageExpr} :
    parseDefault g s e = .ok x ↔
      ∃ part, e.children = [part] ∧ part.name = "result" ∧
        OnlyOperand g.ReadsCoverage s part x := by
  simp only [parseDefault, bind_eq_ok]
  constructor
  · rintro ⟨result, hparts, h⟩
    rcases hlist : e.children with _ | ⟨a, _ | ⟨b, rest⟩⟩ <;>
      simp only [hlist, List.foldlM_nil, List.foldlM_cons, bind_eq_ok, pure_eq_ok,
        addDefaultPart_eq_ok_iff] at hparts
    · subst hparts
      simp at h
    · obtain ⟨_, ⟨ha, -, u, hu, rfl⟩, rfl⟩ := hparts
      obtain rfl := pure_eq_ok.mp h
      exact ⟨a, rfl, ha, hu⟩
    · obtain ⟨_, ⟨-, -, u, -, rfl⟩, _, ⟨-, hfree, -⟩, -⟩ := hparts
      simp at hfree
  · rintro ⟨part, hlist, hname, hx⟩
    refine ⟨some x, ?_, rfl⟩
    simp only [hlist, List.foldlM_nil, List.foldlM_cons, bind_eq_ok, pure_eq_ok,
      addDefaultPart_eq_ok_iff]
    exact ⟨_, ⟨hname, trivial, x, hx, rfl⟩, rfl⟩

theorem parseBranches_eq_ok_iff {elements : List Element} {branches : Branches} :
    parseBranches g s elements = .ok branches ↔
      BranchesForm g.ReadsCoverage s elements branches := by
  induction elements generalizing branches with
  | nil =>
      simp only [parseBranches, reduceCtorEq, false_iff]
      rintro ⟨⟩
  | cons e rest ih =>
      unfold parseBranches
      by_cases hcase : e.name = "case"
      · simp only [hcase, if_true, bind_eq_ok, pure_eq_ok, ih, Prod.exists]
        constructor
        · rintro ⟨x, y, hxy, others, hothers, rfl⟩
          obtain ⟨condition, result, hparts, hc, hr, hx, hy⟩ := parseCase_eq_ok_iff.mp hxy
          exact .case hcase hparts hc hr hx hy hothers
        · intro h
          cases h with
          | default htag => simp [hcase] at htag
          | case _ hparts hc hr hx hy hothers =>
              exact ⟨_, _, parseCase_eq_ok_iff.mpr ⟨_, _, hparts, hc, hr, hx, hy⟩, _, hothers, rfl⟩
      · by_cases hdefault : e.name = "default"
        · rw [if_neg hcase, if_pos hdefault]
          simp only [bind_eq_ok]
          constructor
          · rintro ⟨x, hx, h⟩
            obtain ⟨part, hparts, hname, hx⟩ := parseDefault_eq_ok_iff.mp hx
            cases rest with
            | nil =>
                obtain rfl := pure_eq_ok.mp h
                exact .default hdefault hparts hname hx
            | cons extra rest => exact (throw_eq_ok.mp h).elim
          · intro h
            cases h with
            | default _ hparts hname hx =>
                exact ⟨_, parseDefault_eq_ok_iff.mpr ⟨_, hparts, hname, hx⟩, rfl⟩
            | case htag => exact absurd htag hcase
        · simp only [hcase, hdefault, if_false, reduceCtorEq, false_iff]
          intro h
          cases h with
          | default htag => exact hdefault htag
          | case htag => exact hcase htag

end Datacube.Expr
