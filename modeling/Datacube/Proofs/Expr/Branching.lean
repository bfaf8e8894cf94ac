import Datacube.Proofs.Expr.Domain
import Datacube.Sample.Coverages

-- The grammar of switches: cases, each with a condition and a result, and then a default with its
-- result. All of them have the same cells.
namespace Datacube.Expr

open Markup (Element)
open Result

-- Conditions with their results, in order.
def Branches.cases : Branches → List (CoverageExpr × CoverageExpr)
  | .default _ => []
  | .case condition result rest => (condition, result) :: rest.cases

-- The result for all other cells.
def Branches.otherwise : Branches → CoverageExpr
  | .default result => result
  | .case _ _ rest => rest.otherwise

-- The same branches behind further cases.
def Branches.after (cases : List (CoverageExpr × CoverageExpr)) (rest : Branches) : Branches :=
  cases.foldr (fun branch more => .case branch.1 branch.2 more) rest

-- All that is read in a switch, in the order of the document.
def branchExprs (cases : List (CoverageExpr × CoverageExpr)) (otherwise : CoverageExpr) :
    List CoverageExpr :=
  cases.flatMap (fun branch => [branch.1, branch.2]) ++ [otherwise]

section Parts

theorem Branches.cases_after (cases : List (CoverageExpr × CoverageExpr)) (rest : Branches) :
    (after cases rest).cases = cases ++ rest.cases := by
  induction cases with
  | nil => rfl
  | cons branch cases ih => exact congrArg (branch :: ·) ih

theorem Branches.otherwise_after (cases : List (CoverageExpr × CoverageExpr)) (rest : Branches) :
    (after cases rest).otherwise = rest.otherwise := by
  induction cases with
  | nil => rfl
  | cons branch cases ih => exact ih

theorem Branches.after_cases :
    ∀ branches : Branches, after branches.cases (.default branches.otherwise) = branches
  | .default _ => rfl
  | .case condition result rest => congrArg (Branches.case condition result) (after_cases rest)

theorem Branches.exprs_eq :
    ∀ branches : Branches, branches.exprs = branchExprs branches.cases branches.otherwise
  | .default _ => rfl
  | .case condition result rest => by
      rw [exprs, exprs_eq rest]
      rfl

theorem Branches.text_term : ∀ branches : Branches, branches.term.text =
    String.join (branches.cases.map fun branch =>
      "when " ++ branch.1.text ++ " then " ++ branch.2.text ++ " ") ++
      "else " ++ branches.otherwise.text
  | .default result => by simp [term, Rasql.Branches.text, cases, otherwise, CoverageExpr.text]
  | .case condition result rest => by
      rw [term, Rasql.Branches.text, text_term rest]
      simp only [cases, otherwise, List.map_cons, String.join_cons, CoverageExpr.text,
        String.append_assoc]

-- Having the cells of the first is having the same cells.
theorem Branches.sameCells_iff (branches : Branches) :
    (∀ x ∈ branches.exprs, branches.schema.extents = x.schema.extents) ↔
      ∀ x ∈ branches.exprs, ∀ y ∈ branches.exprs, x.schema.extents = y.schema.extents := by
  obtain ⟨first, rest, hexprs, hschema⟩ := branches.exprs_eq_cons
  rw [hschema]
  constructor
  · intro h x hx y hy
    exact (h x hx).symm.trans (h y hy)
  · intro h
    exact h first (hexprs ▸ List.mem_cons_self)

end Parts

namespace Grammar

-- A part of a branch: its first child is a coverage expression.
def ReadsPart (g : Grammar) (s : Scope) (tag : String) (part : Element) (x : CoverageExpr) : Prop :=
  part.name = tag ∧ ∃ c, part.children.head? = some c ∧ g.parseCoverage s c = .ok x

-- A case has one condition and one result, in either order.
def ReadsCase (g : Grammar) (s : Scope) (e : Element) (branch : CoverageExpr × CoverageExpr) :
    Prop :=
  e.name = "case" ∧ ∃ condition result,
    (e.children = [condition, result] ∨ e.children = [result, condition]) ∧
    g.ReadsPart s "condition" condition branch.1 ∧ g.ReadsPart s "result" result branch.2

def ReadsDefault (g : Grammar) (s : Scope) (e : Element) (x : CoverageExpr) : Prop :=
  e.name = "default" ∧ ∃ result, e.children = [result] ∧ g.ReadsPart s "result" result x

-- The children of a switch are its cases and then the default. Any two of the expressions in them
-- have the same cells.
structure ReadsSwitch (g : Grammar) (s : Scope) (e : Element)
    (cases : List (CoverageExpr × CoverageExpr)) (otherwise : CoverageExpr) : Prop where
  children : ∃ elements last, e.children = elements ++ [last] ∧
    List.Forall₂ (g.ReadsCase s) elements cases ∧ g.ReadsDefault s last otherwise
  sameCells : ∀ x ∈ branchExprs cases otherwise, ∀ y ∈ branchExprs cases otherwise,
    x.schema.extents = y.schema.extents

end Grammar

section Reading

variable {g : Grammar} {s : Scope} {e : Element} {elements : List Element} {branches : Branches}

theorem readsPart_iff {tag : String} {x : CoverageExpr} :
    g.ReadsPart s tag e x ↔ e.name = tag ∧ OnlyOperand g.ReadsCoverage s e x := by
  simp only [Grammar.ReadsPart, OnlyOperand, Element.firstChild?, parseCoverage_eq_ok_iff]

theorem readsCase_iff {branch : CoverageExpr × CoverageExpr} :
    g.ReadsCase s e branch ↔ e.name = "case" ∧ parseCase g s e = .ok branch := by
  obtain ⟨x, y⟩ := branch
  simp only [Grammar.ReadsCase, readsPart_iff, parseCase_eq_ok_iff]
  refine and_congr_right fun _ => exists₂_congr fun condition result => ?_
  constructor
  · rintro ⟨hparts, ⟨hcondition, hx⟩, hresult, hy⟩
    exact ⟨hparts, hcondition, hresult, hx, hy⟩
  · rintro ⟨hparts, hcondition, hresult, hx, hy⟩
    exact ⟨hparts, ⟨hcondition, hx⟩, hresult, hy⟩

theorem readsDefault_iff {x : CoverageExpr} :
    g.ReadsDefault s e x ↔ e.name = "default" ∧ parseDefault g s e = .ok x := by
  simp only [Grammar.ReadsDefault, readsPart_iff, parseDefault_eq_ok_iff]

theorem parseBranches_case {rest : List Element} {branch : CoverageExpr × CoverageExpr}
    (h : g.ReadsCase s e branch) :
    parseBranches g s (e :: rest) = (.case branch.1 branch.2 ·) <$> parseBranches g s rest := by
  obtain ⟨htag, hcase⟩ := readsCase_iff.mp h
  rw [parseBranches, if_pos htag, hcase]
  rfl

theorem parseBranches_default {x : CoverageExpr} (h : g.ReadsDefault s e x) :
    parseBranches g s [e] = .ok (.default x) := by
  obtain ⟨htag, hdefault⟩ := readsDefault_iff.mp h
  rw [parseBranches, if_neg (by rw [htag]; decide), if_pos htag, hdefault]
  rfl

-- Cases are read one after the other, and it is left to what follows them whether all is well.
theorem parseBranches_cases {cases : List (CoverageExpr × CoverageExpr)}
    (h : List.Forall₂ (g.ReadsCase s) elements cases) (rest : List Element) :
    parseBranches g s (elements ++ rest) =
      Branches.after cases <$> parseBranches g s rest := by
  induction h with
  | nil => exact (id_map _).symm
  | cons hcase _ ih =>
      rw [List.cons_append, parseBranches_case hcase, ih, ← comp_map]
      rfl

theorem parseBranches_iff :
    parseBranches g s elements = .ok branches ↔
      ∃ caseElements last, elements = caseElements ++ [last] ∧
        List.Forall₂ (g.ReadsCase s) caseElements branches.cases ∧
        g.ReadsDefault s last branches.otherwise := by
  constructor
  · intro h
    rw [parseBranches_eq_ok_iff] at h
    induction h with
    | default htag hparts hpart hx =>
        exact ⟨[], _, rfl, .nil, htag, _, hparts, readsPart_iff.mpr ⟨hpart, hx⟩⟩
    | case htag hparts hcondition hresult hx hy _ ih =>
        obtain ⟨caseElements, last, rfl, hcases, hlast⟩ := ih
        have hcase : g.ReadsCase s _ (_, _) := ⟨htag, _, _, hparts,
          readsPart_iff.mpr ⟨hcondition, hx⟩, readsPart_iff.mpr ⟨hresult, hy⟩⟩
        exact ⟨_ :: caseElements, last, rfl, .cons hcase hcases, hlast⟩
  · rintro ⟨caseElements, last, rfl, hcases, hlast⟩
    rw [parseBranches_cases hcases, parseBranches_default hlast]
    exact congrArg Except.ok branches.after_cases

theorem parseSwitch_iff (htag : e.name = "switch") :
    parseSwitch g s e = .ok branches ↔ g.ReadsSwitch s e branches.cases branches.otherwise := by
  have hswitch : parseSwitch g s e = .ok branches ↔
      parseBranches g s e.children = .ok branches ∧ checkBranches branches = .ok () := by
    simp only [parseSwitch, throw_bind, ite_throw_eq_ok, bind_eq_ok, pure_eq_ok, htag, ne_eq,
      not_true_eq_false, not_false_eq_true, true_and]
    constructor
    · rintro ⟨_, hbranches, ⟨⟩, hsame, rfl⟩
      exact ⟨hbranches, hsame⟩
    · rintro ⟨hbranches, hsame⟩
      exact ⟨branches, hbranches, (), hsame, rfl⟩
  rw [hswitch, parseBranches_iff, checkBranches_eq_ok_iff, branches.sameCells_iff,
    branches.exprs_eq]
  constructor
  · intro h
    exact ⟨h.1, h.2⟩
  · intro h
    exact ⟨h.children, h.sameCells⟩

end Reading

-- A switch is accepted exactly if its children are cases and then one default, all of them complete,
-- and all expressions in them have the same cells. It is written branch by branch. If there are
-- only cases, the default is missed.
theorem switch_grammar (g : Grammar) (s : Scope) (e : Element) (htag : e.name = "switch") :
    ((∃ branches, parseSwitch g s e = .ok branches) ↔
      ∃ cases otherwise, g.ReadsSwitch s e cases otherwise) ∧
    (∀ branches, parseSwitch g s e = .ok branches →
      g.ReadsSwitch s e branches.cases branches.otherwise ∧
      (CoverageExpr.switch branches).text =
        "case " ++ String.join (branches.cases.map fun branch =>
          "when " ++ branch.1.text ++ " then " ++ branch.2.text ++ " ") ++
          "else " ++ branches.otherwise.text ++ " end") ∧
    ((∀ c ∈ e.children, ∃ branch, g.ReadsCase s c branch) →
      parseSwitch g s e = .error .missingSwitchDefault) := by
  refine ⟨⟨?_, ?_⟩, fun branches h => ⟨(parseSwitch_iff htag).mp h, ?_⟩, fun hcases => ?_⟩
  · rintro ⟨branches, h⟩
    exact ⟨_, _, (parseSwitch_iff htag).mp h⟩
  · rintro ⟨cases, otherwise, h⟩
    refine ⟨.after cases (.default otherwise), (parseSwitch_iff htag).mpr ?_⟩
    rwa [Branches.cases_after, Branches.otherwise_after, Branches.cases, List.append_nil,
      Branches.otherwise]
  · rw [CoverageExpr.text, CoverageExpr.term, Rasql.Term.text, branches.text_term]
    simp only [String.append_assoc]
  · obtain ⟨cases, hcases⟩ := exists_forall₂_iff.mpr hcases
    have hbranches : parseBranches g s e.children = .error .missingSwitchDefault := by
      rw [← List.append_nil e.children, parseBranches_cases hcases]
      rfl
    simp only [parseSwitch, htag, hbranches]
    rfl

-- Two cases, the second with its result before its condition.
def extremeCases : List Element :=
  let cell : Element := { name := "coverage", text := "c" }
  let compare (tag number : String) : Element :=
    { name := tag, children := [cell, { name := "numericConstant", text := number }] }
  let part (tag : String) (child : Element) : Element := { name := tag, children := [child] }
  [{ name := "case"
     children := [part "condition" (compare "lessThan" "0"), part "result" cell] },
   { name := "case"
     children := [part "result" (compare "mult" "2"),
       part "condition" (compare "greaterThan" "100")] }]

def keepCells : Element where
  name := "default"
  children := [{ name := "result", children := [{ name := "coverage", text := "c" }] }]

def switchOf (children : List Element) : Element where
  name := "switch"
  children := children

theorem switch_grammar_extremeCases :
    ∃ store branches, Store.ofDefs [Sample.airTemperature "T"] = .ok store ∧
      parseSwitch (Grammar.upTo 3) ⟨store, [("c", ["T"])], []⟩
        (switchOf (extremeCases ++ [keepCells])) = .ok branches ∧
      (CoverageExpr.switch branches).text =
        "case when (c < 0) then c when (c > 100) then (c * 2) else c end" ∧
      (Grammar.upTo 3).ReadsSwitch ⟨store, [("c", ["T"])], []⟩
        (switchOf (extremeCases ++ [keepCells])) branches.cases branches.otherwise ∧
      parseSwitch (Grammar.upTo 3) ⟨store, [("c", ["T"])], []⟩ (switchOf extremeCases) =
        .error .missingSwitchDefault := by
  obtain ⟨store, branches, hstore, hbranches, htext⟩ : ∃ store branches,
      Store.ofDefs [Sample.airTemperature "T"] = .ok store ∧
      parseSwitch (Grammar.upTo 3) ⟨store, [("c", ["T"])], []⟩
        (switchOf (extremeCases ++ [keepCells])) = .ok branches ∧
      (CoverageExpr.switch branches).text =
        "case when (c < 0) then c when (c > 100) then (c * 2) else c end" :=
    ⟨_, _, rfl, rfl, rfl⟩
  obtain ⟨-, haccepted, -⟩ := switch_grammar (Grammar.upTo 3) ⟨store, [("c", ["T"])], []⟩
    (switchOf (extremeCases ++ [keepCells])) rfl
  obtain ⟨hreads, -⟩ := haccepted branches hbranches
  obtain ⟨elements, last, hchildren, hcases, -⟩ := hreads.children
  obtain ⟨rfl, -⟩ : extremeCases = elements ∧ keepCells = last :=
    List.append_singleton_inj.mp hchildren
  obtain ⟨-, -, hmissing⟩ := switch_grammar (Grammar.upTo 3) ⟨store, [("c", ["T"])], []⟩
    (switchOf extremeCases) rfl
  exact ⟨store, branches, hstore, hbranches, htext, hreads,
    hmissing (exists_forall₂_iff.mp ⟨_, hcases⟩)⟩

end Datacube.Expr
