import Datacube.Proofs.Expr.Scoping
import Datacube.Proofs.Request.Enumeration
import Datacube.Proofs.Request.Rebinding
import Datacube.Proofs.Text.Pieces

-- An accepted request has no free names: a variable stands inside a constructor that declares it,
-- and a coverage is bound once in the from clause of every query.
namespace Datacube

open Markup (Element)
open Datacube.Expr (AxisIterator CoverageExpr Grammar Operand ScalarExpr Scope)
open Result

-- The expression that a clause asks for.
def ReturnClause.operand : ReturnClause → Operand
  | .encode expr _ _ _ => .coverage expr
  | .scalar expr => .scalar expr

namespace Request

-- The expressions of a request, the condition first.
def expressions (r : Request) : List Operand :=
  r.condition.toList ++ [r.result.operand]

-- What a clause asks for: a value, or a coverage with its format and parameters.
inductive ReturnForm (g : Grammar) (s : Scope) (settings : CompilerSettings) (e : Element) :
    ReturnClause → Prop where
  | scalar {x : ScalarExpr} (htag : e.name ≠ "encode") (hx : g.ReadsScalar s e x) :
      ReturnForm g s settings e (.scalar x)
  | encode {x : CoverageExpr} (htag : e.name = "encode")
      (hx : Expr.OperandBeside g.ReadsCoverage s e ["format", "extraParameters"] x) :
      ReturnForm g s settings e
        (.encode x (((e.childText? "format").filter (· ≠ "")).getD settings.defaultFormat)
          ((e.childText? "extraParameters").filter (· ≠ ""))
          ((e.attribute? "store").any fun value => Text.sameFolded value "true"))

theorem parseReturn_eq_ok_iff {g : Grammar} {s : Scope} {settings : CompilerSettings} {e : Element}
    {result : ReturnClause} :
    parseReturn g s settings e = .ok result ↔ ReturnForm g s settings e result := by
  unfold parseReturn
  by_cases htag : e.name = "encode"
  · rw [if_neg (not_not.mpr htag)]
    constructor
    · intro h
      split at h
      · simp at h
      · next c hc =>
        simp only [bind_eq_ok, pure_eq_ok, Expr.parseCoverage_eq_ok_iff] at h
        obtain ⟨x, hx, rfl⟩ := h
        exact .encode htag ⟨c, hc, hx⟩
    · rintro (⟨hother, -⟩ | ⟨-, c, hc, hx⟩)
      · exact absurd htag hother
      · simp only [hc, bind_eq_ok, pure_eq_ok, Expr.parseCoverage_eq_ok_iff]
        exact ⟨_, hx, rfl⟩
  · rw [if_pos htag]
    simp only [bind_eq_ok, pure_eq_ok, Expr.parseScalar_eq_ok_iff]
    constructor
    · rintro ⟨x, hx, rfl⟩
      exact .scalar htag hx
    · rintro (⟨-, hx⟩ | ⟨hother, -⟩)
      · exact ⟨_, hx, rfl⟩
      · exact absurd hother htag

section Entries

variable {clause : String} {entries entries' : List String} {bindings : List (String × String)}

-- A clause taken apart at its commas.
structure Lists (clause : String) (entries : List String) : Prop where
  nonempty : entries ≠ []
  joined : clause = ", ".intercalate entries
  separate : ∀ entry ∈ entries, ',' ∉ entry.toList

theorem space_cons_intercalate (h : entries ≠ []) :
    ' ' :: (", ".intercalate entries).toList =
      [','].intercalate (entries.map (' ' :: ·.toList)) := by
  induction entries with
  | nil => exact absurd rfl h
  | cons entry entries ih =>
      cases entries with
      | nil => simp
      | cons next entries =>
          have hnext := ih (List.cons_ne_nil _ _)
          rw [List.map_cons] at hnext
          rw [String.intercalate_cons_cons, List.map_cons, List.map_cons,
            List.intercalate_cons_cons, ← hnext]
          simp

theorem Lists.unique (h : Lists clause entries) (h' : Lists clause entries') :
    entries = entries' := by
  have hpieces : ∀ {entries}, Lists clause entries →
      Text.pieces ',' (' ' :: clause.toList) = entries.map (' ' :: ·.toList) := by
    intro entries h
    rw [h.joined, space_cons_intercalate h.nonempty]
    refine Text.pieces_intercalate (by simpa using h.nonempty) fun piece hpiece => ?_
    obtain ⟨entry, hentry, rfl⟩ := List.mem_map.mp hpiece
    simpa using h.separate entry hentry
  refine List.map_injective_iff.mpr ?_ ((hpieces h).symm.trans (hpieces h'))
  intro a b hab
  exact String.toList_inj.mp (List.cons.inj hab).2

end Entries

section Closed

variable {store : Store} {settings : CompilerSettings} {root : Element} {r : Request}

theorem ReturnForm.throughout {P : Scope → Operand → Prop} (hP : Expr.OfForms P) {limit : Nat}
    {s : Scope} {e : Element} {result : ReturnClause}
    (h : ReturnForm (Grammar.upTo limit) s settings e result) : result.operand.Throughout P s := by
  cases h with
  | scalar _ hx => exact (Grammar.throughout_of_reads hP limit limit).2 _ _ _ hx
  | encode _ hx =>
      obtain ⟨c, -, hx⟩ := hx
      exact (Grammar.throughout_of_reads hP limit limit).1 _ _ _ hx

theorem ReadsCondition.throughout {P : Scope → Operand → Prop} (hP : Expr.OfForms P) {limit : Nat}
    {s : Scope} {body : Element} {condition : Option Operand}
    (h : ReadsCondition (Grammar.upTo limit) s body condition) :
    ∀ o ∈ condition, o.Throughout P s := by
  rcases h with ⟨-, rfl⟩ | ⟨_, c, operand, -, -, hoperand, rfl⟩
  · simp
  · rintro _ ⟨⟩
    have hreads := Grammar.throughout_of_reads hP limit limit
    have hexclusive := Grammar.level_exclusive limit limit
    cases (Expr.parseOperand_eq_ok_iff hexclusive).mp hoperand with
    | scalar hx => exact hreads.2 _ _ _ hx
    | coverage hx => exact hreads.1 _ _ _ hx

-- Outside of all constructors, only the iterators of the request have a meaning.
theorem throughout_of_ofElement {P : Scope → Operand → Prop} (hP : Expr.OfForms P)
    (h : ofElement store settings root = .ok r) :
    ∀ top ∈ r.expressions, top.Throughout P (scope store r.iterators) := by
  obtain ⟨body, -, -, hcondition, _, c, -, -, hresult⟩ := ofElement_eq_ok_iff.mp h
  intro top htop
  rcases List.mem_append.mp htop with htop | htop
  · exact hcondition.throughout hP top (Option.mem_toList.mp htop)
  · obtain rfl := List.mem_singleton.mp htop
    exact (parseReturn_eq_ok_iff.mp hresult).throughout hP

end Closed

section Ramp

end Ramp

end Request

end Datacube
