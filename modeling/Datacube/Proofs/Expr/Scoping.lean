import Datacube.Proofs.Expr.Operands

-- Names in an expression that is read mean something: variables are declared around it, and
-- references name iterators of the scope.
namespace Datacube.Expr

open Markup (Element)

-- An expression in the tree of another one, together with the iterators of the constructors on the
-- way to it from the outermost one inwards.
inductive Operand.Occurs (top : Operand) : List AxisIterator → Operand → Prop where
  | refl : Occurs top [] top
  | operand {around : List AxisIterator} {o child : Operand} (ho : Occurs top around o)
      (hchild : child ∈ o.operands) : Occurs top (around ++ o.declared) child

-- An expression that occurs is the whole, or occurs in one of the operands of the whole.
theorem Operand.Occurs.eq_or_operand {top o : Operand} {around : List AxisIterator}
    (h : top.Occurs around o) :
    (around = [] ∧ o = top) ∨
      ∃ child ∈ top.operands, ∃ inner, child.Occurs inner o ∧ around = top.declared ++ inner := by
  induction h with
  | refl => exact .inl ⟨rfl, rfl⟩
  | @operand around o grandchild ho hchild ih =>
      rcases ih with ⟨rfl, rfl⟩ | ⟨child, hmem, inner, hinner, rfl⟩
      · exact .inr ⟨grandchild, hchild, [], .refl, by simp⟩
      · exact .inr ⟨child, hmem, inner ++ o.declared, hinner.operand hchild, by simp⟩

-- A property of all expressions in a tree, of each in the scope together with what is declared
-- around it.
def Operand.Throughout (P : Scope → Operand → Prop) (s : Scope) (top : Operand) : Prop :=
  ∀ around o, top.Occurs around o → P (s.withVariables (around.map (·.var))) o

theorem Scope.withVariables_append (s : Scope) (names more : List String) :
    (s.withVariables names).withVariables more = s.withVariables (names ++ more) := by
  simp [Scope.withVariables]

-- An expression has a property throughout if it has it itself, and its operands have it throughout
-- where its variables are declared.
theorem Operand.Throughout.of_operands {P : Scope → Operand → Prop} {s : Scope} {top : Operand}
    (htop : P s top)
    (hoperands : ∀ child ∈ top.operands,
      child.Throughout P (s.withVariables (top.declared.map (·.var)))) : top.Throughout P s := by
  intro around o ho
  rcases ho.eq_or_operand with ⟨rfl, rfl⟩ | ⟨child, hmem, inner, hinner, rfl⟩
  · rwa [List.map_nil, Scope.withVariables_nil]
  · have hknown := hoperands child hmem inner o hinner
    rwa [Scope.withVariables_append, ← List.map_append] at hknown

-- What is read has the property, whatever its operands are.
structure OfForms (P : Scope → Operand → Prop) : Prop where
  coverage : ∀ {C S s e x}, CoverageForm C S s e x → P s (.coverage x)
  scalar : ∀ {C S s e x}, ScalarForm C S s e x → P s (.scalar x)

section Throughout

variable {P : Scope → Operand → Prop} {s : Scope} {e : Element}

theorem OperandForm.throughout {o : Operand}
    (h : OperandForm (fun s _ x => (Operand.coverage x).Throughout P s)
      (fun s _ x => (Operand.scalar x).Throughout P s) s e o) : o.Throughout P s := by
  cases h with
  | scalar h => exact h
  | coverage h => exact h

theorem Grammar.throughout_of_reads (hP : OfForms P) (limit levels : Nat) :
    (∀ s e x, (level limit levels).ReadsCoverage s e x → (Operand.coverage x).Throughout P s) ∧
      ∀ s e x, (level limit levels).ReadsScalar s e x → (Operand.scalar x).Throughout P s := by
  refine level_induction ?_ ?_ limit levels
  · intro s e x h
    refine .of_operands (hP.coverage h) fun child hchild => ?_
    obtain ⟨c, hc⟩ := h.operand child hchild
    exact hc.throughout
  · intro s e x h
    refine .of_operands (hP.scalar h) fun child hchild => ?_
    obtain ⟨c, hc⟩ := h.operand child hchild
    simpa only [Operand.declared, List.map_nil, Scope.withVariables_nil] using hc.throughout

end Throughout

end Datacube.Expr
