import Datacube.Proofs.Expr.Variation

-- Elements that differ in the text of one literal, and what is read from both of them alike.
namespace Datacube

namespace Expr

open Markup (Element)

-- Elements whose text is written as a literal.
def literalTags : List String :=
  ["stringConstant", "format", "extraParameters"]

-- Two elements differ in the text of one element of some name inside them. The bounds that are kept
-- do not depend on that text.
inductive Differs (kept : List String) (tag text text' : String) : Element → Element → Prop where
  | here {attributes : List (String × String)} {children : List Element} :
      Differs kept tag text text' ⟨tag, attributes, text, children⟩
        ⟨tag, attributes, text', children⟩
  | inside {name own : String} {attributes : List (String × String)}
      {children children' : List Element}
      (h : OneOff (Differs kept tag text text') children children')
      (hbound : name ∈ kept → boundText ⟨name, attributes, own, children⟩ =
        boundText ⟨name, attributes, own, children'⟩) :
      Differs kept tag text text' ⟨name, attributes, own, children⟩
        ⟨name, attributes, own, children'⟩

-- No bound is given by the text that differs.
abbrev Retexted (tag text text' : String) : Element → Element → Prop :=
  Differs boundTags tag text text'

namespace Retexted

variable {tag text text' : String} {e e' : Element}

theorem name_eq (h : Retexted tag text text' e e') : e.name = e'.name := by
  cases h <;> rfl

theorem attributes_eq (h : Retexted tag text text' e e') : e.attributes = e'.attributes := by
  cases h <;> rfl

theorem children (h : Retexted tag text text' e e') :
    e.children = e'.children ∨ OneOff (Retexted tag text text') e.children e'.children := by
  cases h with
  | here => exact .inl rfl
  | inside h _ => exact .inr h

theorem text_eq (h : Retexted tag text text' e e') (hne : e.name ≠ tag) :
    e.trimmedText = e'.trimmedText := by
  cases h with
  | here => exact absurd rfl hne
  | inside => rfl

theorem varied (h : Retexted tag text text' e e') : Varied (Retexted tag text text') e e' :=
  ⟨h.name_eq, h.children⟩

-- Nothing differs in an element of another name but its children.
theorem inert {tags : List String} (htag : tag ∉ tags) : Inert tags (Retexted tag text text') where
  name_iff h _ _ := by rw [h.name_eq]
  text h hname := by
    cases h with
    | here => exact absurd hname htag
    | inside => rfl
  bound h hname hbound := by
    cases h with
    | here => exact absurd hname htag
    | inside _ h => exact h hbound
  inner h _ := h.varied

-- What is found by name is the same or differs in the literal.
theorem find? (h : Retexted tag text text' e e') {p : Element → Bool}
    (hp : ∀ c c' : Element, c.name = c'.name → p c = p c') :
    e.children.find? p = e'.children.find? p ∨
      ∃ c c', Retexted tag text text' c c' ∧ p c = true ∧ e.children.find? p = some c ∧
        e'.children.find? p = some c' :=
  h.varied.find? fun c c' hc => hp c c' hc.name_eq

theorem childrenNamed (h : Retexted tag text text' e e') (name : String) :
    e.childrenNamed name = e'.childrenNamed name ∨
      OneOff (Retexted tag text text') (e.childrenNamed name) (e'.childrenNamed name) := by
  rcases h.children with h | h
  · exact .inl (by rw [Element.childrenNamed, h, Element.childrenNamed])
  · exact h.filter fun c c' hc => by rw [hc.name_eq]

-- A text that is looked up by name is the same, unless it is a literal.
theorem childText?_eq (h : Retexted tag text text' e e') {name : String} (hname : name ≠ tag) :
    e.childText? name = e'.childText? name := by
  have htag : tag ∉ [name] := by simpa using hname.symm
  exact h.varied.childText?_eq (inert htag) List.mem_cons_self

theorem texts_eq (h : Retexted tag text text' e e') {name : String} (hname : name ≠ tag) :
    (e.childrenNamed name).map (·.trimmedText) = (e'.childrenNamed name).map (·.trimmedText) := by
  have htag : tag ∉ [name] := by simpa using hname.symm
  exact h.varied.texts_eq (inert htag) List.mem_cons_self

end Retexted

theorem ne_of_literalTags {tag : String} (htag : tag ∈ literalTags) (name : String)
    (hname : name ∉ literalTags) : name ≠ tag :=
  fun heq => hname (heq ▸ htag)

-- What describes an operation beside its operands is not written as a literal.
theorem not_partTags_of_literalTags : ∀ tag ∈ literalTags, tag ∉ partTags := by
  decide

end Expr

end Datacube
