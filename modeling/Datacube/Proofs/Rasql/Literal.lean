import Datacube.Rasql
import Mathlib.Algebra.Group.Nat.Even

-- Literals in the text of a query: what is left when they are taken out, and texts that differ in
-- one of them.
namespace Datacube.Rasql

-- Read on outside of literals, or inside of one that has been read up to some point.
def outside : Option (List Char) → List Char → List Char
  | none, [] => []
  | some opened, [] => opened
  | none, c :: rest => if c = '"' then outside (some [c]) rest else c :: outside none rest
  | some opened, c :: rest =>
    if c = '"' then outside none rest else outside (some (opened ++ [c])) rest

-- A text without its literals, from a quote up to the next one. A last quote without a partner
-- stays, with what follows it.
def outsideLiterals (text : String) : List Char :=
  outside none text.toList

theorem outside_literal {content : List Char} (hcontent : '"' ∉ content) (after : List Char) :
    outside none ('"' :: content ++ '"' :: after) = outside none after := by
  have hinside : ∀ opened,
      outside (some opened) (content ++ '"' :: after) = outside none after := by
    induction content with
    | nil => simp [outside]
    | cons c content ih =>
        intro opened
        rw [List.mem_cons, not_or] at hcontent
        rw [List.cons_append, outside, if_neg (Ne.symm hcontent.1)]
        exact ih hcontent.2 _
  exact hinside ['"']

-- Quotes come in pairs: behind an even number of them the reading is outside of literals again.
theorem outside_append (before : List Char) (opened : Option (List Char))
    (heven : Even (before.count '"' + opened.elim 0 fun _ => 1)) :
    ∃ kept, ∀ after, outside opened (before ++ after) = kept ++ outside none after := by
  induction before generalizing opened with
  | nil =>
      cases opened with
      | none => exact ⟨[], fun _ => rfl⟩
      | some opened => simp at heven
  | cons c before ih =>
      cases opened with
      | none =>
          by_cases hc : c = '"'
          · obtain ⟨kept, hkept⟩ := ih (some [c]) (by simpa [hc] using heven)
            exact ⟨kept, fun after => by simp [outside, hc, ← hkept]⟩
          · obtain ⟨kept, hkept⟩ := ih none (by simpa [hc] using heven)
            exact ⟨c :: kept, fun after => by simp [outside, hc, ← hkept]⟩
      | some opened =>
          by_cases hc : c = '"'
          · obtain ⟨kept, hkept⟩ := ih none (by
              simp only [hc, List.count_cons_self, Option.elim] at heven ⊢
              grind)
            exact ⟨kept, fun after => by simp [outside, hc, ← hkept]⟩
          · obtain ⟨kept, hkept⟩ := ih (some (opened ++ [c])) (by simpa [hc] using heven)
            exact ⟨kept, fun after => by simp [outside, hc, ← hkept]⟩

def quotedText (content : String) : String :=
  "\"" ++ content ++ "\""

theorem outsideLiterals_quoted {before content content' : String} (after : String)
    (heven : Even (before.toList.count '"')) (hcontent : '"' ∉ content.toList)
    (hcontent' : '"' ∉ content'.toList) :
    outsideLiterals (before ++ quotedText content ++ after) =
      outsideLiterals (before ++ quotedText content' ++ after) := by
  obtain ⟨kept, hkept⟩ := outside_append before.toList none (by simpa using heven)
  have hliteral : ∀ {text : String}, '"' ∉ text.toList →
      outsideLiterals (before ++ quotedText text ++ after) = kept ++ outside none after.toList := by
    intro text htext
    rw [← outside_literal htext after.toList, ← hkept]
    simp [outsideLiterals, quotedText]
  rw [hliteral hcontent, hliteral hcontent']

-- Two texts are the same, or differ in the content of one literal.
def Exchanges (content content' text text' : String) : Prop :=
  text = text' ∨
    ∃ before after, text = before ++ quotedText content ++ after ∧
      text' = before ++ quotedText content' ++ after

namespace Exchanges

variable {content content' text text' : String}

theorem refl (text : String) : Exchanges content content' text text :=
  .inl rfl

theorem quoted : Exchanges content content' (quotedText content) (quotedText content') :=
  .inr ⟨"", "", by simp, by simp⟩

theorem append_left (h : Exchanges content content' text text') (more : String) :
    Exchanges content content' (more ++ text) (more ++ text') := by
  rcases h with rfl | ⟨before, after, rfl, rfl⟩
  · exact .refl _
  · exact .inr ⟨more ++ before, after, by simp [String.append_assoc], by simp [String.append_assoc]⟩

theorem append_right (h : Exchanges content content' text text') (more : String) :
    Exchanges content content' (text ++ more) (text' ++ more) := by
  rcases h with rfl | ⟨before, after, rfl, rfl⟩
  · exact .refl _
  · exact .inr ⟨before, after ++ more, by simp [String.append_assoc], by simp [String.append_assoc]⟩

theorem between (h : Exchanges content content' text text') (before after : String) :
    Exchanges content content' (before ++ text ++ after) (before ++ text' ++ after) :=
  (h.append_left before).append_right after

end Exchanges

end Datacube.Rasql
