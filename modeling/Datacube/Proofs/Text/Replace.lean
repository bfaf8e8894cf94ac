import Datacube.Text.Pieces
import Mathlib.Data.List.Basic
import Mathlib.Data.List.Infix

-- Replacing a mark in a text, part by part.
namespace Datacube.Text

variable {first : Char} {more value cs rest : List Char}

theorem afterStart_eq_some_iff {start cs rest : List Char} :
    afterStart start cs = some rest ↔ cs = start ++ rest := by
  induction start generalizing cs with
  | nil => simp [afterStart]
  | cons p start ih =>
      cases cs with
      | nil => simp [afterStart]
      | cons c cs =>
          by_cases hp : p = c
          · simp [afterStart, hp, ih]
          · simp [afterStart, hp, Ne.symm hp]

theorem afterStart_eq_none_iff {start cs : List Char} :
    afterStart start cs = none ↔ ¬start <+: cs := by
  rw [Option.eq_none_iff_forall_ne_some]
  constructor
  · rintro h ⟨rest, rfl⟩
    exact h rest (afterStart_eq_some_iff.mpr rfl)
  · intro h rest hrest
    exact h ⟨rest, (afterStart_eq_some_iff.mp hrest).symm⟩

@[simp] theorem replaceMark_nil : replaceMark first more value [] = [] := by
  rw [replaceMark]

theorem replaceMark_mark :
    replaceMark first more value (first :: more ++ rest) =
      value ++ replaceMark first more value rest := by
  rw [List.cons_append, replaceMark]
  split
  · next after hafter =>
    rw [List.append_cancel_left (afterStart_eq_some_iff.mp hafter)]
  · next hafter => exact absurd (List.prefix_append _ _) (afterStart_eq_none_iff.mp hafter)

theorem replaceMark_cons {c : Char} (h : ¬first :: more <+: c :: rest) :
    replaceMark first more value (c :: rest) = c :: replaceMark first more value rest := by
  rw [replaceMark]
  split
  · next after hafter => exact absurd ⟨after, (afterStart_eq_some_iff.mp hafter).symm⟩ h
  · rfl

-- Where the mark does not begin, nothing changes.
theorem replaceMark_append_of_not_mem (h : first ∉ cs) :
    replaceMark first more value (cs ++ rest) = cs ++ replaceMark first more value rest := by
  induction cs with
  | nil => rfl
  | cons c cs ih =>
      rw [List.mem_cons, not_or] at h
      rw [List.cons_append, replaceMark_cons, ih h.2, List.cons_append]
      exact fun hstart => h.1 (List.cons_prefix_cons.mp hstart).1

-- A mark that begins in a text ends in it if what follows does not go on with the mark.
theorem prefix_of_prefix_append {c : Char} {mark : List Char} (hc : c ∉ mark)
    (h : mark <+: cs ++ c :: rest) : mark <+: cs := by
  by_cases hlength : mark.length ≤ cs.length
  · exact List.prefix_of_prefix_length_le h (List.prefix_append _ _) hlength
  · -- Otherwise the mark would hold the character behind the text.
    refine absurd ?_ hc
    have hget := h.getElem (i := cs.length) (by omega)
    simp only [List.getElem_append_right le_rfl, Nat.sub_self, List.getElem_cons_zero] at hget
    exact hget ▸ List.getElem_mem _

theorem replaceMark_append_cons {c : Char} (hfirst : c ≠ first) (hc : c ∉ more) :
    replaceMark first more value (cs ++ c :: rest) =
      replaceMark first more value cs ++ replaceMark first more value (c :: rest) := by
  have hmark : c ∉ first :: more := by simp [hfirst, hc]
  fun_induction replaceMark first more value cs with
  | case1 => simp
  | case2 d tail after hafter ih =>
      have hsplit := afterStart_eq_some_iff.mp hafter
      rw [hsplit, List.append_assoc, replaceMark_mark, ih, List.append_assoc]
  | case3 d tail hafter ih =>
      have hnone : ¬first :: more <+: d :: (tail ++ c :: rest) := fun h =>
        afterStart_eq_none_iff.mp hafter (prefix_of_prefix_append hmark h)
      rw [List.cons_append, replaceMark_cons hnone, ih, List.cons_append]

-- A mark occurs behind a text in which it does not begin.
theorem infix_append_of_not_mem (h : first ∉ cs) :
    first :: more <:+: cs ++ rest ↔ first :: more <:+: rest := by
  induction cs with
  | nil => simp
  | cons c cs ih =>
      rw [List.mem_cons, not_or] at h
      simp [List.infix_cons_iff, List.cons_prefix_cons, h.1, ih h.2]

-- Without an occurrence of the mark nothing is replaced.
theorem replaceMark_of_not_infix (h : ¬first :: more <:+: cs) :
    replaceMark first more value cs = cs := by
  induction cs with
  | nil => exact replaceMark_nil
  | cons c cs ih =>
      rw [List.infix_cons_iff, not_or] at h
      rw [replaceMark_cons h.1, ih h.2]

-- An occurrence makes the text longer if the value is longer than the mark.
theorem length_le_replaceMark (hlonger : more.length < value.length) :
    cs.length ≤ (replaceMark first more value cs).length := by
  fun_induction replaceMark first more value cs with
  | case1 => simp
  | case2 c tail after hafter ih =>
      have hsplit := length_afterStart hafter
      simp only [List.length_cons] at hsplit
      simp only [List.length_cons, List.length_append]
      omega
  | case3 c tail hafter ih => simpa using ih

theorem length_lt_replaceMark (hlonger : more.length + 1 < value.length)
    (h : first :: more <:+: cs) : cs.length < (replaceMark first more value cs).length := by
  obtain ⟨before, after, rfl⟩ := h
  induction before with
  | nil =>
      have hafter := @length_le_replaceMark first more value after (by omega)
      rw [List.nil_append, replaceMark_mark]
      simp only [List.length_append, List.length_cons]
      omega
  | cons c before ih =>
      by_cases hstart : first :: more <+: c :: (before ++ first :: more ++ after)
      · -- The mark begins even earlier.
        obtain ⟨tail, htail⟩ := hstart
        have htail' := @length_le_replaceMark first more value tail (by omega)
        have hlength := congrArg List.length htail
        rw [List.cons_append, List.cons_append, ← htail, replaceMark_mark]
        simp only [List.length_append, List.length_cons]
        omega
      · rw [List.cons_append, List.cons_append, replaceMark_cons hstart]
        simpa using ih

end Datacube.Text
