import Datacube.Proofs.Text.Replace

-- Texts that are cut at a separator or at a mark: where the cuts fall, and that they find the parts
-- again that were joined.
namespace Datacube.Text

variable {sep : Char} {cs before after piece : List Char}

theorem cut_of_not_mem (h : sep ∉ cs) : cut sep cs = none := by
  induction cs with
  | nil => rfl
  | cons c cs ih =>
      rw [List.mem_cons, not_or] at h
      rw [cut, if_neg (Ne.symm h.1), ih h.2, Option.map_none]

-- The cut is at the first separator.
theorem cut_append (h : sep ∉ before) (after : List Char) :
    cut sep (before ++ sep :: after) = some (before, after) := by
  induction before with
  | nil => simp [cut]
  | cons c before ih =>
      rw [List.mem_cons, not_or] at h
      rw [List.cons_append, cut, if_neg (Ne.symm h.1), ih h.2, Option.map_some]

theorem cut_eq_none_iff : cut sep cs = none ↔ sep ∉ cs := by
  refine ⟨fun h hsep => ?_, cut_of_not_mem⟩
  obtain ⟨first, rest, rfl, hfirst⟩ := List.eq_append_cons_of_mem hsep
  simp [cut_append hfirst] at h

theorem cut_eq_some_iff :
    cut sep cs = some (before, after) ↔ cs = before ++ sep :: after ∧ sep ∉ before := by
  constructor
  · intro h
    have hsep : sep ∈ cs := by
      refine Decidable.byContradiction fun hsep => ?_
      simp [cut_of_not_mem hsep] at h
    obtain ⟨first, rest, rfl, hfirst⟩ := List.eq_append_cons_of_mem hsep
    rw [cut_append hfirst, Option.some.injEq, Prod.mk.injEq] at h
    obtain ⟨rfl, rfl⟩ := h
    exact ⟨rfl, hfirst⟩
  · rintro ⟨rfl, hbefore⟩
    exact cut_append hbefore after

theorem pieces_eq_splitOn (sep : Char) (cs : List Char) : pieces sep cs = cs.splitOn sep := by
  induction cs with
  | nil => rfl
  | cons c cs ih =>
      have hcons : (c :: cs).splitOn sep =
          if (c == sep) = true then [] :: cs.splitOn sep
          else (cs.splitOn sep).modifyHead (c :: ·) := List.splitOnP_cons_eq_if_modifyHead c cs
      obtain ⟨p, ps, hrest⟩ := List.exists_cons_of_ne_nil (List.splitOn_ne_nil sep cs)
      rw [pieces, ih, hcons, hrest]
      simp

theorem not_mem_of_mem_pieces (h : piece ∈ pieces sep cs) : sep ∉ piece := by
  induction cs generalizing piece with
  | nil =>
      obtain rfl := List.mem_singleton.mp h
      exact List.not_mem_nil
  | cons c cs ih =>
      rw [pieces] at h
      split at h
      · rcases List.mem_cons.mp h with rfl | h
        · exact List.not_mem_nil
        · exact ih h
      · next hc =>
        -- The character belongs to the first of the pieces of the rest.
        split at h
        · obtain rfl := List.mem_singleton.mp h
          exact List.not_mem_cons_of_ne_of_not_mem (Ne.symm hc) List.not_mem_nil
        · next first more hpieces =>
          have hfirst : sep ∉ first := ih (by simp [hpieces])
          rcases List.mem_cons.mp h with rfl | h
          · exact List.not_mem_cons_of_ne_of_not_mem (Ne.symm hc) hfirst
          · exact ih (by simp [hpieces, h])

-- The pieces of a text that was joined from parts.
theorem pieces_intercalate {parts : List (List Char)} (hne : parts ≠ [])
    (h : ∀ p ∈ parts, sep ∉ p) : pieces sep ([sep].intercalate parts) = parts := by
  rw [pieces_eq_splitOn, List.splitOn_intercalate sep h hne]

section Mark

variable {first : Char} {mark more rest : List Char}

-- The mark begins nowhere in the text, not even to go on in what follows.
def Unmarked (mark cs rest : List Char) : Prop :=
  ∀ tail ∈ cs.tails, tail ≠ [] → ¬mark <+: tail ++ rest

instance : Decidable (Unmarked mark cs rest) :=
  inferInstanceAs (Decidable (∀ tail ∈ cs.tails, tail ≠ [] → ¬mark <+: tail ++ rest))

@[simp] theorem unmarked_nil : Unmarked mark [] rest := by
  simp [Unmarked]

@[simp] theorem unmarked_cons {c : Char} :
    Unmarked mark (c :: cs) rest ↔ ¬mark <+: c :: (cs ++ rest) ∧ Unmarked mark cs rest := by
  simp [Unmarked]

-- In front of the mark itself nothing is in doubt, as long as the mark cannot overlap with itself.
theorem unmarked_mark_iff (h : first ∉ more) :
    Unmarked (first :: more) cs (first :: rest) ↔ ¬first :: more <:+: cs := by
  induction cs with
  | nil => simp
  | cons c cs ih =>
      have hprefix : more <+: cs ++ first :: rest ↔ more <+: cs :=
        ⟨prefix_of_prefix_append h, fun hmore => hmore.trans (List.prefix_append _ _)⟩
      rw [unmarked_cons, ih, List.infix_cons_iff, not_or, List.cons_prefix_cons,
        List.cons_prefix_cons, hprefix]

theorem cutMark_mark : cutMark mark (mark ++ after) = some ([], after) := by
  have hstart : afterStart mark (mark ++ after) = some after := afterStart_eq_some_iff.mpr rfl
  cases hcs : mark ++ after with
  | nil => rw [cutMark, ← hcs, hstart, Option.map_some]
  | cons c cs => rw [cutMark, ← hcs, hstart]

theorem cutMark_cons {c : Char} (h : ¬mark <+: c :: cs) :
    cutMark mark (c :: cs) =
      (cutMark mark cs).map fun (before, after) => (c :: before, after) := by
  rw [cutMark, afterStart_eq_none_iff.mpr h]

theorem cutMark_append (h : Unmarked mark before (mark ++ after)) :
    cutMark mark (before ++ (mark ++ after)) = some (before, after) := by
  induction before with
  | nil => exact cutMark_mark
  | cons c before ih =>
      obtain ⟨hstart, hrest⟩ := unmarked_cons.mp h
      rw [List.cons_append, cutMark_cons hstart, ih hrest, Option.map_some]

theorem cutMark_eq_none_iff : cutMark mark cs = none ↔ ¬mark <:+: cs := by
  induction cs with
  | nil => simp [cutMark, afterStart_eq_none_iff]
  | cons c cs ih =>
      rw [List.infix_cons_iff, not_or, ← ih]
      by_cases hstart : mark <+: c :: cs
      · obtain ⟨rest, hrest⟩ := hstart
        simp [← hrest, cutMark_mark]
      · rw [cutMark_cons hstart, Option.map_eq_none_iff, and_iff_right hstart]

-- The cut is at the first occurrence of the mark.
theorem cutMark_eq_some_iff (h : first ∉ more) :
    cutMark (first :: more) cs = some (before, after) ↔
      cs = before ++ (first :: more ++ after) ∧ ¬first :: more <:+: before := by
  constructor
  · intro hcut
    induction cs generalizing before with
    | nil => simp [cutMark, afterStart] at hcut
    | cons c cs ih =>
        by_cases hstart : first :: more <+: c :: cs
        · obtain ⟨rest, hrest⟩ := hstart
          rw [← hrest, cutMark_mark, Option.some.injEq, Prod.mk.injEq] at hcut
          obtain ⟨rfl, rfl⟩ := hcut
          exact ⟨hrest.symm, by simp⟩
        · rw [cutMark_cons hstart] at hcut
          obtain ⟨⟨before', after'⟩, hcut', heq⟩ := Option.map_eq_some_iff.mp hcut
          obtain ⟨rfl, rfl⟩ := Prod.mk.inj heq
          obtain ⟨rfl, hfirst⟩ := ih hcut'
          refine ⟨rfl, ?_⟩
          rw [List.infix_cons_iff, not_or]
          refine ⟨fun hprefix => hstart ?_, hfirst⟩
          exact hprefix.trans (by simp)
  · rintro ⟨rfl, hfirst⟩
    exact cutMark_append ((unmarked_mark_iff h).mpr hfirst)

end Mark

end Datacube.Text
