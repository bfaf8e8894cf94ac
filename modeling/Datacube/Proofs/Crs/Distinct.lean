import Datacube.Coverage
import Mathlib.Data.List.Induction
import Mathlib.Data.List.Nodup
import Mathlib.Order.Nat

-- Lists of names with their repetitions left out: which members stay, in which order, and which of
-- them is found first.
namespace Datacube

-- The members of a list without repetition, in the order in which they come up first.
structure FirstOccurrences (names kept : List String) : Prop where
  nodup : kept.Nodup
  mem_iff : ∀ name, name ∈ kept ↔ name ∈ names
  ordered : kept.Pairwise fun a b => names.idxOf a < names.idxOf b

variable {names kept : List String} {name : String}

theorem distinct_concat (names : List String) (name : String) :
    distinct (names ++ [name]) =
      if name ∈ distinct names then distinct names else distinct names ++ [name] := by
  rw [distinct, List.foldl_append]
  rfl

-- A further name does not move the first occurrences.
theorem FirstOccurrences.pairwise_concat (h : FirstOccurrences names kept) (name : String) :
    kept.Pairwise fun a b => (names ++ [name]).idxOf a < (names ++ [name]).idxOf b := by
  refine h.ordered.imp_of_mem fun {a b} ha hb hlt => ?_
  rwa [List.idxOf_append_of_mem ((h.mem_iff a).mp ha),
    List.idxOf_append_of_mem ((h.mem_iff b).mp hb)]

theorem FirstOccurrences.again (h : FirstOccurrences names kept) (hname : name ∈ kept) :
    FirstOccurrences (names ++ [name]) kept where
  nodup := h.nodup
  mem_iff other := by
    rw [h.mem_iff, List.mem_append, List.mem_singleton]
    exact ⟨.inl, fun hother => hother.elim id fun heq => heq ▸ (h.mem_iff name).mp hname⟩
  ordered := h.pairwise_concat name

theorem FirstOccurrences.concat (h : FirstOccurrences names kept) (hname : name ∉ kept) :
    FirstOccurrences (names ++ [name]) (kept ++ [name]) where
  nodup := List.nodup_append.mpr ⟨h.nodup, List.pairwise_singleton _ name, fun a ha b hb heq =>
    hname (List.mem_singleton.mp hb ▸ heq ▸ ha)⟩
  mem_iff other := by simp [h.mem_iff]
  ordered := by
    rw [List.pairwise_append]
    refine ⟨h.pairwise_concat name, List.pairwise_singleton _ _, fun a ha b hb => ?_⟩
    obtain rfl := List.mem_singleton.mp hb
    have hmem := (h.mem_iff a).mp ha
    have hnew : b ∉ names := fun hb => hname ((h.mem_iff b).mpr hb)
    rw [List.idxOf_append_of_mem hmem, List.idxOf_append_of_notMem hnew]
    exact (List.idxOf_lt_length_of_mem hmem).trans_le (Nat.le_add_right _ _)

theorem firstOccurrences_distinct (names : List String) :
    FirstOccurrences names (distinct names) := by
  induction names using List.reverseRecOn with
  | nil => exact ⟨List.nodup_nil, fun _ => Iff.rfl, .nil⟩
  | append_singleton names name ih =>
      rw [distinct_concat]
      split
      · next hname => exact ih.again hname
      · next hname => exact ih.concat hname

theorem distinct_of_nodup (h : names.Nodup) : distinct names = names := by
  induction names using List.reverseRecOn with
  | nil => rfl
  | append_singleton names name ih =>
      obtain ⟨hnodup, -, hnew⟩ := List.nodup_append.mp h
      have hname : name ∉ names := fun hmem => hnew name hmem name (List.mem_singleton_self name) rfl
      rw [distinct_concat, ih hnodup, if_neg hname]

-- What is looked for is found where it comes up first.
theorem find?_distinct (p : String → Bool) (names : List String) :
    (distinct names).find? p = names.find? p := by
  induction names using List.reverseRecOn with
  | nil => rfl
  | append_singleton names name ih =>
      rw [distinct_concat, List.find?_append]
      split
      · next hname =>
        have hearlier : name ∈ names := ((firstOccurrences_distinct names).mem_iff name).mp hname
        cases hfound : names.find? p with
        | some crs => rw [ih, hfound, Option.some_or]
        | none =>
            have hp : p name ≠ true := List.find?_eq_none.mp hfound name hearlier
            rw [ih, hfound, Option.none_or, List.find?_singleton, if_neg hp]
      · rw [List.find?_append, ih]

end Datacube
