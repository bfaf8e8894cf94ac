import Datacube.Text.Blank
import Mathlib.Data.List.DropRight

-- Trimming a text leaves nothing more to trim.
namespace Datacube.Text

theorem stripEnds_eq (p : Char → Bool) (cs : List Char) :
    stripEnds p cs = (cs.dropWhile p).rdropWhile p := rfl

theorem dropWhile_stripEnds (p : Char → Bool) (cs : List Char) :
    (stripEnds p cs).dropWhile p = stripEnds p cs := by
  rw [stripEnds_eq, List.dropWhile_eq_self_iff]
  intro hpos
  -- What is left starts as the list without its first blanks does.
  have hstart : (cs.dropWhile p).rdropWhile p <+: cs.dropWhile p := List.rdropWhile_prefix p _
  rw [hstart.getElem hpos]
  exact List.dropWhile_get_zero_not p cs (hpos.trans_le hstart.length_le)

theorem stripEnds_stripEnds (p : Char → Bool) (cs : List Char) :
    stripEnds p (stripEnds p cs) = stripEnds p cs := by
  rw [stripEnds_eq p (stripEnds p cs), dropWhile_stripEnds, stripEnds_eq,
    List.rdropWhile_idempotent]

theorem trim_trim (s : String) : trim (trim s) = trim s := by
  simp [trim, trimChars, stripEnds_stripEnds]

-- What is not blank stays.
theorem mem_stripEnds {p : Char → Bool} {cs : List Char} {c : Char} (hc : c ∈ cs)
    (hkept : p c = false) : c ∈ stripEnds p cs := by
  have hdrop : ∀ {ds : List Char}, c ∈ ds → c ∈ ds.dropWhile p := by
    intro ds hds
    rw [← List.takeWhile_append_dropWhile (p := p) (l := ds), List.mem_append] at hds
    rcases hds with hds | hds
    · simp [List.mem_takeWhile_imp hds] at hkept
    · exact hds
  rw [stripEnds, List.mem_reverse]
  exact hdrop (List.mem_reverse.mpr (hdrop hc))

theorem mem_of_mem_stripEnds {p : Char → Bool} {cs : List Char} {c : Char}
    (h : c ∈ stripEnds p cs) : c ∈ cs := by
  rw [stripEnds_eq] at h
  exact (List.dropWhile_suffix p).mem ((List.rdropWhile_prefix p _).mem h)

theorem trim_ne_empty {s : String} {c : Char} (hc : c ∈ s.toList) (hkept : isBlank c = false) :
    trim s ≠ "" := by
  intro hempty
  have hmem : c ∈ (trim s).toList := by
    rw [trim, String.toList_ofList]
    exact mem_stripEnds hc hkept
  simp [hempty] at hmem

-- Where no end is to be dropped, nothing is.
theorem stripEnds_of_ends {p : Char → Bool} {cs : List Char}
    (hfirst : ∀ c, cs.head? = some c → p c = false)
    (hlast : ∀ c, cs.getLast? = some c → p c = false) : stripEnds p cs = cs := by
  have hdrop : ∀ ds : List Char, (∀ c, ds.head? = some c → p c = false) → ds.dropWhile p = ds := by
    intro ds hds
    cases ds with
    | nil => rfl
    | cons c ds => simp [hds c rfl]
  rw [stripEnds, hdrop cs hfirst, hdrop cs.reverse (by simpa using hlast), List.reverse_reverse]

theorem stripEnds_eq_self_iff {p : Char → Bool} {cs : List Char} :
    stripEnds p cs = cs ↔
      (∀ c, cs.head? = some c → p c = false) ∧ ∀ c, cs.getLast? = some c → p c = false := by
  refine ⟨fun h => ?_, fun h => stripEnds_of_ends h.1 h.2⟩
  have hstart : cs.dropWhile p = cs := h ▸ dropWhile_stripEnds p cs
  have hend : cs.rdropWhile p = cs := by rwa [stripEnds_eq, hstart] at h
  refine ⟨fun c hc => ?_, fun c hc => ?_⟩
  · obtain ⟨rest, rfl⟩ := List.head?_eq_some_iff.mp hc
    simpa using List.dropWhile_eq_self_iff.mp hstart
  · obtain ⟨before, rfl⟩ := List.getLast?_eq_some_iff.mp hc
    simpa using List.rdropWhile_eq_self_iff.mp hend

-- What stays at the ends also stays when less is dropped.
theorem stripEnds_eq_self_mono {p q : Char → Bool} {cs : List Char} (h : stripEnds p cs = cs)
    (hqp : ∀ c, p c = false → q c = false) : stripEnds q cs = cs := by
  obtain ⟨hfirst, hlast⟩ := stripEnds_eq_self_iff.mp h
  exact stripEnds_of_ends (fun c hc => hqp c (hfirst c hc)) fun c hc => hqp c (hlast c hc)

-- What is added to the ends only to be dropped makes no difference.
theorem stripEnds_around {p : Char → Bool} {before cs after : List Char}
    (hbefore : ∀ c ∈ before, p c = true) (hafter : ∀ c ∈ after, p c = true) :
    stripEnds p (before ++ cs ++ after) = stripEnds p cs := by
  rw [stripEnds, List.append_assoc, List.dropWhile_append_of_pos hbefore, List.dropWhile_append]
  split
  · next hnone =>
    rw [List.dropWhile_eq_nil_iff.mpr hafter, stripEnds, List.isEmpty_iff.mp hnone]
  · rw [List.reverse_append, List.dropWhile_append_of_pos (by simpa using hafter), stripEnds]

theorem trim_of_not_blank {s : String} (h : ∀ c ∈ s.toList, isBlank c = false) : trim s = s := by
  have hkept : stripEnds isBlank s.toList = s.toList :=
    stripEnds_of_ends (fun c hc => h c (List.mem_of_head? hc))
      fun c hc => h c (List.mem_of_getLast? hc)
  rw [trim, trimChars, hkept, String.ofList_toList]

theorem trimmed_trimChars (cs : List Char) : Trimmed (String.ofList (trimChars cs)) := by
  simp [Trimmed, trim, trimChars, stripEnds_stripEnds]

theorem Trimmed.trimChars_eq {s : String} (h : Trimmed s) : trimChars s.toList = s.toList :=
  String.ofList_injective (h.trans String.ofList_toList.symm)

theorem Trimmed.head_not_blank {s : String} (h : Trimmed s) {c : Char}
    (hc : s.toList.head? = some c) : isBlank c = false :=
  (stripEnds_eq_self_iff.mp h.trimChars_eq).1 c hc

end Datacube.Text
