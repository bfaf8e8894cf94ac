import Datacube.Proofs.Text.Characters
import Datacube.Proofs.Text.Pieces
import Datacube.Proofs.Text.Trim
import Datacube.Subset

-- Subsets as they are written in requests, and how they are read back.
namespace Datacube.Subset

open Text (All Trimmed isBlank)

-- The axis, with the reference system behind it if there is one.
def head (s : Subset) : String :=
  match s.crs with
  | some crs => s.axis ++ "," ++ crs
  | none => s.axis

-- The text of a subset, its reference system included.
def written (s : Subset) : String :=
  s.head ++ "(" ++ Selection.text s.selection ++ ")"

def IsBound (text : String) : Prop :=
  text ≠ "" ∧ Trimmed text ∧ ',' ∉ text.toList

-- What a subset needs to be cut at the right places when its text is read. A bound may hold
-- parentheses, and the name of a reference system commas.
structure Readable (s : Subset) : Prop where
  axis_ne : s.axis ≠ ""
  axis_trimmed : Trimmed s.axis
  axis_uncut : '(' ∉ s.axis.toList ∧ ',' ∉ s.axis.toList
  crs : ∀ crs ∈ s.crs, Trimmed crs ∧ '(' ∉ crs.toList
  bounds : IsBound s.bounds.1 ∧ IsBound s.bounds.2

-- A comma may stand in place of the name of the axis.
structure Separable (s : Subset) : Prop where
  axis_ne : s.crs = none → s.axis ≠ ""
  axis_trimmed : Trimmed s.axis
  axis_uncut : '(' ∉ s.axis.toList ∧ ',' ∉ s.axis.toList
  crs : ∀ crs ∈ s.crs, Trimmed crs ∧ '(' ∉ crs.toList
  bounds : IsBound s.bounds.1 ∧ IsBound s.bounds.2

theorem Readable.separable {s : Subset} (h : s.Readable) : s.Separable :=
  ⟨fun _ => h.axis_ne, h.axis_trimmed, h.axis_uncut, h.crs, h.bounds⟩

section Parts

variable {s : Subset}

theorem Separable.head_ne (h : s.Separable) : s.head ≠ "" := by
  unfold head
  split
  · simp
  · next hcrs => exact h.axis_ne hcrs

theorem Separable.head_uncut (h : s.Separable) : '(' ∉ s.head.toList := by
  have haxis := h.axis_uncut.1
  unfold head
  split
  · next crs hcrs => simp [haxis, (h.crs crs hcrs).2]
  · exact haxis

theorem Separable.parseHead_head (h : s.Separable) :
    parseHead s.head.toList = (s.axis, s.crs) := by
  have haxis := h.axis_trimmed.trimChars_eq
  unfold parseHead head
  cases hcrs : s.crs with
  | none => simp [Text.cut_of_not_mem h.axis_uncut.2, haxis]
  | some crs =>
      have hcut := Text.cut_append h.axis_uncut.2 crs.toList
      simp [hcut, haxis, (h.crs crs hcrs).1.trimChars_eq]

-- The head begins with the axis or, without one, with the comma behind it.
theorem Separable.head_not_blank (h : s.Separable) {c : Char} (hc : s.head.toList.head? = some c) :
    isBlank c = false := by
  cases haxis : s.axis.toList with
  | nil =>
      obtain ⟨crs, hcrs⟩ := Option.ne_none_iff_exists'.mp fun hnone =>
        h.axis_ne hnone (String.toList_eq_nil_iff.mp haxis)
      obtain rfl : ',' = c := by simpa [head, hcrs, haxis] using hc
      decide
  | cons d cs =>
      refine h.axis_trimmed.head_not_blank ?_
      unfold head at hc
      split at hc <;> simpa [haxis] using hc

theorem parseSelection_slice {point : String} (h : IsBound point) :
    parseSelection point.toList = some (.slice point) := by
  obtain ⟨hne, htrimmed, huncut⟩ := h
  have hpieces : Text.pieces ',' ([','].intercalate [point.toList]) = [point.toList] :=
    Text.pieces_intercalate (List.cons_ne_nil _ _) (by simpa using huncut)
  rw [List.intercalate_singleton] at hpieces
  simp [parseSelection, hpieces, htrimmed.trimChars_eq, hne]

theorem parseSelection_trim {low high : String} (hlow : IsBound low) (hhigh : IsBound high) :
    parseSelection (low.toList ++ ',' :: high.toList) = some (.trim low high) := by
  obtain ⟨hlow_ne, hlow_trimmed, hlow_uncut⟩ := hlow
  obtain ⟨hhigh_ne, hhigh_trimmed, hhigh_uncut⟩ := hhigh
  have hpieces : Text.pieces ',' ([','].intercalate [low.toList, high.toList]) =
      [low.toList, high.toList] :=
    Text.pieces_intercalate (List.cons_ne_nil _ _) (by simpa using ⟨hlow_uncut, hhigh_uncut⟩)
  rw [List.intercalate_cons_cons, List.intercalate_singleton, List.append_assoc,
    List.singleton_append] at hpieces
  simp [parseSelection, hpieces, hlow_trimmed.trimChars_eq, hhigh_trimmed.trimChars_eq, hlow_ne,
    hhigh_ne]

theorem Separable.parseSelection_text (h : s.Separable) :
    parseSelection (Selection.text s.selection).toList = some s.selection := by
  obtain ⟨hlow, hhigh⟩ := h.bounds
  unfold Subset.bounds at hlow hhigh
  cases hselection : s.selection with
  | slice point =>
      rw [hselection] at hlow
      exact parseSelection_slice hlow
  | trim low high =>
      rw [hselection] at hlow hhigh
      simpa [Selection.text] using parseSelection_trim hlow hhigh

-- The text begins with the head and ends with a parenthesis.
theorem Separable.trimChars_written (h : s.Separable) :
    Text.trimChars s.written.toList = s.written.toList := by
  refine Text.stripEnds_of_ends (fun c hc => h.head_not_blank ?_) fun c hc => ?_
  · obtain ⟨d, cs, hcs⟩ := List.exists_cons_of_ne_nil (l := s.head.toList) (by simpa using h.head_ne)
    simpa [written, hcs] using hc
  · have hend : s.written.toList.getLast? = some ')' := by
      rw [written, String.toList_append]
      exact List.getLast?_concat
    obtain rfl : ')' = c := Option.some.inj (hend.symm.trans hc)
    decide

end Parts

-- Blanks around the text do not matter.
theorem parse_around {before after : String} (hbefore : All (isBlank · = true) before)
    (hafter : All (isBlank · = true) after) (text : String) :
    parse (before ++ text ++ after) = parse text := by
  have htrim : Text.trimChars (before ++ text ++ after).toList = Text.trimChars text.toList := by
    rw [String.toList_append, String.toList_append]
    exact Text.stripEnds_around hbefore hafter
  simp only [parse, htrim]

theorem parse_written {s : Subset} (h : s.Separable) : parse s.written = .ok s := by
  have hhead : s.head.toList ≠ [] := by simpa using h.head_ne
  have hcut : Text.cut '(' s.written.toList =
      some (s.head.toList, (Selection.text s.selection).toList ++ [')']) := by
    simpa [written] using Text.cut_append h.head_uncut ((Selection.text s.selection).toList ++ [')'])
  simp [parse, h.trimChars_written, hcut, hhead, beforeClose, h.parseSelection_text,
    h.parseHead_head]

-- A readable subset is read back from its text with any blanks around it. Without a reference
-- system this is the text that it is shown with.
theorem readable_decoded (s : Subset) (h : s.Readable) :
    (∀ before after, All (isBlank · = true) before → All (isBlank · = true) after →
      parse (before ++ s.written ++ after) = .ok s) ∧
    (s.crs = none → parse s.text = .ok s) := by
  refine ⟨fun before after hbefore hafter => ?_, fun hcrs => ?_⟩
  · rw [parse_around hbefore hafter, parse_written h.separable]
  · have htext : s.text = s.written := by simp [text, written, head, hcrs]
    rw [htext, parse_written h.separable]

-- Commas in the reference system, parentheses and quotes in the bounds, and blanks around it all.
def rotatedTrim : Subset where
  axis := "Lat"
  crs := some "rotated,45"
  selection := .trim "\"f(1)\"" "*)"

theorem readable_decoded_rotated :
    rotatedTrim.Readable ∧
    All (isBlank · = true) "\t " ∧ All (isBlank · = true) "\n" ∧
    parse "\t Lat,rotated,45(\"f(1)\",*))\n" = .ok rotatedTrim ∧
    (Subset.slice "t" "2010").Readable ∧ parse "t(2010)" = .ok (Subset.slice "t" "2010") := by
  have hbound : ∀ text, text ≠ "" → Text.trim text = text → ',' ∉ text.toList → IsBound text :=
    fun _ hne htrimmed huncut => ⟨hne, htrimmed, huncut⟩
  have hrotated : rotatedTrim.Readable := by
    refine ⟨by decide, (by decide +kernel : Text.trim "Lat" = "Lat"), by decide, ?_, ?_⟩
    · intro crs hcrs
      obtain rfl : "rotated,45" = crs := Option.some.inj hcrs
      exact ⟨(by decide +kernel : Text.trim "rotated,45" = "rotated,45"), by decide⟩
    · exact ⟨hbound _ (by decide) (by decide +kernel) (by decide),
        hbound _ (by decide) (by decide +kernel) (by decide)⟩
  have hslice : (Subset.slice "t" "2010").Readable := by
    refine ⟨by decide, (by decide +kernel : Text.trim "t" = "t"), by decide, nofun, ?_⟩
    exact ⟨hbound _ (by decide) (by decide +kernel) (by decide),
      hbound _ (by decide) (by decide +kernel) (by decide)⟩
  exact ⟨hrotated, by decide, by decide,
    (readable_decoded rotatedTrim hrotated).1 "\t " "\n" (by decide) (by decide), hslice,
    (readable_decoded _ hslice).2 rfl⟩

end Datacube.Subset
