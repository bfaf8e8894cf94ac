import Datacube.Proofs.Subset.Written

-- The subsets that reading gives. Written again, each is cut at the same places.
namespace Datacube.Subset

open Text (Trimmed isBlank trimChars)

variable {text axis : String} {crs : Option String} {s : Subset} {head body rest : List Char}

theorem beforeClose_eq_some_iff : beforeClose rest = some body ↔ rest = body ++ [')'] := by
  unfold beforeClose
  constructor
  · intro h
    split at h
    · next hlast => rw [← Option.some.inj h, List.dropLast_append_getLast? ')' hlast]
    · cases h
  · rintro rfl
    simp

-- A text is read if it has a head, an opening parenthesis, bounds and a closing one.
theorem parse_eq_ok_iff : parse text = .ok s ↔ ∃ head body,
    trimChars text.toList = head ++ '(' :: (body ++ [')']) ∧ '(' ∉ head ∧ head ≠ [] ∧
      parseHead head = (s.axis, s.crs) ∧ parseSelection body = some s.selection := by
  simp only [parse]
  constructor
  · intro h
    split at h
    · next read hread =>
      obtain rfl := Except.ok.inj h
      obtain ⟨⟨head, rest⟩, hcut, hread⟩ := Option.bind_eq_some_iff.mp hread
      obtain ⟨hcs, hhead⟩ := Text.cut_eq_some_iff.mp hcut
      by_cases hne : head = []
      · simp [hne] at hread
      · simp only [hne, if_false, Option.bind_eq_bind, Option.bind_eq_some_iff] at hread
        obtain ⟨body, hbody, selection, hselection, hread⟩ := hread
        obtain rfl := Option.some.inj hread
        exact ⟨head, body, by rw [hcs, beforeClose_eq_some_iff.mp hbody], hhead, hne, rfl,
          hselection⟩
    · cases h
  · rintro ⟨head, body, hcs, hhead, hne, haxis, hselection⟩
    have hcut := Text.cut_eq_some_iff.mpr ⟨hcs, hhead⟩
    have hbody := beforeClose_eq_some_iff.mpr (rfl : body ++ [')'] = body ++ [')'])
    simp [hcut, hne, hbody, haxis, hselection]

section Parts

theorem isBound_trimChars {piece : List Char} (h : piece ∈ Text.pieces ',' body)
    (hne : trimChars piece ≠ []) : IsBound (String.ofList (trimChars piece)) := by
  refine ⟨by simpa using hne, Text.trimmed_trimChars piece, fun hmem => ?_⟩
  rw [String.toList_ofList] at hmem
  exact Text.not_mem_of_mem_pieces h (Text.mem_of_mem_stripEnds hmem)

theorem isBound_of_parseSelection (h : parseSelection body = some s.selection) :
    IsBound s.bounds.1 ∧ IsBound s.bounds.2 := by
  have hbound : ∀ bound ∈ (Text.pieces ',' body).map trimChars, bound ≠ [] →
      IsBound (String.ofList bound) := by
    intro bound hmem hne
    obtain ⟨piece, hpiece, rfl⟩ := List.mem_map.mp hmem
    exact isBound_trimChars hpiece hne
  unfold parseSelection at h
  unfold Subset.bounds
  split at h
  · next point hpoint =>
    split at h
    · cases h
    · next hne =>
      rw [← Option.some.inj h]
      have hslice := hbound point (by simp [hpoint]) hne
      exact ⟨hslice, hslice⟩
  · next low high hbounds =>
    split at h
    · cases h
    · next hne =>
      obtain ⟨hlow, hhigh⟩ := not_or.mp hne
      rw [← Option.some.inj h]
      exact ⟨hbound low (by simp [hbounds]) hlow, hbound high (by simp [hbounds]) hhigh⟩
  · cases h

theorem uncut_of_parseHead (huncut : '(' ∉ head) (h : parseHead head = (axis, crs)) :
    Trimmed axis ∧ ('(' ∉ axis.toList ∧ ',' ∉ axis.toList) ∧
      ∀ name ∈ crs, Trimmed name ∧ '(' ∉ name.toList := by
  have hkept : ∀ {c : Char} {cs : List Char}, c ∉ cs → c ∉ (String.ofList (trimChars cs)).toList := by
    intro c cs hc hmem
    rw [String.toList_ofList] at hmem
    exact hc (Text.mem_of_mem_stripEnds hmem)
  unfold parseHead at h
  split at h
  · next before after hcut =>
    obtain ⟨rfl, hbefore⟩ := Text.cut_eq_some_iff.mp hcut
    obtain ⟨rfl, rfl⟩ := Prod.mk.inj h
    simp only [List.mem_append, List.mem_cons, not_or] at huncut
    refine ⟨Text.trimmed_trimChars before, ⟨hkept huncut.1, hkept hbefore⟩, fun name hname => ?_⟩
    obtain rfl := Option.some.inj hname
    exact ⟨Text.trimmed_trimChars after, hkept huncut.2.2⟩
  · next hcut =>
    obtain ⟨rfl, rfl⟩ := Prod.mk.inj h
    exact ⟨Text.trimmed_trimChars head, ⟨hkept huncut, hkept (Text.cut_eq_none_iff.mp hcut)⟩, nofun⟩

-- The axis has no name only where the head begins with the comma that ends the name.
theorem axis_eq_empty_iff (hne : head ≠ []) (hfirst : ∀ c, head.head? = some c → isBlank c = false)
    (h : parseHead head = (axis, crs)) : axis = "" ↔ head.head? = some ',' := by
  obtain ⟨c, cs, rfl⟩ := List.exists_cons_of_ne_nil hne
  have hc : isBlank c = false := hfirst c rfl
  have hnamed : ∀ more : List Char, String.ofList (trimChars (c :: more)) ≠ "" := by
    intro more hempty
    have hmem : c ∈ trimChars (c :: more) := Text.mem_stripEnds List.mem_cons_self hc
    rw [String.ofList_eq_empty_iff.mp hempty] at hmem
    exact List.not_mem_nil hmem
  rw [List.head?_cons, Option.some.injEq]
  by_cases hcomma : c = ','
  · have haxis : axis = String.ofList (trimChars []) := by
      simpa [parseHead, Text.cut, hcomma] using (congrArg Prod.fst h).symm
    simp [hcomma, haxis, trimChars, Text.stripEnds]
  · unfold parseHead at h
    split at h
    · next before after hcut =>
      obtain ⟨hcs, -⟩ := Text.cut_eq_some_iff.mp hcut
      obtain ⟨rfl, rfl⟩ := Prod.mk.inj h
      cases before with
      | nil => exact absurd (List.cons.inj hcs).1 hcomma
      | cons d before =>
          obtain ⟨rfl, -⟩ := List.cons.inj hcs
          simp [hcomma, hnamed before]
    · obtain ⟨rfl, -⟩ := Prod.mk.inj h
      simp [hcomma, hnamed cs]

end Parts

theorem separable_of_parse (h : parse text = .ok s) :
    s.Separable ∧ (s.axis = "" ↔ (Text.trim text).toList.head? = some ',') := by
  obtain ⟨head, body, hcs, huncut, hne, hhead, hselection⟩ := parse_eq_ok_iff.mp h
  have htext : (Text.trim text).toList = head ++ '(' :: (body ++ [')']) := by
    rw [Text.trim, String.toList_ofList, hcs]
  have hstart : (Text.trim text).toList.head? = head.head? := by
    rw [htext, List.head?_append_of_ne_nil _ hne]
  have hfirst : ∀ c, head.head? = some c → isBlank c = false := fun c hc =>
    (Text.trimmed_trimChars text.toList).head_not_blank (hstart.trans hc)
  obtain ⟨haxis, hcut, hcrs⟩ := uncut_of_parseHead huncut hhead
  have hempty := axis_eq_empty_iff hne hfirst hhead
  refine ⟨⟨fun hnone haxis_empty => ?_, haxis, hcut, hcrs, isBound_of_parseSelection hselection⟩,
    hempty.trans (by rw [hstart])⟩
  -- A head that begins with a comma has a reference system.
  obtain ⟨c, cs, rfl⟩ := List.exists_cons_of_ne_nil hne
  obtain rfl : c = ',' := by simpa using hempty.mp haxis_empty
  simp [parseHead, Text.cut, hnone] at hhead

-- What is read is trimmed and free of the characters it is cut at, and is read again from its own
-- text. The axis has a name unless the text begins with a comma.
theorem parsed_separable (text : String) (s : Subset) (h : parse text = .ok s) :
    s.Separable ∧ (s.axis = "" ↔ (Text.trim text).toList.head? = some ',') ∧
      parse s.written = .ok s := by
  obtain ⟨hseparable, hempty⟩ := separable_of_parse h
  exact ⟨hseparable, hempty, parse_written hseparable⟩

-- Blanks everywhere, and parentheses that belong to the bounds.
theorem parsed_separable_spaced :
    ∃ s, parse " Lat , EPSG:4326 ( f(1) , *) ) " = .ok s ∧ s.Separable ∧ s.axis = "Lat" ∧
      parse "Lat,EPSG:4326(f(1),*))" = .ok s := by
  have hread : parse " Lat , EPSG:4326 ( f(1) , *) ) " =
      .ok ((Subset.trim "Lat" "f(1)" "*)").withCrs "EPSG:4326") := by decide +kernel
  obtain ⟨hseparable, -, hwritten⟩ := parsed_separable _ _ hread
  exact ⟨_, hread, hseparable, rfl, hwritten⟩

-- A reference system in front of the bounds hides that the axis has no name.
theorem parse_unnamed :
    ∃ s, parse ",EPSG:4326(1)" = .ok s ∧ s.axis = "" :=
  ⟨(Subset.slice "" "1").withCrs "EPSG:4326", by decide +kernel, rfl⟩

end Datacube.Subset
