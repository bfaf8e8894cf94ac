import Datacube.Proofs.Response.Filling
import Datacube.Response.Report

-- The report of an error: its template filled at once, except that the message is also put into the
-- holes that the locator brings.
namespace Datacube.Response

open Markup (escape escapeText)

-- The pieces in front of the locator, with the code in them, and those behind it.
private def reportStart (code : String) : List Piece :=
  (Builtin.exceptionReport.take 7).map (Piece.put "exceptionCode" code)

private def reportEnd : List Piece :=
  Builtin.exceptionReport.drop 8

theorem put_code_locator (code locator : String) :
    (Builtin.exceptionReport.map (Piece.put "exceptionCode" code)).map
        (Piece.put "locator" locator) = reportStart code ++ .literal locator :: reportEnd := by
  simp [Builtin.exceptionReport, reportStart, reportEnd, Piece.put]

-- The text of a report around its locator.
theorem fill_report (code locator text : String) :
    fill [("exceptionCode", code), ("locator", locator), ("exceptionText", text)]
        Builtin.exceptionReport =
      templateText ((reportStart code).map (Piece.put "exceptionText" text)) ++
        (locator ++ templateText (reportEnd.map (Piece.put "exceptionText" text))) := by
  rw [fill_cons, fill_cons, put_code_locator, fill_cons, fill_nil]
  simp [Piece.put, Piece.text]

theorem braceFree_code (e : Error) : BraceFree e.code := by
  cases e <;> exact braceFree_literal (by decide)

theorem clean_reportStart (e : Error) : ∀ p ∈ reportStart e.code, p.Clean :=
  clean_map_put (braceFree_code e) fun p hp =>
    clean_builtin .exceptionReport p (List.mem_of_mem_take hp)

theorem clean_reportEnd : ∀ p ∈ reportEnd, p.Clean :=
  fun p hp => clean_builtin .exceptionReport p (List.mem_of_mem_drop hp)

-- The message comes last: by then the locator is part of the text.
theorem substitute_report (e : Error) (locator text : String) :
    substitute (templateText Builtin.exceptionReport)
        [("exceptionCode", e.code), ("locator", locator), ("exceptionText", text)] =
      fill [("exceptionCode", e.code), ("locator", fillHole locator "exceptionText" text),
        ("exceptionText", text)] Builtin.exceptionReport := by
  have hclean : ∀ p ∈ Builtin.exceptionReport, p.Clean := clean_builtin .exceptionReport
  have hcoded : ∀ p ∈ Builtin.exceptionReport.map (Piece.put "exceptionCode" e.code), p.Clean :=
    clean_map_put (braceFree_code e) hclean
  have hend : ∃ rest, (templateText reportEnd).toList = '>' :: rest := by
    simp [reportEnd, Builtin.exceptionReport, Piece.text]
  obtain ⟨rest, hrest⟩ := hend
  rw [fill_report]
  simp only [substitute, List.foldl_cons, List.foldl_nil]
  rw [fillHole_templateText (by decide) hclean, fillHole_templateText (by decide) hcoded,
    put_code_locator]
  exact fillHole_between (by decide) (clean_reportStart e) clean_reportEnd hrest (by decide)

theorem exceptionReport_builtin (e : Error) :
    exceptionReport {} e = substitute (templateText Builtin.exceptionReport) (reportValues e) := by
  rw [exceptionReport, render_builtin]
  rfl

section Length

variable {n : Nat} {s t : String}

theorem lt_length_append (h : n < s.toList.length) : n < (s ++ t).toList.length := by
  rw [String.toList_append, List.length_append]
  omega

theorem length_lt_append (h : s.toList ≠ []) : t.toList.length < (s ++ t).toList.length := by
  have hpos := List.length_pos_iff.mpr h
  rw [String.toList_append, List.length_append]
  omega

-- A message names the locator and says more.
theorem length_locator_lt {e : Error} {locator : String} (h : e.locator? = some locator) :
    locator.toList.length < e.message.toList.length := by
  cases e <;> cases h
  case unrecognizedConstruct | unimplemented | unexpectedNode => exact length_lt_append (by simp)
  case unknownCoverage | undefinedIterator => exact lt_length_append (length_lt_append (by simp))
  case invalidMetadata | invalidAxis | invalidParameter =>
    exact lt_length_append (lt_length_append (length_lt_append (by simp)))

theorem length_le_escapeText (s : String) : s.toList.length ≤ (escapeText s).toList.length := by
  have hchar : ∀ c, 1 ≤ (Markup.escapeTextChar c).length := by
    intro c
    unfold Markup.escapeTextChar
    split <;> simp
  rw [escapeText, Text.replaceEach, String.toList_ofList]
  induction s.toList with
  | nil => simp
  | cons c cs ih =>
      have hc := hchar c
      rw [List.flatMap_cons, List.length_append, List.length_cons]
      omega

end Length

section Escaped

-- Escaping leaves a mark of harmless characters where it is, and makes no new one.
variable {mark : List Char} (hmark : ∀ c ∈ mark, Markup.escapeChar c = [c] ∧ c ≠ '&')

theorem escapeChar_cases (c : Char) :
    Markup.escapeChar c = [c] ∨ ∃ name, Markup.escapeChar c = '&' :: name ∧ '\x7b' ∉ name := by
  unfold Markup.escapeChar
  split <;> simp

include hmark

theorem prefix_escape_iff {cs : List Char} :
    mark <+: cs.flatMap Markup.escapeChar ↔ mark <+: cs := by
  induction mark generalizing cs with
  | nil => simp
  | cons m mark ih =>
      obtain ⟨⟨hm, hamp⟩, hmark⟩ := List.forall_mem_cons.mp hmark
      cases cs with
      | nil => simp
      | cons c cs =>
          rcases escapeChar_cases c with hc | ⟨name, hc, -⟩
          · simp [hc, List.cons_prefix_cons, ih hmark]
          · -- An entity does not begin as the mark does, and neither does what it stands for.
            have hne : m ≠ c := by
              rintro rfl
              rw [hm] at hc
              exact hamp (List.cons.inj hc).1
            simp [hc, List.cons_prefix_cons, hamp, hne]

theorem infix_escape_iff {cs : List Char} (hfirst : mark.head? = some '\x7b') :
    mark <:+: cs.flatMap Markup.escapeChar ↔ mark <:+: cs := by
  obtain ⟨rest, rfl⟩ : ∃ rest, mark = '\x7b' :: rest := by
    cases mark with
    | nil => simp at hfirst
    | cons m rest => exact ⟨rest, by simpa using hfirst⟩
  induction cs with
  | nil => simp
  | cons c cs ih =>
      rcases escapeChar_cases c with hc | ⟨name, hc, hname⟩
      · have hprefix := @prefix_escape_iff _ hmark (c :: cs)
        rw [List.flatMap_cons, hc, List.singleton_append] at hprefix
        rw [List.flatMap_cons, hc, List.singleton_append, List.infix_cons_iff, hprefix, ih,
          List.infix_cons_iff]
      · have hopens := (List.forall_mem_cons.mp hmark).1.1
        have hne : '\x7b' ≠ c := by
          rintro rfl
          simp [hopens] at hc
        rw [List.flatMap_cons, hc, Text.infix_append_of_not_mem (by simp [hname]), ih]
        simp [List.infix_cons_iff, List.cons_prefix_cons, hne]

end Escaped

section Locator

variable {e : Error} {locator value : String}

theorem holeText_toList (name : String) :
    (holeText name).toList = '\x7b' :: (name.toList ++ ['\x7d']) := by
  simp [holeText]

theorem infix_escape_hole_iff :
    (holeText "exceptionText").toList <:+: (escape locator).toList ↔
      (holeText "exceptionText").toList <:+: locator.toList := by
  rw [escape, Text.replaceEach, String.toList_ofList]
  exact infix_escape_iff (by decide) rfl

-- A longer value shows wherever there is a hole for it.
theorem fillHole_eq_self_iff {text name : String}
    (hlonger : (holeText name).toList <:+: text.toList →
      (holeText name).toList.length < value.toList.length) :
    fillHole text name value = text ↔ ¬(holeText name).toList <:+: text.toList := by
  rw [holeText_toList] at hlonger ⊢
  rw [fillHole]
  constructor
  · intro h hinfix
    have hlength := Text.length_lt_replaceMark (by simpa using hlonger hinfix) hinfix
    rw [← String.toList_ofList (l := Text.replaceMark _ _ _ _), h] at hlength
    exact Nat.lt_irrefl _ hlength
  · intro h
    rw [Text.replaceMark_of_not_infix h, String.ofList_toList]

theorem locatorText_eq (h : e.locator? = some locator) :
    locatorText e = " locator=\"" ++ escape locator ++ "\"" := by
  rw [locatorText, h]

theorem fillHole_locatorText (h : e.locator? = some locator) :
    fillHole (locatorText e) "exceptionText" value =
      " locator=\"" ++ fillHole (escape locator) "exceptionText" value ++ "\"" := by
  have hquote : '"' ≠ '\x7b' ∧ '"' ∉ "exceptionText".toList ++ ['\x7d'] := by decide
  have hparts : (locatorText e).toList =
      " locator=\"".toList ++ ((escape locator).toList ++ '"' :: []) := by
    simp [locatorText_eq h]
  rw [fillHole, hparts, Text.replaceMark_append_of_not_mem (by decide),
    Text.replaceMark_append_cons hquote.1 hquote.2, Text.replaceMark_cons (by decide),
    Text.replaceMark_nil]
  exact String.toList_inj.mp (by simp [fillHole])

-- The locator keeps its text exactly if it has no hole for the message.
theorem fillHole_locatorText_eq_self_iff :
    fillHole (locatorText e) "exceptionText" (escapeText e.message) = locatorText e ↔
      ∀ locator, e.locator? = some locator →
        ¬(holeText "exceptionText").toList <:+: locator.toList := by
  cases hlocator : e.locator? with
  | none => simp [locatorText, hlocator, fillHole]
  | some locator =>
      have hlonger : (holeText "exceptionText").toList <:+: (escape locator).toList →
          (holeText "exceptionText").toList.length < (escapeText e.message).toList.length := by
        intro hinfix
        have hhole := (infix_escape_hole_iff.mp hinfix).length_le
        have hmessage := length_locator_lt hlocator
        have hescaped := length_le_escapeText e.message
        omega
      rw [fillHole_locatorText hlocator, locatorText_eq hlocator, String.append_left_inj,
        String.append_right_inj, fillHole_eq_self_iff hlonger, infix_escape_hole_iff]
      simp

end Locator

-- The message fills all holes of its name, those in the locator as well; so the report is literal
-- exactly if the locator has no such hole.
theorem exceptionReport_eq_fill (e : Error) :
    exceptionReport {} e =
        fill [("exceptionCode", e.code),
          ("locator", fillHole (locatorText e) "exceptionText" (escapeText e.message)),
          ("exceptionText", escapeText e.message)] Builtin.exceptionReport ∧
      (exceptionReport {} e = fill (reportValues e) Builtin.exceptionReport ↔
        ∀ locator, e.locator? = some locator →
          ¬(holeText "exceptionText").toList <:+: locator.toList) := by
  have hfill : exceptionReport {} e =
      fill [("exceptionCode", e.code),
        ("locator", fillHole (locatorText e) "exceptionText" (escapeText e.message)),
        ("exceptionText", escapeText e.message)] Builtin.exceptionReport :=
    (exceptionReport_builtin e).trans (substitute_report e _ _)
  refine ⟨hfill, ?_⟩
  rw [hfill, reportValues, fill_report, fill_report, String.append_right_inj,
    String.append_left_inj]
  exact fillHole_locatorText_eq_self_iff

-- A coverage named like the hole: in the locator, the message takes the place of the name.
theorem exceptionReport_refilled :
    exceptionReport {} (.unknownCoverage "\x7bexceptionText\x7d") =
        fill [("exceptionCode", "NoApplicableCode"),
          ("locator", " locator=\"Metadata for coverage '\x7bexceptionText\x7d' is not valid\""),
          ("exceptionText", "Metadata for coverage '\x7bexceptionText\x7d' is not valid")]
          Builtin.exceptionReport ∧
      exceptionReport {} (.unknownCoverage "\x7bexceptionText\x7d") ≠
        fill (reportValues (.unknownCoverage "\x7bexceptionText\x7d"))
          Builtin.exceptionReport := by
  have hfill := (exceptionReport_builtin (.unknownCoverage "\x7bexceptionText\x7d")).trans
    (substitute_report _ _ _)
  have hlocator : fillHole (locatorText (.unknownCoverage "\x7bexceptionText\x7d")) "exceptionText"
      (escapeText (Error.unknownCoverage "\x7bexceptionText\x7d").message) =
      " locator=\"Metadata for coverage '\x7bexceptionText\x7d' is not valid\"" := by
    decide +kernel
  have hmessage : escapeText (Error.unknownCoverage "\x7bexceptionText\x7d").message =
      "Metadata for coverage '\x7bexceptionText\x7d' is not valid" := by
    decide +kernel
  rw [hlocator, hmessage] at hfill
  refine ⟨hfill, ?_⟩
  rw [hfill, reportValues, hmessage, fill_report, fill_report, ne_eq, String.append_right_inj,
    String.append_left_inj]
  decide +kernel

end Datacube.Response
