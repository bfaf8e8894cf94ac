import Datacube.Proofs.Number.Text
import Datacube.Proofs.Response.Narrowed
import Datacube.Response.Handler

-- The texts that a document shows, and the characters they are made of.
namespace Datacube

open Text (All)
open Number (IsNumeral)
open Result

def Axis.texts (a : Axis) : List String :=
  a.name :: (a.crsSet ++ a.uom.toList ++ a.textual.elim [] fun b => [b.lo, b.hi])

def RangeField.texts (f : RangeField) : List String :=
  [f.name, f.datatype, f.description, f.uomCode] ++ f.nilValues ++
    f.allowedValues.elim [] fun (lo, hi) => [lo, hi]

def Description.texts (d : Description) : List String :=
  [d.title, d.abstract] ++ d.keywords ++ d.metadata.toList ++ (d.bbox.map (·.crs)).toList ++
    d.rangeFields.flatMap RangeField.texts

def Coverage.texts (c : Coverage) : List String :=
  c.name :: (c.axes.flatMap fun a => a.domain.texts) ++ c.description.texts

-- Coverages are found under their own names.
def Store.Keyed (s : Store) : Prop :=
  ∀ id c, s.read id = .ok c → c.name = id

section Keyed

variable {s store : Store}

theorem Store.mem_of_read {id : String} {c : Coverage} (h : s.read id = .ok c) :
    (id, c) ∈ s.coverages := by
  unfold read at h
  split at h
  · next hlookup =>
    obtain ⟨before, after, hsplit, -⟩ := List.lookup_eq_some_iff.mp hlookup
    obtain rfl := Except.ok.inj h
    simp [hsplit]
  · cases h

theorem Store.keyed_of_insertDefs {defs : List CoverageDef}
    (hs : ∀ entry ∈ s.coverages, entry.2.name = entry.1) (h : s.insertDefs defs = .ok store) :
    store.Keyed := by
  have hentries : ∀ entry ∈ store.coverages, entry.2.name = entry.1 := by
    refine foldlM_preserves (P := fun s : Store =>
      ∀ entry ∈ s.coverages, entry.2.name = entry.1) ?_ hs h
    intro d _ s s' hs hstep
    simp only [bind_eq_ok, pure_eq_ok] at hstep
    obtain ⟨c, -, rfl⟩ := hstep
    intro entry hentry
    rcases mem_put hentry with rfl | hentry
    · rfl
    · exact hs entry hentry
  exact fun id c hread => hentries _ (mem_of_read hread)

theorem Store.keyed_of_ofDefs {defs : List CoverageDef} (h : Store.ofDefs defs = .ok store) :
    store.Keyed :=
  keyed_of_insertDefs (by simp [empty]) h

theorem Store.Keyed.insertPoints (h : store.Keyed) (id : String) (points : List PointRecord) :
    (store.insertPoints id points).Keyed :=
  h

end Keyed

section Systems

variable {p : Char → Prop}

theorem mem_of_mem_distinct {name : String} {names : List String} (h : name ∈ distinct names) :
    name ∈ names := by
  unfold distinct at h
  refine (List.foldlRecOn names _ (motive := fun seen => ∀ n ∈ seen, n ∈ names) ?_ ?_) name h
  · simp
  · intro seen hseen other hother n hn
    split at hn
    · exact hseen n hn
    · rcases List.mem_append.mp hn with hn | hn
      · exact hseen n hn
      · rwa [List.mem_singleton.mp hn]

theorem Crs.all_compound {names : List String} (hnumeral : ∀ d, IsNumeral d → p d)
    (hown : All p (Crs.compoundStart ++ Crs.grid ++ "=&")) (h : ∀ name ∈ names, All p name) :
    All p (Crs.compound names) := by
  obtain ⟨⟨hstart, hgrid⟩, hjoin⟩ : (All p Crs.compoundStart ∧ All p Crs.grid) ∧ All p "=&" := by
    simpa using hown
  unfold Crs.compound
  split
  · exact hgrid
  · simpa using h
  · rw [Text.all_append]
    refine ⟨hstart, Text.all_intercalate (Text.all_ofList.mpr ?_) fun t ht => ?_⟩
    · simpa using hjoin '&' (by decide)
    · simp only [Crs.numbered, List.mem_map, Prod.exists] at ht
      obtain ⟨name, i, hname, rfl⟩ := ht
      rw [Text.all_append, Text.all_append]
      exact ⟨⟨(Number.all_natText _).mono hnumeral,
        Text.all_ofList.mpr (by simpa using hjoin '=' (by decide))⟩,
        h name (List.fst_mem_of_mem_zipIdx hname)⟩

-- The reference systems of axes under one name.
theorem all_systems {domains : List Axis} (hnumeral : ∀ d, IsNumeral d → p d)
    (hown : All p (Crs.compoundStart ++ Crs.grid ++ "=&"))
    (h : ∀ a ∈ domains, ∀ crs ∈ a.crsSet, All p crs) :
    All p (Crs.compound (distinct (domains.map Axis.crsOrGrid))) := by
  refine Crs.all_compound hnumeral hown fun name hname => ?_
  obtain ⟨a, ha, rfl⟩ := List.mem_map.mp (mem_of_mem_distinct hname)
  unfold Axis.crsOrGrid
  cases hcrs : a.externalCrs with
  | none =>
      simp only [Text.all_append] at hown
      exact hown.1.2
  | some crs => exact h a ha crs (List.mem_of_find?_eq_some hcrs)

end Systems

namespace Response

-- A request narrows the cells of axes; the axes stay.
theorem Context.make_domains {r : GetCoverage} {store : Store} {ctx : Context}
    (h : make r store = .ok ctx) :
    store.read r.id = .ok ctx.coverage ∧ ctx.requestedId = r.id ∧
      ctx.axes.map (·.domain) = ctx.coverage.axes.map (·.domain) := by
  obtain ⟨hread, hrequested, hdomains, -⟩ := make_keeps h
  exact ⟨hread, hrequested, hdomains⟩

-- Numbers may be written, with blanks between them.
structure AdmitsNumbers (p : Char → Prop) : Prop where
  numeral : ∀ c, IsNumeral c → p c
  blank : p ' '

section Numbers

variable {p : Char → Prop} {c : Context} (hp : AdmitsNumbers p)

include hp

theorem AdmitsNumbers.all_blank : All p " " :=
  Text.all_ofList.mpr (by simpa using hp.blank)

theorem AdmitsNumbers.all_intText (n : Int) : All p (Number.intText n) :=
  (Number.all_intText n).mono hp.numeral

theorem AdmitsNumbers.all_floatText (x : Float) : All p (Number.floatText x) :=
  (Number.all_floatText x).mono hp.numeral

theorem Context.all_retained {f : AxisView → String} (h : ∀ a ∈ c.axes, All p (f a)) :
    All p (" ".intercalate (c.retained.map f)) := by
  refine Text.all_intercalate hp.all_blank fun t ht => ?_
  obtain ⟨a, ha, rfl⟩ := List.mem_map.mp ht
  exact h a (List.mem_of_mem_filter ha)

theorem all_low : All p c.low :=
  Context.all_retained hp fun a _ => hp.all_intText a.cells.lo

theorem all_high : All p c.high :=
  Context.all_retained hp fun a _ => hp.all_intText a.cells.hi

theorem all_joinBounds (bound : CellExtent → Int) : All p (joinBounds c bound) := by
  refine Text.all_intercalate hp.all_blank fun t ht => ?_
  obtain ⟨cells, -, rfl⟩ := List.mem_map.mp ht
  exact hp.all_intText _

theorem all_floatTexts (xs : List Float) : All p (Number.floatTexts xs) := by
  refine Text.all_intercalate hp.all_blank fun t ht => ?_
  obtain ⟨x, -, rfl⟩ := List.mem_map.mp ht
  exact hp.all_floatText x

-- Limits that a result reports are read as numbers and written anew.
theorem all_domainBounds {sdom low high : String} (h : domainBounds sdom = .ok (low, high)) :
    All p low ∧ All p high := by
  unfold domainBounds at h
  split at h
  · cases h
  · simp only [bind_eq_ok, pure_eq_ok, Prod.mk.injEq] at h
    obtain ⟨bounds, -, rfl, rfl⟩ := h
    exact ⟨all_floatTexts hp _, all_floatTexts hp _⟩

-- A corner shows numbers, or the bounds of axes that have none.
theorem all_domLow (h : ∀ a ∈ c.axes, ∀ b, a.domain.textual = some b → All p b.lo) :
    All p c.domLow := by
  refine Context.all_retained hp fun a ha => ?_
  unfold Context.lowerText
  split
  · exact hp.all_floatText _
  · cases htextual : a.domain.textual with
    | none => exact Text.all_ofList.mpr (by simp)
    | some b => exact h a ha b htextual

theorem all_domHigh (h : ∀ a ∈ c.axes, ∀ b, a.domain.textual = some b → All p b.hi) :
    All p c.domHigh := by
  refine Context.all_retained hp fun a ha => ?_
  unfold Context.upperText
  split
  · exact hp.all_floatText _
  · cases htextual : a.domain.textual with
    | none => exact Text.all_ofList.mpr (by simp)
    | some b => exact h a ha b htextual

theorem all_offsetRows : ∀ row ∈ offsetRows c, All p row := by
  intro row hrow
  simp only [offsetRows, List.mem_map, Prod.exists] at hrow
  obtain ⟨resolution, i, hresolution, rfl⟩ := hrow
  refine Text.all_intercalate hp.all_blank fun t ht => ?_
  obtain ⟨j, -, rfl⟩ := List.mem_map.mp ht
  split
  · obtain ⟨a, -, rfl⟩ := List.mem_map.mp (List.fst_mem_of_mem_zipIdx hresolution)
    exact (Number.Decimal.all_text _).mono hp.numeral
  · exact Text.all_ofList.mpr (by simpa using hp.numeral '0' (by decide))

end Numbers

-- The bounds of a type are numbers.
theorem isNumeral_datatypeInterval {datatype lo hi : String}
    (h : datatypeInterval? datatype = some (lo, hi)) : All IsNumeral lo ∧ All IsNumeral hi := by
  have hminus : All IsNumeral "-" := by decide
  unfold datatypeInterval? at h
  split at h
  case h_10 =>
    obtain ⟨rfl, rfl⟩ := Prod.mk.inj (Option.some.inj h)
    exact ⟨Text.all_append.mpr ⟨hminus, Number.all_natText _⟩, Number.all_natText _⟩
  case h_11 =>
    obtain ⟨rfl, rfl⟩ := Prod.mk.inj (Option.some.inj h)
    exact ⟨Text.all_append.mpr ⟨hminus, Number.all_floatText _⟩, Number.all_floatText _⟩
  case h_12 => cases h
  all_goals
    obtain ⟨rfl, rfl⟩ := Prod.mk.inj (Option.some.inj h)
    decide

theorem all_allowedText {p : Char → Prop} {f : RangeField} (hp : AdmitsNumbers p)
    (h : ∀ lo hi, f.allowedValues = some (lo, hi) → All p lo ∧ All p hi) :
    All p (allowedText f) := by
  unfold allowedText
  split
  · next lo hi hbounds =>
    rw [Text.all_append, Text.all_append]
    rcases hallowed : f.allowedValues with _ | ⟨lo', hi'⟩
    · have hnumbers := isNumeral_datatypeInterval (by simpa [hallowed] using hbounds)
      exact ⟨⟨hnumbers.1.mono hp.numeral, hp.all_blank⟩, hnumbers.2.mono hp.numeral⟩
    · obtain ⟨rfl, rfl⟩ : lo' = lo ∧ hi' = hi := by simpa [hallowed] using hbounds
      exact ⟨⟨(h _ _ hallowed).1, hp.all_blank⟩, (h _ _ hallowed).2⟩
  · exact Text.all_ofList.mpr (by simp)

end Response

end Datacube
