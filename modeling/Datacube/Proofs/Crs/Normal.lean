import Datacube.Proofs.Axis.Definition
import Datacube.Proofs.Crs.Distinct

-- The reference systems that an axis has for the names it is given, and which of them is its
-- external one.
namespace Datacube

namespace Crs

-- The names without the blanks around them, as far as anything is left of them.
def given (names : List String) : List String :=
  (names.map Text.trim).filter (· ≠ "")

-- The first of them that is not the grid.
def firstExternal (names : List String) : Option String :=
  (given names).find? fun crs => !isGrid crs

-- Systems as an axis has them. The grid may be written in any case, while systems are the same
-- only if they are written alike, so that there can be several spellings of the grid.
structure Normal (systems : List String) : Prop where
  trimmed : ∀ crs ∈ systems, Text.Trimmed crs
  nonempty : ∀ crs ∈ systems, crs ≠ ""
  nodup : systems.Nodup
  grid : ∃ crs ∈ systems, isGrid crs = true

variable {names : List String} {crs : String}

theorem mem_given_iff :
    crs ∈ given names ↔ (∃ name ∈ names, Text.trim name = crs) ∧ crs ≠ "" := by
  simp [given]

theorem trimmed_of_mem_given (h : crs ∈ given names) : Text.Trimmed crs := by
  obtain ⟨⟨name, -, rfl⟩, -⟩ := mem_given_iff.mp h
  exact Text.trim_trim name

theorem given_eq_self (htrimmed : ∀ crs ∈ names, Text.Trimmed crs)
    (hnonempty : ∀ crs ∈ names, crs ≠ "") : given names = names := by
  have hmap : names.map Text.trim = names := (List.map_congr_left htrimmed).trans names.map_id
  rw [given, hmap, List.filter_eq_self]
  simpa using hnonempty

-- Adding the names one by one keeps the distinct ones of those given.
theorem foldl_addName (names : List String) : names.foldl addName [] = distinct (given names) := by
  have hstep : addName = fun seen name =>
      if decide (Text.trim name ≠ "") then
        if Text.trim name ∈ seen then seen else seen ++ [Text.trim name]
      else seen := by
    funext seen name
    by_cases hname : Text.trim name = ""
    · simp [addName, hname]
    · simp [addName, hname]
  rw [distinct, given, List.foldl_filter, List.foldl_map, hstep]

theorem normalize_eq (names : List String) :
    normalize names = withGrid (distinct (given names)) := by
  rw [normalize, foldl_addName]

section WithGrid

theorem trimmed_grid : Text.Trimmed grid :=
  (by decide +kernel : Text.trim grid = grid)

theorem withGrid_of_mem (h : crs ∈ names) (hgrid : isGrid crs = true) : withGrid names = names :=
  if_pos (List.any_eq_true.mpr ⟨crs, h, hgrid⟩)

theorem withGrid_of_forall (h : ∀ crs ∈ names, isGrid crs = false) :
    withGrid names = names ++ [grid] :=
  if_neg (by simpa using h)

theorem withGrid_cases (names : List String) :
    withGrid names = names ∨
      withGrid names = names ++ [grid] ∧ ∀ crs ∈ names, isGrid crs = false := by
  by_cases h : ∃ crs ∈ names, isGrid crs = true
  · obtain ⟨crs, hcrs, hgrid⟩ := h
    exact .inl (withGrid_of_mem hcrs hgrid)
  · have hnone : ∀ crs ∈ names, isGrid crs = false := by simpa using h
    exact .inr ⟨withGrid_of_forall hnone, hnone⟩

theorem mem_withGrid (h : crs ∈ withGrid names) : crs ∈ names ∨ crs = grid := by
  obtain heq | ⟨heq, -⟩ := withGrid_cases names
  · exact .inl (heq ▸ h)
  · simpa [heq] using h

-- The grid is added only where it is not there in its own spelling either.
theorem nodup_withGrid (h : names.Nodup) : (withGrid names).Nodup := by
  obtain heq | ⟨heq, hnone⟩ := withGrid_cases names
  · rwa [heq]
  · have hnew : grid ∉ names := fun hmem =>
      Bool.false_ne_true ((hnone grid hmem).symm.trans isGrid_grid)
    rw [heq, ← List.concat_eq_append]
    exact h.concat hnew

-- What is added is not an external system.
theorem find?_withGrid (names : List String) :
    (withGrid names).find? (fun crs => !isGrid crs) = names.find? fun crs => !isGrid crs := by
  obtain heq | ⟨heq, -⟩ := withGrid_cases names
  · rw [heq]
  · simp [heq, List.find?_append, isGrid_grid]

end WithGrid

theorem normal_normalize (names : List String) : Normal (normalize names) := by
  have hkept := firstOccurrences_distinct (given names)
  have hmem : ∀ crs ∈ normalize names, crs ∈ given names ∨ crs = grid := by
    intro crs hcrs
    rw [normalize_eq] at hcrs
    exact (mem_withGrid hcrs).imp_left (hkept.mem_iff crs).mp
  refine ⟨fun crs hcrs => ?_, fun crs hcrs => ?_, ?_, exists_grid_normalize names⟩
  · obtain hgiven | rfl := hmem crs hcrs
    · exact trimmed_of_mem_given hgiven
    · exact trimmed_grid
  · obtain hgiven | rfl := hmem crs hcrs
    · exact (mem_given_iff.mp hgiven).2
    · decide
  · rw [normalize_eq]
    exact nodup_withGrid hkept.nodup

-- The normal lists are those that are left as they are.
theorem normalize_eq_self_iff : normalize names = names ↔ Normal names := by
  refine ⟨fun h => h ▸ normal_normalize names, fun h => ?_⟩
  obtain ⟨crs, hcrs, hgrid⟩ := h.grid
  rw [normalize_eq, given_eq_self h.trimmed h.nonempty, distinct_of_nodup h.nodup,
    withGrid_of_mem hcrs hgrid]

theorem find?_normalize (names : List String) :
    (normalize names).find? (fun crs => !isGrid crs) = firstExternal names := by
  rw [normalize_eq, find?_withGrid, find?_distinct, firstExternal]

end Crs

namespace Axis

variable {a : Axis} {names : List String}

theorem externalCrs_eq (h : a.crsSet = Crs.normalize names) :
    a.externalCrs = Crs.firstExternal names := by
  rw [externalCrs, h, Crs.find?_normalize]

theorem crsSet_of_make {d : AxisDef} {allowed : List AxisKind} (h : make d allowed = .ok a) :
    a.crsSet = Crs.normalize d.crsSet := by
  obtain ⟨-, _, -, -, -, rfl⟩ := make_eq_ok_iff.mp h
  rfl

end Axis

namespace Crs

-- An axis has the systems given, each where it comes up first, and the grid behind them unless it is
-- among them. Given these again it has the same ones, and its external system is the first one
-- given that is not the grid.
theorem systems_normalized :
    (∀ names, Normal (normalize names) ∧ ∃ kept, FirstOccurrences (given names) kept ∧
      (normalize names = kept ∨
        normalize names = kept ++ [grid] ∧ ∀ crs ∈ kept, isGrid crs = false)) ∧
    (∀ names, normalize (normalize names) = normalize names) ∧
    (∀ (a : Axis) (names : List String), a.crsSet = normalize names →
      a.externalCrs = firstExternal names) ∧
    (∀ (a : Axis) (names : List String), (a.withCrsSet names).externalCrs = firstExternal names) ∧
    ∀ (d : AxisDef) (allowed : List AxisKind) (a : Axis), Axis.make d allowed = .ok a →
      a.externalCrs = firstExternal d.crsSet := by
  refine ⟨fun names => ⟨normal_normalize names, distinct (given names),
    firstOccurrences_distinct _, ?_⟩, fun names => ?_, fun a names h => Axis.externalCrs_eq h,
    fun a names => Axis.externalCrs_eq rfl, fun d allowed a h => ?_⟩
  · rw [normalize_eq]
    exact withGrid_cases _
  · exact normalize_eq_self_iff.mpr (normal_normalize names)
  · exact Axis.externalCrs_eq (Axis.crsSet_of_make h)

-- The grid in two spellings before and behind a system that is given twice.
def respelled : AxisDef where
  name := "x"
  kind := "x"
  numLo := some 0
  numHi := some 9
  crsSet := [" crs:1\t", "", "EPSG:4326", "CRS:1", "\u3000EPSG:4326 ", " ", "epsg:4326"]

-- The axis is given other systems afterwards, without the grid.
theorem systems_normalized_respelled :
    ∃ a, Axis.make respelled AxisKind.all = .ok a ∧ a.crsSet = normalize respelled.crsSet ∧
      normalize respelled.crsSet = ["crs:1", "EPSG:4326", "CRS:1", "epsg:4326"] ∧
      Normal a.crsSet ∧ normalize a.crsSet = a.crsSet ∧ a.externalCrs = some "EPSG:4326" ∧
      (a.withCrsSet ["", " AnsiDate"]).crsSet = ["AnsiDate", "CRS:1"] ∧
      (a.withCrsSet ["", " AnsiDate"]).externalCrs = some "AnsiDate" ∧
      (a.withCrsSet [" crs:1"]).externalCrs = none := by
  obtain ⟨a, ha⟩ : ∃ a, Axis.make respelled AxisKind.all = .ok a := ⟨_, rfl⟩
  have hset : a.crsSet = normalize respelled.crsSet := Axis.crsSet_of_make ha
  have hreplaced : (a.withCrsSet ["", " AnsiDate"]).crsSet = normalize ["", " AnsiDate"] := rfl
  obtain ⟨hnormal, hagain, hexternal, hwith, hmade⟩ := systems_normalized
  exact ⟨a, ha, hset, by decide +kernel, hset ▸ (hnormal _).1, hset ▸ hagain _,
    (hmade _ _ a ha).trans (by decide +kernel), hreplaced.trans (by decide +kernel),
    (hexternal _ _ hreplaced).trans (by decide +kernel), (hwith a _).trans (by decide +kernel)⟩

end Crs

end Datacube
