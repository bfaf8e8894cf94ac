import Datacube.Proofs.Crs.Distinct
import Datacube.Proofs.Number.Text
import Datacube.Proofs.Text.Pieces
import Datacube.Proofs.Text.Replace
import Datacube.Response.Context

-- Compound names of reference systems, and the systems that are read from them again.
namespace Datacube

namespace Crs

-- The inverse of escaping: entities of ampersands become ampersands.
def unescape (name : String) : String :=
  String.ofList (Text.replaceMark '&' ['a', 'm', 'p', ';'] ['&'] name.toList)

-- Names that are found again in their compound name. A single one is left as it is, and must not
-- be taken for a compound name.
structure Separable (names : List String) : Prop where
  uncut : ∀ crs ∈ names, '&' ∉ crs.toList
  single : ∀ crs, names = [crs] → ¬compoundStart.toList <+: crs.toList

theorem unescape_escape (name : String) : unescape (escape name) = name := by
  have hback : ∀ cs : List Char, Text.replaceMark '&' ['a', 'm', 'p', ';'] ['&']
      (cs.flatMap fun c => if c = '&' then '&' :: ['a', 'm', 'p', ';'] else [c]) = cs := by
    intro cs
    induction cs with
    | nil => exact Text.replaceMark_nil
    | cons c cs ih =>
        rw [List.flatMap_cons]
        by_cases hc : c = '&'
        · rw [if_pos hc, Text.replaceMark_mark, ih, hc, List.singleton_append]
        · have hstart : ∀ rest, ¬ '&' :: ['a', 'm', 'p', ';'] <+: c :: rest :=
            fun _ h => hc (List.cons_prefix_cons.mp h).1.symm
          rw [if_neg hc, List.singleton_append, Text.replaceMark_cons (hstart _), ih]
  have hescaped : (escape name).toList =
      name.toList.flatMap fun c => if c = '&' then '&' :: ['a', 'm', 'p', ';'] else [c] :=
    String.toList_ofList
  rw [unescape, hescaped, hback, String.ofList_toList]

section Split

variable {names : List String}

-- A part of a compound name is cut behind its number.
theorem cut_numbered (i : Nat) (crs : String) :
    Text.cut '=' (Number.natText (i + 1) ++ "=" ++ crs).toList =
      some ((Number.natText (i + 1)).toList, crs.toList) := by
  have hnumber : '=' ∉ (Number.natText (i + 1)).toList :=
    (Number.all_natText (i + 1)).not_mem (by decide)
  simpa using Text.cut_append hnumber crs.toList

theorem filterMap_numbered (names : List String) :
    ((numbered names).map String.toList).filterMap
      (fun part => (Text.cut '=' part).map fun (_, crs) => String.ofList crs) = names := by
  have hpart : ∀ entry : String × Nat,
      (Text.cut '=' (Number.natText (entry.2 + 1) ++ "=" ++ entry.1).toList).map
        (fun (_, crs) => String.ofList crs) = some entry.1 := by
    intro entry
    rw [cut_numbered]
    exact congrArg some String.ofList_toList
  calc _ = names.zipIdx.filterMap fun entry =>
        (Text.cut '=' (Number.natText (entry.2 + 1) ++ "=" ++ entry.1).toList).map
          fun (_, crs) => String.ofList crs := by
        rw [numbered, List.map_map, List.filterMap_map]
        rfl
    _ = names.zipIdx.filterMap fun entry => some entry.1 := by simp only [hpart]
    _ = names := by rw [List.filterMap_eq_map', List.zipIdx_map_fst]

theorem uncut_numbered (h : ∀ crs ∈ names, '&' ∉ crs.toList) :
    ∀ part ∈ (numbered names).map String.toList, '&' ∉ part := by
  simp only [numbered, List.map_map, List.mem_map, Prod.exists, Function.comp_apply]
  rintro _ ⟨crs, i, hcrs, rfl⟩
  have hnumber : '&' ∉ (Number.natText (i + 1)).toList :=
    (Number.all_natText (i + 1)).not_mem (by decide)
  simp [hnumber, h crs (List.fst_mem_of_mem_zipIdx hcrs)]

theorem split_compound (hne : names ≠ []) (h : Separable names) :
    split (compound names) = names := by
  cases names with
  | nil => exact absurd rfl hne
  | cons first rest =>
      cases rest with
      | nil =>
          have hown : Text.afterStart compoundStart.toList first.toList = none :=
            Text.afterStart_eq_none_iff.mpr (h.single first rfl)
          rw [compound, split, hown]
      | cons second rest =>
          have hquery : Text.afterStart compoundStart.toList
              (compound (first :: second :: rest)).toList =
              some (['&'].intercalate ((numbered (first :: second :: rest)).map String.toList)) := by
            rw [Text.afterStart_eq_some_iff, compound, String.toList_append,
              String.toList_intercalate]
            exacts [rfl, nofun, nofun]
          have hpieces : Text.pieces '&'
              (['&'].intercalate ((numbered (first :: second :: rest)).map String.toList)) =
              (numbered (first :: second :: rest)).map String.toList :=
            Text.pieces_intercalate (by simp [numbered]) (uncut_numbered h.uncut)
          rw [split, hquery]
          exact (congrArg _ hpieces).trans (filterMap_numbered _)

end Split

-- The systems of a compound name are those it was made from, and the name of the system of a
-- response is read as the systems of the axes left in it.
theorem systems_decoded :
    (∀ names, names ≠ [] → Separable names → split (compound names) = names) ∧
      ∀ c : Response.Context, c.retained ≠ [] →
        Separable (distinct (c.retained.map (·.domain.crsOrGrid))) →
        FirstOccurrences (c.retained.map (·.domain.crsOrGrid)) (split (unescape c.srsName)) := by
  refine ⟨fun names => split_compound, fun c hretained h => ?_⟩
  have hkept := firstOccurrences_distinct (c.retained.map (·.domain.crsOrGrid))
  have hne : distinct (c.retained.map (·.domain.crsOrGrid)) ≠ [] := by
    obtain ⟨axis, haxis⟩ := List.exists_mem_of_ne_nil _ hretained
    exact List.ne_nil_of_mem ((hkept.mem_iff _).mpr (List.mem_map_of_mem haxis))
  rwa [Response.Context.srsName, unescape_escape, split_compound hne h]

-- Two axes in one system, one in a system of a strange name, and one in the grid only.
def mixedSystems : CoverageDef where
  name := "A"
  kind := "GridCoverage"
  domain := [
    { name := "x", kind := "x", numLo := some 0, numHi := some 9, crsSet := ["EPSG:4326"] },
    { name := "y", kind := "y", numLo := some 0, numHi := some 9, crsSet := ["EPSG:4326"] },
    { name := "h", kind := "other", numLo := some 0, numHi := some 9, crsSet := ["?1=a=b"] },
    { name := "k", kind := "other", numLo := some 0, numHi := some 9 },
    { name := "z", kind := "other", numLo := some 0, numHi := some 9, crsSet := ["a&b"] }]
  cells := [⟨some 0, some 9⟩, ⟨some 0, some 9⟩, ⟨some 0, some 9⟩, ⟨some 0, some 9⟩,
    ⟨some 0, some 9⟩]
  description := { rangeFields := [{ name := "v", datatype := "char" }] }

-- The last axis is sliced away, and its system with it.
theorem systems_decoded_mixed :
    Separable [compoundStart, "", "=?"] ∧
      split (compound [compoundStart, "", "=?"]) = [compoundStart, "", "=?"] ∧
      ∃ store ctx, Store.ofDefs [mixedSystems] = .ok store ∧
        Response.Context.make { id := "A", subsets := [.slice "z" "4"] } store = .ok ctx ∧
        ctx.retained.map (·.domain.crsOrGrid) = ["EPSG:4326", "EPSG:4326", "?1=a=b", "CRS:1"] ∧
        ctx.srsName =
          "http://www.opengis.net/def/crs-compound?1=EPSG:4326&amp;2=?1=a=b&amp;3=CRS:1" ∧
        Separable (distinct (ctx.retained.map (·.domain.crsOrGrid))) ∧
        FirstOccurrences (ctx.retained.map (·.domain.crsOrGrid))
          (split (unescape ctx.srsName)) := by
  have hseparable : Separable [compoundStart, "", "=?"] := ⟨by decide, fun crs h => by simp at h⟩
  obtain ⟨store, ctx, hstore, hmake, hsystems, hname⟩ : ∃ store ctx,
      Store.ofDefs [mixedSystems] = .ok store ∧
      Response.Context.make { id := "A", subsets := [.slice "z" "4"] } store = .ok ctx ∧
      ctx.retained.map (·.domain.crsOrGrid) = ["EPSG:4326", "EPSG:4326", "?1=a=b", "CRS:1"] ∧
      ctx.srsName =
        "http://www.opengis.net/def/crs-compound?1=EPSG:4326&amp;2=?1=a=b&amp;3=CRS:1" :=
    ⟨_, _, rfl, rfl, by decide +kernel, by decide +kernel⟩
  have hretained : ctx.retained ≠ [] := by
    intro hnone
    simp [hnone] at hsystems
  have hdistinct : Separable (distinct (ctx.retained.map (·.domain.crsOrGrid))) := by
    have hkept : distinct ["EPSG:4326", "EPSG:4326", "?1=a=b", "CRS:1"] =
        ["EPSG:4326", "?1=a=b", "CRS:1"] := by decide
    rw [hsystems, hkept]
    exact ⟨by decide, fun crs h => by simp at h⟩
  exact ⟨hseparable, systems_decoded.1 _ (List.cons_ne_nil _ _) hseparable, store, ctx, hstore,
    hmake, hsystems, hname, hdistinct, systems_decoded.2 ctx hretained hdistinct⟩

end Crs

end Datacube
