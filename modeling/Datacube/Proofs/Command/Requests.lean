import Datacube.Command.Run
import Datacube.Proofs.Response.Answer

-- The words of a command line and the parameters of a query string ask for a coverage alike, as
-- long as no axis is subsetted twice: only parameters are checked for that.
namespace Datacube.Response.KeyValues

open Result

variable {earlier out : List Subset} {texts : List String}

-- Each text reads as the subset at its place.
def Reads (texts : List String) (subsets : List Subset) : Prop :=
  List.Forall₂ (fun text s => Subset.parse text = .ok s) texts subsets

def Distinct (subsets : List Subset) : Prop :=
  (subsets.map (·.axis)).Nodup

theorem distinct_nil : Distinct [] := List.nodup_nil

theorem distinct_concat_iff {s : Subset} :
    Distinct (earlier ++ [s]) ↔ Distinct earlier ∧ ∀ u ∈ earlier, u.axis ≠ s.axis := by
  simp [Distinct, List.nodup_append]

theorem Distinct.left {more : List Subset} (h : Distinct (earlier ++ more)) : Distinct earlier := by
  rw [Distinct, List.map_append] at h
  exact h.of_append_left

-- The subsets of all texts, if their axes differ from each other and from those before.
theorem parseSubsets_eq_ok_iff (hearlier : Distinct earlier) :
    parseSubsets earlier texts = .ok out ↔
      ∃ more, Reads texts more ∧ Distinct (earlier ++ more) ∧ out = earlier ++ more := by
  induction texts generalizing earlier with
  | nil =>
      simp only [parseSubsets, Except.ok.injEq, Reads, List.forall₂_nil_left_iff,
        exists_eq_left, List.append_nil, hearlier, true_and]
      exact eq_comm
  | cons text texts ih =>
      simp only [Reads, List.forall₂_cons_left_iff, parseSubsets]
      cases hparse : Subset.parse text with
      | error e => simp
      | ok s =>
          simp only [ite_error_eq_ok, List.any_eq_true, decide_eq_true_eq, not_exists, not_and,
            Except.ok.injEq]
          constructor
          · rintro ⟨hnew, hrest⟩
            obtain ⟨more, hmore, hdistinct, rfl⟩ :=
              (ih (distinct_concat_iff.mpr ⟨hearlier, hnew⟩)).mp hrest
            exact ⟨s :: more, ⟨s, more, rfl, hmore, rfl⟩, by simpa using hdistinct, by simp⟩
          · rintro ⟨_, ⟨_, more, rfl, hmore, rfl⟩, hdistinct, rfl⟩
            have hdistinct' : Distinct (earlier ++ [s] ++ more) := by simpa using hdistinct
            have hconcat := hdistinct'.left
            exact ⟨(distinct_concat_iff.mp hconcat).2,
              (ih hconcat).mpr ⟨more, hmore, hdistinct', by simp⟩⟩

-- The first axis that comes again is refused, whatever follows it.
theorem parseSubsets_of_not_distinct {more : List Subset} (hmore : Reads texts more)
    (hearlier : Distinct earlier) (hrepeated : ¬Distinct (earlier ++ more)) :
    ∃ before s after, more = before ++ s :: after ∧ (∃ u ∈ earlier ++ before, u.axis = s.axis) ∧
      parseSubsets earlier texts =
        .error (.invalidAxis s.axis "axis subsetted more than once") := by
  induction hmore generalizing earlier with
  | nil => exact absurd (by simpa using hearlier) hrepeated
  | @cons text s texts more hparse _ ih =>
      by_cases hseen : ∃ u ∈ earlier, u.axis = s.axis
      · refine ⟨[], s, more, rfl, by simpa using hseen, ?_⟩
        simp only [parseSubsets, hparse]
        rw [if_pos (by simpa using hseen)]
      · have hnew : ∀ u ∈ earlier, u.axis ≠ s.axis := fun u hu h => hseen ⟨u, hu, h⟩
        obtain ⟨before, u, after, rfl, hu, herror⟩ :=
          ih (distinct_concat_iff.mpr ⟨hearlier, hnew⟩) (by simpa using hrepeated)
        refine ⟨s :: before, u, after, rfl, by simpa using hu, ?_⟩
        simp only [parseSubsets, hparse]
        rw [if_neg (by simpa using hseen), herror]

end Datacube.Response.KeyValues

namespace Datacube.Command

open Response (GetCoverage KeyValues Reply Templates)
open Response.KeyValues (Reads Distinct)
open Result

-- The parameters that ask for a coverage and subsets of it.
def parameters (id : String) (texts : List String) : KeyValues :=
  { service := some "WCS", request := some "GetCoverage", coverageId := some id, subsets := texts }

section Requests

variable {id : String} {texts : List String} {subsets : List Subset} {r : GetCoverage}

theorem parseSubsets_eq_ok_iff : parseSubsets texts = .ok subsets ↔ Reads texts subsets := by
  have hparse : ∀ text s, parseSubset text = .ok s ↔ Subset.parse text = .ok s := by
    intro text s
    unfold parseSubset
    split <;> simp_all
  simp only [parseSubsets, mapM_eq_ok_iff, hparse, Reads]

-- Parameters name the same request as words do, unless their subsets are refused.
theorem toRequest_parameters (hid : Text.Trimmed id) (hne : id ≠ "") :
    (parameters id texts).toRequest =
      (fun subsets => .getCoverage { id := id, subsets := subsets }) <$>
        KeyValues.parseSubsets [] texts := by
  have hrequest : (parameters id texts).toRequest =
      .getCoverage <$> (parameters id texts).toGetCoverage := rfl
  have hfilter : (some id).filter (fun id => decide (Text.trim id ≠ "")) = some id := by
    rw [Option.filter_some, if_pos (by rw [hid]; simpa using hne)]
  unfold Text.Trimmed at hid
  rw [hrequest]
  simp only [parameters, KeyValues.toGetCoverage, hfilter, hid]
  cases KeyValues.parseSubsets [] texts <;> rfl

theorem toRequest_parameters_eq_ok_iff (hid : Text.Trimmed id) (hne : id ≠ "") :
    (parameters id texts).toRequest = .ok (.getCoverage r) ↔
      ∃ subsets, Reads texts subsets ∧ Distinct subsets ∧
        { id := id, subsets := subsets } = r := by
  rw [toRequest_parameters hid hne]
  simp only [map_eq_ok, KeyValues.parseSubsets_eq_ok_iff KeyValues.distinct_nil, List.nil_append,
    Response.ServiceRequest.getCoverage.injEq]
  constructor
  · rintro ⟨subsets, ⟨_, hreads, hdistinct, rfl⟩, rfl⟩
    exact ⟨subsets, hreads, hdistinct, rfl⟩
  · rintro ⟨subsets, hreads, hdistinct, rfl⟩
    exact ⟨_, ⟨subsets, hreads, hdistinct, rfl⟩, rfl⟩

theorem toRequest_parameters_of_not_distinct (hid : Text.Trimmed id) (hne : id ≠ "")
    (hreads : Reads texts subsets) (hrepeated : ¬Distinct subsets) :
    ∃ before s after, subsets = before ++ s :: after ∧ (∃ u ∈ before, u.axis = s.axis) ∧
      (parameters id texts).toRequest =
        .error (.invalidAxis s.axis "axis subsetted more than once") := by
  obtain ⟨before, s, after, rfl, hu, herror⟩ :=
    KeyValues.parseSubsets_of_not_distinct hreads KeyValues.distinct_nil hrepeated
  refine ⟨before, s, after, rfl, hu, ?_⟩
  rw [toRequest_parameters hid hne, herror]
  rfl

end Requests

section Answers

variable (store : Store) (t : Templates) (settings : ResponseSettings) (id : String)
  (texts : List String) (data : Option String) (reply : Reply)

-- The subsets of the words are read, and the request is answered.
def WordsAnswered : Prop :=
  ∃ subsets, parseSubsets texts = .ok subsets ∧
    getCoverage store t settings { id := id, subsets := subsets } data = .ok reply

-- The parameters are read as a request for a coverage, and it is answered.
def ParametersAnswered : Prop :=
  ∃ r, (parameters id texts).toRequest = .ok (.getCoverage r) ∧
    getCoverage store t settings r data = .ok reply

-- Parameters get the answer that words get, if no axis is subsetted twice. Else they are refused
-- for the first axis that comes again.
theorem parametersAnswered_iff (hid : Text.Trimmed id) (hne : id ≠ "") :
    (ParametersAnswered store t settings id texts data reply ↔
        WordsAnswered store t settings id texts data reply ∧
          ∀ subsets, parseSubsets texts = .ok subsets → (subsets.map (·.axis)).Nodup) ∧
      ∀ subsets, parseSubsets texts = .ok subsets → ¬(subsets.map (·.axis)).Nodup →
        ∃ before s after, subsets = before ++ s :: after ∧ (∃ u ∈ before, u.axis = s.axis) ∧
          (parameters id texts).toRequest =
            .error (.invalidAxis s.axis "axis subsetted more than once") := by
  refine ⟨⟨?_, ?_⟩, fun subsets hsubsets hrepeated => ?_⟩
  · rintro ⟨r, hr, hreply⟩
    obtain ⟨subsets, hreads, hdistinct, rfl⟩ := (toRequest_parameters_eq_ok_iff hid hne).mp hr
    have hsubsets := parseSubsets_eq_ok_iff.mpr hreads
    refine ⟨⟨subsets, hsubsets, hreply⟩, fun others hothers => ?_⟩
    obtain rfl : subsets = others := Except.ok.inj (hsubsets.symm.trans hothers)
    exact hdistinct
  · rintro ⟨⟨subsets, hsubsets, hreply⟩, hdistinct⟩
    have hreads := parseSubsets_eq_ok_iff.mp hsubsets
    exact ⟨_, (toRequest_parameters_eq_ok_iff hid hne).mpr
      ⟨subsets, hreads, hdistinct subsets hsubsets, rfl⟩, hreply⟩
  · exact toRequest_parameters_of_not_distinct hid hne (parseSubsets_eq_ok_iff.mp hsubsets)
      hrepeated

end Answers

-- The answer of a grid without cells to words that can be read.
theorem wordsAnswered_row {store : Store} {c : Coverage} {ctx : Response.Context}
    {texts : List String} {subsets : List Subset} (hstore : Store.ofDefs [Sample.row] = .ok store)
    (hread : store.read "tiny" = .ok c) (htexts : ∀ t ∈ c.texts, Response.BraceFree t)
    (hsubsets : parseSubsets texts = .ok subsets)
    (hmake : Response.Context.make { id := "tiny", subsets := subsets } store = .ok ctx)
    (helement : Response.gridElement? ctx.kind = some "Grid") :
    ∃ reply, WordsAnswered store {} {} "tiny" texts none reply := by
  have hreply := @Response.handle_fallback store _ _ _ _ ⟨.text "", none⟩ _ _ _ _
    (Store.keyed_of_ofDefs hstore) hread htexts Response.braceFree_defaultUrn hmake helement rfl rfl
  exact ⟨_, subsets, hsubsets, hreply⟩

-- A trim of one axis, in both ways.
theorem parametersAnswered_trim :
    ∃ store reply, Store.ofDefs [Sample.row] = .ok store ∧
      WordsAnswered store {} {} "tiny" ["x(2,5)"] none reply ∧
      ParametersAnswered store {} {} "tiny" ["x(2,5)"] none reply := by
  obtain ⟨store, c, ctx, subsets, hstore, hread, htexts, hsubsets, hmake, helement, hdistinct⟩ :
      ∃ store c ctx subsets, Store.ofDefs [Sample.row] = .ok store ∧ store.read "tiny" = .ok c ∧
        (∀ t ∈ c.texts, Response.BraceFree t) ∧ parseSubsets ["x(2,5)"] = .ok subsets ∧
        Response.Context.make { id := "tiny", subsets := subsets } store = .ok ctx ∧
        Response.gridElement? ctx.kind = some "Grid" ∧ (subsets.map (·.axis)).Nodup :=
    ⟨_, _, _, [.trim "x" "2" "5"], rfl, rfl, by decide +kernel, rfl, rfl, rfl, by decide⟩
  obtain ⟨reply, hreply⟩ := wordsAnswered_row hstore hread htexts hsubsets hmake helement
  have htrimmed : Text.Trimmed "tiny" := (by decide +kernel : Text.trim "tiny" = "tiny")
  obtain ⟨hiff, -⟩ := parametersAnswered_iff store {} {} "tiny" ["x(2,5)"] none reply htrimmed
    (by decide)
  refine ⟨store, reply, hstore, hreply, hiff.mpr ⟨hreply, fun others hothers => ?_⟩⟩
  obtain rfl : subsets = others := Except.ok.inj (hsubsets.symm.trans hothers)
  exact hdistinct

-- An axis that is trimmed and then sliced: words are answered, parameters are refused.
theorem repeated_axis_answered :
    ∃ store reply, Store.ofDefs [Sample.row] = .ok store ∧
      WordsAnswered store {} {} "tiny" ["x(0,5)", "x(3)"] none reply ∧
      (parameters "tiny" ["x(0,5)", "x(3)"]).toRequest =
        .error (.invalidAxis "x" "axis subsetted more than once") ∧
      ∀ other, ¬ParametersAnswered store {} {} "tiny" ["x(0,5)", "x(3)"] none other := by
  obtain ⟨store, c, ctx, subsets, hstore, hread, htexts, hsubsets, hmake, helement, hrefused⟩ :
      ∃ store c ctx subsets, Store.ofDefs [Sample.row] = .ok store ∧ store.read "tiny" = .ok c ∧
        (∀ t ∈ c.texts, Response.BraceFree t) ∧ parseSubsets ["x(0,5)", "x(3)"] = .ok subsets ∧
        Response.Context.make { id := "tiny", subsets := subsets } store = .ok ctx ∧
        Response.gridElement? ctx.kind = some "Grid" ∧
        (parameters "tiny" ["x(0,5)", "x(3)"]).toRequest =
          .error (.invalidAxis "x" "axis subsetted more than once") :=
    ⟨_, _, _, [.trim "x" "0" "5", .slice "x" "3"], rfl, rfl, by decide +kernel, rfl, rfl, rfl, rfl⟩
  obtain ⟨reply, hreply⟩ := wordsAnswered_row hstore hread htexts hsubsets hmake helement
  refine ⟨store, reply, hstore, hreply, hrefused, ?_⟩
  rintro other ⟨r, hr, -⟩
  simp [hrefused] at hr

end Datacube.Command
