import Datacube.Proofs.Number.Integer
import Datacube.Proofs.Number.Text
import Datacube.Proofs.Outcome
import Datacube.Proofs.Text.Pieces
import Datacube.Proofs.Text.Trim
import Datacube.Response.TupleList
import Datacube.Schema
import Mathlib.Order.Bounds.Basic

-- The bounds around several spatial domains. They are found in doubles, so that a bound is read as
-- the double next to it.
namespace Datacube.Response

open Number (intText floatText floatTexts IsNumeral)
open Text (All)

abbrev Domain := List (Int × Int)

def intervalText (interval : Int × Int) : String :=
  intText interval.1 ++ ":" ++ intText interval.2

def domainBody (d : Domain) : String :=
  ",".intercalate (d.map intervalText)

def domainText (d : Domain) : String :=
  "[" ++ domainBody d ++ "]"

section Hull

-- The bounds on one side of the domains along one axis.
def along (side : Int × Int → Int) (domains : List Domain) (axis : Nat) : Set Int :=
  {bound | ∃ d ∈ domains, d[axis]?.map side = some bound}

-- The least domain around all: along each axis from the least lower bound to the greatest upper
-- one.
structure Hull (domains : List Domain) (hull : Domain) : Prop where
  length : ∀ d ∈ domains, d.length = hull.length
  lower : ∀ axis interval, hull[axis]? = some interval →
    IsLeast (along Prod.fst domains axis) interval.1
  upper : ∀ axis interval, hull[axis]? = some interval →
    IsGreatest (along Prod.snd domains axis) interval.2

def joinIntervals (a b : Int × Int) : Int × Int :=
  (min a.1 b.1, max a.2 b.2)

def join (hull d : Domain) : Domain :=
  List.zipWith joinIntervals hull d

variable {domains : List Domain} {hull d : Domain} {axis : Nat} {interval : Int × Int}

theorem along_concat (side : Int × Int → Int) (h : d[axis]? = some interval) :
    along side (domains ++ [d]) axis = along side domains axis ∪ {side interval} := by
  ext bound
  simp only [along, List.mem_append, List.mem_singleton, or_and_right, exists_or, exists_eq_left, h,
    Option.map_some, Option.some_inj, Set.mem_ofPred_eq, Set.mem_union, Set.mem_singleton_iff,
    @eq_comm _ bound]

theorem along_single (side : Int × Int → Int) (h : d[axis]? = some interval) :
    along side [d] axis = {side interval} := by
  ext bound
  simp only [along, List.mem_singleton, exists_eq_left, h, Option.map_some, Option.some_inj,
    Set.mem_ofPred_eq, Set.mem_singleton_iff, @eq_comm _ bound]

theorem hull_single (d : Domain) : Hull [d] d where
  length := by simp
  lower axis interval h := along_single Prod.fst h ▸ isLeast_singleton
  upper axis interval h := along_single Prod.snd h ▸ isGreatest_singleton

theorem length_join (h : d.length = hull.length) : (join hull d).length = hull.length := by
  simp [join, h]

theorem Hull.concat (h : Hull domains hull) (hlength : d.length = hull.length) :
    Hull (domains ++ [d]) (join hull d) := by
  have hparts : ∀ (axis : Nat) (interval : Int × Int), (join hull d)[axis]? = some interval →
      ∃ a b, hull[axis]? = some a ∧ d[axis]? = some b ∧ joinIntervals a b = interval := by
    intro axis interval haxis
    exact List.getElem?_zipWith_eq_some.mp haxis
  refine ⟨fun e he => ?_, fun axis interval haxis => ?_, fun axis interval haxis => ?_⟩
  · rw [length_join hlength]
    rcases List.mem_append.mp he with he | he
    · exact h.length e he
    · rwa [List.mem_singleton.mp he]
  · obtain ⟨a, b, ha, hb, rfl⟩ := hparts axis interval haxis
    rw [along_concat Prod.fst hb]
    exact (h.lower axis a ha).union isLeast_singleton
  · obtain ⟨a, b, ha, hb, rfl⟩ := hparts axis interval haxis
    rw [along_concat Prod.snd hb]
    exact (h.upper axis a ha).union isGreatest_singleton

theorem Hull.foldl (h : Hull domains hull) {rest : List Domain}
    (hlength : ∀ d ∈ rest, d.length = hull.length) :
    Hull (domains ++ rest) (rest.foldl join hull) := by
  induction rest generalizing domains hull with
  | nil => simpa using h
  | cons d rest ih =>
      obtain ⟨hd, hrest⟩ := List.forall_mem_cons.mp hlength
      have hjoined : ∀ e ∈ rest, e.length = (join hull d).length :=
        fun e he => (hrest e he).trans (length_join hd).symm
      simpa using ih (h.concat hd) hjoined

-- The bounds of the hull are bounds of the domains.
theorem Hull.forall_mem {p : Int → Prop} (h : Hull domains hull)
    (hp : ∀ d ∈ domains, ∀ interval ∈ d, p interval.1 ∧ p interval.2) :
    ∀ interval ∈ hull, p interval.1 ∧ p interval.2 := by
  intro interval hmem
  obtain ⟨axis, haxis⟩ := List.mem_iff_getElem?.mp hmem
  obtain ⟨d, hd, hlow⟩ := (h.lower axis interval haxis).1
  obtain ⟨e, he, hhigh⟩ := (h.upper axis interval haxis).1
  obtain ⟨a, ha, hlow⟩ := Option.map_eq_some_iff.mp hlow
  obtain ⟨b, hb, hhigh⟩ := Option.map_eq_some_iff.mp hhigh
  exact ⟨hlow ▸ (hp d hd a (List.mem_of_getElem? ha)).1,
    hhigh ▸ (hp e he b (List.mem_of_getElem? hb)).2⟩

end Hull

section Reading

-- The doubles next to the bounds of an interval.
def rounded (interval : Int × Int) : Float × Float :=
  (Float.ofInt interval.1, Float.ofInt interval.2)

theorem widen_rounded (a b : Int × Int) :
    widen (rounded a) (some (rounded b)) = rounded (joinIntervals a b) := by
  simp [widen, rounded, joinIntervals, Number.leastFloat_ofInt, Number.greatestFloat_ofInt]

theorem widen_empty (a : Int × Int) : widen emptyBounds (some (rounded a)) = rounded a := by
  simp [widen, rounded, emptyBounds, Number.leastFloat_infinity, Number.greatestFloat_infinity]

theorem widenAll_empty (d : Domain) :
    widenAll [] (d.map fun i => some (rounded i)) = d.map rounded := by
  induction d with
  | nil => rfl
  | cons i d ih => rw [List.map_cons, widenAll, widen_empty, ih, List.map_cons]

theorem widenAll_rounded {hull d : Domain} (h : d.length = hull.length) :
    widenAll (hull.map rounded) (d.map fun i => some (rounded i)) =
      (join hull d).map rounded := by
  induction hull generalizing d with
  | nil =>
      obtain rfl := List.length_eq_zero_iff.mp h
      rfl
  | cons b hull ih =>
      cases d with
      | nil => simp at h
      | cons i d =>
          rw [List.map_cons, List.map_cons, widenAll, widen_rounded, ih (by simpa using h)]
          rfl

theorem parseInterval_text (i : Int × Int) :
    parseInterval (intervalText i).toList = .ok (some (rounded i)) := by
  have hcolon : ':' ∉ (intText i.1).toList := (Number.all_intText i.1).not_mem (by decide)
  have hcut : Text.cut ':' (intervalText i).toList =
      some ((intText i.1).toList, (intText i.2).toList) := by
    simpa [intervalText] using Text.cut_append hcolon (intText i.2).toList
  have hnumber : ∀ n, Number.parseFloat (Text.trim (intText n)) = some (Float.ofInt n) := by
    intro n
    rw [Text.trim_of_not_blank fun c hc => (Number.isWord_intText n).2 c hc,
      Number.parseFloat_intText]
  simp [parseInterval, hcut, hnumber, rounded]

theorem all_intervalText {p : Char → Prop} (hcolon : p ':') (hnumeral : ∀ c, IsNumeral c → p c)
    (i : Int × Int) : All p (intervalText i) := by
  have htext : ∀ n, All p (intText n) := fun n => (Number.all_intText n).mono hnumeral
  rw [intervalText, Text.all_append, Text.all_append]
  exact ⟨⟨htext i.1, by simpa [All] using hcolon⟩, htext i.2⟩

theorem not_mem_domainBody (d : Domain) : ']' ∉ (domainBody d).toList := by
  have hbody : All (· ≠ ']') (domainBody d) := by
    refine Text.all_intercalate (by decide) fun t ht => ?_
    obtain ⟨i, -, rfl⟩ := List.mem_map.mp ht
    exact all_intervalText (by decide) (fun c hc => hc.ne (by decide)) i
  exact hbody.not_mem (by simp)

theorem widenByDomain_body {d : Domain} (hd : d ≠ []) (bounds : List (Float × Float)) :
    widenByDomain bounds (domainBody d).toList =
      .ok (widenAll bounds (d.map fun i => some (rounded i))) := by
  have hbody : (domainBody d).toList =
      [','].intercalate (d.map fun i => (intervalText i).toList) := by
    rw [domainBody, String.toList_intercalate, List.map_map]
    rfl
  have hpieces : Text.pieces ',' (domainBody d).toList =
      d.map fun i => (intervalText i).toList := by
    rw [hbody]
    refine Text.pieces_intercalate (by simpa using hd) fun part hpart => ?_
    obtain ⟨i, -, rfl⟩ := List.mem_map.mp hpart
    exact (all_intervalText (p := (· ≠ ',')) (by decide)
      (fun c hc => hc.ne (by decide)) i).not_mem (by simp)
  have hintervals : (d.map fun i => (intervalText i).toList).mapM parseInterval =
      .ok (d.map fun i => some (rounded i)) := by
    rw [Result.mapM_eq_ok_iff, List.forall₂_map_left_iff, List.forall₂_map_right_iff,
      List.forall₂_same]
    exact fun i _ => parseInterval_text i
  rw [widenByDomain, hpieces, hintervals]
  rfl

-- Domains are told apart by the brackets between them.
theorem splitDomains_append {body : List Char} (h : ']' ∉ body) (rest : List Char) :
    splitDomains (body ++ ']' :: '[' :: rest) = body :: splitDomains rest := by
  induction body with
  | nil => simp [splitDomains]
  | cons c body ih =>
      rw [List.mem_cons, not_or] at h
      cases body with
      | nil => simp [splitDomains, Ne.symm h.1]
      | cons d body =>
          have htail := ih h.2
          rw [List.cons_append] at htail
          simp [splitDomains, Ne.symm h.1, htail]

theorem splitDomains_of_not_mem {body : List Char} (h : ']' ∉ body) :
    splitDomains body = [body] := by
  induction body with
  | nil => rfl
  | cons c body ih =>
      rw [List.mem_cons, not_or] at h
      cases body with
      | nil => rfl
      | cons d body => simp [splitDomains, Ne.symm h.1, ih h.2]

theorem splitDomains_intercalate {bodies : List (List Char)} (hne : bodies ≠ [])
    (h : ∀ body ∈ bodies, ']' ∉ body) :
    splitDomains ([']', '['].intercalate bodies) = bodies := by
  induction bodies with
  | nil => exact absurd rfl hne
  | cons body bodies ih =>
      obtain ⟨hbody, hbodies⟩ := List.forall_mem_cons.mp h
      cases bodies with
      | nil => rw [List.intercalate_singleton, splitDomains_of_not_mem hbody]
      | cons next bodies =>
          rw [List.intercalate_cons_cons, List.append_assoc]
          exact (splitDomains_append hbody _).trans
            (congrArg _ (ih (List.cons_ne_nil _ _) hbodies))

-- All domains in a row, between the first bracket and the last.
theorem toList_join_domainText {domains : List Domain} (hne : domains ≠ []) :
    (String.join (domains.map domainText)).toList =
      '[' :: ([']', '['].intercalate (domains.map fun d => (domainBody d).toList) ++ [']']) := by
  induction domains with
  | nil => exact absurd rfl hne
  | cons d domains ih =>
      have hd : (domainText d).toList = '[' :: ((domainBody d).toList ++ [']']) := by
        simp [domainText]
      cases domains with
      | nil => simpa using hd
      | cons next domains =>
          have hrest := ih (List.cons_ne_nil _ _)
          rw [List.map_cons, String.join_cons, String.toList_append, hd, hrest]
          simp [List.intercalate_cons_cons]

theorem insideBrackets_join {domains : List Domain} (hne : domains ≠ []) :
    insideBrackets? (Text.trimChars (String.join (domains.map domainText)).toList) =
      some ([']', '['].intercalate (domains.map fun d => (domainBody d).toList)) := by
  rw [toList_join_domainText hne, Text.trimChars, Text.stripEnds_of_ends]
  · simp [insideBrackets?]
  · intro c hc
    obtain rfl : '[' = c := by simpa using hc
    decide
  · intro c hc
    rw [← List.cons_append, List.getLast?_concat] at hc
    obtain rfl : ']' = c := Option.some.inj hc
    decide

-- A further domain widens the doubles as it widens the hull.
theorem foldlM_widenByDomain {hull : Domain} {rest : List Domain} (hne : hull ≠ [])
    (hlength : ∀ d ∈ rest, d.length = hull.length) :
    (rest.map fun d => (domainBody d).toList).foldlM widenByDomain (hull.map rounded) =
      .ok ((rest.foldl join hull).map rounded) := by
  induction rest generalizing hull with
  | nil => rfl
  | cons d rest ih =>
      obtain ⟨hd, hrest⟩ := List.forall_mem_cons.mp hlength
      have hdne : d ≠ [] := List.ne_nil_of_length_pos (hd ▸ List.length_pos_iff.mpr hne)
      have hjoin : join hull d ≠ [] :=
        List.ne_nil_of_length_pos ((length_join hd).symm ▸ List.length_pos_iff.mpr hne)
      have hjoined : ∀ e ∈ rest, e.length = (join hull d).length :=
        fun e he => (hrest e he).trans (length_join hd).symm
      rw [List.map_cons, List.foldlM_cons, widenByDomain_body hdne, Result.ok_bind,
        widenAll_rounded hd, ih hjoin hjoined, List.foldl_cons]

theorem domainBounds_foldl {d : Domain} {rest : List Domain} (hne : d ≠ [])
    (hlength : ∀ e ∈ rest, e.length = d.length) :
    domainBounds (String.join ((d :: rest).map domainText)) =
      .ok (floatTexts (((rest.foldl join d).map Prod.fst).map Float.ofInt),
        floatTexts (((rest.foldl join d).map Prod.snd).map Float.ofInt)) := by
  have hsplit : splitDomains
      ([']', '['].intercalate ((d :: rest).map fun e => (domainBody e).toList)) =
      (d :: rest).map fun e => (domainBody e).toList := by
    refine splitDomains_intercalate (by simp) fun body hbody => ?_
    obtain ⟨e, -, rfl⟩ := List.mem_map.mp hbody
    exact not_mem_domainBody e
  have hwidened : ((d :: rest).map fun e => (domainBody e).toList).foldlM widenByDomain [] =
      .ok ((rest.foldl join d).map rounded) := by
    rw [List.map_cons, List.foldlM_cons, widenByDomain_body hne, Result.ok_bind, widenAll_empty,
      foldlM_widenByDomain hne hlength]
  rw [domainBounds, insideBrackets_join (List.cons_ne_nil _ _)]
  dsimp only
  rw [hsplit, hwidened, Result.ok_bind]
  simp only [List.map_map]
  rfl

-- Schemas write their own domain in this notation.
theorem sdom_eq_domainText (s : Schema) : s.sdom = domainText s.extents := by
  simp [Schema.sdom, domainText, domainBody, Schema.extents, intervalText, CellExtent.interval,
    Function.comp_def]

theorem domainBounds_sdom (s : Schema) (h : s.extents ≠ []) :
    domainBounds s.sdom =
      .ok (floatTexts ((s.extents.map Prod.fst).map Float.ofInt),
        floatTexts ((s.extents.map Prod.snd).map Float.ofInt)) := by
  have hbounds := @domainBounds_foldl s.extents [] h (by simp)
  simpa [sdom_eq_domainText] using hbounds

end Reading

section Exact

def intTexts (ns : List Int) : String :=
  " ".intercalate (ns.map intText)

-- An integer that is still itself when it is read as a double and written again.
def Exact (n : Int) : Prop :=
  floatText (Float.ofInt n) = intText n

theorem exact_of_le {n : Int} (h : n.natAbs ≤ 2 ^ 53) : Exact n :=
  Number.floatText_ofInt h

theorem floatTexts_eq_intTexts_iff {ns : List Int} :
    floatTexts (ns.map Float.ofInt) = intTexts ns ↔ ∀ n ∈ ns, Exact n := by
  have hfloats : Text.words (floatTexts (ns.map Float.ofInt)) =
      (ns.map Float.ofInt).map floatText := by
    refine Text.words_intercalate fun t ht => ?_
    obtain ⟨x, -, rfl⟩ := List.mem_map.mp ht
    exact Number.isWord_floatText x
  have hints : Text.words (intTexts ns) = ns.map intText := by
    refine Text.words_intercalate fun t ht => ?_
    obtain ⟨n, -, rfl⟩ := List.mem_map.mp ht
    exact Number.isWord_intText n
  constructor
  · intro heq
    rw [heq, hints, List.map_map] at hfloats
    exact fun n hn => (List.map_inj_left.mp hfloats n hn).symm
  · intro hexact
    rw [floatTexts, List.map_map, intTexts]
    exact congrArg _ (List.map_congr_left hexact)

end Exact

-- The bounds around domains of one dimension are the doubles next to those of their hull, and their
-- texts are exact as long as those of the doubles are.
theorem domainBounds_hull {n : Nat} {domains : List Domain} (hne : domains ≠ []) (hn : 0 < n)
    (hlength : ∀ d ∈ domains, d.length = n) :
    ∃ hull, Hull domains hull ∧
      domainBounds (String.join (domains.map domainText)) =
        .ok (floatTexts ((hull.map Prod.fst).map Float.ofInt),
          floatTexts ((hull.map Prod.snd).map Float.ofInt)) ∧
      (domainBounds (String.join (domains.map domainText)) =
          .ok (intTexts (hull.map Prod.fst), intTexts (hull.map Prod.snd)) ↔
        ∀ interval ∈ hull, Exact interval.1 ∧ Exact interval.2) ∧
      ((∀ d ∈ domains, ∀ interval ∈ d,
          interval.1.natAbs ≤ 2 ^ 53 ∧ interval.2.natAbs ≤ 2 ^ 53) →
        domainBounds (String.join (domains.map domainText)) =
          .ok (intTexts (hull.map Prod.fst), intTexts (hull.map Prod.snd))) := by
  cases domains with
  | nil => exact absurd rfl hne
  | cons d rest =>
      obtain ⟨hd, hrest⟩ := List.forall_mem_cons.mp hlength
      have hdne : d ≠ [] := List.ne_nil_of_length_pos (hd.symm ▸ hn)
      have hsame : ∀ e ∈ rest, e.length = d.length := fun e he => (hrest e he).trans hd.symm
      have hhull : Hull (d :: rest) (rest.foldl join d) := (hull_single d).foldl hsame
      have hbounds := domainBounds_foldl hdne hsame
      have hexact : domainBounds (String.join ((d :: rest).map domainText)) =
            .ok (intTexts ((rest.foldl join d).map Prod.fst),
              intTexts ((rest.foldl join d).map Prod.snd)) ↔
          ∀ interval ∈ rest.foldl join d, Exact interval.1 ∧ Exact interval.2 := by
        rw [hbounds, Except.ok.injEq, Prod.mk.injEq, floatTexts_eq_intTexts_iff,
          floatTexts_eq_intTexts_iff]
        simp only [List.forall_mem_map, forall_and]
      refine ⟨rest.foldl join d, hhull, hbounds, hexact, fun hsmall => hexact.mpr ?_⟩
      have hbetween := hhull.forall_mem (p := fun bound => bound.natAbs ≤ 2 ^ 53) hsmall
      exact fun interval hmem => (hbetween interval hmem).imp exact_of_le exact_of_le

def overlappingDomains : List Domain :=
  [[(0, 9), (0, 19)], [(2, 5), (1, 30)]]

theorem domainBounds_hull_merged :
    String.join (overlappingDomains.map domainText) = "[0:9,0:19][2:5,1:30]" ∧
      ∃ hull, Hull overlappingDomains hull ∧
        domainBounds "[0:9,0:19][2:5,1:30]" =
          .ok (intTexts (hull.map Prod.fst), intTexts (hull.map Prod.snd)) := by
  have htext : String.join (overlappingDomains.map domainText) = "[0:9,0:19][2:5,1:30]" := by
    decide
  obtain ⟨hull, hhull, -, -, hexact⟩ :=
    @domainBounds_hull 2 overlappingDomains (by decide) (by decide) (by decide)
  rw [htext] at hexact
  exact ⟨htext, hull, hhull, hexact (by decide)⟩

-- Beyond 2 ^ 53 the double next to a bound may be another integer.
theorem domainBounds_beyond_doubles :
    String.join ([[(0, 9007199254740993)]].map domainText) = "[0:9007199254740993]" ∧
      Hull [[(0, 9007199254740993)]] [(0, 9007199254740993)] ∧
      domainBounds "[0:9007199254740993]" = .ok ("0", "9007199254740992") ∧
      domainBounds "[0:9007199254740993]" ≠
        .ok (intTexts [0], intTexts [9007199254740993]) := by
  have hread : domainBounds "[0:9007199254740993]" = .ok ("0", "9007199254740992") := by
    decide +kernel
  exact ⟨by decide, hull_single _, hread, by rw [hread]; decide⟩

end Datacube.Response
