import Datacube.Axis
import Datacube.Proofs.Number.Order
import Datacube.Proofs.Outcome
import Datacube.Proofs.Text.Trim

-- Which definitions of an axis are accepted, what becomes of them, and how the others are refused.
namespace Datacube

open Result

theorem Crs.isGrid_grid : isGrid grid = true := by decide +kernel

theorem Crs.exists_grid_normalize (names : List String) :
    ∃ crs ∈ Crs.normalize names, Crs.isGrid crs = true := by
  unfold Crs.normalize Crs.withGrid
  split
  · next h => simpa using h
  · exact ⟨grid, by simp, isGrid_grid⟩

-- The error is about the metadata of what is named.
def Error.Blames (locator : String) (e : Error) : Prop :=
  ∃ message, e = .invalidMetadata locator message

-- The words for a kind, in lower case.
def AxisKind.words : AxisKind → List String
  | x => ["x"]
  | y => ["y"]
  | time => ["t", "time"]
  | other => ["other"]

-- A label names a kind in any case and with any blanks around it.
def AxisKind.Named (kind : AxisKind) (label : String) : Prop :=
  Text.lowerAscii (Text.trim label) ∈ kind.words

theorem AxisKind.ofLabel?_eq_some_iff {label : String} {kind : AxisKind} :
    ofLabel? label = some kind ↔ kind.Named label := by
  unfold ofLabel? Named
  constructor
  · intro h
    split at h <;> cases h <;> simp_all [words]
  · intro h
    cases kind <;> simp only [words, List.mem_cons, List.not_mem_nil, or_false] at h
    case time => rcases h with h | h <;> rw [h] <;> rfl
    all_goals rw [h]; rfl

theorem AxisKind.named_trim {label : String} {kind : AxisKind} :
    kind.Named (Text.trim label) ↔ kind.Named label := by
  rw [Named, Text.trim_trim, Named]

-- Numbers between which an axis may run.
structure NumericBounds.Acceptable (b : NumericBounds) : Prop where
  lo_finite : b.lo.isFinite = true
  hi_finite : b.hi.isFinite = true
  ordered : b.lo ≤ b.hi

-- Texts between which an axis may run. Only timestamps have an order.
structure TextualBounds.Acceptable (b : TextualBounds) : Prop where
  lo_ne : b.lo ≠ ""
  hi_ne : b.hi ≠ ""
  ordered : ∀ lo hi, Timestamp.parse? b.lo = some lo → Timestamp.parse? b.hi = some hi →
    hi.before lo = false

theorem NumericBounds.ofPair?_eq_some_iff {lo hi : Option Float} {b : NumericBounds} :
    ofPair? lo hi = some b ↔ lo = some b.lo ∧ hi = some b.hi := by
  obtain ⟨l, h⟩ := b
  cases lo <;> cases hi <;> simp [ofPair?]

theorem TextualBounds.ofPair?_eq_some_iff {lo hi : Option String} {b : TextualBounds} :
    ofPair? lo hi = some b ↔ lo = some b.lo ∧ hi = some b.hi := by
  obtain ⟨l, h⟩ := b
  cases lo <;> cases hi <;> simp [ofPair?]

theorem TextualBounds.acceptable_iff {b : TextualBounds} :
    b.Acceptable ↔ b.hasEmpty = false ∧ b.isReversed = false := by
  have hordered : (∀ lo hi, Timestamp.parse? b.lo = some lo → Timestamp.parse? b.hi = some hi →
      hi.before lo = false) ↔ b.isReversed = false := by
    unfold isReversed
    split <;> simp_all
  constructor
  · intro h
    exact ⟨by simp [hasEmpty, h.lo_ne, h.hi_ne], hordered.mp h.ordered⟩
  · rintro ⟨hempty, hreversed⟩
    simp only [hasEmpty, Bool.or_eq_false_iff, beq_eq_false_iff_ne] at hempty
    exact ⟨hempty.1, hempty.2, hordered.mpr hreversed⟩

namespace AxisDef

variable {d : AxisDef} {kind : AxisKind}

def numeric? (d : AxisDef) : Option NumericBounds :=
  NumericBounds.ofPair? d.numLo d.numHi

def textual? (d : AxisDef) : Option TextualBounds :=
  TextualBounds.ofPair? d.strLo d.strHi

def HasNumeric (d : AxisDef) : Prop :=
  ∃ b : NumericBounds, d.numLo = some b.lo ∧ d.numHi = some b.hi ∧ b.Acceptable

def HasTextual (d : AxisDef) : Prop :=
  ∃ b : TextualBounds, d.strLo = some b.lo ∧ d.strHi = some b.hi ∧ b.Acceptable

def NoNumeric (d : AxisDef) : Prop :=
  d.numLo = none ∧ d.numHi = none

def NoTextual (d : AxisDef) : Prop :=
  d.strLo = none ∧ d.strHi = none

-- Space is measured by numbers. So is time, where texts may be given beside them. Any other axis has
-- either numbers or texts.
def Bounded (d : AxisDef) : AxisKind → Prop
  | .x | .y => d.HasNumeric ∧ d.NoTextual
  | .time => d.HasNumeric ∧
      ∀ b : TextualBounds, d.strLo = some b.lo → d.strHi = some b.hi → b.Acceptable
  | .other => d.HasNumeric ∧ d.NoTextual ∨ d.HasTextual ∧ d.NoNumeric

-- The axis that a definition describes.
def axis (d : AxisDef) (kind : AxisKind) : Axis where
  name := Text.trim d.name
  kind := kind
  numeric := d.numeric?
  textual := d.textual?
  crsSet := Crs.normalize d.crsSet
  uom := d.uom.filter (· ≠ "")
  resolution := .one

-- What a refusal of the definition is about.
def locator (d : AxisDef) : String :=
  if Text.trim d.name = "" then "<unnamed axis>" else Text.trim d.name

theorem hasNumeric_iff : d.HasNumeric ↔ ∃ b, d.numeric? = some b ∧ b.Acceptable := by
  simp only [HasNumeric, numeric?, NumericBounds.ofPair?_eq_some_iff, and_assoc]

theorem hasTextual_iff : d.HasTextual ↔ ∃ b, d.textual? = some b ∧ b.Acceptable := by
  simp only [HasTextual, textual?, TextualBounds.ofPair?_eq_some_iff, and_assoc]

theorem NoNumeric.numeric?_eq (h : d.NoNumeric) : d.numeric? = none := by
  simp [numeric?, NumericBounds.ofPair?, h.1]

theorem NoTextual.textual?_eq (h : d.NoTextual) : d.textual? = none := by
  simp [textual?, TextualBounds.ofPair?, h.1]

-- The pairs that are complete are acceptable, and there are those that the kind needs.
theorem bounded_iff : d.Bounded kind ↔
    (∀ b, d.numeric? = some b → b.Acceptable) ∧ (∀ b, d.textual? = some b → b.Acceptable) ∧
      (d.numeric?.isSome ∧ d.NoTextual ∨ d.textual?.isSome ∧ d.NoNumeric ∨ kind = .time) ∧
      (kind ≠ .other → d.numeric?.isSome) := by
  have hnumeric : d.HasNumeric ↔ d.numeric?.isSome ∧ ∀ b, d.numeric? = some b → b.Acceptable := by
    rw [hasNumeric_iff]
    cases d.numeric? <;> simp
  have htextual : d.HasTextual ↔ d.textual?.isSome ∧ ∀ b, d.textual? = some b → b.Acceptable := by
    rw [hasTextual_iff]
    cases d.textual? <;> simp
  have hnoNumeric : d.NoNumeric → d.numeric? = none := NoNumeric.numeric?_eq
  have hnoTextual : d.NoTextual → d.textual? = none := NoTextual.textual?_eq
  have hbeside : (∀ b : TextualBounds, d.strLo = some b.lo → d.strHi = some b.hi → b.Acceptable) ↔
      ∀ b, d.textual? = some b → b.Acceptable := by
    simp only [textual?, TextualBounds.ofPair?_eq_some_iff, and_imp]
  cases kind <;> simp only [Bounded, hnumeric, htextual, hbeside]
  all_goals grind

end AxisDef

namespace Axis

variable {d : AxisDef} {allowed : List AxisKind} {kind : AxisKind} {name label : String}
  {numeric : Option NumericBounds} {textual : Option TextualBounds} {a : Axis} {e : Error}

theorem chooseKind_eq_ok_iff :
    chooseKind name label allowed = .ok kind ↔ kind.Named label ∧ kind ∈ allowed := by
  have hfilter : (AxisKind.ofLabel? label).filter (· ∈ allowed) = some kind ↔
      kind.Named label ∧ kind ∈ allowed := by
    rw [Option.filter_eq_some_iff, AxisKind.ofLabel?_eq_some_iff, decide_eq_true_iff]
  rw [← hfilter]
  unfold chooseKind
  split
  · next hfound => rw [hfound, Except.ok.injEq, Option.some.injEq]
  · next hnone => simp [hnone]

theorem chooseBounds_eq_ok_iff : chooseBounds name kind d = .ok (numeric, textual) ↔
    (∀ b, d.textual? = some b → b.hasEmpty = false) ∧ numeric = d.numeric? ∧ textual = d.textual? ∧
      (d.numeric?.isSome ∧ d.NoTextual ∨ d.textual?.isSome ∧ d.NoNumeric ∨ kind = .time) := by
  have hempty : ¬d.textual?.any (·.hasEmpty) = true ↔
      ∀ b, d.textual? = some b → b.hasEmpty = false := by
    cases d.textual? <;> simp
  have hnumeric : (d.numeric?.isSome && !(d.strLo.isSome || d.strHi.isSome)) = true ↔
      d.numeric?.isSome ∧ d.NoTextual := by
    simp [AxisDef.NoTextual]
  have htextual : (d.textual?.isSome && !(d.numLo.isSome || d.numHi.isSome)) = true ↔
      d.textual?.isSome ∧ d.NoNumeric := by
    simp [AxisDef.NoNumeric]
  have hpair : ∀ x y, (.ok (x, y) : Result _) = .ok (numeric, textual) ↔
      numeric = x ∧ textual = y := fun x y => by
    rw [Except.ok.injEq, Prod.mk.injEq, eq_comm, eq_comm (a := y)]
  refine ite_error_eq_ok.trans (and_congr hempty ?_)
  -- The pair that is not complete is not there at all, unless on a time axis.
  split
  · next h =>
    obtain ⟨hcomplete, hnone⟩ := hnumeric.mp h
    exact (hpair d.numeric? none).trans (by simp [hcomplete, hnone, hnone.textual?_eq])
  · next hnot =>
    split
    · next h =>
      obtain ⟨hcomplete, hnone⟩ := htextual.mp h
      exact (hpair none d.textual?).trans (by simp [hcomplete, hnone, hnone.numeric?_eq])
    · next hnot' =>
      split
      · next htime => exact (hpair d.numeric? d.textual?).trans (by simp [htime])
      · next htime => simp [mt hnumeric.mpr hnot, mt htextual.mpr hnot', htime]

theorem checkNumeric_eq_ok_iff :
    checkNumeric name numeric = .ok () ↔ ∀ b, numeric = some b → b.Acceptable := by
  cases numeric with
  | none => simp [checkNumeric]
  | some b =>
      simp only [checkNumeric, ite_error_eq_ok, Bool.or_eq_true, Bool.not_eq_true', not_or,
        Bool.not_eq_false, Option.some.injEq, forall_eq', and_true]
      constructor
      · rintro ⟨⟨hlo, hhi⟩, horder⟩
        exact ⟨hlo, hhi, Number.le_of_not_lt hlo hhi horder⟩
      · rintro ⟨hlo, hhi, horder⟩
        refine ⟨⟨hlo, hhi⟩, ?_⟩
        exact (Number.not_lt_iff_le (Number.ne_notANumber_of_isFinite hlo)
          (Number.ne_notANumber_of_isFinite hhi)).mpr horder

theorem checkMeasured_eq_ok_iff :
    checkMeasured name kind numeric = .ok () ↔ (kind ≠ .other → numeric.isSome) := by
  unfold checkMeasured
  simp only [ite_error_eq_ok, Bool.and_eq_true, not_and, Option.isNone_iff_eq_none]
  cases kind <;> cases numeric <;> simp [AxisKind.isSpatial]

theorem checkTimeOrder_eq_ok_iff :
    checkTimeOrder name textual = .ok () ↔ ∀ b, textual = some b → b.isReversed = false := by
  cases textual <;> simp [checkTimeOrder]

-- A definition is accepted as an axis of a kind that it names and whose bounds it gives.
theorem make_eq_ok_iff : make d allowed = .ok a ↔ Text.trim d.name ≠ "" ∧
    ∃ kind ∈ allowed, kind.Named d.kind ∧ d.Bounded kind ∧ a = d.axis kind := by
  have hlabel : ∀ {kind : AxisKind}, kind.Named d.kind → Text.trim d.kind ≠ "" := by
    intro kind hnamed hempty
    rw [AxisKind.Named, hempty] at hnamed
    cases kind <;> simp [AxisKind.words, Text.lowerAscii] at hnamed
  simp only [make, throw_bind, ite_throw_eq_ok, bind_eq_ok, pure_eq_ok, Prod.exists,
    chooseKind_eq_ok_iff, chooseBounds_eq_ok_iff, AxisKind.named_trim, AxisDef.bounded_iff,
    TextualBounds.acceptable_iff]
  constructor
  · rintro ⟨hname, -, kind, ⟨hnamed, hallowed⟩, _, _, ⟨hempty, rfl, rfl, hpair⟩, ⟨⟩, hnumeric, ⟨⟩,
      hmeasured, ⟨⟩, hordered, rfl⟩
    have hordered := checkTimeOrder_eq_ok_iff.mp hordered
    exact ⟨hname, kind, hallowed, hnamed, ⟨checkNumeric_eq_ok_iff.mp hnumeric,
      fun b hb => ⟨hempty b hb, hordered b hb⟩, hpair, checkMeasured_eq_ok_iff.mp hmeasured⟩, rfl⟩
  · rintro ⟨hname, kind, hallowed, hnamed, ⟨hnumeric, htextual, hpair, hmeasured⟩, rfl⟩
    exact ⟨hname, hlabel hnamed, kind, ⟨hnamed, hallowed⟩, _, _,
      ⟨fun b hb => (htextual b hb).1, rfl, rfl, hpair⟩, (), checkNumeric_eq_ok_iff.mpr hnumeric,
      (), checkMeasured_eq_ok_iff.mpr hmeasured, (),
      checkTimeOrder_eq_ok_iff.mpr fun b hb => (htextual b hb).2, rfl⟩

theorem name_of_make (h : make d allowed = .ok a) : a.name = Text.trim d.name := by
  obtain ⟨-, _, -, -, -, rfl⟩ := make_eq_ok_iff.mp h
  rfl

-- Where there are no numbers to run between, there are texts.
def Bounded (a : Axis) : Prop :=
  a.numeric = none → ∃ b, a.textual = some b ∧ b.Acceptable

theorem bounded_of_make (h : make d allowed = .ok a) : a.Bounded := by
  obtain ⟨-, kind, -, -, hbounded, rfl⟩ := make_eq_ok_iff.mp h
  obtain ⟨-, hacceptable, hpairs, hmeasured⟩ := AxisDef.bounded_iff.mp hbounded
  intro hnone
  have hnumeric : d.numeric?.isSome = false := Option.isSome_eq_false_iff.mpr
    (Option.isNone_iff_eq_none.mpr hnone)
  rw [hnumeric] at hpairs hmeasured
  have htextual : d.textual?.isSome = true := by
    rcases hpairs with ⟨h, -⟩ | ⟨h, -⟩ | rfl
    · cases h
    · exact h
    · cases hmeasured (by decide)
  obtain ⟨b, hb⟩ := Option.isSome_iff_exists.mp htextual
  exact ⟨b, hb, hacceptable b hb⟩

section Refused

theorem refuses_chooseKind : Refuses (Error.Blames name) (chooseKind name label allowed) := by
  unfold chooseKind
  split
  · exact .ok _
  · exact .error ⟨_, rfl⟩

theorem refuses_chooseBounds : Refuses (Error.Blames name) (chooseBounds name kind d) := by
  unfold chooseBounds
  refine .ite (fun _ => .error ⟨_, rfl⟩) fun _ => ?_
  exact .ite (fun _ => .ok _) fun _ => .ite (fun _ => .ok _) fun _ => .ite (fun _ => .ok _)
    fun _ => .error ⟨_, rfl⟩

theorem refuses_checkNumeric : Refuses (Error.Blames name) (checkNumeric name numeric) := by
  unfold checkNumeric
  split
  · exact .ok _
  · exact .ite (fun _ => .error ⟨_, rfl⟩) fun _ => .ite (fun _ => .error ⟨_, rfl⟩) fun _ => .ok _

theorem refuses_checkMeasured : Refuses (Error.Blames name) (checkMeasured name kind numeric) := by
  unfold checkMeasured
  exact .ite (fun _ => .error ⟨_, rfl⟩) fun _ => .ite (fun _ => .error ⟨_, rfl⟩) fun _ => .ok _

theorem refuses_checkTimeOrder : Refuses (Error.Blames name) (checkTimeOrder name textual) := by
  unfold checkTimeOrder
  split
  · exact .ok _
  · exact .ite (fun _ => .error ⟨_, rfl⟩) fun _ => .ok _

-- Every check names the axis.
theorem refuses_make (d : AxisDef) (allowed : List AxisKind) :
    Refuses (Error.Blames d.locator) (make d allowed) := by
  simp only [make, throw_bind]
  refine .guard (fun hname => ⟨_, by rw [AxisDef.locator, if_pos hname]⟩) fun hname => ?_
  rw [AxisDef.locator, if_neg hname]
  refine .guard (fun _ => ⟨_, rfl⟩) fun _ => ?_
  refine .bind refuses_chooseKind fun kind _ => .bind refuses_chooseBounds fun pairs _ => ?_
  refine .bind refuses_checkNumeric fun _ _ => .bind refuses_checkMeasured fun _ _ => ?_
  exact .bind refuses_checkTimeOrder fun _ _ => .ok _

end Refused

-- The rule for the bounds decides, together with the name and the kind. What is accepted keeps its
-- name without blanks, its kind and exactly the complete pairs, and every refusal names the axis.
theorem make_accepted_iff (d : AxisDef) (allowed : List AxisKind) :
    ((∃ a, make d allowed = .ok a) ↔
      Text.trim d.name ≠ "" ∧ ∃ kind ∈ allowed, kind.Named d.kind ∧ d.Bounded kind) ∧
    (∀ a, make d allowed = .ok a →
      a.name = Text.trim d.name ∧ a.kind ∈ allowed ∧ a.kind.Named d.kind ∧
      (∀ b, a.numeric = some b ↔ d.numLo = some b.lo ∧ d.numHi = some b.hi) ∧
      (∀ b, a.textual = some b ↔ d.strLo = some b.lo ∧ d.strHi = some b.hi) ∧
      ∃ crs ∈ a.crsSet, Crs.isGrid crs = true) ∧
    ∀ e, make d allowed = .error e → e.Blames d.locator := by
  refine ⟨?_, fun a ha => ?_, refuses_make d allowed⟩
  · constructor
    · rintro ⟨a, ha⟩
      obtain ⟨hname, kind, hallowed, hnamed, hbounded, -⟩ := make_eq_ok_iff.mp ha
      exact ⟨hname, kind, hallowed, hnamed, hbounded⟩
    · rintro ⟨hname, kind, hallowed, hnamed, hbounded⟩
      exact ⟨_, make_eq_ok_iff.mpr ⟨hname, kind, hallowed, hnamed, hbounded, rfl⟩⟩
  · obtain ⟨-, kind, hallowed, hnamed, -, rfl⟩ := make_eq_ok_iff.mp ha
    exact ⟨rfl, hallowed, hnamed, fun _ => NumericBounds.ofPair?_eq_some_iff,
      fun _ => TextualBounds.ofPair?_eq_some_iff, Crs.exists_grid_normalize d.crsSet⟩

-- Days that are numbered and dated.
def dated (days : Float) (first last : String) : AxisDef where
  name := " ansi "
  kind := "Time"
  numLo := some 0
  numHi := some days
  strLo := some first
  strHi := some last

theorem make_accepted_iff_dated :
    (∃ a, make (dated 364 "2010-01-01T00:00:00Z" "2010-12-31T00:00:00Z") AxisKind.all = .ok a ∧
      a.name = "ansi" ∧ a.kind.Named "Time" ∧ a.numeric = some ⟨0, 364⟩ ∧
      a.textual = some ⟨"2010-01-01T00:00:00Z", "2010-12-31T00:00:00Z"⟩ ∧
      ∃ crs ∈ a.crsSet, Crs.isGrid crs = true) ∧
    ∃ e, make (dated 364 "2011-01-01T00:00:00Z" "2010-01-01T00:00:00Z") AxisKind.all = .error e ∧
      e.Blames "ansi" := by
  obtain ⟨a, ha⟩ : ∃ a, make (dated 364 "2010-01-01T00:00:00Z" "2010-12-31T00:00:00Z") AxisKind.all =
      .ok a := ⟨_, rfl⟩
  obtain ⟨e, he⟩ : ∃ e, make (dated 364 "2011-01-01T00:00:00Z" "2010-01-01T00:00:00Z") AxisKind.all =
      .error e := ⟨_, rfl⟩
  obtain ⟨hname, -, hnamed, hnumeric, htextual, hgrid⟩ := (make_accepted_iff _ _).2.1 a ha
  refine ⟨⟨a, ha, hname.trans (by decide +kernel), hnamed, (hnumeric _).mpr ⟨rfl, rfl⟩,
    (htextual _).mpr ⟨rfl, rfl⟩, hgrid⟩, e, he, ?_⟩
  have hlocator : (dated 364 "2011-01-01T00:00:00Z" "2010-01-01T00:00:00Z").locator = "ansi" := by
    decide +kernel
  exact hlocator ▸ (make_accepted_iff _ _).2.2 e he

end Axis

end Datacube
