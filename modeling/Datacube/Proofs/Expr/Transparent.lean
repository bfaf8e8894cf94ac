import Datacube.Proofs.Expr.Congruence
import Datacube.Proofs.Expr.Height

-- Operations that change nothing but what is said about a coverage are transparent: with the
-- operand in the place of one of them, an element is read to the same query over the same cells.
namespace Datacube

open Result

-- Schemas of the same axes and fields.
structure Schema.SameCells (a b : Schema) : Prop where
  axes : a.axes = b.axes
  fields : a.rangeFields = b.rangeFields

theorem Schema.congruence_sameCells : Schema.Congruence Schema.SameCells where
  refl _ := ⟨rfl, rfl⟩
  axes h := h.axes
  fields h := h.fields
  withAxes h _ := ⟨rfl, h.fields⟩
  withFields h _ := ⟨h.axes, rfl⟩
  change {a b a' change} h ha := by
    have hfield : ∀ {field}, Expr.requireField a field = .ok () →
        Expr.requireField b field = .ok () := by
      intro field hfield
      rw [Expr.requireField_eq_ok_iff, Schema.hasField] at hfield ⊢
      rwa [← h.fields]
    cases change with
    | identifier | nullSet =>
        obtain rfl : _ = a' := by simpa [Expr.MetadataChange.apply] using ha
        exact ⟨_, rfl, h.axes, h.fields⟩
    | interpolationDefault | interpolationSet =>
        simp only [Expr.MetadataChange.apply, bind_eq_ok, pure_eq_ok] at ha ⊢
        obtain ⟨_, hpresent, rfl⟩ := ha
        exact ⟨_, ⟨(), hfield hpresent, rfl⟩, h.axes, h.fields⟩
    | crsSet names =>
        obtain rfl : _ = a' := by simpa [Expr.MetadataChange.apply] using ha
        exact ⟨_, rfl, by simp only [h.axes], h.fields⟩

theorem Rasql.congruence_eq : Rasql.Congruence Eq where
  refl _ := rfl
  append_left h _ := by rw [h]
  append_right h _ := by rw [h]

namespace Expr

open Markup (Element)

-- The metadata operations that leave the axes alone.
def transparentTags : List String :=
  ["setIdentifier", "setNullSet", "setInterpolationDefault", "setInterpolationSet"]

-- One element comes from another by putting, for one of these operations somewhere in it, the
-- coverage that it is an operation on. The elements that are read for a number hold no operands.
inductive Bared : Element → Element → Prop where
  | here {e c : Element} (htag : e.name ∈ transparentTags)
      (hoperand : e.childBeside? metadataParameters = some c)
      (hcoverage : c.name ∈ coverageVocabulary) : Bared e c
  | inside {name text : String} {attributes : List (String × String)}
      {children children' : List Element} (hname : name ∉ boundTags)
      (h : OneOff Bared children children') :
      Bared ⟨name, attributes, text, children⟩ ⟨name, attributes, text, children'⟩

theorem transparentTags_subset : transparentTags ⊆ metadataTags := by
  decide

theorem not_partTags_of_coverageVocabulary : ∀ name ∈ coverageVocabulary, name ∉ partTags := by
  decide +kernel

theorem Bared.inert : Inert partTags Bared := by
  have hpart : ∀ {name}, name ∈ transparentTags → name ∉ partTags := by
    intro name hname
    have hcoverage : transparentTags ⊆ coverageVocabulary := by decide
    exact not_partTags_of_coverageVocabulary name (hcoverage hname)
  constructor
  case name_iff =>
    rintro c c' (⟨htag, -, hcoverage⟩ | -) tag htag'
    · have hne : c.name ≠ tag := fun h => hpart htag (h ▸ htag')
      have hne' : c'.name ≠ tag :=
        fun h => not_partTags_of_coverageVocabulary _ hcoverage (h ▸ htag')
      simp [hne, hne']
    · rfl
  case text =>
    rintro c c' (⟨htag, -, -⟩ | -) hname
    · exact absurd hname (hpart htag)
    · rfl
  case bound =>
    rintro c c' (⟨htag, -, -⟩ | ⟨hbound, -⟩) hname hbound'
    · exact absurd hname (hpart htag)
    · exact absurd hbound' hbound
  case inner =>
    rintro c c' (⟨htag, -, -⟩ | ⟨-, h⟩) hname
    · exact absurd hname (hpart htag)
    · exact .of_oneOff h

theorem parseChange?_ne_crsSet {e : Element} {names : List String} (h : e.name ∈ transparentTags) :
    parseChange? e ≠ some (.ok (.crsSet names)) := by
  intro hchange
  unfold parseChange? at hchange
  split at hchange
  · simp at hchange
  · simp at hchange
  · simp only [Option.some.injEq, bind_eq_ok] at hchange
    obtain ⟨field, -, hchange⟩ := hchange
    split at hchange <;> simp at hchange
  · simp only [Option.some.injEq] at hchange
    split at hchange <;> simp at hchange
  · next htag => exact absurd (htag ▸ h) (by decide)
  · simp at hchange

theorem sameCells_of_apply {change : MetadataChange} {a b : Schema}
    (hchange : ∀ names, change ≠ .crsSet names) (h : change.apply a = .ok b) : b.SameCells a := by
  cases change with
  | identifier | nullSet =>
      obtain rfl : _ = b := by simpa [MetadataChange.apply] using h
      exact ⟨rfl, rfl⟩
  | interpolationDefault | interpolationSet =>
      simp only [MetadataChange.apply, bind_eq_ok, pure_eq_ok] at h
      obtain ⟨_, -, rfl⟩ := h
      exact ⟨rfl, rfl⟩
  | crsSet names => exact absurd rfl (hchange names)

namespace Grammar

variable {s : Scope} {e c : Element}

-- The operand is read one level lower, so it is read on the level of the operation as well.
theorem readsCoverage_operand {limit levels : Nat} {x : CoverageExpr}
    (htag : e.name ∈ transparentTags) (hoperand : e.childBeside? metadataParameters = some c)
    (h : (level limit levels).ReadsCoverage s e x) :
    ∃ y, (level limit levels).ReadsCoverage s c y ∧ x.Akin Schema.SameCells Eq y := by
  cases levels with
  | zero => exact (not_readsCoverage_zero h).elim
  | succ levels =>
      have hread : tryCoverage (level limit levels) s e = .ok (.matched x) := h
      rw [tryCoverage_of_metadataTags (transparentTags_subset htag)] at hread
      obtain ⟨change, y, schema, hchange, ⟨d, hd, hy⟩, hschema, rfl⟩ :=
        trySetMetadata_eq_matched hread
      obtain rfl := Option.some.inj (hd.symm.trans hoperand)
      have hheight := (height_le_of_reads limit levels).1 s d y hy
      have hy' := (reads_of_height_le limit levels).1 s d y hy limit (levels + 1) (by omega)
      have hother : ∀ names, change ≠ .crsSet names :=
        fun names heq => parseChange?_ne_crsSet htag (heq ▸ hchange)
      exact ⟨y, hy', sameCells_of_apply hother hschema, rfl⟩

theorem level_bared (limit levels : Nat) :
    Follows Bared (CoverageExpr.Akin Schema.SameCells Eq) (level limit levels).ReadsCoverage ∧
      Follows Bared (ScalarExpr.Akin Eq) (level limit levels).ReadsScalar := by
  have hT := Schema.congruence_sameCells
  have hE := Rasql.congruence_eq
  induction levels with
  | zero =>
      exact ⟨fun _ _ _ _ _ h => (not_readsCoverage_zero h).elim,
        fun _ _ _ _ _ h => (not_readsScalar_zero h).elim⟩
  | succ levels ih =>
      constructor
      · intro s e e' x he h
        cases he with
        | here htag hoperand _ => exact readsCoverage_operand htag hoperand h
        | inside _ hone =>
            rw [readsCoverage_succ_iff] at h
            simp only [readsCoverage_succ_iff]
            exact h.follow hT hE ih.1 Bared.inert ih.2 (.of_oneOff hone) rfl
      · intro s e e' x he h
        cases he with
        | here htag _ _ =>
            -- A metadata operation is no scalar.
            have hscalar : ∀ name ∈ transparentTags, name ∉ scalarVocabulary := by decide
            exact absurd (name_mem_of_readsScalar h) (hscalar _ htag)
        | inside _ hone =>
            rw [readsScalar_succ_iff] at h
            simp only [readsScalar_succ_iff]
            exact h.follow hT hE ih.1 ih.2 (.of_oneOff hone) (fun _ => rfl) fun _ => rfl

-- An element that is read is read also without one of the transparent operations in it, to an
-- expression of the same text, and if it is a coverage with the same axes and fields.
theorem metadata_transparent (limit levels : Nat) (s : Scope) (e e' : Element)
    (hbared : Bared e e') :
    (∀ x, (level limit levels).parseCoverage s e = .ok x →
      ∃ y, (level limit levels).parseCoverage s e' = .ok y ∧ y.text = x.text ∧
        y.schema.axes = x.schema.axes ∧ y.schema.rangeFields = x.schema.rangeFields) ∧
    ∀ x, (level limit levels).parseScalar s e = .ok x →
      ∃ y, (level limit levels).parseScalar s e' = .ok y ∧ y.text = x.text := by
  obtain ⟨hcoverage, hscalar⟩ := level_bared limit levels
  simp only [parseCoverage_eq_ok_iff, parseScalar_eq_ok_iff]
  constructor
  · intro x hx
    obtain ⟨y, hy, hakin⟩ := hcoverage s e e' x hbared hx
    exact ⟨y, hy, hakin.text.symm, hakin.schema.axes.symm, hakin.schema.fields.symm⟩
  · intro x hx
    obtain ⟨y, hy, hakin⟩ := hscalar s e e' x hbared hx
    exact ⟨y, hy, hakin.symm⟩

-- A slice of a trim, where the trim is given another name first.
def renamedTrim (renamed : Bool) : Element :=
  let trim : Element :=
    { name := "trim"
      children := [{ name := "coverage", text := "c" }, { name := "axis", text := "x" },
        { name := "lowerBound", text := "3" }, { name := "upperBound", text := "7" }] }
  let operand : Element :=
    if renamed then
      { name := "setIdentifier"
        children := [{ name := "identifier", text := "part" }, trim] }
    else trim
  { name := "slice"
    children := [{ name := "axis", text := "y" }, { name := "slicingPosition", text := "4" },
      operand] }

theorem metadata_transparent_renamedTrim :
    ∃ store x, Store.ofDefs [Sample.airTemperature "T"] = .ok store ∧
      Bared (renamedTrim true) (renamedTrim false) ∧
      (level 256 4).parseCoverage ⟨store, [("c", ["T"])], []⟩ (renamedTrim true) = .ok x ∧
      x.schema.name = "part" ∧
      ∃ y, (level 256 4).parseCoverage ⟨store, [("c", ["T"])], []⟩ (renamedTrim false) = .ok y ∧
        y.text = x.text ∧ y.schema.axes = x.schema.axes ∧
        y.schema.rangeFields = x.schema.rangeFields := by
  have hbared : Bared (renamedTrim true) (renamedTrim false) :=
    .inside (by decide) (.tail (.tail (.head (.here (by decide) rfl (by decide)))))
  exact ⟨_, _, rfl, hbared, rfl, rfl, (metadata_transparent 256 4 _ _ _ hbared).1 _ rfl⟩

end Grammar

end Expr

end Datacube
