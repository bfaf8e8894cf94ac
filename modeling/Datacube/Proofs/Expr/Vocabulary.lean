import Datacube.Proofs.Expr.Production

-- The names of the elements that each reader takes for its own. A reader declines an element just
-- if it does not know the name; what else is wrong with the element is an error.
namespace Datacube.Expr

open Markup (Element)

def unaryTags : List String :=
  ["unaryPlus", "unaryMinus", "sqrt", "abs", "exp", "log", "ln", "sin", "cos", "tan", "sinh",
    "cosh", "tanh", "arcsin", "arccos", "arctan", "not", "re", "im"]

def binaryTags : List String :=
  ["plus", "minus", "mult", "div", "and", "or", "xor", "equals", "notEqual", "lessThan",
    "greaterThan", "lessOrEqual", "greaterOrEqual", "overlay"]

def inducedTags : List String :=
  unaryTags ++ binaryTags ++ ["bit", "cast", "fieldSelect", "rangeConstructor"]

def subsetTags : List String :=
  ["trim", "extend", "slice"]

def coverageVocabulary : List String :=
  reservedTags ++ metadataTags ++ inducedTags ++ subsetTags

def constantTags : List String :=
  ["numericConstant", "booleanConstant", "stringConstant", "variableRef"]

def scalarUnaryTags : List String :=
  ["numericUnaryMinus", "numericSqrt", "numericAbs", "booleanNot"]

def scalarBinaryTags : List String :=
  ["numericAdd", "numericMinus", "numericMult", "numericDiv", "booleanAnd", "booleanOr",
    "booleanXor", "booleanEqualNumeric", "booleanNotEqualNumeric", "booleanLessThan",
    "booleanLessOrEqual", "booleanGreaterThan", "booleanGreaterOrEqual"]

def condenserTags : List String :=
  ["count", "add", "avg", "min", "max", "some", "all"]

def scalarVocabulary : List String :=
  constantTags ++ scalarUnaryTags ++ scalarBinaryTags ++ condenserTags

theorem not_scalar_of_coverage : ∀ name ∈ coverageVocabulary, name ∉ scalarVocabulary := by
  decide +kernel

-- A table of operators that is inverse to their tags knows just the names in a list of the tags.
theorem ofTag?_eq_none_iff {α : Type} {ofTag? : String → Option α} {tag : α → String}
    {tags : List String} (hinverse : ∀ {name op}, ofTag? name = some op ↔ name = tag op)
    (hlisted : ∀ op, tag op ∈ tags) (hknown : ∀ name ∈ tags, (ofTag? name).isSome) {name : String} :
    ofTag? name = none ↔ name ∉ tags := by
  rw [← Option.not_isSome_iff_eq_none, not_iff_not]
  constructor
  · intro h
    obtain ⟨op, hop⟩ := Option.isSome_iff_exists.mp h
    rw [hinverse.mp hop]
    exact hlisted op
  · exact hknown name

theorem UnaryOp.ofTag?_eq_none_iff {name : String} : ofTag? name = none ↔ name ∉ unaryTags :=
  Expr.ofTag?_eq_none_iff ofTag?_eq_some_iff (by intro op; cases op <;> decide) (by decide)

theorem BinaryOp.ofTag?_eq_none_iff {name : String} : ofTag? name = none ↔ name ∉ binaryTags :=
  Expr.ofTag?_eq_none_iff ofTag?_eq_some_iff (by intro op; cases op <;> decide) (by decide)

theorem SubsetOp.ofTag?_eq_none_iff {name : String} : ofTag? name = none ↔ name ∉ subsetTags :=
  Expr.ofTag?_eq_none_iff ofTag?_eq_some_iff (by intro op; cases op <;> decide) (by decide)

theorem ScalarUnaryOp.ofTag?_eq_none_iff {name : String} :
    ofTag? name = none ↔ name ∉ scalarUnaryTags :=
  Expr.ofTag?_eq_none_iff ofTag?_eq_some_iff (by intro op; cases op <;> decide) (by decide)

theorem ScalarBinaryOp.ofTag?_eq_none_iff {name : String} :
    ofTag? name = none ↔ name ∉ scalarBinaryTags :=
  Expr.ofTag?_eq_none_iff ofTag?_eq_some_iff (by intro op; cases op <;> decide) (by decide)

theorem CondenseOp.ofTag?_eq_none_iff {name : String} :
    ofTag? name = none ↔ name ∉ condenserTags :=
  Expr.ofTag?_eq_none_iff ofTag?_eq_some_iff (by intro op; cases op <;> decide) (by decide)

theorem parseChange?_eq_none_iff {e : Element} : parseChange? e = none ↔ e.name ∉ metadataTags := by
  refine ⟨fun h => ?_, parseChange?_of_not_mem⟩
  unfold parseChange? at h
  split at h <;> simp_all [metadataTags]

-- The reader leaves the element to others.
def Declines {α : Type} (outcome : Result (Attempt α)) : Prop :=
  ∃ reason, outcome = .ok (.noMatch reason)

section Declines

variable {α β : Type}

theorem declines_declined {e : Element} {wanted : String} :
    Declines (.ok (.declined (α := α) e wanted)) :=
  ⟨_, rfl⟩

@[simp] theorem not_declines_matched {x : α} : ¬Declines (.ok (.matched x)) := by
  rintro ⟨reason, h⟩
  cases h

@[simp] theorem not_declines_error {fault : Error} :
    ¬Declines (.error fault : Result (Attempt α)) := by
  rintro ⟨reason, h⟩
  cases h

-- A reader that has read something first does not decline if it does not after that.
theorem not_declines_bind {r : Result β} {f : β → Result (Attempt α)} (h : ∀ b, ¬Declines (f b)) :
    ¬Declines (r >>= f) := by
  cases r with
  | error fault => exact not_declines_error
  | ok b => exact h b

theorem not_declines_return {r : Result β} {f : β → α} :
    ¬Declines (r >>= fun b => pure (.matched (f b))) :=
  not_declines_bind fun _ => not_declines_matched

@[simp] theorem not_declines_map {r : Result β} {f : β → Attempt α}
    (h : ∀ b, ¬Declines (.ok (f b))) : ¬Declines (f <$> r) := by
  cases r with
  | error fault => exact not_declines_error
  | ok b => exact h b

end Declines

abbrev CoverageReader : Type := Scope → Element → Result (Attempt CoverageExpr)

variable {g : Grammar} {s : Scope} {e : Element} {read : CoverageReader}
  {readers : List CoverageReader}

theorem declines_trySetMetadata_iff : Declines (trySetMetadata g s e) ↔ e.name ∉ metadataTags := by
  rw [← parseChange?_eq_none_iff]
  unfold trySetMetadata
  cases parseChange? e with
  | none => simp [declines_declined]
  | some change =>
      simp only [reduceCtorEq, iff_false]
      exact not_declines_bind fun _ => not_declines_bind fun _ => not_declines_return

theorem declines_tryInduced_iff : Declines (tryInduced g s e) ↔ e.name ∉ inducedTags := by
  simp only [inducedTags, List.mem_append, not_or, ← UnaryOp.ofTag?_eq_none_iff,
    ← BinaryOp.ofTag?_eq_none_iff]
  unfold tryInduced
  split
  · next hop =>
    simp only [hop, reduceCtorEq, false_and, iff_false]
    exact not_declines_bind fun _ => not_declines_return
  · next hop =>
    simp only [hop, reduceCtorEq, and_false, false_and, iff_false]
    exact not_declines_return
  · next hunary hbinary =>
    simp only [hunary, hbinary, true_and]
    split <;> simp_all [declines_declined]

theorem declines_trySubset_iff : Declines (trySubset g s e) ↔ e.name ∉ subsetTags := by
  rw [← SubsetOp.ofTag?_eq_none_iff]
  unfold trySubset
  split
  · next hop => simp [hop, declines_declined]
  · next op hop =>
    simp only [hop, reduceCtorEq, iff_false]
    refine not_declines_bind fun _ => not_declines_bind fun _ => not_declines_bind fun specs => ?_
    split
    · exact not_declines_error
    · exact not_declines_matched

theorem firstMatch_of_declines (h : Declines (read s e)) :
    firstMatch (read :: readers) s e = firstMatch readers s e := by
  obtain ⟨reason, h⟩ := h
  simp [firstMatch, h]

-- The first reader that does not decline decides.
theorem firstMatch_of_not_declines (h : ¬Declines (read s e)) :
    firstMatch (read :: readers) s e = read s e := by
  unfold firstMatch
  cases hread : read s e with
  | error fault => rfl
  | ok attempt =>
      cases attempt with
      | matched x => rfl
      | noMatch reason => exact (h ⟨reason, hread⟩).elim

theorem declines_firstMatch_iff :
    Declines (firstMatch readers s e) ↔ ∀ read ∈ readers, Declines (read s e) := by
  induction readers with
  | nil => simp [firstMatch, declines_declined]
  | cons read readers ih =>
      rw [List.forall_mem_cons]
      by_cases h : Declines (read s e)
      · simp only [firstMatch_of_declines h, ih, h, true_and]
      · simp only [firstMatch_of_not_declines h, h, false_and]

theorem declines_tryCoverage_iff : Declines (tryCoverage g s e) ↔ e.name ∉ coverageVocabulary := by
  simp only [coverageVocabulary, List.mem_append, not_or, and_assoc]
  by_cases hreserved : e.name ∈ reservedTags
  · simp only [hreserved, not_true_eq_false, false_and, iff_false]
    unfold tryCoverage
    split <;> simp_all [reservedTags]
  · rw [tryCoverage_of_not_reserved hreserved, declines_firstMatch_iff]
    simp [groups, declines_trySetMetadata_iff, declines_tryInduced_iff, declines_trySubset_iff,
      hreserved]

-- The group of metadata operations is the first one.
theorem tryCoverage_of_metadataTags (h : e.name ∈ metadataTags) :
    tryCoverage g s e = trySetMetadata g s e := by
  have hreserved : ∀ name ∈ metadataTags, name ∉ reservedTags := by decide
  rw [tryCoverage_of_not_reserved (hreserved _ h), groups]
  exact firstMatch_of_not_declines (mt declines_trySetMetadata_iff.mp (not_not.mpr h))

theorem declines_tryScalar_iff : Declines (tryScalar g s e) ↔ e.name ∉ scalarVocabulary := by
  simp only [scalarVocabulary, List.mem_append, not_or, and_assoc,
    ← ScalarUnaryOp.ofTag?_eq_none_iff, ← ScalarBinaryOp.ofTag?_eq_none_iff,
    ← CondenseOp.ofTag?_eq_none_iff]
  unfold tryScalar
  split
  · next htag => simp [htag, constantTags]
  · next htag => simp [htag, constantTags]
  · next htag => simp [htag, constantTags]
  · next htag => simp [htag, constantTags]
  · split
    · next hop =>
      simp only [hop, reduceCtorEq, false_and, and_false, iff_false]
      exact not_declines_bind fun _ => not_declines_return
    · next hop =>
      simp only [hop, reduceCtorEq, false_and, and_false, iff_false]
      exact not_declines_bind fun _ => not_declines_bind fun _ => not_declines_return
    · next hop =>
      simp only [hop, reduceCtorEq, and_false, iff_false]
      exact not_declines_bind fun _ => not_declines_return
    · next hunary hbinary hcondense =>
      simp_all [constantTags, declines_declined]

theorem name_mem_of_tryCoverage {x : CoverageExpr} (h : tryCoverage g s e = .ok (.matched x)) :
    e.name ∈ coverageVocabulary := by
  by_contra hname
  obtain ⟨reason, hdeclined⟩ := declines_tryCoverage_iff (g := g) (s := s).mpr hname
  simp [h] at hdeclined

theorem name_mem_of_tryScalar {x : ScalarExpr} (h : tryScalar g s e = .ok (.matched x)) :
    e.name ∈ scalarVocabulary := by
  by_contra hname
  obtain ⟨reason, hdeclined⟩ := declines_tryScalar_iff (g := g) (s := s).mpr hname
  simp [h] at hdeclined

end Datacube.Expr
