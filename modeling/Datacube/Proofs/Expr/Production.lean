import Datacube.Proofs.Expr.Reading

-- A level of the grammar accepts exactly the elements of the forms of coverage and scalar
-- expressions.
namespace Datacube.Expr

open Markup (Element)
open Result

variable {g : Grammar} {s : Scope} {e : Element} {x : CoverageExpr}

-- The coverage forms over what a grammar reads.
abbrev Grammar.CoverageForm (g : Grammar) : Scope → Element → CoverageExpr → Prop :=
  Expr.CoverageForm g.ReadsCoverage g.ReadsScalar

abbrev Grammar.ScalarForm (g : Grammar) : Scope → Element → ScalarExpr → Prop :=
  Expr.ScalarForm g.ReadsCoverage g.ReadsScalar

theorem coverageNames_eq_ok_iff {iterator : String} {names : List String} :
    s.coverageNames iterator = .ok names ↔ s.iterators.lookup iterator = some names := by
  unfold Scope.coverageNames
  cases s.iterators.lookup iterator <;> simp

theorem form_of_parseReference (htag : e.name = "coverage") (h : parseReference s e = .ok x) :
    g.CoverageForm s e x := by
  simp only [parseReference, bind_eq_ok, coverageNames_eq_ok_iff] at h
  obtain ⟨names, hnames, h⟩ := h
  cases names with
  | nil => exact (throw_eq_ok.mp h).elim
  | cons first rest =>
      simp only [bind_eq_ok, pure_eq_ok] at h
      obtain ⟨schema, hschema, ⟨⟩, hsame, rfl⟩ := h
      exact .reference htag hnames hschema hsame

theorem form_of_parseConstant (htag : e.name = "const") (h : parseConstant e = .ok x) :
    g.CoverageForm s e x := by
  simp only [parseConstant, bind_eq_ok, pure_eq_ok, throw_bind, ite_throw_eq_ok,
    List.length_map] at h
  obtain ⟨iterators, hiterators, schema, hschema, hcount, rfl⟩ := h
  exact .constant htag hiterators hschema (not_not.mp hcount)

theorem form_of_parseConstruct (hg : g.Exclusive) (htag : e.name = "construct")
    (h : parseConstruct g s e = .ok x) : g.CoverageForm s e x := by
  simp only [parseConstruct, bind_eq_ok] at h
  obtain ⟨iterators, hiterators, h⟩ := h
  split at h
  · simp at h
  · next c hchild =>
    simp only [bind_eq_ok, pure_eq_ok, parseOperand_eq_ok_iff hg] at h
    obtain ⟨body, hbody, schema, hschema, rfl⟩ := h
    exact .construct htag hiterators hchild hbody hschema

theorem form_of_parseScale (htag : e.name = "scale") (h : parseScale g s e = .ok x) :
    g.CoverageForm s e x := by
  unfold parseScale at h
  split at h
  · simp at h
  · next c hchild =>
    simp only [bind_eq_ok, pure_eq_ok, parseCoverage_eq_ok_iff] at h
    obtain ⟨y, hy, subsets, hsubsets, schema, hschema, rfl⟩ := h
    exact .scale htag ⟨c, hchild, hy⟩ hsubsets hschema

theorem checkBranches_eq_ok_iff {branches : Branches} :
    checkBranches branches = .ok () ↔
      ∀ y ∈ branches.exprs, branches.schema.extents = y.schema.extents := by
  simp only [checkBranches, forM_eq_ok_iff, ensureCompatible_eq_ok_iff]
  cases branches <;> simp [Branches.exprs, Branches.schema]

theorem form_of_parseSwitch {branches : Branches} (htag : e.name = "switch")
    (h : parseSwitch g s e = .ok branches) : g.CoverageForm s e (.switch branches) := by
  simp only [parseSwitch, throw_bind, ite_throw_eq_ok, bind_eq_ok, pure_eq_ok,
    parseBranches_eq_ok_iff] at h
  obtain ⟨-, other, hbranches, ⟨⟩, hsame, rfl⟩ := h
  exact .switch htag hbranches (checkBranches_eq_ok_iff.mp hsame)

theorem trySetMetadata_eq_matched (h : trySetMetadata g s e = .ok (.matched x)) :
    ∃ change y schema, parseChange? e = some (.ok change) ∧
      OperandBeside g.ReadsCoverage s e metadataParameters y ∧
      change.apply y.schema = .ok schema ∧ .setMetadata change y schema = x := by
  unfold trySetMetadata at h
  split at h
  · simp [Attempt.declined] at h
  · next change hchange =>
    simp only [bind_eq_ok, pure_eq_ok, parseOperandBeside_eq_ok_iff, Attempt.matched.injEq] at h
    obtain ⟨change, rfl, y, hy, schema, hschema, rfl⟩ := h
    exact ⟨change, y, schema, hchange, hy, hschema, rfl⟩

theorem form_of_trySetMetadata (h : trySetMetadata g s e = .ok (.matched x)) :
    g.CoverageForm s e x := by
  obtain ⟨change, y, schema, hchange, hy, hschema, rfl⟩ := trySetMetadata_eq_matched h
  exact .setMetadata hchange hy hschema

theorem form_of_parseBit (htag : e.name = "bit") (h : parseBit g s e = .ok x) :
    g.CoverageForm s e x := by
  simp only [parseBit, bind_eq_ok, parseOperandBeside_eq_ok_iff] at h
  obtain ⟨y, hy, h⟩ := h
  split at h
  · simp at h
  · next c hchild =>
    simp only [bind_eq_ok, pure_eq_ok] at h
    obtain ⟨index, hindex, rfl⟩ := h
    exact .bit htag hy hchild hindex

theorem form_of_parseCast (htag : e.name = "cast") (h : parseCast g s e = .ok x) :
    g.CoverageForm s e x := by
  simp only [parseCast, bind_eq_ok, parseOperandBeside_eq_ok_iff] at h
  obtain ⟨y, hy, h⟩ := h
  split at h
  · simp at h
  · next target htarget =>
    obtain rfl := pure_eq_ok.mp h
    exact .cast htag hy htarget

theorem requireField_eq_ok_iff {schema : Schema} {field : String} :
    requireField schema field = .ok () ↔ schema.hasField field = true := by
  unfold requireField
  split <;> simp_all

theorem form_of_parseFieldSelect (htag : e.name = "fieldSelect")
    (h : parseFieldSelect g s e = .ok x) : g.CoverageForm s e x := by
  simp only [parseFieldSelect, bind_eq_ok, parseOperandBeside_eq_ok_iff] at h
  obtain ⟨y, hy, h⟩ := h
  split at h
  · simp at h
  · next field hfield =>
    simp only [bind_eq_ok, pure_eq_ok] at h
    obtain ⟨⟨⟩, hpresent, rfl⟩ := h
    exact .fieldSelect htag hy hfield (requireField_eq_ok_iff.mp hpresent)

theorem parseComponent_eq_ok_iff {component : String × CoverageExpr} :
    parseComponent g s e = .ok component ↔ ComponentForm g.ReadsCoverage s e component := by
  unfold parseComponent ComponentForm
  cases nonempty? (e.childText? "field") with
  | none => simp
  | some field =>
      obtain ⟨name, y⟩ := component
      simp only [bind_eq_ok, pure_eq_ok, parseOperandBeside_eq_ok_iff, Prod.mk.injEq,
        Option.some.injEq]
      constructor
      · rintro ⟨_, hy, rfl, rfl⟩
        exact ⟨rfl, hy⟩
      · rintro ⟨rfl, hy⟩
        exact ⟨_, hy, rfl, rfl⟩

theorem Components.ofList?_toList :
    ∀ components : Components, Components.ofList? components.toList = some components
  | .one _ _ => rfl
  | .more _ _ rest => by simp only [toList, ofList?, ofList?_toList rest]

theorem Components.toList_of_ofList? {parts : List (String × CoverageExpr)}
    {components : Components} (h : Components.ofList? parts = some components) :
    components.toList = parts := by
  induction parts generalizing components with
  | nil => simp [ofList?] at h
  | cons part parts ih =>
      obtain ⟨field, y⟩ := part
      unfold ofList? at h
      split at h
      · next hrest =>
        obtain rfl := Option.some.inj h
        cases parts with
        | nil => rfl
        | cons next parts =>
            unfold ofList? at hrest
            split at hrest <;> simp at hrest
      · next others hrest =>
        obtain rfl := Option.some.inj h
        rw [toList, ih hrest]

theorem form_of_parseRangeConstructor (htag : e.name = "rangeConstructor")
    (h : parseRangeConstructor g s e = .ok x) : g.CoverageForm s e x := by
  simp only [parseRangeConstructor, bind_eq_ok, mapM_eq_ok_iff, parseComponent_eq_ok_iff] at h
  obtain ⟨parts, hparts, h⟩ := h
  split at h
  · simp at h
  · next components hcomponents =>
    simp only [bind_eq_ok, pure_eq_ok] at h
    obtain ⟨⟨⟩, hsame, rfl⟩ := h
    rw [← Components.toList_of_ofList? hcomponents] at hparts
    refine .rangeConstructor htag hparts fun c hc => ?_
    exact ensureCompatible_eq_ok_iff.mp (forM_eq_ok_iff.mp hsame c hc)

theorem parseRangeConstructor_of_form {components : Components}
    (hcomponents : List.Forall₂ (ComponentForm g.ReadsCoverage s) (e.childrenNamed "component")
      components.toList)
    (hsame : ∀ c ∈ components.toList, components.head.schema.extents = c.2.schema.extents) :
    parseRangeConstructor g s e = .ok (.rangeConstructor components
      { components.head.schema with
        rangeFields := components.toList.map fun c => componentField c.1 c.2 }) := by
  have hparts : (e.childrenNamed "component").mapM (parseComponent g s) = .ok components.toList :=
    mapM_eq_ok_iff.mpr (hcomponents.imp fun _ _ h => parseComponent_eq_ok_iff.mpr h)
  have hcheck : (components.toList.forM fun c =>
      components.head.schema.ensureCompatible c.2.schema "range constructor") = .ok () :=
    forM_eq_ok_iff.mpr fun c hc => ensureCompatible_eq_ok_iff.mpr (hsame c hc)
  simp [parseRangeConstructor, hparts, Components.ofList?_toList]
  exact hcheck

theorem form_of_parseBinary (hg : g.Exclusive) {op : BinaryOp} (htag : e.name = op.tag)
    (h : parseBinary g s op e = .ok x) : g.CoverageForm s e x := by
  simp only [parseBinary, bind_eq_ok, pure_eq_ok, Prod.exists, twoChildren_eq_ok_iff,
    pairParse_eq_ok_iff hg] at h
  obtain ⟨left, right, hchildren, pair, hpair, rfl⟩ := h
  exact .binary htag hchildren hpair

theorem form_of_tryInduced (hg : g.Exclusive) (h : tryInduced g s e = .ok (.matched x)) :
    g.CoverageForm s e x := by
  unfold tryInduced at h
  split at h
  · next op hunary =>
    rw [parseOnlyChild_eq_ok_iff] at h
    obtain ⟨y, hy, h⟩ := h
    obtain rfl : CoverageExpr.unary op y = x := by simpa using h
    exact .unary (UnaryOp.ofTag?_eq_some_iff.mp hunary) hy
  · next op hbinary =>
    simp only [bind_eq_ok, pure_eq_ok, Attempt.matched.injEq, exists_eq_right] at h
    exact form_of_parseBinary hg (BinaryOp.ofTag?_eq_some_iff.mp hbinary) h
  · split at h
    · next htag =>
      simp only [bind_eq_ok, pure_eq_ok, Attempt.matched.injEq, exists_eq_right] at h
      exact form_of_parseBit htag h
    · next htag =>
      simp only [bind_eq_ok, pure_eq_ok, Attempt.matched.injEq, exists_eq_right] at h
      exact form_of_parseCast htag h
    · next htag =>
      simp only [bind_eq_ok, pure_eq_ok, Attempt.matched.injEq, exists_eq_right] at h
      exact form_of_parseFieldSelect htag h
    · next htag =>
      simp only [bind_eq_ok, pure_eq_ok, Attempt.matched.injEq, exists_eq_right] at h
      exact form_of_parseRangeConstructor htag h
    · simp [Attempt.declined] at h

theorem form_of_trySubset (h : trySubset g s e = .ok (.matched x)) : g.CoverageForm s e x := by
  unfold trySubset at h
  split at h
  · simp [Attempt.declined] at h
  · next op hop =>
    simp only [bind_eq_ok, pure_eq_ok, throw_bind, ite_throw_eq_ok, parseOperandBeside_eq_ok_iff,
      Attempt.matched.injEq] at h
    obtain ⟨y, hy, subsets, hsubsets, specs, hspecs, hsome, rfl⟩ := h
    exact .subset (SubsetOp.ofTag?_eq_some_iff.mp hop) hy hsubsets hspecs (by simpa using hsome)

theorem form_of_firstMatch (hg : g.Exclusive)
    (h : firstMatch (groups g) s e = .ok (.matched x)) : g.CoverageForm s e x := by
  simp only [groups, firstMatch, bind_eq_ok] at h
  obtain ⟨attempt, hattempt, h⟩ := h
  cases attempt with
  | matched y =>
      obtain rfl : y = x := by simpa using h
      exact form_of_trySetMetadata hattempt
  | noMatch _ =>
      obtain ⟨attempt, hattempt, h⟩ := bind_eq_ok.mp h
      cases attempt with
      | matched y =>
          obtain rfl : y = x := by simpa using h
          exact form_of_tryInduced hg hattempt
      | noMatch _ =>
          obtain ⟨attempt, hattempt, h⟩ := bind_eq_ok.mp h
          cases attempt with
          | matched y =>
              obtain rfl : y = x := by simpa using h
              exact form_of_trySubset hattempt
          | noMatch _ => simp [Attempt.declined] at h

theorem form_of_tryCoverage (hg : g.Exclusive) (h : tryCoverage g s e = .ok (.matched x)) :
    g.CoverageForm s e x := by
  unfold tryCoverage at h
  split at h
  · next htag =>
    simp only [bind_eq_ok, pure_eq_ok, Attempt.matched.injEq, exists_eq_right] at h
    exact form_of_parseReference htag h
  · next htag =>
    simp only [bind_eq_ok, pure_eq_ok, Attempt.matched.injEq, exists_eq_right] at h
    exact form_of_parseConstant htag h
  · next htag =>
    simp only [bind_eq_ok, pure_eq_ok, Attempt.matched.injEq, exists_eq_right] at h
    exact form_of_parseConstruct hg htag h
  · next htag =>
    simp only [bind_eq_ok, pure_eq_ok, Attempt.matched.injEq, exists_eq_right] at h
    exact form_of_parseScale htag h
  · next htag =>
    simp only [bind_eq_ok, pure_eq_ok, Attempt.matched.injEq] at h
    obtain ⟨branches, hbranches, rfl⟩ := h
    exact form_of_parseSwitch htag hbranches
  · simp at h
  · exact form_of_firstMatch hg h

-- Names that are looked at before the groups of readers.
def reservedTags : List String :=
  ["coverage", "const", "construct", "scale", "switch", "crsTransform"]

theorem tryCoverage_of_not_reserved (h : e.name ∉ reservedTags) :
    tryCoverage g s e = firstMatch (groups g) s e := by
  simp only [reservedTags, List.mem_cons, List.not_mem_nil, or_false, not_or] at h
  unfold tryCoverage
  split <;> simp_all

theorem tryCoverage_of_trySetMetadata (hname : e.name ∉ reservedTags)
    (h : trySetMetadata g s e = .ok (.matched x)) : tryCoverage g s e = .ok (.matched x) := by
  rw [tryCoverage_of_not_reserved hname]
  simp [groups, firstMatch, h]

def metadataTags : List String :=
  ["setIdentifier", "setNullSet", "setInterpolationDefault", "setInterpolationSet", "setCrsSet"]

theorem parseChange?_of_not_mem (h : e.name ∉ metadataTags) : parseChange? e = none := by
  simp only [metadataTags, List.mem_cons, List.not_mem_nil, or_false, not_or] at h
  unfold parseChange?
  split <;> simp_all

-- The induced operations come after these names and the changes of metadata.
theorem tryCoverage_of_tryInduced (hname : e.name ∉ reservedTags ++ metadataTags)
    (h : tryInduced g s e = .ok (.matched x)) : tryCoverage g s e = .ok (.matched x) := by
  rw [List.mem_append, not_or] at hname
  rw [tryCoverage_of_not_reserved hname.1]
  simp [groups, firstMatch, trySetMetadata, parseChange?_of_not_mem hname.2, h, Attempt.declined]

-- A subset operation is no induced one either.
theorem tryCoverage_of_trySubset {op : SubsetOp} (htag : e.name = op.tag)
    (h : trySubset g s e = .ok (.matched x)) : tryCoverage g s e = .ok (.matched x) := by
  have hreserved : e.name ∉ reservedTags := by rw [htag]; cases op <;> decide
  have hmetadata : e.name ∉ metadataTags := by rw [htag]; cases op <;> decide
  have hinduced : tryInduced g s e = .ok (.declined e "induced operation") := by
    unfold tryInduced
    rw [htag]
    cases op <;> rfl
  rw [tryCoverage_of_not_reserved hreserved]
  simp [groups, firstMatch, trySetMetadata, parseChange?_of_not_mem hmetadata, hinduced, h,
    Attempt.declined]

theorem not_reserved_of_parseChange? {change : Result MetadataChange}
    (h : parseChange? e = some change) : e.name ∉ reservedTags := by
  unfold parseChange? at h
  split at h <;> simp_all [reservedTags]

theorem tryCoverage_of_form (hg : g.Exclusive) (h : g.CoverageForm s e x) :
    tryCoverage g s e = .ok (.matched x) := by
  cases h with
  | reference htag hnames hschema hsame =>
      simp [tryCoverage, htag, parseReference, coverageNames_eq_ok_iff, hnames, hschema, hsame]
  | constant htag hiterators hschema hcount =>
      simp [tryCoverage, htag, parseConstant, hiterators, hschema, hcount]
  | construct htag hiterators hchild hbody hschema =>
      have hbody := (parseOperand_eq_ok_iff hg).mpr hbody
      unfold Operand.fields at hschema
      simp [tryCoverage, htag, parseConstruct, hiterators, hchild, hbody]
      exact hschema
  | scale htag hx hsubsets hschema =>
      obtain ⟨c, hchild, hx⟩ := hx
      have hx := parseCoverage_eq_ok_iff.mpr hx
      simp [tryCoverage, htag, parseScale, hchild, hx, hsubsets, hschema]
  | switch htag hbranches hsame =>
      have hbranches := parseBranches_eq_ok_iff.mpr hbranches
      have hsame := checkBranches_eq_ok_iff.mpr hsame
      simp [tryCoverage, htag, parseSwitch, hbranches, hsame]
  | setMetadata hchange hx hschema =>
      have hx := parseOperandBeside_eq_ok_iff.mpr hx
      refine tryCoverage_of_trySetMetadata (not_reserved_of_parseChange? hchange) ?_
      simp [trySetMetadata, hchange, hx, hschema]
  | @unary op y htag hx =>
      refine tryCoverage_of_tryInduced (by rw [htag]; cases op <;> decide) ?_
      have hop := UnaryOp.ofTag?_eq_some_iff.mpr htag
      simp only [tryInduced, hop, parseOnlyChild_eq_ok_iff]
      exact ⟨y, hx, rfl⟩
  | bit htag hx hchild hindex =>
      refine tryCoverage_of_tryInduced (by rw [htag]; decide) ?_
      have hx := parseOperandBeside_eq_ok_iff.mpr hx
      have hunary : UnaryOp.ofTag? "bit" = none := rfl
      have hbinary : BinaryOp.ofTag? "bit" = none := rfl
      simp [tryInduced, htag, hunary, hbinary, parseBit, hx, hchild, hindex]
  | cast htag hx htarget =>
      refine tryCoverage_of_tryInduced (by rw [htag]; decide) ?_
      have hx := parseOperandBeside_eq_ok_iff.mpr hx
      have hunary : UnaryOp.ofTag? "cast" = none := rfl
      have hbinary : BinaryOp.ofTag? "cast" = none := rfl
      simp [tryInduced, htag, hunary, hbinary, parseCast, hx, htarget]
  | fieldSelect htag hx hfield hpresent =>
      refine tryCoverage_of_tryInduced (by rw [htag]; decide) ?_
      have hx := parseOperandBeside_eq_ok_iff.mpr hx
      have hpresent := requireField_eq_ok_iff.mpr hpresent
      have hunary : UnaryOp.ofTag? "fieldSelect" = none := rfl
      have hbinary : BinaryOp.ofTag? "fieldSelect" = none := rfl
      simp [tryInduced, htag, hunary, hbinary, parseFieldSelect, hx, hfield, hpresent]
  | rangeConstructor htag hcomponents hsame =>
      refine tryCoverage_of_tryInduced (by rw [htag]; decide) ?_
      have hread := parseRangeConstructor_of_form hcomponents hsame
      have hunary : UnaryOp.ofTag? "rangeConstructor" = none := rfl
      have hbinary : BinaryOp.ofTag? "rangeConstructor" = none := rfl
      simp [tryInduced, htag, hunary, hbinary, hread]
  | @binary op left right pair htag hchildren hpair =>
      refine tryCoverage_of_tryInduced (by rw [htag]; cases op <;> decide) ?_
      have hop := BinaryOp.ofTag?_eq_some_iff.mpr htag
      have hunary : UnaryOp.ofTag? e.name = none := by rw [htag]; cases op <;> rfl
      have hpair := (pairParse_eq_ok_iff hg).mpr hpair
      simp [tryInduced, hop, hunary, parseBinary, twoChildren_eq_ok_iff.mpr hchildren, hpair]
  | @subset op y subsets specs htag hx hsubsets hspecs hsome =>
      have hop := SubsetOp.ofTag?_eq_some_iff.mpr htag
      have hx := parseOperandBeside_eq_ok_iff.mpr hx
      refine tryCoverage_of_trySubset htag ?_
      simp [trySubset, hop, hx, hsubsets, hspecs, hsome]

theorem tryCoverage_eq_matched_iff (hg : g.Exclusive) :
    tryCoverage g s e = .ok (.matched x) ↔ g.CoverageForm s e x :=
  ⟨form_of_tryCoverage hg, tryCoverage_of_form hg⟩

theorem parseNumber_eq_ok_iff {y : ScalarExpr} :
    parseNumber e = .ok y ↔
      ∃ value, Number.parseFloat e.trimmedText = some value ∧ .numeric e.trimmedText = y := by
  unfold parseNumber
  cases Number.parseFloat e.trimmedText <;> simp

theorem parseBoolean_eq_ok_iff {y : ScalarExpr} :
    parseBoolean e = .ok y ↔
      ∃ value : Bool, (e.trimmedText = if value then "true" else "false") ∧ .boolean value = y := by
  unfold parseBoolean
  split <;> simp_all

theorem parseVariable_eq_ok_iff {y : ScalarExpr} :
    parseVariable s e = .ok y ↔
      e.trimmedText ∈ s.axisVariables ∧ .axisVariable e.trimmedText = y := by
  unfold parseVariable
  split <;> simp_all

theorem form_of_tryScalar {y : ScalarExpr} (h : tryScalar g s e = .ok (.matched y)) :
    g.ScalarForm s e y := by
  unfold tryScalar at h
  split at h
  · next htag =>
    simp only [bind_eq_ok, pure_eq_ok, Attempt.matched.injEq, exists_eq_right,
      parseNumber_eq_ok_iff] at h
    obtain ⟨value, hvalue, rfl⟩ := h
    exact .numeric htag hvalue
  · next htag =>
    simp only [bind_eq_ok, pure_eq_ok, Attempt.matched.injEq, exists_eq_right,
      parseBoolean_eq_ok_iff] at h
    obtain ⟨value, hvalue, rfl⟩ := h
    exact .boolean htag hvalue
  · next htag =>
    obtain rfl : ScalarExpr.string e.text = y := by simpa using h
    exact .string htag
  · next htag =>
    simp only [bind_eq_ok, pure_eq_ok, Attempt.matched.injEq, exists_eq_right,
      parseVariable_eq_ok_iff] at h
    obtain ⟨hscope, rfl⟩ := h
    exact .axisVariable htag hscope
  · split at h
    · next op _ hop =>
      simp only [bind_eq_ok, pure_eq_ok, Attempt.matched.injEq, onlyChild_eq_ok_iff,
        parseScalar_eq_ok_iff] at h
      obtain ⟨c, hc, z, hz, rfl⟩ := h
      exact .unary (ScalarUnaryOp.ofTag?_eq_some_iff.mp hop) hc hz
    · next op _ _ hop =>
      simp only [bind_eq_ok, pure_eq_ok, Attempt.matched.injEq, twoChildren_eq_ok_iff,
        parseScalar_eq_ok_iff, Prod.exists] at h
      obtain ⟨left, right, hchildren, u, hu, v, hv, rfl⟩ := h
      exact .binary (ScalarBinaryOp.ofTag?_eq_some_iff.mp hop) hchildren hu hv
    · next op _ _ hop =>
      rw [parseOnlyChild_eq_ok_iff] at h
      obtain ⟨z, hz, h⟩ := h
      obtain rfl : ScalarExpr.condense op z = y := by simpa using h
      exact .condense (CondenseOp.ofTag?_eq_some_iff.mp hop) hz
    · simp [Attempt.declined] at h

theorem tryScalar_of_form {y : ScalarExpr} (h : g.ScalarForm s e y) :
    tryScalar g s e = .ok (.matched y) := by
  cases h with
  | numeric htag hvalue => simp [tryScalar, htag, parseNumber_eq_ok_iff, hvalue]
  | boolean htag hvalue => simp [tryScalar, htag, parseBoolean_eq_ok_iff, hvalue]
  | string htag => simp [tryScalar, htag]
  | axisVariable htag hscope => simp [tryScalar, htag, parseVariable_eq_ok_iff, hscope]
  | @unary op c x htag hchild hx =>
      have hread : (do
          let operand ← g.parseScalar s (← e.onlyChild)
          return Attempt.matched (ScalarExpr.unary op operand)) =
          Except.ok (.matched (.unary op x)) := by
        simp [onlyChild_eq_ok_iff.mpr hchild, parseScalar_eq_ok_iff.mpr hx]
      unfold tryScalar
      rw [htag]
      cases op <;> exact hread
  | @binary op left right x y htag hchildren hx hy =>
      have hread : (do
          let children ← twoChildren e
          let first ← g.parseScalar s children.1
          let second ← g.parseScalar s children.2
          return Attempt.matched (ScalarExpr.binary op first second)) =
          Except.ok (.matched (.binary op x y)) := by
        simp [twoChildren_eq_ok_iff.mpr hchildren, parseScalar_eq_ok_iff.mpr hx,
          parseScalar_eq_ok_iff.mpr hy]
      unfold tryScalar
      rw [htag]
      cases op <;> exact hread
  | @condense op x htag hx =>
      have hread : (do
          let coverage ← g.parseCoverage s (← e.onlyChild)
          return Attempt.matched (ScalarExpr.condense op coverage)) =
          Except.ok (.matched (.condense op x)) :=
        parseOnlyChild_eq_ok_iff.mpr ⟨x, hx, rfl⟩
      unfold tryScalar
      rw [htag]
      cases op <;> exact hread

theorem tryScalar_eq_matched_iff {y : ScalarExpr} :
    tryScalar g s e = .ok (.matched y) ↔ g.ScalarForm s e y :=
  ⟨form_of_tryScalar, tryScalar_of_form⟩

end Datacube.Expr
