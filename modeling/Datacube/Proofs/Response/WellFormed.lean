import Datacube.Proofs.Response.Answer
import Datacube.Proofs.Response.Markup

-- Documents that can be read: the templates are markup with holes, and what is put for the holes
-- fits in, as long as the texts that are put in as they are do no harm where they stand.
namespace Datacube

open Text (All)
open Markup (Fragment IsNameChar IsValue Kind)

-- Nothing that ends a value between double quotes or begins an entity.
def AttributeChar (c : Char) : Prop :=
  c ≠ '"' ∧ c ≠ '&'

instance : DecidablePred AttributeChar := fun c =>
  inferInstanceAs (Decidable (c ≠ '"' ∧ c ≠ '&'))

-- Nothing that begins a tag or an entity.
def ContentChar (c : Char) : Prop :=
  c ≠ '<' ∧ c ≠ '&'

instance : DecidablePred ContentChar := fun c =>
  inferInstanceAs (Decidable (c ≠ '<' ∧ c ≠ '&'))

-- Documents put in the texts of axes without escaping them, reference systems apart, of which only
-- the ampersands are escaped.
structure Axis.Harmless (a : Axis) : Prop where
  label : All AttributeChar a.name
  content : All ContentChar a.name
  uom : ∀ uom ∈ a.uom, All AttributeChar uom
  systems : ∀ crs ∈ a.crsSet, All (· ≠ '"') crs
  bounds : ∀ b ∈ a.textual, All ContentChar b.lo ∧ All ContentChar b.hi

instance (a : Axis) : Decidable a.Harmless :=
  decidable_of_iff
    (All AttributeChar a.name ∧ All ContentChar a.name ∧ (∀ uom ∈ a.uom, All AttributeChar uom) ∧
      (∀ crs ∈ a.crsSet, All (· ≠ '"') crs) ∧
      ∀ b ∈ a.textual, All ContentChar b.lo ∧ All ContentChar b.hi)
    ⟨fun ⟨label, content, uom, systems, bounds⟩ => ⟨label, content, uom, systems, bounds⟩,
      fun h => ⟨h.label, h.content, h.uom, h.systems, h.bounds⟩⟩

-- Nor are the texts of fields escaped, descriptions and nil values apart.
structure RangeField.Harmless (f : RangeField) : Prop where
  label : All AttributeChar f.name
  content : All ContentChar f.name
  datatype : All AttributeChar f.datatype
  uomCode : All AttributeChar f.uomCode
  allowed : ∀ b ∈ f.allowedValues, All ContentChar b.1 ∧ All ContentChar b.2

instance (f : RangeField) : Decidable f.Harmless :=
  decidable_of_iff
    (All AttributeChar f.name ∧ All ContentChar f.name ∧ All AttributeChar f.datatype ∧
      All AttributeChar f.uomCode ∧
      ∀ b ∈ f.allowedValues, All ContentChar b.1 ∧ All ContentChar b.2)
    ⟨fun ⟨label, content, datatype, uomCode, allowed⟩ =>
        ⟨label, content, datatype, uomCode, allowed⟩,
      fun h => ⟨h.label, h.content, h.datatype, h.uomCode, h.allowed⟩⟩

structure Coverage.Harmless (c : Coverage) : Prop where
  name : All AttributeChar c.name
  axes : ∀ a ∈ c.axes, a.domain.Harmless
  fields : ∀ f ∈ c.description.rangeFields, f.Harmless

instance (c : Coverage) : Decidable c.Harmless :=
  decidable_of_iff
    (All AttributeChar c.name ∧ (∀ a ∈ c.axes, a.domain.Harmless) ∧
      ∀ f ∈ c.description.rangeFields, f.Harmless)
    ⟨fun ⟨name, axes, fields⟩ => ⟨name, axes, fields⟩, fun h => ⟨h.name, h.axes, h.fields⟩⟩

namespace Response

-- What may be put for the holes of both documents' templates.
def documentKinds : List (String × Kind) :=
  [("coverageId", .value), ("descriptions", .fragment), ("srsName", .value), ("axisLabels", .value),
   ("uomLabels", .value), ("gridDimension", .value), ("rangeFields", .fragment),
   ("metadata", .fragment)]

def holeKinds : TemplateName → List (String × Kind)
  | .gridCoverage =>
    documentKinds ++
      [("coverageType", .name), ("lowerCorner", .fragment), ("upperCorner", .fragment),
       ("gridType", .name), ("gridId", .value), ("low", .fragment), ("high", .fragment),
       ("axisLabels", .fragment), ("additions", .fragment), ("coverageData", .fragment)]
  | .multiPointCoverage =>
    documentKinds ++
      [("coverageSubtype", .name), ("low", .fragment), ("high", .fragment), ("mpId", .value),
       ("srsgroup", .attributes ["srsName".toList, "srsDimension".toList]),
       ("pointMembers", .fragment)]
  | .rangeField =>
    [("fieldName", .value), ("datatype", .value), ("componentName", .fragment),
     ("fieldDescr", .fragment), ("nilValues", .fragment), ("code", .value),
     ("allowedValues", .fragment)]
  | .rectifiedGridOrigin => [("pointId", .value), ("srsName", .value), ("originPos", .fragment)]
  | .offsetVector => [("srsName", .value), ("uomLabels", .value), ("offsets", .fragment)]
  | .exceptionReport =>
    [("exceptionCode", .value), ("locator", .attributes ["locator".toList]),
     ("exceptionText", .fragment)]

-- The members of a multipoint coverage are written without a template, but look like one.
def pointPieces : List Piece :=
  [.literal "<gml:Point gml:id=\"", .hole "requested", .literal "-p", .hole "number",
   .literal "\" srsName=\"", .hole "srsName", .literal "\"><gml:pos>", .hole "position",
   .literal "</gml:pos></gml:Point>\n"]

def pointHoles : List (String × Kind) :=
  [("requested", .value), ("number", .value), ("srsName", .value), ("position", .fragment)]

theorem isMarkup_builtin (name : TemplateName) : IsMarkup (holeKinds name) (builtin name) := by
  cases name
  all_goals
    simp only [IsMarkup, builtin, Builtin.gridCoverage, Builtin.multiPointCoverage,
      Builtin.rangeField, Builtin.rectifiedGridOrigin, Builtin.offsetVector,
      Builtin.exceptionReport]
    repeat first | rw [shapeAfter_hole] | rw [shapeAfter_literal]
    rw [shapeAfter_nil]
    decide

theorem isMarkup_point : IsMarkup pointHoles pointPieces := by
  simp only [IsMarkup, pointPieces]
  repeat first | rw [shapeAfter_hole] | rw [shapeAfter_literal]
  rw [shapeAfter_nil]
  decide

section Parts

variable {s : String}

theorem isValue_of_all (h : All AttributeChar s) : IsValue s.toList :=
  ⟨h.not_mem (by decide), Markup.resolved_of_not_mem (h.not_mem (by decide))⟩

theorem fragment_of_all (h : All ContentChar s) : Fragment s.toList :=
  Markup.fragment_text (Markup.resolved_of_not_mem (h.not_mem (by decide))) (h.not_mem (by decide))

theorem fragment_escapeText (s : String) : Fragment (Markup.escapeText s).toList := by
  refine Markup.fragment_text (Markup.resolved_escapeText s) ?_
  have hall : All (· ≠ '<') (Markup.escapeText s) := by
    refine Text.all_replaceEach.mpr fun c _ => ?_
    unfold Markup.escapeTextChar
    split
    case h_4 c hne _ _ => simpa using hne
    all_goals decide
  exact hall.not_mem (by simp)

theorem isValue_escape (s : String) : IsValue (Markup.escape s).toList := by
  refine ⟨?_, Markup.resolved_escape s⟩
  have hall : All (· ≠ '"') (Markup.escape s) := by
    refine Text.all_replaceEach.mpr fun c _ => ?_
    unfold Markup.escapeChar
    split
    case h_6 c _ _ _ _ hne => simpa using hne
    all_goals decide
  exact hall.not_mem (by simp)

theorem isValue_escapeCrs (h : All (· ≠ '"') s) : IsValue (Crs.escape s).toList := by
  refine ⟨?_, Markup.resolved_escapeCrs s⟩
  have hall : All (· ≠ '"') (Crs.escape s) := by
    refine Text.all_replaceEach.mpr fun c hc => ?_
    have hne := h c hc
    split
    · decide
    · simpa using hne
  exact hall.not_mem (by simp)

theorem contentChar_numbers : AdmitsNumbers ContentChar :=
  ⟨fun _ h => ⟨h.ne (by decide), h.ne (by decide)⟩, by decide⟩

theorem attributeChar_numbers : AdmitsNumbers AttributeChar :=
  ⟨fun _ h => ⟨h.ne (by decide), h.ne (by decide)⟩, by decide⟩

theorem isValue_natText (n : Nat) : IsValue (Number.natText n).toList :=
  isValue_of_all ((Number.all_natText n).mono attributeChar_numbers.numeral)

end Parts

section Fields

theorem fragment_nilValue (value : String) : Fragment (nilValue value).toList :=
  fragment_enclosed (fragment_escapeText value) (by decide)

theorem fits_fieldValues {f : RangeField} (h : f.Harmless) :
    Fits (fieldValues {} f) (holeKinds .rangeField) := by
  have hdatatype : All AttributeChar (({} : ResponseSettings).datatypeUrn ++ f.datatype) :=
    Text.all_append.mpr ⟨by decide, h.datatype⟩
  have hnil : Fragment (String.join (f.nilValues.map nilValue)).toList := by
    refine fragment_join fun text htext => ?_
    obtain ⟨value, -, rfl⟩ := List.mem_map.mp htext
    exact fragment_nilValue value
  have hallowed : All ContentChar (allowedText f) :=
    all_allowedText contentChar_numbers fun lo hi => h.allowed (lo, hi)
  simp only [holeKinds, fieldValues, fits_cons, fits_nil, and_true, valueOf_cons, String.reduceEq,
    reduceIte, Kind.Admits]
  exact ⟨isValue_of_all h.label, isValue_of_all hdatatype, fragment_of_all h.content,
    fragment_escapeText _, hnil, isValue_of_all h.uomCode, fragment_of_all hallowed⟩

theorem fragment_field {f : RangeField} (h : f.Harmless) :
    Fragment (fill (fieldValues {} f) Builtin.rangeField).toList :=
  fragment_fill (fits_fieldValues h) (isMarkup_builtin .rangeField)

end Fields

section Descriptions

def describedPieces : List Piece :=
  [.literal "  <ows:", .hole "tag", .literal ">", .hole "text", .literal "</ows:", .hole "tag",
   .literal ">\n"]

theorem fragment_described {tag text : String} (htag : ∀ c ∈ tag.toList, IsNameChar c) :
    Fragment (described tag text).toList := by
  unfold described
  split
  · exact Markup.fragment_nil
  · have hfits : Fits [("tag", tag), ("text", Markup.escapeText text)]
        [("tag", .name), ("text", .fragment)] := by
      simp only [fits_cons, fits_nil, and_true, valueOf_cons, String.reduceEq, reduceIte,
        Kind.Admits]
      exact ⟨htag, fragment_escapeText text⟩
    have hmarkup : IsMarkup [("tag", .name), ("text", .fragment)] describedPieces := by
      simp only [IsMarkup, describedPieces]
      repeat first | rw [shapeAfter_hole] | rw [shapeAfter_literal]
      rw [shapeAfter_nil]
      decide
    have hfill := fragment_fill hfits hmarkup
    simpa [fill, describedPieces, Piece.filled, List.lookup_cons, String.append_assoc] using hfill

theorem fragment_keywordBlock (keywords : List String) :
    Fragment (keywordBlock keywords).toList := by
  unfold keywordBlock
  split
  · exact Markup.fragment_nil
  · refine fragment_enclosed (fragment_join fun text htext => ?_) (by decide)
    obtain ⟨k, -, rfl⟩ := List.mem_map.mp htext
    exact fragment_enclosed (fragment_escapeText k) (by decide)

theorem fragment_descriptions (c : Context) : Fragment (descriptions c).toList := by
  unfold descriptions
  rw [String.toList_append, String.toList_append]
  exact ((fragment_described (by decide)).append
    (fragment_described (by decide))).append (fragment_keywordBlock _)

end Descriptions

theorem isName_gridElement {kind : CoverageKind} {element : String}
    (h : gridElement? kind = some element) :
    (∀ c ∈ kind.label.toList, IsNameChar c) ∧ ∀ c ∈ element.toList, IsNameChar c := by
  cases kind <;> cases h
  all_goals decide

theorem fragment_dataBlock {csv : String} (h : All ContentChar csv) :
    Fragment (dataBlock (tupleList csv)).toList := by
  have htuples : All ContentChar (tupleList csv) := by
    rw [tupleList, Text.all_ofList]
    exact fun c hc => h c (List.mem_of_mem_filter hc)
  exact fragment_enclosed (fragment_of_all htuples) (by decide)

theorem fragment_metadataBlock {c : Context}
    (h : ∀ text, c.coverage.description.metadata = some text → Text.trim text = "") :
    Fragment (metadataBlock c).toList := by
  unfold metadataBlock
  split
  · next text htext =>
    rw [if_pos (h text htext)]
    exact Markup.fragment_nil
  · exact Markup.fragment_nil

theorem fragment_pointMember {requested srsName : String} (point : PointRecord) (i : Nat)
    (hrequested : All AttributeChar requested) (hsrsName : IsValue srsName.toList) :
    Fragment (Store.pointMember requested srsName point i).toList := by
  have hfill : Store.pointMember requested srsName point i =
      fill [("requested", requested), ("number", Number.natText i), ("srsName", srsName),
        ("position", Number.floatTexts point.position)] pointPieces := by
    unfold Store.pointMember
    simp [fill, pointPieces, Piece.filled, List.lookup_cons, String.append_assoc]
  have hposition : All ContentChar (Number.floatTexts point.position) :=
    all_floatTexts contentChar_numbers _
  have hfits : Fits [("requested", requested), ("number", Number.natText i), ("srsName", srsName),
      ("position", Number.floatTexts point.position)] pointHoles := by
    simp only [pointHoles, fits_cons, fits_nil, and_true, valueOf_cons, String.reduceEq, reduceIte,
      Kind.Admits]
    exact ⟨isValue_of_all hrequested,
      isValue_natText i, hsrsName,
      fragment_of_all hposition⟩
  exact hfill ▸ fragment_fill hfits isMarkup_point

section Context

variable {c : Context} (hdomains : c.axes.map (·.domain) = c.coverage.axes.map (·.domain))
  (hharmless : c.coverage.Harmless)

theorem isValue_systems {domains : List Axis}
    (h : ∀ a ∈ domains, ∀ crs ∈ a.crsSet, All (· ≠ '"') crs) :
    IsValue (Crs.escape (Crs.compound (distinct (domains.map Axis.crsOrGrid)))).toList := by
  refine isValue_escapeCrs (all_systems (fun d hd => ?_) (by decide) h)
  exact (attributeChar_numbers.numeral d hd).1

theorem srsGroup_attributes : (Kind.attributes ["srsName".toList, "srsDimension".toList]).Admits
    (srsGroup c).toList := by
  unfold srsGroup
  split
  · next box _ =>
    refine ⟨[("srsName".toList, (Markup.escape box.crs).toList),
      ("srsDimension".toList, (Number.natText box.dimension).toList)], ⟨?_, ?_, ?_⟩, ?_, ?_⟩
    · simp only [List.forall_mem_cons, List.not_mem_nil, false_implies, implies_true, and_true]
      exact ⟨⟨by decide, by decide⟩, ⟨by decide, by decide⟩⟩
    · simp only [List.forall_mem_cons, List.not_mem_nil, false_implies, implies_true, and_true]
      exact ⟨isValue_escape box.crs, isValue_natText _⟩
    · simp
    · simp
    · simp [Markup.attributesText, Markup.attributeText]
  · exact ⟨[], ⟨by simp, by simp, by simp⟩, by simp, rfl⟩

include hharmless

theorem isValue_coverageId (suffix : String) (hsuffix : All AttributeChar suffix) :
    IsValue (c.coverageId ++ suffix).toList :=
  isValue_of_all (Text.all_append.mpr ⟨hharmless.name, hsuffix⟩)

theorem fragment_fieldsText : Fragment (fieldsText {} c).toList := by
  refine fragment_join fun text htext => ?_
  obtain ⟨f, hf, rfl⟩ := List.mem_map.mp htext
  exact fragment_field (hharmless.fields f hf)

include hdomains

theorem harmless_domain {a : AxisView} (ha : a ∈ c.axes) : a.domain.Harmless := by
  obtain ⟨b, hb, hsame⟩ := List.mem_map.mp (hdomains ▸ List.mem_map_of_mem ha)
  exact hsame ▸ hharmless.axes b hb

theorem isValue_axisLabels : IsValue c.axisLabels.toList :=
  isValue_of_all (Context.all_retained attributeChar_numbers fun _ ha =>
    (harmless_domain hdomains hharmless ha).label)

theorem fragment_axisLabels : Fragment c.axisLabels.toList :=
  fragment_of_all (Context.all_retained contentChar_numbers fun _ ha =>
    (harmless_domain hdomains hharmless ha).content)

theorem isValue_uomLabels : IsValue c.uomLabels.toList := by
  refine isValue_of_all (Context.all_retained attributeChar_numbers fun a ha => ?_)
  cases huom : a.domain.uom with
  | none => exact Text.all_ofList.mpr (by decide)
  | some uom => exact (harmless_domain hdomains hharmless ha).uom uom huom

theorem fragment_domLow : Fragment c.domLow.toList :=
  fragment_of_all (all_domLow contentChar_numbers fun _ ha b hb =>
    ((harmless_domain hdomains hharmless ha).bounds b hb).1)

theorem fragment_domHigh : Fragment c.domHigh.toList :=
  fragment_of_all (all_domHigh contentChar_numbers fun _ ha b hb =>
    ((harmless_domain hdomains hharmless ha).bounds b hb).2)

theorem isValue_srsName : IsValue c.srsName.toList := by
  have hsystems := @isValue_systems (c.retained.map (·.domain)) fun a ha crs hcrs => by
    obtain ⟨view, hview, rfl⟩ := List.mem_map.mp ha
    exact (harmless_domain hdomains hharmless (List.mem_of_mem_filter hview)).systems crs hcrs
  rwa [List.map_map] at hsystems

theorem fragment_origin :
    Fragment (fill (originValues c) Builtin.rectifiedGridOrigin).toList := by
  have hfits : Fits (originValues c) (holeKinds .rectifiedGridOrigin) := by
    simp only [holeKinds, originValues, fits_cons, fits_nil, and_true, valueOf_cons,
      String.reduceEq, reduceIte, Kind.Admits]
    exact ⟨isValue_coverageId hharmless _ (by decide), isValue_srsName hdomains hharmless,
      fragment_domLow hdomains hharmless⟩
  exact fragment_fill hfits (isMarkup_builtin .rectifiedGridOrigin)

theorem fragment_offset {row : String} (hrow : Fragment row.toList) :
    Fragment (fill (offsetValues c row) Builtin.offsetVector).toList := by
  have hfits : Fits (offsetValues c row) (holeKinds .offsetVector) := by
    simp only [holeKinds, offsetValues, fits_cons, fits_nil, and_true, valueOf_cons,
      String.reduceEq, reduceIte, Kind.Admits]
    exact ⟨isValue_srsName hdomains hharmless, isValue_uomLabels hdomains hharmless, hrow⟩
  exact fragment_fill hfits (isMarkup_builtin .offsetVector)

theorem fragment_additionsText : Fragment (additionsText c).toList := by
  unfold additionsText
  split
  · exact Markup.fragment_nil
  · rw [String.toList_append, String.toList_append]
    refine ((fragment_origin hdomains hharmless).append (fragment_of_all (by decide))).append
      (fragment_lines fun text htext => ?_)
    obtain ⟨row, hrow, rfl⟩ := List.mem_map.mp htext
    exact fragment_offset hdomains hharmless (fragment_of_all
      (all_offsetRows contentChar_numbers row hrow))

theorem fragment_coverageData {store : Store} {members : String}
    (hrequested : c.requestedId = c.coverageId)
    (hread : store.read c.coverageId = .ok c.coverage)
    (h : store.coverageData c.coverageId c.requestedId c.cells = .ok members) :
    Fragment members.toList := by
  have hsystems := @isValue_systems (c.coverage.axes.map (·.domain)) fun a ha crs hcrs => by
    obtain ⟨view, hview, rfl⟩ := List.mem_map.mp (hdomains ▸ ha)
    exact (harmless_domain hdomains hharmless hview).systems crs hcrs
  rw [List.map_map] at hsystems
  simp only [Store.coverageData, hread, Result.ok_bind, Result.pure_eq_ok] at h
  rw [← h]
  refine fragment_join fun member hmember => ?_
  simp only [Store.pointMembers, List.mem_map, Prod.exists] at hmember
  obtain ⟨point, i, -, rfl⟩ := hmember
  exact fragment_pointMember point i (hrequested ▸ hharmless.name) hsystems

variable (hmetadata : ∀ text, c.coverage.description.metadata = some text → Text.trim text = "")

include hmetadata

theorem fits_gridValues {element low high csv : String} {result : QueryResult}
    (helement : gridElement? c.kind = some element) (hlimits : limits c result = .ok (low, high))
    (hcsv : All ContentChar csv) :
    Fits (gridValues {} c element low high csv) (holeKinds .gridCoverage) := by
  obtain ⟨hlabel, helement⟩ := isName_gridElement helement
  obtain ⟨hlow, hhigh⟩ := all_limits contentChar_numbers hlimits
  have hid : IsValue c.coverageId.toList := isValue_of_all hharmless.name
  simp only [holeKinds, documentKinds, gridValues, documentValues, List.cons_append,
    List.nil_append, fits_cons, fits_nil, and_true, valueOf_cons, String.reduceEq, reduceIte,
    Kind.Admits]
  exact ⟨hid, fragment_descriptions c, isValue_srsName hdomains hharmless,
    isValue_axisLabels hdomains hharmless, isValue_uomLabels hdomains hharmless, isValue_natText _,
    fragment_fieldsText hharmless, fragment_metadataBlock hmetadata, hlabel,
    fragment_domLow hdomains hharmless, fragment_domHigh hdomains hharmless, helement,
    isValue_coverageId hharmless _ (by decide), fragment_of_all hlow, fragment_of_all hhigh,
    fragment_axisLabels hdomains hharmless, fragment_additionsText hdomains hharmless,
    fragment_dataBlock hcsv⟩

theorem fits_pointValues {members : String} (hkind : c.kind = .multiPoint)
    (hmembers : Fragment members.toList) :
    Fits (pointValues {} c members) (holeKinds .multiPointCoverage) := by
  have hlabel : ∀ d ∈ c.kind.label.toList, IsNameChar d := by
    rw [hkind]
    decide
  have hid : IsValue c.coverageId.toList := isValue_of_all hharmless.name
  have hmpId : IsValue ("multipoint_" ++ (c.coverageId ++ "-grid")).toList :=
    isValue_of_all
      (Text.all_append.mpr ⟨by decide, Text.all_append.mpr ⟨hharmless.name, by decide⟩⟩)
  have hbounds : ∀ bound, Fragment (joinBounds c bound).toList := fun bound =>
    fragment_of_all (all_joinBounds contentChar_numbers bound)
  simp only [holeKinds, documentKinds, pointValues, documentValues, List.cons_append,
    List.nil_append, fits_cons, fits_nil, and_true, valueOf_cons, String.reduceEq, reduceIte]
  exact ⟨hid, fragment_descriptions c, isValue_srsName hdomains hharmless,
    isValue_axisLabels hdomains hharmless, isValue_uomLabels hdomains hharmless, isValue_natText _,
    fragment_fieldsText hharmless, fragment_metadataBlock hmetadata, hlabel, hbounds _, hbounds _,
    hmpId, srsGroup_attributes, hmembers⟩

end Context

-- With texts that do no harm where they are put in as they are, every answer can be read.
theorem handle_parses (store : Store) (x : Executor) (r : GetCoverage) (c : Coverage)
    (reply : Reply) (hkeyed : store.Keyed) (hread : store.read r.id = .ok c)
    (hbraces : ∀ t ∈ c.texts, BraceFree t)
    (hmetadata : ∀ text, c.description.metadata = some text → Text.trim text = "")
    (hharmless : c.Harmless)
    (hdata : ∀ query result csv, x.execute query = .ok result →
      result.payload.toText = .ok csv → All ContentChar csv)
    (h : handle store x {} {} r = .ok reply) :
    ∃ root, Markup.Element.parse reply.xml = .ok root := by
  obtain ⟨ctx, hmake, rfl, gml, hanswers, rfl⟩ :=
    (handle_eq_ok_iff hkeyed hread hbraces braceFree_defaultUrn).mp h
  obtain ⟨-, -, hdomains⟩ := Context.make_domains hmake
  obtain ⟨hrequested, hstored⟩ := names_of_make hkeyed hmake
  cases hanswers with
  | grid helement hresult hlimits hcsv =>
      exact parse_fill (fits_gridValues hdomains hharmless hmetadata helement hlimits
        (hdata _ _ _ hresult hcsv)) (isMarkup_builtin .gridCoverage) (by decide)
  | points hkind hmembers =>
      exact parse_fill (fits_pointValues hdomains hharmless hmetadata hkind
        (fragment_coverageData hdomains hharmless hrequested hstored hmembers))
        (isMarkup_builtin .multiPointCoverage) (by decide)

-- A rectified grid without one of its axes.
theorem handle_parses_airTemperature :
    ∃ store c reply root, Store.ofDefs [Sample.airTemperature "A"] = .ok store ∧
      store.read "A" = .ok c ∧ (∀ t ∈ c.texts, BraceFree t) ∧ c.description.metadata = none ∧
      c.Harmless ∧
      handle store { fallback := some { payload := .text "1,2" } } {} {}
        { id := "A", subsets := [.slice "x" "4"] } = .ok reply ∧
      Markup.Element.parse reply.xml = .ok root := by
  obtain ⟨store, c, ctx, hstore, hread, hmake, hbraces, hmetadata, hharmless, helement⟩ :
      ∃ store c ctx, Store.ofDefs [Sample.airTemperature "A"] = .ok store ∧
        store.read "A" = .ok c ∧
        Context.make { id := "A", subsets := [.slice "x" "4"] } store = .ok ctx ∧
        (∀ t ∈ c.texts, BraceFree t) ∧ c.description.metadata = none ∧ c.Harmless ∧
        gridElement? ctx.kind = some "RectifiedGrid" :=
    ⟨_, _, _, rfl, rfl, rfl, by decide, rfl, by decide, rfl⟩
  have hkeyed := Store.keyed_of_ofDefs hstore
  have hreply := @handle_fallback store {} { id := "A", subsets := [.slice "x" "4"] } c ctx
    { payload := .text "1,2" } _ _ _ _ hkeyed hread hbraces braceFree_defaultUrn hmake helement
    rfl rfl
  have hdata : ∀ query result csv,
      Executor.execute { fallback := some { payload := .text "1,2" } } query = .ok result →
      result.payload.toText = .ok csv → All ContentChar csv := by
    rintro query _ _ ⟨⟩ ⟨⟩
    decide
  obtain ⟨root, hroot⟩ := handle_parses store _ _ c _ hkeyed hread hbraces
    (by simp [hmetadata]) hharmless hdata hreply
  exact ⟨store, c, _, root, hstore, hread, hbraces, hmetadata, hharmless, hreply, hroot⟩

-- A row of cells whose name cannot stand in a document as it is.
def ampersandRow : CoverageDef :=
  { Sample.row with name := "A&B" }

-- The list of all coverages escapes this name, but the coverage's own document does not.
theorem handle_ampersandRow_unreadable :
    ∃ store c reply, Store.ofDefs [ampersandRow] = .ok store ∧ store.read "A&B" = .ok c ∧
      (∀ t ∈ c.texts, All (fun d => NotBrace d ∧ ' ' ≤ d ∧ d ≤ '~') t) ∧
      c.description.metadata = none ∧
      handle store { fallback := some { payload := .text "1,2" } } {} {} { id := "A&B" } =
        .ok reply ∧
      ∀ root, Markup.Element.parse reply.xml ≠ .ok root := by
  obtain ⟨store, c, ctx, hstore, hread, hmake, htexts, hmetadata, helement, hparse⟩ :
      ∃ store c ctx, Store.ofDefs [ampersandRow] = .ok store ∧ store.read "A&B" = .ok c ∧
        Context.make { id := "A&B" } store = .ok ctx ∧
        (∀ t ∈ c.texts, All (fun d => NotBrace d ∧ ' ' ≤ d ∧ d ≤ '~') t) ∧
        c.description.metadata = none ∧ gridElement? ctx.kind = some "Grid" ∧
        (Markup.Element.parse (fill (gridValues {} ctx "Grid" ctx.low ctx.high "1,2")
          Builtin.gridCoverage)).toOption.isNone = true := by
    refine ⟨_, _, _, rfl, rfl, rfl, by decide, rfl, rfl, ?_⟩
    rw [Markup.Element.parse, toList_fill]
    decide +kernel
  have hbraces : ∀ t ∈ c.texts, BraceFree t := fun t ht => (htexts t ht).mono fun _ h => h.1
  have hreply := @handle_fallback store {} { id := "A&B" } c ctx { payload := .text "1,2" }
    _ _ _ _ (Store.keyed_of_ofDefs hstore) hread hbraces braceFree_defaultUrn hmake helement
    rfl rfl
  refine ⟨store, c, _, hstore, hread, htexts, hmetadata, hreply, fun root hroot => ?_⟩
  simp [hroot, Except.toOption] at hparse

end Response

end Datacube
