import Datacube.Proofs.Response.Filling
import Datacube.Proofs.Response.Texts

-- The values that documents put into their templates. None of them brings a brace if the texts of
-- the coverage do not.
namespace Datacube.Response

open Markup (escape escapeText)
open Result
open Text (All)

-- The descriptions of all fields.
def fieldsText (settings : ResponseSettings) (c : Context) : String :=
  String.join (c.coverage.description.rangeFields.map fun f =>
    fill (fieldValues settings f) Builtin.rangeField)

def originValues (c : Context) : List (String × String) :=
  [("pointId", c.coverageId ++ "-origin"),
   ("srsName", c.srsName),
   ("originPos", c.domLow),
   ("uomLabels", c.uomLabels)]

def offsetValues (c : Context) (row : String) : List (String × String) :=
  [("srsName", c.srsName),
   ("uomLabels", c.uomLabels),
   ("offsets", row)]

-- The origin and offset vectors of a rectified grid.
def additionsText (c : Context) : String :=
  if c.kind ≠ .rectifiedGrid ∨ c.coverage.description.bbox.isNone then ""
  else
    fill (originValues c) Builtin.rectifiedGridOrigin ++ "\n" ++
      "\n".intercalate
        ((offsetRows c).map fun row => fill (offsetValues c row) Builtin.offsetVector)

-- What a document says of a coverage, apart from its cells and their limits.
def documentValues (settings : ResponseSettings) (c : Context) (element : String) :
    List (String × String) :=
  [("descriptions", descriptions c),
   ("coverageId", c.coverageId),
   ("coverageType", c.kind.label),
   ("coverageSubtype", c.kind.label),
   ("gridId", c.coverageId ++ "-grid"),
   ("mpId", "multipoint_" ++ (c.coverageId ++ "-grid")),
   ("gridDimension", Number.natText c.gridDimension),
   ("gridType", element),
   ("uomLabels", c.uomLabels),
   ("rangeFields", fieldsText settings c),
   ("srsgroup", srsGroup c),
   ("srsName", c.srsName),
   ("lowerCorner", c.domLow),
   ("upperCorner", c.domHigh),
   ("metadata", metadataBlock c),
   ("additions", additionsText c)]

def gridValues (settings : ResponseSettings) (c : Context) (element low high csv : String) :
    List (String × String) :=
  documentValues settings c element ++
    [("low", low), ("high", high), ("axisLabels", c.axisLabels),
     ("coverageData", dataBlock (tupleList csv))]

def pointValues (settings : ResponseSettings) (c : Context) (members : String) :
    List (String × String) :=
  documentValues settings c "MultiPoint" ++
    [("axisLabels", c.axisLabels), ("pointMembers", members),
     ("low", joinBounds c (·.lo)), ("high", joinBounds c (·.hi))]

-- The limits of a grid: those of the result if they are reported.
def limits (c : Context) (result : QueryResult) : Result (String × String) :=
  match result.sdom with
  | some sdom => domainBounds sdom
  | none => .ok (c.low, c.high)

theorem all_limits {p : Char → Prop} {c : Context} {result : QueryResult} {low high : String}
    (hp : AdmitsNumbers p) (h : limits c result = .ok (low, high)) : All p low ∧ All p high := by
  unfold limits at h
  split at h
  · exact all_domainBounds hp h
  · obtain ⟨rfl, rfl⟩ := Prod.mk.inj (Except.ok.inj h)
    exact ⟨all_low hp, all_high hp⟩

section Escaped

variable {s : String}

theorem notBrace_numbers : AdmitsNumbers NotBrace :=
  ⟨fun _ h => ⟨h.ne (by decide), h.ne (by decide)⟩, by decide⟩

theorem braceFree_natText (n : Nat) : BraceFree (Number.natText n) :=
  (Number.all_natText n).mono notBrace_numbers.numeral

theorem braceFree_escapeText (h : BraceFree s) : BraceFree (escapeText s) := by
  refine Text.all_replaceEach.mpr fun c hc => ?_
  have hkept := h c hc
  unfold Markup.escapeTextChar
  split
  case h_4 => simpa using hkept
  all_goals decide

theorem braceFree_escape (h : BraceFree s) : BraceFree (escape s) := by
  refine Text.all_replaceEach.mpr fun c hc => ?_
  have hkept := h c hc
  unfold Markup.escapeChar
  split
  case h_6 => simpa using hkept
  all_goals decide

theorem braceFree_escapeCrs (h : BraceFree s) : BraceFree (Crs.escape s) := by
  refine Text.all_replaceEach.mpr fun c hc => ?_
  have hkept := h c hc
  split
  · decide
  · simpa using hkept

theorem braceFree_systems {domains : List Axis}
    (h : ∀ a ∈ domains, ∀ crs ∈ a.crsSet, BraceFree crs) :
    BraceFree (Crs.escape (Crs.compound (distinct (domains.map Axis.crsOrGrid)))) :=
  braceFree_escapeCrs (all_systems notBrace_numbers.numeral (by decide) h)

theorem braceFree_defaultUrn : BraceFree ({} : ResponseSettings).datatypeUrn := by
  decide

theorem braceFree_tupleList (csv : String) : BraceFree (tupleList csv) := by
  rw [tupleList, BraceFree, Text.all_ofList]
  intro c hc
  simp only [List.mem_filter, decide_eq_true_eq] at hc
  exact ⟨hc.2.1, hc.2.2.1⟩

end Escaped

theorem plain_of_parts {values : List (String × String)}
    (hnames : ∀ name ∈ values.map Prod.fst, BraceFree name)
    (hvalues : ∀ value ∈ values.map Prod.snd, BraceFree value) : Plain values :=
  fun _ hentry => ⟨hnames _ (List.mem_map_of_mem hentry), hvalues _ (List.mem_map_of_mem hentry)⟩

section Field

variable {settings : ResponseSettings} {f : RangeField}

theorem plain_fieldValues (hurn : BraceFree settings.datatypeUrn) (h : ∀ t ∈ f.texts, BraceFree t) :
    Plain (fieldValues settings f) := by
  have hname : BraceFree f.name := h f.name (by simp [RangeField.texts])
  have hdatatype : BraceFree (settings.datatypeUrn ++ f.datatype) :=
    Text.all_append.mpr ⟨hurn, h f.datatype (by simp [RangeField.texts])⟩
  have hnil : BraceFree (String.join (f.nilValues.map nilValue)) := by
    rw [BraceFree, Text.all_join]
    intro text htext
    obtain ⟨value, hvalue, rfl⟩ := List.mem_map.mp htext
    have hescaped := braceFree_escapeText (h value (by simp [RangeField.texts, hvalue]))
    exact braceFree_enclosed hescaped (by decide) (by decide)
  have hdescription : BraceFree (escapeText f.description) :=
    braceFree_escapeText (h f.description (by simp [RangeField.texts]))
  have hallowed : BraceFree (allowedText f) :=
    all_allowedText notBrace_numbers fun lo hi hbounds =>
      ⟨h lo (by simp [RangeField.texts, hbounds]), h hi (by simp [RangeField.texts, hbounds])⟩
  have hcode : BraceFree f.uomCode := h f.uomCode (by simp [RangeField.texts])
  refine plain_of_parts ?_ ?_
  · simp only [fieldValues, List.map_cons, List.map_nil]
    decide
  · simp only [fieldValues, List.map_cons, List.map_nil, List.forall_mem_cons, List.not_mem_nil,
      false_implies, implies_true, and_true]
    exact ⟨hname, hname, hdatatype, hnil, hdescription, hallowed, hcode⟩

theorem braceFree_field (hurn : BraceFree settings.datatypeUrn) (h : ∀ t ∈ f.texts, BraceFree t) :
    BraceFree (fill (fieldValues settings f) Builtin.rangeField) :=
  braceFree_fill (clean_builtin .rangeField) (plain_fieldValues hurn h)
    (by simp only [fieldValues, List.map_cons, List.map_nil]; decide)

end Field

theorem braceFree_empty : BraceFree "" :=
  Text.all_ofList.mpr (by simp)

theorem braceFree_described {tag text : String} (htag : BraceFree tag) (htext : BraceFree text) :
    BraceFree (described tag text) := by
  unfold described
  split
  · exact braceFree_empty
  · rw [BraceFree]
    repeat rw [Text.all_append]
    exact ⟨⟨⟨⟨⟨⟨braceFree_literal (by decide), htag⟩, braceFree_literal (by decide)⟩,
      braceFree_escapeText htext⟩, braceFree_literal (by decide)⟩, htag⟩,
      braceFree_literal (by decide)⟩

theorem braceFree_keywordBlock {keywords : List String} (h : ∀ k ∈ keywords, BraceFree k) :
    BraceFree (keywordBlock keywords) := by
  unfold keywordBlock
  split
  · exact braceFree_empty
  · refine braceFree_enclosed (Text.all_join.mpr fun text htext => ?_) (by decide)
      (by decide)
    obtain ⟨k, hk, rfl⟩ := List.mem_map.mp htext
    exact braceFree_enclosed (braceFree_escapeText (h k hk)) (by decide) (by decide)

theorem braceFree_gridElement {kind : CoverageKind} {element : String}
    (h : gridElement? kind = some element) : BraceFree kind.label ∧ BraceFree element := by
  cases kind <;> cases h
  all_goals exact ⟨braceFree_literal (by decide), braceFree_literal (by decide)⟩

section Context

variable {settings : ResponseSettings} {c : Context}
  (hdomains : c.axes.map (·.domain) = c.coverage.axes.map (·.domain))
  (htexts : ∀ t ∈ c.coverage.texts, BraceFree t)

section Coverage

include htexts

theorem braceFree_coverageId : BraceFree c.coverageId :=
  htexts c.coverage.name (by simp [Coverage.texts])

theorem braceFree_description {t : String} (ht : t ∈ c.coverage.description.texts) : BraceFree t :=
  htexts t (by simp [Coverage.texts, ht])

theorem braceFree_fieldTexts {f : RangeField} (hf : f ∈ c.coverage.description.rangeFields) :
    ∀ t ∈ f.texts, BraceFree t := by
  intro t ht
  refine braceFree_description htexts ?_
  simp only [Description.texts, List.mem_append, List.mem_flatMap]
  exact .inr ⟨f, hf, ht⟩

theorem braceFree_fieldsText (hurn : BraceFree settings.datatypeUrn) :
    BraceFree (fieldsText settings c) := by
  rw [fieldsText, BraceFree, Text.all_join]
  intro text htext
  obtain ⟨f, hf, rfl⟩ := List.mem_map.mp htext
  exact braceFree_field hurn (braceFree_fieldTexts htexts hf)

theorem braceFree_descriptions : BraceFree (descriptions c) := by
  have htitle : BraceFree c.coverage.description.title :=
    braceFree_description htexts (by simp [Description.texts])
  have habstract : BraceFree c.coverage.description.abstract :=
    braceFree_description htexts (by simp [Description.texts])
  have hkeywords : ∀ k ∈ c.coverage.description.keywords, BraceFree k := fun k hk =>
    braceFree_description htexts (by simp [Description.texts, hk])
  unfold descriptions
  rw [BraceFree, Text.all_append, Text.all_append]
  exact ⟨⟨braceFree_described (braceFree_literal (by decide)) htitle,
    braceFree_described (braceFree_literal (by decide)) habstract⟩,
    braceFree_keywordBlock hkeywords⟩

theorem braceFree_srsGroup : BraceFree (srsGroup c) := by
  unfold srsGroup
  split
  · next box hbox =>
    have hcrs : BraceFree box.crs :=
      braceFree_description htexts (by simp [Description.texts, hbox])
    rw [BraceFree]
    repeat rw [Text.all_append]
    exact ⟨⟨⟨⟨braceFree_literal (by decide), braceFree_escape hcrs⟩,
      braceFree_literal (by decide)⟩, braceFree_natText _⟩,
      braceFree_literal (by decide)⟩
  · exact braceFree_empty

theorem braceFree_metadataBlock : BraceFree (metadataBlock c) := by
  unfold metadataBlock
  split
  · next text htext =>
    have hmetadata : BraceFree text :=
      braceFree_description htexts (by simp [Description.texts, htext])
    split
    · exact braceFree_empty
    · exact braceFree_enclosed hmetadata (by decide) (by decide)
  · exact braceFree_empty

end Coverage

section Domains

include hdomains htexts

theorem braceFree_domain {a : AxisView} (ha : a ∈ c.axes) : ∀ t ∈ a.domain.texts, BraceFree t := by
  intro t ht
  obtain ⟨b, hb, hsame⟩ := List.mem_map.mp (hdomains ▸ List.mem_map_of_mem ha)
  refine htexts t ?_
  simp only [Coverage.texts, List.mem_append, List.mem_cons, List.mem_flatMap]
  exact .inl (.inr ⟨b, hb, hsame ▸ ht⟩)

theorem braceFree_axisLabels : BraceFree c.axisLabels :=
  Context.all_retained notBrace_numbers fun a ha =>
    braceFree_domain hdomains htexts ha a.domain.name (by simp [Axis.texts])

theorem braceFree_uomLabels : BraceFree c.uomLabels := by
  refine Context.all_retained notBrace_numbers fun a ha => ?_
  cases huom : a.domain.uom with
  | none => exact braceFree_literal (by decide)
  | some uom => exact braceFree_domain hdomains htexts ha uom (by simp [Axis.texts, huom])

theorem braceFree_domLow : BraceFree c.domLow :=
  all_domLow notBrace_numbers fun a ha b hb =>
    braceFree_domain hdomains htexts ha b.lo (by simp [Axis.texts, hb])

theorem braceFree_domHigh : BraceFree c.domHigh :=
  all_domHigh notBrace_numbers fun a ha b hb =>
    braceFree_domain hdomains htexts ha b.hi (by simp [Axis.texts, hb])

theorem braceFree_srsName : BraceFree c.srsName := by
  have hsystems := @braceFree_systems (c.retained.map (·.domain)) fun a ha crs hcrs => by
    obtain ⟨view, hview, rfl⟩ := List.mem_map.mp ha
    exact braceFree_domain hdomains htexts (List.mem_of_mem_filter hview) crs
      (by simp [Axis.texts, hcrs])
  rwa [List.map_map] at hsystems

theorem plain_originValues : Plain (originValues c) := by
  have hid : BraceFree (c.coverageId ++ "-origin") :=
    Text.all_append.mpr ⟨braceFree_coverageId htexts, braceFree_literal (by decide)⟩
  refine plain_of_parts ?_ ?_
  · simp only [originValues, List.map_cons, List.map_nil]
    decide
  · simp only [originValues, List.map_cons, List.map_nil, List.forall_mem_cons, List.not_mem_nil,
      false_implies, implies_true, and_true]
    exact ⟨hid, braceFree_srsName hdomains htexts, braceFree_domLow hdomains htexts,
      braceFree_uomLabels hdomains htexts⟩

theorem plain_offsetValues {row : String} (hrow : BraceFree row) : Plain (offsetValues c row) := by
  refine plain_of_parts ?_ ?_
  · simp only [offsetValues, List.map_cons, List.map_nil]
    decide
  · simp only [offsetValues, List.map_cons, List.map_nil, List.forall_mem_cons, List.not_mem_nil,
      false_implies, implies_true, and_true]
    exact ⟨braceFree_srsName hdomains htexts, braceFree_uomLabels hdomains htexts, hrow⟩

theorem braceFree_additionsText : BraceFree (additionsText c) := by
  unfold additionsText
  split
  · exact braceFree_empty
  · rw [BraceFree, Text.all_append, Text.all_append]
    refine ⟨⟨?_, braceFree_literal (by decide)⟩,
      Text.all_intercalate (braceFree_literal (by decide)) fun text htext => ?_⟩
    · exact braceFree_fill (clean_builtin .rectifiedGridOrigin)
        (plain_originValues hdomains htexts)
        (by simp only [originValues, List.map_cons, List.map_nil]; decide)
    · obtain ⟨row, hrow, rfl⟩ := List.mem_map.mp htext
      exact braceFree_fill (clean_builtin .offsetVector)
        (plain_offsetValues hdomains htexts
          (all_offsetRows notBrace_numbers row hrow))
        (by simp only [offsetValues, List.map_cons, List.map_nil]; decide)

theorem plain_documentValues {element : String} (hurn : BraceFree settings.datatypeUrn)
    (hlabel : BraceFree c.kind.label) (helement : BraceFree element) :
    Plain (documentValues settings c element) := by
  have hid := braceFree_coverageId htexts
  have hgridId : BraceFree (c.coverageId ++ "-grid") :=
    Text.all_append.mpr ⟨hid, braceFree_literal (by decide)⟩
  refine plain_of_parts ?_ ?_
  · simp only [documentValues, List.map_cons, List.map_nil]
    decide
  · simp only [documentValues, List.map_cons, List.map_nil, List.forall_mem_cons, List.not_mem_nil,
      false_implies, implies_true, and_true]
    exact ⟨braceFree_descriptions htexts, hid, hlabel, hlabel, hgridId,
      Text.all_append.mpr ⟨braceFree_literal (by decide), hgridId⟩,
      braceFree_natText _, helement,
      braceFree_uomLabels hdomains htexts, braceFree_fieldsText htexts hurn,
      braceFree_srsGroup htexts, braceFree_srsName hdomains htexts,
      braceFree_domLow hdomains htexts, braceFree_domHigh hdomains htexts,
      braceFree_metadataBlock htexts, braceFree_additionsText hdomains htexts⟩

variable {store : Store}

theorem plain_gridValues {element low high : String} {result : QueryResult} (csv : String)
    (hurn : BraceFree settings.datatypeUrn) (helement : gridElement? c.kind = some element)
    (hlimits : limits c result = .ok (low, high)) :
    Plain (gridValues settings c element low high csv) := by
  obtain ⟨hlabel, helement⟩ := braceFree_gridElement helement
  have hbounds : BraceFree low ∧ BraceFree high :=
    all_limits notBrace_numbers hlimits
  have hcells : BraceFree (dataBlock (tupleList csv)) :=
    braceFree_enclosed (braceFree_tupleList csv) (by decide) (by decide)
  refine List.forall_mem_append.mpr
    ⟨plain_documentValues hdomains htexts hurn hlabel helement, plain_of_parts ?_ ?_⟩
  · simp only [List.map_cons, List.map_nil]
    decide
  · simp only [List.map_cons, List.map_nil, List.forall_mem_cons, List.not_mem_nil,
      false_implies, implies_true, and_true]
    exact ⟨hbounds.1, hbounds.2, braceFree_axisLabels hdomains htexts, hcells⟩

-- Points are numbered, and named after the coverage.
theorem braceFree_pointMembers {id requested : String} {cells : List CellExtent}
    (hrequested : BraceFree requested) :
    ∀ member ∈ store.pointMembers c.coverage id requested cells, BraceFree member := by
  have hsystems := @braceFree_systems (c.coverage.axes.map (·.domain)) fun a ha crs hcrs => by
    obtain ⟨view, hview, rfl⟩ := List.mem_map.mp (hdomains ▸ ha)
    exact braceFree_domain hdomains htexts hview crs (by simp [Axis.texts, hcrs])
  rw [List.map_map] at hsystems
  intro member hmember
  simp only [Store.pointMembers, List.mem_map, Prod.exists] at hmember
  obtain ⟨point, i, -, rfl⟩ := hmember
  unfold Store.pointMember
  rw [BraceFree]
  repeat rw [Text.all_append]
  exact ⟨⟨⟨⟨⟨⟨⟨⟨braceFree_literal (by decide), hrequested⟩, braceFree_literal (by decide)⟩,
    braceFree_natText i⟩, braceFree_literal (by decide)⟩, hsystems⟩,
    braceFree_literal (by decide)⟩, all_floatTexts notBrace_numbers _⟩,
    braceFree_literal (by decide)⟩

theorem braceFree_coverageData {members : String} (hrequested : BraceFree c.requestedId)
    (hread : store.read c.coverageId = .ok c.coverage)
    (h : store.coverageData c.coverageId c.requestedId c.cells = .ok members) :
    BraceFree members := by
  simp only [Store.coverageData, hread, ok_bind, pure_eq_ok] at h
  rw [← h, BraceFree, Text.all_join]
  exact braceFree_pointMembers hdomains htexts hrequested

theorem plain_pointValues {members : String} (hurn : BraceFree settings.datatypeUrn)
    (hkind : c.kind = .multiPoint) (hmembers : BraceFree members) :
    Plain (pointValues settings c members) := by
  have hlabel : BraceFree c.kind.label := by
    rw [hkind]
    exact braceFree_literal (by decide)
  refine List.forall_mem_append.mpr
    ⟨plain_documentValues hdomains htexts hurn hlabel (braceFree_literal (by decide)),
      plain_of_parts ?_ ?_⟩
  · simp only [List.map_cons, List.map_nil]
    decide
  · simp only [List.map_cons, List.map_nil, List.forall_mem_cons, List.not_mem_nil,
      false_implies, implies_true, and_true]
    exact ⟨braceFree_axisLabels hdomains htexts, hmembers,
      all_joinBounds notBrace_numbers _,
      all_joinBounds notBrace_numbers _⟩

end Domains

end Context

end Datacube.Response
