import Datacube.Proofs.Response.Values
import Datacube.Sample.Coverages

-- The documents that answer requests: templates filled at once, with no brace left.
namespace Datacube.Response

open Result

-- The document that answers a request, with all holes of its template filled at once.
inductive Answers (store : Store) (x : Executor) (settings : ResponseSettings) (c : Context) :
    String → Prop
  | grid {element low high csv : String} {result : QueryResult}
      (helement : gridElement? c.kind = some element) (hresult : x.execute c.query = .ok result)
      (hlimits : limits c result = .ok (low, high)) (hcsv : result.payload.toText = .ok csv) :
      Answers store x settings c
        (fill (gridValues settings c element low high csv) Builtin.gridCoverage)
  | points {members : String} (hkind : c.kind = .multiPoint)
      (hmembers : store.coverageData c.coverageId c.requestedId c.cells = .ok members) :
      Answers store x settings c
        (fill (pointValues settings c members) Builtin.multiPointCoverage)

theorem isGrid_of_gridElement {kind : CoverageKind} {element : String}
    (h : gridElement? kind = some element) : kind ≠ .multiPoint ∧ kind.isGrid = true := by
  cases kind <;> cases h
  all_goals exact ⟨by simp, rfl⟩

theorem domainElement_grid_iff {c : Context} {element : String} :
    domainElement .gridCoverage c = .ok element ↔ gridElement? c.kind = some element := by
  rw [domainElement, if_neg (by decide)]
  cases gridElement? c.kind <;> simp

theorem substitute_append (text : String) (values more : List (String × String)) :
    substitute (substitute text values) more = substitute text (values ++ more) :=
  List.foldl_append.symm

theorem render_plain {name : TemplateName} {values : List (String × String)} (h : Plain values) :
    ({} : Templates).render name values = .ok (fill values (builtin name)) := by
  rw [render_builtin, substitute_eq_fill (clean_builtin name) h]

-- A template that is filled for each member of a list.
theorem mapM_render {α : Type} {name : TemplateName} {values : α → List (String × String)}
    {as : List α} (h : ∀ a ∈ as, Plain (values a)) :
    as.mapM (fun a => ({} : Templates).render name (values a)) =
      .ok (as.map fun a => fill (values a) (builtin name)) :=
  mapM_eq_ok_iff.mpr (List.forall₂_map_right_iff.mpr
    (List.forall₂_same.mpr fun a ha => render_plain (h a ha)))

theorem gridDocument_eq_ok_iff {x : Executor} {t : Templates} {settings : ResponseSettings}
    {c : Context} {gml : String} :
    gridDocument x t settings c = .ok gml ↔
      ∃ described, document t settings c .gridCoverage false = .ok described ∧
        ∃ result, x.execute c.query = .ok result ∧ ∃ low high, limits c result = .ok (low, high) ∧
          ∃ csv, result.payload.toText = .ok csv ∧
            addCoverageData (substitute described
              [("low", low), ("high", high), ("axisLabels", c.axisLabels)]) csv = gml := by
  simp only [gridDocument, bind_eq_ok]
  refine exists_congr fun described => and_congr_right fun _ => exists_congr fun result =>
    and_congr_right fun _ => ?_
  cases hsdom : result.sdom <;> simp [limits, hsdom]

section Context

variable {settings : ResponseSettings} {c : Context}
  (hdomains : c.axes.map (·.domain) = c.coverage.axes.map (·.domain))
  (htexts : ∀ t ∈ c.coverage.texts, BraceFree t)

include htexts

theorem rangeFields_builtin (hurn : BraceFree settings.datatypeUrn) :
    rangeFields {} settings c = .ok (fieldsText settings c) := by
  rw [rangeFields, mapM_render fun f hf => plain_fieldValues hurn (braceFree_fieldTexts htexts hf)]
  rfl

include hdomains

theorem additions_builtin : additions {} c = .ok (additionsText c) := by
  unfold additions additionsText
  split
  · rfl
  · have horigin : ({} : Templates).render .rectifiedGridOrigin (originValues c) =
        .ok (fill (originValues c) Builtin.rectifiedGridOrigin) :=
      render_plain (plain_originValues hdomains htexts)
    have hoffsets : (offsetRows c).mapM
        (fun row => ({} : Templates).render .offsetVector (offsetValues c row)) =
        .ok ((offsetRows c).map fun row => fill (offsetValues c row) Builtin.offsetVector) :=
      mapM_render fun row hrow => plain_offsetValues hdomains htexts
        (all_offsetRows notBrace_numbers row hrow)
    unfold originValues at horigin
    unfold offsetValues at hoffsets
    rw [horigin, ok_bind, hoffsets]
    rfl

-- A document without its cells and their limits is a template with some holes left.
theorem document_eq_ok_iff {template : TemplateName} {gml : String}
    (hurn : BraceFree settings.datatypeUrn) :
    document {} settings c template false = .ok gml ↔
      ∃ element, domainElement template c = .ok element ∧
        substitute (templateText (builtin template))
          (documentValues settings c element ++ boundValues template false c) = gml := by
  simp only [document, rangeFields_builtin htexts hurn, additions_builtin hdomains htexts,
    render_builtin, ok_bind, bind_eq_ok, Except.ok.injEq, documentValues]

variable {store : Store} {x : Executor}

theorem gridDocument_iff_answers {gml : String} (hurn : BraceFree settings.datatypeUrn)
    (hkind : c.kind ≠ .multiPoint) :
    gridDocument x {} settings c = .ok gml ↔ Answers store x settings c gml := by
  have hfill : ∀ {element low high result} csv, gridElement? c.kind = some element →
      limits c result = .ok (low, high) →
      addCoverageData (substitute (substitute (templateText (builtin .gridCoverage))
          (documentValues settings c element ++ boundValues .gridCoverage false c))
        [("low", low), ("high", high), ("axisLabels", c.axisLabels)]) csv =
      fill (gridValues settings c element low high csv) Builtin.gridCoverage := by
    intro element low high result csv helement hlimits
    rw [addCoverageData, substitute_append, substitute_append, boundValues, if_neg (by decide),
      if_neg (by decide), List.append_nil]
    exact substitute_eq_fill (clean_builtin .gridCoverage)
      (plain_gridValues hdomains htexts csv hurn helement hlimits)
  simp only [gridDocument_eq_ok_iff, document_eq_ok_iff hdomains htexts hurn,
    domainElement_grid_iff]
  constructor
  · rintro ⟨_, ⟨element, helement, rfl⟩, result, hresult, low, high, hlimits, csv, hcsv, rfl⟩
    exact hfill csv helement hlimits ▸ .grid helement hresult hlimits hcsv
  · rintro (⟨helement, hresult, hlimits, hcsv⟩ | ⟨hpoints, -⟩)
    · exact ⟨_, ⟨_, helement, rfl⟩, _, hresult, _, _, hlimits, _, hcsv, hfill _ helement hlimits⟩
    · exact absurd hpoints hkind

theorem multiPointDocument_iff_answers {gml : String} (hurn : BraceFree settings.datatypeUrn)
    (hkind : c.kind = .multiPoint) (hrequested : BraceFree c.requestedId)
    (hread : store.read c.coverageId = .ok c.coverage) :
    multiPointDocument store {} settings c = .ok gml ↔ Answers store x settings c gml := by
  have hfill : ∀ {members}, store.coverageData c.coverageId c.requestedId c.cells = .ok members →
      substitute (substitute (templateText (builtin .multiPointCoverage))
          (documentValues settings c "MultiPoint" ++ boundValues .multiPointCoverage false c))
        [("pointMembers", members), ("low", joinBounds c (·.lo)), ("high", joinBounds c (·.hi))] =
      fill (pointValues settings c members) Builtin.multiPointCoverage := by
    intro members hmembers
    rw [substitute_append, boundValues, if_neg (by decide), if_pos rfl, List.append_assoc]
    exact substitute_eq_fill (clean_builtin .multiPointCoverage)
      (plain_pointValues hdomains htexts hurn hkind
        (braceFree_coverageData hdomains htexts hrequested hread hmembers))
  simp only [multiPointDocument, bind_eq_ok, pure_eq_ok, document_eq_ok_iff hdomains htexts hurn]
  constructor
  · rintro ⟨_, ⟨element, helement, rfl⟩, members, hmembers, rfl⟩
    obtain rfl : "MultiPoint" = element := Except.ok.inj helement
    exact hfill hmembers ▸ .points hkind hmembers
  · rintro (⟨helement, -⟩ | ⟨-, hmembers⟩)
    · exact absurd hkind (isGrid_of_gridElement helement).1
    · exact ⟨_, ⟨_, rfl, rfl⟩, _, hmembers, hfill hmembers⟩

-- Nothing is left to fill in an answer.
theorem braceFree_of_answers {gml : String} (hurn : BraceFree settings.datatypeUrn)
    (hrequested : BraceFree c.requestedId) (hread : store.read c.coverageId = .ok c.coverage)
    (h : Answers store x settings c gml) : BraceFree gml := by
  cases h with
  | grid helement hresult hlimits hcsv =>
      exact braceFree_fill (clean_builtin .gridCoverage)
        (plain_gridValues hdomains htexts _ hurn helement hlimits)
        (by
          simp only [gridValues, documentValues, List.map_cons, List.map_nil, List.map_append]
          decide)
  | points hkind hmembers =>
      exact braceFree_fill (clean_builtin .multiPointCoverage)
        (plain_pointValues hdomains htexts hurn hkind
          (braceFree_coverageData hdomains htexts hrequested hread hmembers))
        (by
          simp only [pointValues, documentValues, List.map_cons, List.map_nil, List.map_append]
          decide)

end Context

section Handle

variable {store : Store} {x : Executor} {settings : ResponseSettings} {r : GetCoverage}
  {c : Coverage} {ctx : Context} {reply : Reply}

-- The coverage is found under the requested name, and this is its own.
theorem names_of_make (hkeyed : store.Keyed) (hmake : Context.make r store = .ok ctx) :
    ctx.requestedId = ctx.coverageId ∧ store.read ctx.coverageId = .ok ctx.coverage := by
  obtain ⟨hread, hrequested, -⟩ := Context.make_domains hmake
  have hname : ctx.coverageId = r.id := hkeyed r.id ctx.coverage hread
  exact ⟨hrequested.trans hname.symm, hname ▸ hread⟩

theorem handle_eq_ok_iff (hkeyed : store.Keyed) (hread : store.read r.id = .ok c)
    (htexts : ∀ t ∈ c.texts, BraceFree t) (hurn : BraceFree settings.datatypeUrn) :
    handle store x {} settings r = .ok reply ↔
      ∃ ctx, Context.make r store = .ok ctx ∧ ctx.coverage = c ∧
        ∃ gml, Answers store x settings ctx gml ∧ { mime := gmlType, xml := gml } = reply := by
  simp only [handle, bind_eq_ok]
  refine exists_congr fun ctx => and_congr_right fun hmake => ?_
  obtain ⟨hfound, -, hdomains⟩ := Context.make_domains hmake
  obtain ⟨hrequested, hstored⟩ := names_of_make hkeyed hmake
  obtain rfl : ctx.coverage = c := Except.ok.inj (hfound.symm.trans hread)
  rw [eq_self_iff_true, true_and]
  split
  · next hkind =>
    simp only [bind_eq_ok, pure_eq_ok]
    exact exists_congr fun gml => and_congr_left fun _ =>
      multiPointDocument_iff_answers hdomains htexts hurn hkind
        (hrequested ▸ braceFree_coverageId htexts) hstored
  · next hkind =>
    split
    · simp only [bind_eq_ok, pure_eq_ok]
      exact exists_congr fun gml => and_congr_left fun _ =>
        gridDocument_iff_answers hdomains htexts hurn hkind
    · next hgrid =>
      refine ⟨by simp, ?_⟩
      rintro ⟨_, ⟨helement, -⟩ | ⟨hpoints, -⟩, -⟩
      · exact absurd (isGrid_of_gridElement helement).2 hgrid
      · exact absurd hpoints hkind

-- The answer for a grid if the array engine gives one result for everything.
theorem handle_fallback {result : QueryResult} {element low high csv : String}
    (hkeyed : store.Keyed) (hread : store.read r.id = .ok c)
    (htexts : ∀ t ∈ c.texts, BraceFree t) (hurn : BraceFree settings.datatypeUrn)
    (hmake : Context.make r store = .ok ctx) (helement : gridElement? ctx.kind = some element)
    (hlimits : limits ctx result = .ok (low, high)) (hcsv : result.payload.toText = .ok csv) :
    handle store { fallback := some result } {} settings r =
      .ok { mime := gmlType,
            xml := fill (gridValues settings ctx element low high csv) Builtin.gridCoverage } := by
  obtain ⟨hfound, -, -⟩ := Context.make_domains hmake
  have hc : ctx.coverage = c := Except.ok.inj (hfound.symm.trans hread)
  exact (handle_eq_ok_iff hkeyed hread htexts hurn).mpr
    ⟨ctx, hmake, hc, _, .grid helement rfl hlimits hcsv, rfl⟩

end Handle

-- Every answer is a built-in template with all its holes filled at once, and keeps no brace.
theorem handle_fills_template (store : Store) (x : Executor) (settings : ResponseSettings)
    (r : GetCoverage) (c : Coverage) (reply : Reply) (hkeyed : store.Keyed)
    (hread : store.read r.id = .ok c) (htexts : ∀ t ∈ c.texts, BraceFree t)
    (hurn : BraceFree settings.datatypeUrn) (h : handle store x {} settings r = .ok reply) :
    BraceFree reply.xml ∧
      ∃ ctx, Context.make r store = .ok ctx ∧ Answers store x settings ctx reply.xml := by
  obtain ⟨ctx, hmake, rfl, gml, hanswers, rfl⟩ :=
    (handle_eq_ok_iff hkeyed hread htexts hurn).mp h
  obtain ⟨-, -, hdomains⟩ := Context.make_domains hmake
  obtain ⟨hrequested, hstored⟩ := names_of_make hkeyed hmake
  have hid : BraceFree ctx.requestedId := hrequested ▸ braceFree_coverageId htexts
  exact ⟨braceFree_of_answers hdomains htexts hurn hid hstored hanswers, ctx, hmake, hanswers⟩

-- A rectified grid without one of its axes, with limits that the array engine reports.
theorem handle_fills_airTemperature :
    ∃ store c reply, Store.ofDefs [Sample.airTemperature "A"] = .ok store ∧
      store.read "A" = .ok c ∧ (∀ t ∈ c.texts, BraceFree t) ∧
      handle store
        { fallback := some { payload := .text "\x7b1,2\x7d", sdom := some "[0:1]" } } {} {}
        { id := "A", subsets := [.slice "x" "4"] } = .ok reply ∧ BraceFree reply.xml := by
  obtain ⟨store, c, ctx, low, high, hstore, hread, hmake, htexts, helement, hlimits⟩ :
      ∃ store c ctx low high, Store.ofDefs [Sample.airTemperature "A"] = .ok store ∧
        store.read "A" = .ok c ∧
        Context.make { id := "A", subsets := [.slice "x" "4"] } store = .ok ctx ∧
        (∀ t ∈ c.texts, BraceFree t) ∧ gridElement? ctx.kind = some "RectifiedGrid" ∧
        limits ctx { payload := .text "\x7b1,2\x7d", sdom := some "[0:1]" } = .ok (low, high) :=
    ⟨_, _, _, _, _, rfl, rfl, rfl, by decide +kernel, rfl, rfl⟩
  have hkeyed := Store.keyed_of_ofDefs hstore
  have hreply := handle_fallback hkeyed hread htexts braceFree_defaultUrn hmake helement hlimits rfl
  exact ⟨store, c, _, hstore, hread, htexts, hreply,
    (handle_fills_template store _ {} _ c _ hkeyed hread htexts braceFree_defaultUrn hreply).1⟩

end Datacube.Response
