import Datacube.Proofs.Coverage.Definition
import Datacube.Proofs.Response.Answer
import Datacube.Proofs.Response.Query

-- The number of dimensions that an answer shows. A grid has one for each axis without a slice in
-- all its parts. The envelope of points has coordinates for the axes of slices as well.
namespace Datacube.Response

open Result

-- No slice counts on the axis.
def GetCoverage.keeps (r : GetCoverage) (axis : String) : Bool :=
  !(r.carried axis).any (·.isSlice)

-- The axes of a coverage that a request leaves in the answer.
def GetCoverage.kept (r : GetCoverage) (c : Coverage) : List GridAxis :=
  c.axes.filter fun a => r.keeps a.domain.name

section Kept

variable {d : CoverageDef} {r : GetCoverage} {store : Store} {ctx : Context}

theorem retained_eq_filter (hvalid : Coverage.ofDef d = .ok ctx.coverage)
    (h : Context.make r store = .ok ctx) :
    ctx.retained = ctx.axes.filter fun a => r.keeps a.domain.name := by
  refine List.filter_congr fun a ha => ?_
  have hcarries : a.cells.subset = r.carried a.domain.name := Context.make_carries hvalid h a ha
  rw [Context.isSliced, hcarries, GetCoverage.keeps]

-- Which axes are left, and the cells they start with, follows from the request alone.
theorem retained_eq_kept (hvalid : Coverage.ofDef d = .ok ctx.coverage)
    (h : Context.make r store = .ok ctx) :
    ctx.retained.map (fun a => (a.domain, a.native)) =
      (r.kept ctx.coverage).map fun a => (a.domain, a.cells) := by
  obtain ⟨-, -, hdomains, hnatives⟩ := Context.make_keeps h
  have hpairs : ctx.axes.map (fun a => (a.domain, a.native)) =
      ctx.coverage.axes.map fun a => (a.domain, a.cells) := by
    rw [← List.zip_map', hdomains, hnatives, List.zip_map']
  have hfilter := congrArg (List.filter fun p : Axis × CellExtent => r.keeps p.1.name) hpairs
  rw [List.filter_map, List.filter_map] at hfilter
  rw [retained_eq_filter hvalid h]
  exact hfilter

theorem retained_domains (hvalid : Coverage.ofDef d = .ok ctx.coverage)
    (h : Context.make r store = .ok ctx) :
    ctx.retained.map (·.domain) = (r.kept ctx.coverage).map (·.domain) := by
  have hdomains := congrArg (List.map Prod.fst) (retained_eq_kept hvalid h)
  rw [List.map_map, List.map_map] at hdomains
  exact hdomains

end Kept

-- Rows of a square with a diagonal and zeros elsewhere.
structure Diagonal (rows : List (List String)) (diagonal : List String) : Prop where
  rows_length : rows.length = diagonal.length
  row_length : ∀ row ∈ rows, row.length = diagonal.length
  entry : ∀ (i j : Nat) (row : List String) (text : String), rows[i]? = some row →
    row[j]? = some text → if i = j then diagonal[i]? = some text else text = "0"

def diagonalRows (diagonal : List String) : List (List String) :=
  diagonal.zipIdx.map fun (text, i) =>
    (List.range diagonal.length).map fun j => if j = i then text else "0"

theorem diagonal_diagonalRows (diagonal : List String) :
    Diagonal (diagonalRows diagonal) diagonal := by
  refine ⟨by simp [diagonalRows], fun row hrow => ?_, fun i j row text hrow htext => ?_⟩
  · obtain ⟨_, -, rfl⟩ := List.mem_map.mp hrow
    simp
  · rw [diagonalRows, List.getElem?_map, List.getElem?_zipIdx, Option.map_map,
      Option.map_eq_some_iff] at hrow
    obtain ⟨own, hown, rfl⟩ := hrow
    rw [Function.comp_apply, List.getElem?_map, Option.map_eq_some_iff] at htext
    obtain ⟨k, hk, rfl⟩ := htext
    have hj : j < diagonal.length := by
      have hlt := (List.getElem?_eq_some_iff.mp hk).1
      rwa [List.length_range] at hlt
    obtain rfl : j = k := Option.some.inj ((List.getElem?_range hj).symm.trans hk)
    by_cases hij : i = j
    · rw [if_pos hij, if_pos (by omega)]
      exact hown
    · rw [if_neg hij, if_neg (by omega)]

theorem offsetRows_eq (ctx : Context) :
    offsetRows ctx =
      (diagonalRows (ctx.retained.map (·.domain.resolution.text))).map (" ".intercalate ·) := by
  rw [diagonalRows, List.map_map]
  rfl

-- The ends of an axis as texts: of the coordinates where its first cell begins and its last one
-- ends, held within the axis, or of the bounds themselves where these are no numbers.
inductive Ends (a : AxisView) : String × String → Prop where
  | numeric {b : NumericBounds} (hb : a.domain.numeric = some b) :
      Ends a
        (Number.floatText (Number.greatestFloat
          (b.lo + Float.ofInt (a.cells.lo - a.native.lo) * a.domain.resolutionFloat) b.lo),
         Number.floatText (Number.leastFloat
          (b.lo + Float.ofInt (a.cells.hi + 1 - a.native.lo) * a.domain.resolutionFloat) b.hi))
  | textual {b : TextualBounds} (hnumeric : a.domain.numeric = none)
      (hb : a.domain.textual = some b) : Ends a (b.lo, b.hi)

section Ends

variable {a : AxisView}

theorem ends_of_bounded (h : a.domain.Bounded) :
    Ends a (Context.lowerText a, Context.upperText a) := by
  cases hnumeric : a.domain.numeric with
  | some b =>
      have hlower : Context.lowerCoordinate a b = Number.greatestFloat
          (b.lo + Float.ofInt (a.cells.lo - a.native.lo) * a.domain.resolutionFloat) b.lo := by
        rw [Context.lowerCoordinate, Axis.coordinate, hnumeric, Option.map_some]
      have hupper : Context.upperCoordinate a b = Number.leastFloat
          (b.lo + Float.ofInt (a.cells.hi + 1 - a.native.lo) * a.domain.resolutionFloat) b.hi := by
        rw [Context.upperCoordinate, Axis.coordinate, hnumeric, Option.map_some]
      simp only [Context.lowerText, Context.upperText, hnumeric, hlower, hupper]
      exact .numeric hnumeric
  | none =>
      obtain ⟨b, hb, -⟩ := h hnumeric
      rw [Context.lowerText, Context.upperText, hnumeric, hb]
      exact .textual hnumeric hb

theorem Ends.ne_empty {texts : String × String} (h : Ends a texts) (ha : a.domain.Bounded) :
    texts.1 ≠ "" ∧ texts.2 ≠ "" := by
  have hfloat : ∀ x, Number.floatText x ≠ "" := by
    intro x hempty
    exact (Number.isWord_floatText x).1 (by rw [hempty]; rfl)
  cases h with
  | numeric _ => exact ⟨hfloat _, hfloat _⟩
  | textual hnumeric hb =>
      obtain ⟨b, hb', hacceptable⟩ := ha hnumeric
      obtain rfl := Option.some.inj (hb'.symm.trans hb)
      exact ⟨hacceptable.lo_ne, hacceptable.hi_ne⟩

end Ends

-- Every part of a grid's description has one component for each of the axes, in their order.
structure Dimensioned (ctx : Context) (axes : List AxisView) : Prop where
  dimension : ctx.gridDimension = axes.length
  labels : ctx.axisLabels = " ".intercalate (axes.map (·.domain.name))
  uoms : ctx.uomLabels = " ".intercalate (axes.map fun a => a.domain.uom.getD "10^0")
  low : ctx.low = " ".intercalate (axes.map (Number.intText ·.cells.lo))
  high : ctx.high = " ".intercalate (axes.map (Number.intText ·.cells.hi))
  corners : ∃ ends : List (String × String), List.Forall₂ Ends axes ends ∧
    (∀ texts ∈ ends, texts.1 ≠ "" ∧ texts.2 ≠ "") ∧
    ctx.domLow = " ".intercalate (ends.map (·.1)) ∧
    ctx.domHigh = " ".intercalate (ends.map (·.2))
  offsets : ∃ rows : List (List String), offsetRows ctx = rows.map (" ".intercalate ·) ∧
    Diagonal rows (axes.map (·.domain.resolution.text))

theorem retained_bounded {d : CoverageDef} {r : GetCoverage} {store : Store} {ctx : Context}
    (hvalid : Coverage.ofDef d = .ok ctx.coverage) (h : Context.make r store = .ok ctx) :
    ∀ a ∈ ctx.retained, a.domain.Bounded := by
  intro a ha
  have hdomain : a.domain ∈ (r.kept ctx.coverage).map (·.domain) :=
    retained_domains hvalid h ▸ List.mem_map_of_mem ha
  obtain ⟨axis, haxis, hsame⟩ := List.mem_map.mp hdomain
  exact hsame ▸ Coverage.bounded_of_ofDef hvalid axis (List.mem_of_mem_filter haxis)

-- The ends of the axes in the corners are all there, one text for each.
theorem exists_ends {ctx : Context} (h : ∀ a ∈ ctx.retained, a.domain.Bounded) :
    ∃ ends : List (String × String), List.Forall₂ Ends ctx.retained ends ∧
      (∀ texts ∈ ends, texts.1 ≠ "" ∧ texts.2 ≠ "") ∧
      ctx.domLow = " ".intercalate (ends.map (·.1)) ∧
      ctx.domHigh = " ".intercalate (ends.map (·.2)) := by
  refine ⟨ctx.retained.map fun a => (Context.lowerText a, Context.upperText a), ?_, ?_, ?_, ?_⟩
  · rw [List.forall₂_map_right_iff, List.forall₂_same]
    exact fun a ha => ends_of_bounded (h a ha)
  · intro texts htexts
    obtain ⟨a, ha, rfl⟩ := List.mem_map.mp htexts
    exact (ends_of_bounded (h a ha)).ne_empty (h a ha)
  · rw [List.map_map]
    rfl
  · rw [List.map_map]
    rfl

-- The axes that a grid's description shows are those that the request keeps.
theorem grid_dimensioned (d : CoverageDef) (c : Coverage) (r : GetCoverage) (store : Store)
    (ctx : Context) (hvalid : Coverage.ofDef d = .ok c) (hread : store.read r.id = .ok c)
    (h : Context.make r store = .ok ctx) :
    ∃ axes : List AxisView,
      axes.map (fun a => (a.domain, a.native)) = (r.kept c).map (fun a => (a.domain, a.cells)) ∧
        (∀ a ∈ axes, a.cells.subset = r.carried a.domain.name) ∧ Dimensioned ctx axes := by
  obtain ⟨hfound, -, -⟩ := Context.make_keeps h
  obtain rfl : ctx.coverage = c := Except.ok.inj (hfound.symm.trans hread)
  refine ⟨ctx.retained, retained_eq_kept hvalid h, fun a ha => ?_, ?_⟩
  · exact Context.make_carries hvalid h a (List.mem_of_mem_filter ha)
  · exact {
      dimension := rfl
      labels := rfl
      uoms := rfl
      low := rfl
      high := rfl
      corners := exists_ends (retained_bounded hvalid h)
      offsets := ⟨_, offsetRows_eq ctx, diagonal_diagonalRows _⟩ }

-- A box without its middle axis: two components in all parts.
theorem grid_dimensioned_box :
    ∃ store c ctx axes, Store.ofDefs [box] = .ok store ∧ Coverage.ofDef box = .ok c ∧
      store.read "B" = .ok c ∧
      Context.make { id := "B", subsets := [.slice "y" "3", .trim "x" "2" "5"] } store = .ok ctx ∧
      axes.map (·.domain.name) = ["x", "t"] ∧ Dimensioned ctx axes ∧
      ctx.gridDimension = 2 ∧ ctx.axisLabels = "x t" ∧ ctx.uomLabels = "10^0 10^0" ∧
      ctx.low = "2 -5" ∧ ctx.high = "5 4" ∧ ctx.domLow = "2 0" ∧ ctx.domHigh = "6 10" ∧
      offsetRows ctx = ["1 0", "0 1"] := by
  obtain ⟨store, c, ctx, hstore, hc, hread, hctx, hkept, hparts⟩ : ∃ store c ctx,
      Store.ofDefs [box] = .ok store ∧ Coverage.ofDef box = .ok c ∧ store.read "B" = .ok c ∧
        Context.make { id := "B", subsets := [.slice "y" "3", .trim "x" "2" "5"] } store =
          .ok ctx ∧
        (GetCoverage.kept { id := "B", subsets := [.slice "y" "3", .trim "x" "2" "5"] } c).map
          (·.domain.name) = ["x", "t"] ∧
        ctx.gridDimension = 2 ∧ ctx.axisLabels = "x t" ∧ ctx.uomLabels = "10^0 10^0" ∧
        ctx.low = "2 -5" ∧ ctx.high = "5 4" ∧ ctx.domLow = "2 0" ∧ ctx.domHigh = "6 10" ∧
        offsetRows ctx = ["1 0", "0 1"] :=
    ⟨_, _, _, rfl, rfl, rfl, rfl, by decide +kernel, by decide +kernel⟩
  obtain ⟨axes, haxes, -, hdimensioned⟩ := grid_dimensioned box c _ store ctx hc hread hctx
  have hnames := congrArg (List.map fun p : Axis × CellExtent => p.1.name) haxes
  rw [List.map_map, List.map_map] at hnames
  exact ⟨store, c, ctx, axes, hstore, hc, hread, hctx, hnames.trans hkept, hdimensioned, hparts⟩

-- The envelope of points.
structure Envelope where
  srsName : String
  labels : List String
  uoms : List String
  dimension : Nat
  low : List Int
  high : List Int

namespace Envelope

-- As a document shows it.
def text (e : Envelope) : String :=
  String.join
    ["    <gml:Envelope srsName=\"", e.srsName, "\" axisLabels=\"", " ".intercalate e.labels,
     "\" uomLabels=\"", " ".intercalate e.uoms, "\" srsDimension=\"", Number.natText e.dimension,
     "\">\n",
     "      <gml:lowerCorner>", " ".intercalate (e.low.map Number.intText), "</gml:lowerCorner>\n",
     "      <gml:upperCorner>", " ".intercalate (e.high.map Number.intText), "</gml:upperCorner>\n",
     "    </gml:Envelope>\n"]

-- As many coordinates, labels and units as dimensions.
structure Consistent (e : Envelope) : Prop where
  low : e.low.length = e.dimension
  high : e.high.length = e.dimension
  labels : e.labels.length = e.dimension
  uoms : e.uoms.length = e.dimension

def ofContext (c : Context) : Envelope where
  srsName := c.srsName
  labels := c.retained.map (·.domain.name)
  uoms := c.retained.map fun a => a.domain.uom.getD Context.defaultUom
  dimension := c.gridDimension
  low := c.axes.map (·.cells.lo)
  high := c.axes.map (·.cells.hi)

end Envelope

-- The parts of the document of points around the envelope.
def pointsBefore : List Piece :=
  Builtin.multiPointCoverage.take 12

def pointsAfter : List Piece :=
  Builtin.multiPointCoverage.drop 28

theorem fill_append (values : List (String × String)) (ps qs : List Piece) :
    fill values (ps ++ qs) = fill values ps ++ fill values qs := by
  rw [fill, List.map_append, String.join_append]
  rfl

-- The values of the envelope's holes.
def envelopeValues (c : Context) : List (String × String) :=
  [("srsName", c.srsName), ("axisLabels", c.axisLabels), ("uomLabels", c.uomLabels),
   ("gridDimension", Number.natText c.gridDimension), ("low", joinBounds c (·.lo)),
   ("high", joinBounds c (·.hi))]

theorem lookup_pointValues (settings : ResponseSettings) (c : Context) (members : String) :
    ∀ entry ∈ envelopeValues c,
      (pointValues settings c members).lookup entry.1 = some entry.2 := by
  simp only [envelopeValues, List.forall_mem_cons, List.not_mem_nil, false_implies, implies_true,
    and_true, pointValues, documentValues, List.cons_append, List.nil_append, List.lookup_cons]
  exact ⟨rfl, rfl, rfl, rfl, rfl, rfl⟩

def envelopePieces : List Piece :=
  (Builtin.multiPointCoverage.drop 12).take 16

theorem joinBounds_eq (c : Context) (bound : CellExtent → Int) :
    joinBounds c bound =
      " ".intercalate ((c.axes.map fun a => bound a.cells).map Number.intText) := by
  rw [joinBounds, Context.cells, List.map_map, List.map_map]
  rfl

theorem fill_envelopePieces {values : List (String × String)} {c : Context}
    (h : ∀ entry ∈ envelopeValues c, values.lookup entry.1 = some entry.2) :
    fill values envelopePieces = (Envelope.ofContext c).text := by
  simp only [envelopeValues, List.forall_mem_cons, List.not_mem_nil, false_implies, implies_true,
    and_true, joinBounds_eq] at h
  obtain ⟨hsrsName, hlabels, huoms, hdimension, hlow, hhigh⟩ := h
  have hpieces : envelopePieces.map (Piece.filled values) =
      ["    <gml:Envelope srsName=\"", (values.lookup "srsName").getD (holeText "srsName"),
       "\" axisLabels=\"", (values.lookup "axisLabels").getD (holeText "axisLabels"),
       "\" uomLabels=\"", (values.lookup "uomLabels").getD (holeText "uomLabels"),
       "\" srsDimension=\"", (values.lookup "gridDimension").getD (holeText "gridDimension"),
       "\">\n",
       "      <gml:lowerCorner>", (values.lookup "low").getD (holeText "low"),
       "</gml:lowerCorner>\n",
       "      <gml:upperCorner>", (values.lookup "high").getD (holeText "high"),
       "</gml:upperCorner>\n", "    </gml:Envelope>\n"] := rfl
  rw [fill, hpieces, hsrsName, hlabels, huoms, hdimension, hlow, hhigh]
  rfl

theorem fill_multiPointCoverage (settings : ResponseSettings) (c : Context) (members : String) :
    fill (pointValues settings c members) Builtin.multiPointCoverage =
      fill (pointValues settings c members) pointsBefore ++ (Envelope.ofContext c).text ++
        fill (pointValues settings c members) pointsAfter := by
  have hpieces : Builtin.multiPointCoverage = pointsBefore ++ envelopePieces ++ pointsAfter := rfl
  rw [hpieces, fill_append, fill_append,
    fill_envelopePieces (lookup_pointValues settings c members)]

-- Labels and units stand for the axes that the request keeps, coordinates for all axes.
structure Envelope.Covers (e : Envelope) (r : GetCoverage) (c : Coverage) : Prop where
  dimension : e.dimension = (r.kept c).length
  labels : e.labels = (r.kept c).map (·.domain.name)
  uoms : e.uoms = (r.kept c).map fun a => a.domain.uom.getD Context.defaultUom
  low : e.low.length = c.dimension
  high : e.high.length = c.dimension
  consistent_iff : e.Consistent ↔ ∀ a ∈ c.axes, r.keeps a.domain.name = true

theorem Envelope.covers_ofContext {d : CoverageDef} {r : GetCoverage} {store : Store}
    {ctx : Context} (hvalid : Coverage.ofDef d = .ok ctx.coverage)
    (h : Context.make r store = .ok ctx) : (ofContext ctx).Covers r ctx.coverage := by
  have hdomains := retained_domains hvalid h
  have hmap : ∀ f : Axis → String, ctx.retained.map (fun a => f a.domain) =
      (r.kept ctx.coverage).map fun a => f a.domain := by
    intro f
    have hf := congrArg (List.map f) hdomains
    rw [List.map_map, List.map_map] at hf
    exact hf
  have hkept : ctx.retained.length = (r.kept ctx.coverage).length := by
    simpa using congrArg List.length hdomains
  have hall : ctx.axes.length = ctx.coverage.dimension := by
    simpa [Coverage.dimension] using congrArg List.length (Context.make_keeps h).2.2.1
  refine ⟨hkept, hmap (·.name), hmap fun a => a.uom.getD Context.defaultUom, by simpa [ofContext],
    by simpa [ofContext], ?_⟩
  -- Labels and units always fit, so that only the coordinates decide.
  have hconsistent : (ofContext ctx).Consistent ↔
      (r.kept ctx.coverage).length = ctx.coverage.axes.length := by
    constructor
    · intro hc
      have hlow := hc.low
      simp only [ofContext, List.length_map, Context.gridDimension] at hlow
      rw [← hkept, ← hlow, hall, Coverage.dimension]
    · intro hlength
      have hcoordinates : ctx.axes.length = ctx.retained.length := by
        rw [hall, hkept, hlength, Coverage.dimension]
      refine ⟨?_, ?_, ?_, ?_⟩
      all_goals simp [ofContext, Context.gridDimension, hcoordinates]
  rw [hconsistent, GetCoverage.kept, List.length_filter_eq_length_iff]

-- A document of points with this envelope.
def Envelope.StandsIn (e : Envelope) (xml : String) : Prop :=
  ∃ values, xml = fill values pointsBefore ++ e.text ++ fill values pointsAfter

theorem Envelope.standsIn_fill (settings : ResponseSettings) (c : Context) (members : String) :
    (ofContext c).StandsIn (fill (pointValues settings c members) Builtin.multiPointCoverage) :=
  ⟨_, fill_multiPointCoverage settings c members⟩

-- The envelope in the document of points. Its corners have too many coordinates as soon as an axis
-- carries a slice.
theorem multiPoint_envelope (d : CoverageDef) (c : Coverage) (r : GetCoverage) (store : Store)
    (x : Executor) (settings : ResponseSettings) (reply : Reply)
    (hvalid : Coverage.ofDef d = .ok c) (hkind : c.kind = .multiPoint) (hkeyed : store.Keyed)
    (hread : store.read r.id = .ok c) (htexts : ∀ t ∈ c.texts, BraceFree t)
    (hurn : BraceFree settings.datatypeUrn) (h : handle store x {} settings r = .ok reply) :
    ∃ e : Envelope, e.StandsIn reply.xml ∧ e.Covers r c := by
  obtain ⟨ctx, hmake, rfl, gml, hanswers, rfl⟩ :=
    (handle_eq_ok_iff hkeyed hread htexts hurn).mp h
  cases hanswers with
  | grid helement => exact absurd hkind (isGrid_of_gridElement helement).1
  | points =>
      exact ⟨.ofContext ctx, Envelope.standsIn_fill settings ctx _,
        Envelope.covers_ofContext hvalid hmake⟩

-- The answer with points, whatever the array engine.
theorem handle_points {store : Store} {r : GetCoverage} {c : Coverage} {ctx : Context}
    {members : String} (x : Executor) (settings : ResponseSettings) (hkeyed : store.Keyed)
    (hread : store.read r.id = .ok c) (htexts : ∀ t ∈ c.texts, BraceFree t)
    (hurn : BraceFree settings.datatypeUrn) (hmake : Context.make r store = .ok ctx)
    (hkind : ctx.kind = .multiPoint)
    (hmembers : store.coverageData ctx.coverageId ctx.requestedId ctx.cells = .ok members) :
    handle store x {} settings r =
      .ok { mime := gmlType,
            xml := fill (pointValues settings ctx members) Builtin.multiPointCoverage } := by
  obtain ⟨hfound, -, -⟩ := Context.make_keeps hmake
  have hc : ctx.coverage = c := Except.ok.inj (hfound.symm.trans hread)
  exact (handle_eq_ok_iff hkeyed hread htexts hurn).mpr
    ⟨ctx, hmake, hc, _, .points hkind hmembers, rfl⟩

-- Points within an interval: the envelope is consistent.
theorem multiPoint_envelope_trimmed :
    ∃ store reply e, Store.ofDefs [Sample.pointCloud] = .ok store ∧
      handle store {} {} {} { id := "pointcloud", subsets := [.trim "x" "10" "20"] } = .ok reply ∧
      Envelope.StandsIn e reply.xml ∧ e.Consistent ∧ e.labels = ["x", "y"] := by
  obtain ⟨store, c, ctx, members, hstore, hc, hkind, hread, htexts, hmake, hmembers, hkeeps,
      hkept⟩ : ∃ store c ctx members, Store.ofDefs [Sample.pointCloud] = .ok store ∧
        Coverage.ofDef Sample.pointCloud = .ok c ∧ c.kind = .multiPoint ∧
        store.read "pointcloud" = .ok c ∧ (∀ t ∈ c.texts, BraceFree t) ∧
        Context.make { id := "pointcloud", subsets := [.trim "x" "10" "20"] } store = .ok ctx ∧
        store.coverageData ctx.coverageId ctx.requestedId ctx.cells = .ok members ∧
        (∀ a ∈ c.axes, GetCoverage.keeps
          { id := "pointcloud", subsets := [.trim "x" "10" "20"] } a.domain.name = true) ∧
        (GetCoverage.kept { id := "pointcloud", subsets := [.trim "x" "10" "20"] } c).map
          (·.domain.name) = ["x", "y"] :=
    ⟨_, _, _, _, rfl, rfl, rfl, rfl, by decide +kernel, rfl, rfl, by decide +kernel,
      by decide +kernel⟩
  have hkeyed := Store.keyed_of_ofDefs hstore
  have hctx : ctx.kind = .multiPoint := by
    obtain ⟨hfound, -, -⟩ := Context.make_keeps hmake
    rw [Context.kind, Except.ok.inj (hfound.symm.trans hread), hkind]
  have hreply := handle_points {} {} hkeyed hread htexts braceFree_defaultUrn hmake hctx hmembers
  obtain ⟨e, hstands, hcovers⟩ := multiPoint_envelope _ c _ store {} {} _ hc hkind hkeyed hread
    htexts braceFree_defaultUrn hreply
  exact ⟨store, _, e, hstore, hreply, hstands, hcovers.consistent_iff.mpr hkeeps,
    hcovers.labels.trans hkept⟩

-- Points at one place of an axis: one label and dimension, but two coordinates in each corner.
theorem multiPoint_envelope_sliced :
    ∃ store reply e, Store.ofDefs [Sample.pointCloud] = .ok store ∧
      handle store {} {} {} { id := "pointcloud", subsets := [.slice "x" "12"] } = .ok reply ∧
      Envelope.StandsIn e reply.xml ∧ e.dimension = 1 ∧ e.labels = ["y"] ∧ e.low = [12, 0] ∧
      e.high = [12, 100] ∧ ¬e.Consistent := by
  obtain ⟨store, c, ctx, members, hstore, hread, htexts, hmake, hkind, hmembers, hdimension,
      hlabels, hlow, hhigh⟩ : ∃ store c ctx members,
        Store.ofDefs [Sample.pointCloud] = .ok store ∧ store.read "pointcloud" = .ok c ∧
        (∀ t ∈ c.texts, BraceFree t) ∧
        Context.make { id := "pointcloud", subsets := [.slice "x" "12"] } store = .ok ctx ∧
        ctx.kind = .multiPoint ∧
        store.coverageData ctx.coverageId ctx.requestedId ctx.cells = .ok members ∧
        (Envelope.ofContext ctx).dimension = 1 ∧ (Envelope.ofContext ctx).labels = ["y"] ∧
        (Envelope.ofContext ctx).low = [12, 0] ∧ (Envelope.ofContext ctx).high = [12, 100] :=
    ⟨_, _, _, _, rfl, rfl, by decide +kernel, rfl, rfl, rfl, by decide +kernel, by decide +kernel,
      by decide +kernel, by decide +kernel⟩
  have hreply := handle_points {} {} (Store.keyed_of_ofDefs hstore) hread htexts
    braceFree_defaultUrn hmake hkind hmembers
  refine ⟨store, _, .ofContext ctx, hstore, hreply, Envelope.standsIn_fill _ _ _, hdimension,
    hlabels, hlow, hhigh, fun hconsistent => ?_⟩
  have hlength := hconsistent.low
  rw [hlow, hdimension] at hlength
  exact absurd hlength (by decide)

end Datacube.Response
