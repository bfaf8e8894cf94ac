import Datacube.Proofs.Expr.Branching
import Datacube.Sample.Coverages

-- The domain that the text of a query denotes, read off the text alone.
namespace Datacube.Expr

open Markup (Element)
open Result

-- Cells as a query writes them.
def cellsText (interval : Rasql.Interval) : String :=
  Number.intText interval.lo ++ ":" ++ Number.intText interval.hi

def bracketed (domain : List Rasql.Interval) : String :=
  "[" ++ ",".intercalate (domain.map cellsText) ++ "]"

-- What a subscript with an index for each axis leaves of a domain.
inductive Subscripts : List Rasql.Interval → List String → List Rasql.Interval → Prop where
  | nil : Subscripts [] [] []
  | keep {axis : Rasql.Interval} {domain left : List Rasql.Interval} {indices : List String}
      (h : Subscripts domain indices left) :
      Subscripts (axis :: domain) ("*:*" :: indices) (axis :: left)
  | replace {axis : Rasql.Interval} {domain left : List Rasql.Interval} {indices : List String}
      (interval : Rasql.Interval) (h : Subscripts domain indices left) :
      Subscripts (axis :: domain) (cellsText interval :: indices) (interval :: left)
  | remove {axis : Rasql.Interval} {domain left : List Rasql.Interval} {indices : List String}
      (position : Int) (h : Subscripts domain indices left) :
      Subscripts (axis :: domain) (Number.intText position :: indices) left

-- What a text denotes over the domains of the iterators, among the variables of the constructors
-- around it: a single value, or an array over the domain that its parts show. Every other operation
-- keeps the domain of its operands, which all have the same one.
inductive Denotes (domains : String → Option (List Rasql.Interval)) :
    List String → String → Rasql.Shape → Prop where
  | iterator {vars : List String} {name : String} {domain : List Rasql.Interval}
      (h : domains name = some domain) : Denotes domains vars name (.array domain)
  | const {vars : List String} (domain : List Rasql.Interval) (values : List String) :
      Denotes domains vars ("<" ++ bracketed domain ++ " " ++ ", ".intercalate values ++ ">")
        (.array domain)
  | construct {vars : List String} {body : String} {shape : Rasql.Shape}
      (iterators : List (String × Rasql.Interval))
      (h : Denotes domains (vars ++ iterators.map (·.1)) body shape) :
      Denotes domains vars
        ("marray " ++ ", ".intercalate (iterators.map fun i =>
          i.1 ++ " in [" ++ cellsText i.2 ++ "]") ++ " values " ++ body)
        (.array (iterators.map (·.2)))
  | scale {vars : List String} {text : String} {domain : List Rasql.Interval}
      (target : List Rasql.Interval) (h : Denotes domains vars text (.array domain)) :
      Denotes domains vars ("scale(" ++ text ++ ", " ++ bracketed target ++ ")")
        (.array target)
  | extend {vars : List String} {text : String} {domain : List Rasql.Interval}
      (target : List Rasql.Interval) (h : Denotes domains vars text (.array domain)) :
      Denotes domains vars ("extend(" ++ text ++ ", " ++ bracketed target ++ ")")
        (.array target)
  | subscript {vars : List String} {text : String} {domain left : List Rasql.Interval}
      {indices : List String} (h : Denotes domains vars text (.array domain))
      (hindices : Subscripts domain indices left) :
      Denotes domains vars ("(" ++ text ++ ")[" ++ ",".intercalate indices ++ "]")
        (.array left)
  | unary {vars : List String} {text : String} {shape : Rasql.Shape} (op : UnaryOp)
      (h : Denotes domains vars text shape) :
      Denotes domains vars (op.symbol ++ "(" ++ text ++ ")") shape
  | bit {vars : List String} {text : String} {shape : Rasql.Shape} (index : Int)
      (h : Denotes domains vars text shape) :
      Denotes domains vars ("bit(" ++ text ++ ", " ++ Number.intText index ++ ")") shape
  | cast {vars : List String} {text : String} {shape : Rasql.Shape} (target : String)
      (h : Denotes domains vars text shape) :
      Denotes domains vars ("(" ++ target ++ ")(" ++ text ++ ")") shape
  | fieldSelect {vars : List String} {text : String} {shape : Rasql.Shape} (field : String)
      (h : Denotes domains vars text shape) :
      Denotes domains vars ("(" ++ text ++ ")." ++ field) shape
  | binary {vars : List String} {left right : String} {a b shape : Rasql.Shape}
      (op : BinaryOp) (ha : Denotes domains vars left a)
      (hb : Denotes domains vars right b) (hjoin : a.join b = some shape) :
      Denotes domains vars ("(" ++ left ++ " " ++ op.symbol ++ " " ++ right ++ ")") shape
  | rangeConstructor {vars : List String} {domain : List Rasql.Interval}
      (components : List String) (hsome : components ≠ [])
      (h : ∀ text ∈ components, Denotes domains vars text (.array domain)) :
      Denotes domains vars ("\x7b " ++ ", ".intercalate components ++ " \x7d")
        (.array domain)
  | switch {vars : List String} {domain : List Rasql.Interval} {otherwise : String}
      (cases : List (String × String))
      (hconditions : ∀ c ∈ cases, Denotes domains vars c.1 (.array domain))
      (hresults : ∀ c ∈ cases, Denotes domains vars c.2 (.array domain))
      (hotherwise : Denotes domains vars otherwise (.array domain)) :
      Denotes domains vars
        ("case " ++ (String.join (cases.map fun c => "when " ++ c.1 ++ " then " ++ c.2 ++ " ") ++
          "else " ++ otherwise) ++ " end") (.array domain)
  | number {vars : List String} {text : String} {value : Float}
      (h : Number.parseFloat text = some value) : Denotes domains vars text .value
  | boolean {vars : List String} (value : Bool) :
      Denotes domains vars (if value then "true" else "false") .value
  | string {vars : List String} (text : String) :
      Denotes domains vars ("\"" ++ text ++ "\"") .value
  | axisVariable {vars : List String} {name : String} (h : name ∈ vars) :
      Denotes domains vars name .value
  | condense {vars : List String} {text : String} {domain : List Rasql.Interval}
      (op : CondenseOp) (h : Denotes domains vars text (.array domain)) :
      Denotes domains vars (op.function ++ "(" ++ text ++ ")") .value

section Parts

theorem subscripts_of_subscriptDomain {domain left : List Rasql.Interval}
    {indices : List Rasql.Index} (h : Rasql.subscriptDomain domain indices = some left) :
    Subscripts domain (indices.map Rasql.Index.text) left := by
  induction domain generalizing indices left with
  | nil =>
      cases indices with
      | nil =>
          obtain rfl := Option.some.inj h
          exact .nil
      | cons index indices => cases h
  | cons axis domain ih =>
      cases indices with
      | nil => cases h
      | cons index indices =>
          cases index with
          | all =>
              obtain ⟨rest, hrest, rfl⟩ := Option.map_eq_some_iff.mp h
              exact .keep (ih hrest)
          | range interval =>
              obtain ⟨rest, hrest, rfl⟩ := Option.map_eq_some_iff.mp h
              exact .replace interval (ih hrest)
          | point position => exact .remove position (ih h)

theorem Components.toList_ne_nil (components : Components) : components.toList ≠ [] := by
  cases components <;> exact List.cons_ne_nil _ _

theorem Components.text_term : ∀ components : Components,
    components.term.text = ", ".intercalate (components.toList.map (·.2.text))
  | .one _ x => by simp [term, Rasql.Components.text, toList, CoverageExpr.text]
  | .more _ x rest => by
      obtain ⟨next, others, hrest⟩ := List.exists_cons_of_ne_nil rest.toList_ne_nil
      rw [term, Rasql.Components.text, text_term rest]
      simp only [toList, hrest, List.map_cons, String.intercalate_cons_cons]
      rfl

-- Operators of values are also operators of arrays.
theorem ScalarUnaryOp.exists_symbol (op : ScalarUnaryOp) :
    ∃ same : UnaryOp, same.symbol = op.symbol := by
  cases op with
  | minus => exact ⟨.minus, rfl⟩
  | sqrt => exact ⟨.sqrt, rfl⟩
  | abs => exact ⟨.abs, rfl⟩
  | not => exact ⟨.not, rfl⟩

theorem ScalarBinaryOp.exists_symbol (op : ScalarBinaryOp) :
    ∃ same : BinaryOp, same.symbol = op.symbol := by
  cases op with
  | add => exact ⟨.plus, rfl⟩
  | sub => exact ⟨.minus, rfl⟩
  | mul => exact ⟨.mult, rfl⟩
  | div => exact ⟨.div, rfl⟩
  | and => exact ⟨.and, rfl⟩
  | or => exact ⟨.or, rfl⟩
  | xor => exact ⟨.xor, rfl⟩
  | eq => exact ⟨.equals, rfl⟩
  | ne => exact ⟨.notEqual, rfl⟩
  | lt => exact ⟨.lessThan, rfl⟩
  | le => exact ⟨.lessOrEqual, rfl⟩
  | gt => exact ⟨.greaterThan, rfl⟩
  | ge => exact ⟨.greaterOrEqual, rfl⟩

end Parts

-- The text of an expression denotes the cells of its schema.
def Denoting (s : Scope) (_ : Element) (x : CoverageExpr) : Prop :=
  Denotes s.iteratorDomain s.axisVariables x.text (.array (schemaDomain x.schema))

def ScalarDenoting (s : Scope) (_ : Element) (x : ScalarExpr) : Prop :=
  Denotes s.iteratorDomain s.axisVariables x.text .value

section Forms

variable {domains : String → Option (List Rasql.Interval)} {vars : List String}
  {domain : List Rasql.Interval} {s : Scope} {e : Element}

theorem denotes_subset (op : SubsetOp) (specs : List SubsetSpec) {x : CoverageExpr}
    (hx : Denotes domains vars x.text (.array (schemaDomain x.schema))) :
    Denotes domains vars (CoverageExpr.subset op x specs (subsetSchema op x.schema specs)).text
      (.array (schemaDomain (subsetSchema op x.schema specs))) := by
  cases op with
  | trim =>
      exact .subscript hx (subscripts_of_subscriptDomain (subscriptDomain_trim specs x.schema))
  | slice =>
      exact .subscript hx (subscripts_of_subscriptDomain (subscriptDomain_slice specs x.schema))
  | extend =>
      rw [schemaDomain_extend]
      exact .extend _ hx

theorem denotes_pair {left right : Element} {pair : Pair} (op : BinaryOp)
    (h : PairForm Denoting ScalarDenoting s left right pair) :
    Denotes s.iteratorDomain s.axisVariables
      ("(" ++ pair.first.text ++ " " ++ op.symbol ++ " " ++ pair.second.text ++ ")")
      (.array (schemaDomain pair.schema)) := by
  cases h with
  | coverageScalar hx hy => exact .binary op hx hy (Rasql.Shape.join_value _)
  | scalarCoverage hx hy => exact .binary op hx hy (Rasql.Shape.value_join _)
  | coverages hx hy hsame =>
      unfold Denoting at hx hy
      rw [← schemaDomain_eq_of_extents hsame] at hy
      exact .binary op hx hy (Rasql.Shape.join_self _)

theorem denotes_switch {branches : Branches}
    (h : ∀ x ∈ branches.exprs, Denotes domains vars x.text (.array domain)) :
    Denotes domains vars (CoverageExpr.switch branches).text (.array domain) := by
  have htext : (CoverageExpr.switch branches).text =
      "case " ++ (String.join ((branches.cases.map fun branch =>
        (branch.1.text, branch.2.text)).map fun c => "when " ++ c.1 ++ " then " ++ c.2 ++ " ") ++
        "else " ++ branches.otherwise.text) ++ " end" := by
    rw [CoverageExpr.text, CoverageExpr.term, Rasql.Term.text, branches.text_term, List.map_map]
    rfl
  rw [branches.exprs_eq, branchExprs] at h
  have hcase : ∀ branch ∈ branches.cases, Denotes domains vars branch.1.text (.array domain) ∧
      Denotes domains vars branch.2.text (.array domain) := by
    intro branch hbranch
    have hmem : ∀ x ∈ [branch.1, branch.2], Denotes domains vars x.text (.array domain) :=
      fun x hx => h x (List.mem_append_left _ (List.mem_flatMap.mpr ⟨branch, hbranch, hx⟩))
    exact ⟨hmem _ (by simp), hmem _ (by simp)⟩
  rw [htext]
  refine .switch _ (fun c hc => ?_) (fun c hc => ?_) (h _ (by simp))
  · obtain ⟨branch, hbranch, rfl⟩ := List.mem_map.mp hc
    exact (hcase branch hbranch).1
  · obtain ⟨branch, hbranch, rfl⟩ := List.mem_map.mp hc
    exact (hcase branch hbranch).2

theorem denotes_rangeConstructor {components : Components} {schema : Schema}
    (h : ∀ c ∈ components.toList, Denotes domains vars c.2.text (.array domain)) :
    Denotes domains vars (CoverageExpr.rangeConstructor components schema).text
      (.array domain) := by
  have htext : (CoverageExpr.rangeConstructor components schema).text =
      "\x7b " ++ ", ".intercalate (components.toList.map (·.2.text)) ++ " \x7d" := by
    rw [CoverageExpr.text, CoverageExpr.term, Rasql.Term.text, components.text_term]
  rw [htext]
  refine .rangeConstructor _ (by simpa using components.toList_ne_nil) fun text htext => ?_
  obtain ⟨c, hc, rfl⟩ := List.mem_map.mp htext
  exact h c hc

theorem denotes_of_form {x : CoverageExpr} (h : CoverageForm Denoting ScalarDenoting s e x) :
    Denoting s e x := by
  cases h with
  | reference _ hnames hschema hsame =>
      exact .iterator (iteratorDomain_of_reference hnames hschema hsame)
  | constant _ _ hschema _ =>
      unfold Denoting
      rw [CoverageExpr.schema, schemaDomain_constructed hschema]
      exact .const _ _
  | @construct iterators _ body schema _ _ _ hbody hschema =>
      have hshape : ∃ shape, Denotes s.iteratorDomain
          (s.axisVariables ++ (iterators.map fun i => (i.var, i.interval)).map (·.1))
          body.text shape := by
        rw [List.map_map]
        cases hbody with
        | scalar hx => exact ⟨_, hx⟩
        | coverage hx => exact ⟨_, hx⟩
      obtain ⟨shape, hshape⟩ := hshape
      have hdomain : schemaDomain schema =
          (iterators.map fun i => (i.var, i.interval)).map (·.2) := by
        rw [schemaDomain_constructed hschema, List.map_map]
        rfl
      unfold Denoting
      rw [CoverageExpr.schema, hdomain]
      exact .construct _ hshape
  | scale _ hx _ _ =>
      obtain ⟨_, -, hx⟩ := hx
      exact .scale _ hx
  | switch _ hbranches hsame =>
      refine denotes_switch fun y hy => ?_
      obtain ⟨_, hdenotes⟩ := hbranches.exprs y hy
      rw [CoverageExpr.schema, schemaDomain_eq_of_extents (hsame y hy)]
      exact hdenotes
  | setMetadata _ hx hschema =>
      obtain ⟨_, -, hx⟩ := hx
      unfold Denoting
      rw [CoverageExpr.schema, schemaDomain_metadataApply hschema]
      exact hx
  | unary _ hx =>
      obtain ⟨_, -, hx⟩ := hx
      exact .unary _ hx
  | bit _ hx _ _ =>
      obtain ⟨_, -, hx⟩ := hx
      exact .bit _ hx
  | cast _ hx _ =>
      obtain ⟨_, -, hx⟩ := hx
      exact .cast _ hx
  | fieldSelect _ hx _ _ =>
      obtain ⟨_, -, hx⟩ := hx
      exact .fieldSelect _ hx
  | rangeConstructor _ hcomponents hsame =>
      refine denotes_rangeConstructor fun c hc => ?_
      obtain ⟨_, _, -, _, -, hdenotes⟩ := exists_mem_of_forall₂ hcomponents c hc
      unfold Denoting at hdenotes
      rwa [← schemaDomain_eq_of_extents (hsame c hc)] at hdenotes
  | @binary op _ _ _ _ _ hpair =>
      unfold Denoting
      rw [CoverageExpr.schema, schemaDomain_binary]
      exact denotes_pair op hpair
  | subset _ hx _ _ _ =>
      obtain ⟨_, -, hx⟩ := hx
      exact denotes_subset _ _ hx

theorem scalarDenotes_of_form {x : ScalarExpr} (h : ScalarForm Denoting ScalarDenoting s e x) :
    ScalarDenoting s e x := by
  cases h with
  | numeric _ hvalue => exact .number hvalue
  | @boolean value => exact .boolean value
  | string => exact .string _
  | axisVariable _ hscope => exact .axisVariable hscope
  | @unary op _ _ _ _ hx =>
      obtain ⟨same, hsame⟩ := op.exists_symbol
      have hunary := Denotes.unary same hx
      rw [hsame] at hunary
      exact hunary
  | @binary op _ _ _ _ _ _ hx hy =>
      obtain ⟨same, hsame⟩ := op.exists_symbol
      have hbinary := Denotes.binary same hx hy rfl
      rw [hsame] at hbinary
      exact hbinary
  | condense _ hx =>
      obtain ⟨_, -, hx⟩ := hx
      exact .condense _ hx

end Forms

-- The text of whatever is read denotes the cells of its schema, and so does the term it is the
-- text of.
theorem shape_term_eq_schemaDomain (limit : Nat) (s : Scope) (e : Element) (x : CoverageExpr)
    (h : (Grammar.upTo limit).parseCoverage s e = .ok x) :
    Denotes s.iteratorDomain s.axisVariables x.text (.array (schemaDomain x.schema)) ∧
      x.term.shape s.iteratorDomain = some (.array (schemaDomain x.schema)) := by
  have hreads := parseCoverage_eq_ok_iff.mp h
  have htexts := Grammar.level_induction (P := Denoting) (Q := ScalarDenoting)
    (fun _ _ _ => denotes_of_form) (fun _ _ _ => scalarDenotes_of_form) limit limit
  have hterms := Grammar.level_induction (P := Shaped) (Q := ScalarShaped)
    (fun _ _ _ => shaped_of_form) (fun _ _ _ => scalarShaped_of_form) limit limit
  exact ⟨htexts.1 s e x hreads, hterms.1 s e x hreads⟩

-- A slice along one axis of a trim along the other.
def slicedTrim : Element where
  name := "slice"
  children := [
    { name := "trim"
      children := [{ name := "coverage", text := "c" }, { name := "axis", text := "x" },
        { name := "lowerBound", text := "3" }, { name := "upperBound", text := "7" }] },
    { name := "axis", text := "y" }, { name := "slicingPosition", text := "4" }]

theorem shape_term_slicedTrim :
    ∃ store x,
      Store.ofDefs [Sample.airTemperature "T", Sample.airTemperature "S"] = .ok store ∧
      (Grammar.upTo 3).parseCoverage ⟨store, [("c", ["T", "S"])], []⟩ slicedTrim = .ok x ∧
      schemaDomain x.schema = [⟨3, 7⟩] ∧ x.text = "((c)[3:7,*:*])[*:*,4]" ∧
      Denotes (Scope.iteratorDomain ⟨store, [("c", ["T", "S"])], []⟩) [] x.text
        (.array (schemaDomain x.schema)) ∧
      x.term.shape (Scope.iteratorDomain ⟨store, [("c", ["T", "S"])], []⟩) =
        some (.array (schemaDomain x.schema)) :=
  ⟨_, _, rfl, rfl, rfl, rfl, shape_term_eq_schemaDomain 3 _ slicedTrim _ rfl⟩

end Datacube.Expr
