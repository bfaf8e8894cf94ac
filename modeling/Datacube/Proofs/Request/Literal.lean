import Datacube.Proofs.Expr.Literal
import Datacube.Proofs.Request.Closed

-- Requests that differ in the text of one literal give queries that differ in one literal.
namespace Datacube

open Markup (Element)
open Datacube.Expr (Grammar Operand Retexted Scope literalTags ne_of_literalTags)
open Rasql (Exchanges outsideLiterals quotedText)
open Result

theorem OneOff.forall₂ {α β : Type} {R : α → α → Prop} {P : α → β → Prop} {l l' : List α}
    {bs : List β} (h : OneOff R l l') (hP : ∀ a a', R a a' → ∀ b, P a b → P a' b)
    (hl : List.Forall₂ P l bs) : List.Forall₂ P l' bs := by
  induction h generalizing bs with
  | head hab =>
      obtain ⟨b, rest, hb, hrest, rfl⟩ := List.forall₂_cons_left_iff.mp hl
      exact .cons (hP _ _ hab b hb) hrest
  | tail _ ih =>
      obtain ⟨b, rest, hb, hrest, rfl⟩ := List.forall₂_cons_left_iff.mp hl
      exact .cons hb (ih hrest)

namespace Request

-- What stands between the quotes for a text: a format that is not given is the default one.
def literalText (settings : CompilerSettings) (tag text : String) : String :=
  match tag with
  | "stringConstant" => text
  | "format" => ((some (Text.trim text)).filter (· ≠ "")).getD settings.defaultFormat
  | _ => Text.trim text

-- A text for which a literal is written: the csv format is a function, and blank parameters are
-- left out.
def HasLiteral (settings : CompilerSettings) (tag text : String) : Prop :=
  (tag = "format" → Text.sameFolded (literalText settings tag text) "csv" = false) ∧
    (tag = "extraParameters" → Text.trim text ≠ "")

variable {settings : CompilerSettings} {tag text text' : String} {e e' : Element}

section Iterators

theorem child?_isNone_eq (h : Retexted tag text text' e e') (name : String) :
    (e.child? name).isNone = (e'.child? name).isNone := by
  unfold Element.child?
  rcases h.find? (p := (·.name = name)) (by simp_all) with h | ⟨c, c', -, -, hfound, hfound'⟩
  · rw [h]
  · rw [hfound, hfound', Option.isNone_some, Option.isNone_some]

theorem isWrapper_iff (h : Retexted tag text text' e e') : IsWrapper e ↔ IsWrapper e' := by
  rw [IsWrapper, IsWrapper, h.name_eq, child?_isNone_eq h]

-- The element that holds the iterators is found in the same place.
theorem unwrap_retexted {root body : Element} (h : unwrap root = .ok body) :
    ∀ root', Retexted tag text text' root root' →
      ∃ body', unwrap root' = .ok body' ∧ (body' = body ∨ Retexted tag text text' body body') := by
  induction root using unwrap.induct with
  | case1 name attributes own _ hwrapper =>
      rw [unwrap, if_pos hwrapper] at h
      simp [Element.onlyChild, Element.firstChild?] at h
  | case2 name attributes own child rest _ hwrapper ih =>
      intro root' hroot
      have hwrapper' := (isWrapper_iff hroot).mp hwrapper
      rw [unwrap_of_isWrapper hwrapper] at h
      cases hroot with
      | here =>
          rw [unwrap_of_isWrapper hwrapper']
          exact ⟨body, h, .inl rfl⟩
      | inside hone _ =>
          rcases hone with hchild | hrest
          · rw [unwrap_of_isWrapper hwrapper']
            exact ih h _ hchild
          · rw [unwrap_of_isWrapper hwrapper']
            exact ⟨body, h, .inl rfl⟩
  | case3 name attributes own children _ hwrapper =>
      intro root' hroot
      rw [unwrap_of_not_isWrapper hwrapper] at h
      obtain rfl := Except.ok.inj h
      have hwrapper' := mt (isWrapper_iff hroot).mpr hwrapper
      exact ⟨root', unwrap_of_not_isWrapper hwrapper', .inr hroot⟩

theorem declares_retexted (htag : tag ∈ literalTags) (he : Retexted tag text text' e e')
    (i : CoverageIterator) (h : Declares e i) : Declares e' i := by
  obtain ⟨hvar, hnames, hsome⟩ := h
  rw [he.childText?_eq (ne_of_literalTags htag "iteratorVar" (by decide))] at hvar
  rw [he.texts_eq (ne_of_literalTags htag "coverageName" (by decide))] at hnames
  exact ⟨hvar, hnames, hsome⟩

theorem parseIterators_retexted (htag : tag ∈ literalTags) (he : Retexted tag text text' e e')
    {iterators : List CoverageIterator} (h : parseIterators e = .ok iterators) :
    parseIterators e' = .ok iterators := by
  obtain ⟨hsome, hdeclares, hnodup⟩ := parseIterators_eq_ok_iff.mp h
  refine parseIterators_eq_ok_iff.mpr ⟨hsome, ?_, hnodup⟩
  rcases he.childrenNamed "coverageIterator" with hsame | hone
  · exact hsame ▸ hdeclares
  · exact hone.forall₂ (fun _ _ hc i hi => declares_retexted htag hc i hi) hdeclares

end Iterators

section Clauses

variable {limit : Nat} {s : Scope}

theorem levels_follow (settings : CompilerSettings) (text text' : String)
    (htag : tag ∈ literalTags) (limit : Nat) :
    Expr.Follows (Retexted tag text text')
        (Expr.CoverageExpr.Exchanged (literalText settings tag text)
          (literalText settings tag text')) (Grammar.upTo limit).ReadsCoverage ∧
      Expr.Follows (Retexted tag text text')
        (Expr.ScalarExpr.Exchanged (literalText settings tag text)
          (literalText settings tag text')) (Grammar.upTo limit).ReadsScalar :=
  Grammar.level_follows htag (by rintro rfl; exact ⟨rfl, rfl⟩) limit limit

theorem operandBeside_follow {content content' : String}
    {C : Scope → Element → Expr.CoverageExpr → Prop}
    (hC : Expr.Follows (Retexted tag text text') (Expr.CoverageExpr.Exchanged content content') C)
    {parameters : List String} {x : Expr.CoverageExpr} (he : Retexted tag text text' e e')
    (h : Expr.OperandBeside C s e parameters x) :
    ∃ y, Expr.OperandBeside C s e' parameters y ∧ x.Exchanged content content' y :=
  h.follow Schema.congruence_eq (Expr.exchanges_congruence _ _) hC he.varied
    fun c c' hc => by rw [hc.name_eq]

-- No text but that of a string constant becomes part of an expression.
theorem operand_text_eq (htag : tag ∈ literalTags) (hother : tag ≠ "stringConstant")
    {parameters : List String} {x : Expr.CoverageExpr} (he : Retexted tag text text' e e')
    (h : Expr.OperandBeside (Grammar.upTo limit).ReadsCoverage s e parameters x) :
    ∃ y, Expr.OperandBeside (Grammar.upTo limit).ReadsCoverage s e' parameters y ∧
      x.text = y.text := by
  have hlevels : Expr.Follows (Retexted tag text text') (Expr.CoverageExpr.Exchanged "" "")
      (Grammar.upTo limit).ReadsCoverage :=
    (Grammar.level_follows htag (fun heq => absurd heq hother) limit limit).1
  obtain ⟨y, hy, hlike⟩ := operandBeside_follow hlevels he h
  refine ⟨y, hy, ?_⟩
  rcases hlike.text with htext | ⟨before, after, htext, htext'⟩
  · exact htext
  · rw [htext, htext']

theorem childText?_literal (he : Retexted tag text text' e e') :
    e.childText? tag = e'.childText? tag ∨
      (e.childText? tag = some (Text.trim text) ∧ e'.childText? tag = some (Text.trim text')) := by
  unfold Element.childText? Element.child?
  rcases he.find? (p := (·.name = tag)) (by simp_all) with hsame | ⟨c, c', hc, -, hfound, hfound'⟩
  · exact .inl (by rw [hsame])
  · rw [hfound, hfound', Option.map_some, Option.map_some]
    cases hc with
    | here => exact .inr ⟨rfl, rfl⟩
    | inside => exact .inl rfl

section Encode

variable {content content' format format' : String} {x y : Expr.CoverageExpr}

-- A coverage is written as a function of its text and of one or two literals.
theorem encode_text (hformat : Text.sameFolded format "csv" = false) (extra : Option String)
    (store : Bool) :
    (ReturnClause.encode x format extra store).text =
      "encode(" ++ x.text ++ (", " ++ quotedText format) ++
        ((extra.map fun extra => ", " ++ quotedText extra).getD "" ++ ")") := by
  simp only [ReturnClause.text, hformat]
  apply String.ext
  cases extra <;> simp [quotedText]

theorem csv_text (hformat : Text.sameFolded format "csv" = true) (extra : Option String)
    (store : Bool) :
    (ReturnClause.encode x format extra store).text = "csv(" ++ x.text ++ ")" := by
  simp only [ReturnClause.text, hformat, if_true]

theorem encode_exchanges_expr (h : Exchanges content content' x.text y.text) (format : String)
    (extra : Option String) (store : Bool) :
    Exchanges content content' (ReturnClause.encode x format extra store).text
      (ReturnClause.encode y format extra store).text := by
  cases hformat : Text.sameFolded format "csv" with
  | true =>
      rw [csv_text hformat, csv_text hformat]
      exact h.between _ _
  | false =>
      rw [encode_text hformat, encode_text hformat]
      exact (h.between _ _).append_right _

theorem encode_exchanges_format (hformat : Text.sameFolded format "csv" = false)
    (hformat' : Text.sameFolded format' "csv" = false) (htext : x.text = y.text)
    (extra : Option String) (store : Bool) :
    Exchanges format format' (ReturnClause.encode x format extra store).text
      (ReturnClause.encode y format' extra store).text := by
  rw [encode_text hformat, encode_text hformat', htext]
  exact (Exchanges.quoted.append_left _).between _ _

theorem encode_exchanges_extra (htext : x.text = y.text) (format extra extra' : String)
    (store : Bool) :
    Exchanges extra extra' (ReturnClause.encode x format (some extra) store).text
      (ReturnClause.encode y format (some extra') store).text := by
  cases hformat : Text.sameFolded format "csv" with
  | true =>
      rw [csv_text hformat, csv_text hformat, htext]
      exact .refl _
  | false =>
      rw [encode_text hformat, encode_text hformat, htext]
      exact ((Exchanges.quoted.append_left _).append_right _).append_left _

end Encode

theorem ReturnForm.retexted (htag : tag ∈ literalTags) (hliteral : HasLiteral settings tag text)
    (hliteral' : HasLiteral settings tag text') (he : Retexted tag text text' e e')
    {result : ReturnClause} (h : ReturnForm (Grammar.upTo limit) s settings e result) :
    ∃ result', ReturnForm (Grammar.upTo limit) s settings e' result' ∧
      Exchanges (literalText settings tag text) (literalText settings tag text') result.text
        result'.text := by
  have hlevels := levels_follow settings text text' htag limit
  have hname := he.name_eq
  cases h with
  | scalar hscalar hx =>
      obtain ⟨y, hy, hlike⟩ := hlevels.2 _ _ _ _ he hx
      exact ⟨_, .scalar (hname ▸ hscalar) hy, hlike⟩
  | @encode x hencode hx =>
      have hstore : e.attribute? "store" = e'.attribute? "store" := by
        rw [Element.attribute?, he.attributes_eq, Element.attribute?]
      rw [hstore]
      by_cases hstring : tag = "stringConstant"
      · obtain ⟨y, hy, hlike⟩ := operandBeside_follow hlevels.1 he hx
        rw [he.childText?_eq (by rw [hstring]; decide), he.childText?_eq (by rw [hstring]; decide)]
        exact ⟨_, .encode (hname ▸ hencode) hy, encode_exchanges_expr hlike.text _ _ _⟩
      · obtain ⟨y, hy, htext⟩ := operand_text_eq htag hstring he hx
        refine ⟨_, .encode (hname ▸ hencode) hy, ?_⟩
        obtain rfl | rfl : tag = "format" ∨ tag = "extraParameters" := by
          simpa [literalTags, hstring] using htag
        · rw [he.childText?_eq (by decide : "extraParameters" ≠ "format")]
          rcases childText?_literal he with hsame | ⟨hold, hnew⟩
          · rw [hsame]
            exact encode_exchanges_expr (htext ▸ .refl _) _ _ _
          · rw [hold, hnew]
            exact encode_exchanges_format (hliteral.1 rfl) (hliteral'.1 rfl) htext _ _
        · rw [he.childText?_eq (by decide : "format" ≠ "extraParameters")]
          rcases childText?_literal he with hsame | ⟨hold, hnew⟩
          · rw [hsame]
            exact encode_exchanges_expr (htext ▸ .refl _) _ _ _
          · have hsome : ∀ {t : String}, Text.trim t ≠ "" →
                (some (Text.trim t)).filter (· ≠ "") = some (Text.trim t) := by
              intro t ht
              simp [ht]
            rw [hold, hnew, hsome (hliteral.2 rfl), hsome (hliteral'.2 rfl)]
            exact encode_exchanges_extra htext _ _ _ _

theorem readsCondition_retexted (settings : CompilerSettings) (htag : tag ∈ literalTags)
    {body body' clause clause' : Element}
    (hclause : Retexted tag text text' clause clause') (hold : body.child? "where" = some clause)
    (hnew : body'.child? "where" = some clause') {condition : Option Operand}
    (h : ReadsCondition (Grammar.upTo limit) s body condition) :
    ∃ operand operand', condition = some operand ∧
      ReadsCondition (Grammar.upTo limit) s body' (some operand') ∧
      Exchanges (literalText settings tag text) (literalText settings tag text') operand.text
        operand'.text := by
  have hlevels := levels_follow settings text text' htag limit
  have hexclusive := Grammar.level_exclusive limit limit
  rcases h with ⟨hnone, -⟩ | ⟨_, c, operand, hfound, hc, hoperand, rfl⟩
  · simp [hold] at hnone
  · obtain rfl := Option.some.inj (hold.symm.trans hfound)
    rcases hclause.varied.firstChild hc with hsame | ⟨c', hc', hretexted⟩
    · exact ⟨operand, operand, rfl, .inr ⟨clause', c, operand, hnew, hsame, hoperand, rfl⟩, .refl _⟩
    · obtain ⟨operand', hoperand', hlike⟩ :=
        ((Expr.parseOperand_eq_ok_iff hexclusive).mp hoperand).follow hlevels.1 hlevels.2 hretexted
      have hparsed := (Expr.parseOperand_eq_ok_iff hexclusive).mpr hoperand'
      exact ⟨operand, operand', rfl, .inr ⟨clause', c', operand', hnew, hc', hparsed, rfl⟩,
        hlike.text⟩

theorem readsReturn_retexted (htag : tag ∈ literalTags) (hliteral : HasLiteral settings tag text)
    (hliteral' : HasLiteral settings tag text') {body body' clause clause' : Element}
    (hclause : Retexted tag text text' clause clause') (hold : body.child? "return" = some clause)
    (hnew : body'.child? "return" = some clause') {result : ReturnClause}
    (h : ReadsReturn (Grammar.upTo limit) s settings body result) :
    ∃ result', ReadsReturn (Grammar.upTo limit) s settings body' result' ∧
      Exchanges (literalText settings tag text) (literalText settings tag text') result.text
        result'.text := by
  obtain ⟨_, c, hfound, hc, hresult⟩ := h
  obtain rfl := Option.some.inj (hold.symm.trans hfound)
  rcases hclause.varied.firstChild hc with hsame | ⟨c', hc', hretexted⟩
  · exact ⟨result, ⟨clause', c, hnew, hsame, hresult⟩, .refl _⟩
  · obtain ⟨result', hresult', hlike⟩ :=
      (parseReturn_eq_ok_iff.mp hresult).retexted htag hliteral hliteral' hretexted
    exact ⟨result', ⟨clause', c', hnew, hc', parseReturn_eq_ok_iff.mpr hresult'⟩, hlike⟩

end Clauses

-- At most one clause of a request holds the literal that differs.
theorem clause_cases {body body' : Element} (h : Retexted tag text text' body body') :
    (body.child? "where" = body'.child? "where" ∧
        (body.child? "return" = body'.child? "return" ∨
          ∃ clause clause', Retexted tag text text' clause clause' ∧
            body.child? "return" = some clause ∧ body'.child? "return" = some clause')) ∨
      (body.child? "return" = body'.child? "return" ∧
        ∃ clause clause', Retexted tag text text' clause clause' ∧
          body.child? "where" = some clause ∧ body'.child? "where" = some clause') := by
  unfold Element.child?
  rcases h.children with hsame | hone
  · rw [hsame]
    exact .inl ⟨rfl, .inl rfl⟩
  · obtain ⟨c, c', hc, hfind⟩ := hone.find?
    have hwhere := hfind (·.name = "where") (by rw [hc.name_eq])
    have hreturn := hfind (·.name = "return") (by rw [hc.name_eq])
    rcases hwhere with hwhere | ⟨hname, hold, hnew⟩
    · exact .inl ⟨hwhere, hreturn.imp_right fun hfound => ⟨c, c', hc, hfound.2⟩⟩
    · rcases hreturn with hreturn | ⟨hname', -⟩
      · exact .inr ⟨hreturn, c, c', hc, hold, hnew⟩
      · exact absurd ((of_decide_eq_true hname).symm.trans (of_decide_eq_true hname')) (by decide)

-- What a request asks for and on which condition: one of the two differs in a literal.
def Exchanged (content content' : String) (r r' : Request) : Prop :=
  r.iterators = r'.iterators ∧
    ((Exchanges content content' r.result.text r'.result.text ∧ r.whereClause = r'.whereClause) ∨
      (r.result.text = r'.result.text ∧ Exchanges content content' r.whereClause r'.whereClause))

theorem ofElement_retexted {store : Store} (htag : tag ∈ literalTags)
    (hliteral : HasLiteral settings tag text) (hliteral' : HasLiteral settings tag text')
    {root root' : Element} (hroot : Retexted tag text text' root root') {r : Request}
    (h : ofElement store settings root = .ok r) :
    ∃ r', ofElement store settings root' = .ok r' ∧
      r.Exchanged (literalText settings tag text) (literalText settings tag text') r' := by
  obtain ⟨body, hbody, hiterators, hcondition, hresult⟩ := ofElement_eq_ok_iff.mp h
  obtain ⟨body', hbody', hsame | hretexted⟩ := unwrap_retexted hbody root' hroot
  · subst hsame
    exact ⟨r, ofElement_eq_ok_iff.mpr ⟨body', hbody', hiterators, hcondition, hresult⟩, rfl,
      .inl ⟨.refl _, rfl⟩⟩
  · have hiterators' := parseIterators_retexted htag hretexted hiterators
    rcases clause_cases hretexted with
      ⟨hwhere, hreturn | ⟨_, _, hclause, hold, hnew⟩⟩ | ⟨hreturn, _, _, hclause, hold, hnew⟩
    · unfold ReadsCondition at hcondition
      unfold ReadsReturn at hresult
      rw [hwhere] at hcondition
      rw [hreturn] at hresult
      exact ⟨r, ofElement_eq_ok_iff.mpr ⟨body', hbody', hiterators', hcondition, hresult⟩, rfl,
        .inl ⟨.refl _, rfl⟩⟩
    · unfold ReadsCondition at hcondition
      rw [hwhere] at hcondition
      obtain ⟨result', hresult', hlike⟩ :=
        readsReturn_retexted htag hliteral hliteral' hclause hold hnew hresult
      exact ⟨⟨r.iterators, r.condition, result'⟩,
        ofElement_eq_ok_iff.mpr ⟨body', hbody', hiterators', hcondition, hresult'⟩, rfl,
        .inl ⟨hlike, rfl⟩⟩
    · unfold ReadsReturn at hresult
      rw [hreturn] at hresult
      obtain ⟨operand, operand', hsome, hcondition', hlike⟩ :=
        readsCondition_retexted settings htag hclause hold hnew hcondition
      refine ⟨⟨r.iterators, some operand', r.result⟩,
        ofElement_eq_ok_iff.mpr ⟨body', hbody', hiterators', hcondition', hresult⟩, rfl,
        .inr ⟨rfl, ?_⟩⟩
      simp only [whereClause, hsome]
      exact hlike.append_left _

theorem Exchanged.queryFor {content content' : String} {r r' : Request}
    (h : r.Exchanged content content' r') (bindings : List (String × String)) :
    Exchanges content content' (r.queryFor bindings).text (r'.queryFor bindings).text := by
  simp only [Request.queryFor]
  rcases h.2 with ⟨hresult, hwhere⟩ | ⟨hresult, hwhere⟩
  · rw [hwhere]
    exact (((hresult.append_left _).append_right _).append_right _).append_right _
  · rw [hresult]
    exact hwhere.append_left _

-- A document is accepted whatever the text of a literal in it is. The queries are the same but for
-- what stands between the quotes of that literal, and are equal without their literals if the texts
-- hold no quote and the literal is not opened inside of another one.
theorem compile_retexted (store : Store) (settings : CompilerSettings)
    (document document' : String) (root root' : Element) (tag text text' : String)
    (queries : List Query) (hroot : Element.parse document = .ok root)
    (hroot' : Element.parse document' = .ok root') (htag : tag ∈ literalTags)
    (hretexted : Retexted tag text text' root root') (hliteral : HasLiteral settings tag text)
    (hliteral' : HasLiteral settings tag text')
    (h : compile store settings document = .ok queries) :
    ∃ queries', compile store settings document' = .ok queries' ∧
      List.Forall₂ (fun q q' => q.text = q'.text ∨
        ∃ before after,
          q.text = before ++ quotedText (literalText settings tag text) ++ after ∧
          q'.text = before ++ quotedText (literalText settings tag text') ++ after ∧
          ('"' ∉ (literalText settings tag text).toList →
            '"' ∉ (literalText settings tag text').toList → Even (before.toList.count '"') →
            outsideLiterals q.text = outsideLiterals q'.text)) queries queries' := by
  simp only [compile, parse, hroot, ok_bind, bind_eq_ok, pure_eq_ok] at h
  obtain ⟨r, hr, rfl⟩ := h
  obtain ⟨r', hr', hlike⟩ := ofElement_retexted htag hliteral hliteral' hretexted hr
  refine ⟨r'.queries, ?_, ?_⟩
  · simp only [compile, parse, hroot', ok_bind, hr']
    rfl
  · simp only [Request.queries, ← hlike.1, List.forall₂_map_left_iff, List.forall₂_map_right_iff,
      List.forall₂_same]
    intro bindings _
    refine (hlike.queryFor bindings).imp_right ?_
    rintro ⟨before, after, hold, hnew⟩
    refine ⟨before, after, hold, hnew, fun hcontent hcontent' heven => ?_⟩
    rw [hold, hnew]
    exact Rasql.outsideLiterals_quoted after heven hcontent hcontent'

section Samples

mutual

-- An element without attributes as it is written, and the pieces it is read to.
def written : Element → List Char
  | ⟨name, _, text, children⟩ =>
    '<' :: name.toList ++ '>' :: text.toList ++ writtenAll children ++ "</".toList ++ name.toList ++
      ['>']

def writtenAll : List Element → List Char
  | [] => []
  | e :: rest => written e ++ writtenAll rest

end

mutual

def pieces : Element → List Markup.Token
  | ⟨name, _, text, children⟩ =>
    .startTag name.toList :: Markup.textTokens text.toList ++ piecesAll children ++
      [.endTag name.toList]

def piecesAll : List Element → List Markup.Token
  | [] => []
  | e :: rest => pieces e ++ piecesAll rest

end

theorem parse_written {e : Element} (hpieces : Markup.tokens (written e) = pieces e)
    (htree : Markup.buildTree (pieces e) = .ok e) :
    Element.parse (String.ofList (written e)) = .ok e := by
  rw [Element.parse, String.toList_ofList, hpieces, htree]

def leaf (name text : String) : Element :=
  { name := name, text := text }

def node (name : String) (children : List Element) : Element :=
  { name := name, children := children }

-- A request over one coverage.
def overA (result : Element) : Element :=
  node "request" [node "coverageIterator" [leaf "iteratorVar" "c", leaf "coverageName" "A"],
    node "return" [result]]

-- A text, a text behind another one that is a quote, and a text as a bound.
def returnText (text : String) : Element :=
  overA (leaf "stringConstant" text)

def returnSum (text : String) : Element :=
  overA (node "numericAdd" [leaf "stringConstant" "\"", leaf "stringConstant" text])

def returnTrim (text : String) : Element :=
  overA (node "encode" [node "trim" [leaf "coverage" "c", leaf "axis" "x",
    node "lowerBound" [leaf "stringConstant" text], leaf "upperBound" "5"]])

theorem returnText_retexted (text text' : String) :
    Retexted "stringConstant" text text' (returnText text) (returnText text') :=
  .inside (.tail (.head (.inside (.head .here) fun hname => absurd hname (by decide))))
    fun hname => absurd hname (by decide)

theorem returnSum_retexted (text text' : String) :
    Retexted "stringConstant" text text' (returnSum text) (returnSum text') :=
  .inside (.tail (.head (.inside (.head (.inside (.tail (.head .here))
    fun hname => absurd hname (by decide))) fun hname => absurd hname (by decide))))
    fun hname => absurd hname (by decide)

theorem returnTrim_differs (text text' : String) :
    Expr.Differs [] "stringConstant" text text' (returnTrim text) (returnTrim text') :=
  .inside (.tail (.head (.inside (.head (.inside (.head (.inside (.tail (.tail (.head
    (.inside (.head .here) nofun)))) nofun)) nofun)) nofun))) nofun

theorem parse_returnText_red :
    Element.parse (String.ofList (written (returnText "red"))) = .ok (returnText "red") :=
  parse_written (by decide +kernel) rfl

-- Requests that are related in a way give queries that are equal without their literals.
def EqualOutside (R : String → String → Element → Element → Prop) : Prop :=
  ∀ (defs : List CoverageDef) (store : Store) (settings : CompilerSettings)
    (document document' : String) (root root' : Element) (text text' : String)
    (queries queries' : List Query), Store.ofDefs defs = .ok store →
    Element.parse document = .ok root → Element.parse document' = .ok root' →
    R text text' root root' → compile store settings document = .ok queries →
    compile store settings document' = .ok queries' →
    List.Forall₂ (fun q q' => outsideLiterals q.text = outsideLiterals q'.text) queries queries'

theorem compile_written {store : Store} {root : Element} {queries : List Query}
    (hroot : Element.parse (String.ofList (written root)) = .ok root)
    (h : Request.queries <$> ofElement store ⟨3, "csv"⟩ root = .ok queries) :
    compile store ⟨3, "csv"⟩ (String.ofList (written root)) = .ok queries := by
  simpa only [compile, parse, hroot, ok_bind, map_eq_ok, bind_eq_ok, pure_eq_ok] using h

theorem not_equalOutside {R : String → String → Element → Element → Prop} {root root' : Element}
    {text text' : String} {q q' : Query} (hR : R text text' root root')
    (hroot : Element.parse (String.ofList (written root)) = .ok root)
    (hroot' : Element.parse (String.ofList (written root')) = .ok root')
    (h : ∃ store, Store.ofDefs [band "A" "red"] = .ok store ∧
      Request.queries <$> ofElement store ⟨3, "csv"⟩ root = .ok [q] ∧
      Request.queries <$> ofElement store ⟨3, "csv"⟩ root' = .ok [q'])
    (hne : outsideLiterals q.text ≠ outsideLiterals q'.text) : ¬EqualOutside R := by
  intro hequal
  obtain ⟨store, hstore, hq, hq'⟩ := h
  have hqueries := hequal _ store _ _ _ _ _ _ _ _ _ hstore hroot hroot' hR
    (compile_written hroot hq) (compile_written hroot' hq')
  exact hne (List.forall₂_cons.mp hqueries).1

-- Quotes in a text are not escaped: what stands between them is outside of the literals. A text
-- without quotes is outside of them as well if the other texts hold an odd number of quotes before
-- it, or if it is the text of a bound, which is written as a number.
theorem compile_text_escapes :
    ¬EqualOutside (Retexted "stringConstant") ∧
      ¬EqualOutside (fun text text' e e' => '"' ∉ text.toList ∧ '"' ∉ text'.toList ∧
        Retexted "stringConstant" text text' e e') ∧
      ¬EqualOutside (fun text text' e e' => '"' ∉ written e ∧ '"' ∉ written e' ∧
        Expr.Differs [] "stringConstant" text text' e e') := by
  refine ⟨?_, ?_, ?_⟩
  · exact not_equalOutside (returnText_retexted "red" "a\" or \"b") parse_returnText_red
      (parse_written (by decide +kernel) rfl)
      ⟨_, rfl, rfl, rfl⟩ (by decide +kernel)
  · exact not_equalOutside ⟨by decide, by decide, returnSum_retexted "red" "blue"⟩
      (parse_written (by decide +kernel) rfl) (parse_written (by decide +kernel) rfl)
      ⟨_, rfl, rfl, rfl⟩ (by decide +kernel)
  · exact not_equalOutside ⟨by decide +kernel, by decide +kernel, returnTrim_differs "3" "4"⟩
      (parse_written (by decide +kernel) rfl) (parse_written (by decide +kernel) rfl)
      ⟨_, rfl, rfl, rfl⟩ (by decide +kernel)

theorem compile_retexted_blue :
    ∃ store queries, Store.ofDefs [band "A" "red"] = .ok store ∧
      Element.parse (String.ofList (written (returnText "red"))) = .ok (returnText "red") ∧
      Element.parse (String.ofList (written (returnText "blue"))) = .ok (returnText "blue") ∧
      HasLiteral ⟨3, "csv"⟩ "stringConstant" "red" ∧
      HasLiteral ⟨3, "csv"⟩ "stringConstant" "blue" ∧
      compile store ⟨3, "csv"⟩ (String.ofList (written (returnText "red"))) = .ok queries ∧
      ∃ queries', compile store ⟨3, "csv"⟩ (String.ofList (written (returnText "blue"))) =
          .ok queries' ∧
        List.Forall₂ (fun q q' => q.text = q'.text ∨
          ∃ before after, q.text = before ++ quotedText "red" ++ after ∧
            q'.text = before ++ quotedText "blue" ++ after ∧
            ('"' ∉ "red".toList → '"' ∉ "blue".toList → Even (before.toList.count '"') →
              outsideLiterals q.text = outsideLiterals q'.text)) queries queries' := by
  have hroot' :
      Element.parse (String.ofList (written (returnText "blue"))) = .ok (returnText "blue") :=
    parse_written (by decide +kernel) rfl
  have hliteral : ∀ text, HasLiteral ⟨3, "csv"⟩ "stringConstant" text :=
    fun _ => ⟨fun h => absurd h (by decide), fun h => absurd h (by decide)⟩
  obtain ⟨store, queries, hstore, hqueries⟩ : ∃ store queries,
      Store.ofDefs [band "A" "red"] = .ok store ∧
        Request.queries <$> ofElement store ⟨3, "csv"⟩ (returnText "red") = .ok queries :=
    ⟨_, _, rfl, rfl⟩
  have hcompiled := compile_written parse_returnText_red hqueries
  exact ⟨store, queries, hstore, parse_returnText_red, hroot', hliteral _, hliteral _, hcompiled,
    compile_retexted store _ _ _ _ _ "stringConstant" "red" "blue" _ parse_returnText_red hroot'
      (by decide) (returnText_retexted _ _) (hliteral _) (hliteral _) hcompiled⟩

end Samples

end Request

end Datacube
