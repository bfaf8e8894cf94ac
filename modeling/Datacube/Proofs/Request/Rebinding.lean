import Datacube.Proofs.Expr.Narrowing
import Datacube.Proofs.Text.Trim
import Datacube.Request
import Datacube.Sample.RequestText

-- A request over several coverages, and the same request with one coverage for each iterator.
namespace Datacube.Request

open Markup (Element)
open Datacube.Expr (Grammar Scope)
open Result

-- The same iterator for a single coverage.
def bindTo (name : String) (i : Element) : Element :=
  { i with
    children := i.children.filter (·.name ≠ "coverageName") ++
      [{ name := "coverageName", text := name }] }

-- An iterator gets the coverage that is chosen for its variable.
def bindChild (bindings : List (String × String)) (e : Element) : Element :=
  if e.name = "coverageIterator" then
    match bindings.find? fun b => e.childText? "iteratorVar" = some b.2 with
    | some (name, _) => bindTo name e
    | none => e
  else e

def bindEach (bindings : List (String × String)) (body : Element) : Element :=
  { body with children := body.children.map (bindChild bindings) }

-- The whole request with every iterator bound to its chosen coverage alone.
def rebind (bindings : List (String × String)) (e : Element) : Element :=
  match e with
  | ⟨name, attributes, text, children⟩ =>
    let e : Element := ⟨name, attributes, text, children⟩
    if name ∈ wrappers ∧ (e.child? "coverageIterator").isNone then
      match children with
      | [] => e
      | child :: rest => ⟨name, attributes, text, rebind bindings child :: rest⟩
    else bindEach bindings e

section Rebind

variable {bindings : List (String × String)}

theorem bindChild_name (e : Element) : (bindChild bindings e).name = e.name := by
  unfold bindChild
  split
  · split <;> rfl
  · rfl

theorem bindChild_of_ne {e : Element} (h : e.name ≠ "coverageIterator") :
    bindChild bindings e = e := by
  simp [bindChild, h]

theorem child?_bindEach (bindings : List (String × String)) (body : Element) {name : String}
    (hname : name ≠ "coverageIterator") :
    (bindEach bindings body).child? name = body.child? name := by
  unfold Element.child? bindEach
  induction body.children with
  | nil => rfl
  | cons c cs ih =>
      simp only [List.map_cons, List.find?_cons, bindChild_name, ih]
      by_cases hc : c.name = name
      · simp [hc, bindChild_of_ne (hc ▸ hname)]
      · simp [hc]

theorem childrenNamed_bindEach (body : Element) (name : String) :
    (bindEach bindings body).childrenNamed name =
      (body.childrenNamed name).map (bindChild bindings) := by
  simp [Element.childrenNamed, bindEach, List.filter_map, Function.comp_def, bindChild_name]

theorem child?_isNone_bindEach (body : Element) (name : String) :
    ((bindEach bindings body).child? name).isNone = (body.child? name).isNone := by
  simp only [Element.child?, bindEach, List.find?_map, Option.isNone_map, Function.comp_def,
    bindChild_name]

abbrev IsWrapper (e : Element) : Prop :=
  e.name ∈ wrappers ∧ (e.child? "coverageIterator").isNone = true

theorem unwrap_of_isWrapper {name text : String} {attributes : List (String × String)}
    {child : Element} {rest : List Element}
    (h : IsWrapper ⟨name, attributes, text, child :: rest⟩) :
    unwrap ⟨name, attributes, text, child :: rest⟩ = unwrap child := by
  rw [unwrap]
  exact if_pos h

theorem unwrap_of_not_isWrapper {e : Element} (h : ¬IsWrapper e) : unwrap e = .ok e := by
  obtain ⟨name, attributes, text, children⟩ := e
  cases children <;> (rw [unwrap]; exact if_neg h)

theorem rebind_of_isWrapper {name text : String} {attributes : List (String × String)}
    {child : Element} {rest : List Element}
    (h : IsWrapper ⟨name, attributes, text, child :: rest⟩) :
    rebind bindings ⟨name, attributes, text, child :: rest⟩ =
      ⟨name, attributes, text, rebind bindings child :: rest⟩ := by
  rw [rebind]
  exact if_pos h

theorem rebind_of_not_isWrapper {e : Element} (h : ¬IsWrapper e) :
    rebind bindings e = bindEach bindings e := by
  obtain ⟨name, attributes, text, children⟩ := e
  cases children <;> (rw [rebind]; exact if_neg h)

theorem rebind_name (e : Element) : (rebind bindings e).name = e.name := by
  by_cases h : IsWrapper e
  · obtain ⟨name, attributes, text, _ | ⟨child, rest⟩⟩ := e
    · rw [rebind]
      exact congrArg Element.name (if_pos h)
    · rw [rebind_of_isWrapper h]
  · rw [rebind_of_not_isWrapper h]
    rfl

-- What holds the iterators is found in the same place, with its iterators bound.
theorem unwrap_rebind (bindings : List (String × String)) {root body : Element}
    (h : unwrap root = .ok body) :
    root.Holds body ∧ unwrap (rebind bindings root) = .ok (bindEach bindings body) := by
  induction root using unwrap.induct with
  | case1 name attributes text _ hwrapper =>
      rw [unwrap, if_pos hwrapper] at h
      simp [Element.onlyChild, Element.firstChild?] at h
  | case2 name attributes text child rest _ hwrapper ih =>
      rw [unwrap_of_isWrapper hwrapper] at h
      obtain ⟨hholds, hbound⟩ := ih h
      refine ⟨(Element.Holds.child .refl List.mem_cons_self).trans hholds, ?_⟩
      rw [rebind_of_isWrapper hwrapper, unwrap_of_isWrapper, hbound]
      have hsame : IsWrapper ⟨name, attributes, text, child :: rest⟩ := hwrapper
      simpa [IsWrapper, Element.child?, rebind_name] using hsame
  | case3 name attributes text children _ hwrapper =>
      rw [unwrap_of_not_isWrapper hwrapper] at h
      obtain rfl := Except.ok.inj h
      refine ⟨.refl, ?_⟩
      rw [rebind_of_not_isWrapper hwrapper, unwrap_of_not_isWrapper]
      rwa [IsWrapper, child?_isNone_bindEach]

end Rebind

section Iterators

-- The element names a variable and the coverages it stands for.
def Declares (e : Element) (i : CoverageIterator) : Prop :=
  e.childText? "iteratorVar" = some i.var ∧
    (e.childrenNamed "coverageName").map (·.trimmedText) = i.coverages ∧ i.coverages ≠ []

theorem parseIterator_eq_ok_iff {earlier : List CoverageIterator} {e : Element}
    {i : CoverageIterator} :
    parseIterator earlier e = .ok i ↔ Declares e i ∧ ∀ j ∈ earlier, j.var ≠ i.var := by
  obtain ⟨var, coverages⟩ := i
  simp only [parseIterator, Element.requiredText, Declares]
  cases e.childText? "iteratorVar" with
  | none => simp
  | some text =>
      simp only [ok_bind, throw_bind, ite_throw_eq_ok, pure_eq_ok, CoverageIterator.mk.injEq,
        Option.some.injEq, List.isEmpty_iff, List.any_eq_true, decide_eq_true_eq]
      constructor
      · rintro ⟨hsome, hnew, rfl, rfl⟩
        exact ⟨⟨rfl, rfl, hsome⟩, fun j hj hvar => hnew ⟨j, hj, hvar⟩⟩
      · rintro ⟨⟨rfl, rfl, hsome⟩, hnew⟩
        refine ⟨hsome, ?_, rfl, rfl⟩
        rintro ⟨j, hj, hvar⟩
        exact hnew j hj hvar

-- Iterators are declared in order, and no two of them have the same variable.
theorem addIterators_eq_ok_iff {elements : List Element} {iterators : List CoverageIterator}
    (earlier : List CoverageIterator) (hearlier : (earlier.map (·.var)).Nodup) :
    elements.foldlM (fun earlier child => do return earlier ++ [← parseIterator earlier child])
        earlier = .ok iterators ↔
      ∃ more, iterators = earlier ++ more ∧ List.Forall₂ Declares elements more ∧
        (iterators.map (·.var)).Nodup := by
  induction elements generalizing earlier with
  | nil =>
      simp only [List.foldlM_nil, pure_eq_ok, List.forall₂_nil_left_iff]
      constructor
      · rintro rfl
        exact ⟨[], by simp, rfl, hearlier⟩
      · rintro ⟨_, rfl, rfl, -⟩
        simp
  | cons e elements ih =>
      simp only [List.foldlM_cons, bind_eq_ok, pure_eq_ok]
      constructor
      · rintro ⟨_, ⟨i, hi, rfl⟩, hrest⟩
        obtain ⟨hdeclares, hnew⟩ := parseIterator_eq_ok_iff.mp hi
        have hnext : ((earlier ++ [i]).map (·.var)).Nodup := by
          simpa [List.nodup_append, hearlier] using hnew
        obtain ⟨more, rfl, hmore, hnodup⟩ := (ih _ hnext).mp hrest
        exact ⟨i :: more, by simp, .cons hdeclares hmore, hnodup⟩
      · rintro ⟨_, rfl, hmore, hnodup⟩
        obtain ⟨i, more, hdeclares, hrest, rfl⟩ := List.forall₂_cons_left_iff.mp hmore
        have hsplit : ((earlier ++ [i]) ++ more).map (·.var) =
            (earlier ++ i :: more).map (·.var) := by simp
        have hnext : ((earlier ++ [i]).map (·.var)).Nodup := by
          rw [← hsplit, List.map_append] at hnodup
          exact (List.nodup_append.mp hnodup).1
        have hnew : ∀ j ∈ earlier, j.var ≠ i.var := by
          simpa [List.nodup_append, hearlier] using hnext
        refine ⟨_, ⟨i, parseIterator_eq_ok_iff.mpr ⟨hdeclares, hnew⟩, rfl⟩, ?_⟩
        exact (ih _ hnext).mpr ⟨more, by simp, hrest, hnodup⟩

theorem parseIterators_eq_ok_iff {e : Element} {iterators : List CoverageIterator} :
    parseIterators e = .ok iterators ↔
      iterators ≠ [] ∧ List.Forall₂ Declares (e.childrenNamed "coverageIterator") iterators ∧
        (iterators.map (·.var)).Nodup := by
  simp only [parseIterators, bind_eq_ok]
  constructor
  · rintro ⟨parsed, hparsed, h⟩
    obtain ⟨_, rfl, hmore, hnodup⟩ := (addIterators_eq_ok_iff [] List.nodup_nil).mp hparsed
    cases parsed with
    | nil => exact (throw_eq_ok.mp h).elim
    | cons i more =>
        obtain rfl := pure_eq_ok.mp h
        exact ⟨by simp, hmore, hnodup⟩
  · rintro ⟨hsome, hall, hnodup⟩
    refine ⟨iterators, (addIterators_eq_ok_iff [] List.nodup_nil).mpr
      ⟨iterators, rfl, hall, hnodup⟩, ?_⟩
    cases iterators with
    | nil => exact absurd rfl hsome
    | cons i more => rfl

-- A combination has one coverage for each iterator.
def Chooses (i : CoverageIterator) (binding : String × String) : Prop :=
  binding.1 ∈ i.coverages ∧ binding.2 = i.var

theorem mem_combinations_iff {iterators : List CoverageIterator}
    {bindings : List (String × String)} :
    bindings ∈ combinations iterators ↔ List.Forall₂ Chooses iterators bindings := by
  induction iterators generalizing bindings with
  | nil => simp [combinations, List.forall₂_nil_left_iff]
  | cons i iterators ih =>
      simp only [combinations, List.mem_flatMap, List.mem_map, ih, List.forall₂_cons_left_iff]
      constructor
      · rintro ⟨name, hname, more, hmore, rfl⟩
        exact ⟨_, more, ⟨hname, rfl⟩, hmore, rfl⟩
      · rintro ⟨⟨name, _⟩, more, ⟨hname, rfl⟩, hmore, rfl⟩
        exact ⟨name, hname, more, hmore, rfl⟩

-- The iterators of a combination, each with its one coverage.
def boundIterators (bindings : List (String × String)) : List CoverageIterator :=
  bindings.map fun b => ⟨b.2, [b.1]⟩

theorem combinations_boundIterators (bindings : List (String × String)) :
    combinations (boundIterators bindings) = [bindings] := by
  induction bindings with
  | nil => rfl
  | cons b bindings ih =>
      unfold boundIterators at ih
      simp [boundIterators, combinations, ih]

theorem boundIterators_vars {iterators : List CoverageIterator} {bindings : List (String × String)}
    (h : List.Forall₂ Chooses iterators bindings) :
    (boundIterators bindings).map (·.var) = iterators.map (·.var) := by
  induction h with
  | nil => rfl
  | cons hchooses _ ih =>
      unfold boundIterators at ih
      simp [boundIterators, ih, hchooses.2]

theorem find_binding {bindings : List (String × String)} {b : String × String}
    (hnodup : (bindings.map (·.2)).Nodup) (hb : b ∈ bindings) :
    bindings.find? (fun c => some b.2 = some c.2) = some b := by
  induction bindings with
  | nil => simp at hb
  | cons c bindings ih =>
      rw [List.map_cons, List.nodup_cons] at hnodup
      rw [List.find?_cons]
      rcases List.mem_cons.mp hb with rfl | hb
      · simp
      · have hne : b.2 ≠ c.2 := fun heq => hnodup.1 (heq ▸ List.mem_map_of_mem hb)
        simpa [hne] using ih hnodup.2 hb

theorem declares_bindTo {e : Element} {i : CoverageIterator} {b : String × String}
    (he : Declares e i) (hb : Chooses i b) : Declares (bindTo b.1 e) ⟨b.2, [b.1]⟩ := by
  obtain ⟨hvar, hnames, -⟩ := he
  have htrim : Text.trim b.1 = b.1 := by
    have hname := hb.1
    rw [← hnames] at hname
    obtain ⟨c, -, hc⟩ := List.mem_map.mp hname
    rw [← hc, Element.trimmedText, Text.trim_trim]
  refine ⟨?_, ?_, by simp⟩
  · have hsame : (bindTo b.1 e).child? "iteratorVar" = e.child? "iteratorVar" := by
      have hother : ∀ c : Element,
          (!decide (c.name = "coverageName") && decide (c.name = "iteratorVar")) =
            decide (c.name = "iteratorVar") := by
        intro c
        by_cases hc : c.name = "iteratorVar" <;> simp [hc]
      simp [Element.child?, bindTo, List.find?_append, List.find?_filter, hother]
    rw [hb.2, ← hvar, Element.childText?, hsame, Element.childText?]
  · simp [Element.childrenNamed, bindTo, List.filter_filter, Element.trimmedText, htrim]

theorem declares_bindChild {bindings : List (String × String)} {elements : List Element}
    {iterators : List CoverageIterator} {chosen : List (String × String)}
    (hnodup : (bindings.map (·.2)).Nodup) (hchosen : ∀ b ∈ chosen, b ∈ bindings)
    (hnames : ∀ e ∈ elements, e.name = "coverageIterator")
    (hdeclares : List.Forall₂ Declares elements iterators)
    (hchooses : List.Forall₂ Chooses iterators chosen) :
    List.Forall₂ Declares (elements.map (bindChild bindings)) (boundIterators chosen) := by
  induction hdeclares generalizing chosen with
  | nil =>
      obtain rfl := List.forall₂_nil_left_iff.mp hchooses
      exact .nil
  | @cons e i elements iterators he _ ih =>
      obtain ⟨b, rest, hb, hrest, rfl⟩ := List.forall₂_cons_left_iff.mp hchooses
      have hbound : bindChild bindings e = bindTo b.1 e := by
        have hfind := find_binding hnodup (hchosen b List.mem_cons_self)
        simp only [bindChild, hnames e List.mem_cons_self, if_true, he.1, ← hb.2, hfind]
      refine .cons (hbound ▸ declares_bindTo he hb) (ih ?_ ?_ hrest)
      · exact fun c hc => hchosen c (List.mem_cons_of_mem _ hc)
      · exact fun c hc => hnames c (List.mem_cons_of_mem _ hc)

-- The bound body declares the same variables, each with its chosen coverage.
theorem parseIterators_bindEach {body : Element} {iterators : List CoverageIterator}
    {bindings : List (String × String)} (hchooses : List.Forall₂ Chooses iterators bindings)
    (h : parseIterators body = .ok iterators) :
    parseIterators (bindEach bindings body) = .ok (boundIterators bindings) := by
  obtain ⟨hsome, hdeclares, hnodup⟩ := parseIterators_eq_ok_iff.mp h
  have hvars := boundIterators_vars hchooses
  have hseconds : bindings.map (·.2) = iterators.map (·.var) := by
    rw [← hvars, boundIterators, List.map_map]
    rfl
  refine parseIterators_eq_ok_iff.mpr ⟨?_, ?_, hvars ▸ hnodup⟩
  · intro hnone
    rw [hnone, List.map_nil, eq_comm, List.map_eq_nil_iff] at hvars
    exact hsome hvars
  · rw [childrenNamed_bindEach]
    refine declares_bindChild (hseconds ▸ hnodup) (fun _ hb => hb) ?_ hdeclares hchooses
    exact fun e he => by simpa using List.of_mem_filter he

end Iterators

section Acceptance

variable {store : Store} {iterators : List CoverageIterator} {bindings : List (String × String)}

-- The coverage chosen for an iterator that the request mentions is like the first of the iterator.
def Agrees (store : Store) (root : Element) (iterators : List CoverageIterator)
    (bindings : List (String × String)) : Prop :=
  ∀ i ∈ iterators, root.Mentions i.var → ∀ first name, i.coverages.head? = some first →
    (name, i.var) ∈ bindings →
    ∀ c d, store.read first = .ok c → store.read name = .ok d → c.Alike d

theorem lookup_boundIterators (h : List.Forall₂ Chooses iterators bindings) {var : String}
    {names : List String}
    (hlookup : (iterators.map fun i => (i.var, i.coverages)).lookup var = some names) :
    ∃ i ∈ iterators, ∃ name, i.var = var ∧ i.coverages = names ∧ name ∈ names ∧
      (name, var) ∈ bindings ∧
      ((boundIterators bindings).map fun i => (i.var, i.coverages)).lookup var = some [name] := by
  induction h with
  | nil => simp at hlookup
  | @cons i b iterators bindings hb _ ih =>
      simp only [boundIterators, List.map_cons, List.lookup_cons] at hlookup ⊢
      by_cases hvar : var = i.var
      · subst hvar
        simp only [beq_self_eq_true, Option.some.injEq] at hlookup
        subst hlookup
        refine ⟨i, List.mem_cons_self, b.1, rfl, rfl, hb.1, ?_, ?_⟩
        · rw [← hb.2]
          exact List.mem_cons_self
        · simp [hb.2]
      · have hother : (var == i.var) = false := by simpa using hvar
        simp only [hother] at hlookup
        obtain ⟨j, hj, name, hjvar, hnames, hname, hmem, hfound⟩ := ih hlookup
        refine ⟨j, List.mem_cons_of_mem _ hj, name, hjvar, hnames, hname,
          List.mem_cons_of_mem _ hmem, ?_⟩
        simpa [hb.2, hother, boundIterators] using hfound

theorem scope_narrows {root e : Element} (hchooses : List.Forall₂ Chooses iterators bindings)
    (hagrees : Agrees store root iterators bindings) (he : root.Holds e) :
    Scope.Narrows e (scope store iterators) (scope store (boundIterators bindings)) := by
  refine ⟨rfl, rfl, fun {var first rest} hmentions hlookup => ?_⟩
  obtain ⟨i, hi, name, rfl, hnames, hname, hmem, hfound⟩ := lookup_boundIterators hchooses hlookup
  exact ⟨name, hname, hfound,
    hagrees i hi (he.mentions hmentions) first name (by simp [hnames]) hmem⟩

-- What is asked for reads the same in a narrower scope.
theorem parseReturn_narrows {limit : Nat} {settings : CompilerSettings} {s t : Scope} {e : Element}
    {result : ReturnClause} (hscope : Scope.Narrows e s t)
    (h : parseReturn (Grammar.upTo limit) s settings e = .ok result) :
    ∃ result', parseReturn (Grammar.upTo limit) t settings e = .ok result' ∧
      result.text = result'.text := by
  have hlevels := Grammar.level_simulates limit limit
  unfold parseReturn at h ⊢
  by_cases hencode : e.name ≠ "encode"
  · simp only [if_pos hencode, bind_eq_ok, pure_eq_ok, Expr.parseScalar_eq_ok_iff] at h ⊢
    obtain ⟨x, hx, rfl⟩ := h
    obtain ⟨y, hy, hlike⟩ := hlevels.2 _ _ _ _ hscope hx
    exact ⟨_, ⟨y, hy, rfl⟩, congrArg Rasql.Term.text hlike⟩
  · rw [if_neg hencode] at h ⊢
    split at h
    · simp at h
    · next c hc =>
      simp only [bind_eq_ok, pure_eq_ok, Expr.parseCoverage_eq_ok_iff] at h ⊢
      obtain ⟨x, hx, rfl⟩ := h
      have hheld := hscope.held (.child .refl (List.mem_of_find?_eq_some hc))
      obtain ⟨y, hy, hlike⟩ := hlevels.1 _ _ _ _ hheld hx
      have htext : x.text = y.text := congrArg Rasql.Term.text hlike.term
      exact ⟨_, ⟨y, hy, rfl⟩, by simp only [ReturnClause.text, htext]⟩

-- A request has a condition if its body has one.
def ReadsCondition (g : Grammar) (s : Scope) (body : Element) (condition : Option Expr.Operand) :
    Prop :=
  (body.child? "where" = none ∧ condition = none) ∨
    ∃ clause c operand, body.child? "where" = some clause ∧ clause.firstChild? = some c ∧
      g.parseOperand s c = .ok operand ∧ condition = some operand

def ReadsReturn (g : Grammar) (s : Scope) (settings : CompilerSettings) (body : Element)
    (result : ReturnClause) : Prop :=
  ∃ clause c, body.child? "return" = some clause ∧ clause.firstChild? = some c ∧
    parseReturn g s settings c = .ok result

theorem ofElement_eq_ok_iff {settings : CompilerSettings} {root : Element} {r : Request} :
    ofElement store settings root = .ok r ↔
      ∃ body, unwrap root = .ok body ∧ parseIterators body = .ok r.iterators ∧
        ReadsCondition (Grammar.upTo settings.maxDepth) (scope store r.iterators) body
          r.condition ∧
        ReadsReturn (Grammar.upTo settings.maxDepth) (scope store r.iterators) settings body
          r.result := by
  obtain ⟨iterators, condition, result⟩ := r
  simp only [ofElement, bind_eq_ok]
  constructor
  · rintro ⟨body, hbody, its, hits, h⟩
    refine ⟨body, hbody, ?_⟩
    unfold ReadsCondition ReadsReturn
    -- Only a body that has something to return is accepted, with or without a condition.
    cases hwhere : body.child? "where" <;> cases hreturn : body.child? "return" <;>
      simp [hwhere, hreturn, Expr.onlyChild_eq_ok_iff] at h ⊢
    · obtain ⟨c, hc, hresult, rfl, rfl⟩ := h
      exact ⟨hits, rfl, c, hc, hresult⟩
    · obtain ⟨c', hc', operand, hoperand, c, hc, hresult, rfl, rfl⟩ := h
      exact ⟨hits, ⟨c', hc', operand, hoperand, rfl⟩, c, hc, hresult⟩
  · rintro ⟨body, hbody, hits, hcondition, clause, c, hclause, hc, hresult⟩
    refine ⟨body, hbody, iterators, hits, ?_⟩
    rcases hcondition with ⟨hwhere, rfl⟩ | ⟨clause', c', operand, hwhere, hc', hoperand, rfl⟩
    · simp [hwhere, hclause, Expr.onlyChild_eq_ok_iff, hc, hresult]
    · simp [hwhere, hclause, Expr.onlyChild_eq_ok_iff, hc, hresult, hc', hoperand]

theorem child?_held {root body clause c : Element} {name : String} (hbody : root.Holds body)
    (hclause : body.child? name = some clause) (hc : clause.firstChild? = some c) : root.Holds c :=
  (hbody.child (List.mem_of_find?_eq_some hclause)).child (List.mem_of_mem_head? hc)

theorem readsCondition_narrows (bindings : List (String × String)) {limit : Nat} {s t : Scope}
    {body : Element} {condition : Option Expr.Operand} (hscope : Scope.Narrows body s t)
    (h : ReadsCondition (Grammar.upTo limit) s body condition) :
    ∃ condition', ReadsCondition (Grammar.upTo limit) t (bindEach bindings body) condition' ∧
      condition.map Expr.Operand.text = condition'.map Expr.Operand.text := by
  have hlevels := Grammar.level_simulates limit limit
  have hexclusive := Grammar.level_exclusive limit limit
  unfold ReadsCondition
  rw [child?_bindEach bindings body (by decide)]
  rcases h with ⟨hnone, rfl⟩ | ⟨clause, c, operand, hclause, hc, hoperand, rfl⟩
  · exact ⟨none, .inl ⟨hnone, rfl⟩, rfl⟩
  · have hheld := hscope.held (child?_held .refl hclause hc)
    obtain ⟨operand', hoperand', hlike⟩ :=
      ((Expr.parseOperand_eq_ok_iff hexclusive).mp hoperand).simulate hlevels.1 hlevels.2 hheld
    exact ⟨some operand', .inr ⟨clause, c, operand', hclause, hc,
      (Expr.parseOperand_eq_ok_iff hexclusive).mpr hoperand', rfl⟩,
      congrArg (fun term => some (Rasql.Term.text term)) hlike.term⟩

theorem readsReturn_narrows (bindings : List (String × String)) {limit : Nat}
    {settings : CompilerSettings} {s t : Scope} {body : Element} {result : ReturnClause}
    (hscope : Scope.Narrows body s t)
    (h : ReadsReturn (Grammar.upTo limit) s settings body result) :
    ∃ result', ReadsReturn (Grammar.upTo limit) t settings (bindEach bindings body) result' ∧
      result.text = result'.text := by
  obtain ⟨clause, c, hclause, hc, hresult⟩ := h
  obtain ⟨result', hresult', htext⟩ :=
    parseReturn_narrows (hscope.held (child?_held .refl hclause hc)) hresult
  refine ⟨result', ⟨clause, c, ?_, hc, hresult'⟩, htext⟩
  rw [child?_bindEach bindings body (by decide), hclause]

-- A request whose chosen coverages are like the first ones of their iterators is accepted for the
-- chosen coverages alone, and then gives the one query that it gives for their combination.
theorem compile_rebind (store : Store) (settings : CompilerSettings) (document : String)
    (root : Element) (r : Request) (bindings : List (String × String))
    (hroot : Element.parse document = .ok root) (hr : parse store settings document = .ok r)
    (hbindings : bindings ∈ combinations r.iterators)
    (hagrees : Agrees store root r.iterators bindings) :
    ∃ r' q, ofElement store settings (rebind bindings root) = .ok r' ∧ r'.queries = [q] ∧
      q.text = (r.queryFor bindings).text ∧
      ∀ alone, Element.parse alone = .ok (rebind bindings root) →
        compile store settings alone = .ok [q] := by
  simp only [parse, hroot, ok_bind, ofElement_eq_ok_iff] at hr
  obtain ⟨body, hbody, hiterators, hcondition, hresult⟩ := hr
  obtain ⟨hheld, hbound⟩ := unwrap_rebind bindings hbody
  have hchooses := mem_combinations_iff.mp hbindings
  have hscope := scope_narrows hchooses hagrees hheld
  obtain ⟨condition', hcondition', hconditions⟩ := readsCondition_narrows bindings hscope hcondition
  obtain ⟨result', hresult', htext⟩ := readsReturn_narrows bindings hscope hresult
  have hdeclared := parseIterators_bindEach hchooses hiterators
  have hbound' : ofElement store settings (rebind bindings root) =
      .ok ⟨boundIterators bindings, condition', result'⟩ :=
    ofElement_eq_ok_iff.mpr ⟨_, hbound, hdeclared, hcondition', hresult'⟩
  have hqueries : (Request.mk (boundIterators bindings) condition' result').queries =
      [(Request.mk (boundIterators bindings) condition' result').queryFor bindings] := by
    simp [queries, combinations_boundIterators]
  have hwhere : ∀ r : Request,
      r.whereClause = ((r.condition.map Expr.Operand.text).map (" where " ++ ·)).getD "" := by
    rintro ⟨_, _ | _, _⟩ <;> rfl
  refine ⟨_, _, hbound', hqueries, ?_, fun alone halone => ?_⟩
  · simp only [queryFor, hwhere, htext, hconditions]
  · simp only [compile, parse, halone, ok_bind, hbound', hqueries]
    rfl

end Acceptance

section Bands

-- A row of ten cells with one field.
def band (name field : String) : CoverageDef where
  name := name
  kind := "GridCoverage"
  domain := [{ name := "x", kind := "x", numLo := some 0, numHi := some 9 }]
  cells := [⟨some 0, some 9⟩]
  description := { rangeFields := [{ name := field, datatype := "char" }] }

-- A request for one field of some coverages, and its tree.
def selectRed (names : List String) : String :=
  Sample.element "request" (Sample.iterator "c" names ++ Sample.element "return"
    (Sample.element "encode" (Sample.element "fieldSelect"
      (Sample.coverage "c" ++ Sample.element "field" "red"))))

def selectRedTree (names : List String) : Element where
  name := "request"
  children := [
    { name := "coverageIterator"
      children := { name := "iteratorVar", text := "c" } ::
        names.map fun name => { name := "coverageName", text := name } },
    { name := "return"
      children := [{
        name := "encode"
        children := [{
          name := "fieldSelect"
          children := [{ name := "coverage", text := "c" },
            { name := "field", text := "red" }] }] }] }]

def inTags (tag : String) (content : List Markup.Token) : List Markup.Token :=
  .startTag tag.toList :: content ++ [.endTag tag.toList]

def selectRedTokens (names : List String) : List Markup.Token :=
  inTags "request" (inTags "coverageIterator" (inTags "iteratorVar" [.text ['c']] ++
    names.flatMap fun name => inTags "coverageName" [.text name.toList]) ++
    inTags "return" (inTags "encode" (inTags "fieldSelect"
      (inTags "coverage" [.text ['c']] ++ inTags "field" [.text "red".toList]))))

theorem parse_selectRed_both :
    Element.parse (selectRed ["A", "B"]) = .ok (selectRedTree ["A", "B"]) := by
  have htokens : Markup.tokens (selectRed ["A", "B"]).toList = selectRedTokens ["A", "B"] := by
    simp only [selectRed, Sample.element, Sample.iterator, Sample.coverage, String.join, List.map,
      List.foldl, String.toList_append]
    decide +kernel
  rw [Element.parse, htokens]
  rfl

theorem parse_selectRed_second : Element.parse (selectRed ["B"]) = .ok (selectRedTree ["B"]) := by
  have htokens : Markup.tokens (selectRed ["B"]).toList = selectRedTokens ["B"] := by
    simp only [selectRed, Sample.element, Sample.iterator, Sample.coverage, String.join, List.map,
      List.foldl, String.toList_append]
    decide +kernel
  rw [Element.parse, htokens]
  rfl

-- Coverages with the same cells need not have the same fields: a request for both may be refused
-- for one of them alone.
theorem compile_second_alone_refused :
    ¬∀ (defs : List CoverageDef) (store : Store) (settings : CompilerSettings)
      (document alone : String) (root : Element) (r : Request) (bindings : List (String × String)),
      Store.ofDefs defs = .ok store → Element.parse document = .ok root →
      parse store settings document = .ok r → bindings ∈ combinations r.iterators →
      Element.parse alone = .ok (rebind bindings root) →
      ∃ q, compile store settings alone = .ok [q] ∧ q.text = (r.queryFor bindings).text := by
  intro h
  obtain ⟨q, hq, -⟩ := h [band "A" "red", band "B" "green"] _ ⟨3, "csv"⟩ (selectRed ["A", "B"])
    (selectRed ["B"]) _ _ [("B", "c")] rfl parse_selectRed_both
    (by rw [parse, parse_selectRed_both]; rfl)
    (show [("B", "c")] ∈ combinations [⟨"c", ["A", "B"]⟩] by decide) parse_selectRed_second
  rw [compile, parse, parse_selectRed_second] at hq
  cases (show Except.error _ = Except.ok [q] from hq)

theorem compile_rebind_bands :
    ∃ store r, Store.ofDefs [band "A" "red", band "B" "red"] = .ok store ∧
      parse store ⟨3, "csv"⟩ (selectRed ["A", "B"]) = .ok r ∧
      [("B", "c")] ∈ combinations r.iterators ∧
      Agrees store (selectRedTree ["A", "B"]) r.iterators [("B", "c")] ∧
      ∃ r' q, ofElement store ⟨3, "csv"⟩ (rebind [("B", "c")] (selectRedTree ["A", "B"])) = .ok r' ∧
        r'.queries = [q] ∧ q.text = (r.queryFor [("B", "c")]).text ∧
        ∀ alone, Element.parse alone = .ok (rebind [("B", "c")] (selectRedTree ["A", "B"])) →
          compile store ⟨3, "csv"⟩ alone = .ok [q] := by
  obtain ⟨store, r, hstore, hroot, hiterators, hA, hB⟩ : ∃ store r,
      Store.ofDefs [band "A" "red", band "B" "red"] = .ok store ∧
      ofElement store ⟨3, "csv"⟩ (selectRedTree ["A", "B"]) = .ok r ∧
      r.iterators = [⟨"c", ["A", "B"]⟩] ∧
      store.read "A" = Coverage.ofDef (band "A" "red") ∧
      store.read "B" = Coverage.ofDef (band "B" "red") := ⟨_, _, rfl, rfl, rfl, rfl, rfl⟩
  have hr : parse store ⟨3, "csv"⟩ (selectRed ["A", "B"]) = .ok r := by
    rw [parse, parse_selectRed_both]
    exact hroot
  have hmem : [("B", "c")] ∈ combinations r.iterators := by
    rw [hiterators]
    decide
  have hagrees : Agrees store (selectRedTree ["A", "B"]) r.iterators [("B", "c")] := by
    intro i hi _ first name hfirst hname c d hc hd
    rw [hiterators, List.mem_singleton] at hi
    subst hi
    obtain rfl : "A" = first := Option.some.inj hfirst
    obtain rfl : name = "B" := congrArg Prod.fst (List.mem_singleton.mp hname)
    obtain rfl := Except.ok.inj (hA.symm.trans hc)
    obtain rfl := Except.ok.inj (hB.symm.trans hd)
    exact ⟨.cons (.refl _) .nil, fun _ => .rfl⟩
  exact ⟨store, r, hstore, hr, hmem, hagrees,
    compile_rebind store _ (selectRed ["A", "B"]) _ r _ parse_selectRed_both hr hmem hagrees⟩

end Bands

end Datacube.Request
