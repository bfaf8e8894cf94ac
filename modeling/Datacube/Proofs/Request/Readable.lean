import Datacube.Proofs.Request.Literal

-- Which coverages in the from clauses of an accepted request can be read. A name is looked up where
-- an expression refers to its iterator; the names of the other iterators are taken as they are.
namespace Datacube

open Markup (Element)
open Datacube.Expr (Operand Scope)
open Result

def Store.Readable (store : Store) (name : String) : Prop :=
  ∃ c, store.read name = .ok c

namespace Expr

theorem readable_of_readSchema {s : Scope} {name : String} {schema : Schema}
    (h : readSchema s name = .ok schema) : s.store.Readable name := by
  simp only [readSchema, bind_eq_ok] at h
  obtain ⟨c, hc, -⟩ := h
  exact ⟨c, hc⟩

-- A reference stands for coverages that can all be read.
def Operand.NamesReadable (s : Scope) : Operand → Prop
  | .coverage (.reference iterator _) =>
    ∃ names, s.iterators.lookup iterator = some names ∧ ∀ name ∈ names, s.store.Readable name
  | _ => True

theorem ofForms_namesReadable : OfForms Operand.NamesReadable where
  coverage h := by
    cases h with
    | reference _ hnames hschema hsame =>
        refine ⟨_, hnames, fun name hname => ?_⟩
        rcases List.mem_cons.mp hname with rfl | hname
        · exact readable_of_readSchema hschema
        · obtain ⟨other, hother, -⟩ := checkSame_eq_ok_iff.mp hsame name hname
          exact readable_of_readSchema hother
    | _ => trivial
  scalar h := by
    cases h <;> trivial

end Expr

namespace Request

-- An expression of the request refers to the iterator.
def RefersTo (r : Request) (var : String) : Prop :=
  ∃ top ∈ r.expressions, ∃ around schema, top.Occurs around (.coverage (.reference var schema))

-- The name of a coverage stands in the from clause of a query of the request.
def ReadsFrom (r : Request) (q : Query) (name : String) : Prop :=
  ∃ bindings ∈ combinations r.iterators, q = r.queryFor bindings ∧ name ∈ bindings.map (·.1)

theorem ReadsFrom.mem_queries {r : Request} {q : Query} {name : String}
    (h : r.ReadsFrom q name) : q ∈ r.queries := by
  obtain ⟨bindings, hbindings, rfl, -⟩ := h
  exact List.mem_map_of_mem hbindings

section Iterators

variable {iterators : List CoverageIterator} {i : CoverageIterator}

theorem lookup_of_mem (hnodup : (iterators.map (·.var)).Nodup) (hi : i ∈ iterators) :
    (iterators.map fun i => (i.var, i.coverages)).lookup i.var = some i.coverages := by
  induction iterators with
  | nil => simp at hi
  | cons j iterators ih =>
      rw [List.map_cons, List.nodup_cons] at hnodup
      rcases List.mem_cons.mp hi with rfl | hi
      · simp
      · have hother : (i.var == j.var) = false := by
          simp only [beq_eq_false_iff_ne]
          exact fun hvar => hnodup.1 (hvar ▸ List.mem_map_of_mem hi)
        simpa [List.lookup_cons, hother] using ih hnodup.2 hi

-- Every coverage of every iterator is chosen in some combination.
theorem exists_combination (hsome : ∀ j ∈ iterators, j.coverages ≠ []) (hi : i ∈ iterators)
    {name : String} (hname : name ∈ i.coverages) :
    ∃ bindings ∈ combinations iterators, (name, i.var) ∈ bindings := by
  have hany : ∀ {others : List CoverageIterator}, (∀ j ∈ others, j.coverages ≠ []) →
      ∃ bindings, List.Forall₂ Chooses others bindings := by
    intro others hothers
    refine exists_forall₂_iff.mpr fun j hj => ?_
    obtain ⟨first, hfirst⟩ := List.exists_mem_of_ne_nil _ (hothers j hj)
    exact ⟨(first, j.var), hfirst, rfl⟩
  simp only [mem_combinations_iff]
  obtain ⟨before, after, rfl⟩ := List.append_of_mem hi
  obtain ⟨first, hfirst⟩ := hany fun j (hj : j ∈ before) => hsome j (by simp [hj])
  obtain ⟨last, hlast⟩ := hany fun j (hj : j ∈ after) => hsome j (by simp [hj])
  exact ⟨first ++ (name, i.var) :: last,
    List.rel_append hfirst (.cons ⟨hname, rfl⟩ hlast), by simp⟩

end Iterators

section Readable

variable {store : Store} {settings : CompilerSettings} {root : Element} {r : Request}

-- What an accepted request declares: every iterator has coverages, and a name of its own.
theorem iterators_of_ofElement (h : ofElement store settings root = .ok r) :
    (∀ i ∈ r.iterators, i.coverages ≠ []) ∧ (r.iterators.map (·.var)).Nodup := by
  obtain ⟨body, -, hiterators, -, -⟩ := ofElement_eq_ok_iff.mp h
  obtain ⟨-, hdeclares, hnodup⟩ := parseIterators_eq_ok_iff.mp hiterators
  refine ⟨fun i hi => ?_, hnodup⟩
  obtain ⟨e, -, he⟩ := exists_mem_of_forall₂ hdeclares i hi
  exact he.2.2

theorem readable_of_refersTo (h : ofElement store settings root = .ok r) {i : CoverageIterator}
    (hi : i ∈ r.iterators) (href : r.RefersTo i.var) :
    ∀ name ∈ i.coverages, store.Readable name := by
  obtain ⟨top, htop, around, schema, hoccurs⟩ := href
  obtain ⟨names, hlookup, hreadable⟩ :=
    throughout_of_ofElement Expr.ofForms_namesReadable h top htop around _ hoccurs
  have hnames := lookup_of_mem (iterators_of_ofElement h).2 hi
  obtain rfl : names = i.coverages := Option.some.inj (hlookup.symm.trans hnames)
  exact hreadable

-- The queries name the coverages of all iterators, and no others.
theorem readsFrom_iff (h : ofElement store settings root = .ok r) {name : String} :
    (∃ q, r.ReadsFrom q name) ↔ ∃ i ∈ r.iterators, name ∈ i.coverages := by
  constructor
  · rintro ⟨q, bindings, hbindings, -, hname⟩
    obtain ⟨b, hb, rfl⟩ := List.mem_map.mp hname
    obtain ⟨i, hi, hchooses⟩ := exists_mem_of_forall₂ (mem_combinations_iff.mp hbindings) b hb
    exact ⟨i, hi, hchooses.1⟩
  · rintro ⟨i, hi, hname⟩
    obtain ⟨bindings, hbindings, hmem⟩ :=
      exists_combination (iterators_of_ofElement h).1 hi hname
    exact ⟨r.queryFor bindings, bindings, hbindings, rfl, List.mem_map_of_mem hmem⟩

-- In an accepted request the coverages of an iterator that an expression refers to can be read. So
-- all that the queries read from can be read just if this holds of the iterators that no expression
-- refers to.
theorem readsFrom_readable_iff (store : Store) (settings : CompilerSettings) (document : String)
    (r : Request) (h : parse store settings document = .ok r) :
    compile store settings document = .ok r.queries ∧
      (∀ i ∈ r.iterators, r.RefersTo i.var → ∀ name ∈ i.coverages, store.Readable name) ∧
      ((∀ q ∈ r.queries, ∀ name, r.ReadsFrom q name → store.Readable name) ↔
        ∀ i ∈ r.iterators, ¬r.RefersTo i.var → ∀ name ∈ i.coverages, store.Readable name) := by
  have hcompile : compile store settings document = .ok r.queries := by
    rw [compile, h]
    rfl
  simp only [parse, bind_eq_ok] at h
  obtain ⟨root, -, h⟩ := h
  refine ⟨hcompile, fun i hi => readable_of_refersTo h hi, ?_⟩
  constructor
  · intro hreadable i hi _ name hname
    obtain ⟨q, hreads⟩ := (readsFrom_iff h).mpr ⟨i, hi, hname⟩
    exact hreadable q hreads.mem_queries name hreads
  · intro hunused q _ name hreads
    obtain ⟨i, hi, hname⟩ := (readsFrom_iff h).mp ⟨q, hreads⟩
    by_cases href : r.RefersTo i.var
    · exact readable_of_refersTo h hi href name hname
    · exact hunused i hi href name hname

end Readable

section Unused

-- A request for one coverage, beside which it declares another that it does not use.
def besideUnused (name : String) : Element :=
  node "request" [
    node "coverageIterator" [leaf "iteratorVar" "c", leaf "coverageName" "A"],
    node "coverageIterator" [leaf "iteratorVar" "d", leaf "coverageName" name],
    node "return" [node "encode" [leaf "coverage" "c"]]]

theorem parse_besideUnused :
    Element.parse (String.ofList (written (besideUnused "missing"))) =
      .ok (besideUnused "missing") :=
  parse_written (by decide +kernel) rfl

theorem exists_besideUnused :
    ∃ store r, Store.ofDefs [band "A" "red"] = .ok store ∧
      parse store ⟨3, "csv"⟩ (String.ofList (written (besideUnused "missing"))) = .ok r ∧
      r.queries.map (·.text) = ["select csv(c) from A as c, missing as d"] ∧
      r.ReadsFrom (r.queryFor [("A", "c"), ("missing", "d")]) "missing" ∧
      (∃ schema, r.expressions = [.coverage (.reference "c" schema)]) ∧
      ¬store.Readable "missing" := by
  obtain ⟨store, r, hstore, hr, hiterators, hexpressions, htexts, hmissing⟩ :
      ∃ store r, Store.ofDefs [band "A" "red"] = .ok store ∧
        ofElement store ⟨3, "csv"⟩ (besideUnused "missing") = .ok r ∧
        r.iterators = [⟨"c", ["A"]⟩, ⟨"d", ["missing"]⟩] ∧
        (∃ schema, r.expressions = [.coverage (.reference "c" schema)]) ∧
        r.queries.map (·.text) = ["select csv(c) from A as c, missing as d"] ∧
        ¬store.Readable "missing" :=
    ⟨_, _, rfl, rfl, rfl, ⟨_, rfl⟩, rfl, fun ⟨_, h⟩ => nomatch h⟩
  refine ⟨store, r, hstore, ?_, htexts, ⟨_, ?_, rfl, by simp⟩, hexpressions, hmissing⟩
  · rw [parse, parse_besideUnused]
    exact hr
  · rw [hiterators]
    exact List.mem_singleton_self _

-- The name of an iterator that is not used goes into the from clause without being looked up.
theorem readsFrom_unreadable :
    ¬∀ (defs : List CoverageDef) (store : Store) (settings : CompilerSettings) (document : String)
      (r : Request), Store.ofDefs defs = .ok store → parse store settings document = .ok r →
      ∀ q ∈ r.queries, ∀ name, r.ReadsFrom q name → store.Readable name := by
  intro hall
  obtain ⟨store, r, hstore, hr, -, hreads, -, hmissing⟩ := exists_besideUnused
  exact hmissing (hall _ store _ _ r hstore hr _ hreads.mem_queries "missing" hreads)

-- The coverage that is used can be read, and what the query reads from cannot all be read.
theorem readsFrom_readable_besideUnused :
    ∃ store r, Store.ofDefs [band "A" "red"] = .ok store ∧
      parse store ⟨3, "csv"⟩ (String.ofList (written (besideUnused "missing"))) = .ok r ∧
      r.RefersTo "c" ∧ ¬r.RefersTo "d" ∧
      (∀ i ∈ r.iterators, r.RefersTo i.var → ∀ name ∈ i.coverages, store.Readable name) ∧
      ((∀ q ∈ r.queries, ∀ name, r.ReadsFrom q name → store.Readable name) ↔
        ∀ i ∈ r.iterators, ¬r.RefersTo i.var → ∀ name ∈ i.coverages, store.Readable name) := by
  obtain ⟨store, r, hstore, hr, -, -, ⟨schema, hexpressions⟩, -⟩ := exists_besideUnused
  have hreadable := readsFrom_readable_iff store _ _ r hr
  refine ⟨store, r, hstore, hr, ?_, ?_, hreadable.2.1, hreadable.2.2⟩
  · exact ⟨_, by rw [hexpressions]; exact List.mem_singleton_self _, [], schema, .refl⟩
  · rintro ⟨top, htop, around, other, hoccurs⟩
    rw [hexpressions] at htop
    obtain rfl := List.mem_singleton.mp htop
    rcases hoccurs.eq_or_operand with ⟨-, heq⟩ | ⟨child, hchild, -⟩
    · simp at heq
    · exact absurd hchild List.not_mem_nil

end Unused

end Request

end Datacube
