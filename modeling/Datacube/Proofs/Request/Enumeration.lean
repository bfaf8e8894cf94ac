import Datacube.Request
import Datacube.Sample.Coverages
import Mathlib.Algebra.BigOperators.Group.List.Basic
import Mathlib.Data.List.Forall2

-- The queries of a request in order. The places of the coverages that a query is for are the digits
-- of its number; the radices are how many coverages each iterator has.
namespace Datacube.Request

-- How many coverages each iterator stands for.
def radices (iterators : List CoverageIterator) : List Nat :=
  iterators.map (·.coverages.length)

-- The number with the given digits. The last digit counts ones, and every other digit counts as many
-- as there are numbers with only the digits behind it.
def number : List Nat → List Nat → Nat
  | _ :: radices, digit :: digits => digit * radices.prod + number radices digits
  | _, _ => 0

-- Every digit of a number is below its radix.
structure Digits (radices : List Nat) (k : Nat) (digits : List Nat) : Prop where
  below : List.Forall₂ (· < ·) digits radices
  number : number radices digits = k

section Digits

variable {radix k : Nat} {radices digits : List Nat}

theorem digits_nil_iff : Digits [] k digits ↔ digits = [] ∧ k = 0 := by
  constructor
  · rintro ⟨hbelow, rfl⟩
    obtain rfl := List.forall₂_nil_right_iff.mp hbelow
    exact ⟨rfl, rfl⟩
  · rintro ⟨rfl, rfl⟩
    exact ⟨.nil, rfl⟩

theorem digits_cons_iff :
    Digits (radix :: radices) k digits ↔
      ∃ first rest j, digits = first :: rest ∧ first < radix ∧ Digits radices j rest ∧
        k = first * radices.prod + j := by
  constructor
  · rintro ⟨hbelow, rfl⟩
    obtain ⟨first, rest, hfirst, hrest, rfl⟩ := List.forall₂_cons_right_iff.mp hbelow
    exact ⟨first, rest, _, rfl, hfirst, ⟨hrest, rfl⟩, rfl⟩
  · rintro ⟨first, rest, _, rfl, hfirst, ⟨hrest, rfl⟩, rfl⟩
    exact ⟨.cons hfirst hrest, rfl⟩

theorem Digits.lt_prod (h : Digits radices k digits) : k < radices.prod := by
  induction radices generalizing k digits with
  | nil =>
      obtain ⟨-, rfl⟩ := digits_nil_iff.mp h
      simp
  | cons radix radices ih =>
      obtain ⟨first, rest, j, rfl, hfirst, hrest, rfl⟩ := digits_cons_iff.mp h
      have hj := ih hrest
      calc first * radices.prod + j
          < first * radices.prod + radices.prod := by omega
        _ = (first + 1) * radices.prod := by rw [Nat.succ_mul]
        _ ≤ radix * radices.prod := Nat.mul_le_mul_right _ hfirst
        _ = (radix :: radices).prod := List.prod_cons.symm

theorem existsUnique_digits (hk : k < radices.prod) : ∃! digits, Digits radices k digits := by
  induction radices generalizing k with
  | nil =>
      have hzero : k = 0 := by simpa using hk
      exact ⟨[], digits_nil_iff.mpr ⟨rfl, hzero⟩, fun _ h => (digits_nil_iff.mp h).1⟩
  | cons radix radices ih =>
      rw [List.prod_cons] at hk
      have hpos : 0 < radices.prod := Nat.pos_of_ne_zero fun hzero => by simp [hzero] at hk
      obtain ⟨rest, hrest, hunique⟩ := ih (Nat.mod_lt k hpos)
      refine ⟨k / radices.prod :: rest, digits_cons_iff.mpr ⟨_, _, _, rfl,
        (Nat.div_lt_iff_lt_mul hpos).mpr hk, hrest, (Nat.div_add_mod' k _).symm⟩, ?_⟩
      intro digits h
      obtain ⟨first, others, j, rfl, -, hothers, rfl⟩ := digits_cons_iff.mp h
      have hj := hothers.lt_prod
      have hmod : (first * radices.prod + j) % radices.prod = j := by
        rw [Nat.mul_add_mod', Nat.mod_eq_of_lt hj]
      have hdiv : (first * radices.prod + j) / radices.prod = first := by
        rw [Nat.mul_comm, Nat.mul_add_div hpos, Nat.div_eq_of_lt hj, Nat.add_zero]
      rw [hmod] at hunique
      rw [hdiv, hunique others hothers]

end Digits

-- A binding of the iterator's variable to the coverage in the given place.
def Picks (i : CoverageIterator × Nat) (binding : String × String) : Prop :=
  i.1.coverages[i.2]? = some binding.1 ∧ binding.2 = i.1.var

section Combinations

variable {iterators : List CoverageIterator} {digits : List Nat} {k : Nat}

theorem length_combinations (iterators : List CoverageIterator) :
    (combinations iterators).length = (radices iterators).prod := by
  induction iterators with
  | nil => rfl
  | cons i iterators ih =>
      simp [combinations, List.length_flatMap, ih, radices]

-- Lists of one length that follow each other: the first of them fill the places before `d * n`.
theorem getElem?_flatMap_of_length {α β : Type} {f : α → List β} {n : Nat} {as : List α}
    (hlength : ∀ a, (f a).length = n) (d : Nat) {j : Nat} (hj : j < n) :
    (as.flatMap f)[d * n + j]? = as[d]?.bind fun a => (f a)[j]? := by
  induction as generalizing d with
  | nil => simp
  | cons a as ih =>
      rw [List.flatMap_cons]
      cases d with
      | zero =>
          rw [Nat.zero_mul, Nat.zero_add, List.getElem?_append_left (by rw [hlength]; exact hj)]
          rfl
      | succ d =>
          have hplace : (d + 1) * n + j - (f a).length = d * n + j := by
            rw [hlength, Nat.succ_mul]
            omega
          rw [List.getElem?_append_right (by rw [hlength, Nat.succ_mul]; omega), hplace, ih]
          rfl

theorem exists_getElem?_combinations (h : Digits (radices iterators) k digits) :
    ∃ bindings, List.Forall₂ Picks (iterators.zip digits) bindings ∧
      (combinations iterators)[k]? = some bindings := by
  induction iterators generalizing k digits with
  | nil =>
      obtain ⟨rfl, rfl⟩ := digits_nil_iff.mp h
      exact ⟨[], .nil, rfl⟩
  | cons i iterators ih =>
      obtain ⟨d, rest, j, rfl, hd, hrest, rfl⟩ := digits_cons_iff.mp h
      obtain ⟨bindings, hbindings, hj⟩ := ih hrest
      have hname : i.coverages[d]? = some (i.coverages.get ⟨d, hd⟩) := List.getElem?_eq_getElem hd
      have hlength : ∀ name, ((combinations iterators).map ((name, i.var) :: ·)).length =
          (radices iterators).prod := by
        intro name
        rw [List.length_map, length_combinations]
      refine ⟨(i.coverages.get ⟨d, hd⟩, i.var) :: bindings, .cons ⟨hname, rfl⟩ hbindings, ?_⟩
      rw [combinations]
      exact (getElem?_flatMap_of_length hlength d hrest.lt_prod).trans (by simp [hname, hj])

end Combinations

theorem text_queryFor (r : Request) (bindings : List (String × String)) :
    (r.queryFor bindings).text = "select " ++ r.result.text ++ " from " ++
      ", ".intercalate (bindings.map fun b => b.1 ++ " as " ++ b.2) ++
      r.condition.elim "" fun condition => " where " ++ condition.text := by
  have hwhere : r.whereClause =
      r.condition.elim "" fun condition => " where " ++ condition.text := by
    unfold whereClause
    cases r.condition <;> rfl
  rw [queryFor, hwhere]
  rfl

-- There is a query for every choice of one coverage for each iterator. The places of the chosen
-- coverages are the digits of its number, so the last iterator varies fastest, and nothing but the
-- chosen coverages tells the queries apart.
theorem queries_enumerate (r : Request) :
    r.queries.length = (radices r.iterators).prod ∧
    (∀ k < r.queries.length, ∃! digits, Digits (radices r.iterators) k digits) ∧
    ∀ k digits, Digits (radices r.iterators) k digits →
      ∃ bindings, List.Forall₂ Picks (r.iterators.zip digits) bindings ∧
        r.queries[k]? = some {
          text := "select " ++ r.result.text ++ " from " ++
            ", ".intercalate (bindings.map fun b => b.1 ++ " as " ++ b.2) ++
            r.condition.elim "" fun condition => " where " ++ condition.text
          format := r.result.format?
          store := r.result.isStored
          schema := r.result.schema? } := by
  have hlength : r.queries.length = (radices r.iterators).prod := by
    rw [queries, List.length_map, length_combinations]
  refine ⟨hlength, fun k hk => existsUnique_digits (hlength ▸ hk), fun k digits hdigits => ?_⟩
  obtain ⟨bindings, hbindings, hk⟩ := exists_getElem?_combinations hdigits
  refine ⟨bindings, hbindings, ?_⟩
  rw [queries, List.getElem?_map, hk, Option.map_some, ← text_queryFor]
  rfl

example : (combinations [⟨"c", ["A", "B"]⟩, ⟨"r", ["P", "Q", "R"]⟩])[1 * 3 + 1]? =
    some [("B", "c"), ("Q", "r")] := by decide

-- How much warmer one coverage is than another, where it is warmer at all.
def warmer : Markup.Element where
  name := "request"
  children := [
    { name := "coverageIterator"
      children := [{ name := "iteratorVar", text := "c" }, { name := "coverageName", text := "T" },
        { name := "coverageName", text := "S" }] },
    { name := "coverageIterator"
      children := [{ name := "iteratorVar", text := "d" }, { name := "coverageName", text := "S" },
        { name := "coverageName", text := "T" }] },
    { name := "where"
      children := [{ name := "some", children := [{
        name := "greaterThan"
        children := [{ name := "coverage", text := "c" },
          { name := "coverage", text := "d" }] }] }] },
    { name := "return"
      children := [{ name := "encode", children := [{
        name := "minus"
        children := [{ name := "coverage", text := "c" },
          { name := "coverage", text := "d" }] }] }] }]

-- The third of its queries takes the second coverage for the first iterator and the first one for
-- the second.
theorem queries_enumerate_warmer :
    ∃ store r bindings,
      Store.ofDefs [Sample.airTemperature "T", Sample.airTemperature "S"] = .ok store ∧
      ofElement store ⟨3, "csv"⟩ warmer = .ok r ∧
      r.queries.map (·.text) =
        ["select csv((c - d)) from T as c, S as d where some_cells((c > d))",
         "select csv((c - d)) from T as c, T as d where some_cells((c > d))",
         "select csv((c - d)) from S as c, S as d where some_cells((c > d))",
         "select csv((c - d)) from S as c, T as d where some_cells((c > d))"] ∧
      r.queries.length = 2 * 2 ∧ Digits (radices r.iterators) 2 [1, 0] ∧
      List.Forall₂ Picks (r.iterators.zip [1, 0]) bindings ∧
      r.queries[2]? = some {
        text := "select csv((c - d)) from " ++
          ", ".intercalate (bindings.map fun b => b.1 ++ " as " ++ b.2) ++
          " where some_cells((c > d))"
        format := some "csv"
        store := false
        schema := r.result.schema? } := by
  obtain ⟨store, r, condition, hstore, hr, htexts, hiterators, hcondition, hresult, hclause⟩ :
      ∃ store r condition,
        Store.ofDefs [Sample.airTemperature "T", Sample.airTemperature "S"] = .ok store ∧
        ofElement store ⟨3, "csv"⟩ warmer = .ok r ∧
        r.queries.map (·.text) =
          ["select csv((c - d)) from T as c, S as d where some_cells((c > d))",
           "select csv((c - d)) from T as c, T as d where some_cells((c > d))",
           "select csv((c - d)) from S as c, S as d where some_cells((c > d))",
           "select csv((c - d)) from S as c, T as d where some_cells((c > d))"] ∧
        r.iterators = [⟨"c", ["T", "S"]⟩, ⟨"d", ["S", "T"]⟩] ∧ r.condition = some condition ∧
        (r.result.text = "csv((c - d))" ∧ r.result.format? = some "csv" ∧
          r.result.isStored = false) ∧ condition.text = "some_cells((c > d))" :=
    ⟨_, _, _, rfl, rfl, rfl, rfl, rfl, ⟨rfl, rfl, rfl⟩, rfl⟩
  have hdigits : Digits (radices r.iterators) 2 [1, 0] := by
    rw [hiterators]
    exact ⟨.cons (by decide) (.cons (by decide) .nil), rfl⟩
  obtain ⟨hlength, -, hqueries⟩ := queries_enumerate r
  obtain ⟨bindings, hbindings, hthird⟩ := hqueries 2 [1, 0] hdigits
  obtain ⟨htext, hformat, hstored⟩ := hresult
  refine ⟨store, r, bindings, hstore, hr, htexts, ?_, hdigits, hbindings, ?_⟩
  · rw [hlength, hiterators]
    rfl
  · rw [hthird, htext, hformat, hstored, hcondition, Option.elim_some, hclause]
    rfl

end Datacube.Request
