import Datacube.Proofs.Response.Slices

-- Cells that are narrowed in place, call after call. A call that is refused changes nothing, so
-- that in the end each bound is the one that the last call to give it has given.
namespace Datacube.CellExtent

open Subset (OpenPoint)

-- Narrow in place: both bounds are read while the cells are as they were, and only then put in.
def narrow (s : Subset) : ExceptT Error (StateM CellExtent) Unit := do
  let lo ← parseBound s.axis s.bounds.1 (← get).lo
  let hi ← parseBound s.axis s.bounds.2 (← get).hi
  if hi < lo then
    throw (.invalidParameter s.axis
      ("subset lower bound " ++ Number.intText lo ++ " is above upper bound " ++ Number.intText hi))
  modify (·.withLo lo)
  modify (·.withHi hi)
  modify fun c => { c with subset := some s }

-- One call, with what comes of it and the cells it leaves.
def call (c : CellExtent) (s : Subset) : Result Unit × CellExtent :=
  (narrow s).run.run c

-- Call after call on the same cells, whatever comes of each.
def callAll (c : CellExtent) : List Subset → List (Result Unit) × CellExtent
  | [] => ([], c)
  | s :: calls =>
    let (outcome, next) := c.call s
    let (outcomes, final) := next.callAll calls
    (outcome :: outcomes, final)

-- The calls that succeeded.
def accepted (calls : List Subset) (outcomes : List (Result Unit)) : List Subset :=
  ((calls.zip outcomes).filter fun call => call.2.isOk).map Prod.fst

-- The cell that a bound names by itself. An open bound names none.
def named? (bound : String) : Option Int :=
  if OpenPoint bound then none
  else Number.parseBig (String.ofList (Text.stripEnds (· = '"') (Text.trim bound).toList))

section Steps

variable {α β : Type} {m : ExceptT Error (StateM CellExtent) α}
  {f : α → ExceptT Error (StateM CellExtent) β} {c c' : CellExtent} {a : α} {e : Error}

theorem run_bind_of_ok (h : m.run.run c = (.ok a, c')) :
    (m >>= f).run.run c = (f a).run.run c' := by
  rw [ExceptT.run_bind, StateT.run_bind, h]
  rfl

-- The rest of the steps is not taken.
theorem run_bind_of_error (h : m.run.run c = (.error e, c')) :
    (m >>= f).run.run c = (.error e, c') := by
  rw [ExceptT.run_bind, StateT.run_bind, h]
  rfl

theorem run_get :
    (get : ExceptT Error (StateM CellExtent) CellExtent).run.run c = (.ok c, c) := rfl

theorem run_outcome (x : Result α) :
    (liftM x : ExceptT Error (StateM CellExtent) α).run.run c = (x, c) := rfl

end Steps

variable {s : Subset} {c c' : CellExtent} {e : Error} {axis bound : String} {current n : Int}
  {calls : List Subset}

-- What a call comes to: new cells, or a reason and the cells as they were.
theorem call_eq (c : CellExtent) (s : Subset) :
    c.call s =
      match c.applySubset s with
      | .ok c' => (.ok (), c')
      | .error e => (.error e, c) := by
  unfold call narrow
  rw [run_bind_of_ok run_get]
  cases hlo : parseBound s.axis s.bounds.1 c.lo with
  | error e =>
      rw [run_bind_of_error (run_outcome _)]
      simp only [applySubset, hlo]
      rfl
  | ok lo =>
      rw [run_bind_of_ok (run_outcome _), run_bind_of_ok run_get]
      cases hhi : parseBound s.axis s.bounds.2 c.hi with
      | error e =>
          rw [run_bind_of_error (run_outcome _)]
          simp only [applySubset, hlo, hhi]
          rfl
      | ok hi =>
          rw [run_bind_of_ok (run_outcome _)]
          by_cases hlt : hi < lo
          · simp only [applySubset, hlo, hhi, if_pos hlt, Result.ok_bind]
            rfl
          · simp only [applySubset, hlo, hhi, if_neg hlt, Result.ok_bind]
            rfl

theorem call_eq_ok_iff : c.call s = (.ok (), c') ↔ c.applySubset s = .ok c' := by
  rw [call_eq]
  cases c.applySubset s <;> simp

theorem call_eq_error_iff : c.call s = (.error e, c') ↔ c.applySubset s = .error e ∧ c' = c := by
  rw [call_eq]
  cases c.applySubset s <;> simp [eq_comm]

theorem eq_getD_of_parseBound (h : parseBound axis bound current = .ok n) :
    n = (named? bound).getD current ∧ (named? bound = none ↔ OpenPoint bound) := by
  rw [parseBound_eq_ok_iff, Number.bound?] at h
  unfold named?
  by_cases hopen : OpenPoint bound
  · rw [if_pos hopen]
    rw [OpenPoint] at hopen
    rw [if_pos hopen] at h
    exact ⟨(Option.some.inj h).symm, iff_of_true rfl hopen⟩
  · rw [if_neg hopen]
    rw [OpenPoint] at hopen
    rw [if_neg hopen] at h
    rw [h]
    exact ⟨rfl, iff_of_false (Option.some_ne_none n) hopen⟩

-- The cells that a call leaves if it succeeds. It gives every bound that it does not leave open.
structure Narrowed (s : Subset) (c c' : CellExtent) : Prop where
  lo : c'.lo = (named? s.bounds.1).getD c.lo
  hi : c'.hi = (named? s.bounds.2).getD c.hi
  subset : c'.subset = some s
  ordered : c'.lo ≤ c'.hi
  lower : named? s.bounds.1 = none ↔ OpenPoint s.bounds.1
  upper : named? s.bounds.2 = none ↔ OpenPoint s.bounds.2

theorem narrowed_of_applySubset (h : c.applySubset s = .ok c') : Narrowed s c c' := by
  obtain ⟨lo, hi, hlo, hhi, hle, rfl⟩ := applySubset_eq_ok_iff.mp h
  obtain ⟨hlo, hlower⟩ := eq_getD_of_parseBound hlo
  obtain ⟨hhi, hupper⟩ := eq_getD_of_parseBound hhi
  exact ⟨hlo, hhi, rfl, hle, hlower, hupper⟩

-- A call that is refused might as well not have been made.
theorem callAll_cons_error (h : c.applySubset s = .error e) :
    c.callAll (s :: calls) = (.error e :: (c.callAll calls).1, (c.callAll calls).2) := by
  rw [callAll, call_eq_error_iff.mpr ⟨h, rfl⟩]

theorem callAll_cons_ok (h : c.applySubset s = .ok c') :
    c.callAll (s :: calls) = (.ok () :: (c'.callAll calls).1, (c'.callAll calls).2) := by
  rw [callAll, call_eq_ok_iff.mpr h]

theorem getLastD_filterMap_cons {α β : Type} (f : α → Option β) (a : α) (as : List α) (b : β) :
    ((a :: as).filterMap f).getLastD b = (as.filterMap f).getLastD ((f a).getD b) := by
  rw [List.filterMap_cons]
  cases f a with
  | none => rfl
  | some b' => exact List.getLastD_cons

-- What the calls leave is decided by those that succeeded, and by the last of them to give a bound.
structure Settled (c final : CellExtent) (done : List Subset) : Prop where
  ordered : final.lo ≤ final.hi
  lo : final.lo = (done.filterMap fun s => named? s.bounds.1).getLastD c.lo
  hi : final.hi = (done.filterMap fun s => named? s.bounds.2).getLastD c.hi
  subset : final.subset = (done.map some).getLastD c.subset
  lower : ∀ s ∈ done, named? s.bounds.1 = none ↔ OpenPoint s.bounds.1
  upper : ∀ s ∈ done, named? s.bounds.2 = none ↔ OpenPoint s.bounds.2

theorem Narrowed.settled {final : CellExtent} {done : List Subset} (h : Narrowed s c c')
    (hrest : Settled c' final done) : Settled c final (s :: done) := by
  refine ⟨hrest.ordered, ?_, ?_, ?_, List.forall_mem_cons.mpr ⟨h.lower, hrest.lower⟩,
    List.forall_mem_cons.mpr ⟨h.upper, hrest.upper⟩⟩
  · rw [getLastD_filterMap_cons, ← h.lo, hrest.lo]
  · rw [getLastD_filterMap_cons, ← h.hi, hrest.hi]
  · rw [List.map_cons, List.getLastD_cons, ← h.subset, hrest.subset]

theorem callAll_settled (h : c.lo ≤ c.hi) :
    Settled c (c.callAll calls).2 (accepted calls (c.callAll calls).1) := by
  induction calls generalizing c with
  | nil => exact ⟨h, rfl, rfl, rfl, by simp [accepted], by simp [accepted]⟩
  | cons s calls ih =>
      cases hs : c.applySubset s with
      | error e =>
          rw [callAll_cons_error hs]
          exact ih h
      | ok c' =>
          have hnarrowed := narrowed_of_applySubset hs
          rw [callAll_cons_ok hs]
          exact hnarrowed.settled (ih hnarrowed.ordered)

-- A call is all or nothing, and a history of calls keeps the bounds in order. Each bound is what
-- the last call that succeeded without leaving it open has named.
theorem narrowing_atomic (c : CellExtent) (calls : List Subset) (h : c.lo ≤ c.hi) :
    (∀ (d d' : CellExtent) (s : Subset) (e : Error),
      d.call s = (.error e, d') ↔ d.applySubset s = .error e ∧ d' = d) ∧
    (∀ (d d' : CellExtent) (s : Subset), d.call s = (.ok (), d') ↔ d.applySubset s = .ok d') ∧
    Settled c (c.callAll calls).2 (accepted calls (c.callAll calls).1) :=
  ⟨fun _ _ _ _ => call_eq_error_iff, fun _ _ _ => call_eq_ok_iff, callAll_settled h⟩

-- Between a trim and a later one that leaves the lower bound open, a text that is no cell and
-- bounds in the wrong order.
theorem narrowing_atomic_mixed :
    ∃ c calls, c.lo ≤ c.hi ∧
      accepted calls (c.callAll calls).1 = [.trim "x" "10" "*", .trim "x" "*" "\"40\""] ∧
      (c.callAll calls).2 = ⟨10, 40, some (.trim "x" "*" "\"40\"")⟩ ∧
      Settled c (c.callAll calls).2 (accepted calls (c.callAll calls).1) :=
  ⟨⟨0, 99, none⟩,
    [.trim "x" "10" "*", .trim "x" "a" "3", .trim "x" "5" "3", .trim "x" "*" "\"40\""],
    by decide, by decide +kernel, by decide +kernel, (narrowing_atomic _ _ (by decide)).2.2⟩

end Datacube.CellExtent
