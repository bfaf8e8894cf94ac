import Datacube.Error
import Mathlib.Data.List.Forall2

-- When a computation that may be refused succeeds, step by step.
namespace Datacube.Result

variable {ε α β : Type}

@[simp] theorem bind_eq_ok {x : Except ε α} {f : α → Except ε β} {b : β} :
    (x >>= f) = .ok b ↔ ∃ a, x = .ok a ∧ f a = .ok b := by
  cases x <;> simp [bind, Except.bind]

@[simp] theorem map_eq_ok {x : Except ε α} {f : α → β} {b : β} :
    (f <$> x) = .ok b ↔ ∃ a, x = .ok a ∧ f a = b := by
  cases x <;> simp [Functor.map, Except.map]

@[simp] theorem pure_eq_ok {a b : α} : (pure a : Except ε α) = .ok b ↔ a = b := by
  simp [pure, Except.pure]

@[simp] theorem throw_eq_ok {e : ε} {b : α} : (throw e : Except ε α) = .ok b ↔ False := by
  simp [throw, throwThe, MonadExceptOf.throw]

@[simp] theorem throw_bind {e : ε} {f : α → Except ε β} :
    (throw e >>= f : Except ε β) = throw e := rfl

@[simp] theorem ok_bind {a : α} {f : α → Except ε β} : (Except.ok a >>= f) = f a := rfl

-- A guard in front of the rest of a computation.
@[simp] theorem ite_throw_eq_ok {p : Prop} [Decidable p] {e : ε} {x : Except ε α} {b : α} :
    (if p then throw e else x) = .ok b ↔ ¬p ∧ x = .ok b := by
  by_cases hp : p <;> simp [hp]

@[simp] theorem ite_error_eq_ok {p : Prop} [Decidable p] {e : ε} {x : Except ε α} {b : α} :
    (if p then .error e else x) = .ok b ↔ ¬p ∧ x = .ok b := by
  by_cases hp : p <;> simp [hp]

@[simp] theorem exists_unit_eq_ok {x : Except ε Unit} : (∃ u, x = .ok u) ↔ x = .ok () :=
  ⟨fun ⟨⟨⟩, h⟩ => h, fun h => ⟨_, h⟩⟩

section Refusals

variable {P Q : ε → Prop} {x y : Except ε α}

-- Whatever the computation is refused with has the property.
def Refuses (P : ε → Prop) (x : Except ε α) : Prop :=
  ∀ e, x = .error e → P e

theorem Refuses.ok (a : α) : Refuses P (.ok a) :=
  nofun

theorem Refuses.error {e : ε} (h : P e) : Refuses P (.error e : Except ε α) := by
  rintro _ ⟨⟩
  exact h

theorem Refuses.bind {f : α → Except ε β} (hx : Refuses P x)
    (hf : ∀ a, x = .ok a → Refuses P (f a)) : Refuses P (x >>= f) := by
  cases x with
  | ok a => exact hf a rfl
  | error e => exact .error (hx e rfl)

theorem Refuses.ite {p : Prop} [Decidable p] (hx : p → Refuses P x) (hy : ¬p → Refuses P y) :
    Refuses P (if p then x else y) := by
  split
  · next hp => exact hx hp
  · next hp => exact hy hp

-- A guard in front of the rest of a computation.
theorem Refuses.guard {p : Prop} [Decidable p] {e : ε} (he : p → P e) (hx : ¬p → Refuses P x) :
    Refuses P (if p then throw e else x) :=
  .ite (fun hp => .error (he hp)) hx

theorem Refuses.mono (h : Refuses P x) (hPQ : ∀ e, P e → Q e) : Refuses Q x :=
  fun e he => hPQ e (h e he)

end Refusals

theorem mapM_eq_ok_iff {f : α → Except ε β} {as : List α} {bs : List β} :
    as.mapM f = .ok bs ↔ List.Forall₂ (fun a b => f a = .ok b) as bs := by
  induction as generalizing bs with
  | nil => cases bs <;> simp
  | cons a as ih =>
      simp only [List.mapM_cons, bind_eq_ok, pure_eq_ok, ih]
      constructor
      · rintro ⟨b, hb, rest, hrest, rfl⟩
        exact .cons hb hrest
      · rintro (_ | ⟨hb, hrest⟩)
        exact ⟨_, hb, _, hrest, rfl⟩

theorem exists_mem_of_forall₂ {R : α → β → Prop} {as : List α} {bs : List β}
    (h : List.Forall₂ R as bs) : ∀ b ∈ bs, ∃ a ∈ as, R a b := by
  induction h with
  | nil => simp
  | cons hab _ ih =>
      simp only [List.mem_cons, forall_eq_or_imp]
      exact ⟨⟨_, .inl rfl, hab⟩, fun b hb => (ih b hb).imp fun _ h => ⟨.inr h.1, h.2⟩⟩

theorem exists_forall₂_iff {R : α → β → Prop} {as : List α} :
    (∃ bs, List.Forall₂ R as bs) ↔ ∀ a ∈ as, ∃ b, R a b := by
  induction as with
  | nil => simp
  | cons a as ih =>
      simp only [List.forall₂_cons_left_iff, List.mem_cons, forall_eq_or_imp, ← ih]
      constructor
      · rintro ⟨_, b, bs, hab, hrest, rfl⟩
        exact ⟨⟨b, hab⟩, bs, hrest⟩
      · rintro ⟨⟨b, hab⟩, bs, hrest⟩
        exact ⟨_, b, bs, hab, hrest, rfl⟩

theorem forall₂_imp_mem {R S : α → β → Prop} {as : List α} {bs : List β}
    (h : List.Forall₂ R as bs) (hRS : ∀ a b, a ∈ as → R a b → S a b) : List.Forall₂ S as bs := by
  induction h with
  | nil => exact .nil
  | cons hab _ ih =>
      exact .cons (hRS _ _ List.mem_cons_self hab)
        (ih fun a b ha => hRS a b (List.mem_cons_of_mem _ ha))

-- Results that are picked by what they come from are the same if that is.
theorem filter_eq_of_forall₂ {R : α → β → Prop} {p : α → Bool} {q : β → Bool}
    {as as' : List α} {bs bs' : List β} (hR : Relator.RightUnique R)
    (hpq : ∀ a b, R a b → (p a ↔ q b)) (hbs : List.Forall₂ R as bs)
    (hbs' : List.Forall₂ R as' bs') (hfilter : as'.filter p = as.filter p) :
    bs'.filter q = bs.filter q := by
  have hpicked := List.rel_filter (fun a b hab => hpq a b hab) hbs
  have hpicked' := List.rel_filter (fun a b hab => hpq a b hab) hbs'
  rw [hfilter] at hpicked'
  exact List.right_unique_forall₂' hR hpicked' hpicked

theorem forM_eq_ok_iff {f : α → Except ε Unit} {as : List α} :
    as.forM f = .ok () ↔ ∀ a ∈ as, f a = .ok () := by
  induction as with
  | nil => simp [List.forM]
  | cons a as ih =>
      rw [List.forM, bind_eq_ok]
      simp only [List.mem_cons, forall_eq_or_imp]
      constructor
      · rintro ⟨⟨⟩, ha, has⟩
        exact ⟨ha, ih.mp has⟩
      · rintro ⟨ha, has⟩
        exact ⟨(), ha, ih.mpr has⟩

-- A property of the state that every step of a fold keeps.
theorem foldlM_preserves {f : β → α → Except ε β} {P : β → Prop} {as : List α} {b b' : β}
    (hstep : ∀ a ∈ as, ∀ c c', P c → f c a = .ok c' → P c') (hb : P b)
    (h : as.foldlM f b = .ok b') : P b' := by
  induction as generalizing b with
  | nil =>
      rw [List.foldlM_nil, pure_eq_ok] at h
      exact h ▸ hb
  | cons a as ih =>
      rw [List.foldlM_cons, bind_eq_ok] at h
      obtain ⟨c, hc, hrest⟩ := h
      have hnext := hstep a (by simp) b c hb hc
      exact ih (fun a' ha' => hstep a' (by simp [ha'])) hnext hrest

section Reordering

variable {κ : Type} {key : α → κ} {f : β → α → Except ε β} {a : α} {as bs : List α} {b b' : β}

-- Steps on different keys may be taken in either order.
def Exchanges (key : α → κ) (f : β → α → Except ε β) : Prop :=
  ∀ a a' b c b', key a ≠ key a' → f b a = .ok c → f c a' = .ok b' →
    ∃ c', f b a' = .ok c' ∧ f c' a = .ok b'

-- A step may be taken before all steps on other keys.
theorem Exchanges.step_first (hf : Exchanges key f) (hkeys : ∀ a' ∈ as, key a' ≠ key a)
    (h : (as ++ a :: bs).foldlM f b = .ok b') :
    ∃ c, f b a = .ok c ∧ (as ++ bs).foldlM f c = .ok b' := by
  induction as generalizing b with
  | nil => simpa only [List.nil_append, List.foldlM_cons, bind_eq_ok] using h
  | cons a' as ih =>
      simp only [List.cons_append, List.foldlM_cons, bind_eq_ok] at h
      obtain ⟨c, hc, hrest⟩ := h
      obtain ⟨hkey, hkeys⟩ := List.forall_mem_cons.mp hkeys
      obtain ⟨d, hd, hrest⟩ := ih hkeys hrest
      obtain ⟨c', hc', hd'⟩ := hf a' a b c d hkey hc hd
      exact ⟨c', hc', by rw [List.cons_append, List.foldlM_cons, hd', ok_bind, hrest]⟩

-- Only the order of the steps on each key matters.
theorem Exchanges.foldlM_eq_ok [DecidableEq κ] (hf : Exchanges key f)
    (hkeys : ∀ k, bs.filter (key · = k) = as.filter (key · = k)) (h : as.foldlM f b = .ok b') :
    bs.foldlM f b = .ok b' := by
  induction bs generalizing as b with
  | nil =>
      cases as with
      | nil => exact h
      | cons a as => simpa using hkeys (key a)
  | cons a bs ih =>
      -- The first of the steps on its key is the first one in both orders.
      obtain ⟨before, after, rfl, hbefore, -, -⟩ := List.filter_eq_cons_iff.mp
        ((hkeys (key a)).symm.trans (List.filter_cons_of_pos (by simp)))
      simp only [decide_eq_true_eq] at hbefore
      obtain ⟨c, hc, hrest⟩ := hf.step_first hbefore h
      rw [List.foldlM_cons, hc, ok_bind]
      refine ih (fun k => ?_) hrest
      have hk := hkeys k
      by_cases hkey : key a = k
      · subst hkey
        have hnone : before.filter (key · = key a) = [] := by simpa using hbefore
        simpa [hnone] using hk
      · simpa [hkey] using hk

end Reordering

end Datacube.Result
