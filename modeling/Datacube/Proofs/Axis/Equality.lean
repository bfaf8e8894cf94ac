import Datacube.Proofs.Axis.Definition
import Datacube.Proofs.Axis.Resolution

-- Equality of axes. Two axes that carry numbers and texts may agree in one of them only, so a chain
-- of equal axes can change from one to the other.
namespace Datacube

open Number (Same)

namespace Axis

variable {a b c : Axis}

-- The bounds of numbers agree, where the two zeros are the same number.
def AgreeInNumbers (a b : Axis) : Prop :=
  ∃ p q, a.numeric = some p ∧ b.numeric = some q ∧ Same p.lo q.lo ∧ Same p.hi q.hi

def AgreeInTexts (a b : Axis) : Prop :=
  ∃ p, a.textual = some p ∧ b.textual = some p

theorem AgreeInNumbers.symm (h : a.AgreeInNumbers b) : b.AgreeInNumbers a := by
  obtain ⟨p, q, hp, hq, hlo, hhi⟩ := h
  exact ⟨q, p, hq, hp, hlo.symm, hhi.symm⟩

theorem AgreeInNumbers.trans (h : a.AgreeInNumbers b) (h' : b.AgreeInNumbers c) :
    a.AgreeInNumbers c := by
  obtain ⟨p, q, hp, hq, hlo, hhi⟩ := h
  obtain ⟨q', r, hq', hr, hlo', hhi'⟩ := h'
  obtain rfl := Option.some.inj (hq.symm.trans hq')
  exact ⟨p, r, hp, hr, hlo.trans hlo', hhi.trans hhi'⟩

theorem AgreeInNumbers.ne_none (h : a.AgreeInNumbers b) : a.numeric ≠ none ∧ b.numeric ≠ none := by
  obtain ⟨p, q, hp, hq, -⟩ := h
  simp [hp, hq]

theorem AgreeInTexts.symm (h : a.AgreeInTexts b) : b.AgreeInTexts a := by
  obtain ⟨p, hp, hq⟩ := h
  exact ⟨p, hq, hp⟩

theorem AgreeInTexts.trans (h : a.AgreeInTexts b) (h' : b.AgreeInTexts c) : a.AgreeInTexts c := by
  obtain ⟨p, hp, hq⟩ := h
  obtain ⟨q, hq', hr⟩ := h'
  obtain rfl := Option.some.inj (hq.symm.trans hq')
  exact ⟨p, hp, hr⟩

theorem AgreeInTexts.ne_none (h : a.AgreeInTexts b) : a.textual ≠ none ∧ b.textual ≠ none := by
  obtain ⟨p, hp, hq⟩ := h
  simp [hp, hq]

theorem same_eq_true_iff : same a b = true ↔
    a.name = b.name ∧ a.kind = b.kind ∧ (a.AgreeInNumbers b ∨ a.AgreeInTexts b) := by
  rw [same, Bool.and_eq_true, Bool.and_eq_true, Bool.or_eq_true, beq_iff_eq, beq_iff_eq, and_assoc]
  refine and_congr_right fun _ => and_congr_right fun _ => or_congr ?_ ?_
  · unfold AgreeInNumbers
    cases a.numeric <;> cases b.numeric <;> simp [Number.beq_iff_same]
  · unfold AgreeInTexts
    cases a.textual with
    | none => simp
    | some p =>
        cases b.textual with
        | none => simp
        | some q => simpa using eq_comm

-- The pairs of bounds that an axis carries: one of them, or on a time axis the numbers at least.
structure Carrying (a : Axis) : Prop where
  some : a.numeric.isSome ∨ a.textual.isSome
  one : a.kind ≠ .time → a.numeric = none ∨ a.textual = none
  time : a.kind = .time → a.numeric.isSome

theorem carrying_of_bounded {d : AxisDef} {kind : AxisKind} (h : d.Bounded kind) :
    (d.axis kind).Carrying := by
  obtain ⟨-, -, hpair, hmeasured⟩ := AxisDef.bounded_iff.mp h
  refine ⟨?_, fun hkind => ?_, fun hkind => hmeasured ?_⟩
  · rcases hpair with ⟨hnumeric, -⟩ | ⟨htextual, -⟩ | rfl
    · exact .inl hnumeric
    · exact .inr htextual
    · exact .inl (hmeasured (by decide))
  · rcases hpair with ⟨-, hnone⟩ | ⟨-, hnone⟩ | htime
    · exact .inr hnone.textual?_eq
    · exact .inl hnone.numeric?_eq
    · exact absurd htime hkind
  · rintro rfl
    cases hkind

theorem Built.carrying (h : a.Built) : a.Carrying := by
  induction h with
  | made h =>
      obtain ⟨-, kind, -, -, hbounded, rfl⟩ := make_eq_ok_iff.mp h
      exact carrying_of_bounded hbounded
  | described crsSet _ ih => exact ⟨ih.some, ih.one, ih.time⟩
  | sized _ hb ih =>
      obtain ⟨-, _, _, _, -, -, -, rfl⟩ := setResolution_eq_ok hb
      exact ⟨ih.some, ih.one, ih.time⟩

theorem Built.agree_self (h : a.Built) : a.AgreeInNumbers a ∨ a.AgreeInTexts a := by
  rcases h.carrying.some with hnumeric | htextual
  · obtain ⟨p, hp⟩ := Option.isSome_iff_exists.mp hnumeric
    obtain ⟨hlo, hhi, -⟩ := h.checked.bounds p hp
    exact .inl ⟨p, p, hp, hp, Number.same_self (Number.ne_notANumber_of_isFinite hlo),
      Number.same_self (Number.ne_notANumber_of_isFinite hhi)⟩
  · obtain ⟨p, hp⟩ := Option.isSome_iff_exists.mp htextual
    exact .inr ⟨p, hp, hp⟩

-- An agreement in one way and another in the other way do not add up.
theorem same_trans_iff (hab : same a b = true) (hbc : same b c = true) : same a c = true ↔
    a.AgreeInNumbers b ∧ b.AgreeInNumbers c ∨ a.AgreeInTexts b ∧ b.AgreeInTexts c := by
  obtain ⟨hname, hkind, hagree⟩ := same_eq_true_iff.mp hab
  obtain ⟨hname', hkind', hagree'⟩ := same_eq_true_iff.mp hbc
  rw [same_eq_true_iff]
  constructor
  · rintro ⟨-, -, hnumbers | htexts⟩
    · rcases hagree with h | h
      · exact .inl ⟨h, h.symm.trans hnumbers⟩
      · rcases hagree' with h' | h'
        · exact .inl ⟨hnumbers.trans h'.symm, h'⟩
        · exact .inr ⟨h, h'⟩
    · rcases hagree with h | h
      · rcases hagree' with h' | h'
        · exact .inl ⟨h, h'⟩
        · exact .inr ⟨htexts.trans h'.symm, h'⟩
      · exact .inr ⟨h, h.symm.trans htexts⟩
  · rintro (⟨h, h'⟩ | ⟨h, h'⟩)
    · exact ⟨hname.trans hname', hkind.trans hkind', .inl (h.trans h')⟩
    · exact ⟨hname.trans hname', hkind.trans hkind', .inr (h.trans h')⟩

-- Equality of axes is reflexive and symmetric. It is transitive through an axis that carries one
-- pair of bounds, which every axis does that is not one of time, and otherwise exactly where both
-- equalities hold in numbers or both in texts.
theorem same_equivalence (a b c : Axis) (ha : a.Built) (hb : b.Built) :
    same a a = true ∧ (same a b = true → same b a = true) ∧
    (same a b = true → same b c = true →
      (same a c = true ↔
        a.AgreeInNumbers b ∧ b.AgreeInNumbers c ∨ a.AgreeInTexts b ∧ b.AgreeInTexts c) ∧
      (b.kind ≠ .time ∨ b.textual = none → same a c = true)) := by
  refine ⟨same_eq_true_iff.mpr ⟨rfl, rfl, ha.agree_self⟩, fun h => ?_, fun hab hbc =>
    ⟨same_trans_iff hab hbc, fun hone => (same_trans_iff hab hbc).mpr ?_⟩⟩
  · obtain ⟨hname, hkind, hagree⟩ := same_eq_true_iff.mp h
    exact same_eq_true_iff.mpr ⟨hname.symm, hkind.symm, hagree.imp .symm .symm⟩
  · obtain ⟨-, -, hagree⟩ := same_eq_true_iff.mp hab
    obtain ⟨-, -, hagree'⟩ := same_eq_true_iff.mp hbc
    rcases hone.elim hb.carrying.one .inr with hnone | hnone
    · exact .inr ⟨hagree.resolve_left fun h => h.ne_none.2 hnone,
        hagree'.resolve_left fun h => h.ne_none.1 hnone⟩
    · exact .inl ⟨hagree.resolve_right fun h => h.ne_none.2 hnone,
        hagree'.resolve_right fun h => h.ne_none.1 hnone⟩

-- Axes of time with the same days: two with dates, and one without between them.
theorem same_equivalence_undated :
    ∃ a b c, ofDef (dated 364 "2010-01-01" "2010-12-31") = .ok a ∧
      ofDef { dated 364 "" "" with strLo := none, strHi := none } = .ok b ∧
      ofDef (dated 364 "2011-01-01" "2011-12-31") = .ok c ∧ a.Built ∧ b.Built ∧
      same a a = true ∧ same a b = true ∧ same b a = true ∧ same b c = true ∧ b.textual = none ∧
      same a c = true := by
  obtain ⟨a, b, c, ha, hb, hc, hab, hbc, hnone⟩ : ∃ a b c,
      ofDef (dated 364 "2010-01-01" "2010-12-31") = .ok a ∧
      ofDef { dated 364 "" "" with strLo := none, strHi := none } = .ok b ∧
      ofDef (dated 364 "2011-01-01" "2011-12-31") = .ok c ∧ same a b = true ∧ same b c = true ∧
      b.textual = none :=
    ⟨_, _, _, rfl, rfl, rfl, by decide +kernel, by decide +kernel, rfl⟩
  obtain ⟨hself, hsymm, htrans⟩ := same_equivalence a b c (.made ha) (.made hb)
  exact ⟨a, b, c, ha, hb, hc, .made ha, .made hb, hself, hab, hsymm hab, hbc, hnone,
    (htrans hab hbc).2 (.inr hnone)⟩

-- The first two have the same days, and the last two the same dates.
theorem same_not_transitive :
    ∃ a b c, ofDef (dated 364 "2010-01-01" "2010-12-31") = .ok a ∧
      ofDef (dated 364 "2011-01-01" "2011-12-31") = .ok b ∧
      ofDef (dated 365 "2011-01-01" "2011-12-31") = .ok c ∧
      same a b = true ∧ same b c = true ∧ same a c = false :=
  ⟨_, _, _, rfl, rfl, rfl, by decide +kernel, by decide +kernel, by decide +kernel⟩

end Axis

end Datacube
