import Datacube.Number.Real
import Datacube.Proofs.Number.Decimal
import Datacube.Proofs.Number.Numeral

-- A finite double is read back from its shortest text.
namespace Datacube.Number

open Float.Model (Format UnpackedFloat)
open Float.Model.UnpackedFloat

section Interval

variable {m : Nat} {e : ℤ} {q : ℚ}

-- The interval of a double in units of its last place. Below a power of two it is half as wide.
structure Around (m : Nat) (e : ℤ) (x : ℚ) : Prop where
  lower : m - 1 / 2 ≤ x
  upper : x ≤ m + 1 / 2
  inner : ¬Even m → m - 1 / 2 < x ∧ x < m + 1 / 2
  power : m = 2 ^ 52 → -1074 < e → m - 1 / 4 ≤ x

theorem around_of_contains (hm : 0 < m) (hq : (roundingInterval m e).Contains q) :
    Around m e (q / 2 ^ e) := by
  have hpos : (0 : ℚ) < 2 ^ e := by positivity
  have hunit : (2 : ℚ) ^ (e - 2) = 2 ^ e / 4 := by
    rw [zpow_sub₀ two_ne_zero]
    norm_num
  have hclosed : (roundingInterval m e).closed = decide (m % 2 = 0) := rfl
  have hupper : ((roundingInterval m e).upper : ℚ) * 2 ^ (e - 2) = (m + 1 / 2) * 2 ^ e := by
    rw [hunit]
    simp only [roundingInterval]
    push_cast
    ring
  have hlower : (m - 1 / 2) * 2 ^ e ≤ ((roundingInterval m e).lower : ℚ) * 2 ^ (e - 2) := by
    have hnat : 4 * m ≤ (roundingInterval m e).lower + 2 := by
      simp only [roundingInterval]
      split <;> omega
    have hcast : (4 * m : ℚ) ≤ (roundingInterval m e).lower + 2 := by exact_mod_cast hnat
    rw [hunit]
    nlinarith
  have hlow : (roundingInterval m e).lower * 2 ^ (e - 2) ≤ q := hq.lower
  have hhigh : q ≤ (roundingInterval m e).upper * 2 ^ (e - 2) := hq.upper
  refine ⟨?_, ?_, fun hodd => ?_, fun hpower hnormal => ?_⟩
  · rw [le_div_iff₀ hpos]
    linarith
  · rw [div_le_iff₀ hpos]
    linarith
  · have hopen : (roundingInterval m e).closed = false := by
      rw [hclosed, decide_eq_false_iff_not, ← Nat.even_iff]
      exact hodd
    obtain ⟨hlow, hhigh⟩ : (roundingInterval m e).lower * 2 ^ (e - 2) < q ∧
        q < (roundingInterval m e).upper * 2 ^ (e - 2) := hq.inner hopen
    rw [lt_div_iff₀ hpos, div_lt_iff₀ hpos]
    exact ⟨by linarith, by linarith⟩
  · have hexact : (roundingInterval m e).lower = 4 * m - 1 := by
      have hbit : twoTo 52 = 2 ^ 52 := rfl
      simp only [roundingInterval, hbit, if_pos (And.intro hpower hnormal)]
    have hcast : ((roundingInterval m e).lower : ℚ) = 4 * m - 1 := by
      rw [hexact, Nat.cast_sub (by omega)]
      push_cast
      ring
    rw [hcast, hunit] at hlow
    rw [le_div_iff₀ hpos]
    linarith

-- Everything in the interval of a double is rounded to it. Below a power of two the grid is the
-- next finer one.
theorem Around.rounded (h : Canonical m e) (hq : Around m e (q / 2 ^ e)) :
    Rounded q (m * 2 ^ e) := by
  have hpos : (0 : ℚ) < 2 ^ e := by positivity
  have hmantissa : (m : ℚ) + 1 ≤ 2 ^ 53 := by exact_mod_cast h.lt
  have hend : (2 : ℚ) ^ (e + 53) = 2 ^ 53 * 2 ^ e := two_zpow_add e 53
  have hstart : (2 : ℚ) ^ (e + 52) = 2 ^ 52 * 2 ^ e := two_zpow_add e 52
  have hbelow : q < 2 ^ (e + 53) := by
    rw [hend, ← div_lt_iff₀ hpos]
    linarith [hq.upper]
  by_cases hgrid : -1074 < e ∧ q < 2 ^ (e + 52)
  · obtain ⟨hnormal, hshort⟩ := hgrid
    have hleading : (2 : ℚ) ^ 52 ≤ m := by exact_mod_cast h.normal hnormal
    rw [hstart, ← div_lt_iff₀ hpos] at hshort
    obtain rfl : m = 2 ^ 52 := by
      have hlt : (m : ℚ) < 2 ^ 52 + 1 := by linarith [hq.lower]
      have hlt : m < 2 ^ 52 + 1 := by exact_mod_cast hlt
      have hge := h.normal hnormal
      omega
    have hpower := hq.power rfl hnormal
    have hfiner : q / 2 ^ (e - 1) = 2 * (q / 2 ^ e) := by
      rw [zpow_sub_one₀ two_ne_zero]
      field_simp
    push_cast at hpower
    refine ⟨e - 1, 2 ^ 53, ⟨?_, by omega, fun _ => ?_⟩, ⟨?_, ?_, fun _ => ?_⟩, ?_⟩
    · rw [show e - 1 + 53 = e + 52 by ring, hstart, ← div_lt_iff₀ hpos]
      exact hshort
    · rw [show e - 1 + 52 = e + (51 : Nat) by push_cast; ring, two_zpow_add e 51,
        ← le_div_iff₀ hpos]
      linarith
    · rw [hfiner]
      push_cast
      linarith
    · rw [hfiner]
      push_cast
      linarith
    · exact ⟨2 ^ 52, by norm_num⟩
    · rw [zpow_sub_one₀ two_ne_zero]
      push_cast
      ring
  · refine ⟨e, m, ⟨hbelow, h.least, fun hnormal => ?_⟩, ⟨hq.lower, hq.upper, fun htie => ?_⟩, rfl⟩
    · exact not_lt.mp fun hshort => hgrid ⟨hnormal, hshort⟩
    · by_contra hodd
      rw [Int.even_coe_nat] at hodd
      obtain ⟨hlow, hhigh⟩ := hq.inner hodd
      rcases htie with htie | htie
      · rw [Int.cast_natCast] at htie
        linarith
      · rw [Int.cast_natCast] at htie
        linarith

-- The shortest decimal of a double is rounded to it.
theorem shortest_rounded (h : Canonical m e) : Rounded (shortest m e).toRat (m * 2 ^ e) :=
  (around_of_contains h.pos (shortest_contains h)).rounded h

theorem shortest_rounds (h : Canonical m e) (s : Sign) :
    Rounds (withSign s (shortest m e).toRat) (withSign s (m * 2 ^ e)) :=
  ⟨s, _, _, (shortest m e).toRat_nonneg, rfl, shortest_rounded h,
    by rw [min_eq_left h.lt_limit.le]⟩

end Interval

section Digits

theorem isDigit_of_mem_toDigits {n : Nat} {c : Char} (h : c ∈ Nat.toDigits 10 n) :
    isDigit c = true := by
  have hdigit : c.isDigit = true := Nat.isDigit_of_mem_toDigits (by decide) (by decide) h
  simpa [isDigit, Char.isDigit, Char.le_def] using hdigit

theorem ofDigits_eq (cs : List Char) : ofDigits cs = Nat.ofDigitChars 10 cs 0 := rfl

theorem ofDigits_zeros (count : Nat) (cs : List Char) :
    ofDigits (List.replicate count '0' ++ cs) = ofDigits cs := by
  rw [ofDigits_eq, Nat.ofDigitChars_append, Nat.ofDigitChars_replicate_zero, Nat.mul_zero]
  rfl

-- Digits in front of a possible point and behind it.
structure Positional (text : List Char) (digits scale : Nat) (whole fraction : List Char) :
    Prop where
  text_eq : text = whole ++ (if scale = 0 then [] else '.' :: fraction)
  whole_ne : whole ≠ []
  whole_digits : ∀ c ∈ whole, isDigit c = true
  fraction_digits : ∀ c ∈ fraction, isDigit c = true
  fraction_length : fraction.length = scale
  digits_eq : ofDigits (whole ++ fraction) = digits

theorem positional_placePoint (n scale : Nat) :
    ∃ whole fraction,
      Positional (Decimal.placePoint (Nat.toDigits 10 n) scale) n scale whole fraction := by
  have hvalue : ofDigits (Nat.toDigits 10 n) = n := Nat.ofDigitChars_ten_toDigits
  have hdigits : ∀ c ∈ Nat.toDigits 10 n, isDigit c = true := fun c => isDigit_of_mem_toDigits
  have hnonempty := @Nat.toDigits_ne_nil n 10
  generalize Nat.toDigits 10 n = digits at hvalue hdigits hnonempty
  unfold Decimal.placePoint
  by_cases hscale : scale = 0
  · refine ⟨digits, [], ?_, hnonempty, hdigits, by simp, by simp [hscale], by simpa using hvalue⟩
    simp [hscale]
  · -- The padded digits are cut so that the scale is left behind the point.
    rw [if_neg hscale]
    let padded := List.replicate (scale + 1 - digits.length) '0' ++ digits
    have hlength : scale < padded.length := by
      simp only [padded, List.length_append, List.length_replicate]
      omega
    have hpadded : ∀ c ∈ padded, isDigit c = true := by
      intro c hc
      rcases List.mem_append.mp hc with hc | hc
      · rw [List.eq_of_mem_replicate hc]
        decide
      · exact hdigits c hc
    refine ⟨padded.take (padded.length - scale), padded.drop (padded.length - scale), ?_, ?_, ?_,
      ?_, ?_, ?_⟩
    · rw [if_neg hscale]
      exact List.append_assoc _ ['.'] _
    · rw [Ne, List.take_eq_nil_iff]
      rintro (hnone | hnone)
      · omega
      · rw [hnone] at hlength
        simp at hlength
    · exact fun c hc => hpadded c (List.mem_of_mem_take hc)
    · exact fun c hc => hpadded c (List.mem_of_mem_drop hc)
    · rw [List.length_drop]
      omega
    · rw [List.take_append_drop, ofDigits_zeros, hvalue]

end Digits

section Reading

variable {text whole fraction : List Char} {digits scale : Nat}

theorem Positional.parseNumeral (h : Positional text digits scale whole fraction) :
    parseNumeral text = some ⟨whole, fraction, 0⟩ := by
  have hpoint : isDigit '.' = false := by decide
  have htake : text.takeWhile isDigit = whole := by
    rw [h.text_eq, List.takeWhile_append_of_pos h.whole_digits]
    split <;> simp [hpoint]
  have hdrop : text.dropWhile isDigit = if scale = 0 then [] else '.' :: fraction := by
    rw [h.text_eq, List.dropWhile_append_of_pos h.whole_digits]
    split <;> simp [hpoint]
  have hfraction : fraction.takeWhile isDigit = fraction ∧ fraction.dropWhile isDigit = [] := by
    constructor
    · exact List.takeWhile_eq_self_iff.mpr h.fraction_digits
    · exact List.dropWhile_eq_nil_iff.mpr h.fraction_digits
  have hwhole : whole.isEmpty = false := by simpa using h.whole_ne
  rw [Number.parseNumeral, htake, hdrop]
  by_cases hscale : scale = 0
  · have hnone : fraction = [] := List.length_eq_zero_iff.mp (h.fraction_length.trans hscale)
    simp [hscale, hwhole, hnone, parsePower]
  · simp [hscale, hwhole, hfraction, parsePower]

-- The numeral that the text of a decimal stands for.
theorem Positional.toFloat (h : Positional text digits scale whole fraction) :
    Numeral.toFloat ⟨whole, fraction, 0⟩ =
      Float.ofScientific digits (decide (0 < scale)) scale := by
  have hpower : (0 : Int) - fraction.length = -(scale : Int) := by
    rw [h.fraction_length]
    omega
  have hsign : decide (-(scale : Int) < 0) = decide (0 < scale) := by
    congr 1
    simp
  simp only [Numeral.toFloat, hpower, h.digits_eq, Int.natAbs_neg, Int.natAbs_natCast, hsign]

-- A digit comes first, so that the text has no sign of its own.
theorem Positional.exists_digit (h : Positional text digits scale whole fraction) :
    ∃ c rest, text = c :: rest ∧ isDigit c = true := by
  obtain ⟨c, rest, hwhole⟩ := List.exists_cons_of_ne_nil h.whole_ne
  refine ⟨c, rest ++ (if scale = 0 then [] else '.' :: fraction), ?_, ?_⟩
  · rw [h.text_eq, hwhole, List.cons_append]
  · exact h.whole_digits c (by simp [hwhole])

theorem ne_of_isDigit {c d : Char} (hc : isDigit c = true) (hd : isDigit d = false) : c ≠ d := by
  rintro rfl
  exact absurd (hd.symm.trans hc) Bool.false_ne_true

theorem Positional.takeSign (h : Positional text digits scale whole fraction) (negative : Bool) :
    takeSign (if negative then '-' :: text else text) = (negative, text) := by
  cases negative with
  | true => rfl
  | false =>
      obtain ⟨c, rest, rfl, hc⟩ := h.exists_digit
      rw [if_neg Bool.false_ne_true, Number.takeSign]
      · intro cs hcs
        exact ne_of_isDigit hc (by decide) (List.cons.inj hcs).1
      · intro cs hcs
        exact ne_of_isDigit hc (by decide) (List.cons.inj hcs).1

theorem Positional.parseFloat (h : Positional text digits scale whole fraction) (negative : Bool) :
    parseFloat (String.ofList (if negative then '-' :: text else text)) =
      some (if negative then -Float.ofScientific digits (decide (0 < scale)) scale
        else Float.ofScientific digits (decide (0 < scale)) scale) := by
  -- As a digit comes first, the text is no word.
  obtain ⟨c, rest, hfirst, hc⟩ := h.exists_digit
  have hlower : c.toLower = c := by
    have hrange : '0' ≤ c ∧ c ≤ '9' := by simpa [isDigit] using hc
    rw [Char.toLower, dif_neg]
    rintro ⟨hupper, -⟩
    exact absurd (UInt32.le_trans hupper (Char.le_def.mp hrange.2)) (by decide)
  have hword : ∀ d cs, isDigit d = false →
      Text.lowerAscii (String.ofList text) ≠ String.ofList (d :: cs) := by
    intro d cs hd heq
    rw [Text.lowerAscii, String.ofList_inj, String.toList_ofList, hfirst, List.map_cons,
      hlower] at heq
    exact ne_of_isDigit hc hd (List.cons.inj heq).1
  have hinf : Text.lowerAscii (String.ofList text) ≠ "inf" := hword 'i' ['n', 'f'] (by decide)
  have hinfinity : Text.lowerAscii (String.ofList text) ≠ "infinity" :=
    hword 'i' ['n', 'f', 'i', 'n', 'i', 't', 'y'] (by decide)
  have hnan : Text.lowerAscii (String.ofList text) ≠ "nan" := hword 'n' ['a', 'n'] (by decide)
  rw [Number.parseFloat, String.toList_ofList, h.takeSign]
  simp only [hinf, hinfinity, hnan, or_self, if_false, h.parseNumeral, Option.map_some, h.toFloat]

end Reading

section RoundTrip

theorem Canonical.eq_of_value {m m' : Nat} {e e' : ℤ} (h : Canonical m e) (h' : Canonical m' e')
    (heq : (m : ℚ) * 2 ^ e = m' * 2 ^ e') : m = m' ∧ e = e' := by
  rcases lt_trichotomy e e' with hlt | rfl | hgt
  · exact absurd heq (h.lt_of_exponent h' hlt).ne
  · have hunit : (2 : ℚ) ^ e ≠ 0 := by positivity
    exact ⟨by exact_mod_cast mul_right_cancel₀ hunit heq, rfl⟩
  · exact absurd heq.symm (h'.lt_of_exponent h hgt).ne

-- A positive double is known from what it is worth.
theorem eq_finite_of_value {u : UnpackedFloat} (hu : Proper u) {m : Nat} {e : ℤ}
    (h : Canonical m e) (heq : value u = m * 2 ^ e) : u = .finite .positive m e h.pos := by
  have hpos := h.value_pos
  have hlt := h.lt_limit
  cases hu with
  | infinity s =>
      cases s with
      | positive => exact absurd heq hlt.ne'
      | negative =>
          simp only [value, withSign] at heq
          linarith [limit_pos]
  | zero s => exact absurd heq hpos.ne
  | finite s h' =>
      cases s with
      | positive =>
          obtain ⟨rfl, rfl⟩ := h'.eq_of_value h heq
          rfl
      | negative =>
          simp only [value, withSign] at heq
          linarith [h'.value_pos]

theorem numeralPower_scale (scale : Nat) :
    numeralPower (decide (0 < scale)) scale = (10 ^ scale)⁻¹ := by
  cases scale with
  | zero => simp [numeralPower]
  | succ scale => simp [numeralPower]

-- The numeral of a double's shortest decimal stands for the double.
theorem parts_shortest {m : Nat} {e : ℤ} (h : Canonical m e) {d : Decimal}
    (hd : d = Decimal.ofScientific false (shortest m e)) :
    parts (Float.ofScientific d.digits.natAbs (decide (0 < d.scale)) d.scale) =
      .finite .positive m e h.pos := by
  have hdigits : ((d.digits.natAbs : Nat) : ℚ) = d.digits := by
    have hnonneg : 0 ≤ d.digits := by
      rw [hd]
      exact Int.natCast_nonneg _
    rw [← Int.cast_natCast, Int.natAbs_of_nonneg hnonneg]
  have hvalue : (d.digits.natAbs : ℚ) * numeralPower (decide (0 < d.scale)) d.scale =
      (shortest m e).toRat := by
    rw [numeralPower_scale, hdigits, ← div_eq_mul_inv]
    have hrat := Decimal.toRat_ofScientific false (shortest m e)
    rwa [if_neg Bool.false_ne_true, ← hd] at hrat
  have hnear := near_ofScientific d.digits.natAbs (decide (0 < d.scale)) d.scale
  rw [hvalue] at hnear
  exact eq_finite_of_value (proper_of_parts hnear.number) h
    (hnear.rounds.unique (shortest_rounds h .positive))

theorem parseFloat_zero : parseFloat "0" = some (Float.ofBits 0) := by decide +kernel

theorem parseFloat_minusZero : parseFloat "-0" = some (Float.ofBits 0x8000000000000000) := by
  decide +kernel

-- The shortest decimal with the sign of the double.
theorem parseFloat_signed {x : Float} {s : Sign} {m : Nat} {e : ℤ} {hm : 0 < m}
    (hx : parts x = .finite s m e hm) {d : Decimal}
    (hd : d = Decimal.ofScientific false (shortest m e)) :
    parseFloat (String.ofList (if s matches .negative
      then '-' :: Decimal.placePoint (Nat.toDigits 10 d.digits.natAbs) d.scale
      else Decimal.placePoint (Nat.toDigits 10 d.digits.natAbs) d.scale)) = some x := by
  have hcanonical := canonical_of_parts hx
  have hnumber : parts x ≠ .notANumber := by
    rw [hx]
    exact UnpackedFloat.noConfusion
  have hread := parts_shortest hcanonical hd
  obtain ⟨whole, fraction, hpositional⟩ := positional_placePoint d.digits.natAbs d.scale
  rw [hpositional.parseFloat]
  generalize Float.ofScientific d.digits.natAbs (decide (0 < d.scale)) d.scale = y at hread ⊢
  cases s with
  | positive => exact congrArg some (eq_of_parts hnumber (hx.trans hread.symm)).symm
  | negative =>
      have hneg : parts (-y) = .finite .negative m e hm := by
        rw [parts_neg, hread]
        exact stored_finite .negative hcanonical
      exact congrArg some (eq_of_parts hnumber (hx.trans hneg.symm)).symm

-- The text of a finite double is read as the same double.
theorem parseFloat_floatText {x : Float} (hx : x.isFinite = true) :
    parseFloat (floatText x) = some x := by
  have hnumber : parts x ≠ .notANumber := ne_notANumber_of_isFinite hx
  have hfinite : (parts x).isFinite = true := hx
  unfold floatText
  cases hparts : parts x with
  | notANumber | infinity s =>
      rw [hparts] at hfinite
      exact absurd hfinite Bool.false_ne_true
  | zero s =>
      cases s with
      | positive =>
          have hzero : x = Float.ofBits 0 := eq_of_parts hnumber hparts
          rw [hzero]
          exact parseFloat_zero
      | negative =>
          have hzero : x = Float.ofBits 0x8000000000000000 := eq_of_parts hnumber hparts
          rw [hzero]
          exact parseFloat_minusZero
  | finite s m e hm =>
      have hsigned := parseFloat_signed hparts rfl
      cases s with
      | positive => exact hsigned
      | negative => exact hsigned

end RoundTrip

end Datacube.Number
