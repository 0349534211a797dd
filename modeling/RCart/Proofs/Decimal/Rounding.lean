import Mathlib.Algebra.Order.Field.Power
import Mathlib.Algebra.Order.Field.Rat
import Mathlib.Tactic.FieldSimp
import Mathlib.Tactic.Linarith
import Mathlib.Tactic.NormNum
import Mathlib.Tactic.Positivity
import Mathlib.Tactic.Ring
import RCart.Decimal.Binary64

/-!
Rounding to the nearest double.

* `Binary64.IsParts`: significand and exponent of a positive double;
* `Binary64.RoundsTo`: a rational lies in the interval of a double: at most half a step away from
  it, below a power of two at most a quarter of a step, and nearer than that if the significand is
  odd;
* `Binary64.exponentFor_eq`, `roundQuotient_eq`: the exponent and the significand of the nearest
  double;
* **`Binary64.ofQuotient_of_roundsTo`**, **`ofDecimal_of_roundsTo`**: a quotient, and a decimal, in
  the interval of a double is rounded to it.
-/

namespace RCart.Binary64

/-! ### Parts -/

/-- Significand and exponent of a positive double: fifty-three bits, the first of them set unless
the exponent is the lowest there is. -/
structure IsParts (m : ℕ) (e : ℤ) : Prop where
  pos : 0 < m
  lt : m < 2 ^ 53
  least : -1074 ≤ e
  most : e ≤ 971
  normal : e = -1074 ∨ 2 ^ 52 ≤ m

/-- The exponent and fraction bits of a double, from its significand and exponent. -/
def magnitude (m : ℕ) (e : ℤ) : ℕ :=
  (e + 1074).toNat * 2 ^ 52 + m

/-- A double is made of its sign and of its other bits. -/
lemma eq_ofParts {x : Binary64} {n : ℕ} (h : n = x.bits.toNat % 2 ^ 63) :
    x = ofParts x.isNegative n := by
  have hbits := x.bits.toNat_lt
  have hsum : n + (if x.isNegative then Nat.pow 2 63 else 0) = x.bits.toNat := by
    rw [isNegative]
    by_cases hsign : 2 ^ 63 ≤ x.bits.toNat
    · simp only [Nat.pow_eq, hsign, decide_true, if_true]
      omega
    · simp only [Nat.pow_eq, hsign, decide_false, Bool.false_eq_true, if_false]
      omega
  rw [ofParts, hsum, UInt64.ofNat_toNat]

/-- A finite double has the parts that its bits say, and is made of them. -/
lemma view_finite {x : Binary64} {negative : Bool} {m : ℕ} {e : ℤ}
    (h : x.view = .finite negative m e) :
    (m = 0 ∧ e = -1074 ∨ IsParts m e) ∧ x = ofParts negative (magnitude m e) := by
  have hexponent : x.exponentBits = x.bits.toNat / 2 ^ 52 % 2 ^ 11 := rfl
  have hfraction : x.fractionBits = x.bits.toNat % 2 ^ 52 := rfl
  rw [view] at h
  split_ifs at h with htop hfirst hlow
  · obtain ⟨rfl, rfl, rfl⟩ := View.finite.inj h
    refine ⟨?_, ?_⟩
    · by_cases hzero : x.fractionBits = 0
      · exact .inl ⟨hzero, rfl⟩
      · exact .inr ⟨by omega, by omega, le_rfl, by norm_num, .inl rfl⟩
    · apply eq_ofParts
      rw [magnitude]
      omega
  · obtain ⟨rfl, rfl, rfl⟩ := View.finite.inj h
    simp only [Nat.pow_eq]
    refine ⟨.inr ⟨by omega, by omega, by omega, by omega, .inr (by omega)⟩, ?_⟩
    apply eq_ofParts
    rw [magnitude]
    omega

/-- There is one infinity of each sign. -/
lemma view_infinite {x : Binary64} {negative : Bool} (h : x.view = .infinite negative) :
    x = infinity negative := by
  have hexponent : x.exponentBits = x.bits.toNat / 2 ^ 52 % 2 ^ 11 := rfl
  have hfraction : x.fractionBits = x.bits.toNat % 2 ^ 52 := rfl
  rw [view] at h
  split_ifs at h with htop hzero hlow
  obtain rfl := View.infinite.inj h
  apply eq_ofParts
  omega

/-! ### The interval of a double -/

/-- How far the interval of a double reaches below it, in quarters of a step. -/
def reach (m : ℕ) (e : ℤ) : ℕ :=
  if m = 2 ^ 52 ∧ -1074 < e then 1 else 2

/-- A rational lies in the interval of a double. The ends of the interval belong to it when the
significand is even. -/
structure RoundsTo (m : ℕ) (e : ℤ) (q : ℚ) : Prop where
  low : (4 * m - reach m e : ℚ) * 2 ^ (e - 2) ≤ q
  high : q ≤ (4 * m + 2 : ℚ) * 2 ^ (e - 2)
  strict : m % 2 = 1 →
    (4 * m - reach m e : ℚ) * 2 ^ (e - 2) < q ∧ q < (4 * m + 2 : ℚ) * 2 ^ (e - 2)

lemma reach_le (m : ℕ) (e : ℤ) : reach m e ≤ 2 := by
  rw [reach]
  split <;> omega

lemma four_steps (e : ℤ) : (2 : ℚ) ^ e = 4 * 2 ^ (e - 2) := by
  rw [zpow_sub₀ two_ne_zero]
  norm_num
  ring

variable {m : ℕ} {e : ℤ} {q : ℚ}

/-- What rounds to a double is positive, and half of the least double at least. -/
lemma RoundsTo.least_le (h : RoundsTo m e q) (hm : IsParts m e) : (2 : ℚ) ^ (-1075 : ℤ) ≤ q := by
  have hreach : (reach m e : ℚ) ≤ 2 := by exact_mod_cast reach_le m e
  have hpos : (1 : ℚ) ≤ m := by exact_mod_cast hm.pos
  have hstep : (2 : ℚ) ^ (-1076 : ℤ) ≤ 2 ^ (e - 2) :=
    zpow_le_zpow_right₀ one_le_two (by have := hm.least; omega)
  have hquarter : (0 : ℚ) < 2 ^ (e - 2) := by positivity
  calc (2 : ℚ) ^ (-1075 : ℤ) = 2 * 2 ^ (-1076 : ℤ) := by
        rw [← zpow_one_add₀ two_ne_zero]
        norm_num
    _ ≤ 2 * 2 ^ (e - 2) := by linarith
    _ ≤ (4 * m - reach m e) * 2 ^ (e - 2) := by
        apply mul_le_mul_of_nonneg_right _ hquarter.le
        linarith
    _ ≤ q := h.low

lemma RoundsTo.lt_next (h : RoundsTo m e q) (hm : IsParts m e) : q < 2 ^ 53 * 2 ^ e := by
  have hlt : (m : ℚ) + 1 ≤ 2 ^ 53 := by exact_mod_cast hm.lt
  have hquarter : (0 : ℚ) < 2 ^ (e - 2) := by positivity
  calc q ≤ (4 * m + 2) * 2 ^ (e - 2) := h.high
    _ < 2 ^ 53 * 4 * 2 ^ (e - 2) := by
        apply mul_lt_mul_of_pos_right _ hquarter
        linarith
    _ = 2 ^ 53 * 2 ^ e := by rw [four_steps e, mul_assoc]

/-- Below the lowest significand of an exponent lies only what rounds to that significand. -/
lemma RoundsTo.of_lt_first (h : RoundsTo m e q) (hm : IsParts m e) (he : -1074 < e)
    (hq : q < 2 ^ 52 * 2 ^ e) : m = 2 ^ 52 ∧ (2 ^ 54 - 1) * 2 ^ (e - 2) ≤ q := by
  have hquarter : (0 : ℚ) < 2 ^ (e - 2) := by positivity
  have hfirst : 2 ^ 52 ≤ m := hm.normal.resolve_left he.ne'
  have hlow := h.low
  rw [four_steps e, ← mul_assoc] at hq
  have hlt : (4 * m - reach m e : ℚ) < 2 ^ 52 * 4 :=
    lt_of_mul_lt_mul_right (hlow.trans_lt hq) hquarter.le
  have hnat : 4 * m < 2 ^ 52 * 4 + reach m e := by
    have : (4 * m : ℚ) < 2 ^ 52 * 4 + reach m e := by linarith
    exact_mod_cast this
  have hreach := reach_le m e
  have heq : m = 2 ^ 52 := by omega
  refine ⟨heq, ?_⟩
  rw [reach, if_pos ⟨heq, he⟩, heq] at hlow
  norm_num at hlow ⊢
  exact hlow

/-! ### The exponent -/

lemma scaleDown_pos (num : ℕ) {den : ℕ} (hden : 0 < den) (e : ℤ) :
    0 < (scaleDown num den e).2 := by
  rw [scaleDown]
  split
  · simp only [Nat.pow_eq]
    positivity
  · exact hden

lemma scaleDown_div (num : ℕ) {den : ℕ} (hden : 0 < den) (e : ℤ) :
    ((scaleDown num den e).1 : ℚ) = num / den / 2 ^ e * (scaleDown num den e).2 := by
  have hden' : (den : ℚ) ≠ 0 := by exact_mod_cast hden.ne'
  have hstep : (2 : ℚ) ^ e ≠ 0 := by positivity
  rw [scaleDown]
  split
  · next he =>
      have hpow : (2 : ℚ) ^ e = 2 ^ e.toNat := by
        rw [← zpow_natCast, Int.toNat_of_nonneg he]
      rw [hpow] at hstep ⊢
      push_cast [Nat.pow_eq]
      field_simp
  · next he =>
      have hpow : (2 : ℚ) ^ e = (2 ^ (-e).toNat)⁻¹ := by
        rw [← zpow_natCast, Int.toNat_of_nonneg (by omega), zpow_neg, inv_inv]
      rw [hpow] at hstep ⊢
      push_cast [Nat.pow_eq]
      field_simp

/-- The binary logarithms of numerator and denominator locate a quotient within two bits. -/
lemma quotient_bounds {num den : ℕ} (hnum : 0 < num) (hden : 0 < den) :
    let guess : ℤ := num.log2 - den.log2 - 52
    (2 : ℚ) ^ 51 * 2 ^ guess < num / den ∧ (num / den : ℚ) < 2 ^ 53 * 2 ^ guess := by
  intro guess
  have hden' : (0 : ℚ) < den := by exact_mod_cast hden
  have hnumLow : (2 : ℚ) ^ num.log2 ≤ num := by exact_mod_cast Nat.log2_self_le hnum.ne'
  have hnumHigh : (num : ℚ) < 2 ^ (num.log2 + 1) := by exact_mod_cast Nat.lt_log2_self
  have hdenLow : (2 : ℚ) ^ den.log2 ≤ den := by exact_mod_cast Nat.log2_self_le hden.ne'
  have hdenHigh : (den : ℚ) < 2 ^ (den.log2 + 1) := by exact_mod_cast Nat.lt_log2_self
  have hguess : (2 : ℚ) ^ guess = 2 ^ num.log2 / 2 ^ den.log2 / 2 ^ 52 := by
    rw [zpow_sub₀ two_ne_zero, zpow_sub₀ two_ne_zero]
    norm_cast
  have hnumPos : (0 : ℚ) < 2 ^ num.log2 := by positivity
  have hdenPos : (0 : ℚ) < 2 ^ den.log2 := by positivity
  rw [hguess]
  constructor
  · rw [lt_div_iff₀ hden']
    calc (2 : ℚ) ^ 51 * (2 ^ num.log2 / 2 ^ den.log2 / 2 ^ 52) * den
        < 2 ^ 51 * (2 ^ num.log2 / 2 ^ den.log2 / 2 ^ 52) * 2 ^ (den.log2 + 1) := by
          apply mul_lt_mul_of_pos_left hdenHigh
          positivity
      _ = 2 ^ num.log2 := by
          rw [pow_succ _ den.log2]
          field_simp
      _ ≤ num := hnumLow
  · rw [div_lt_iff₀ hden']
    calc (num : ℚ) < 2 ^ (num.log2 + 1) := hnumHigh
      _ = 2 ^ 53 * (2 ^ num.log2 / 2 ^ den.log2 / 2 ^ 52) * 2 ^ den.log2 := by
          rw [pow_succ]
          field_simp
      _ ≤ 2 ^ 53 * (2 ^ num.log2 / 2 ^ den.log2 / 2 ^ 52) * den := by
          apply mul_le_mul_of_nonneg_left hdenLow
          positivity

/-- Whether a scaled quotient has fewer than fifty-three bits before the point. -/
lemma scaleDown_div_lt_iff (num : ℕ) {den : ℕ} (hden : 0 < den) (e : ℤ) :
    (scaleDown num den e).1 / (scaleDown num den e).2 < Nat.pow 2 52
      ↔ (num / den : ℚ) < 2 ^ 52 * 2 ^ e := by
  have hscaled := scaleDown_div num hden e
  have hpos := scaleDown_pos num hden e
  have hpos' : (0 : ℚ) < (scaleDown num den e).2 := by exact_mod_cast hpos
  rw [Nat.div_lt_iff_lt_mul hpos, Nat.pow_eq, ← Nat.cast_lt (α := ℚ), hscaled]
  push_cast
  rw [mul_lt_mul_iff_left₀ hpos', div_lt_iff₀ (by positivity)]
  norm_num

/-- The exponent for a quotient leaves fifty-three bits before the point, unless it is the lowest
there is. -/
lemma exponentFor_spec {num den : ℕ} (hnum : 0 < num) (hden : 0 < den) :
    let e := exponentFor num den
    (e = -1074 ∨ (2 : ℚ) ^ 52 * 2 ^ e ≤ num / den) ∧ (num / den : ℚ) < 2 ^ 53 * 2 ^ e
      ∧ -1074 ≤ e := by
  obtain ⟨hlow, hhigh⟩ := quotient_bounds hnum hden
  intro e
  have he : e = max (if (num / den : ℚ) < 2 ^ 52 * 2 ^ ((num.log2 - den.log2 - 52 : ℤ))
      then (num.log2 - den.log2 - 52 : ℤ) - 1 else (num.log2 - den.log2 - 52 : ℤ)) (-1074) := by
    simp only [e, exponentFor, scaleDown_div_lt_iff num hden]
  generalize (num.log2 - den.log2 - 52 : ℤ) = guess at hlow hhigh he
  -- before it is raised to the lowest, the exponent is the one that leaves fifty-three bits
  obtain ⟨chosen, hmax, hfirst, hlast⟩ : ∃ chosen, e = max chosen (-1074)
      ∧ (2 : ℚ) ^ 52 * 2 ^ chosen ≤ num / den ∧ (num / den : ℚ) < 2 ^ 53 * 2 ^ chosen := by
    split_ifs at he with hsmall
    · have hbefore : (2 : ℚ) ^ (guess - 1) = 2 ^ guess / 2 := by
        rw [zpow_sub₀ two_ne_zero, zpow_one]
      exact ⟨guess - 1, he, by rw [hbefore]; linarith, by rw [hbefore]; linarith⟩
    · exact ⟨guess, he, not_lt.mp hsmall, hhigh⟩
  have hmono : (2 : ℚ) ^ chosen ≤ 2 ^ e := zpow_le_zpow_right₀ one_le_two (hmax ▸ le_max_left _ _)
  refine ⟨?_, by linarith, hmax ▸ le_max_right _ _⟩
  obtain h | h := max_choice chosen (-1074)
  · exact .inr (by rw [hmax, h]; exact hfirst)
  · exact .inl (hmax.trans h)

/-- There is only one such exponent. -/
lemma exponentFor_eq {num den : ℕ} (hnum : 0 < num) (hden : 0 < den) {e : ℤ} (he : -1074 ≤ e)
    (hlow : e = -1074 ∨ (2 : ℚ) ^ 52 * 2 ^ e ≤ num / den)
    (hhigh : (num / den : ℚ) < 2 ^ 53 * 2 ^ e) : exponentFor num den = e := by
  obtain ⟨hlow', hhigh', hleast⟩ := exponentFor_spec hnum hden
  -- neither exponent can be above the other
  have hle {a b : ℤ} (ha : -1074 ≤ a) (hb : b = -1074 ∨ (2 : ℚ) ^ 52 * 2 ^ b ≤ num / den)
      (hlt : (num / den : ℚ) < 2 ^ 53 * 2 ^ a) : b ≤ a := by
    by_contra hab
    obtain hb | hb := hb
    · omega
    · have hstep : (2 : ℚ) ^ (a + 1) ≤ 2 ^ b := zpow_le_zpow_right₀ one_le_two (by omega)
      rw [zpow_add_one₀ two_ne_zero] at hstep
      linarith
  exact le_antisymm (hle he hlow' hhigh) (hle hleast hlow hhigh')

/-! ### The significand -/

/-- A quotient at most half away from a natural is rounded to it, from exactly half away if it is
even. -/
lemma roundQuotient_eq {n d k : ℕ} (hd : 0 < d) (hlow : 2 * (k * d) ≤ 2 * n + d)
    (hhigh : 2 * n ≤ 2 * (k * d) + d)
    (hodd : k % 2 = 1 → 2 * (k * d) < 2 * n + d ∧ 2 * n < 2 * (k * d) + d) :
    roundQuotient n d = k := by
  have hn : n = n / d * d + n % d := (Nat.div_add_mod' n d).symm
  have hr : n % d < d := Nat.mod_lt n hd
  set w := n / d with hw
  set r := n % d with hr'
  rw [roundQuotient, ← hw, ← hr']
  -- the natural is the whole part of the quotient, or the next one
  have hwk : w ≤ k := by
    by_contra h
    have hmul : (k + 1) * d ≤ w * d := Nat.mul_le_mul_right d (by omega)
    rw [Nat.add_mul, Nat.one_mul] at hmul
    omega
  have hkw : k ≤ w + 1 := by
    by_contra h
    have hmul : (w + 2) * d ≤ k * d := Nat.mul_le_mul_right d (by omega)
    rw [Nat.add_mul] at hmul
    omega
  obtain rfl | rfl : k = w ∨ k = w + 1 := by omega
  · split_ifs <;> omega
  · rw [Nat.add_mul, Nat.one_mul] at hlow hhigh hodd
    split_ifs <;> omega

/-- What a scaled quotient is rounded to, when the quotient is known to be near. -/
lemma roundQuotient_scaleDown (num : ℕ) {den : ℕ} (hden : 0 < den) (e : ℤ) {k : ℕ}
    (hlow : (k - 1 / 2 : ℚ) * 2 ^ e ≤ num / den) (hhigh : (num / den : ℚ) ≤ (k + 1 / 2) * 2 ^ e)
    (hodd : k % 2 = 1 →
      (k - 1 / 2 : ℚ) * 2 ^ e < num / den ∧ (num / den : ℚ) < (k + 1 / 2) * 2 ^ e) :
    roundQuotient (scaleDown num den e).1 (scaleDown num den e).2 = k := by
  have hscaled := scaleDown_div num hden e
  have hpos := scaleDown_pos num hden e
  generalize scaleDown num den e = scaled at hscaled hpos
  obtain ⟨n, d⟩ := scaled
  have hd : (0 : ℚ) < d := by exact_mod_cast hpos
  have hstep : (0 : ℚ) < 2 ^ e := by positivity
  have hn : (n : ℚ) = num / den / 2 ^ e * d := hscaled
  rw [← le_div_iff₀ hstep] at hlow
  rw [← div_le_iff₀ hstep] at hhigh
  rw [← lt_div_iff₀ hstep, ← div_lt_iff₀ hstep] at hodd
  generalize (num / den / 2 ^ e : ℚ) = r at hn hlow hhigh hodd
  refine roundQuotient_eq hpos ?_ ?_ fun h => ⟨?_, ?_⟩
  · have : (2 * (k * d) : ℚ) ≤ 2 * n + d := by
      rw [hn]
      nlinarith
    exact_mod_cast this
  · have : (2 * n : ℚ) ≤ 2 * (k * d) + d := by
      rw [hn]
      nlinarith
    exact_mod_cast this
  · have : (2 * (k * d) : ℚ) < 2 * n + d := by
      rw [hn]
      nlinarith [(hodd h).1]
    exact_mod_cast this
  · have : (2 * n : ℚ) < 2 * (k * d) + d := by
      rw [hn]
      nlinarith [(hodd h).2]
    exact_mod_cast this

/-! ### Nearest doubles -/

/-- The bits of the nearest double, before they are cut off at the infinities. -/
lemma exponentFor_roundQuotient (hm : IsParts m e) {num den : ℕ} (hnum : 0 < num)
    (hden : 0 < den) (h : RoundsTo m e (num / den)) :
    (exponentFor num den + 1074).toNat * 2 ^ 52
        + roundQuotient (scaleDown num den (exponentFor num den)).1
          (scaleDown num den (exponentFor num den)).2
      = magnitude m e := by
  have hstep := four_steps e
  have hquarter : (0 : ℚ) < 2 ^ (e - 2) := by positivity
  have hleast := hm.least
  by_cases hfirst : e = -1074 ∨ (2 : ℚ) ^ 52 * 2 ^ e ≤ num / den
  · have hexponent := exponentFor_eq hnum hden hleast hfirst (h.lt_next hm)
    have hreach : (reach m e : ℚ) ≤ 2 := by exact_mod_cast reach_le m e
    have hround : roundQuotient (scaleDown num den e).1 (scaleDown num den e).2 = m := by
      refine roundQuotient_scaleDown num hden e ?_ ?_ fun hodd => ⟨?_, ?_⟩
      · rw [hstep]
        nlinarith [h.low]
      · rw [hstep]
        nlinarith [h.high]
      · rw [hstep]
        nlinarith [(h.strict hodd).1]
      · rw [hstep]
        nlinarith [(h.strict hodd).2]
    rw [hexponent, hround, magnitude]
  · -- just below a power of two the exponent is one less, and rounding carries into it
    rw [not_or, not_le] at hfirst
    obtain ⟨rfl, hlow⟩ := h.of_lt_first hm (by omega) hfirst.2
    have hbefore : (2 : ℚ) ^ e = 2 * 2 ^ (e - 1) := by
      rw [zpow_sub₀ two_ne_zero, zpow_one]
      ring
    have hhalf : (2 : ℚ) ^ (e - 1) = 2 * 2 ^ (e - 2) := by linarith
    have hexponent : exponentFor num den = e - 1 := by
      refine exponentFor_eq hnum hden (by omega) (.inr ?_) ?_
      · rw [hhalf]
        linarith
      · rw [hbefore] at hfirst
        linarith [hfirst.2]
    have hround : roundQuotient (scaleDown num den (e - 1)).1 (scaleDown num den (e - 1)).2
        = 2 ^ 53 := by
      refine roundQuotient_scaleDown num hden (e - 1) ?_ ?_ fun hodd => ?_
      · rw [hhalf]
        push_cast
        linarith
      · rw [hbefore] at hfirst
        push_cast
        nlinarith [hfirst.2]
      · norm_num at hodd
    rw [hexponent, hround, magnitude]
    omega

/-- A quotient in the interval of a double is rounded to it. -/
theorem ofQuotient_of_roundsTo (hm : IsParts m e) {num den : ℕ} (hnum : 0 < num) (hden : 0 < den)
    (h : RoundsTo m e (num / den)) (negative : Bool) :
    ofQuotient negative num den = ofParts negative (magnitude m e) := by
  have hbits := exponentFor_roundQuotient hm hnum hden h
  have hfinite : ¬ 0x7ff0000000000000 ≤ magnitude m e := by
    have := hm.lt
    have := hm.most
    rw [magnitude]
    omega
  rw [ofQuotient, if_neg (by omega)]
  simp only [Nat.pow_eq, hbits, hfinite, if_false]

/-! ### Decimals -/

/-- The number of digits of a natural locates it among the powers of ten. -/
lemma length_toDigits_bounds {n : ℕ} (h : 0 < n) :
    10 ^ ((Nat.toDigits 10 n).length - 1) ≤ n ∧ n < 10 ^ (Nat.toDigits 10 n).length := by
  have hpos : 0 < (Nat.toDigits 10 n).length := Nat.length_toDigits_pos
  refine ⟨?_, (Nat.length_toDigits_le_iff (by norm_num) hpos).mp le_rfl⟩
  obtain hone | hmore : (Nat.toDigits 10 n).length = 1 ∨ 1 < (Nat.toDigits 10 n).length := by omega
  · rw [hone]
    exact h
  · by_contra hlt
    have hlength := (Nat.length_toDigits_le_iff (b := 10) (n := n) (by norm_num)
      (k := (Nat.toDigits 10 n).length - 1) (by omega)).mpr (not_le.mp hlt)
    omega

/-- The same for a decimal. -/
lemma decimal_bounds {digits : ℕ} (h : 0 < digits) (exponent : ℤ) :
    (10 : ℚ) ^ ((Nat.toDigits 10 digits).length + exponent - 1) ≤ digits * 10 ^ exponent
      ∧ (digits : ℚ) * 10 ^ exponent < 10 ^ ((Nat.toDigits 10 digits).length + exponent) := by
  obtain ⟨hlow, hhigh⟩ := length_toDigits_bounds h
  have hpos : 0 < (Nat.toDigits 10 digits).length := Nat.length_toDigits_pos
  have hstep : (0 : ℚ) < 10 ^ exponent := by positivity
  generalize (Nat.toDigits 10 digits).length = length at hlow hhigh hpos
  have hlow' : (10 : ℚ) ^ (length - 1) ≤ digits := by exact_mod_cast hlow
  have hhigh' : (digits : ℚ) < 10 ^ length := by exact_mod_cast hhigh
  constructor
  · calc (10 : ℚ) ^ ((length : ℤ) + exponent - 1)
        = 10 ^ (length - 1) * 10 ^ exponent := by
          rw [← zpow_natCast, ← zpow_add₀ (by norm_num)]
          congr 1
          omega
      _ ≤ digits * 10 ^ exponent := mul_le_mul_of_nonneg_right hlow' hstep.le
  · calc (digits : ℚ) * 10 ^ exponent
        < 10 ^ length * 10 ^ exponent := mul_lt_mul_of_pos_right hhigh' hstep
      _ = 10 ^ ((length : ℤ) + exponent) := by
          rw [zpow_add₀ (by norm_num), zpow_natCast]

/-- Half of the least double is above the decimals that are taken for zero. -/
lemma tiny_lt : (10 : ℚ) ^ (-401 : ℤ) < 2 ^ (-1075 : ℤ) := by
  have hnat : 2 ^ 1075 < 10 ^ 401 := by decide +kernel
  have hcast : (2 : ℚ) ^ 1075 < 10 ^ 401 := by exact_mod_cast hnat
  rw [zpow_neg, zpow_neg]
  exact inv_strictAnti₀ (by positivity) hcast

/-- The doubles end below the decimals that are taken for infinities. -/
lemma huge_lt : (2 : ℚ) ^ 53 * 2 ^ (971 : ℤ) < 10 ^ (400 : ℤ) := by
  have hnat : 2 ^ 53 * 2 ^ 971 < 10 ^ 400 := by decide +kernel
  exact_mod_cast hnat

/-- What rounds to a double has its first digit well inside the powers of ten that are told
apart. -/
lemma RoundsTo.length_bounds (hm : IsParts m e) {digits : ℕ} {exponent : ℤ}
    (h : RoundsTo m e (digits * 10 ^ exponent)) :
    0 < digits ∧ -400 ≤ (Nat.toDigits 10 digits).length + exponent
      ∧ (Nat.toDigits 10 digits).length + exponent ≤ 400 := by
  have hleast := h.least_le hm
  have hpositive : 0 < digits := by
    by_contra hzero
    obtain rfl : digits = 0 := by omega
    have : (0 : ℚ) < 2 ^ (-1075 : ℤ) := by positivity
    rw [Nat.cast_zero, zero_mul] at hleast
    linarith
  obtain ⟨hlow, hhigh⟩ := decimal_bounds hpositive exponent
  refine ⟨hpositive, ?_, ?_⟩
  · by_contra hsmall
    have hten : (10 : ℚ) ^ ((Nat.toDigits 10 digits).length + exponent) ≤ 10 ^ (-401 : ℤ) :=
      zpow_le_zpow_right₀ (by norm_num) (by omega)
    linarith [tiny_lt]
  · by_contra hlarge
    have hten : (10 : ℚ) ^ (400 : ℤ) ≤ 10 ^ ((Nat.toDigits 10 digits).length + exponent - 1) :=
      zpow_le_zpow_right₀ (by norm_num) (by omega)
    have hstep : (2 : ℚ) ^ e ≤ 2 ^ (971 : ℤ) := zpow_le_zpow_right₀ one_le_two hm.most
    have hbelow : (digits : ℚ) * 10 ^ exponent < 10 ^ (400 : ℤ) := by
      calc (digits : ℚ) * 10 ^ exponent < 2 ^ 53 * 2 ^ e := h.lt_next hm
        _ ≤ 2 ^ 53 * 2 ^ (971 : ℤ) := mul_le_mul_of_nonneg_left hstep (by positivity)
        _ < 10 ^ (400 : ℤ) := huge_lt
    linarith

/-- A decimal in the interval of a double is rounded to it. -/
theorem ofDecimal_of_roundsTo (hm : IsParts m e) {digits : ℕ} {exponent : ℤ}
    (h : RoundsTo m e (digits * 10 ^ exponent)) (negative : Bool) :
    ofDecimal negative digits exponent = ofParts negative (magnitude m e) := by
  obtain ⟨hpositive, hleast, hmost⟩ := h.length_bounds hm
  rw [ofDecimal, if_neg (by omega), if_neg (by omega)]
  split
  · next hexponent =>
      have hpow : (10 : ℚ) ^ exponent = 10 ^ exponent.toNat := by
        rw [← zpow_natCast, Int.toNat_of_nonneg hexponent]
      have hten : 0 < Nat.pow 10 exponent.toNat := Nat.pow_pos (by norm_num)
      refine ofQuotient_of_roundsTo hm (Nat.mul_pos hpositive hten) one_pos ?_ negative
      rw [hpow] at h
      push_cast [Nat.pow_eq, div_one]
      exact h
  · next hexponent =>
      have hpow : (10 : ℚ) ^ exponent = (10 ^ (-exponent).toNat)⁻¹ := by
        rw [← zpow_natCast, Int.toNat_of_nonneg (by omega), zpow_neg, inv_inv]
      have hten : 0 < Nat.pow 10 (-exponent).toNat := Nat.pow_pos (by norm_num)
      refine ofQuotient_of_roundsTo hm hpositive hten ?_ negative
      rw [hpow, ← div_eq_mul_inv] at h
      push_cast [Nat.pow_eq]
      exact h

end RCart.Binary64
