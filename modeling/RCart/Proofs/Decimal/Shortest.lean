import Mathlib.Tactic.LinearCombination
import RCart.Decimal.Shortest
import RCart.Proofs.Decimal.Rounding

/-!
The shortest decimal of a double lies in its interval.

* `Scaled.Measures`: a double and its interval on a scale, in units of a power of ten;
* `Scaled.Measures.roundsTo`: a point of the scale that lies in the interval is rounded to the
  double;
* `Scaled.Measures.neighbour?_isSome`: on a grid finer than the interval, the search succeeds;
* **`shortest_spec`**: the search ends on one of its grids, with a decimal that is rounded to the
  double.
-/

namespace RCart.Decimal

open Binary64 (IsParts RoundsTo reach)

variable {m : ℕ} {e k : ℤ} {s : Scaled}

/-! ### Scales -/

/-- A scale has a double and its interval, in units of a power of ten. -/
structure Scaled.Measures (s : Scaled) (m : ℕ) (e k : ℤ) : Prop where
  unit_pos : 0 < s.unit
  value : (s.value : ℚ) * 10 ^ k = m * 2 ^ e * s.unit
  low : (s.low : ℚ) * 10 ^ k = (4 * m - reach m e) * 2 ^ (e - 2) * s.unit
  high : (s.high : ℚ) * 10 ^ k = (4 * m + 2) * 2 ^ (e - 2) * s.unit
  closed : s.closed = (m % 2 == 0)

lemma measures_ofParts (hm : 0 < m) (e : ℤ) : (Scaled.ofParts m e).Measures m e 0 := by
  have hreach : reach m e ≤ 4 * m := by
    have := Binary64.reach_le m e
    omega
  have hsteps := Binary64.four_steps e
  rw [Scaled.ofParts]
  split
  · next he =>
      have hpow : (2 : ℚ) ^ (e - 2) = 2 ^ (e - 2).toNat := by
        rw [← zpow_natCast, Int.toNat_of_nonneg (by omega)]
      refine ⟨one_pos, ?_, ?_, ?_, rfl⟩
      · rw [hsteps, hpow]
        push_cast [Nat.pow_eq]
        ring
      · rw [hpow]
        change (((4 * m - reach m e) * 2 ^ (e - 2).toNat : ℕ) : ℚ) * _ = _
        push_cast [Nat.cast_sub hreach]
        ring
      · rw [hpow]
        push_cast [Nat.pow_eq]
        ring
  · next he =>
      have hunit : (2 : ℚ) ^ (e - 2) * 2 ^ (2 - e).toNat = 1 := by
        rw [← zpow_natCast, Int.toNat_of_nonneg (by omega), ← zpow_add₀ two_ne_zero]
        norm_num
      refine ⟨Nat.pow_pos two_pos, ?_, ?_, ?_, rfl⟩
      · rw [hsteps]
        push_cast [Nat.pow_eq]
        linear_combination (-4 * m : ℚ) * hunit
      · change (((4 * m - reach m e : ℕ) : ℚ)) * _ = _
        push_cast [Nat.pow_eq, Nat.cast_sub hreach]
        linear_combination (reach m e - 4 * m : ℚ) * hunit
      · push_cast [Nat.pow_eq]
        linear_combination (-(4 * m + 2) : ℚ) * hunit

lemma Scaled.Measures.inUnitsOf (h : s.Measures m e 0) (k : ℤ) :
    (s.inUnitsOf k).Measures m e k := by
  obtain ⟨hunit, hvalue, hlow, hhigh, hclosed⟩ := h
  rw [zpow_zero, mul_one] at hvalue hlow hhigh
  rw [Scaled.inUnitsOf]
  split
  · next hk =>
      have hpow : (10 : ℚ) ^ k = 10 ^ k.toNat := by
        rw [← zpow_natCast, Int.toNat_of_nonneg hk]
      refine ⟨Nat.mul_pos hunit (Nat.pow_pos (by norm_num)), ?_, ?_, ?_, hclosed⟩
      all_goals
        rw [hpow]
        push_cast [Nat.pow_eq]
        first | rw [hvalue] | rw [hlow] | rw [hhigh]
        ring
  · next hk =>
      have hpow : (10 : ℚ) ^ (-k).toNat * 10 ^ k = 1 := by
        rw [← zpow_natCast, Int.toNat_of_nonneg (by omega), ← zpow_add₀ (by norm_num)]
        norm_num
      refine ⟨hunit, ?_, ?_, ?_, hclosed⟩
      all_goals
        push_cast [Nat.pow_eq]
        rw [mul_assoc, hpow, mul_one]
        assumption

/-! ### Points of a scale -/

/-- A point of the scale that lies in the interval is rounded to the double. -/
lemma Scaled.Measures.roundsTo (h : s.Measures m e k) {n : ℕ}
    (hn : s.contains (n * s.unit) = true) : RoundsTo m e (n * 10 ^ k) := by
  have hunit : (0 : ℚ) < s.unit := by exact_mod_cast h.unit_pos
  have hten : (0 : ℚ) < 10 ^ k := by positivity
  have hpoint : (n * 10 ^ k : ℚ) * s.unit = ((n * s.unit : ℕ) : ℚ) * 10 ^ k := by
    push_cast
    ring
  -- the ends of the interval compare with the point as they do on the scale
  have hle {p q : ℕ} (hpq : p ≤ q) : (p : ℚ) * 10 ^ k ≤ q * 10 ^ k :=
    mul_le_mul_of_nonneg_right (by exact_mod_cast hpq) hten.le
  have hlt {p q : ℕ} (hpq : p < q) : (p : ℚ) * 10 ^ k < q * 10 ^ k :=
    mul_lt_mul_of_pos_right (by exact_mod_cast hpq) hten
  rw [Scaled.contains, h.closed] at hn
  split at hn
  · next heven =>
      obtain ⟨hlow, hhigh⟩ := Bool.and_eq_true_iff.mp hn
      have hlow := hle (of_decide_eq_true hlow)
      have hhigh := hle (of_decide_eq_true hhigh)
      rw [h.low, ← hpoint] at hlow
      rw [h.high, ← hpoint] at hhigh
      refine ⟨le_of_mul_le_mul_right hlow hunit, le_of_mul_le_mul_right hhigh hunit, fun hodd => ?_⟩
      rw [beq_iff_eq] at heven
      omega
  · obtain ⟨hlow, hhigh⟩ := Bool.and_eq_true_iff.mp hn
    have hlow := hlt (of_decide_eq_true hlow)
    have hhigh := hlt (of_decide_eq_true hhigh)
    rw [h.low, ← hpoint] at hlow
    rw [h.high, ← hpoint] at hhigh
    have hlow := lt_of_mul_lt_mul_right hlow hunit.le
    have hhigh := lt_of_mul_lt_mul_right hhigh hunit.le
    exact ⟨hlow.le, hhigh.le, fun _ => ⟨hlow, hhigh⟩⟩

/-- What lies between the ends of the interval lies in it. -/
lemma Scaled.contains_of_lt {point : ℕ} (hlow : s.low < point) (hhigh : point < s.high) :
    s.contains point = true := by
  rw [Scaled.contains]
  split
  · simp [hlow.le, hhigh.le]
  · simp [hlow, hhigh]

/-- The neighbour that is found lies in the interval. -/
lemma Scaled.contains_of_neighbour? {n : ℕ} (h : s.neighbour? k = some n) :
    (s.inUnitsOf k).contains (n * (s.inUnitsOf k).unit) = true := by
  simp only [Scaled.neighbour?] at h
  split_ifs at h with hupper hlower
  · obtain rfl := Option.some.inj h
    exact (Bool.and_eq_true_iff.mp hupper).1
  · obtain rfl := Option.some.inj h
    exact hlower

/-- On a grid finer than the interval one of the neighbours lies in it. -/
lemma Scaled.Measures.neighbour?_isSome (h : s.Measures m e 0)
    (hfine : (10 : ℚ) ^ k < (reach m e + 2) * 2 ^ (e - 2)) :
    ∃ n, s.neighbour? k = some n := by
  have ht := h.inUnitsOf k
  simp only [Scaled.neighbour?]
  generalize s.inUnitsOf k = t at ht
  have hten : (0 : ℚ) < 10 ^ k := by positivity
  have hunit : (0 : ℚ) < t.unit := by exact_mod_cast ht.unit_pos
  have hstep : (0 : ℚ) < 2 ^ (e - 2) := by positivity
  have hreach : (0 : ℚ) < reach m e := by
    rw [reach]
    split <;> norm_num
  have hsteps := Binary64.four_steps e
  -- on the scale, the double is between the ends, and the ends are more than a unit apart
  have hlow : t.low < t.value := by
    have hlt : (t.low : ℚ) * 10 ^ k < t.value * 10 ^ k := by
      rw [ht.low, ht.value, hsteps]
      nlinarith [mul_pos (mul_pos hreach hstep) hunit]
    exact_mod_cast lt_of_mul_lt_mul_right hlt hten.le
  have hhigh : t.value < t.high := by
    have hlt : (t.value : ℚ) * 10 ^ k < t.high * 10 ^ k := by
      rw [ht.high, ht.value, hsteps]
      nlinarith [mul_pos hstep hunit]
    exact_mod_cast lt_of_mul_lt_mul_right hlt hten.le
  have hwide : t.low + t.unit < t.high := by
    have hlt : ((t.low + t.unit : ℕ) : ℚ) * 10 ^ k < t.high * 10 ^ k := by
      push_cast
      rw [add_mul, ht.low, ht.high]
      nlinarith [mul_lt_mul_of_pos_right hfine hunit]
    exact_mod_cast lt_of_mul_lt_mul_right hlt hten.le
  have hdivision := Nat.div_add_mod' t.value t.unit
  have hrest := Nat.mod_lt t.value ht.unit_pos
  have hupper : (t.value / t.unit + 1) * t.unit = t.value / t.unit * t.unit + t.unit := by
    rw [Nat.add_mul, Nat.one_mul]
  cases hfits : t.contains (t.value / t.unit * t.unit) with
  | true =>
      split
      · exact ⟨_, rfl⟩
      · exact ⟨_, by rw [if_pos rfl]⟩
  | false =>
      -- the lower neighbour is not above the lower end, so the upper one lies in between
      have hend : t.value / t.unit * t.unit ≤ t.low := by
        by_contra hgreater
        have hcontained := Scaled.contains_of_lt (not_le.mp hgreater) (by omega : _ < t.high)
        rw [hfits] at hcontained
        cases hcontained
      have hcontained : t.contains ((t.value / t.unit + 1) * t.unit) = true :=
        Scaled.contains_of_lt (by omega) (by omega)
      exact ⟨t.value / t.unit + 1, by simp [hcontained]⟩

/-! ### The first digit -/

lemma digitCount_bounds {n : ℕ} (h : 0 < n) :
    0 < digitCount n ∧ 10 ^ (digitCount n - 1) ≤ n ∧ n < 10 ^ digitCount n :=
  ⟨Nat.length_toDigits_pos, Binary64.length_toDigits_bounds h⟩

/-- The first digit of a quotient stands for a power of ten that is not above it. -/
lemma ten_pow_leadingExponent_le {num den : ℕ} (hnum : 0 < num) (hden : 0 < den) :
    (10 : ℚ) ^ leadingExponent num den * den ≤ num := by
  have hden' : (0 : ℚ) < den := by exact_mod_cast hden
  rw [leadingExponent]
  split
  · next hle =>
      obtain ⟨hpos, hlow, -⟩ := digitCount_bounds (Nat.div_pos hle hden)
      have hpow : (10 : ℚ) ^ ((digitCount (num / den) : ℤ) - 1)
          = ((10 ^ (digitCount (num / den) - 1) : ℕ) : ℚ) := by
        push_cast
        rw [← zpow_natCast]
        congr 1
        omega
      have hmul : 10 ^ (digitCount (num / den) - 1) * den ≤ num :=
        (Nat.mul_le_mul_right den hlow).trans (Nat.div_mul_le_self num den)
      rw [hpow]
      exact_mod_cast hmul
  · next hgt =>
      obtain ⟨hpos, -, hhigh⟩ := digitCount_bounds (Nat.div_pos (not_le.mp hgt).le hnum)
      simp only
      generalize digitCount (den / num) = places at hpos hhigh
      split
      · next hexact =>
          have hpow : (10 : ℚ) ^ (1 - places : ℤ) * 10 ^ (places - 1) = 1 := by
            rw [← zpow_natCast, ← zpow_add₀ (by norm_num)]
            have hzero : (1 - places : ℤ) + (places - 1 : ℕ) = 0 := by omega
            rw [hzero, zpow_zero]
          have heq : (num : ℚ) * 10 ^ (places - 1) = den := by exact_mod_cast hexact
          rw [← heq]
          exact (by linear_combination (num : ℚ) * hpow :
            (10 : ℚ) ^ (1 - places : ℤ) * (num * 10 ^ (places - 1)) = num).le
      · have hpow : (10 : ℚ) ^ (-places : ℤ) * 10 ^ places = 1 := by
          rw [← zpow_natCast, ← zpow_add₀ (by norm_num), neg_add_cancel, zpow_zero]
        have hlt : den < 10 ^ places * num := (Nat.div_lt_iff_lt_mul hnum).mp hhigh
        have hlt' : (den : ℚ) ≤ 10 ^ places * num := by exact_mod_cast hlt.le
        calc (10 : ℚ) ^ (-places : ℤ) * den ≤ 10 ^ (-places : ℤ) * (10 ^ places * num) :=
              mul_le_mul_of_nonneg_left hlt' (by positivity)
          _ = num := by linear_combination (num : ℚ) * hpow

/-! ### The search -/

/-- Seventeen digits are finer than the interval of any double. -/
lemma grid_lt_interval (hm : IsParts m e) (hk : (10 : ℚ) ^ k ≤ m * 2 ^ e) :
    (10 : ℚ) ^ (k - 16) < (reach m e + 2) * 2 ^ (e - 2) := by
  have hstep : (0 : ℚ) < 2 ^ (e - 2) := by positivity
  have hnat : 4 * m < (reach m e + 2) * 10 ^ 16 := by
    have hlt := hm.lt
    rw [reach]
    split
    · next hfirst =>
        rw [hfirst.1]
        norm_num
    · omega
  have hcast : (4 * m : ℚ) < (reach m e + 2) * 10 ^ 16 := by exact_mod_cast hnat
  rw [Binary64.four_steps e] at hk
  rw [zpow_sub₀ (by norm_num), div_lt_iff₀ (by positivity)]
  calc (10 : ℚ) ^ k ≤ m * (4 * 2 ^ (e - 2)) := hk
    _ = 4 * m * 2 ^ (e - 2) := by ring
    _ < (reach m e + 2) * 10 ^ 16 * 2 ^ (e - 2) := mul_lt_mul_of_pos_right hcast hstep
    _ = (reach m e + 2) * 2 ^ (e - 2) * 10 ^ (16 : ℤ) := by
        rw [zpow_ofNat]
        ring

/-- The shortest decimal of a double stands on one of the grids that are searched, and is rounded to
the double. -/
theorem shortest_spec (hm : IsParts m e) :
    ∃ n k, shortest m e = Digits.ofNat n k ∧ RoundsTo m e (n * 10 ^ k) := by
  have hs := measures_ofParts hm.pos e
  set s := Scaled.ofParts m e with hs'
  have hvaluePos : 0 < s.value := by
    have hvalue := hs.value
    rw [zpow_zero, mul_one] at hvalue
    have hm' : (0 : ℚ) < m := by exact_mod_cast hm.pos
    have hunit : (0 : ℚ) < s.unit := by exact_mod_cast hs.unit_pos
    have hpos : (0 : ℚ) < s.value := by
      rw [hvalue]
      positivity
    exact_mod_cast hpos
  set leading := leadingExponent s.value s.unit with hleading
  -- the last grid has a point in the interval, so the search ends
  have hlast : ∃ n, s.neighbour? (leading - 16) = some n := by
    refine hs.neighbour?_isSome (grid_lt_interval hm ?_)
    have hfirst := ten_pow_leadingExponent_le hvaluePos hs.unit_pos
    have hvalue := hs.value
    rw [zpow_zero, mul_one] at hvalue
    rw [hvalue] at hfirst
    exact le_of_mul_le_mul_right hfirst (by exact_mod_cast hs.unit_pos)
  rw [shortest]
  simp only [← hs', ← hleading]
  split
  · next found hfound =>
      obtain ⟨k, -, hk⟩ := List.exists_of_findSome?_eq_some hfound
      obtain ⟨n, hn, rfl⟩ := Option.map_eq_some_iff.mp hk
      exact ⟨n, k, rfl, (hs.inUnitsOf k).roundsTo (Scaled.contains_of_neighbour? hn)⟩
  · next hnone =>
      obtain ⟨n, hn⟩ := hlast
      have hmem : leading - 16 ∈ (List.range 17).map fun (n : ℕ) => leading - n :=
        List.mem_map.mpr ⟨16, by simp, rfl⟩
      have := List.findSome?_eq_none_iff.mp hnone _ hmem
      rw [hn] at this
      cases this

end RCart.Decimal
