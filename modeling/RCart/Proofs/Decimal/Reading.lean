import Mathlib.Data.List.TakeWhile
import RCart.Decimal.Layout
import RCart.Proofs.Decimal.Shortest
import RCart.Proofs.Text.Bytes

/-!
Written numbers read back.

* `readInteger?`, `readNumber?`: a decimal is read digit by digit and rounded to the nearest double;
* `Digits.value`: the number that a row of digits stands for;
* `readUnsigned?_positional`, `readUnsigned?_scientific`: either layout of a row of digits is read
  as a decimal of its value;
* **`readNumber?_write`**: a finite number that is written in any style reads back;
* `isNumberChar_of_readNumber?`: the characters that a number may have.
-/

namespace RCart.Decimal

open Binary64 (IsParts RoundsTo)

/-! ### Reading -/

/-- Reads a natural, in decimal. -/
def readNatural? (cs : List Char) : Option ℕ :=
  if cs ≠ [] ∧ cs.all Char.isDigit then some (Nat.ofDigitChars 10 cs 0) else none

/-- Reads an integer, in decimal. -/
def readInteger? : List Char → Option ℤ
  | '-' :: cs => (readNatural? cs).map fun (n : ℕ) => -(n : ℤ)
  | cs => (readNatural? cs).map fun (n : ℕ) => (n : ℤ)

/-- Reads the digits behind a point, if there is one, and what is left. -/
def readFraction : List Char → List Char × List Char
  | '.' :: cs => (cs.takeWhile Char.isDigit, cs.dropWhile Char.isDigit)
  | cs => ([], cs)

/-- Reads an exponent, if there is one; nothing may be left. -/
def readExponent? : List Char → Option ℤ
  | [] => some 0
  | 'e' :: cs => readInteger? cs
  | _ => none

/-- Reads a decimal without sign, and rounds it. -/
def readUnsigned? (negative : Bool) (cs : List Char) : Option Binary64 :=
  let whole := cs.takeWhile Char.isDigit
  let (fraction, rest) := readFraction (cs.dropWhile Char.isDigit)
  if whole = [] then none
  else (readExponent? rest).map fun exponent =>
    Binary64.ofDecimal negative (Nat.ofDigitChars 10 (whole ++ fraction) 0)
      (exponent - fraction.length)

/-- Reads a decimal, and rounds it. -/
def readNumber? : List Char → Option Binary64
  | '-' :: cs => readUnsigned? true cs
  | cs => readUnsigned? false cs

/-! ### Integers -/

lemma readNatural?_toDigits (n : ℕ) : readNatural? (Nat.toDigits 10 n) = some n := by
  have hdigits : (Nat.toDigits 10 n).all Char.isDigit = true :=
    List.all_eq_true.mpr fun c hc => Nat.isDigit_of_mem_toDigits (by norm_num) le_rfl hc
  rw [readNatural?, if_pos ⟨Nat.toDigits_ne_nil, hdigits⟩, Nat.ofDigitChars_ten_toDigits]

/-- What has digits only has no sign. -/
lemma ne_minus_of_digits {cs : List Char} (h : ∀ c ∈ cs, c.isDigit = true) (rest : List Char) :
    cs ≠ '-' :: rest := by
  rintro rfl
  exact absurd (h '-' List.mem_cons_self) (by decide)

lemma isDigit_of_mem_toDigits {n : ℕ} : ∀ c ∈ Nat.toDigits 10 n, c.isDigit = true :=
  fun _ hc => Nat.isDigit_of_mem_toDigits (by norm_num) le_rfl hc

lemma readInteger?_integerText (n : ℤ) : readInteger? (integerText n) = some n := by
  rw [integerText]
  split
  · rw [readInteger?, readNatural?_toDigits, Option.map_some]
    congr 1
    omega
  · have hunsigned := ne_minus_of_digits (isDigit_of_mem_toDigits (n := n.natAbs))
    rw [readInteger?.eq_2 _ hunsigned, readNatural?_toDigits, Option.map_some]
    congr 1
    omega

/-! ### Decimals -/

/-- A decimal is read as its parts say. -/
lemma readUnsigned?_of_parts {whole fraction tail : List Char} {exponent : ℤ} (negative : Bool)
    (hne : whole ≠ []) (hwhole : ∀ c ∈ whole, c.isDigit = true)
    (hfraction : ∀ c ∈ fraction, c.isDigit = true) (htail : readExponent? tail = some exponent) :
    readUnsigned? negative (whole ++ fractionText 0 fraction ++ tail)
      = some (Binary64.ofDecimal negative (Nat.ofDigitChars 10 (whole ++ fraction) 0)
          (exponent - fraction.length)) := by
  -- an exponent starts with its letter
  have hstart : ∀ c ∈ tail.head?, c = 'e' := by
    rw [readExponent?.eq_def] at htail
    split at htail
    · simp
    · simp
    · cases htail
  have hstop : ∀ c ∈ tail.head?, c.isDigit = false := fun c hc => hstart c hc ▸ by decide
  have hread : readFraction (fractionText 0 fraction ++ tail) = (fraction, tail)
      ∧ ∀ c ∈ (fractionText 0 fraction ++ tail).head?, c.isDigit = false := by
    have htext : fractionText 0 fraction = if fraction.isEmpty then [] else '.' :: fraction := by
      simp [fractionText]
    rw [htext]
    cases fraction with
    | nil =>
        refine ⟨?_, hstop⟩
        rw [List.isEmpty_nil, if_pos rfl, List.nil_append]
        cases tail with
        | nil => rfl
        | cons c tail =>
            obtain rfl := hstart c rfl
            rfl
    | cons d fraction =>
        obtain ⟨htake, hdrop⟩ := Text.takeWhile_append_of_head? hfraction hstop
        rw [List.isEmpty_cons, if_neg Bool.false_ne_true, List.cons_append, readFraction, htake,
          hdrop]
        exact ⟨rfl, by simp⟩
  obtain ⟨htake, hdrop⟩ := Text.takeWhile_append_of_head? hwhole hread.2
  rw [← List.append_assoc] at htake hdrop
  simp only [readUnsigned?, htake, hdrop, hread.1, hne, if_false, htail, Option.map_some]

/-! ### Rows of digits -/

/-- The number that a row of digits stands for. -/
def Digits.value (d : Digits) : ℚ :=
  Nat.ofDigitChars 10 d.digits 0 * 10 ^ (d.point - d.digits.length)

/-- Zeros before and after a row of digits move the point only. -/
lemma Digits.value_of_padded {d : Digits} (front back : ℕ) {exponent : ℤ}
    (h : exponent = d.point - d.digits.length - back) :
    (Nat.ofDigitChars 10 (List.replicate front '0' ++ d.digits ++ List.replicate back '0') 0 : ℚ)
      * 10 ^ exponent = d.value := by
  have hten : (10 : ℚ) ^ back * 10 ^ exponent = 10 ^ (d.point - d.digits.length) := by
    rw [← zpow_natCast, ← zpow_add₀ (by norm_num), h]
    congr 1
    omega
  rw [Nat.ofDigitChars_append, Nat.ofDigitChars_append, Nat.ofDigitChars_replicate_zero,
    Nat.ofDigitChars_replicate_zero, Nat.mul_zero, Digits.value, ← hten]
  push_cast
  ring

/-- A row of digits, as it is before it is laid out. -/
structure Digits.IsRow (d : Digits) : Prop where
  ne_nil : d.digits ≠ []
  isDigit : ∀ c ∈ d.digits, c.isDigit = true

/-- The digits of a natural are its row and the zeros that were cut off. -/
lemma toDigits_eq_append_replicate (n : ℕ) (k : ℤ) :
    ∃ z, Nat.toDigits 10 n = (Digits.ofNat n k).digits ++ List.replicate z '0' := by
  set zeros := (Nat.toDigits 10 n).reverse.takeWhile (· == '0') with hzeros
  have hsplit :=
    List.takeWhile_append_dropWhile (p := (· == '0')) (l := (Nat.toDigits 10 n).reverse)
  have hreplicate : zeros = List.replicate zeros.length '0' :=
    List.eq_replicate_iff.mpr ⟨rfl, fun c hc => by simpa using List.mem_takeWhile_imp hc⟩
  refine ⟨zeros.length, ?_⟩
  rw [← hzeros, hreplicate] at hsplit
  have hreverse := congrArg List.reverse hsplit
  rw [List.reverse_append, List.reverse_reverse, List.reverse_replicate] at hreverse
  exact hreverse.symm

lemma Digits.value_ofNat (n : ℕ) (k : ℤ) : (Digits.ofNat n k).value = n * 10 ^ k := by
  obtain ⟨z, hz⟩ := toDigits_eq_append_replicate n k
  have hlength := congrArg List.length hz
  rw [List.length_append, List.length_replicate] at hlength
  have hexponent : k = (Digits.ofNat n k).point - (Digits.ofNat n k).digits.length - z := by
    change k = (Nat.toDigits 10 n).length + k - _ - _
    omega
  have hpadded := (Digits.ofNat n k).value_of_padded 0 z hexponent
  rw [List.replicate_zero, List.nil_append, ← hz, Nat.ofDigitChars_ten_toDigits] at hpadded
  exact hpadded.symm

lemma Digits.isRow_ofNat {n : ℕ} (hn : 0 < n) (k : ℤ) : (Digits.ofNat n k).IsRow := by
  obtain ⟨z, hz⟩ := toDigits_eq_append_replicate n k
  refine ⟨fun hnil => ?_, fun c hc => ?_⟩
  · have hvalue := Nat.ofDigitChars_ten_toDigits (n := n)
    rw [hz, hnil, List.nil_append, Nat.ofDigitChars_replicate_zero, Nat.mul_zero] at hvalue
    omega
  · exact isDigit_of_mem_toDigits c (hz ▸ List.mem_append_left _ hc)

/-! ### Layouts -/

lemma fractionText_eq (least : ℕ) (digits : List Char) :
    fractionText least digits
      = fractionText 0 (digits ++ List.replicate (least - digits.length) '0') := by
  simp [fractionText]

lemma isDigit_of_mem_replicate {n : ℕ} : ∀ c ∈ List.replicate n '0', c.isDigit = true := by
  intro c hc
  rw [(List.mem_replicate.mp hc).2]
  decide

variable {d : Digits}

/-- A row of digits between zeros is read as a decimal of its value, wherever its point stands. -/
lemma readUnsigned?_of_padded (hd : d.IsRow) (negative : Bool) {whole fraction tail : List Char}
    {exponent : ℤ} (front back : ℕ) (hne : whole ≠ [])
    (hrow : whole ++ fraction = List.replicate front '0' ++ d.digits ++ List.replicate back '0')
    (htail : readExponent? tail = some exponent)
    (hexponent : exponent - fraction.length = d.point - d.digits.length - back) :
    ∃ (n : ℕ) (k : ℤ), readUnsigned? negative (whole ++ fractionText 0 fraction ++ tail)
        = some (Binary64.ofDecimal negative n k) ∧ (n : ℚ) * 10 ^ k = d.value := by
  have hdigits : ∀ c ∈ whole ++ fraction, c.isDigit = true := by
    intro c hc
    rw [hrow, List.mem_append, List.mem_append] at hc
    obtain (hc | hc) | hc := hc
    · exact isDigit_of_mem_replicate c hc
    · exact hd.isDigit c hc
    · exact isDigit_of_mem_replicate c hc
  have hread := readUnsigned?_of_parts negative hne
    (fun c hc => hdigits c (List.mem_append_left _ hc))
    (fun c hc => hdigits c (List.mem_append_right _ hc)) htail
  refine ⟨_, _, hread, ?_⟩
  rw [hrow]
  exact d.value_of_padded front back hexponent

/-- A row of digits without exponent is read as a decimal of its value. -/
lemma readUnsigned?_positional (hd : d.IsRow) (negative : Bool) (least : ℕ) :
    ∃ (n : ℕ) (k : ℤ), readUnsigned? negative (positional least d)
        = some (Binary64.ofDecimal negative n k) ∧ (n : ℚ) * 10 ^ k = d.value := by
  have hlength := List.length_pos_of_ne_nil hd.ne_nil
  rw [positional]
  split
  · -- the point stands before all digits
    next hpoint =>
      set zeros := (-d.point).toNat with hzeros
      set back := least - (List.replicate zeros '0' ++ d.digits).length with hback
      set fraction := List.replicate zeros '0' ++ d.digits ++ List.replicate back '0' with hfraction
      have htext : '0' :: fractionText least (List.replicate zeros '0' ++ d.digits)
          = ['0'] ++ fractionText 0 fraction ++ [] := by
        rw [fractionText_eq, List.append_nil]
        rfl
      have hrow : ['0'] ++ fraction
          = List.replicate (zeros + 1) '0' ++ d.digits ++ List.replicate back '0' := by
        rw [hfraction, List.replicate_succ]
        simp only [List.cons_append, List.nil_append]
      have hexponent : 0 - (fraction.length : ℤ) = d.point - d.digits.length - back := by
        simp only [hfraction, List.length_append, List.length_replicate]
        omega
      rw [htext]
      exact readUnsigned?_of_padded hd negative (zeros + 1) back (by simp) hrow rfl hexponent
  · -- some digits stand before the point, and zeros if there are too few of them
    next hpoint =>
      set places := d.point.toNat with hplaces
      set missing := places - d.digits.length with hmissing
      set back := least - (d.digits.drop places).length with hback
      set whole := d.digits.take places ++ List.replicate missing '0' with hwhole
      set fraction := d.digits.drop places ++ List.replicate back '0' with hfraction
      have htext : whole ++ fractionText least (d.digits.drop places)
          = whole ++ fractionText 0 fraction ++ [] := by
        rw [fractionText_eq, List.append_nil]
      have hne : whole ≠ [] := by
        rw [← List.length_pos_iff, hwhole, List.length_append, List.length_take,
          List.length_replicate]
        omega
      have hmiddle : List.replicate missing '0' ++ d.digits.drop places
          = d.digits.drop places ++ List.replicate missing '0' := by
        obtain hle | hle := le_total places d.digits.length
        · rw [hmissing, Nat.sub_eq_zero_of_le hle]
          simp
        · rw [List.drop_of_length_le hle]
          simp
      have hrow : whole ++ fraction
          = List.replicate 0 '0' ++ d.digits ++ List.replicate (missing + back) '0' := by
        calc whole ++ fraction
            = d.digits.take places ++ (List.replicate missing '0' ++ d.digits.drop places)
                ++ List.replicate back '0' := by
              simp only [hwhole, hfraction, List.append_assoc]
          _ = d.digits ++ (List.replicate missing '0' ++ List.replicate back '0') := by
              rw [hmiddle, ← List.append_assoc, List.take_append_drop, List.append_assoc]
          _ = _ := by
              rw [List.replicate_zero, List.nil_append, List.replicate_append_replicate]
      have hexponent : 0 - (fraction.length : ℤ)
          = d.point - d.digits.length - (missing + back : ℕ) := by
        simp only [hfraction, List.length_append, List.length_replicate, List.length_drop]
        omega
      rw [htext]
      exact readUnsigned?_of_padded hd negative 0 (missing + back) hne hrow rfl hexponent

/-- So is one with an exponent. -/
lemma readUnsigned?_scientific (hd : d.IsRow) (negative : Bool) :
    ∃ (n : ℕ) (k : ℤ), readUnsigned? negative (scientific d)
        = some (Binary64.ofDecimal negative n k) ∧ (n : ℚ) * 10 ^ k = d.value := by
  have hlength := List.length_pos_of_ne_nil hd.ne_nil
  have hne : d.digits.take 1 ≠ [] := by
    rw [ne_eq, List.take_eq_nil_iff]
    exact fun h => h.elim one_ne_zero hd.ne_nil
  have hrow : d.digits.take 1 ++ d.digits.drop 1
      = List.replicate 0 '0' ++ d.digits ++ List.replicate 0 '0' := by
    rw [List.take_append_drop, List.replicate_zero, List.nil_append, List.append_nil]
  have hexponent : d.point - 1 - (d.digits.drop 1).length
      = d.point - d.digits.length - (0 : ℕ) := by
    rw [List.length_drop]
    omega
  exact readUnsigned?_of_padded hd negative 0 0 hne hrow (readInteger?_integerText (d.point - 1))
    hexponent

/-- Zero is read whatever the number of digits after its point. -/
lemma readUnsigned?_zero (negative : Bool) (least : ℕ) :
    readUnsigned? negative ('0' :: fractionText least [])
      = some (Binary64.ofParts negative 0) := by
  have htext : '0' :: fractionText least []
      = ['0'] ++ fractionText 0 (List.replicate least '0') ++ [] := by
    rw [fractionText_eq, List.append_nil]
    rfl
  have hrow : ['0'] ++ List.replicate least '0' = List.replicate (least + 1) '0' := rfl
  have hdigits : ∀ c ∈ ['0'], c.isDigit = true := isDigit_of_mem_replicate (n := 1)
  rw [htext, readUnsigned?_of_parts negative (List.cons_ne_nil _ _) hdigits
    isDigit_of_mem_replicate rfl, hrow, Nat.ofDigitChars_replicate_zero, Nat.mul_zero,
    Binary64.ofDecimal, if_pos (.inl rfl)]

/-! ### Written numbers -/

/-- A sign is read as what it says. -/
lemma readNumber?_signed {negative : Bool} {cs : List Char} {x : Binary64}
    (h : readUnsigned? negative cs = some x) :
    readNumber? (if negative then '-' :: cs else cs) = some x := by
  cases negative with
  | true => exact h
  | false =>
      have hunsigned : ∀ rest, cs ≠ '-' :: rest := by
        rintro rest rfl
        simp [readUnsigned?] at h
      rw [if_neg Bool.false_ne_true, readNumber?.eq_2 _ hunsigned]
      exact h

/-- A finite number that is written in any style reads back. -/
theorem readNumber?_write (style : NumberStyle) {x : Binary64} {negative : Bool} {m : ℕ} {e : ℤ}
    (h : x.view = .finite negative m e) : readNumber? (x.write style).toList = some x := by
  obtain ⟨hparts, hx⟩ := Binary64.view_finite h
  simp only [Binary64.write, h]
  split
  · next hm =>
      obtain ⟨rfl, rfl⟩ : m = 0 ∧ e = -1074 :=
        hparts.resolve_right fun hpositive => hpositive.pos.ne' hm
      rw [String.toList_ofList, hx]
      exact readNumber?_signed (readUnsigned?_zero negative style.leastFraction)
  · next hm =>
      have hpositive : IsParts m e := hparts.resolve_left fun hzero => hm hzero.1
      obtain ⟨n, k, hshortest, hrounds⟩ := shortest_spec hpositive
      have hn : 0 < n := (hrounds.length_bounds hpositive).1
      have hrow : (shortest m e).IsRow := hshortest ▸ Digits.isRow_ofNat hn k
      have hvalue : (shortest m e).value = n * 10 ^ k := hshortest ▸ Digits.value_ofNat n k
      rw [String.toList_ofList]
      apply readNumber?_signed
      obtain ⟨digits, exponent, hread, hdigits⟩ :
          ∃ (digits : ℕ) (exponent : ℤ), readUnsigned? negative
            (if style.isPositional ((shortest m e).point - 1)
              then positional style.leastFraction (shortest m e) else scientific (shortest m e))
            = some (Binary64.ofDecimal negative digits exponent)
            ∧ (digits : ℚ) * 10 ^ exponent = (shortest m e).value := by
        split
        · exact readUnsigned?_positional hrow negative style.leastFraction
        · exact readUnsigned?_scientific hrow negative
      rw [hread, Binary64.ofDecimal_of_roundsTo hpositive, hx]
      rw [hdigits, hvalue]
      exact hrounds

/-! ### The characters of a number -/

/-- The characters that numbers are written with. -/
def isNumberChar (c : Char) : Bool :=
  c.isDigit || c == '-' || c == '.' || c == 'e'

lemma isNumberChar_of_isDigit {c : Char} (h : c.isDigit = true) : isNumberChar c = true := by
  simp [isNumberChar, h]

lemma isNumberChar_of_readNatural? {cs : List Char} {n : ℕ} (h : readNatural? cs = some n) :
    ∀ c ∈ cs, isNumberChar c = true := by
  intro c hc
  rw [readNatural?] at h
  split at h
  · next hdigits => exact isNumberChar_of_isDigit (List.all_eq_true.mp hdigits.2 c hc)
  · cases h

/-- An integer has no characters but those of numbers. -/
lemma isNumberChar_of_readInteger? {cs : List Char} {n : ℤ} (h : readInteger? cs = some n) :
    ∀ c ∈ cs, isNumberChar c = true := by
  rw [readInteger?.eq_def] at h
  split at h
  · next rest =>
      obtain ⟨value, hvalue, -⟩ := Option.map_eq_some_iff.mp h
      exact List.forall_mem_cons.mpr ⟨by decide, isNumberChar_of_readNatural? hvalue⟩
  · obtain ⟨value, hvalue, -⟩ := Option.map_eq_some_iff.mp h
    exact isNumberChar_of_readNatural? hvalue

/-- Nor has an exponent. -/
lemma isNumberChar_of_readExponent? {cs : List Char} {n : ℤ} (h : readExponent? cs = some n) :
    ∀ c ∈ cs, isNumberChar c = true := by
  rw [readExponent?.eq_def] at h
  split at h
  · simp
  · exact List.forall_mem_cons.mpr ⟨by decide, isNumberChar_of_readInteger? h⟩
  · cases h

/-- What stands behind the point is read as digits and the rest. -/
lemma mem_of_mem_readFraction {cs : List Char} {c : Char} (h : c ∈ cs) :
    isNumberChar c = true ∨ c ∈ (readFraction cs).2 := by
  rw [readFraction.eq_def]
  split
  · next rest =>
      rw [← List.takeWhile_append_dropWhile (p := Char.isDigit) (l := rest), List.mem_cons,
        List.mem_append] at h
      obtain rfl | hdigit | hrest := h
      · exact .inl (by decide)
      · exact .inl (isNumberChar_of_isDigit (List.mem_takeWhile_imp hdigit))
      · exact .inr hrest
  · exact .inr h

lemma isNumberChar_of_readUnsigned? {negative : Bool} {cs : List Char} {x : Binary64}
    (h : readUnsigned? negative cs = some x) : ∀ c ∈ cs, isNumberChar c = true := by
  intro c hc
  simp only [readUnsigned?] at h
  split at h
  · cases h
  · obtain ⟨exponent, hexponent, -⟩ := Option.map_eq_some_iff.mp h
    rw [← List.takeWhile_append_dropWhile (p := Char.isDigit) (l := cs), List.mem_append] at hc
    obtain hwhole | hc := hc
    · exact isNumberChar_of_isDigit (List.mem_takeWhile_imp hwhole)
    · obtain hc | hrest := mem_of_mem_readFraction hc
      · exact hc
      · exact isNumberChar_of_readExponent? hexponent c hrest

/-- A number has no characters but those of numbers. -/
lemma isNumberChar_of_readNumber? {cs : List Char} {x : Binary64} (h : readNumber? cs = some x) :
    ∀ c ∈ cs, isNumberChar c = true := by
  rw [readNumber?.eq_def] at h
  split at h
  · exact List.forall_mem_cons.mpr ⟨by decide, isNumberChar_of_readUnsigned? h⟩
  · exact isNumberChar_of_readUnsigned? h

end RCart.Decimal
