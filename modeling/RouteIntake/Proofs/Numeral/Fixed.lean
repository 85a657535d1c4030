import Mathlib
import RouteIntake.Numeral.Decimal
import RouteIntake.Numeral.Fixed
import RouteIntake.Proofs.Numeral.Value

/-!
# What texts of numbers denote

`decimalValue?` reads a decimal without an exponent exactly, as a rational number: an optional sign,
and digits with at most one point among them.  It uses the same pieces as the reading of numbers,
but nothing is rounded.  The statements tie it to the two ways in which numbers are written:

* `decimalValue?_toDigits`: the text of a natural number denotes it;
* `Binary64.decimalValue?_fixedChars`: the text of a finite number with two decimal places denotes
  its number of hundredths, with its sign;
* `Binary64.exists_decimalValue?_fixedChars`: the text of a number from 0 to 1 denotes a number from
  0 to 1, for rounding does not lead out of that range.
-/

namespace RouteIntake.Numeral

open Text

/-- The rational number that a decimal without sign and exponent denotes. -/
def decimalSize? (cs : List Char) : Option ℚ :=
  let (whole, afterWhole) := takeDigits cs
  let (fraction, rest) := takeFraction afterWhole
  if rest.isEmpty && !(whole.isEmpty && fraction.isEmpty) then
    some (ofDigits (whole ++ fraction) / 10 ^ fraction.length)
  else none

/-- The rational number that a decimal without exponent denotes. -/
def decimalValue? (cs : List Char) : Option ℚ :=
  let (negative, body) := takeSign cs
  (decimalSize? body).map fun q => if negative then -q else q

/-! ## Digits -/

/-- A digit is read as its value. -/
lemma asciiDigit?_of_isDigit {c : Char} (h : c.isDigit = true) :
    asciiDigit? c = some (c.toNat - '0'.toNat) := by
  have hrange : 48 ≤ c.toNat ∧ c.toNat ≤ 57 := by
    simpa [Char.isDigit, UInt32.le_iff_toNat_le] using h
  have hlow : Nat.ble 0x30 c.toNat = true := Nat.ble_eq.mpr hrange.1
  have hhigh : Nat.ble c.toNat 0x39 = true := Nat.ble_eq.mpr hrange.2
  simp only [asciiDigit?, hlow, hhigh, Bool.and_self, if_true]
  rfl

lemma isDigit_digitChar {n : Nat} (h : n < 10) : (Nat.digitChar n).isDigit = true := by
  have hall : ∀ k < 10, (Nat.digitChar k).isDigit = true := by decide
  exact hall n h

/-- Digits are taken up to the first character that is none. -/
lemma takeDigits_append {cs : List Char} (rest : List Char) (h : ∀ c ∈ cs, c.isDigit = true)
    (hrest : ∀ c ∈ rest.head?, asciiDigit? c = none) :
    takeDigits (cs ++ rest) = (cs.map fun c => c.toNat - '0'.toNat, rest) := by
  induction cs with
  | nil =>
    cases rest with
    | nil => rfl
    | cons c rest =>
      have hc := hrest c rfl
      simp [takeDigits, hc]
  | cons c cs ih =>
    rw [List.forall_mem_cons] at h
    simp [takeDigits, asciiDigit?_of_isDigit h.1, ih h.2]

/-- The number of digits is that of their characters. -/
lemma ofDigits_map (cs : List Char) :
    ofDigits (cs.map fun c => c.toNat - '0'.toNat) = Nat.ofDigitChars 10 cs 0 := by
  rw [Nat.ofDigitChars_eq_foldl, ofDigits, List.foldl_map]

/-- A text that starts with a digit has no sign. -/
lemma takeSign_of_isDigit {c : Char} {cs : List Char} (h : c.isDigit = true) :
    takeSign (c :: cs) = (false, c :: cs) := by
  unfold takeSign
  split
  · rename_i heq
    rw [(List.cons.inj heq).1] at h
    cases h
  · rename_i heq
    rw [(List.cons.inj heq).1] at h
    cases h
  · rfl

/-- The digits of a natural number have no sign before them. -/
lemma takeSign_toDigits_append (n : Nat) (rest : List Char) :
    takeSign (Nat.toDigits 10 n ++ rest) = (false, Nat.toDigits 10 n ++ rest) := by
  obtain ⟨c, cs, hcs⟩ := List.exists_cons_of_ne_nil (Nat.toDigits_ne_nil (n := n) (b := 10))
  have hc : c.isDigit = true :=
    Nat.isDigit_of_mem_toDigits (b := 10) (n := n) (by decide) (by decide) (by simp [hcs])
  rw [hcs, List.cons_append, takeSign_of_isDigit hc]

/-- The digits of a natural number are taken together. -/
lemma takeDigits_toDigits_append (n : Nat) (rest : List Char)
    (hrest : ∀ c ∈ rest.head?, asciiDigit? c = none) :
    takeDigits (Nat.toDigits 10 n ++ rest) =
      ((Nat.toDigits 10 n).map fun c => c.toNat - '0'.toNat, rest) :=
  takeDigits_append rest (fun _ hc => Nat.isDigit_of_mem_toDigits (by decide) (by decide) hc) hrest

/-! ## Whole numbers -/

/-- The text of a natural number denotes it. -/
lemma decimalValue?_toDigits (n : Nat) : decimalValue? (Nat.toDigits 10 n) = some (n : ℚ) := by
  have hsign := takeSign_toDigits_append n []
  have htake := takeDigits_toDigits_append n [] (by simp)
  rw [List.append_nil] at hsign htake
  have hdigits : ofDigits ((Nat.toDigits 10 n).map fun c => c.toNat - '0'.toNat) = n := by
    rw [ofDigits_map, Nat.ofDigitChars_ten_toDigits]
  simp only [decimalValue?, decimalSize?, hsign, htake, takeFraction, List.append_nil, hdigits]
  simp [Nat.toDigits_ne_nil]

/-! ## Two decimal places -/

/-- The text of hundredths denotes them. -/
lemma decimalSize?_hundredthsChars (n : Nat) :
    decimalSize? (hundredthsChars n) = some ((n : ℚ) / 100) := by
  have hten : n % 100 / 10 < 10 := by omega
  have hone : n % 10 < 10 := by omega
  have hwhole := takeDigits_toDigits_append (n / 100)
    ['.', Nat.digitChar (n % 100 / 10), Nat.digitChar (n % 10)] (by simp [asciiDigit?])
  have hfraction : takeDigits [Nat.digitChar (n % 100 / 10), Nat.digitChar (n % 10)] =
      ([Nat.digitChar (n % 100 / 10), Nat.digitChar (n % 10)].map fun c => c.toNat - '0'.toNat,
        []) := by
    have hplaces : ∀ c ∈ [Nat.digitChar (n % 100 / 10), Nat.digitChar (n % 10)],
        c.isDigit = true := by
      simp [isDigit_digitChar hten, isDigit_digitChar hone]
    have htake := takeDigits_append [] hplaces (by simp)
    rwa [List.append_nil] at htake
  have hdigits : ofDigits ((Nat.toDigits 10 (n / 100)).map (fun c => c.toNat - '0'.toNat) ++
      [Nat.digitChar (n % 100 / 10), Nat.digitChar (n % 10)].map fun c =>
        c.toNat - '0'.toNat) = n := by
    rw [← List.map_append, ofDigits_map, Nat.ofDigitChars_append, Nat.ofDigitChars_ten_toDigits,
      Nat.ofDigitChars_cons_digitChar_of_lt_ten hten,
      Nat.ofDigitChars_cons_digitChar_of_lt_ten hone,
      Nat.ofDigitChars_nil]
    omega
  simp only [decimalSize?, hundredthsChars, hwhole, takeFraction, hfraction, hdigits]
  norm_num

namespace Binary64

/-- **What the text with two decimal places denotes**: the number of hundredths, with the sign of
the number. -/
theorem decimalValue?_fixedChars (negative : Bool) (significand : Nat) (exponent : Int) :
    decimalValue? (fixedChars (.finite negative significand exponent)) =
      some (if negative then -(hundredths (units false significand exponent).natAbs / 100 : ℚ)
        else hundredths (units false significand exponent).natAbs / 100) := by
  simp only [fixedChars]
  generalize hundredths (units false significand exponent).natAbs = n
  cases negative with
  | true =>
    show (decimalSize? (hundredthsChars n)).map _ = _
    rw [decimalSize?_hundredthsChars]
    rfl
  | false =>
    have hsign : takeSign (hundredthsChars n) = (false, hundredthsChars n) :=
      takeSign_toDigits_append _ _
    simp only [decimalValue?, Bool.false_eq_true, if_false, List.nil_append, hsign,
      decimalSize?_hundredthsChars, Option.map_some]

end Binary64

/-! ## Numbers from 0 to 1 -/

/-- A quotient that is at most a natural number is not rounded to more. -/
lemma roundHalfEven_le {n d k : Nat} (hd : 0 < d) (h : n ≤ k * d) : roundHalfEven n d ≤ k := by
  rcases h.lt_or_eq with hlt | rfl
  · have hquot : n / d < k := (Nat.div_lt_iff_lt_mul hd).mpr hlt
    have hround := roundHalfEven_eq_or n d
    omega
  · exact (roundHalfEven_mul k hd).le

/-- A size of at most so many units has at most so many times the parts of a unit. -/
lemma roundHalfEven_mul_le {size n : Nat} (count : Nat) {k : Nat} (h : size ≤ n * Nat.pow 2 k) :
    roundHalfEven (size * count) (Nat.pow 2 k) ≤ n * count := by
  refine roundHalfEven_le (Nat.two_pow_pos k) ?_
  rw [Nat.mul_right_comm]
  exact Nat.mul_le_mul_right count h

/-- A size of at most `n` has at most `100 * n` hundredths. -/
lemma hundredths_le {size n : Nat} (h : size ≤ n * Nat.pow 2 1074) : hundredths size ≤ n * 100 := by
  -- the exponent is stated first, so that nothing computes the power to find it
  have hround := roundHalfEven_mul_le 100 h
  exact hround

namespace Binary64

open Extended

/-- The text of a number from 0 to 1 denotes a number from 0 to 1.  A negative zero keeps its sign,
but it is still zero. -/
theorem exists_decimalValue?_fixedChars {x : Binary64} {v : Extended} (hx : x.value? = some v)
    (hlow : ofRat 0 ≤ v) (hhigh : v ≤ ofRat 1) :
    ∃ q, decimalValue? x.fixedChars = some q ∧ 0 ≤ q ∧ q ≤ 1 := by
  have hzero : ofRat 0 = ofUnits 0 := by
    have hmul := ofUnits_mul 0
    simp only [Int.zero_mul, Int.cast_zero] at hmul
    exact hmul.symm
  have hone : ofRat 1 = ofUnits (2 ^ 1074) := by
    have hmul := ofUnits_mul 1
    simp only [Int.one_mul, Int.cast_one] at hmul
    exact hmul.symm
  rw [hzero] at hlow
  rw [hone] at hhigh
  cases x with
  | nan => cases hx
  | infinity negative =>
    obtain rfl := Option.some.inj hx
    cases negative with
    | true => exact absurd hlow (not_le.mpr (bot_lt_ofUnits 0))
    | false => exact absurd hhigh (not_le.mpr (ofUnits_lt_top _))
  | finite negative significand exponent =>
    obtain rfl := Option.some.inj hx
    rw [ofUnits_le_ofUnits] at hlow hhigh
    rw [decimalValue?_fixedChars]
    have hpos : (0 : ℤ) ≤ units false significand exponent := Int.natCast_nonneg _
    refine ⟨_, rfl, ?_⟩
    cases negative with
    | true =>
      -- only a zero may have a sign here
      have hsize : (units false significand exponent).natAbs ≤ 0 := by
        have hneg : units true significand exponent = -units false significand exponent := rfl
        omega
      have hcount : hundredths (units false significand exponent).natAbs = 0 :=
        Nat.le_zero.mp ((hundredths_le (n := 0) (hsize.trans (Nat.zero_le _))).trans_eq
          (Nat.zero_mul 100))
      simp [hcount]
    | false =>
      have hsize : (units false significand exponent).natAbs ≤ Nat.pow 2 1074 := by
        refine Int.ofNat_le.mp ?_
        simp only [Int.natAbs_of_nonneg hpos, Nat.pow_eq, Nat.cast_pow]
        exact hhigh
      have hcount : hundredths (units false significand exponent).natAbs ≤ 100 :=
        hundredths_le (hsize.trans_eq (Nat.one_mul _).symm)
      simp only [Bool.false_eq_true, if_false]
      refine ⟨div_nonneg (Nat.cast_nonneg _) (by norm_num), (div_le_one (by norm_num)).mpr ?_⟩
      exact Nat.cast_le_ofNat.mpr hcount

end Binary64

end RouteIntake.Numeral
