import Mathlib
import RouteIntake.Numeral.Binary64

/-!
# Integers beyond the range of numbers

An integer becomes the number nearest to it, unless it is too large.  `ofInt?_eq_none_iff` says from
where on it is: from the middle between the largest number and the power of two after it.  There the
significand is rounded up to a carry, and the exponent after the carry is one more than there may
be.

The logarithm of an integer is exact, so the exponent that `ofRatio` guesses is always one too
small, and corrected once (`ofRatio_one`).
-/

namespace RouteIntake.Numeral

/-- Halfway above an odd number, and from there on, the quotient is rounded to more than that. -/
lemma lt_roundHalfEven_iff {n half q : Nat} (hhalf : 0 < half) (hq : q % 2 = 1) :
    q < roundHalfEven n (2 * half) ↔ q * (2 * half) + half ≤ n := by
  have hn : 2 * half * (n / (2 * half)) + n % (2 * half) = n := Nat.div_add_mod n (2 * half)
  have hr : n % (2 * half) < 2 * half := Nat.mod_lt n (by omega)
  have hround := roundHalfEven_eq_or n (2 * half)
  rcases Nat.lt_trichotomy (n / (2 * half)) q with hlt | heq | hgt
  · -- even rounded up the quotient is no more than `q`
    have hmul : 2 * half * (n / (2 * half) + 1) ≤ 2 * half * q := Nat.mul_le_mul_left _ hlt
    rw [Nat.mul_add, Nat.mul_one] at hmul
    rw [Nat.mul_comm q]
    omega
  · -- the quotient is `q`, which is odd, so that a half is rounded up
    have hodd : Nat.beq (q % 2) 0 = false := by rw [hq]; rfl
    simp only [roundHalfEven, heq, Nat.blt_eq, hodd, Bool.false_eq_true, if_false,
      ite_self]
    rw [heq, Nat.mul_comm] at hn
    split
    · omega
    · omega
  · have hmul : 2 * half * (q + 1) ≤ 2 * half * (n / (2 * half)) := Nat.mul_le_mul_left _ hgt
    rw [Nat.mul_add, Nat.mul_one] at hmul
    rw [Nat.mul_comm q]
    omega

namespace Binary64

/-- The size from which on integers are too large for a number: halfway between the largest number
and the power of two after it. -/
def integerBound : Nat := 2 ^ 1024 - 2 ^ 970

/-- The exponent that is guessed for a whole number is always one too small. -/
lemma ofRatio_one (negative : Bool) {n : Nat} (hn : n ≠ 0) :
    ofRatio negative n 1 =
      pack negative (significandAt n 1 ((n.log2 : Int) - 52)) ((n.log2 : Int) - 52) := by
  have hzero : Nat.beq n 0 = false := by
    rw [← Bool.not_eq_true, Nat.beq_eq]
    exact hn
  have hlog : 2 ^ n.log2 ≤ n := Nat.log2_self_le hn
  have hguess : (n.log2 : Int) - (Nat.log2 1 : Int) - (53 : Nat) = n.log2 - 53 := by
    have hone : Nat.log2 1 = 0 := rfl
    omega
  have hmin : ¬((n.log2 : Int) - 53 < -1074) := by omega
  have hnext : (n.log2 : Int) - 52 = n.log2 - 53 + 1 := by omega
  simp only [ofRatio, hzero, Bool.false_eq_true, if_false, precision, minExponent, hguess, hmin,
    hnext]
  cases he : (n.log2 : Int) - 53 with
  | ofNat e =>
    have hsmall : Nat.ble (Nat.pow 2 53 * (1 * Nat.pow 2 e)) n = true := by
      rw [Int.ofNat_eq_natCast] at he
      have hle : n.log2 = 53 + e := by omega
      rw [hle, Nat.pow_add] at hlog
      simpa using hlog
    simp only [hsmall, if_true]
  | negSucc e =>
    have hsmall : Nat.ble (Nat.pow 2 53 * 1) (n * Nat.pow 2 (e + 1)) = true := by
      have hle : n.log2 + (e + 1) = 53 := by omega
      have hmul : 2 ^ n.log2 * 2 ^ (e + 1) ≤ n * 2 ^ (e + 1) := Nat.mul_le_mul_right _ hlog
      rw [← Nat.pow_add, hle] at hmul
      simpa using hmul
    simp only [hsmall, if_true]

/-- A significand that is not carried has no more than its exponent, and a carried one has one
more. -/
lemma isFinite_pack {negative : Bool} {significand : Nat} {exponent : Int} :
    (pack negative significand exponent).isFinite = true ↔
      exponent < 971 ∨ exponent = 971 ∧ significand ≠ 2 ^ 53 := by
  have hcarried : Nat.beq significand (Nat.pow 2 53) = true ↔ significand = 2 ^ 53 := by
    rw [Nat.beq_eq, Nat.pow_eq]
  simp only [pack, precision, maxExponent, hcarried]
  by_cases hs : significand = 2 ^ 53
  · simp only [hs, if_true, ne_eq, not_true, and_false, or_false]
    split
    · simp only [isFinite, Bool.false_eq_true, false_iff]
      omega
    · simp only [isFinite, true_iff]
      omega
  · simp only [hs, if_false, ne_eq, not_false_iff, and_true]
    split
    · simp only [isFinite, Bool.false_eq_true, false_iff]
      omega
    · simp only [isFinite, true_iff]
      omega

/-- An integer becomes a number unless its datum is infinite. -/
lemma ofInt?_eq_none_iff_not_isFinite {n : Int} : ofInt? n = none ↔ (ofInt n).isFinite ≠ true := by
  unfold ofInt?
  cases ofInt n <;> simp [isFinite]

/-- Powers that are too large to be computed, as multiples of half the unit of the largest
numbers. -/
lemma exists_halfUnit : ∃ half : Nat, 0 < half ∧ 2 ^ 971 = 2 * half ∧ 2 ^ 1023 = 2 ^ 53 * half ∧
    2 ^ 1024 = 2 ^ 54 * half ∧ integerBound = (2 ^ 53 - 1) * (2 * half) + half := by
  have hpowers : ∀ k, 0 < 2 ^ k ∧ 2 ^ (k + 1) = 2 * 2 ^ k ∧ 2 ^ (k + 53) = 2 ^ 53 * 2 ^ k ∧
      2 ^ (k + 54) = 2 ^ 54 * 2 ^ k := by
    intro k
    refine ⟨Nat.two_pow_pos k, Nat.pow_succ', ?_, ?_⟩ <;> rw [Nat.pow_add, Nat.mul_comm]
  obtain ⟨hpos, hunit, hbelow, hsize⟩ := hpowers 970
  simp only [Nat.reduceAdd] at hunit hbelow hsize
  have hbound : integerBound = 2 ^ 54 * 2 ^ 970 - 2 ^ 970 := by rw [integerBound, hsize]
  -- the powers stay closed terms from here on, so that nothing computes them
  generalize 2 ^ 970 = half at *
  exact ⟨half, hpos, hunit, hbelow, hsize, by omega⟩

/-- A whole number is rounded to a multiple of its unit. -/
lemma significandAt_ofNat (n e : Nat) :
    significandAt n 1 (Int.ofNat e) = roundHalfEven n (2 ^ e) := by
  simp [significandAt]

/-- Only the largest of the whole numbers with 1024 bits are rounded up to one bit more. -/
lemma significandAt_eq_carry {n : Nat} (hn : n < 2 ^ 1024) :
    significandAt n 1 971 = 2 ^ 53 ↔ integerBound ≤ n := by
  obtain ⟨half, hpos, hunit, -, hsize, hbound⟩ := exists_halfUnit
  have hround : significandAt n 1 971 = roundHalfEven n (2 * half) := by
    rw [← hunit]
    exact significandAt_ofNat n 971
  have hcarry : 2 ^ 53 - 1 < roundHalfEven n (2 * half) ↔ integerBound ≤ n := by
    rw [hbound]
    exact lt_roundHalfEven_iff hpos (by decide)
  have hquot : n / (2 * half) < 2 ^ 53 := by
    rw [Nat.div_lt_iff_lt_mul (by omega)]
    omega
  have hmax := roundHalfEven_eq_or n (2 * half)
  rw [hround, ← hcarry]
  omega

/-- **From where on integers are too large.**  An integer has no number exactly when its size is at
least halfway from the largest number to the power of two after it. -/
theorem ofInt?_eq_none_iff {n : Int} : ofInt? n = none ↔ integerBound ≤ n.natAbs := by
  obtain ⟨half, hpos, -, hbelow, hsize, hbound⟩ := exists_halfUnit
  rw [ofInt?_eq_none_iff_not_isFinite, ofInt, ne_eq]
  by_cases hn : n.natAbs = 0
  · have hzero : (ofRatio (decide (n < 0)) 0 1).isFinite = true := rfl
    rw [hn]
    exact ⟨fun h => absurd hzero h, fun h => by omega⟩
  · have hlow : 2 ^ n.natAbs.log2 ≤ n.natAbs := Nat.log2_self_le hn
    have hhigh : n.natAbs < 2 ^ (n.natAbs.log2 + 1) := Nat.lt_log2_self
    rw [ofRatio_one _ hn, isFinite_pack]
    rcases Nat.lt_trichotomy n.natAbs.log2 1023 with hlt | heq | hgt
    · have hle := Nat.pow_le_pow_right (show 0 < 2 by decide) (Nat.succ_le_of_lt hlt)
      omega
    · have hbits : n.natAbs.log2 + 1 = 1024 := by omega
      rw [hbits] at hhigh
      have hexp : ((1023 : Nat) : Int) - 52 = 971 := rfl
      rw [heq, hexp, ← significandAt_eq_carry hhigh]
      simp only [Int.lt_irrefl, true_and, false_or, ne_eq, not_not]
    · have hge : 1024 ≤ n.natAbs.log2 := hgt
      have hle := Nat.pow_le_pow_right (show 0 < 2 by decide) hge
      omega

end Binary64

end RouteIntake.Numeral
