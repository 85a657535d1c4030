import Mathlib
import RouteIntake.Document.Same
import RouteIntake.Numeral.Fixed

/-!
# Numbers that are the same

Two numbers that are equal are written alike with two decimal places, with one exception: zero has
two forms, and the text shows which.

* `Binary64.fixedText_eq_iff`: texts of equal numbers are equal unless the numbers are zeros with
  different signs.
-/

namespace RouteIntake

namespace Numeral.Binary64

/-- Whether a number has a negative sign; zero may have one. -/
def isNegative : Binary64 → Bool
  | .nan => false
  | .infinity negative => negative
  | .finite negative _ _ => negative

/-- Two numbers that are zeros with different signs. -/
def ZerosApart (x y : Binary64) : Prop :=
  x.isZero = true ∧ y.isZero = true ∧ x.isNegative ≠ y.isNegative

/-! ## Equal numbers -/

lemma units_true (significand : Nat) (exponent : Int) :
    units true significand exponent = -units false significand exponent := rfl

lemma units_false_nonneg (significand : Nat) (exponent : Int) :
    0 ≤ units false significand exponent := Int.natCast_nonneg _

/-- A number is zero when it is no units. -/
lemma isZero_iff {negative : Bool} {significand : Nat} {exponent : Int} :
    (finite negative significand exponent).isZero = true ↔
      units false significand exponent = 0 := by
  have hpow : Nat.pow 2 (exponent - minExponent).toNat ≠ 0 := (Nat.two_pow_pos _).ne'
  simp only [isZero, Nat.beq_eq, units, Bool.false_eq_true, if_false, Nat.cast_eq_zero,
    Nat.mul_eq_zero, hpow, or_false]

/-- A number that is an integer is so many units. -/
lemma units_of_toInt? {negative : Bool} {significand : Nat} {exponent : Int} {n : Int}
    (h : (finite negative significand exponent).toInt? = some n) :
    units negative significand exponent = n * (Nat.pow 2 1074 : Nat) := by
  -- nothing is to compute the power
  simp only [toInt?] at h
  generalize Nat.pow 2 1074 = one at h ⊢
  split at h
  · rename_i hmod
    have hdiv : (units negative significand exponent).natAbs / one * one =
        (units negative significand exponent).natAbs :=
      Nat.div_mul_cancel (Nat.dvd_of_mod_eq_zero (Nat.beq_eq ▸ hmod))
    have hpos := units_false_nonneg significand exponent
    obtain rfl := Option.some.inj h
    cases negative with
    | true =>
      rw [units_true, Int.natAbs_neg] at hdiv ⊢
      rw [if_pos rfl, Int.neg_mul, ← Nat.cast_mul, hdiv, Int.natAbs_of_nonneg hpos]
    | false =>
      rw [if_neg Bool.false_ne_true, ← Nat.cast_mul, hdiv, Int.natAbs_of_nonneg hpos]
  · cases h

/-- Numbers that are the same integer are equal. -/
lemma numEq_of_toInt? {x y : Binary64} {n : Int} (hx : x.toInt? = some n)
    (hy : y.toInt? = some n) : x.numEq y = true := by
  cases x with
  | nan | infinity => cases hx
  | finite s m e =>
    cases y with
    | nan | infinity => cases hy
    | finite t k f =>
      rw [numEq, units_of_toInt? hx, units_of_toInt? hy]
      exact decide_eq_true rfl

/-! ## Two decimal places -/

/-- The text of a zero shows its sign. -/
lemma fixedText_of_isZero {x : Binary64} (h : x.isZero = true) :
    x.fixedText = if x.isNegative then "-0.00" else "0.00" := by
  cases x with
  | nan | infinity => cases h
  | finite negative significand exponent =>
    have hzero : hundredthsChars (hundredths (Int.natAbs 0)) = "0.00".toList := by decide +kernel
    rw [fixedText, fixedChars, isZero_iff.mp h, hzero]
    cases negative <;> rfl

/-- Texts of equal numbers are equal unless the numbers are zeros with different signs. -/
lemma fixedText_eq_iff {x y : Binary64} (h : x.numEq y = true) :
    x.fixedText = y.fixedText ↔ ¬x.ZerosApart y := by
  constructor
  · rintro htext ⟨hx, hy, hsign⟩
    rw [fixedText_of_isZero hx, fixedText_of_isZero hy] at htext
    revert htext hsign
    cases x.isNegative <;> cases y.isNegative <;> decide
  · intro hapart
    cases x with
    | nan => cases h
    | infinity s =>
      cases y with
      | infinity t => rw [show s = t by simpa [numEq] using h]
      | nan | finite => cases h
    | finite s m e =>
      cases y with
      | nan | infinity => cases h
      | finite t k f =>
        have hunits : units s m e = units t k f := of_decide_eq_true h
        by_cases hst : s = t
        · -- the sizes are equal as well
          have hsize : units false m e = units false k f := by
            subst hst
            cases s with
            | true => exact Int.neg_inj.mp hunits
            | false => exact hunits
          rw [fixedText, fixedText, fixedChars, fixedChars, hst, hsize]
        · -- a number and its opposite are equal where both are zero
          have hm := units_false_nonneg m e
          have hk := units_false_nonneg k f
          have hzero : units false m e = 0 ∧ units false k f = 0 := by
            cases s with
            | true =>
              obtain rfl : t = false := by simpa using Ne.symm hst
              rw [units_true] at hunits
              omega
            | false =>
              obtain rfl : t = true := by simpa using Ne.symm hst
              rw [units_true] at hunits
              omega
          exact absurd ⟨isZero_iff.mpr hzero.1, isZero_iff.mpr hzero.2, hst⟩ hapart

end Numeral.Binary64

/-! ## Documents -/

namespace Document

lemma numEq_of_same {x y : Numeral.Binary64}
    (h : (Document.number x).same (.number y) = true) : x.numEq y = true := by
  simp only [same, sameLeaf, numeral?] at h
  cases hx : x.toInt? with
  | some m =>
    cases hy : y.toInt? with
    | some n =>
      obtain rfl : m = n := by simpa [hx, hy, sameNumeral] using h
      exact Numeral.Binary64.numEq_of_toInt? hx hy
    | none => simp [hx, hy, sameNumeral] at h
  | none =>
    cases hy : y.toInt? with
    | some n => simp [hx, hy, sameNumeral] at h
    | none => simpa [hx, hy, sameNumeral] using h

lemma eq_of_same_integer {m n : Int} (h : (Document.integer m).same (.integer n) = true) :
    m = n := by
  simpa [same, sameLeaf, numeral?, sameNumeral] using h

/-- What is the same as null is null. -/
lemma isNull_of_same {d d' : Document} (h : d.same d' = true) : d'.isNull = d.isNull := by
  -- only a number has to be looked into, and it is never null
  cases d <;> cases d' <;> try rfl
  all_goals
    simp only [same, sameLeaf, numeral?, text?, isNull] at h
    repeat' split at h
    all_goals first | rfl | cases h | simp_all

end Document

end RouteIntake
