import Mathlib
import RouteIntake.Proofs.Numeral.Range
import RouteIntake.Schema.Scalar

/-!
# The values of numbers

A datum that is a number has a value on the rational line with an infinity at each end
(`Binary64.value?`); one that is not a number has none.  Comparisons of data are comparisons of
values:

* `Binary64.lt_iff`, `Binary64.le_iff`: a datum is below another one exactly when both have values
  and these are in order.

With them the bounds of a shape say something of values (`Schema.Bound.allows_iff`), for a small
integer is the value of its datum (`Binary64.value?_ofInt`).
-/

namespace RouteIntake

namespace Numeral

/-- The rational numbers with an infinity at each end. -/
abbrev Extended := WithBot (WithTop ℚ)

namespace Extended

/-- A multiple of the smallest positive datum. -/
def ofUnits (n : Int) : Extended := ((n / 2 ^ 1074 : ℚ) : WithTop ℚ)

/-- A rational number as an extended one. -/
def ofRat (q : ℚ) : Extended := (q : WithTop ℚ)

lemma unit_pos : (0 : ℚ) < 2 ^ 1074 := by positivity

@[simp] lemma ofUnits_lt_ofUnits {m n : Int} : ofUnits m < ofUnits n ↔ m < n := by
  rw [ofUnits, ofUnits, WithBot.coe_lt_coe, WithTop.coe_lt_coe,
    div_lt_div_iff_of_pos_right unit_pos, Int.cast_lt]

@[simp] lemma ofUnits_le_ofUnits {m n : Int} : ofUnits m ≤ ofUnits n ↔ m ≤ n := by
  rw [← not_lt, ofUnits_lt_ofUnits, Int.not_lt]

@[simp] lemma ofUnits_inj {m n : Int} : ofUnits m = ofUnits n ↔ m = n := by
  rw [ofUnits, ofUnits, WithBot.coe_inj, WithTop.coe_inj, div_left_inj' unit_pos.ne', Int.cast_inj]

/-- So many units are one. -/
lemma ofUnits_mul (n : Int) : ofUnits (n * 2 ^ 1074) = ofRat n := by
  have hquot : ((n * 2 ^ 1074 : ℤ) : ℚ) / 2 ^ 1074 = n := by
    rw [Int.cast_mul, Int.cast_pow, Int.cast_ofNat]
    exact mul_div_cancel_right₀ _ unit_pos.ne'
  rw [ofUnits, hquot, ofRat]

@[simp] lemma bot_lt_ofUnits (n : Int) : ⊥ < ofUnits n := WithBot.bot_lt_coe _

@[simp] lemma ofUnits_lt_top (n : Int) : ofUnits n < ⊤ :=
  WithBot.coe_lt_coe.mpr (WithTop.coe_lt_top _)

end Extended

namespace Binary64

open Extended

/-- The value of a datum, if it is a number.  A finite datum is a whole multiple of the smallest
positive one. -/
def value? : Binary64 → Option Extended
  | .nan => none
  | .infinity negative => some (if negative then ⊥ else ⊤)
  | .finite negative significand exponent => some (ofUnits (units negative significand exponent))

/-- Data are in order exactly when their values are. -/
lemma lt_iff {x y : Binary64} :
    x.lt y = true ↔ ∃ v w, x.value? = some v ∧ y.value? = some w ∧ v < w := by
  cases x with
  | nan => simp [value?]
  | infinity s =>
    cases y with
    | nan => simp [value?]
    | infinity t => cases s <;> cases t <;> simp [lt, value?]
    | finite t n f => cases s <;> simp [lt, value?]
  | finite s m e =>
    cases y with
    | nan => simp [value?]
    | infinity t => cases t <;> simp [lt, value?]
    | finite t n f => simp [lt, value?]

/-- Data are equal as numbers exactly when their values are equal. -/
lemma numEq_iff {x y : Binary64} :
    x.numEq y = true ↔ ∃ v, x.value? = some v ∧ y.value? = some v := by
  cases x with
  | nan => simp [numEq, value?]
  | infinity s =>
    cases y with
    | nan => simp [numEq, value?]
    | infinity t => cases s <;> cases t <;> simp [numEq, value?]
    | finite t n f =>
      cases s <;> simp [numEq, value?, (ofUnits_lt_top _).ne, (bot_lt_ofUnits _).ne']
  | finite s m e =>
    cases y with
    | nan => simp [numEq, value?]
    | infinity t => cases t <;> simp [numEq, value?, (ofUnits_lt_top _).ne', (bot_lt_ofUnits _).ne]
    | finite t n f => simp [numEq, value?, eq_comm]

lemma le_iff {x y : Binary64} :
    x.le y = true ↔ ∃ v w, x.value? = some v ∧ y.value? = some w ∧ v ≤ w := by
  rw [le, Bool.or_eq_true, lt_iff, numEq_iff]
  constructor
  · rintro (⟨v, w, hv, hw, hlt⟩ | ⟨v, hv, hw⟩)
    · exact ⟨v, w, hv, hw, hlt.le⟩
    · exact ⟨v, v, hv, hw, le_rfl⟩
  · rintro ⟨v, w, hv, hw, hle⟩
    rcases hle.lt_or_eq with hlt | rfl
    · exact Or.inl ⟨v, w, hv, hw, hlt⟩
    · exact Or.inr ⟨v, hv, hw⟩

/-- An integer with few bits is scaled up to a significand, and nothing is rounded. -/
lemma significandAt_of_log2_le {n : Nat} (h : n.log2 ≤ 52) :
    significandAt n 1 ((n.log2 : Int) - 52) = n * 2 ^ (52 - n.log2) := by
  have hround (m : Nat) : roundHalfEven m 1 = m := by
    simpa using roundHalfEven_mul m (show 0 < 1 by decide)
  cases he : (n.log2 : Int) - 52 with
  | ofNat e =>
    have hlog : 52 - n.log2 = 0 := by
      rw [Int.ofNat_eq_natCast] at he
      omega
    have hzero : e = 0 := by
      rw [Int.ofNat_eq_natCast] at he
      omega
    rw [hlog, hzero, significandAt_ofNat, Nat.pow_zero, Nat.mul_one, hround]
  | negSucc e =>
    have hlog : 52 - n.log2 = e + 1 := by omega
    simp only [significandAt, Nat.pow_eq, hround, hlog]

/-- An integer that is scaled up to a significand has the bits of one. -/
lemma mul_two_pow_lt {n : Nat} (h : n.log2 ≤ 52) : n * 2 ^ (52 - n.log2) < 2 ^ 53 := by
  have hlt : n < 2 ^ (n.log2 + 1) := Nat.lt_log2_self
  calc n * 2 ^ (52 - n.log2)
      < 2 ^ (n.log2 + 1) * 2 ^ (52 - n.log2) := Nat.mul_lt_mul_of_pos_right hlt (Nat.two_pow_pos _)
    _ = 2 ^ 53 := by
        rw [← Nat.pow_add]
        congr 1
        omega

/-- An integer with few bits is a datum without rounding. -/
lemma value?_ofInt {n : Int} (h : n.natAbs < 2 ^ 53) : (ofInt n).value? = some (ofRat n) := by
  by_cases hn : n = 0
  · subst hn
    show some (ofUnits 0) = some (ofRat ((0 : Int) : ℚ))
    rw [← ofUnits_mul, Int.zero_mul]
  · have habs : n.natAbs ≠ 0 := Int.natAbs_ne_zero.mpr hn
    have hlog : n.natAbs.log2 ≤ 52 := Nat.le_of_lt_succ ((Nat.log2_lt habs).mpr h)
    have hcarried : Nat.beq (n.natAbs * 2 ^ (52 - n.natAbs.log2)) (Nat.pow 2 53) = false := by
      rw [← Bool.not_eq_true, Nat.beq_eq, Nat.pow_eq]
      exact (mul_two_pow_lt hlog).ne
    have hmax : ¬((971 : Int) < n.natAbs.log2 - 52) := by omega
    have hunits : n.natAbs * 2 ^ (52 - n.natAbs.log2) *
        2 ^ ((n.natAbs.log2 : Int) - 52 - -1074).toNat =
        n.natAbs * 2 ^ 1074 := by
      rw [Nat.mul_assoc, ← Nat.pow_add]
      congr 2
      omega
    rw [ofInt, ofRatio_one _ habs, significandAt_of_log2_le hlog]
    simp only [pack, precision, maxExponent, hcarried, Bool.false_eq_true, if_false, hmax, value?,
      units, minExponent, Nat.pow_eq, hunits, decide_eq_true_eq]
    rw [← ofUnits_mul, Nat.cast_mul, Nat.cast_pow, Nat.cast_ofNat, Int.natCast_natAbs]
    congr 2
    -- the power stays a closed term from here on, so that nothing computes it
    generalize (2 : ℤ) ^ 1074 = unit
    split
    · rename_i hneg
      rw [abs_of_neg hneg, Int.neg_mul, Int.neg_neg]
    · rename_i hpos
      rw [abs_of_nonneg (Int.not_lt.mp hpos)]

end Binary64

end Numeral

namespace Schema

open Numeral Extended

/-- Whether a value keeps a bound. -/
def Bound.Keeps : Bound → Extended → Prop
  | .atMost n, v => v ≤ ofRat n
  | .atLeast n, v => ofRat n ≤ v
  | .above n, v => ofRat n < v

/-- Whether an integer keeps a bound. -/
def Bound.KeepsInt : Bound → ℤ → Prop
  | .atMost n, v => v ≤ n
  | .atLeast n, v => n ≤ v
  | .above n, v => n < v

lemma Bound.allowsInt_iff {b : Bound} {n : ℤ} : b.allowsInt n = true ↔ b.KeepsInt n := by
  cases b <;> simp [allowsInt, KeepsInt]

/-- The integer of a bound. -/
def Bound.limit : Bound → Int
  | .atMost n | .atLeast n | .above n => n

/-- A number that a bound allows has a value that keeps it. -/
lemma Bound.allows_iff {b : Bound} (h : b.limit.natAbs < 2 ^ 53) {x : Binary64} :
    b.allows x = true ↔ ∃ v, x.value? = some v ∧ b.Keeps v := by
  have hlimit := Binary64.value?_ofInt h
  cases b with
  | atMost n =>
    rw [limit] at hlimit
    simp [allows, Keeps, Binary64.le_iff, hlimit]
  | atLeast n =>
    rw [limit] at hlimit
    simp [allows, Keeps, Binary64.le_iff, hlimit]
  | above n =>
    rw [limit] at hlimit
    simp [allows, Keeps, Binary64.lt_iff, hlimit]

end Schema

end RouteIntake
