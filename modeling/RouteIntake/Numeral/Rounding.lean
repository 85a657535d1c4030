/-!
# Rounding a quotient

`roundHalfEven n d` is the natural number nearest to `n / d`; a half goes to the even neighbour.
Every rounding of the library, to a binary significand or to decimal places, is this one function.
-/

namespace RouteIntake.Numeral

/-- The natural number nearest to `n / d`, a half going to the even neighbour. -/
def roundHalfEven (n d : Nat) : Nat :=
  let q := n / d
  let r := n % d
  if Nat.blt (2 * r) d then q
  else if Nat.blt d (2 * r) then q + 1
  else if Nat.beq (q % 2) 0 then q else q + 1

/-- The rounded quotient is the quotient or one more. -/
theorem roundHalfEven_eq_or (n d : Nat) :
    roundHalfEven n d = n / d ∨ roundHalfEven n d = n / d + 1 := by
  simp only [roundHalfEven]
  split
  · exact Or.inl rfl
  split
  · exact Or.inr rfl
  split
  · exact Or.inl rfl
  · exact Or.inr rfl

/-- An exact multiple is not changed. -/
theorem roundHalfEven_mul (q : Nat) {d : Nat} (h : 0 < d) : roundHalfEven (q * d) d = q := by
  have hlt : Nat.blt 0 d = true := by simpa using h
  simp [roundHalfEven, Nat.mul_div_cancel q h, hlt]

end RouteIntake.Numeral
