import RouteIntake.Numeral.Binary64

/-!
# Two decimal places

A weighting factor is written with two digits after the point.  The exact value of the number is
rounded, a half going to the even neighbour, and the sign is kept even where the digits are all
zero.
-/

namespace RouteIntake.Numeral

/-- The number of hundredths nearest to a size in multiples of the smallest positive datum. -/
def hundredths (size : Nat) : Nat := roundHalfEven (size * 100) (Nat.pow 2 1074)

/-- The text of a number of hundredths: the whole part, a point and two digits. -/
def hundredthsChars (n : Nat) : List Char :=
  Nat.toDigits 10 (n / 100) ++
    ['.', Nat.digitChar (n % 100 / 10), Nat.digitChar (n % 10)]

namespace Binary64

/-- The characters of a number with two decimal places. -/
def fixedChars : Binary64 → List Char
  | .nan => ['n', 'a', 'n']
  | .infinity negative => (if negative then ['-'] else []) ++ ['i', 'n', 'f']
  | .finite negative significand exponent =>
    (if negative then ['-'] else []) ++
      hundredthsChars (hundredths (units false significand exponent).natAbs)

/-- The text of a number with two decimal places. -/
def fixedText (x : Binary64) : String := String.ofList x.fixedChars

example : (ofDecimal false 125 (-3)).fixedChars = "0.12".toList := by decide +kernel
example : (ofDecimal false 375 (-3)).fixedChars = "0.38".toList := by decide +kernel
example : (ofDecimal true 1 (-3)).fixedChars = "-0.00".toList := by decide +kernel
example : (ofDecimal false 1 22).fixedChars = "10000000000000000000000.00".toList := by
  decide +kernel

end Binary64

end RouteIntake.Numeral
