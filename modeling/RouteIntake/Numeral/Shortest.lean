import RouteIntake.Numeral.Binary64

/-!
# The shortest decimal text of a number

A finite number is written with the fewest digits that read back as the same datum; of the texts
with that many digits the nearest one is taken, and of two that are equally near the even one.

The decimals that read back are those of the rounding interval, which reaches half way to the two
neighbours of the datum and contains its ends when the significand is even.  The search tries grids
of 1, 2, up to 17 digits.  On each grid only the two neighbours of the number can be nearest.
-/

namespace RouteIntake.Numeral

/-- A decimal with its digits as a number: `coefficient` times 10 to the power `exponent`. -/
structure ShortDecimal where
  /-- The digits, read as a number. -/
  coefficient : Nat
  /-- The power of ten of the last digit. -/
  exponent : Int
deriving DecidableEq, Repr

/-- A positive quotient, kept as numerator and denominator. -/
structure PosRatio where
  /-- The numerator. -/
  num : Nat
  /-- The denominator. -/
  den : Nat

namespace PosRatio

/-- `significand` times 2 to the power `exponent`. -/
def ofBinary (significand : Nat) (exponent : Int) : PosRatio :=
  match exponent with
  | .ofNat e => ⟨significand * Nat.pow 2 e, 1⟩
  | .negSucc e => ⟨significand, Nat.pow 2 (e + 1)⟩

/-- The quotient divided by 10 to the power `k`. -/
def scaleDown (x : PosRatio) (k : Int) : PosRatio :=
  match k with
  | .ofNat e => ⟨x.num, x.den * Nat.pow 10 e⟩
  | .negSucc e => ⟨x.num * Nat.pow 10 (e + 1), x.den⟩

/-- The greatest power of ten that is not above the quotient. -/
def decimalExponent (x : PosRatio) : Int :=
  let whole := x.num / x.den
  if Nat.ble 1 whole then (Binary64.digitCount whole : Int) - 1
  else
    let inverse := x.den / x.num
    let digits := Binary64.digitCount inverse
    if Nat.beq (Nat.pow 10 (digits - 1) * x.num) x.den then 1 - (digits : Int)
    else -(digits : Int)

end PosRatio

/-- Whether `candidate` lies in the rounding interval of `significand`, both scaled to quarters of
the last binary place, where the scaled number is `4 * significand`.  Below a power of two the
interval is half as wide, unless the exponent is the smallest. -/
def inInterval (significand : Nat) (lowest : Bool) (candidate den : Nat) : Bool :=
  let closed := Nat.beq (significand % 2) 0
  let narrow := Nat.beq significand (Nat.pow 2 (Binary64.precision - 1)) && !lowest
  let upper := (4 * significand + 2) * den
  let lower := (4 * significand - (if narrow then 1 else 2)) * den
  if closed then Nat.ble lower candidate && Nat.ble candidate upper
  else Nat.blt lower candidate && Nat.blt candidate upper

/-- The nearest decimal of at most `places` digits that reads back as the datum, if one does. -/
def decimalOn (significand : Nat) (exponent : Int) (top : Int) (places : Nat) :
    Option ShortDecimal :=
  let grid : Int := top + 1 - places
  let x := PosRatio.scaleDown (.ofBinary significand exponent) grid
  let low := x.num / x.den
  let rest := x.num % x.den
  -- A grid point `g` is `g * 4 * significand * den / num` quarters of the last binary place.
  let lowest : Bool := decide (exponent = Binary64.minExponent)
  let hits (g : Nat) : Bool := inInterval significand lowest (g * 4 * significand * x.den) x.num
  let best :=
    if Nat.blt (2 * rest) x.den then low
    else if Nat.blt x.den (2 * rest) then low + 1
    else if Nat.beq (low % 2) 0 then low else low + 1
  let other := if Nat.beq best low then low + 1 else low
  if hits best then some ⟨best, grid⟩
  else if hits other then some ⟨other, grid⟩
  else none

/-- The shortest decimal that reads back as a positive datum.  Seventeen digits always do. -/
def shortest (significand : Nat) (exponent : Int) : ShortDecimal :=
  let top := (PosRatio.ofBinary significand exponent).decimalExponent
  match (List.range 17).findSome? fun k => decimalOn significand exponent top (k + 1) with
  | some d => d
  | none => ⟨significand, exponent⟩

/-- How a number is laid out: where the positional notation ends, on both sides. -/
structure NumberLayout where
  /-- The least decimal exponent written without an exponent. -/
  positionalFrom : Int
  /-- The first decimal exponent written with an exponent. -/
  positionalTo : Int
  /-- The least number of digits of a written exponent. -/
  exponentDigits : Nat

/-- Numbers from 1e-4 up to 1e16 are written without an exponent, and an exponent has a sign and
at least two digits. -/
def numberLayout : NumberLayout := ⟨-4, 16, 2⟩

/-- The digits without their trailing zeros. -/
def dropTrailingZeros (ds : List Char) : List Char := (ds.reverse.dropWhile (· == '0')).reverse

/-- The exponent after the letter e. -/
def exponentText (layout : NumberLayout) (e : Int) : List Char :=
  let ds := Nat.toDigits 10 e.natAbs
  (if e < 0 then '-' else '+') :: (List.replicate (layout.exponentDigits - ds.length) '0' ++ ds)

/-- The text of a decimal under a layout. -/
def ShortDecimal.chars (layout : NumberLayout) (d : ShortDecimal) : List Char :=
  let all := Nat.toDigits 10 d.coefficient
  let top : Int := d.exponent + all.length - 1
  let ds := dropTrailingZeros all
  if layout.positionalFrom ≤ top && top < layout.positionalTo then
    if top < 0 then
      ['0', '.'] ++ List.replicate (-top - 1).toNat '0' ++ ds
    else
      let wholeLength := top.toNat + 1
      let whole := ds.take wholeLength
      let fraction := ds.drop wholeLength
      whole ++ List.replicate (wholeLength - whole.length) '0' ++ ['.'] ++
        (if fraction.isEmpty then ['0'] else fraction)
  else
    ds.take 1 ++ (if Nat.ble ds.length 1 then [] else '.' :: ds.drop 1) ++
      'e' :: exponentText layout top

namespace Binary64

/-- The characters of a number: the shortest ones that read back. -/
def chars : Binary64 → List Char
  | .nan => ['n', 'a', 'n']
  | .infinity negative => (if negative then ['-'] else []) ++ ['i', 'n', 'f']
  | .finite negative significand exponent =>
    (if negative then ['-'] else []) ++
      (if Nat.beq significand 0 then ['0', '.', '0']
       else (shortest significand exponent).chars numberLayout)

/-- The text of a number. -/
def text (x : Binary64) : String := String.ofList x.chars

example : (ofDecimal false 1 (-1)).chars = "0.1".toList := by decide +kernel
example : (ofDecimal false 1 16).chars = "1e+16".toList := by decide +kernel
example : (ofDecimal true 5 (-324)).chars = "-5e-324".toList := by decide +kernel
example : (ofDecimal false 123 0).chars = "123.0".toList := by decide +kernel
example : (ofDecimal false 1 23).chars = "1e+23".toList := by decide +kernel
example : (ofDecimal false 9007199254740993 0).chars = "9007199254740992.0".toList := by
  decide +kernel

end Binary64

end RouteIntake.Numeral
