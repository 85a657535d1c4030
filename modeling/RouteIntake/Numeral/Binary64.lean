import RouteIntake.Numeral.Rounding

/-!
# Binary floating-point numbers

A `Binary64` is a datum of the 64-bit binary interchange format: not a number, one of the two
infinities, or a finite number, which is a sign, a significand and a power of two.  A finite datum
is a whole multiple of the smallest positive one, 2 to the power -1074; `units` is that multiple,
and all comparisons are comparisons of it, so no operation rounds but `ofRatio`.

`ofRatio` gives the nearest datum to a quotient, ties to the even significand; `ofInt?` and
`ofDecimal` are built on it.
-/

namespace RouteIntake.Numeral

/-- A datum of the 64-bit binary floating-point format. -/
inductive Binary64
  /-- Not a number. -/
  | nan
  /-- An infinity, with its sign. -/
  | infinity (negative : Bool)
  /-- `significand` times 2 to the power `exponent`, with a sign of its own so that zero has two
  forms. -/
  | finite (negative : Bool) (significand : Nat) (exponent : Int)
deriving DecidableEq, Repr, Inhabited

namespace Binary64

/-- The exponent of the smallest positive datum. -/
def minExponent : Int := -1074

/-- The exponent of the largest finite datum. -/
def maxExponent : Int := 971

/-- The number of bits of a significand. -/
def precision : Nat := 53

/-- Zero with the given sign. -/
def signedZero (negative : Bool) : Binary64 := .finite negative 0 minExponent

/-- A finite datum as a multiple of the smallest positive datum. -/
def units (negative : Bool) (significand : Nat) (exponent : Int) : Int :=
  let size : Int := (significand * Nat.pow 2 (exponent - minExponent).toNat : Nat)
  if negative then -size else size

/-- The quotient `num / den` as a multiple of 2 to the power `exponent`, rounded to the nearest
whole number. -/
def significandAt (num den : Nat) (exponent : Int) : Nat :=
  match exponent with
  | .ofNat e => roundHalfEven num (den * Nat.pow 2 e)
  | .negSucc e => roundHalfEven (num * Nat.pow 2 (e + 1)) den

/-- The datum with this significand and exponent; a significand that rounding has carried to one
bit more is halved, and too large an exponent gives an infinity. -/
def pack (negative : Bool) (significand : Nat) (exponent : Int) : Binary64 :=
  let carried := Nat.beq significand (Nat.pow 2 precision)
  let exponent := if carried then exponent + 1 else exponent
  if maxExponent < exponent then .infinity negative
  else .finite negative (if carried then Nat.pow 2 (precision - 1) else significand) exponent

/-- The datum nearest to `num / den`; of two that are equally near, the one with the even
significand. -/
def ofRatio (negative : Bool) (num den : Nat) : Binary64 :=
  if Nat.beq num 0 then signedZero negative
  else
    let guess : Int := (num.log2 : Int) - (den.log2 : Int) - precision
    let exponent := if guess < minExponent then minExponent else guess
    let bound := Nat.pow 2 precision
    let tooSmall : Bool :=
      match exponent with
      | .ofNat e => Nat.ble (bound * (den * Nat.pow 2 e)) num
      | .negSucc e => Nat.ble (bound * den) (num * Nat.pow 2 (e + 1))
    let exponent := if tooSmall then exponent + 1 else exponent
    pack negative (significandAt num den exponent) exponent

/-- The number of decimal digits of a natural number; zero has none. -/
def digitCount (n : Nat) : Nat := if Nat.beq n 0 then 0 else (Nat.toDigits 10 n).length

/-- The datum nearest to `coefficient` times 10 to the power `exponent`.  Exponents far outside the
range are settled without computing the power. -/
def ofDecimal (negative : Bool) (coefficient : Nat) (exponent : Int) : Binary64 :=
  if Nat.beq coefficient 0 then signedZero negative
  else
    let magnitude : Int := (digitCount coefficient : Int) + exponent
    if 310 < magnitude then .infinity negative
    else if magnitude < -330 then signedZero negative
    else
      match exponent with
      | .ofNat e => ofRatio negative (coefficient * Nat.pow 10 e) 1
      | .negSucc e => ofRatio negative coefficient (Nat.pow 10 (e + 1))

/-- The datum nearest to an integer, infinite beyond the range. -/
def ofInt (n : Int) : Binary64 := ofRatio (decide (n < 0)) n.natAbs 1

/-- The finite datum nearest to an integer, if there is one. -/
def ofInt? (n : Int) : Option Binary64 :=
  match ofInt n with
  | .finite s m e => some (.finite s m e)
  | _ => none

/-- Whether the datum is a finite number. -/
def isFinite : Binary64 → Bool
  | .finite .. => true
  | _ => false

/-- The order of numbers; a datum that is not a number is below nothing and above nothing. -/
def lt : Binary64 → Binary64 → Bool
  | .nan, _ | _, .nan => false
  | .infinity s, .infinity t => s && !t
  | .infinity s, .finite .. => s
  | .finite .., .infinity t => !t
  | .finite s m e, .finite t n f => decide (units s m e < units t n f)

/-- Equality of numbers: the two zeros are equal, and a datum that is not a number equals
nothing. -/
def numEq : Binary64 → Binary64 → Bool
  | .infinity s, .infinity t => s == t
  | .finite s m e, .finite t n f => decide (units s m e = units t n f)
  | _, _ => false

/-- Below or equal. -/
def le (x y : Binary64) : Bool := lt x y || numEq x y

/-- The integer that a finite datum without fractional part is. -/
def toInt? : Binary64 → Option Int
  | .finite s m e =>
    let size := (units s m e).natAbs
    let one := Nat.pow 2 1074
    if Nat.beq (size % one) 0 then
      some (if s then -((size / one : Nat) : Int) else ((size / one : Nat) : Int))
    else none
  | _ => none

/-- Zero, of either sign. -/
def isZero : Binary64 → Bool
  | .finite _ m _ => Nat.beq m 0
  | _ => false

@[simp] theorem lt_nan (x : Binary64) : lt x .nan = false := by cases x <;> rfl

@[simp] theorem nan_lt (x : Binary64) : lt .nan x = false := by cases x <;> rfl

@[simp] theorem nan_le (x : Binary64) : le .nan x = false := by cases x <;> rfl

/-- A finite datum equals itself. -/
theorem numEq_self_of_isFinite {x : Binary64} (h : x.isFinite = true) : numEq x x = true := by
  cases x <;> simp_all [isFinite, numEq]

theorem isFinite_of_ofInt? {n : Int} {x : Binary64} (h : ofInt? n = some x) :
    x.isFinite = true := by
  unfold ofInt? at h
  split at h
  · cases h; rfl
  · simp at h

example : ofDecimal false 1 (-1) = .finite false 7205759403792794 (-56) := by decide +kernel
example : ofInt? 3 = some (.finite false 6755399441055744 (-51)) := by decide +kernel
example : ofInt? 9007199254740993 = ofInt? 9007199254740992 := by decide +kernel
example : ofDecimal false 5 (-324) = .finite false 1 (-1074) := by decide +kernel
example : ofDecimal false 1 309 = .infinity false := by decide +kernel

end Binary64

end RouteIntake.Numeral
