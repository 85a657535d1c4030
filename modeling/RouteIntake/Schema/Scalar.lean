import RouteIntake.Schema.Issue
import RouteIntake.Numeral.Decimal
import RouteIntake.Text.Case
import RouteIntake.Text.Surrogate

/-!
# Checks of single values

A form value may come as a text.  The checks here read integers, numbers and booleans from the
documents that stand for them, and give the value in its normal form: `readInteger` an integer,
`readNumber` a number, `readBoolean` a boolean, `readChoice` one of several texts.  A text that has
half of a character is none of these.
-/

namespace RouteIntake.Schema

open Numeral Text

/-- Integers from numbers stay below this size. -/
def integerLimit : Int := 9223372036854775808

/-- Reads an integer: an integer of any size, a boolean as 1 or 0, a number without a fractional
part, or the text of a whole number. -/
def readInteger : Document → Except Complaint Int
  | .integer n => .ok n
  | .boolean b => .ok (if b then 1 else 0)
  | .number x =>
    if !x.isFinite then .error .notFinite
    else
      match x.toInt? with
      | none => .error .fractional
      | some n => if n.natAbs < integerLimit.natAbs then .ok n else .error .oversizedInteger
  | .text s =>
    if !isSound s then .error .notUnicode
    else
      match integerOfForm s with
      | .ok n => .ok n
      | .error .malformed => .error .unreadableInteger
      | .error .tooLong => .error .oversizedInteger
  | _ => .error .notInteger

/-- Reads a number: any number, an integer within the range, a boolean as 1 or 0, or the text of a
number. -/
def readNumber : Document → Except Complaint Binary64
  | .number x => .ok x
  | .integer n =>
    match Binary64.ofInt? n with
    | some x => .ok x
    | none => .error .notNumber
  | .boolean b => .ok (Binary64.ofInt (if b then 1 else 0))
  | .text s =>
    if !isSound s then .error .notUnicode
    else
      match Binary64.ofForm? s with
      | some x => .ok x
      | none => .error .unreadableNumber
  | _ => .error .notNumber

/-- The words for yes. -/
def yesWords : List String := ["1", "on", "t", "true", "y", "yes"]

/-- The words for no. -/
def noWords : List String := ["0", "off", "f", "false", "n", "no"]

/-- Whether an integer fits into 64 bits. -/
def fitsWord (n : Int) : Bool := decide (-integerLimit ≤ n) && decide (n < integerLimit)

/-- Reads a boolean from an integer: 0 or 1.  An integer beyond 64 bits is not even a candidate. -/
def booleanOfInteger (n : Int) : Except Complaint Bool :=
  if n == 0 then .ok false
  else if n == 1 then .ok true
  else if fitsWord n then .error .unreadableBoolean
  else .error .notBoolean

/-- Reads a boolean: a boolean, one of the numbers 0 and 1, or a word for yes or no in any letter
case. -/
def readBoolean : Document → Except Complaint Bool
  | .boolean b => .ok b
  | .integer n => booleanOfInteger n
  | .number x =>
    match x.toInt? with
    | some n => if n == -integerLimit then .error .notBoolean else booleanOfInteger n
    | none => .error .notBoolean
  | .text s =>
    let word := String.ofList (s.toList.map Char.toLower)
    if !isSound s then .error .notUnicode
    else if yesWords.contains word then .ok true
    else if noWords.contains word then .ok false
    else .error .unreadableBoolean
  | _ => .error .notBoolean

/-- Reads one of several texts. -/
def readChoice (values : List String) : Document → Except Complaint String
  | .text s =>
    if values.contains s then .ok s
    else if isSound s then .error (.notChoice values)
    else .error .notUnicode
  | _ => .error (.notChoice values)

/-- Whether an integer keeps a bound. -/
def Bound.allowsInt : Bound → Int → Bool
  | .atMost n, v => decide (v ≤ n)
  | .atLeast n, v => decide (n ≤ v)
  | .above n, v => decide (n < v)

/-- Whether a number keeps a bound; a value that is not a number keeps none. -/
def Bound.allows : Bound → Binary64 → Bool
  | .atMost n, x => x.le (.ofInt n)
  | .atLeast n, x => (Binary64.ofInt n).le x
  | .above n, x => (Binary64.ofInt n).lt x

/-- The first bound that fails, as a complaint. -/
def firstBroken (allowed : Bound → Bool) : List Bound → Except Complaint Unit
  | [] => .ok ()
  | b :: bs => if allowed b then firstBroken allowed bs else .error (.outOfBound b)

theorem firstBroken_eq_ok {allowed : Bound → Bool} {bs : List Bound} :
    firstBroken allowed bs = .ok () ↔ ∀ b ∈ bs, allowed b = true := by
  induction bs with
  | nil => simp [firstBroken]
  | cons b bs ih =>
    by_cases h : allowed b = true <;> simp [firstBroken, h, ih]

/-- The severities of log lines that a configuration may name. -/
def severityNames : List String := ["CRITICAL", "ERROR", "WARNING", "INFO", "DEBUG"]

/-- Reads the name of a severity in any letter case. -/
def readSeverity : Document → Except Complaint String
  | .text s =>
    if severityNames.contains (upper s) then .ok (upper s) else .error (.unknownSeverity s)
  | _ => .error .notText

end RouteIntake.Schema
