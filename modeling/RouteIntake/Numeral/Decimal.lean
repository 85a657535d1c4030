import RouteIntake.Numeral.Binary64
import RouteIntake.Text.Blank
import RouteIntake.Text.Digit

/-!
# Reading numbers from text

A decimal has an optional sign, digits with at most one point among them, and an optional exponent.
The words `inf`, `infinity` and `nan` are read in any letter case.  `Binary64.read?` reads exactly
this grammar in ASCII.

Three readers stand on top of it.  They trim blanks and let digits be grouped by underscores, each
by a rule of its own: `Binary64.ofForm?` reads a number from a form, `Binary64.ofAnyScript?` takes
the decimal digits of every script, and `integerOfForm` reads a whole number from a form, which may
have leading zeros and a fraction of zeros.
-/

namespace RouteIntake.Numeral

open RouteIntake.Text

/-- Splits off the ASCII digits at the start of a text. -/
def takeDigits : List Char → List Nat × List Char
  | [] => ([], [])
  | c :: rest =>
    match asciiDigit? c with
    | some v => let (vs, after) := takeDigits rest; (v :: vs, after)
    | none => ([], c :: rest)

/-- The number with the given decimal digits, the most significant first. -/
def ofDigits (ds : List Nat) : Nat := ds.foldl (fun n d => 10 * n + d) 0

/-- Splits off a sign; `true` is a minus. -/
def takeSign : List Char → Bool × List Char
  | '-' :: rest => (true, rest)
  | '+' :: rest => (false, rest)
  | cs => (false, cs)

/-- The exponent at the end of a decimal: nothing, or a letter e with a whole number. -/
def readExponent? : List Char → Option Int
  | [] => some 0
  | c :: rest =>
    if c == 'e' || c == 'E' then
      let (negative, cs) := takeSign rest
      match takeDigits cs with
      | ([], _) => none
      | (ds, []) =>
        let n : Int := (ofDigits ds : Nat)
        some (if negative then -n else n)
      | _ => none
    else none

/-- The fraction of a decimal, if a point follows, and what is left. -/
def takeFraction : List Char → List Nat × List Char
  | '.' :: rest => takeDigits rest
  | cs => ([], cs)

/-! ## Groups of digits -/

/-- The character that separates groups of digits. -/
def isGroupMark (c : Char) : Bool := c == '_'

/-- Whether two underscores stand side by side. -/
def hasEmptyGroup : List Char → Bool
  | c :: d :: rest => (isGroupMark c && isGroupMark d) || hasEmptyGroup (d :: rest)
  | _ => false

/-- Whether a text is made of groups: it has underscores, but none at its ends and no two side by
side. -/
def hasGroups (cs : List Char) : Bool :=
  cs.any isGroupMark && !(cs.head?.any isGroupMark) && !(cs.getLast?.any isGroupMark) &&
    !hasEmptyGroup cs

/-- The text without the underscores that stand between two digits.  `afterDigit` says that a digit
stands before. -/
def joinGroups (afterDigit : Bool) : List Char → List Char
  | [] => []
  | c :: rest =>
    if afterDigit && isGroupMark c && (rest.head?.any fun d => (asciiDigit? d).isSome) then
      joinGroups false rest
    else c :: joinGroups (asciiDigit? c).isSome rest

namespace Binary64

/-- Reads the words for an infinity and for not a number, in any letter case. -/
def readWord? (negative : Bool) (cs : List Char) : Option Binary64 :=
  let word := String.ofList (cs.map Char.toLower)
  if word == "inf" || word == "infinity" then some (.infinity negative)
  else if word == "nan" then some .nan
  else none

/-- Reads a decimal without surrounding blanks. -/
def read? (cs : List Char) : Option Binary64 :=
  let (negative, body) := takeSign cs
  let (whole, afterWhole) := takeDigits body
  let (fraction, afterFraction) := takeFraction afterWhole
  if whole.isEmpty && fraction.isEmpty then readWord? negative body
  else
    (readExponent? afterFraction).map fun e =>
      ofDecimal negative (ofDigits (whole ++ fraction)) (e - fraction.length)

/-- Reads a number from a form: white space around it is dropped, or else underscores inside it, but
not both. -/
def ofForm? (s : String) : Option Binary64 :=
  match read? (trim isWhiteSpace s.toList) with
  | some x => some x
  | none => if hasGroups s.toList then read? (s.toList.filter (!isGroupMark ·)) else none

/-- A text with every digit replaced by its ASCII form and every blank by a space; all other
non-ASCII characters become a question mark, which no number contains. -/
def toAsciiForm (c : Char) : Char :=
  if Nat.blt c.toNat 0x80 then c
  else if isBlank c then ' '
  else
    match digit? c with
    | some d => Nat.digitChar d
    | none => '?'

/-- Reads a number in the digits of any script, with blanks around it; an underscore may stand
between two digits.  The information separators are not blank here. -/
def ofAnyScript? (s : String) : Option Binary64 :=
  read? (joinGroups false (trim isAsciiBlank (s.toList.map toAsciiForm)))

end Binary64

/-- What can be wrong with a whole number in a form. -/
inductive IntegerFault
  /-- The text is not a whole number. -/
  | malformed
  /-- The text is too long to be read. -/
  | tooLong
deriving DecidableEq, Repr

/-- The most digits of a whole number as a text, whether it is read or written. -/
def integerTextLimit : Nat := 4300

/-- Whether a number is written with no more than so many digits. -/
def fitsDigits : Nat → Nat → Bool
  | 0, n => n == 0
  | limit + 1, n => n == 0 || fitsDigits limit (n / 10)

/-- Whether an integer can be written as a text. -/
def hasText (n : Int) : Bool := fitsDigits integerTextLimit n.natAbs

/-- Whether a character is a digit other than zero. -/
def isLeadingDigit (c : Char) : Bool := Nat.ble 0x31 c.toNat && Nat.ble c.toNat 0x39

/-- Whether a text starts with more digits than are read, the first of them not zero. -/
def isOversized (cs : List Char) : Bool :=
  let body :=
    match cs with
    | '-' :: rest => rest
    | _ => cs
  (body.head?.any isLeadingDigit) && Nat.blt integerTextLimit (takeDigits body).1.length

/-- The text without its leading zeros, and the underscores between them, after the zero or
underscore `last`.  They end at a digit or at a minus; of zeros before a point, and of zeros alone,
the last character stays. -/
def dropZeros (last : Char) : List Char → Option (List Char)
  | [] => some [last]
  | c :: rest =>
    if c == '0' || isGroupMark c then dropZeros c rest
    else if c == '-' || isLeadingDigit c then some (c :: rest)
    else if c == '.' then some (last :: c :: rest)
    else none

/-- The text of a whole number without its leading zeros, if it starts with a digit. -/
def dropLeadingZeros : List Char → Option (List Char)
  | [] => none
  | c :: rest =>
    if c == '0' then dropZeros c rest else if isLeadingDigit c then some (c :: rest) else none

/-- The text without a fraction of zeros. -/
def dropZeroFraction (cs : List Char) : List Char :=
  match cs.span fun c => !(c == '.') with
  | (whole, '.' :: '0' :: zeros) => if zeros.all (· == '0') then whole else cs
  | _ => cs

/-- The text without the underscores between its groups. -/
def dropGroupMarks (cs : List Char) : List Char :=
  if hasGroups cs then cs.filter (!isGroupMark ·) else cs

/-- Reads a whole number without leading zeros. -/
def wholeNumber? (cs : List Char) : Option Int :=
  let (negative, body) :=
    match cs with
    | '-' :: rest => (true, rest)
    | _ => (false, cs)
  match takeDigits body with
  | (ds, []) =>
    if body == ['0'] || ((body.head?.any isLeadingDigit) && Nat.ble ds.length integerTextLimit) then
      let n : Int := (ofDigits ds : Nat)
      some (if negative then -n else n)
    else none
  | _ => none

/-- The text of a whole number in its plainest form: without a plus, without leading zeros, without
a fraction of zeros, and without underscores. -/
def plainInteger? (cs : List Char) : Option (List Char) :=
  let (negative, body) := takeSign cs
  (dropLeadingZeros body).map fun digits =>
    dropGroupMarks (dropZeroFraction (if negative then '-' :: digits else digits))

/-- Reads a whole number from a form: white space around it is dropped.  The length of a text counts
before anything else. -/
def integerOfForm (s : String) : Except IntegerFault Int :=
  if isOversized s.toList then .error .tooLong
  else
    match (plainInteger? (trim isWhiteSpace s.toList)).bind wholeNumber? with
    | some n => .ok n
    | none => .error .malformed

example : Binary64.ofForm? " 10.5e-1 " = some (Binary64.ofDecimal false 105 (-2)) := by
  decide +kernel
example : Binary64.ofForm? "5." = some (Binary64.ofDecimal false 5 0) := by decide +kernel
example : Binary64.ofForm? "1_.5e_0" = some (Binary64.ofDecimal false 15 (-1)) := by decide +kernel
example : Binary64.ofForm? " 1_0" = none ∧ Binary64.ofForm? "1__0" = none := by decide +kernel
example : Binary64.ofForm? "-Infinity" = some (.infinity true) := by decide +kernel
example : Binary64.ofAnyScript? "\u00a0٣_٠.٥" = some (Binary64.ofDecimal false 305 (-1)) := by
  decide +kernel
example : Binary64.ofAnyScript? "1_.5" = none := by decide +kernel
example : Binary64.ofForm? "٣" = none := by decide +kernel
example : integerOfForm " +0_7.00 " = .ok 7 := by rfl
example : integerOfForm "0-_3" = .ok (-3) := by rfl
example : integerOfForm "5." = .error .malformed := by rfl
example : integerOfForm "-0-5" = .error .malformed := by rfl

end RouteIntake.Numeral
