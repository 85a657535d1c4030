import RouteIntake.Text.Encoding

/-!
# Percent encoding

In a path a byte may be written as a percent sign and two hexadecimal digits.  `percentDecode` reads
such a text as UTF-8, with the replacement character for invalid parts; a percent sign without two
digits stands for itself.  `percentEncode` writes a text so that only harmless characters are left
as they are.
-/

namespace RouteIntake.Text

/-- The byte that two hexadecimal digits at the start of a text stand for. -/
def hexPair? : List Char → Option UInt8
  | a :: b :: _ => do
    let high ← hexDigit? a
    let low ← hexDigit? b
    some (UInt8.ofNat (high * 16 + low))
  | _ => none

/-- The bytes of a percent-encoded text, after `skip` codes that have been read already. -/
def percentBytesFrom (skip : Nat) : List Nat → List UInt8
  | [] => []
  | n :: rest =>
    match skip with
    | skip + 1 => percentBytesFrom skip rest
    | 0 =>
      match if n == '%'.toNat then hexPair? (keepCodes (rest.take 2)) else none with
      | some b => b :: percentBytesFrom 2 rest
      | none => utf8Bytes n ++ percentBytesFrom 0 rest

/-- The bytes of a percent-encoded text. -/
def percentBytes (cs : List Char) : List UInt8 := percentBytesFrom 0 (codes cs)

/-- The text that a percent-encoded text stands for. -/
def percentDecode (s : String) : String := ofCodes (decodeUtf8Lossy (percentBytes s.toList))

/-- The characters that a location may hold as they are, letters and digits apart. -/
def locationMarks : List Char := "_.-~:/%#?=@[]!$&'()*+,;".toList

/-- Whether a location holds a character as it is. -/
def isLocationChar (c : Char) : Bool := c.isAlphanum || locationMarks.contains c

/-- A byte as a percent sign and two digits. -/
def percentByte (b : UInt8) : List Char :=
  let upperHex (n : Nat) : Char := Char.toUpper (hexDigit n)
  ['%', upperHex (b.toNat / 16), upperHex (b.toNat % 16)]

/-- A text as a location. -/
def percentEncode (s : String) : String :=
  String.ofList <| (codes s.toList).flatMap fun n =>
    if isLocationChar (Char.ofNat n) then [Char.ofNat n] else (utf8Bytes n).flatMap percentByte

end RouteIntake.Text
