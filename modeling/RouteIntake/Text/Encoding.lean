import RouteIntake.Text.Digit
import RouteIntake.Text.Surrogate

/-!
# Encodings of text

A body is a list of bytes in one of the Unicode encodings.  A byte order mark tells which; without
one the places of the zero bytes do, for a document starts with two ASCII characters.  `decode?`
gives the codes of the text, or nothing where the bytes are not a text in their encoding.  Half of a
surrogate pair on its own is let through.

`decodeUtf8` marks every invalid part of a UTF-8 text by `none`: an invalid part is a longest start
of a character that does not go on.
-/

namespace RouteIntake.Text

/-! ## UTF-8 -/

/-- What the next byte of a UTF-8 character may be, and what has been read of it. -/
structure Utf8State where
  /-- The number of bytes that are still to come. -/
  pending : Nat
  /-- The bits read so far. -/
  bits : Nat
  /-- The least next byte. -/
  low : Nat
  /-- The greatest next byte. -/
  high : Nat

/-- What a byte at the start of a character means. -/
inductive Utf8Start
  /-- A character on its own. -/
  | whole (code : Nat)
  /-- The start of a longer character. -/
  | lead (state : Utf8State)
  /-- No start of a character. -/
  | invalid

/-- The meaning of a byte at the start of a character.  `halves` admits halves of surrogate
pairs. -/
def utf8Start (halves : Bool) (b : Nat) : Utf8Start :=
  if Nat.blt b 0x80 then .whole b
  else if Nat.ble 0xc2 b && Nat.ble b 0xdf then .lead ⟨1, b - 0xc0, 0x80, 0xbf⟩
  else if b == 0xe0 then .lead ⟨2, 0, 0xa0, 0xbf⟩
  else if b == 0xed then .lead ⟨2, 0xd, 0x80, if halves then 0xbf else 0x9f⟩
  else if Nat.ble 0xe1 b && Nat.ble b 0xef then .lead ⟨2, b - 0xe0, 0x80, 0xbf⟩
  else if b == 0xf0 then .lead ⟨3, 0, 0x90, 0xbf⟩
  else if Nat.ble 0xf1 b && Nat.ble b 0xf3 then .lead ⟨3, b - 0xf0, 0x80, 0xbf⟩
  else if b == 0xf4 then .lead ⟨3, 4, 0x80, 0x8f⟩
  else .invalid

/-- The code of the replacement character. -/
def replacement : Nat := 0xfffd

/-- Decodes UTF-8 to codes, from inside a character or from the start of one. -/
def decodeUtf8From (halves : Bool) : Option Utf8State → List UInt8 → List (Option Nat)
  | none, [] => []
  | some _, [] => [none]
  | state, b :: bytes =>
    let atStart (before : List (Option Nat)) : List (Option Nat) :=
      match utf8Start halves b.toNat with
      | .whole code => before ++ some code :: decodeUtf8From halves none bytes
      | .lead s => before ++ decodeUtf8From halves (some s) bytes
      | .invalid => before ++ none :: decodeUtf8From halves none bytes
    match state with
    | none => atStart []
    | some s =>
      if Nat.ble s.low b.toNat && Nat.ble b.toNat s.high then
        let bits := s.bits * 64 + (b.toNat - 0x80)
        if Nat.ble s.pending 1 then some bits :: decodeUtf8From halves none bytes
        else decodeUtf8From halves (some ⟨s.pending - 1, bits, 0x80, 0xbf⟩) bytes
      else atStart [none]

/-- Decodes UTF-8 to codes; `none` stands for an invalid part. -/
def decodeUtf8 (halves : Bool) (bytes : List UInt8) : List (Option Nat) :=
  decodeUtf8From halves none bytes

/-- Decodes UTF-8 with the replacement character in place of invalid parts. -/
def decodeUtf8Lossy (bytes : List UInt8) : List Nat :=
  (decodeUtf8 false bytes).map fun code => code.getD replacement

/-- All of the codes, if none is missing. -/
def allSome : List (Option Nat) → Option (List Nat)
  | [] => some []
  | some n :: ns => (allSome ns).map (n :: ·)
  | none :: _ => none

/-- The bytes of the character with a code in UTF-8. -/
def utf8Bytes (n : Nat) : List UInt8 :=
  let tail (k : Nat) : UInt8 := UInt8.ofNat (0x80 + n / k % 64)
  if Nat.blt n 0x80 then [UInt8.ofNat n]
  else if Nat.blt n 0x800 then [UInt8.ofNat (0xc0 + n / 64), tail 1]
  else if Nat.blt n 0x10000 then [UInt8.ofNat (0xe0 + n / 4096), tail 64, tail 1]
  else [UInt8.ofNat (0xf0 + n / 262144), tail 4096, tail 64, tail 1]

/-! ## UTF-16 and UTF-32 -/

/-- The 16-bit units of a list of bytes, if it has no odd byte left over. -/
def units16 (bigEndian : Bool) : List UInt8 → Option (List Nat)
  | [] => some []
  | [_] => none
  | a :: b :: rest =>
    let unit := if bigEndian then a.toNat * 256 + b.toNat else b.toNat * 256 + a.toNat
    (units16 bigEndian rest).map (unit :: ·)

/-- The codes of 16-bit units, after the first half of a pair or not. -/
def decodeUnits16 : Option Nat → List Nat → List Nat
  | none, [] => []
  | some h, [] => [h]
  | none, u :: us =>
    if isHighHalf u then decodeUnits16 (some u) us else u :: decodeUnits16 none us
  | some h, u :: us =>
    if isLowHalf u then joinHalves h u :: decodeUnits16 none us
    else if isHighHalf u then h :: decodeUnits16 (some u) us
    else h :: u :: decodeUnits16 none us

/-- The codes of 32-bit units. -/
def decodeUnits32 (bigEndian : Bool) : List UInt8 → Option (List Nat)
  | [] => some []
  | a :: b :: c :: d :: rest =>
    let word (w x y z : UInt8) : Nat :=
      ((w.toNat * 256 + x.toNat) * 256 + y.toNat) * 256 + z.toNat
    let code := if bigEndian then word a b c d else word d c b a
    if Nat.blt 0x10ffff code then none
    else (decodeUnits32 bigEndian rest).map (code :: ·)
  | _ => none

/-! ## Telling the encoding -/

/-- The encodings of a body. -/
inductive Encoding
  /-- Bytes of UTF-8. -/
  | utf8
  /-- Units of 16 bits. -/
  | utf16 (bigEndian : Bool)
  /-- Units of 32 bits. -/
  | utf32 (bigEndian : Bool)
deriving DecidableEq, Repr

/-- The encoding of a body, and its bytes without the byte order mark. -/
def detectEncoding (bytes : List UInt8) : Encoding × List UInt8 :=
  match bytes with
  | 0x00 :: 0x00 :: 0xfe :: 0xff :: rest => (.utf32 true, rest)
  | 0xff :: 0xfe :: 0x00 :: 0x00 :: rest => (.utf32 false, rest)
  | 0xfe :: 0xff :: rest => (.utf16 true, rest)
  | 0xff :: 0xfe :: rest => (.utf16 false, rest)
  | 0xef :: 0xbb :: 0xbf :: rest => (.utf8, rest)
  | a :: b :: c :: d :: _ =>
    if a == 0 then (if b == 0 then (.utf32 true, bytes) else (.utf16 true, bytes))
    else if b == 0 then
      (if c == 0 && d == 0 then (.utf32 false, bytes) else (.utf16 false, bytes))
    else (.utf8, bytes)
  | [a, b] =>
    if a == 0 then (.utf16 true, bytes)
    else if b == 0 then (.utf16 false, bytes)
    else (.utf8, bytes)
  | _ => (.utf8, bytes)

/-- The codes of a body, if its bytes are a text in their encoding. -/
def decode? (bytes : List UInt8) : Option (List Nat) :=
  match detectEncoding bytes with
  | (.utf8, bs) => allSome (decodeUtf8 true bs)
  | (.utf16 bigEndian, bs) => (units16 bigEndian bs).map (decodeUnits16 none)
  | (.utf32 bigEndian, bs) => decodeUnits32 bigEndian bs

example : decode? [0xc3, 0xa9] = some ['é'.toNat] := by decide +kernel
example : decode? [0xff, 0xfe, 0x3d, 0xd8, 0x00, 0xde] = some ['😀'.toNat] := by decide +kernel
example : decode? [0xff, 0xfe, 0x00, 0xde] = some [0xde00] := by decide +kernel
example : decode? [0xed, 0xa0, 0x80] = some [0xd800] := by decide +kernel
example : decode? [0x7b, 0xff] = none := by decide +kernel
example : decodeUtf8Lossy [0xe2, 0x82, 0x41] = [replacement, 0x41] := by decide +kernel

end RouteIntake.Text
