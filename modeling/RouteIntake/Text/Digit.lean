/-!
# Decimal digits

`asciiDigit?` reads the ten ASCII digits.  `digit?` reads every character of the Unicode category
Nd: these come in runs of ten consecutive characters, one run for each script, and `zeros` lists
where the runs start.
-/

namespace RouteIntake.Text

/-- The value of an ASCII digit. -/
def asciiDigit? (c : Char) : Option Nat :=
  if Nat.ble 0x30 c.toNat && Nat.ble c.toNat 0x39 then some (c.toNat - 0x30) else none

/-- The value of a hexadecimal digit in either letter case. -/
def hexDigit? (c : Char) : Option Nat :=
  let n := c.toNat
  if Nat.ble 0x30 n && Nat.ble n 0x39 then some (n - 0x30)
  else if Nat.ble 0x61 n && Nat.ble n 0x66 then some (n - 0x57)
  else if Nat.ble 0x41 n && Nat.ble n 0x46 then some (n - 0x37)
  else none

/-- The lower-case hexadecimal digit of a number below sixteen. -/
def hexDigit (n : Nat) : Char :=
  Char.ofNat (if Nat.blt n 10 then 0x30 + n else 0x57 + n)

/-- `width` hexadecimal digits of `n`, the most significant first. -/
def hexDigits (width n : Nat) : List Char :=
  match width with
  | 0 => []
  | width + 1 => hexDigits width (n / 16) ++ [hexDigit (n % 16)]

/-- The characters that stand for zero, one for each run of ten decimal digits. -/
def zeros : List Nat :=
  [0x30, 0x660, 0x6f0, 0x7c0, 0x966, 0x9e6, 0xa66, 0xae6, 0xb66, 0xbe6, 0xc66, 0xce6, 0xd66,
   0xde6, 0xe50, 0xed0, 0xf20, 0x1040, 0x1090, 0x17e0, 0x1810, 0x1946, 0x19d0, 0x1a80, 0x1a90,
   0x1b50, 0x1bb0, 0x1c40, 0x1c50, 0xa620, 0xa8d0, 0xa900, 0xa9d0, 0xa9f0, 0xaa50, 0xabf0, 0xff10,
   0x104a0, 0x10d30, 0x11066, 0x110f0, 0x11136, 0x111d0, 0x112f0, 0x11450, 0x114d0, 0x11650,
   0x116c0, 0x11730, 0x118e0, 0x11950, 0x11c50, 0x11d50, 0x11da0, 0x16a60, 0x16ac0, 0x16b50,
   0x1d7ce, 0x1d7d8, 0x1d7e2, 0x1d7ec, 0x1d7f6, 0x1e140, 0x1e2f0, 0x1e950, 0x1fbf0]

/-- The value of a decimal digit of any script. -/
def digit? (c : Char) : Option Nat :=
  zeros.findSome? fun start =>
    if Nat.ble start c.toNat && Nat.blt c.toNat (start + 10) then some (c.toNat - start) else none

example : asciiDigit? '7' = some 7 ∧ asciiDigit? 'x' = none := by decide
example : hexDigit? 'F' = some 15 ∧ hexDigits 4 0xe9 = ['0', '0', 'e', '9'] := by decide
example : digit? '٣' = some 3 ∧ digit? '３' = some 3 := by decide

/-- A hexadecimal digit reads back. -/
theorem hexDigit?_hexDigit : ∀ n < 16, hexDigit? (hexDigit n) = some n := by decide

end RouteIntake.Text
