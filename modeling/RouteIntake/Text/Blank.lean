/-!
# Blank characters and trimming

Two classes of blank characters are in use.  `isWhiteSpace` is the Unicode property White_Space;
form values are trimmed by it.  `isBlank` has the four information separators U+001C to U+001F as
well; names that a person types are trimmed by it.

The main definition is `trim`, which drops a class of characters from both ends of a text, with
`trim_eq_self` saying when a text is left alone.
-/

namespace RouteIntake.Text

/-- The characters with the Unicode property White_Space. -/
def isWhiteSpace (c : Char) : Bool :=
  let n := c.toNat
  (Nat.ble 0x09 n && Nat.ble n 0x0d) || n == 0x20 || n == 0x85 || n == 0xa0 || n == 0x1680 ||
    (Nat.ble 0x2000 n && Nat.ble n 0x200a) || n == 0x2028 || n == 0x2029 || n == 0x202f ||
    n == 0x205f || n == 0x3000

/-- White space, and the information separators U+001C to U+001F. -/
def isBlank (c : Char) : Bool :=
  isWhiteSpace c || (Nat.ble 0x1c c.toNat && Nat.ble c.toNat 0x1f)

/-- The blank characters of ASCII without the information separators. -/
def isAsciiBlank (c : Char) : Bool :=
  (Nat.ble 0x09 c.toNat && Nat.ble c.toNat 0x0d) || c == ' '

theorem isBlank_of_isWhiteSpace {c : Char} (h : isWhiteSpace c = true) : isBlank c = true := by
  simp [isBlank, h]

/-- The text without the characters of the class `p` at its two ends. -/
def trim (p : Char → Bool) (cs : List Char) : List Char :=
  ((cs.dropWhile p).reverse.dropWhile p).reverse

@[simp] theorem trim_nil (p : Char → Bool) : trim p [] = [] := rfl

/-- A text that neither starts nor ends in the class is its own trimmed form. -/
theorem trim_eq_self {p : Char → Bool} {c d : Char} {cs : List Char}
    (hc : p c = false) (hd : p d = false) : trim p (c :: (cs ++ [d])) = c :: (cs ++ [d]) := by
  simp [trim, List.dropWhile, hc, hd]

end RouteIntake.Text
