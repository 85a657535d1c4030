/-!
# Letter case, as far as ASCII words can tell

Names are compared with ASCII words in any letter case.  The maps here agree with the full Unicode
mappings wherever a mapped character contains an ASCII letter, and leave every other non-ASCII
character alone; so a text maps to an ASCII word here exactly when it does under the full mappings.

`lower` distributes over concatenation, which is what searches inside lowered texts rest on.
-/

namespace RouteIntake.Text

/-- The lower-case form of a character.  The Kelvin sign lowers to `k`, and the dotted capital
I to `i` and a combining dot. -/
def lowerChar (c : Char) : List Char :=
  match c.toNat with
  | 0x212a => ['k']
  | 0x130 => ['i', '\u0307']
  | _ => [c.toLower]

/-- The upper-case form of a character, with the ligatures and the long s that become ASCII
letters. -/
def upperChar (c : Char) : List Char :=
  match c.toNat with
  | 0xdf => ['S', 'S']
  | 0x131 => ['I']
  | 0x149 => ['\u02bc', 'N']
  | 0x17f => ['S']
  | 0x1f0 => ['J', '\u030c']
  | 0x1e96 => ['H', '\u0331']
  | 0x1e97 => ['T', '\u0308']
  | 0x1e98 => ['W', '\u030a']
  | 0x1e99 => ['Y', '\u030a']
  | 0x1e9a => ['A', '\u02be']
  | 0xfb00 => ['F', 'F']
  | 0xfb01 => ['F', 'I']
  | 0xfb02 => ['F', 'L']
  | 0xfb03 => ['F', 'F', 'I']
  | 0xfb04 => ['F', 'F', 'L']
  | 0xfb05 => ['S', 'T']
  | 0xfb06 => ['S', 'T']
  | _ => [c.toUpper]

/-- The lower-case form of a list of characters. -/
def lowerChars (cs : List Char) : List Char := cs.flatMap lowerChar

/-- The lower-case form of a text. -/
def lower (s : String) : String := String.ofList (lowerChars s.toList)

/-- The upper-case form of a text. -/
def upper (s : String) : String := String.ofList (s.toList.flatMap upperChar)

@[simp] theorem lowerChars_nil : lowerChars [] = [] := rfl

@[simp] theorem lowerChars_append (a b : List Char) :
    lowerChars (a ++ b) = lowerChars a ++ lowerChars b := by
  simp [lowerChars]

@[simp] theorem toList_lower (s : String) : (lower s).toList = lowerChars s.toList := by
  simp [lower]

end RouteIntake.Text
