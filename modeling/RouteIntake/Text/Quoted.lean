import RouteIntake.Text.Digit
import RouteIntake.Text.Printable
import RouteIntake.Text.Surrogate

/-!
# Quoted texts

A text inside a list, a dictionary or a log line is shown between quotes: single quotes, unless the
text has a single quote and no double quote.  A backslash and the enclosing quote are escaped, line
feed, carriage return and tab have their letters, and other unprintable characters are written as
`\xhh`, `\uhhhh` or `\Uhhhhhhhh`, whichever is the shortest that fits.  Half of a pair is not
printable.
-/

namespace RouteIntake.Text

/-- The quote that encloses a text. -/
def quoteOf (cs : List Char) : Char :=
  if cs.contains '\x27' && !cs.contains '\x22' then '\x22' else '\x27'

/-- The character with a code inside quotes. -/
def escapeCode (quote : Char) (n : Nat) : List Char :=
  if n == '\\'.toNat || n == quote.toNat then ['\\', Char.ofNat n]
  else if n == '\n'.toNat then ['\\', 'n']
  else if n == '\r'.toNat then ['\\', 'r']
  else if n == '\t'.toNat then ['\\', 't']
  else if isPrintable n then [Char.ofNat n]
  else if Nat.blt n 0x100 then '\\' :: 'x' :: hexDigits 2 n
  else if Nat.blt n 0x10000 then '\\' :: 'u' :: hexDigits 4 n
  else '\\' :: 'U' :: hexDigits 8 n

/-- The characters of a quoted text, the quotes included. -/
def quotedChars (cs : List Char) : List Char :=
  let quote := quoteOf cs
  quote :: ((codes cs).flatMap (escapeCode quote) ++ [quote])

/-- A text between quotes. -/
def quoted (s : String) : String := String.ofList (quotedChars s.toList)

end RouteIntake.Text
