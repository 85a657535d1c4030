import RouteIntake.Document.Basic
import RouteIntake.Numeral.Shortest
import RouteIntake.Text.Digit
import RouteIntake.Text.Surrogate

/-!
# Writing documents

A document is written without gaps.  Two styles differ in what they do to characters beyond ASCII:
the canonical style escapes them, those beyond the basic plane as a pair, and has the members of
every object in the order of the codes of their names (`write`); the compact style leaves them as
they are and the members in their own order (`compact`).  A number that is not finite has no text
form and is written as null.
-/

namespace RouteIntake.Document

open Numeral Text

mutual

/-- The document with the members of every object sorted by name. -/
def sorted : Document → Document
  | .array ds => .array (sortedItems ds)
  | .object ms => .object ((sortedMembers ms).mergeSort fun a b =>
      !decide (codes b.1.toList < codes a.1.toList))
  | d => d

/-- The items with the objects inside them sorted. -/
def sortedItems : List Document → List Document
  | [] => []
  | d :: ds => sorted d :: sortedItems ds

/-- The members with the objects inside them sorted, in their own order. -/
def sortedMembers : List (String × Document) → List (String × Document)
  | [] => []
  | (name, d) :: ms => (name, sorted d) :: sortedMembers ms

end

/-- A code unit as an escape. -/
def unitEscape (n : Nat) : List Char := '\\' :: 'u' :: hexDigits 4 n

/-- A way to write the codes that need not be escaped. -/
abbrev CodeStyle := Nat → List Char

/-- Printable ASCII as it is, everything else escaped. -/
def asciiStyle : CodeStyle := fun n =>
  if Nat.ble 0x20 n && Nat.blt n 0x7f then [Char.ofNat n]
  else if Nat.blt n 0x10000 then unitEscape n
  else
    unitEscape (0xd800 + (n - 0x10000) / 0x400) ++ unitEscape (0xdc00 + (n - 0x10000) % 0x400)

/-- All characters as they are, but for the control characters. -/
def openStyle : CodeStyle := fun n => if Nat.blt n 0x20 then unitEscape n else keepCode n

/-- The letters that stand for control characters after a backslash. -/
def letterEscapes : List (Nat × Char) :=
  [(0x0a, 'n'), (0x0d, 'r'), (0x09, 't'), (0x08, 'b'), (0x0c, 'f')]

/-- A code inside a written text. -/
def writeCode (style : CodeStyle) (n : Nat) : List Char :=
  if n == '\x22'.toNat || n == '\\'.toNat then ['\\', Char.ofNat n]
  else
    match letterEscapes.lookup n with
    | some letter => ['\\', letter]
    | none => style n

/-- A text between double quotes. -/
def writeText (style : CodeStyle) (s : String) : List Char :=
  '\x22' :: ((codes s.toList).flatMap (writeCode style) ++ ['\x22'])

/-- Entries with commas between them. -/
def joinEntries : List (List Char) → List Char
  | [] => []
  | [e] => e
  | e :: es => e ++ ',' :: joinEntries es

mutual

/-- The characters of a document, with the members of objects in their own order. -/
def writeChars (style : CodeStyle) : Document → List Char
  | .null => ['n', 'u', 'l', 'l']
  | .boolean b => if b then ['t', 'r', 'u', 'e'] else ['f', 'a', 'l', 's', 'e']
  | .integer n => (toString n).toList
  | .number x => if x.isFinite then x.chars else ['n', 'u', 'l', 'l']
  | .text s => writeText style s
  | .constant _ s => writeText style s
  | .array ds => '\x5b' :: (joinEntries (writeItems style ds) ++ ['\x5d'])
  | .object ms => '\x7b' :: (joinEntries (writeMembers style ms) ++ ['\x7d'])

/-- The written items of an array. -/
def writeItems (style : CodeStyle) : List Document → List (List Char)
  | [] => []
  | d :: ds => writeChars style d :: writeItems style ds

/-- The written members of an object. -/
def writeMembers (style : CodeStyle) : List (String × Document) → List (List Char)
  | [] => []
  | (name, d) :: ms =>
    (writeText style name ++ ':' :: writeChars style d) :: writeMembers style ms

end

/-- The canonical text of a document. -/
def write (d : Document) : String := String.ofList (writeChars asciiStyle d.sorted)

/-- The text of a document in the compact style. -/
def compact (d : Document) : List Char := writeChars openStyle d

end RouteIntake.Document
