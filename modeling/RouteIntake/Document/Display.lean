import RouteIntake.Document.Basic
import RouteIntake.Numeral.Decimal
import RouteIntake.Numeral.Shortest
import RouteIntake.Rejection
import RouteIntake.Text.Case
import RouteIntake.Text.Quoted

/-!
# Documents as text

A document that is named in a message is shown as text: null, truth values and numbers by their
words and digits, lists and objects with their entries between brackets.  A text is itself on its
own and is quoted inside a list or an object, and wherever a value is shown as one (`shown`).

A constant on its own is its value where it is passed on (`plain`), and its family and name where it
is talked about (`mention`).

Not every document can be shown: an integer with too many digits has no text, and lists and objects
may be nested too deep.  `unshowable?` says what stands in the way.
-/

namespace RouteIntake.Document

open Numeral Text

/-- The name of a constant: its family, and its value as an identifier in upper case. -/
def constantName (family value : String) : String :=
  family ++ "." ++ upper (String.ofList (value.toList.map fun c => if c == '-' then '_' else c))

mutual

/-- A document as one value among others: texts are quoted. -/
def shown : Document → String
  | .null => "None"
  | .boolean b => if b then "True" else "False"
  | .integer n => toString n
  | .number x => x.text
  | .text s => quoted s
  | .constant family value => "<" ++ constantName family value ++ ": " ++ quoted value ++ ">"
  | .array ds => "[" ++ ", ".intercalate (shownItems ds) ++ "]"
  | .object ms => "\x7b" ++ ", ".intercalate (shownMembers ms) ++ "\x7d"

/-- The items of a list, each shown as a value. -/
def shownItems : List Document → List String
  | [] => []
  | d :: ds => shown d :: shownItems ds

/-- The members of an object: the quoted name, a colon and the value. -/
def shownMembers : List (String × Document) → List String
  | [] => []
  | (name, d) :: ms => (quoted name ++ ": " ++ shown d) :: shownMembers ms

end

mutual

/-- Why a document cannot be shown where there is room for so many levels inside it, if it cannot.
What comes first in it decides. -/
def unshowable? (room : Nat) : Document → Option Breakdown
  | .integer n => if hasText n then none else some .textTooLong
  | .array ds => unshowableItem? room ds
  | .object ms => unshowableMember? room ms
  | _ => none

/-- Why the items of a list cannot be shown. -/
def unshowableItem? (room : Nat) : List Document → Option Breakdown
  | [] => none
  | d :: ds =>
    match room with
    | 0 => some .shownTooDeep
    | below + 1 => (unshowable? below d).or (unshowableItem? room ds)

/-- Why the members of an object cannot be shown. -/
def unshowableMember? (room : Nat) : List (String × Document) → Option Breakdown
  | [] => none
  | (_, d) :: ms =>
    match room with
    | 0 => some .shownTooDeep
    | below + 1 => (unshowable? below d).or (unshowableMember? room ms)

end

/-- A document on its own: a text is itself, and a constant is its value. -/
def plain : Document → String
  | .text s => s
  | .constant _ s => s
  | d => shown d

/-- A document in a sentence about it: a text is itself, and a constant is its name. -/
def mention : Document → String
  | .text s => s
  | .constant family s => constantName family s
  | d => shown d

@[simp] theorem plain_text (s : String) : plain (.text s) = s := by simp [plain]

@[simp] theorem mention_text (s : String) : mention (.text s) = s := by simp [mention]

end RouteIntake.Document
