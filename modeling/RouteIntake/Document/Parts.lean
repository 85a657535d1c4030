import RouteIntake.Document.Basic
import RouteIntake.Rejection
import RouteIntake.Text.Search
import RouteIntake.Text.Surrogate

/-!
# Parts of documents

A document that nobody has checked may be used as a list, as a text, or as something to look in.
What each document gives then is said here, and which breakdown the others end in: `parts` takes a
document apart, `textFor` needs its text, `holds` looks for a text in it.
-/

namespace RouteIntake.Document

open Text

/-- The documents that a value is made of: the items of an array, the characters of a text, the
names of an object. -/
def parts : Document → Except Breakdown (List Document)
  | .array ds => .ok ds
  | .text s => .ok ((codes s.toList).map fun n => .text (ofCodes [n]))
  | .constant _ s => .ok ((codes s.toList).map fun n => .text (ofCodes [n]))
  | .object ms => .ok (ms.map fun m => .text m.1)
  | d => .error (.notIterable d.kindName)

/-- The text of a document, for the sake of a property that only texts have. -/
def textFor (property : String) (d : Document) : Except Breakdown String :=
  match d.text? with
  | some s => .ok s
  | none => .error (.noProperty d.kindName property)

/-- Whether a document is a text. -/
def isText (s : String) (d : Document) : Bool := d.text? == some s

/-- Whether a document holds a text: as a part of a text, as an item of an array, or as a name of an
object. -/
def holds (part : String) : Document → Except Breakdown Bool
  | .text s => .ok (occursIn part.toList s.toList)
  | .constant _ s => .ok (occursIn part.toList s.toList)
  | .array ds => .ok (ds.any (isText part))
  | .object ms => .ok (ms.any fun m => m.1 == part)
  | d => .error (.notContainer d.kindName)

/-- Whether one of several documents holds a text.  Those after the first that does are not
looked at. -/
def anyHolds (part : String) : List Document → Except Breakdown Bool
  | [] => .ok false
  | d :: ds => do if ← d.holds part then .ok true else anyHolds part ds

@[simp] theorem textFor_text (property s : String) : textFor property (.text s) = .ok s := rfl

end RouteIntake.Document
