import RouteIntake.Document.Display
import RouteIntake.Numeral.Fixed
import RouteIntake.Rejection

/-!
# Weightings

A request may weigh routes by three measures.  A weighting that applies becomes a named set of
parameters, the value written as text: a factor has two decimal places and a level is a whole
number.  A value that cannot be written so is left out, with a note of the reason and a warning in
the log; an integer too large for a number is not left out but breaks the conversion down, and so
does a value that the warning cannot show.
-/

namespace RouteIntake

open Numeral

/-- The measures by which routes are weighed. -/
inductive Measure
  /-- Green surroundings. -/
  | green
  /-- Quiet surroundings. -/
  | quiet
  /-- The difficulty of slopes. -/
  | steepnessDifficulty
deriving DecidableEq, Repr

namespace Measure

/-- The measures in the order in which they apply. -/
def all : List Measure := [green, quiet, steepnessDifficulty]

/-- The name of a measure. -/
def name : Measure → String
  | green => "green"
  | quiet => "quiet"
  | steepnessDifficulty => "steepness_difficulty"

/-- The name of the parameter that a measure sets. -/
def parameter : Measure → String
  | green => "factor"
  | quiet => "factor"
  | steepnessDifficulty => "level"

/-- Whether the parameter is a whole number. -/
def isLevel : Measure → Bool
  | steepnessDifficulty => true
  | _ => false

end Measure

/-- The measures of a request: what it says for each, null for nothing. -/
abbrev Weightings := Measure → Document

namespace Weightings

/-- The measures that an object names. -/
def ofDocument (d : Document) : Weightings := fun m => d.fieldOrNull m.name

end Weightings

/-- A weighting that applies: a name and its parameters in order. -/
structure Weighting where
  /-- The name of the weighting. -/
  name : String
  /-- The parameters, each name once. -/
  parameters : List (String × String)
deriving DecidableEq, Repr

namespace Weighting

/-- The parameters with one bound to a value; a name that is there keeps its place. -/
def bindParameter (key value : String) : List (String × String) → List (String × String)
  | [] => [(key, value)]
  | (k, v) :: rest =>
    if k == key then (key, value) :: rest else (k, v) :: bindParameter key value rest

/-- The weighting with a parameter bound to a value. -/
def bind (w : Weighting) (key value : String) : Weighting :=
  { w with parameters := bindParameter key value w.parameters }

/-- A weighting as a document. -/
def toDocument (w : Weighting) : Document :=
  .object [("name", .text w.name),
    ("parameters", .object (w.parameters.map fun p => (p.1, .text p.2)))]

/-- The weighting that a validated object describes. -/
def ofDocument (d : Document) : Weighting where
  name := ((d.fieldOrNull "name").text?).getD ""
  parameters := (d.fieldOrNull "parameters").members.map fun m => (m.1, (m.2.text?).getD "")

/-- Why a value cannot be written as a parameter. -/
inductive Flaw
  /-- The value has the wrong kind for the form with this code. -/
  | wrongKind (code kind : String)
  /-- The value has no form at all. -/
  | formless (kind : String)
  /-- The value has too many digits. -/
  | tooLong
deriving DecidableEq, Repr

/-- The text of a flaw. -/
def Flaw.message : Flaw → String
  | .wrongKind code kind =>
    "Unknown format code '" ++ code ++ "' for object of type '" ++ kind ++ "'"
  | .formless kind => "unsupported format string passed to " ++ kind ++ ".__format__"
  | .tooLong => tooLongText

/-- A factor as text, with two decimal places. -/
def factorText : Document → Except Breakdown (Except Flaw String)
  | .number x => .ok (.ok x.fixedText)
  | .integer n =>
    match Binary64.ofInt? n with
    | some x => .ok (.ok x.fixedText)
    | none => .error .overflow
  | .boolean b => .ok (.ok (if b then "1.00" else "0.00"))
  | .text _ => .ok (.error (.wrongKind "f" "str"))
  | .constant .. => .ok (.error (.wrongKind "f" "str"))
  | d => .ok (.error (.formless d.kindName))

/-- A level as text, a whole number. -/
def levelText : Document → Except Flaw String
  | .integer n => if hasText n then .ok (toString n) else .error .tooLong
  | .boolean b => .ok (if b then "1" else "0")
  | .number x => .error (.wrongKind "d" (Document.number x).kindName)
  | .text _ => .error (.wrongKind "d" "str")
  | .constant .. => .error (.wrongKind "d" "str")
  | d => .error (.formless d.kindName)

/-- The value of a measure as text. -/
def valueText (m : Measure) (d : Document) : Except Breakdown (Except Flaw String) :=
  if m.isLevel then .ok (levelText d) else factorText d

/-- What applying weightings adds: the weightings that apply, and notes of those left out. -/
structure Applied where
  /-- The weightings that apply, in order. -/
  weightings : List Weighting
  /-- A note for each one that was left out, in order. -/
  notes : List String
deriving DecidableEq, Repr

/-- The name of the logger of conversions of single parameters. -/
def skipLogger : String := "routeparams.services.requests.generic_handler"

/-- The warning about a value that is left out. -/
def skipWarning (m : Measure) (d : Document) (flaw : Flaw) : LogLine :=
  ⟨skipLogger, .warning,
    "Skipping weighting " ++ m.name ++ "=" ++ d.shown ++ ": " ++ flaw.message⟩

/-- Leaves the value of a measure out: with a warning and a note, unless the warning cannot show
it. -/
def leaveOut (room : Room) (m : Measure) (d : Document) (flaw : Flaw) : Traced Failure Applied :=
  match d.unshowable? room.texts with
  | some b => .ofOutcome (breakDown b)
  | none => do
    .say (skipWarning m d flaw)
    pure ⟨[], [m.name ++ ": " ++ flaw.message]⟩

/-- Applies the value of one measure. -/
def applyOne (room : Room) (m : Measure) (d : Document) : Traced Failure Applied :=
  if d.isNull then pure ⟨[], []⟩
  else
    match valueText m d with
    | .error b => .ofOutcome (breakDown b)
    | .ok (.ok s) => pure ⟨[⟨m.name, [(m.parameter, s)]⟩], []⟩
    | .ok (.error flaw) => leaveOut room m d flaw

/-- Applies the values of several measures, in order. -/
def applyEach (room : Room) (ws : Weightings) : List Measure → Traced Failure Applied
  | [] => pure ⟨[], []⟩
  | m :: ms => do
    let first ← applyOne room m (ws m)
    let others ← applyEach room ws ms
    pure ⟨first.weightings ++ others.weightings, first.notes ++ others.notes⟩

/-- Applies the weightings of a request. -/
def applyAll (room : Room) (ws : Weightings) : Traced Failure Applied :=
  applyEach room ws Measure.all

end Weighting

end RouteIntake
