import RouteIntake.Document.Reader
import RouteIntake.Settings.Assignments
import RouteIntake.Settings.Basic

/-!
# Where settings come from

Settings are given directly, by environment variables, or by a file of assignments, in this order of
precedence; what none of them names has its default.  Names are matched in any letter case: of
direct values for one setting the first counts, of variables and of assignments the last.  A list in
a variable or in the file is written as a document; `null` there is as if the name were absent, and
a document that is nested too deep ends the reading of all settings.
-/

namespace RouteIntake.Settings

open Schema Text

/-- A source of settings whose values are texts. -/
inductive Source
  /-- The variables of the environment. -/
  | environment
  /-- A file of assignments. -/
  | file
deriving DecidableEq, Repr

/-- The name of a source in messages. -/
def Source.name : Source → String
  | .environment => "EnvSettingsSource"
  | .file => "DotEnvSettingsSource"

/-- How deep the arrays and objects in a source may be nested. -/
def Source.nestingLimit : Source → Nat
  | .environment => 984
  | .file => 983

/-- Why there are no settings. -/
inductive Fault
  /-- A list in a source cannot be read. -/
  | unreadable (field : String) (source : Source)
  /-- Values are not admitted. -/
  | invalid (issues : List Issue)
  /-- There is no word for what is wrong. -/
  | brokenDown (breakdown : Breakdown)

/-- The message about a list that cannot be read. -/
def unreadableMessage (field : String) (source : Source) : String :=
  "error parsing value for field \"" ++ field ++ "\" from source \"" ++ source.name ++ "\""

/-- The names of the settings in order. -/
def fieldNames : List String := shape.fieldNames

/-- Whether a setting is a list. -/
def isListField (name : String) : Bool :=
  ["cors_origins", "cors_allow_methods", "cors_allow_headers"].contains name

/-- Whether a name is that of a setting in any letter case. -/
def isNameOf (setting name : String) : Bool := lower name == setting

/-- What the last binding of a name in any letter case says. -/
def lastBound (setting : String) (bound : Bindings) : Option Document :=
  (bound.reverse.find? fun b => isNameOf setting b.1).map Prod.snd

/-- What the first binding of a name in any letter case says. -/
def firstBound (setting : String) (bound : Bindings) : Option Document :=
  (bound.find? fun b => isNameOf setting b.1).map Prod.snd

/-! ## Putting the sources together -/

/-- What a source of texts gives for a setting. -/
def fromSource (source : Source) (bound : Bindings) (name : String) :
    Except Fault (Option Document) :=
  match (lastBound name bound).bind Document.text? with
  | none => .ok none
  | some value =>
    if isListField name then
      match Document.readWithin source.nestingLimit value.toList with
      | .ok d => .ok d.toOption
      | .error (.tooDeep nest) => .error (.brokenDown (.textTooDeep nest.name))
      | .error _ => .error (.unreadable name source)
    else .ok (some (.text value))

/-- What a source of texts gives for all settings, in order. -/
def readSource (source : Source) (bound : Bindings) :
    List String → Except Fault (List (String × Document))
  | [] => .ok []
  | name :: names => do
    let value ← fromSource source bound name
    let others ← readSource source bound names
    match value with
    | some d => .ok ((name, d) :: others)
    | none => .ok others

/-- What becomes of a word for a severity that has half of a character: not even the message that
refuses it has a form. -/
def severityBreakdown? : Document → Option Breakdown
  | .text s =>
    (firstHalves? (codes (unknownSeverityText s).toList)).map fun h => .unencodable h.1 h.2.1 h.2.2
  | _ => none

/-- A text that can be a file: one without halves of characters. -/
def writable (file : String) : Except Fault String :=
  match firstHalves? (codes file.toList) with
  | some (unit, first, last) => .error (.brokenDown (.unencodable unit first last))
  | none => .ok file

/-- The settings that direct values, environment variables and a file of assignments give. -/
def resolve (direct environment : Bindings) (file : String) : Except Fault Settings := do
  let file ← writable file
  let fromEnvironment ← readSource .environment environment fieldNames
  let fromFile ← readSource .file (assignments environment file) fieldNames
  let given := fieldNames.filterMap fun name =>
    let value := (firstBound name direct).or
      ((fromEnvironment.lookup name).or (fromFile.lookup name))
    value.map fun d => (name, d)
  match (given.lookup "log_level").bind severityBreakdown? with
  | some b => .error (.brokenDown b)
  | none =>
    match shape.check (Document.object given).bare with
    | .ok d => .ok (standard.override d)
    | .error issues => .error (.invalid issues)

end RouteIntake.Settings
