import RouteIntake.Document.Parts
import RouteIntake.Text.Case

/-!
# Levels of loggers

The level of a logger is a number; lines below it are dropped.  `LogLevels.ofName` reads the name of
a level, and `configure` sets the levels of the service's loggers and of the loggers that would say
too much.  The root logger is configured once only: its level stays what it was when it has a
handler.
-/

namespace RouteIntake.LogLevels

open Text

/-- The levels by name. -/
def table : List (String × Nat) :=
  [("DEBUG", 10), ("INFO", 20), ("WARNING", 30), ("WARN", 30), ("ERROR", 40), ("CRITICAL", 50),
   ("FATAL", 50), ("NOTSET", 0)]

/-- The layout of a line. -/
def layout : String := "%(asctime)s - %(name)s - %(levelname)s - %(message)s"

/-- The layout of a time. -/
def timeLayout : String := "%Y-%m-%d %H:%M:%S"

/-- Names beside the levels that stand for something else, with the kind and the text of the error
that each ends in: the layout of a line without its time, and the styles of such layouts. -/
def misnomers : List (String × String × String) :=
  [("BASIC_FORMAT", "ValueError", "Unknown level: '%(levelname)s:%(name)s:%(message)s'"),
   ("_STYLES", "TypeError",
    "Level not an integer or a valid string: " ++
      "\x7b'%': (<class 'logging.PercentStyle'>, '%(levelname)s:%(name)s:%(message)s'), " ++
      "'\x7b': (<class 'logging.StrFormatStyle'>, " ++
      "'\x7blevelname\x7d:\x7bname\x7d:\x7bmessage\x7d'), " ++
      "'$': (<class 'logging.StringTemplateStyle'>, " ++
      "'$\x7blevelname\x7d:$\x7bname\x7d:$\x7bmessage\x7d')\x7d")]

/-- Why loggers are not configured. -/
inductive Fault
  /-- The name of a level is no text. -/
  | notText (breakdown : Breakdown)
  /-- The name stands for something that is no level. -/
  | misnomer (kind message : String)
deriving DecidableEq, Repr

/-- The level with a name in any letter case, that of information for an unknown name. -/
def ofName (name : String) : Except Fault Nat :=
  let word := upper name
  match misnomers.lookup word with
  | some (kind, message) => .error (.misnomer kind message)
  | none => .ok ((table.lookup word).getD 20)

/-- The level that a setting names. -/
def ofSetting (d : Document) : Except Fault Nat :=
  match d.textFor "upper" with
  | .ok name => ofName name
  | .error b => .error (.notText b)

/-- The loggers of a service: the level of the root and whether it has a handler, and the levels of
named loggers. -/
structure Loggers where
  /-- The level of the root logger. -/
  root : Nat
  /-- The number of handlers of the root logger. -/
  handlers : Nat
  /-- The levels of named loggers. -/
  named : List (String × Nat)
deriving DecidableEq, Repr

/-- The loggers before they are configured. -/
def fresh : Loggers := ⟨30, 0, []⟩

/-- Sets the levels for a service that logs from a level on. -/
def configure (level : Nat) (ls : Loggers) : Loggers where
  root := if ls.handlers == 0 then level else ls.root
  handlers := if ls.handlers == 0 then 1 else ls.handlers
  named :=
    [("api.requests", level), ("asyncio", 30), ("httpx", 30), ("routeparams", level),
     ("uvicorn.access", 30)]

/-- Configures the loggers for one level after another. -/
def configureAll : List Document → Loggers → Except Fault Loggers
  | [], ls => .ok ls
  | d :: ds, ls =>
    match ofSetting d with
    | .error fault => .error fault
    | .ok level => configureAll ds (configure level ls)

/-- Once configured, the root logger keeps its level. -/
theorem root_configure_configure (first second : Nat) :
    (configure second (configure first fresh)).root = first := rfl

end RouteIntake.LogLevels
