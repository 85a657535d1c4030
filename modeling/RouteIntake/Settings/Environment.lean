import RouteIntake.Rejection
import RouteIntake.Settings.Assignments
import RouteIntake.Text.Surrogate

/-!
# The environment

An environment binds names to texts.  Not every name can be bound and not every value can be bound
to: a variable is kept as bytes that end with a zero, with an equals sign between its name and its
text.  `checkVariables` says whether all of several variables can be set, one after another, and why
the first that cannot be set cannot.

A byte that is part of no character is kept as the half of a character, so the halves from
U+DC80 to U+DCFF are as good as characters here.
-/

namespace RouteIntake.Settings

open Text

/-- Why a variable cannot be set. -/
inductive VariableFault
  /-- The value is of this kind, and not a text. -/
  | notText (kind : String)
  /-- A text has halves of characters in places `first` to `last`; this unit is the first. -/
  | unencodable (unit first last : Nat)
  /-- The name or the text has a character of code zero. -/
  | zeroInside
  /-- The name has an equals sign. -/
  | equalsInside
  /-- The name is empty. -/
  | nameless
deriving DecidableEq, Repr

namespace VariableFault

/-- The name of the kind of fault. -/
def kind : VariableFault → String
  | notText _ => "TypeError"
  | unencodable .. => "UnicodeEncodeError"
  | zeroInside => "ValueError"
  | equalsInside => "ValueError"
  | nameless => "OSError"

/-- What is said of a fault. -/
def message : VariableFault → String
  | notText kind => "str expected, not " ++ kind
  | unencodable unit first last => halvesText unit first last
  | zeroInside => "embedded null byte"
  | equalsInside => "illegal environment variable name"
  | nameless => "[Errno 22] Invalid argument"

end VariableFault

/-- Whether a code is that of a byte that is part of no character. -/
def isByteCode (n : Nat) : Bool := Nat.ble 0xdc80 n && Nat.ble n 0xdcff

/-- Checks that a text has bytes. -/
def checkEncodable (s : String) : Except VariableFault Unit :=
  match firstHalvesWhere? (fun n => isHalf n && !isByteCode n) (codes s.toList) with
  | some (unit, first, last) => .error (.unencodable unit first last)
  | none => .ok ()

/-- Checks that a variable of a name with a text can be set. -/
def checkBinding (name text : String) : Except VariableFault Unit :=
  if name.toList.contains '\x00' || text.toList.contains '\x00' then .error .zeroInside
  else if name.toList.contains '=' then .error .equalsInside
  else if name.isEmpty then .error .nameless
  else .ok ()

/-- Checks that a variable can be set. -/
def checkVariable (binding : String × Document) : Except VariableFault Unit := do
  checkEncodable binding.1
  match binding.2.text? with
  | some text => do
    checkEncodable text
    checkBinding binding.1 text
  | none => .error (.notText binding.2.kindName)

/-- Checks that several variables can be set, one after another. -/
def checkVariables (bindings : Bindings) : Except VariableFault Unit :=
  bindings.forM checkVariable

/-- A variable can be set exactly when its name and its text hold no zero, its name holds no equals
sign, and it has a name at all. -/
theorem checkBinding_eq_ok_iff {name text : String} :
    checkBinding name text = .ok () ↔
      ('\x00' ∉ name.toList ∧ '\x00' ∉ text.toList) ∧ '=' ∉ name.toList ∧ name ≠ "" := by
  unfold checkBinding
  by_cases hz : '\x00' ∈ name.toList ∨ '\x00' ∈ text.toList
  · simp [hz]
    grind
  · by_cases he : '=' ∈ name.toList
    · simp [hz, he]
    · by_cases hn : name = "" <;> simp_all

end RouteIntake.Settings
