import RouteIntake.Document.Basic
import RouteIntake.Text.Blank

/-!
# Files of assignments

A file of assignments binds names to texts, one `NAME=value` after another, each up to the end of a
line.  A number sign starts a comment.  A value may stand in quotes, and then it may have escapes
and go on over several lines; a name may stand in single quotes, and the word `export` before it.  A
name without an equals sign is bound to nothing.  What does not fit is skipped up to the end of its
line.

A value may refer to names that were bound before it, or to the environment: `${NAME}`, or
`${NAME:-other}` with what stands in for a name that is bound nowhere.

`assignments` reads a file and puts in what is referred to.
-/

namespace RouteIntake.Settings

open Text

/-- Names with what they are bound to: a text, or null for nothing. -/
abbrev Bindings := List (String × Document)

/-! ## Lines -/

/-- Whether a character is a blank within a line. -/
def isLineBlank (c : Char) : Bool := isBlank c && !(c == '\n')

/-- The text without the blanks at its start that are within a line. -/
def skipLineBlanks (cs : List Char) : List Char := cs.dropWhile isLineBlank

/-- Splits off the rest of a line. -/
def takeLine (cs : List Char) : List Char × List Char := cs.span fun c => !(c == '\n')

/-- The text after the end of the line. -/
def dropLine (cs : List Char) : List Char := (takeLine cs).2.drop 1

/-- The text with a line feed for every end of a line. -/
def withLineFeeds : List Char → List Char
  | [] => []
  | '\r' :: '\n' :: rest => '\n' :: withLineFeeds rest
  | '\r' :: rest => '\n' :: withLineFeeds rest
  | c :: rest => c :: withLineFeeds rest

/-- The text without a byte order mark at its start. -/
def dropMark : List Char → List Char
  | '\ufeff' :: rest => rest
  | cs => cs

/-! ## Quoted texts -/

/-- Splits off the characters up to a quote.  A backslash takes the next character with it, whatever
that is. -/
def takeQuoted? (quote : Char) : List Char → Option (List Char × List Char)
  | [] => none
  | ['\\'] => none
  | '\\' :: c :: rest => (takeQuoted? quote rest).map fun r => ('\\' :: c :: r.1, r.2)
  | c :: rest =>
    if c == quote then some ([], rest)
    else (takeQuoted? quote rest).map fun r => (c :: r.1, r.2)

/-- What a letter after a backslash stands for in single quotes. -/
def singleEscape? (c : Char) : Option Char :=
  if c == '\\' || c == '\x27' then some c else none

/-- What a letter after a backslash stands for in double quotes. -/
def doubleEscape? (c : Char) : Option Char :=
  match c with
  | '\\' => some '\\'
  | '\x27' => some '\x27'
  | '\x22' => some '\x22'
  | 'a' => some '\x07'
  | 'b' => some '\x08'
  | 'f' => some '\x0c'
  | 'n' => some '\n'
  | 'r' => some '\r'
  | 't' => some '\t'
  | 'v' => some '\x0b'
  | _ => none

/-- A text with its escapes replaced. -/
def unescape (escape? : Char → Option Char) : List Char → List Char
  | '\\' :: c :: rest =>
    match escape? c with
    | some e => e :: unescape escape? rest
    | none => '\\' :: unescape escape? (c :: rest)
  | c :: rest => c :: unescape escape? rest
  | [] => []

/-! ## One assignment -/

/-- The text after the word `export`, if the word and a blank stand at its start. -/
def skipExport (cs : List Char) : List Char :=
  let word := "export".toList
  if word.isPrefixOf cs && ((cs.drop word.length).head?.any isLineBlank) then
    skipLineBlanks (cs.drop word.length)
  else cs

/-- Whether a name without quotes may have a character. -/
def isNameChar (c : Char) : Bool := !(c == '=') && !(c == '#') && !isBlank c

/-- Splits off a name.  A comment has none; where a name is missing, reading stops. -/
def takeName (cs : List Char) : Except (List Char) (Option String × List Char) :=
  match cs with
  | '#' :: _ => .ok (none, cs)
  | '\x27' :: rest =>
    match rest.span fun c => !(c == '\x27') with
    | (name, '\x27' :: after) =>
      if name.isEmpty then .error cs else .ok (some (String.ofList name), after)
    | _ => .error cs
  | _ =>
    let (name, after) := cs.span isNameChar
    if name.isEmpty then .error cs else .ok (some (String.ofList name), after)

/-- A value without quotes ends where a comment starts: at blanks with a number sign after them. -/
def dropComment : List Char → List Char
  | [] => []
  | c :: rest =>
    if isBlank c && (rest.dropWhile isBlank).head? == some '#' then [] else c :: dropComment rest

/-- Splits off a value.  The text starts after the equals sign, and the blanks there may already
belong to a comment. -/
def takeValue (cs : List Char) : Except (List Char) (String × List Char) :=
  let start := skipLineBlanks cs
  match start with
  | '\x27' :: rest =>
    match takeQuoted? '\x27' rest with
    | some (inner, after) => .ok (String.ofList (unescape singleEscape? inner), after)
    | none => .error start
  | '\x22' :: rest =>
    match takeQuoted? '\x22' rest with
    | some (inner, after) => .ok (String.ofList (unescape doubleEscape? inner), after)
    | none => .error start
  | _ =>
    let (line, after) := takeLine cs
    .ok (String.ofList (trim isBlank (dropComment line)), after)

/-- The text after a comment, if one stands at its start. -/
def skipComment (cs : List Char) : List Char :=
  match skipLineBlanks cs with
  | '#' :: rest => (takeLine rest).2
  | _ => cs

/-- The text after the end of a line, which has to come now. -/
def endLine (cs : List Char) : Except (List Char) (List Char) :=
  match skipLineBlanks cs with
  | [] => .ok []
  | '\n' :: rest => .ok rest
  | _ => .error cs

/-- Reads one assignment or one comment.  A failure carries the text at which reading stopped. -/
def takeAssignment (cs : List Char) :
    Except (List Char) (Option (String × Document) × List Char) := do
  let (name, afterName) ← takeName (skipExport cs)
  let (value, afterValue) ←
    match skipLineBlanks afterName with
    | '=' :: rest => (takeValue rest).map fun r => (Document.text r.1, r.2)
    | other => .ok (.null, other)
  let rest ← endLine (skipComment afterValue)
  .ok (name.map fun n => (n, value), rest)

/-- The assignments of a text, in order.  Each takes at least one character, so as much fuel as
there are characters is enough. -/
def takeAssignments : Nat → List Char → Bindings
  | 0, _ => []
  | fuel + 1, cs =>
    match cs.dropWhile isBlank with
    | [] => []
    | start =>
      match takeAssignment start with
      | .ok (some b, rest) => b :: takeAssignments fuel rest
      | .ok (none, rest) => takeAssignments fuel rest
      | .error stopped => takeAssignments fuel (dropLine stopped)

/-! ## References -/

/-- The reference at the start of a text: its name, what stands in for it, and how many characters
it has. -/
def reference? : List Char → Option (List Char × List Char × Nat)
  | '$' :: '\x7b' :: rest =>
    match rest.span fun c => !(c == '\x7d') && !(c == ':') with
    | (name, '\x7d' :: _) => some (name, [], name.length + 3)
    | (name, ':' :: '-' :: after) =>
      match after.span fun c => !(c == '\x7d') with
      | (other, '\x7d' :: _) => some (name, other, name.length + other.length + 5)
      | _ => none
    | _ => none
  | _ => none

/-- The text of a binding; a name that is bound to nothing has none. -/
def boundText (d : Document) : List Char := (d.text?.getD "").toList

/-- A text with its references replaced, after `skip` characters that belong to one. -/
def expandFrom (bound : Bindings) (skip : Nat) : List Char → List Char
  | [] => []
  | c :: rest =>
    match skip with
    | skip + 1 => expandFrom bound skip rest
    | 0 =>
      match reference? (c :: rest) with
      | some (name, other, length) =>
        ((bound.lookup (String.ofList name)).map boundText).getD other ++
          expandFrom bound (length - 1) rest
      | none => c :: expandFrom bound 0 rest

/-- What a name is bound to, with its references replaced. -/
def expand (bound : Bindings) : Document → Document
  | .text s => .text (String.ofList (expandFrom bound 0 s.toList))
  | d => d

/-- Bindings with the references of each replaced by what is bound before it, or else in the
environment.  A name that is bound again keeps its place. -/
def expandAll (environment done : Bindings) : Bindings → Bindings
  | [] => done
  | (name, value) :: rest =>
    expandAll environment
      (Document.insertMember name (expand (done ++ environment) value) done) rest

/-- The bindings that a file makes in an environment. -/
def assignments (environment : Bindings) (file : String) : Bindings :=
  let cs := dropMark (withLineFeeds file.toList)
  expandAll environment [] (takeAssignments (cs.length + 1) cs)

/-- A file without assignments binds nothing. -/
theorem assignments_empty (environment : Bindings) : assignments environment "" = [] := rfl

end RouteIntake.Settings
