import RouteIntake.Document.Basic
import RouteIntake.Numeral.Decimal
import RouteIntake.Text.Surrogate

/-!
# Reading documents

`Document.read` reads the text form of a document.  The grammar is that of JSON with the extra words
`NaN`, `Infinity` and `-Infinity`; a name that is repeated in an object takes its last value.  A
failure tells the offset of the character where reading stopped, which `Fault.syntaxAt` carries; an
integer of more than `integerTextLimit` digits is refused as a whole.  A reader may also bound how
deep arrays and objects are nested: `readWithin` does, and refuses what is nested deeper.

The functions here work on the characters that are left.  Inside them a failure carries the
characters that were left where it happened, and `readWithin` turns them into an offset.
-/

namespace RouteIntake.Document

open Numeral Text

/-- What documents are nested in. -/
inductive Nest
  /-- Items between brackets. -/
  | array
  /-- Members between braces. -/
  | object
deriving DecidableEq, Repr

/-- The word for what documents are nested in. -/
def Nest.name : Nest → String
  | .array => "array"
  | .object => "object"

/-- Why a text is not a document. -/
inductive Fault
  /-- The character at this offset does not fit, or the text ends there. -/
  | syntaxAt (offset : Nat)
  /-- An integer has too many digits. -/
  | oversized
  /-- Arrays and objects are nested too deep, and this is the first that is. -/
  | tooDeep (nest : Nest)
deriving DecidableEq, Repr

/-- A failure inside the reader, by the characters left where it happened. -/
inductive Stop
  /-- The text does not fit here. -/
  | unexpected (left : List Char)
  /-- An integer has too many digits. -/
  | oversized
  /-- Arrays and objects are nested too deep, and this is the first that is. -/
  | tooDeep (nest : Nest)

/-- The text does not fit at its first character. -/
def stopAt {α : Type} (cs : List Char) : Except Stop α := .error (.unexpected cs)

/-- The blanks between the parts of a document. -/
def isGap (c : Char) : Bool := c == ' ' || c == '\t' || c == '\n' || c == '\r'

/-- The text without the gap at its start. -/
def skipGap (cs : List Char) : List Char := cs.dropWhile isGap

/-! ## Texts -/

/-- The number that four hexadecimal digits stand for, and what follows them. -/
def takeHex4? : List Char → Option (Nat × List Char)
  | a :: b :: c :: d :: rest => do
    let a ← hexDigit? a
    let b ← hexDigit? b
    let c ← hexDigit? c
    let d ← hexDigit? d
    some (((a * 16 + b) * 16 + c) * 16 + d, rest)
  | _ => none

/-- The character that a letter after a backslash stands for. -/
def escaped? (c : Char) : Option Char :=
  match c with
  | '\x22' => some '\x22'
  | '\\' => some '\\'
  | '/' => some '/'
  | 'b' => some '\x08'
  | 'f' => some '\x0c'
  | 'n' => some '\n'
  | 'r' => some '\r'
  | 't' => some '\t'
  | _ => none

/-- Reads the four digits after `\u`, and the second half of a pair where one follows: a code and
what follows it.  `cs` starts at the letter u. -/
def takeUnit (cs : List Char) : Except Stop (Nat × List Char) :=
  match cs with
  | [] => stopAt cs
  | _ :: digits =>
    -- One character has to follow the four digits, for the text is still open.
    if Nat.blt digits.length 5 then stopAt cs
    else
      match takeHex4? digits with
      | none => stopAt cs
      | some (high, rest) =>
        match rest with
        | '\\' :: 'u' :: digits' =>
          if isHighHalf high && Nat.blt 4 digits'.length then
            match takeHex4? digits' with
            | none => stopAt ('u' :: digits')
            | some (low, rest') =>
              if isLowHalf low then .ok (joinHalves high low, rest') else .ok (high, rest)
          else .ok (high, rest)
        | _ => .ok (high, rest)

/-- Reads a text up to its closing quote.  `opening` is what was left at the opening quote, `done`
holds what has been read, the last character first. -/
def takeText (opening : List Char) : Nat → List Char → List Char → Except Stop (String × List Char)
  | 0, _, _ => .error (.unexpected opening)
  | fuel + 1, done, cs =>
    match cs with
    | [] => .error (.unexpected opening)
    | '\x22' :: rest => .ok (String.ofList done.reverse, rest)
    | '\\' :: rest =>
      match rest with
      | [] => .error (.unexpected opening)
      | 'u' :: _ => do
        let (code, rest') ← takeUnit rest
        takeText opening fuel ((keepCode code).reverse ++ done) rest'
      | c :: rest' =>
        match escaped? c with
        | some e => takeText opening fuel (e :: done) rest'
        | none => stopAt cs
    | c :: rest =>
      if Nat.blt c.toNat 0x20 then stopAt cs else takeText opening fuel (c :: done) rest

/-! ## Numbers -/

/-- The ASCII digits at the start of a text. -/
def spanDigits (cs : List Char) : List Char × List Char := cs.span fun c => (asciiDigit? c).isSome

/-- The value of a run of ASCII digits. -/
def digitsValue (ds : List Char) : Nat := ofDigits (ds.filterMap asciiDigit?)

/-- The digits after a point, if a point and a digit follow. -/
def takePoint : List Char → List Char × List Char
  | '.' :: rest =>
    match spanDigits rest with
    | ([], _) => ([], '.' :: rest)
    | (ds, after) => (ds, after)
  | cs => ([], cs)

/-- The exponent of a number, if a complete one follows. -/
def takePower (cs : List Char) : Option Int × List Char :=
  match cs with
  | c :: rest =>
    if c == 'e' || c == 'E' then
      let (negative, afterSign) := takeSign rest
      match spanDigits afterSign with
      | ([], _) => (none, cs)
      | (ds, after) =>
        let n : Int := (digitsValue ds : Nat)
        (some (if negative then -n else n), after)
    else (none, cs)
  | [] => (none, cs)

/-- The digits before the point: a zero alone, or a run that does not start with one. -/
def takeWhole (cs : List Char) : List Char × List Char :=
  match cs with
  | '0' :: rest => (['0'], rest)
  | _ => spanDigits cs

/-- Reads a number.  It is an integer unless it has a fraction or an exponent. -/
def takeNumber (cs : List Char) : Except Stop (Document × List Char) :=
  let (negative, body) :=
    match cs with
    | '-' :: rest => (true, rest)
    | _ => (false, cs)
  match takeWhole body with
  | ([], _) => stopAt cs
  | (whole, afterWhole) =>
    let (fraction, afterFraction) := takePoint afterWhole
    let (power, rest) := takePower afterFraction
    if fraction.isEmpty && power.isNone then
      if Nat.blt integerTextLimit whole.length then .error .oversized
      else
        let n : Int := (digitsValue whole : Nat)
        .ok (.integer (if negative then -n else n), rest)
    else
      .ok (.number (Binary64.ofDecimal negative (digitsValue (whole ++ fraction))
        (power.getD 0 - fraction.length)), rest)

/-! ## Words, arrays and objects -/

/-- The words that are documents. -/
def words : List (List Char × Document) :=
  [(['n', 'u', 'l', 'l'], .null), (['t', 'r', 'u', 'e'], .boolean true),
   (['f', 'a', 'l', 's', 'e'], .boolean false), (['N', 'a', 'N'], .number .nan),
   (['I', 'n', 'f', 'i', 'n', 'i', 't', 'y'], .number (.infinity false)),
   (['-', 'I', 'n', 'f', 'i', 'n', 'i', 't', 'y'], .number (.infinity true))]

/-- Reads one of the words. -/
def takeWord? (cs : List Char) : Option (Document × List Char) :=
  words.findSome? fun (word, d) =>
    if word.isPrefixOf cs then some (d, cs.drop word.length) else none

mutual

/-- Reads a document that starts at the first character and is nested at most `depth` deep. -/
def takeValue : Nat → Nat → List Char → Except Stop (Document × List Char)
  | 0, _, cs => stopAt cs
  | fuel + 1, depth, cs =>
    match cs with
    | '\x22' :: rest => do
      let (s, after) ← takeText cs cs.length [] rest
      .ok (.text s, after)
    | '\x5b' :: rest =>
      match depth with
      | 0 => .error (.tooDeep .array)
      | depth + 1 =>
        match skipGap rest with
        | '\x5d' :: after => .ok (.array [], after)
        | start => do
          let (ds, after) ← takeItems fuel depth start
          .ok (.array ds, after)
    | '\x7b' :: rest =>
      match depth with
      | 0 => .error (.tooDeep .object)
      | depth + 1 =>
        match skipGap rest with
        | '\x7d' :: after => .ok (.object [], after)
        | start => takeMembers fuel depth [] start
    | _ =>
      match takeWord? cs with
      | some found => .ok found
      | none => takeNumber cs

/-- Reads the items of an array up to the closing bracket. -/
def takeItems : Nat → Nat → List Char → Except Stop (List Document × List Char)
  | 0, _, cs => stopAt cs
  | fuel + 1, depth, cs => do
    let (d, after) ← takeValue fuel depth cs
    match skipGap after with
    | '\x5d' :: rest => .ok ([d], rest)
    | ',' :: rest =>
      let (ds, rest') ← takeItems fuel depth (skipGap rest)
      .ok (d :: ds, rest')
    | other => stopAt other

/-- Reads the members of an object up to the closing brace, after the members `done`. -/
def takeMembers :
    Nat → Nat → List (String × Document) → List Char → Except Stop (Document × List Char)
  | 0, _, _, cs => stopAt cs
  | fuel + 1, depth, done, cs =>
    match cs with
    | '\x22' :: rest => do
      let (name, after) ← takeText cs cs.length [] rest
      match skipGap after with
      | ':' :: rest' =>
        let (d, after') ← takeValue fuel depth (skipGap rest')
        let done := insertMember name d done
        match skipGap after' with
        | '\x7d' :: rest'' => .ok (.object done, rest'')
        | ',' :: rest'' => takeMembers fuel depth done (skipGap rest'')
        | other => stopAt other
      | other => stopAt other
    | _ => stopAt cs

end

/-- Reads a document that takes up a whole text, but for gaps around it, and is nested at most
`depth` deep. -/
def readWithin (depth : Nat) (cs : List Char) : Except Fault Document :=
  let result : Except Stop Document := do
    let (d, after) ← takeValue (2 * cs.length + 2) depth (skipGap cs)
    match skipGap after with
    | [] => .ok d
    | other => stopAt other
  match result with
  | .ok d => .ok d
  | .error (.unexpected left) => .error (.syntaxAt (size cs - size left))
  | .error .oversized => .error .oversized
  | .error (.tooDeep nest) => .error (.tooDeep nest)

/-- Reads a document from a text.  No text is nested deeper than it is long. -/
def read (s : String) : Except Fault Document := readWithin s.length s.toList

end RouteIntake.Document
