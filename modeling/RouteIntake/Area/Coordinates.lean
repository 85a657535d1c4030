import RouteIntake.Document.Basic
import RouteIntake.Numeral.Decimal
import RouteIntake.Rejection

/-!
# Coordinates

The coordinates of an area come as numbers in nested arrays.  `Coordinates.ofDocument` reads them:
integers, numbers and texts of numbers become finite numbers, and everything else is refused.  The
reading goes from left to right, and the first problem ends it.  It has room for so many levels of
arrays and no more: what stands deeper is not even looked at.
-/

namespace RouteIntake

open Numeral

/-- Numbers in nested arrays. -/
inductive Coordinates
  /-- A number. -/
  | value (x : Binary64)
  /-- An array. -/
  | group (items : List Coordinates)

namespace Coordinates

/-- Why coordinates are refused. -/
inductive Refusal
  /-- A value is not a finite number. -/
  | notFinite
  /-- An integer is too large for a number. -/
  | overflow
  /-- A value is nested deeper than there is room for. -/
  | tooDeep
deriving DecidableEq, Repr

/-- A finite number as a coordinate. -/
def finiteOnly (x : Binary64) : Except Refusal Coordinates :=
  if x.isFinite then .ok (.value x) else .error .notFinite

/-- Reads a value that is no array. -/
def ofLeaf : Document → Except Refusal Coordinates
  | .integer n =>
    match Binary64.ofInt? n with
    | some x => .ok (.value x)
    | none => .error .overflow
  | .number x => finiteOnly x
  | .text s =>
    match Binary64.ofAnyScript? s with
    | some x => finiteOnly x
    | none => .error .notFinite
  | _ => .error .notFinite

mutual

/-- Reads coordinates where there is room for so many levels. -/
def ofDocument : Nat → Document → Except Refusal Coordinates
  | 0, _ => .error .tooDeep
  | room + 1, .array ds =>
    match ofItems room ds with
    | .ok cs => .ok (.group cs)
    | .error e => .error e
  | _ + 1, d => ofLeaf d

/-- Reads the coordinates in an array, from left to right. -/
def ofItems : Nat → List Document → Except Refusal (List Coordinates)
  | _, [] => .ok []
  | room, d :: ds =>
    match ofDocument room d with
    | .error e => .error e
    | .ok c =>
      match ofItems room ds with
      | .ok cs => .ok (c :: cs)
      | .error e => .error e

end

mutual

/-- Whether there is no number at all, but an array that holds nothing but empty arrays. -/
def isHollow : Coordinates → Bool
  | .value _ => false
  | .group cs => allHollow cs

/-- Whether all of several coordinates are hollow. -/
def allHollow : List Coordinates → Bool
  | [] => true
  | c :: cs => isHollow c && allHollow cs

end

mutual

/-- The extents of regularly nested arrays, the outermost first. -/
def extents? : Coordinates → Option (List Nat)
  | .value _ => some []
  | .group cs =>
    match commonExtents? cs with
    | none => none
    | some none => some [0]
    | some (some inner) => some (cs.length :: inner)

/-- The extents that several coordinates share; there are none where there are no coordinates. -/
def commonExtents? : List Coordinates → Option (Option (List Nat))
  | [] => some none
  | c :: cs =>
    match extents? c, commonExtents? cs with
    | some e, some none => some (some e)
    | some e, some (some f) => if e == f then some (some e) else none
    | _, _ => none

end

/-- The items of an array. -/
def group? : Coordinates → Option (List Coordinates)
  | .group cs => some cs
  | .value _ => none

/-- A number on its own. -/
def value? : Coordinates → Option Binary64
  | .value x => some x
  | .group _ => none

end Coordinates

end RouteIntake
