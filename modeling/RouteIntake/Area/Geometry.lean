import RouteIntake.Area.Coordinates
import RouteIntake.Handler
import RouteIntake.Text.Case

/-!
# Areas to avoid

An area is a polygon: rings of points, the first of them the outer one.  A ring is closed on
reading: its first point is repeated at the end unless the last point equals it, and always after
three points.  Coordinates are read by the kind of geometry they are said to be; polygons and
collections of polygons give areas, all other kinds are valid or not, but never areas.
-/

namespace RouteIntake

open Numeral Text

/-- A point: two or three numbers. -/
abbrev Point := List Binary64

/-- A closed row of points. -/
abbrev Ring := List Point

/-- An area: the outer ring and the rings of its holes.  Without rings it is empty. -/
structure Polygon where
  /-- The rings, the outer one first. -/
  rings : List Ring
deriving DecidableEq, Repr

namespace Polygon

/-- A ring as a document. -/
def ringDocument (ring : Ring) : Document :=
  .array (ring.map fun p => .array (p.map .number))

/-- The coordinates of a polygon as a document. -/
def coordinates (p : Polygon) : Document := .array (p.rings.map ringDocument)

/-- A polygon as a document. -/
def toDocument (p : Polygon) : Document :=
  .object [("type", .text "Polygon"), ("coordinates", p.coordinates)]

end Polygon

/-- The kinds of geometry. -/
inductive GeometryKind
  /-- One point. -/
  | point
  /-- A row of points. -/
  | lineString
  /-- A closed row of points. -/
  | linearRing
  /-- An area. -/
  | polygon
  /-- Several points. -/
  | multiPoint
  /-- Several rows of points. -/
  | multiLineString
  /-- Several areas. -/
  | multiPolygon
  /-- Geometries of any kind. -/
  | collection
deriving DecidableEq, Repr

/-- The kinds of geometry by name. -/
def GeometryKind.table : List (String × GeometryKind) :=
  [("point", .point), ("linestring", .lineString), ("linearring", .linearRing),
   ("polygon", .polygon), ("multipoint", .multiPoint), ("multilinestring", .multiLineString),
   ("multipolygon", .multiPolygon), ("geometrycollection", .collection)]

/-- The kind of geometry with a name in any letter case. -/
def GeometryKind.ofName? (s : String) : Option GeometryKind := table.lookup (lower s)

namespace Area

/-- Whether a point may have so many numbers. -/
def isPointSize (n : Nat) : Bool := n == 2 || n == 3

/-- Numbers in an array as a point. -/
def point? (c : Coordinates) : Option Point := do
  let cs ← c.group?
  cs.mapM Coordinates.value?

/-- Points of one size. -/
def points? (c : Coordinates) : Option (List Point) := do
  let cs ← c.group?
  let ps ← cs.mapM point?
  match ps with
  | [] => some []
  | p :: rest =>
    if isPointSize p.length && rest.all (fun q => q.length == p.length) then some (p :: rest)
    else none

/-- Whether two points are equal number by number. -/
def samePoint : Point → Point → Bool
  | [], [] => true
  | x :: xs, y :: ys => x.numEq y && samePoint xs ys
  | _, _ => false

/-- A row of points closed to a ring; one or two points make no ring. -/
def close? (ps : List Point) : Option Ring :=
  match ps with
  | [] => some []
  | first :: rest =>
    if Nat.blt ps.length 3 then none
    else if ps.length == 3 then some (ps ++ [first])
    else
      match rest.getLast? with
      | some last => if samePoint last first then some ps else some (ps ++ [first])
      | none => none

/-- A ring. -/
def ring? (c : Coordinates) : Option Ring := do close? (← points? c)

/-- A polygon.  The rings of holes need an outer ring, and a polygon whose rings are all empty is
the empty polygon. -/
def polygon? (c : Coordinates) : Option Polygon := do
  let cs ← c.group?
  let rings ← cs.mapM ring?
  match rings with
  | [] => none
  | shell :: holes =>
    if shell.isEmpty then (if holes.all List.isEmpty then some ⟨[]⟩ else none)
    else some ⟨shell :: holes⟩

/-- Polygons. -/
def polygons? (c : Coordinates) : Option (List Polygon) := do
  let cs ← c.group?
  cs.mapM polygon?

/-- How many levels of arrays a point may stand in. -/
def pointLevels : Nat := 64

/-- Whether the coordinates are one point in arrays of one item, in no more levels than a point may
stand in. -/
def isPoint (c : Coordinates) : Bool :=
  match c.extents? with
  | none => false
  | some es =>
    match es.filter fun e => !(e == 1) with
    | [e] => isPointSize e && Nat.ble es.length pointLevels
    | _ => false

/-- Whether the coordinates are a row of two points or more. -/
def isLine (c : Coordinates) : Bool :=
  match points? c with
  | some ps => Nat.ble 2 ps.length
  | none => false

/-- Whether the coordinates are an array whose items all pass a test. -/
def isGroupOf (test : Coordinates → Bool) (c : Coordinates) : Bool :=
  match c.group? with
  | some cs => cs.all test
  | none => false

/-- What a description of an area turns out to be. -/
inductive Reading
  /-- Areas. -/
  | areas (ps : List Polygon)
  /-- A geometry that is no area. -/
  | noArea
  /-- Not a geometry. -/
  | invalid
deriving DecidableEq, Repr

/-- A geometry that is no area, if it is one. -/
def noAreaIf (ok : Bool) : Reading := if ok then .noArea else .invalid

/-- Reads coordinates as a kind of geometry.  Empty geometries and collections are refused. -/
def interpret (kind : GeometryKind) (c : Coordinates) : Reading :=
  if c.isHollow then .invalid
  else
    match kind with
    | .point => noAreaIf (isPoint c)
    | .lineString => noAreaIf (isLine c)
    | .linearRing => noAreaIf (ring? c).isSome
    | .multiPoint => noAreaIf (isGroupOf isPoint c)
    | .multiLineString => noAreaIf (isGroupOf isLine c)
    | .collection => .invalid
    | .polygon =>
      match polygon? c with
      | some p => .areas [p]
      | none => .invalid
    | .multiPolygon =>
      match polygons? c with
      | some ps => .areas ps
      | none => .invalid

/-- The name of the parameter that describes areas. -/
def parameterName : String := "avoid_polygons"

/-- The rejection of a description that cannot be read. -/
def unreadable {α : Type} (h : Handler) : Except Failure α :=
  h.reject "INVALID_JSON_FORMAT" (.unreadable parameterName)

/-- Converts the description of areas, an object with a type and coordinates, where there is room
for so many levels of arrays. -/
def ofDocument (h : Handler) (room : Room) (d : Document) : Except Failure (List Polygon) :=
  match (d.field? "type").bind Document.text?, d.field? "coordinates" with
  | some kindName, some coordinates =>
    match Coordinates.ofDocument room.areas coordinates with
    | .error .tooDeep => breakDown .tooDeep
    | .error .overflow => breakDown .overflow
    | .error .notFinite => unreadable h
    | .ok c =>
      match GeometryKind.ofName? kindName with
      | none => unreadable h
      | some kind =>
        match interpret kind c with
        | .areas ps => .ok ps
        | .noArea => h.reject "INVALID_PARAMETER_VALUE" (.malformed parameterName)
        | .invalid => unreadable h
  | _, _ => unreadable h

end Area

end RouteIntake
