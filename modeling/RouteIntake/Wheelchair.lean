import RouteIntake.Text.Blank
import RouteIntake.Text.Case

/-!
# Ways for wheelchairs

A wheelchair request names the worst surface, track and smoothness it takes.  Each of the three has
a table of words from the best to the worst; a word stands for its position, counted from one, and
is read in any letter case with blanks around it.
-/

namespace RouteIntake

open Text

namespace Wheelchair

/-- The surfaces from the best to the worst. -/
def surfaces : List String :=
  ["paved", "asphalt", "concrete", "paving_stones", "concrete:plates", "cobblestone:flattened",
   "sett", "concrete:lanes", "cobblestone", "unpaved", "compacted", "fine_gravel", "metal", "wood",
   "grass_paver", "gravel", "pebblestone", "ground", "dirt", "earth", "grass", "mud", "sand",
   "ice", "salt", "snow"]

/-- The grades of tracks from the best to the worst. -/
def tracks : List String := ["grade1", "grade2", "grade3", "grade4", "grade5"]

/-- The degrees of smoothness from the best to the worst. -/
def smoothnesses : List String :=
  ["excellent", "good", "intermediate", "bad", "very_bad", "horrible", "very_horrible",
   "impassable"]

/-- A word as the tables have it: without blanks around it and in lower case. -/
def normalWord (s : String) : String := String.ofList (lowerChars (trim isBlank s.toList))

/-- The position of a word in a table, counted from one. -/
def position? (table : List String) (s : String) : Option Nat :=
  (table.idxOf? (normalWord s)).map (· + 1)

/-- The position of a word in a table, or -1 for an unknown word. -/
def positionOf (table : List String) (s : String) : Int :=
  match position? table s with
  | some n => n
  | none => -1

theorem position?_pos {table : List String} {s : String} {n : Nat}
    (h : position? table s = some n) : 0 < n := by
  simp only [position?, Option.map_eq_some_iff] at h
  obtain ⟨k, -, rfl⟩ := h
  exact Nat.succ_pos k

end Wheelchair

end RouteIntake
