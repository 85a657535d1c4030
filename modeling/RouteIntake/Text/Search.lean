/-!
# Searching and splitting texts

`occursIn` says whether one text stands somewhere in another, and `splitAt` cuts a text at every
place where a character stands.  The two laws say what they are: occurring is being an infix, and
joining the pieces again gives the text.
-/

namespace RouteIntake.Text

/-- Whether one list of characters stands somewhere in another. -/
def occursIn (part : List Char) : List Char → Bool
  | [] => part.isEmpty
  | c :: cs => part.isPrefixOf (c :: cs) || occursIn part cs

theorem occursIn_iff {part cs : List Char} : occursIn part cs = true ↔ part <:+: cs := by
  induction cs with
  | nil => simp [occursIn]
  | cons c cs ih =>
    simp only [occursIn, Bool.or_eq_true, ih, List.isPrefixOf_iff_prefix, List.infix_cons_iff]

/-- The pieces of a text between the places where a character stands.  There is always one. -/
def splitAt (separator : Char) : List Char → List (List Char)
  | [] => [[]]
  | c :: cs =>
    if c == separator then [] :: splitAt separator cs
    else
      match splitAt separator cs with
      | [] => [[c]]
      | piece :: pieces => (c :: piece) :: pieces

theorem splitAt_ne_nil (separator : Char) (cs : List Char) : splitAt separator cs ≠ [] := by
  cases cs with
  | nil => simp [splitAt]
  | cons c cs =>
    simp only [splitAt]
    split
    · simp
    · split <;> simp

/-- Joining the pieces gives the text. -/
theorem intercalate_splitAt (separator : Char) (cs : List Char) :
    [separator].intercalate (splitAt separator cs) = cs := by
  induction cs with
  | nil => simp [splitAt]
  | cons c cs ih =>
    have hne := splitAt_ne_nil separator cs
    by_cases h : c = separator
    · obtain ⟨piece, pieces, hp⟩ := List.exists_cons_of_ne_nil hne
      simp [splitAt, h, hp, List.intercalate_cons_cons] at ih ⊢
      exact ih
    · obtain ⟨piece, pieces, hp⟩ := List.exists_cons_of_ne_nil hne
      cases pieces with
      | nil => simp_all [splitAt]
      | cons q qs => simp_all [splitAt, List.intercalate_cons_cons]

end RouteIntake.Text
