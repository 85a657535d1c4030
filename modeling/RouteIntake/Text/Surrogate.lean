/-!
# Halves of surrogate pairs

A character beyond the basic plane is written in 16-bit units as a pair: a high half and a low half.
A text that comes from outside may hold a half on its own, which is no character.  A text is
therefore a row of codes, each that of a character or of a half, and its characters are those by
which the codes are kept: a half is kept by a stand-in, one of a range of characters that are not
assigned, and a character that looks like a stand-in is kept with a mark before it, as is the mark
itself.

`keepChars` and `keepCodes` put a text into this form and `codes` reads it back; `codes_keepCodes`
says that nothing is lost.  Whatever counts the places of a text or takes it apart works on its
codes; whatever looks for ASCII characters may work on the kept characters.
-/

namespace RouteIntake.Text

/-! ## Halves -/

/-- Whether a code is the first half of a pair. -/
def isHighHalf (n : Nat) : Bool := Nat.ble 0xd800 n && Nat.ble n 0xdbff

/-- Whether a code is the second half of a pair. -/
def isLowHalf (n : Nat) : Bool := Nat.ble 0xdc00 n && Nat.ble n 0xdfff

/-- Whether a code is a half of a pair. -/
def isHalf (n : Nat) : Bool := Nat.ble 0xd800 n && Nat.ble n 0xdfff

/-- The code of the character that two halves stand for. -/
def joinHalves (high low : Nat) : Nat := 0x10000 + (high - 0xd800) * 0x400 + (low - 0xdc00)

theorem isHalf_iff {n : Nat} : isHalf n = true ↔ isHighHalf n = true ∨ isLowHalf n = true := by
  simp only [isHalf, isHighHalf, isLowHalf, Bool.and_eq_true, Nat.ble_eq]
  omega

/-! ## Stand-ins -/

/-- How far a stand-in is from the half that it stands for. -/
def standInOffset : Nat := 0x50000

/-- The stand-in of a half. -/
def standIn (half : Nat) : Char := Char.ofNat (standInOffset + half)

/-- The half that a character stands in for, if it looks like a stand-in. -/
def half? (c : Char) : Option Nat :=
  let n := c.toNat - standInOffset
  if isHalf n then some n else none

/-- The mark before a character that only looks like a stand-in. -/
def mark : Char := Char.ofNat 0x10ffff

/-- Whether a character is kept with the mark before it. -/
def isMarked (c : Char) : Bool := c == mark || (half? c).isSome

/-- A character as a text keeps it. -/
def keepChar (c : Char) : List Char := if isMarked c then [mark, c] else [c]

/-- A code as a text keeps it. -/
def keepCode (n : Nat) : List Char := if isHalf n then [standIn n] else keepChar (Char.ofNat n)

/-- The text of characters. -/
def keepChars (cs : List Char) : List Char := cs.flatMap keepChar

/-- The text of codes. -/
def keepCodes (ns : List Nat) : List Char := ns.flatMap keepCode

/-- The text of codes as a string. -/
def ofCodes (ns : List Nat) : String := String.ofList (keepCodes ns)

/-! ## Codes -/

/-- The codes of a text, after a mark or not. -/
def codesFrom (afterMark : Bool) : List Char → List Nat
  | [] => []
  | c :: cs =>
    if afterMark then c.toNat :: codesFrom false cs
    else if c == mark then codesFrom true cs
    else (half? c).getD c.toNat :: codesFrom false cs

/-- The codes of a text. -/
def codes (cs : List Char) : List Nat := codesFrom false cs

/-- The number of codes of a text. -/
def size (cs : List Char) : Nat := (codes cs).length

/-- Whether a text is free of halves. -/
def isSound (s : String) : Bool := (codes s.toList).all fun n => !isHalf n

/-- The first code in a text that is as said, with the halves right after it: the code, its place,
and the place of the last of these halves. -/
def firstHalvesWhere? (isSo : Nat → Bool) (ns : List Nat) : Option (Nat × Nat × Nat) :=
  match ns.dropWhile fun n => !isSo n with
  | [] => none
  | n :: rest =>
    let place := ns.length - (rest.length + 1)
    some (n, place, place + (rest.takeWhile isHalf).length)

/-- The first halves in a text that stand side by side: the first of them, and the places of the
first and the last. -/
def firstHalves? (ns : List Nat) : Option (Nat × Nat × Nat) := firstHalvesWhere? isHalf ns

/-- There are no first halves where there are none at all. -/
theorem firstHalves?_eq_none_iff {ns : List Nat} :
    firstHalves? ns = none ↔ ∀ n ∈ ns, isHalf n = false := by
  have hnil : (ns.dropWhile fun n => !isHalf n) = [] ↔ ∀ n ∈ ns, isHalf n = false := by
    induction ns with
    | nil => simp
    | cons n ns ih => by_cases hn : isHalf n = true <;> simp_all
  rw [← hnil, firstHalves?, firstHalvesWhere?]
  cases ns.dropWhile fun n => !isHalf n <;> simp

example : firstHalves? [0x61, 0xd800, 0xdc00, 0x62] = some (0xd800, 1, 2) := by decide
example : joinHalves 0xd83d 0xde00 = '😀'.toNat := by decide
example : codes ['a', standIn 0xdfff] = [0x61, 0xdfff] := by decide
example : codes (keepChars [standIn 0xd800, mark]) = [0x5d800, 0x10ffff] := by decide

/-- Whether a number is the code of a character or of a half. -/
def isCode (n : Nat) : Prop := n ≤ 0x10ffff

theorem toNat_ofNat_of_isCode {n : Nat} (h : isCode n) (hn : isHalf n = false) :
    (Char.ofNat n).toNat = n := by
  have hv : n.isValidChar := by
    rw [← Bool.not_eq_true, isHalf, Bool.and_eq_true, Nat.ble_eq, Nat.ble_eq] at hn
    simp only [isCode] at h
    unfold Nat.isValidChar
    omega
  rw [Char.ofNat, dif_pos hv]
  rfl

/-- A stand-in gives back its half. -/
theorem half?_standIn {n : Nat} (h : isHalf n = true) : half? (standIn n) = some n := by
  have hr : 0xd800 ≤ n ∧ n ≤ 0xdfff := by
    simpa only [isHalf, Bool.and_eq_true, Nat.ble_eq] using h
  have hv : (standInOffset + n).isValidChar := by
    right
    simp only [standInOffset]
    omega
  have hc : (standIn n).toNat = standInOffset + n := by
    rw [standIn, Char.ofNat, dif_pos hv]
    rfl
  simp [half?, hc, h]

/-- The mark stands in for no half. -/
theorem half?_mark : half? mark = none := by decide

@[simp] theorem codes_nil : codes [] = [] := rfl

/-- A kept character gives back its code. -/
theorem codes_keepChar_append (c : Char) (rest : List Char) :
    codes (keepChar c ++ rest) = c.toNat :: codes rest := by
  unfold keepChar
  by_cases h : isMarked c = true
  · simp [h, codes, codesFrom]
  · have hm : (c == mark) = false := by simp_all [isMarked]
    have hh : half? c = none := by simp_all [isMarked]
    simp [h, codes, codesFrom, hm, hh]

/-- A kept code is given back. -/
theorem codes_keepCode_append {n : Nat} (h : isCode n) (rest : List Char) :
    codes (keepCode n ++ rest) = n :: codes rest := by
  unfold keepCode
  by_cases hn : isHalf n = true
  · have hs := half?_standIn hn
    have hm : (standIn n == mark) = false := by
      refine beq_eq_false_iff_ne.mpr fun e => ?_
      rw [e, half?_mark] at hs
      cases hs
    simp [hn, codes, codesFrom, hm, hs]
  · rw [Bool.not_eq_true] at hn
    simp [hn, codes_keepChar_append, toNat_ofNat_of_isCode h hn]

/-- A text of characters has their codes. -/
theorem codes_keepChars (cs : List Char) : codes (keepChars cs) = cs.map Char.toNat := by
  induction cs with
  | nil => rfl
  | cons c cs ih =>
    rw [keepChars, List.flatMap_cons, codes_keepChar_append, ← keepChars, ih, List.map_cons]

/-- A text of codes has these codes. -/
theorem codes_keepCodes {ns : List Nat} (h : ∀ n ∈ ns, isCode n) : codes (keepCodes ns) = ns := by
  induction ns with
  | nil => rfl
  | cons n ns ih =>
    rw [keepCodes, List.flatMap_cons, codes_keepCode_append (h n (List.mem_cons_self ..)),
      ← keepCodes, ih fun m hm => h m (List.mem_cons_of_mem _ hm)]

end RouteIntake.Text
