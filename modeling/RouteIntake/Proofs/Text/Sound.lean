import Mathlib
import RouteIntake.Text.Surrogate

/-!
# Texts without halves of characters

A text is sound when none of its codes is half of a pair.  Texts are put together from pieces, and a
piece may change how the next one is read: a mark at its end takes the first character of the next
piece with it.  That does no harm where the next piece starts with a character that is kept as it
is.  The pieces of messages and of written documents all do, so such a text is sound exactly when
its pieces are (`isSound_append`).
-/

namespace RouteIntake.Text

/-- Whether characters are free of halves. -/
def Sound (cs : List Char) : Prop := ∀ n ∈ codes cs, isHalf n = false

lemma isSound_iff {s : String} : isSound s = true ↔ Sound s.toList := by
  simp [isSound, Sound]

/-- The code of a character is no half, and not above all codes. -/
lemma toNat_valid (c : Char) : c.toNat < 0xd800 ∨ 0xdfff < c.toNat ∧ c.toNat < 0x110000 := c.valid

lemma isHalf_toNat (c : Char) : isHalf c.toNat = false := by
  have h := toNat_valid c
  rw [← Bool.not_eq_true, isHalf, Bool.and_eq_true, Nat.ble_eq, Nat.ble_eq]
  omega

lemma isCode_toNat (c : Char) : isCode c.toNat := by
  have h := toNat_valid c
  unfold isCode
  omega

/-- A stand-in stands in for a half. -/
lemma isHalf_of_half? {c : Char} {n : Nat} (h : half? c = some n) : isHalf n = true := by
  simp only [half?] at h
  split at h
  · rename_i hn
    rw [← Option.some.inj h]
    exact hn
  · cases h

/-- The codes of a text are those of characters and halves. -/
lemma isCode_of_mem_codesFrom {afterMark : Bool} {cs : List Char} {n : Nat}
    (h : n ∈ codesFrom afterMark cs) : isCode n := by
  induction cs generalizing afterMark with
  | nil => simp [codesFrom] at h
  | cons c cs ih =>
    unfold codesFrom at h
    split at h
    · rcases List.mem_cons.mp h with rfl | h
      · exact isCode_toNat c
      · exact ih h
    · split at h
      · exact ih h
      · rcases List.mem_cons.mp h with h | h
        · rw [h]
          cases hh : half? c with
          | none => exact isCode_toNat c
          | some k =>
            have hk := isHalf_of_half? hh
            rw [isHalf, Bool.and_eq_true, Nat.ble_eq, Nat.ble_eq] at hk
            rw [Option.getD_some, isCode]
            omega
        · exact ih h

lemma isCode_of_mem_codes {cs : List Char} {n : Nat} (h : n ∈ codes cs) : isCode n :=
  isCode_of_mem_codesFrom h

/-! ## Characters that are kept as they are -/

/-- A character before all stand-ins is kept as it is. -/
lemma isMarked_eq_false_of_lt {c : Char} (h : c.toNat < 0x5d800) : isMarked c = false := by
  have hmark : (c == mark) = false := by
    rw [beq_eq_false_iff_ne]
    rintro rfl
    simp [mark] at h
  have hhalf : half? c = none := by
    have hn : isHalf (c.toNat - standInOffset) = false := by
      rw [← Bool.not_eq_true, isHalf, Bool.and_eq_true, Nat.ble_eq, Nat.ble_eq, standInOffset]
      omega
    simp [half?, hn]
  simp [isMarked, hmark, hhalf]

/-- A character that is kept as it is has its own code, after a mark or not. -/
lemma codesFrom_cons_plain {c : Char} (hc : isMarked c = false) (afterMark : Bool)
    (cs : List Char) : codesFrom afterMark (c :: cs) = c.toNat :: codes cs := by
  have hmark : (c == mark) = false := by simp_all [isMarked]
  have hhalf : half? c = none := by simp_all [isMarked]
  cases afterMark <;> simp [codesFrom, codes, hmark, hhalf]

/-- Characters before one that is kept as it is do not change how it is read. -/
lemma codesFrom_append {cs : List Char} (h : ∀ c ∈ cs.head?, isMarked c = false)
    (afterMark : Bool) (before : List Char) :
    codesFrom afterMark (before ++ cs) = codesFrom afterMark before ++ codes cs := by
  induction before generalizing afterMark with
  | nil =>
    cases cs with
    | nil => cases afterMark <;> rfl
    | cons c cs =>
      have hc : isMarked c = false := h c rfl
      rw [List.nil_append, codesFrom_cons_plain hc, codesFrom, List.nil_append]
      exact (codesFrom_cons_plain hc false cs).symm
  | cons b before ih =>
    -- `b` is read as it is after a mark, or is a mark, or is read on its own
    cases afterMark with
    | true => simp [codesFrom, ih]
    | false =>
      rw [List.cons_append, codesFrom, codesFrom]
      split
      · simp [*]
      · split <;> simp [ih]

lemma sound_append {before cs : List Char} (h : ∀ c ∈ cs.head?, isMarked c = false) :
    Sound (before ++ cs) ↔ Sound before ∧ Sound cs := by
  simp only [Sound, codes, codesFrom_append h, List.forall_mem_append]

lemma sound_cons {c : Char} (hc : isMarked c = false) {cs : List Char} :
    Sound (c :: cs) ↔ Sound cs := by
  simp [Sound, codes, codesFrom_cons_plain hc, isHalf_toNat]

lemma sound_nil : Sound [] := by simp [Sound]

/-- Characters that are kept as they are do not matter before others. -/
lemma sound_plain_append {cs : List Char} (h : ∀ c ∈ cs, isMarked c = false) {rest : List Char} :
    Sound (cs ++ rest) ↔ Sound rest := by
  induction cs with
  | nil => rfl
  | cons c cs ih =>
    rw [List.cons_append, sound_cons (h c List.mem_cons_self)]
    exact ih fun d hd => h d (List.mem_cons_of_mem c hd)

lemma sound_of_plain {cs : List Char} (h : ∀ c ∈ cs, isMarked c = false) : Sound cs := by
  rw [← List.append_nil cs, sound_plain_append h]
  exact sound_nil

/-- Characters of a list are kept as they are when a look at each of them says so. -/
lemma isMarked_of_all {cs : List Char} (h : (cs.all fun c => !isMarked c) = true) :
    ∀ c ∈ cs, isMarked c = false := by
  simpa using h

/-- Digits are kept as they are. -/
lemma isMarked_of_isDigit {c : Char} (h : c.isDigit = true) : isMarked c = false := by
  refine isMarked_eq_false_of_lt ?_
  simp only [Char.isDigit, Bool.and_eq_true, decide_eq_true_eq] at h
  have hle : c.toNat ≤ 57 := h.2
  omega

/-! ## Texts from pieces -/

/-- Whether all characters of a text are kept as they are. -/
def isPlain (s : String) : Bool := s.toList.all fun c => !isMarked c

lemma isPlain_iff {s : String} : isPlain s = true ↔ ∀ c ∈ s.toList, isMarked c = false := by
  simp [isPlain]

lemma isPlain_append {s t : String} : isPlain (s ++ t) = (isPlain s && isPlain t) := by
  simp [isPlain]

lemma isSound_of_isPlain {s : String} (h : isPlain s = true) : isSound s = true :=
  isSound_iff.mpr (sound_of_plain (isPlain_iff.mp h))

/-- A plain text before another one does not matter. -/
lemma isSound_plain_append {s t : String} (h : isPlain s = true) :
    isSound (s ++ t) = isSound t := by
  rw [Bool.eq_iff_iff, isSound_iff, isSound_iff, String.toList_append,
    sound_plain_append (isPlain_iff.mp h)]

/-- Two texts with a plain one between them are sound when both are. -/
lemma isSound_append_plain_append {s separator t : String} (h : isPlain separator = true)
    (hne : separator ≠ "") : isSound (s ++ separator ++ t) = (isSound s && isSound t) := by
  -- the separator is not empty, so that its first character is what follows `s`
  have hplain : ∀ c ∈ (separator ++ t).toList.head?, isMarked c = false := by
    intro c hc
    have hhead : (separator ++ t).toList.head? = separator.toList.head? := by
      cases hs : separator.toList with
      | nil => exact absurd (String.toList_eq_nil_iff.mp hs) hne
      | cons d ds => simp [hs]
    rw [hhead] at hc
    exact isPlain_iff.mp h c (List.mem_of_head? hc)
  rw [String.append_assoc, ← isSound_plain_append (t := t) h, Bool.eq_iff_iff, Bool.and_eq_true,
    isSound_iff, isSound_iff, isSound_iff, String.toList_append, sound_append hplain]

/-- A text with a plain one after it is sound when it is sound itself. -/
lemma isSound_append_plain {s t : String} (h : isPlain t = true) :
    isSound (s ++ t) = isSound s := by
  by_cases hne : t = ""
  · rw [hne, String.append_empty]
  · rw [← String.append_empty (s := s ++ t), isSound_append_plain_append h hne]
    simp [isSound]

/-- Sound texts with a plain one between each two of them are sound. -/
lemma isSound_intercalate {separator : String} (h : isPlain separator = true)
    (hne : separator ≠ "") {texts : List String} (htexts : ∀ t ∈ texts, isSound t = true) :
    isSound (separator.intercalate texts) = true := by
  induction texts with
  | nil => simp [isSound]
  | cons t texts ih =>
    have ht : isSound t = true := htexts t List.mem_cons_self
    have hrest := ih fun u hu => htexts u (List.mem_cons_of_mem t hu)
    cases texts with
    | nil => simpa using ht
    | cons u texts =>
      rw [String.intercalate_cons_cons, isSound_append_plain_append h hne, ht, hrest]
      rfl

/-- A text of codes is sound when none of them is a half. -/
lemma isSound_ofCodes {ns : List Nat} (hcode : ∀ n ∈ ns, isCode n)
    (hsound : ∀ n ∈ ns, isHalf n = false) : isSound (ofCodes ns) = true := by
  rw [isSound_iff, Sound, ofCodes, String.toList_ofList, codes_keepCodes hcode]
  exact hsound

lemma isPlain_repr (n : Nat) : isPlain n.repr = true := by
  rw [isPlain_iff, Nat.toList_repr]
  exact fun c hc => isMarked_of_isDigit (Nat.isDigit_of_mem_toDigits (by decide) (by decide) hc)

lemma isPlain_toString_int (n : Int) : isPlain (toString n) = true := by
  rw [Int.toString_eq_repr, Int.repr_eq_if]
  split
  · exact isPlain_repr _
  · rw [isPlain_append, isPlain_repr]
    decide

end RouteIntake.Text
