import RouteIntake.Proofs.Text.Sound
import RouteIntake.Text.Case

/-!
# Texts and their codes

A text is a row of codes, and the characters that keep it are determined by these codes: no
character is marked that need not be.  Rows of characters in general are not like that, so whatever
is taken out of a text is known to be a text only when it is `Kept`.  Texts are kept through
concatenation and through every change of characters that leaves the marked ones alone, such as a
change of letter case.

Parts that are plain stand in the characters of a text exactly when their codes stand among its
codes (`infix_codes_iff`), so that such a part may be looked for in either.
-/

namespace RouteIntake.Text

/-- Whether characters are those by which their codes are kept. -/
def Kept (cs : List Char) : Prop := keepCodes (codes cs) = cs

/-- Whether a text is kept by the characters that its codes determine. -/
def IsKept (s : String) : Prop := Kept s.toList

/-! ## Rows of codes -/

lemma keepCodes_append (a b : List Nat) : keepCodes (a ++ b) = keepCodes a ++ keepCodes b :=
  List.flatMap_append

/-- Kept codes are given back in front of other characters. -/
lemma codes_keepCodes_append {ns : List Nat} (h : ∀ n ∈ ns, isCode n) (rest : List Char) :
    codes (keepCodes ns ++ rest) = ns ++ codes rest := by
  induction ns with
  | nil => rfl
  | cons n ns ih =>
    rw [keepCodes, List.flatMap_cons, List.append_assoc,
      codes_keepCode_append (h n List.mem_cons_self), ← keepCodes,
      ih fun m hm => h m (List.mem_cons_of_mem n hm), List.cons_append]

/-- A row of codes is a text. -/
lemma kept_keepCodes {ns : List Nat} (h : ∀ n ∈ ns, isCode n) : Kept (keepCodes ns) := by
  rw [Kept, codes_keepCodes h]

lemma isKept_ofCodes {ns : List Nat} (h : ∀ n ∈ ns, isCode n) : IsKept (ofCodes ns) := by
  rw [IsKept, ofCodes, String.toList_ofList]
  exact kept_keepCodes h

lemma Kept.codes_append {a : List Char} (h : Kept a) (b : List Char) :
    codes (a ++ b) = codes a ++ codes b := by
  conv_lhs => rw [← h]
  exact codes_keepCodes_append (fun n hn => isCode_of_mem_codes hn) b

lemma Kept.append {a b : List Char} (ha : Kept a) (hb : Kept b) : Kept (a ++ b) := by
  rw [Kept, ha.codes_append, keepCodes_append, ha, hb]

lemma IsKept.append {s t : String} (hs : IsKept s) (ht : IsKept t) : IsKept (s ++ t) := by
  rw [IsKept, String.toList_append]
  exact Kept.append hs ht

/-! ## Plain parts -/

/-- Plain characters are kept as they are. -/
lemma keepCodes_map_toNat {cs : List Char} (h : ∀ c ∈ cs, isMarked c = false) :
    keepCodes (cs.map Char.toNat) = cs := by
  induction cs with
  | nil => rfl
  | cons c cs ih =>
    obtain ⟨hc, hcs⟩ := List.forall_mem_cons.mp h
    have hkeep : keepCode c.toNat = [c] := by
      rw [keepCode, isHalf_toNat, Char.ofNat_toNat, keepChar, hc]
      rfl
    rw [List.map_cons, keepCodes, List.flatMap_cons, ← keepCodes, ih hcs, hkeep,
      List.singleton_append]

lemma kept_of_plain {cs : List Char} (h : ∀ c ∈ cs, isMarked c = false) : Kept cs := by
  rw [← keepCodes_map_toNat h]
  refine kept_keepCodes fun n hn => ?_
  obtain ⟨c, -, rfl⟩ := List.mem_map.mp hn
  exact isCode_toNat c

lemma isKept_of_isPlain {s : String} (h : isPlain s = true) : IsKept s :=
  kept_of_plain (isPlain_iff.mp h)

/-- Plain characters have their own codes in front of others. -/
lemma codes_plain_append {cs : List Char} (h : ∀ c ∈ cs, isMarked c = false) (rest : List Char) :
    codes (cs ++ rest) = cs.map Char.toNat ++ codes rest := by
  conv_lhs => rw [← keepCodes_map_toNat h]
  refine codes_keepCodes_append (fun n hn => ?_) rest
  obtain ⟨c, -, rfl⟩ := List.mem_map.mp hn
  exact isCode_toNat c

/-- The codes of a plain part that stands in some characters stand among their codes. -/
lemma map_toNat_infix_codes {part cs : List Char} (hplain : ∀ c ∈ part, isMarked c = false)
    (h : part <:+: cs) : part.map Char.toNat <:+: codes cs := by
  cases part with
  | nil => exact List.nil_infix
  | cons c part =>
    obtain ⟨before, after, rfl⟩ := h
    have hhead : ∀ d ∈ (c :: part ++ after).head?, isMarked d = false := by
      simpa using hplain c List.mem_cons_self
    refine ⟨codes before, codes after, ?_⟩
    have hcodes : codes (before ++ (c :: part ++ after)) =
        codes before ++ codes (c :: part ++ after) :=
      codesFrom_append hhead false before
    rw [List.append_assoc, List.append_assoc, hcodes, codes_plain_append hplain]

/-- A plain part stands in a text when its codes stand among the codes of the text. -/
lemma infix_codes_iff {part cs : List Char} (hplain : ∀ c ∈ part, isMarked c = false)
    (hcs : Kept cs) : part.map Char.toNat <:+: codes cs ↔ part <:+: cs := by
  refine ⟨fun ⟨before, after, h⟩ => ?_, map_toNat_infix_codes hplain⟩
  rw [← hcs, ← h, keepCodes_append, keepCodes_append, keepCodes_map_toNat hplain]
  exact List.infix_append _ _ _

/-! ## Changes of characters -/

/-- Whether a change of characters leaves the marked ones alone and makes no others of that kind. -/
structure LeavesMarked (f : Char → List Char) : Prop where
  plain : ∀ c, isMarked c = false → ∀ d ∈ f c, isMarked d = false
  marked : ∀ c, isMarked c = true → f c = [c]

lemma isMarked_mark : isMarked mark = true := by simp [isMarked]

lemma isMarked_standIn {n : Nat} (h : isHalf n = true) : isMarked (standIn n) = true := by
  simp [isMarked, half?_standIn h]

/-- A code stays a text under such a change. -/
lemma LeavesMarked.kept_flatMap_keepCode {f : Char → List Char} (hf : LeavesMarked f) {n : Nat}
    (h : isCode n) : Kept ((keepCode n).flatMap f) := by
  have hkeep : Kept (keepCode n) := by
    have hall : ∀ m ∈ [n], isCode m := by simpa using h
    simpa [keepCodes] using kept_keepCodes hall
  -- the stand-in of a half and a marked character stay; a plain character is changed
  by_cases hhalf : isHalf n = true
  · rw [keepCode, if_pos hhalf] at hkeep ⊢
    simpa [hf.marked _ (isMarked_standIn hhalf)] using hkeep
  · rw [keepCode, if_neg hhalf, keepChar] at hkeep ⊢
    split
    · rename_i hmarked
      rw [if_pos hmarked] at hkeep
      simpa [hf.marked _ isMarked_mark, hf.marked _ hmarked] using hkeep
    · rename_i hplain
      rw [List.flatMap_singleton]
      exact kept_of_plain (hf.plain _ (Bool.not_eq_true _ ▸ hplain))

/-- A text stays one under such a change. -/
lemma Kept.flatMap {f : Char → List Char} (hf : LeavesMarked f) {cs : List Char} (h : Kept cs) :
    Kept (cs.flatMap f) := by
  have hcodes : ∀ ns : List Nat, (∀ n ∈ ns, isCode n) → Kept ((keepCodes ns).flatMap f) := by
    intro ns hns
    induction ns with
    | nil => rfl
    | cons n ns ih =>
      obtain ⟨hn, hns⟩ := List.forall_mem_cons.mp hns
      rw [keepCodes, List.flatMap_cons, List.flatMap_append]
      exact (hf.kept_flatMap_keepCode hn).append (ih hns)
  rw [← h]
  exact hcodes _ fun n hn => isCode_of_mem_codes hn

/-! ## Letter case -/

/-- A marked character is beyond those that have a case. -/
lemma le_toNat_of_isMarked {c : Char} (h : isMarked c = true) : 0x5d800 ≤ c.toNat := by
  by_contra hlt
  rw [isMarked_eq_false_of_lt (not_le.mp hlt)] at h
  cases h

/-- A change of single characters that concerns ASCII alone makes no marked ones. -/
lemma isMarked_of_ascii {g : Char → Char} (hascii : ∀ n < 0x80, isMarked (g (Char.ofNat n)) = false)
    (hrest : ∀ c : Char, 0x80 ≤ c.toNat → g c = c) {c : Char} (hc : isMarked c = false) :
    isMarked (g c) = false := by
  rcases Nat.lt_or_ge c.toNat 0x80 with hlt | hge
  · rw [← Char.ofNat_toNat c]
    exact hascii _ hlt
  · rw [hrest c hge]
    exact hc

lemma toLower_of_le {c : Char} (h : 0x80 ≤ c.toNat) : c.toLower = c := by
  refine dif_neg fun ⟨_, hle⟩ => ?_
  have hz : c.toNat ≤ 0x5a := hle
  omega

lemma toUpper_of_le {c : Char} (h : 0x80 ≤ c.toNat) : c.toUpper = c := by
  refine dif_neg fun ⟨_, hle⟩ => ?_
  have hz : c.toNat ≤ 0x7a := hle
  omega

lemma leavesMarked_lowerChar : LeavesMarked lowerChar := by
  refine ⟨fun c hc => ?_, fun c hc => ?_⟩
  · unfold lowerChar
    split
    · exact isMarked_of_all (by decide)
    · exact isMarked_of_all (by decide)
    · simpa using isMarked_of_ascii (by decide) (fun c => toLower_of_le) hc
  · have hle := le_toNat_of_isMarked hc
    unfold lowerChar
    split
    · omega
    · omega
    · rw [toLower_of_le (by omega)]

lemma leavesMarked_upperChar : LeavesMarked upperChar := by
  refine ⟨fun c hc => ?_, fun c hc => ?_⟩
  · unfold upperChar
    split
    case h_18 => simpa using isMarked_of_ascii (by decide) (fun c => toUpper_of_le) hc
    all_goals exact isMarked_of_all (by decide)
  · have hle := le_toNat_of_isMarked hc
    unfold upperChar
    split
    case h_18 => rw [toUpper_of_le (by omega)]
    all_goals omega

lemma Kept.lowerChars {cs : List Char} (h : Kept cs) : Kept (lowerChars cs) :=
  h.flatMap leavesMarked_lowerChar

lemma IsKept.upper {s : String} (h : IsKept s) : IsKept (upper s) := by
  rw [IsKept, Text.upper, String.toList_ofList]
  exact Kept.flatMap leavesMarked_upperChar h

end RouteIntake.Text
