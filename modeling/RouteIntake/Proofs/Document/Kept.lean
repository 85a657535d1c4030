import RouteIntake.Document.Display
import RouteIntake.Proofs.Document.Sound
import RouteIntake.Proofs.Text.Kept

/-!
# What is shown of a document is a text

A document is shown in pieces.  A text inside a list or an object is quoted, and quoted texts are
plain: whatever would be marked is not printable and is escaped.  On its own a text is itself.  So
what is shown of a document, or passed on of it, is a text when the texts in it are:

* `Document.isKept_plain`.
-/

namespace RouteIntake

open Numeral Text

/-! ## Quoted texts -/

/-- The characters that are marked. -/
lemma Text.toNat_of_isMarked {c : Char} (h : isMarked c = true) :
    c.toNat = 0x10ffff ∨ 0x5d800 ≤ c.toNat ∧ c.toNat ≤ 0x5dfff := by
  rw [isMarked, Bool.or_eq_true, beq_iff_eq, Option.isSome_iff_exists] at h
  rcases h with rfl | ⟨n, hn⟩
  · exact Or.inl (by decide)
  · have hhalf : isHalf (c.toNat - standInOffset) = true := by
      rw [half?] at hn
      split at hn
      · rename_i hif
        exact hif
      · cases hn
    rw [isHalf, Bool.and_eq_true, Nat.ble_eq, Nat.ble_eq, standInOffset] at hhalf
    omega

/-- A character that is printable is plain: the marked ones are not assigned. -/
lemma Text.isMarked_of_isPrintable {n : Nat} (h : isPrintable n = true) :
    isMarked (Char.ofNat n) = false := by
  have hunprintable : ∀ first last, (first, last) ∈ unprintableRanges → 0x7f ≤ first →
      first ≤ n → n ≤ last → isPrintable n = false := by
    intro first last hmem hfirst hle hge
    have hascii : (Nat.ble 0x20 n && Nat.blt n 0x7f) = false := by
      rw [← Bool.not_eq_true, Bool.and_eq_true, Nat.blt_eq]
      omega
    have hany :
        (unprintableRanges.any fun range => Nat.ble range.1 n && Nat.ble n range.2) = true :=
      List.any_eq_true.mpr ⟨_, hmem, by simp [hle, hge]⟩
    rw [isPrintable, hascii, hany]
    rfl
  rw [← Bool.not_eq_true]
  intro hmarked
  have htoNat : (Char.ofNat n).toNat = n ∨ (Char.ofNat n).toNat = 0 := by
    unfold Char.ofNat
    split
    · exact Or.inl rfl
    · exact Or.inr rfl
  have hfalse : isPrintable n = false := by
    rcases toNat_of_isMarked hmarked with hmark | hstand
    · exact hunprintable 0xe01f0 0x10ffff (by decide +kernel) (by decide) (by omega) (by omega)
    · exact hunprintable 0x3134b 0xe00ff (by decide +kernel) (by decide) (by omega) (by omega)
  rw [h] at hfalse
  cases hfalse

/-- A code inside quotes is written with plain characters. -/
lemma Text.isMarked_of_mem_escapeCode {quote c : Char} (hquote : isMarked quote = false) {n : Nat}
    (h : c ∈ escapeCode quote n) : isMarked c = false := by
  have hslash : isMarked '\\' = false := by decide
  have hletter : ∀ d ∈ ['n', 'r', 't', 'x', 'u', 'U'], isMarked d = false :=
    isMarked_of_all (by decide)
  have hpair : ∀ d, isMarked d = false → c ∈ ['\\', d] → isMarked c = false := by
    intro d hd hc
    rcases List.mem_pair.mp hc with rfl | rfl
    · exact hslash
    · exact hd
  have hhex : ∀ d width, isMarked d = false → c ∈ '\\' :: d :: hexDigits width n →
      isMarked c = false := by
    intro d width hd hc
    rcases List.mem_cons.mp hc with rfl | hc
    · exact hslash
    · rcases List.mem_cons.mp hc with rfl | hc
      · exact hd
      · exact isMarked_of_mem_hexDigits hc
  unfold escapeCode at h
  split at h
  · rename_i hn
    rw [Bool.or_eq_true, beq_iff_eq, beq_iff_eq] at hn
    refine hpair _ ?_ h
    rcases hn with rfl | rfl
    · decide
    · rw [Char.ofNat_toNat]
      exact hquote
  · split at h
    · exact hpair _ (hletter _ (by simp)) h
    · split at h
      · exact hpair _ (hletter _ (by simp)) h
      · split at h
        · exact hpair _ (hletter _ (by simp)) h
        · split at h
          · rw [List.mem_singleton.mp h]
            exact isMarked_of_isPrintable ‹_›
          · split at h
            · exact hhex _ _ (hletter _ (by simp)) h
            · split at h
              · exact hhex _ _ (hletter _ (by simp)) h
              · exact hhex _ _ (hletter _ (by simp)) h

/-- A quoted text is plain. -/
lemma Text.isPlain_quoted (s : String) : isPlain (quoted s) = true := by
  have hquote : isMarked (quoteOf s.toList) = false := by
    unfold quoteOf
    split <;> decide
  rw [isPlain_iff, quoted, String.toList_ofList, quotedChars]
  intro c hc
  rcases List.mem_cons.mp hc with rfl | hc
  · exact hquote
  · rcases List.mem_append.mp hc with hc | hc
    · obtain ⟨n, -, hn⟩ := List.mem_flatMap.mp hc
      exact isMarked_of_mem_escapeCode hquote hn
    · rw [List.mem_singleton.mp hc]
      exact hquote

lemma Text.isKept_intercalate {separator : String} (hseparator : IsKept separator)
    {texts : List String} (h : ∀ t ∈ texts, IsKept t) : IsKept (separator.intercalate texts) := by
  induction texts with
  | nil => exact kept_of_plain (List.forall_mem_nil _)
  | cons t texts ih =>
    obtain ⟨ht, htexts⟩ := List.forall_mem_cons.mp h
    cases texts with
    | nil => simpa using ht
    | cons u texts =>
      rw [String.intercalate_cons_cons]
      exact (ht.append hseparator).append (ih htexts)

namespace Document

mutual

/-- Whether all texts in a document, its names included, are kept by their codes. -/
def IsKept : Document → Prop
  | .text s => Text.IsKept s
  | .constant family value => Text.IsKept family ∧ Text.IsKept value
  | .array ds => ItemsKept ds
  | .object ms => MembersKept ms
  | _ => True

/-- Whether the texts in the items of an array are kept. -/
def ItemsKept : List Document → Prop
  | [] => True
  | d :: ds => IsKept d ∧ ItemsKept ds

/-- Whether the texts in the members of an object are kept, with their names. -/
def MembersKept : List (String × Document) → Prop
  | [] => True
  | (name, d) :: ms => Text.IsKept name ∧ IsKept d ∧ MembersKept ms

end

/-- The name of a constant is a text when its family and its value are. -/
lemma isKept_constantName {family value : String} (hfamily : Text.IsKept family)
    (hvalue : Text.IsKept value) : Text.IsKept (constantName family value) := by
  have hdash : LeavesMarked fun c => [if c == '-' then '_' else c] := by
    refine ⟨fun c hc => ?_, fun c hc => ?_⟩
    · rw [List.forall_mem_singleton]
      split
      · decide
      · exact hc
    · have hne : (c == '-') = false := by
        rw [beq_eq_false_iff_ne]
        rintro rfl
        exact absurd hc (by decide)
      rw [hne]
      rfl
  have hunder :
      Text.IsKept (String.ofList (value.toList.map fun c => if c == '-' then '_' else c)) := by
    rw [Text.IsKept, String.toList_ofList, List.map_eq_flatMap]
    exact Kept.flatMap hdash hvalue
  have hpoint : Text.IsKept "." := isKept_of_isPlain (by decide)
  exact (hfamily.append hpoint).append hunder.upper

mutual

/-- What is shown of a document is a text when its texts are. -/
lemma isKept_shown : ∀ d : Document, d.IsKept → Text.IsKept d.shown
  | .null, _ => isKept_of_isPlain (by decide)
  | .boolean b, _ => by cases b <;> exact isKept_of_isPlain (by decide)
  | .integer n, _ => isKept_of_isPlain (isPlain_toString_int n)
  | .number x, _ => by
    refine isKept_of_isPlain (isPlain_iff.mpr fun c hc => ?_)
    rw [shown, Binary64.text, String.toList_ofList] at hc
    exact Binary64.isMarked_of_mem_chars hc
  | .text s, _ => isKept_of_isPlain (isPlain_quoted s)
  | .constant family value, h => by
    have hname := isKept_constantName h.1 h.2
    have hvalue := isKept_of_isPlain (isPlain_quoted value)
    have hopen : Text.IsKept "<" := isKept_of_isPlain (by decide)
    have hcolon : Text.IsKept ": " := isKept_of_isPlain (by decide)
    have hclose : Text.IsKept ">" := isKept_of_isPlain (by decide)
    exact (((hopen.append hname).append hcolon).append hvalue).append hclose
  | .array ds, h => by
    have hitems := isKept_intercalate (isKept_of_isPlain (by decide : isPlain ", " = true))
      (isKept_shownItems ds h)
    have hopen : Text.IsKept "[" := isKept_of_isPlain (by decide)
    have hclose : Text.IsKept "]" := isKept_of_isPlain (by decide)
    exact (hopen.append hitems).append hclose
  | .object ms, h => by
    have hmembers := isKept_intercalate (isKept_of_isPlain (by decide : isPlain ", " = true))
      (isKept_shownMembers ms h)
    have hopen : Text.IsKept "\x7b" := isKept_of_isPlain (by decide)
    have hclose : Text.IsKept "\x7d" := isKept_of_isPlain (by decide)
    exact (hopen.append hmembers).append hclose

lemma isKept_shownItems : ∀ ds : List Document, ItemsKept ds →
    ∀ t ∈ shownItems ds, Text.IsKept t
  | [], _ => List.forall_mem_nil _
  | d :: ds, h => List.forall_mem_cons.mpr ⟨isKept_shown d h.1, isKept_shownItems ds h.2⟩

lemma isKept_shownMembers : ∀ ms : List (String × Document), MembersKept ms →
    ∀ t ∈ shownMembers ms, Text.IsKept t
  | [], _ => List.forall_mem_nil _
  | (name, d) :: ms, h => by
    have hname := isKept_of_isPlain (isPlain_quoted name)
    have hcolon : Text.IsKept ": " := isKept_of_isPlain (by decide)
    exact List.forall_mem_cons.mpr
      ⟨(hname.append hcolon).append (isKept_shown d h.2.1), isKept_shownMembers ms h.2.2⟩

end

/-- What is passed on of a document is a text when its texts are. -/
lemma isKept_plain {d : Document} (h : d.IsKept) : Text.IsKept d.plain := by
  cases d with
  | text s => exact plain_text s ▸ h
  | constant family value => exact h.2
  | _ => exact isKept_shown _ h

end Document

end RouteIntake
