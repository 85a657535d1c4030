import RouteIntake.Proofs.Text.Sound
import RouteIntake.Service.Message

/-!
# Documents that have a form as an answer

An answer is sent as a written document, which has to be free of halves of characters.  A document
is written in pieces, and only the texts and the names in it can bring halves along.  The main
statement says so of whole documents:

* `Service.unwritable?_eq_none_iff`: a document has a form as an answer exactly when its numbers are
  finite and its texts and names are sound.
-/

namespace RouteIntake

open Numeral Text

/-! ## Plain pieces -/

lemma Text.isMarked_of_mem_hexDigits {width n : Nat} {c : Char} (h : c ∈ hexDigits width n) :
    isMarked c = false := by
  induction width generalizing n with
  | zero => simp [hexDigits] at h
  | succ width ih =>
    rw [hexDigits, List.mem_append, List.mem_singleton] at h
    rcases h with h | rfl
    · exact ih h
    · have hall : ∀ d < 16, isMarked (hexDigit d) = false := by decide
      exact hall _ (Nat.mod_lt n (by decide))

lemma Numeral.isMarked_of_mem_toDigits {n : Nat} {c : Char} (h : c ∈ Nat.toDigits 10 n) :
    isMarked c = false :=
  isMarked_of_isDigit (Nat.isDigit_of_mem_toDigits (by decide) (by decide) h)

/-- Copies of a plain character are plain. -/
lemma Text.isMarked_of_mem_replicate {c d : Char} {n : Nat} (hd : isMarked d = false)
    (h : c ∈ List.replicate n d) : isMarked c = false := by
  rw [(List.mem_replicate.mp h).2]
  exact hd

lemma Numeral.isMarked_of_mem_exponentText {layout : NumberLayout} {e : Int} {c : Char}
    (h : c ∈ exponentText layout e) : isMarked c = false := by
  simp only [exponentText, List.mem_cons, List.mem_append] at h
  rcases h with rfl | h | h
  · split <;> decide
  · exact isMarked_of_mem_replicate (by decide) h
  · exact isMarked_of_mem_toDigits h

/-- The characters of a decimal are plain: digits, a point, an exponent with its sign. -/
lemma Numeral.ShortDecimal.isMarked_of_mem_chars {layout : NumberLayout} {d : ShortDecimal}
    {c : Char} (h : c ∈ d.chars layout) : isMarked c = false := by
  have hdigit : ∀ c ∈ dropTrailingZeros (Nat.toDigits 10 d.coefficient), isMarked c = false := by
    intro c hc
    rw [dropTrailingZeros, List.mem_reverse] at hc
    have hmem := (List.dropWhile_sublist _).subset hc
    exact isMarked_of_mem_toDigits (List.mem_reverse.mp hmem)
  have htake : ∀ n, ∀ c ∈ (dropTrailingZeros (Nat.toDigits 10 d.coefficient)).take n,
      isMarked c = false := fun n c hc => hdigit c (List.mem_of_mem_take hc)
  have hdrop : ∀ n, ∀ c ∈ (dropTrailingZeros (Nat.toDigits 10 d.coefficient)).drop n,
      isMarked c = false := fun n c hc => hdigit c (List.mem_of_mem_drop hc)
  have hpoint : isMarked '.' = false := by decide
  have hzero : isMarked '0' = false := by decide
  have hletter : isMarked 'e' = false := by decide
  simp only [ShortDecimal.chars] at h
  split at h
  · split at h
    · simp only [List.mem_append, List.mem_cons, List.not_mem_nil, or_false] at h
      rcases h with ((rfl | rfl) | h) | h
      · exact hzero
      · exact hpoint
      · exact isMarked_of_mem_replicate hzero h
      · exact hdigit c h
    · simp only [List.mem_append, List.mem_singleton] at h
      rcases h with ((h | h) | rfl) | h
      · exact htake _ c h
      · exact isMarked_of_mem_replicate hzero h
      · exact hpoint
      · split at h
        · rw [List.mem_singleton.mp h]
          exact hzero
        · exact hdrop _ c h
  · simp only [List.mem_append, List.mem_cons] at h
    rcases h with (h | h) | rfl | h
    · exact htake _ c h
    · split at h
      · cases h
      · rcases List.mem_cons.mp h with rfl | h
        · exact hpoint
        · exact hdrop _ c h
    · exact hletter
    · exact isMarked_of_mem_exponentText h

lemma Numeral.Binary64.isMarked_of_mem_chars {x : Binary64} {c : Char} (h : c ∈ x.chars) :
    isMarked c = false := by
  have hsign : ∀ negative : Bool, ∀ c ∈ (if negative then ['-'] else []), isMarked c = false := by
    intro negative
    cases negative <;> exact isMarked_of_all (by decide)
  cases x with
  | nan =>
    have hword : ∀ c ∈ Binary64.nan.chars, isMarked c = false := isMarked_of_all (by decide)
    exact hword c h
  | infinity negative =>
    have hword : ∀ c ∈ ['i', 'n', 'f'], isMarked c = false := isMarked_of_all (by decide)
    rcases List.mem_append.mp h with h | h
    · exact hsign negative c h
    · exact hword c h
  | finite negative significand exponent =>
    have hzero : ∀ c ∈ ['0', '.', '0'], isMarked c = false := isMarked_of_all (by decide)
    rcases List.mem_append.mp h with h | h
    · exact hsign negative c h
    · split at h
      · exact hzero c h
      · exact ShortDecimal.isMarked_of_mem_chars h

/-! ## Written texts -/

namespace Document

/-- A code is written with a half exactly when it is one. -/
lemma sound_writeCode_append {n : Nat} (h : isCode n) {rest : List Char} :
    Sound (writeCode openStyle n ++ rest) ↔ isHalf n = false ∧ Sound rest := by
  have hplain : ∀ cs : List Char, (∀ c ∈ cs, isMarked c = false) → isHalf n = false →
      (Sound (cs ++ rest) ↔ isHalf n = false ∧ Sound rest) := by
    intro cs hcs hn
    rw [sound_plain_append hcs]
    exact (and_iff_right hn).symm
  -- a quote or a backslash, a letter after a backslash, an escaped unit, or the code itself
  unfold writeCode
  split
  · rename_i hn
    rw [Bool.or_eq_true, beq_iff_eq, beq_iff_eq] at hn
    rcases hn with rfl | rfl
    · exact hplain _ (isMarked_of_all (by decide)) (by decide)
    · exact hplain _ (isMarked_of_all (by decide)) (by decide)
  · split
    · rename_i letter hletter
      have hall : ∀ e ∈ letterEscapes, (['\\', e.2].all fun c => !isMarked c) = true ∧
          isHalf e.1 = false := by decide
      obtain ⟨l₁, l₂, he, -⟩ := List.lookup_eq_some_iff.mp hletter
      have hmem : (n, letter) ∈ letterEscapes := by simp [he]
      exact hplain _ (isMarked_of_all (hall _ hmem).1) (hall _ hmem).2
    · unfold openStyle
      split
      · rename_i hn
        rw [Nat.blt_eq] at hn
        refine hplain _ ?_ ?_
        · intro c hc
          simp only [unitEscape, List.mem_cons] at hc
          rcases hc with rfl | rfl | hc
          · decide
          · decide
          · exact isMarked_of_mem_hexDigits hc
        · rw [← Bool.not_eq_true, isHalf, Bool.and_eq_true, Nat.ble_eq, Nat.ble_eq]
          omega
      · simp only [Sound, codes_keepCode_append h, List.forall_mem_cons]

lemma sound_writeCodes_append {ns : List Nat} (h : ∀ n ∈ ns, isCode n) {rest : List Char} :
    Sound (ns.flatMap (writeCode openStyle) ++ rest) ↔
      (∀ n ∈ ns, isHalf n = false) ∧ Sound rest := by
  induction ns with
  | nil => simp
  | cons n ns ih =>
    rw [List.flatMap_cons, List.append_assoc, sound_writeCode_append (h n List.mem_cons_self),
      ih fun m hm => h m (List.mem_cons_of_mem n hm), List.forall_mem_cons, and_assoc]

/-- A text is written without halves exactly when it is sound. -/
lemma sound_writeText {s : String} : Sound (writeText openStyle s) ↔ isSound s = true := by
  have hquote : isMarked '\x22' = false := by decide
  have hend : Sound ['\x22'] := sound_of_plain (isMarked_of_all (by decide))
  rw [writeText, sound_cons hquote, sound_writeCodes_append fun n hn => isCode_of_mem_codes hn,
    and_iff_left hend, isSound_iff, Sound]

lemma sound_joinEntries {es : List (List Char)} :
    Sound (joinEntries es) ↔ ∀ e ∈ es, Sound e := by
  have hcomma : isMarked ',' = false := by decide
  induction es with
  | nil => simp [joinEntries, sound_nil]
  | cons e es ih =>
    cases es with
    | nil => simp [joinEntries]
    | cons f es =>
      rw [joinEntries, sound_append (by simpa using hcomma), sound_cons hcomma,
        List.forall_mem_cons]
      · exact and_congr_right fun _ => ih
      · simp

/-- What stands between brackets. -/
lemma sound_enclosed {first last : Char} (hfirst : isMarked first = false)
    (hlast : isMarked last = false) {cs : List Char} :
    Sound (first :: (cs ++ [last])) ↔ Sound cs := by
  have hend : Sound [last] := sound_of_plain (by simpa using hlast)
  rw [sound_cons hfirst, sound_append (by simpa using hlast), and_iff_left hend]

/-! ## Written documents -/

mutual

/-- Whether all texts and names in a document are free of halves of characters. -/
def isSound : Document → Bool
  | .text s => Text.isSound s
  | .constant _ s => Text.isSound s
  | .array ds => itemsSound ds
  | .object ms => membersSound ms
  | _ => true

/-- Whether the items of an array are sound. -/
def itemsSound : List Document → Bool
  | [] => true
  | d :: ds => isSound d && itemsSound ds

/-- Whether the members of an object are sound, with their names. -/
def membersSound : List (String × Document) → Bool
  | [] => true
  | (name, d) :: ms => Text.isSound name && isSound d && membersSound ms

end

mutual

/-- A document is written without halves exactly when it is sound. -/
lemma sound_writeChars : ∀ d : Document, Sound (writeChars openStyle d) ↔ d.isSound = true
  | .null => by
    simp only [writeChars, isSound, iff_true]
    exact sound_of_plain (isMarked_of_all (by decide))
  | .boolean b => by
    simp only [writeChars, isSound, iff_true]
    cases b <;> exact sound_of_plain (isMarked_of_all (by decide))
  | .integer n => by
    simp only [writeChars, isSound, iff_true]
    exact sound_of_plain (isPlain_iff.mp (isPlain_toString_int n))
  | .number x => by
    simp only [writeChars, isSound, iff_true]
    split
    · exact sound_of_plain fun c hc => Binary64.isMarked_of_mem_chars hc
    · exact sound_of_plain (isMarked_of_all (by decide))
  | .text s => by rw [writeChars, isSound, sound_writeText]
  | .constant _ s => by rw [writeChars, isSound, sound_writeText]
  | .array ds => by
    rw [writeChars, isSound, sound_enclosed (by decide) (by decide), sound_joinEntries]
    exact sound_writeItems ds
  | .object ms => by
    rw [writeChars, isSound, sound_enclosed (by decide) (by decide), sound_joinEntries]
    exact sound_writeMembers ms

lemma sound_writeItems : ∀ ds : List Document,
    (∀ e ∈ writeItems openStyle ds, Sound e) ↔ itemsSound ds = true
  | [] => by simp [writeItems, itemsSound]
  | d :: ds => by
    rw [writeItems, itemsSound, List.forall_mem_cons, Bool.and_eq_true, sound_writeChars d,
      sound_writeItems ds]

lemma sound_writeMembers : ∀ ms : List (String × Document),
    (∀ e ∈ writeMembers openStyle ms, Sound e) ↔ membersSound ms = true
  | [] => by simp [writeMembers, membersSound]
  | (name, d) :: ms => by
    have hcolon : isMarked ':' = false := by decide
    rw [writeMembers, membersSound, List.forall_mem_cons, Bool.and_eq_true, Bool.and_eq_true,
      sound_append (by simpa using hcolon), sound_cons hcolon, sound_writeText, sound_writeChars d,
      sound_writeMembers ms]

end

end Document

/-- **Which documents have a form as an answer.**  Those whose numbers are all finite and whose
texts and names are all free of halves of characters. -/
theorem Service.unwritable?_eq_none_iff {d : Document} :
    Service.unwritable? d = none ↔ d.isFinite = true ∧ d.isSound = true := by
  rw [← Document.sound_writeChars, Sound, ← firstHalves?_eq_none_iff, Service.unwritable?]
  cases d.isFinite with
  | false => simp
  | true => simp [Document.compact]

end RouteIntake
