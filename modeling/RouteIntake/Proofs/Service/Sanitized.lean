import RouteIntake.Proofs.Document.Kept
import RouteIntake.Proofs.Service.ErrorBody

/-!
# What a refusal does not give away

The message of a refusal on the side of the service is passed on only when it gives nothing away: it
is searched, in lower case, for the sensitive parts, and it is cut short when it is long.  The
search is made in the whole message, but what the client sees is a piece of it with points behind,
which a sensitive part might run across.  None does, because none has a point in it and a piece of a
message in lower case is a piece of the lowered message (`not_givesAway_shortened`).  A message that
was cut short is cut at the same place when it is sanitized again, so the points are not added
twice.  The main statement has all of this:

* `sanitize_safe`.
-/

namespace RouteIntake.Service

open Text

/-! ## Texts that give something away -/

/-- Whether a text, in lower case, has a sensitive part somewhere: the codes of the part stand side
by side among its codes. -/
def GivesAway (s : String) : Prop :=
  ∃ part ∈ sensitiveParts, part.map Char.toNat <:+: codes (lower s).toList

/-- The sensitive parts are plain, and none of them has a point. -/
lemma plain_of_mem_sensitiveParts {part : List Char} (h : part ∈ sensitiveParts) :
    (∀ c ∈ part, isMarked c = false) ∧ '.' ∉ part := by
  have hall : ∀ part ∈ sensitiveParts,
      (part.all fun c => !isMarked c) = true ∧ part.contains '.' = false := by decide
  obtain ⟨hplain, hpoint⟩ := hall part h
  exact ⟨isMarked_of_all hplain, by simpa using hpoint⟩

/-- The search among the characters finds what stands among the codes. -/
lemma givesAway_iff {s : String} (hs : IsKept s) : GivesAway s ↔ isSensitive s.toList = true := by
  rw [GivesAway, isSensitive, List.any_eq_true, toList_lower]
  refine exists_congr fun part => and_congr_right fun hpart => ?_
  rw [occursIn_iff]
  exact infix_codes_iff (plain_of_mem_sensitiveParts hpart).1 hs.lowerChars

/-! ## Messages cut short -/

/-- The codes at the start of a message with points behind. -/
def shortenedTo (limit : Nat) (ns : List Nat) : String := ofCodes (ns.take limit) ++ "..."

variable {ns : List Nat}

lemma isCode_of_mem_take (h : ∀ n ∈ ns, isCode n) {limit : Nat} : ∀ n ∈ ns.take limit, isCode n :=
  fun n hn => h n (List.mem_of_mem_take hn)

lemma isKept_shortened (h : ∀ n ∈ ns, isCode n) (limit : Nat) : IsKept (shortenedTo limit ns) :=
  (isKept_ofCodes (isCode_of_mem_take h)).append (isKept_of_isPlain (by decide))

lemma codes_shortened (h : ∀ n ∈ ns, isCode n) (limit : Nat) :
    codes (shortenedTo limit ns).toList = ns.take limit ++ "...".toList.map Char.toNat := by
  have hplain : ∀ c ∈ "...".toList, isMarked c = false := isMarked_of_all (by decide)
  rw [shortenedTo, String.toList_append, ofCodes, String.toList_ofList,
    codes_keepCodes_append (isCode_of_mem_take h), ← List.append_nil "...".toList,
    codes_plain_append hplain, List.append_nil, codes_nil, List.append_nil]

/-- A part without a character does not need that character at the end of a text. -/
lemma infix_of_infix_concat {part cs : List Char} {c : Char} (hc : c ∉ part)
    (h : part <:+: cs ++ [c]) : part <:+: cs := by
  rcases List.infix_concat_iff.mp h with hsuffix | hinfix
  · rcases List.suffix_concat_iff.mp hsuffix with rfl | ⟨rest, rfl, -⟩
    · exact List.nil_infix
    · exact absurd (List.mem_append_right rest (List.mem_singleton_self c)) hc
  · exact hinfix

/-- A piece of a message that gives nothing away gives nothing away with points behind. -/
lemma not_givesAway_shortened (h : ∀ n ∈ ns, isCode n) (limit : Nat)
    (hns : ¬GivesAway (ofCodes ns)) : ¬GivesAway (shortenedTo limit ns) := by
  rw [givesAway_iff (isKept_ofCodes h), ofCodes, String.toList_ofList] at hns
  rw [givesAway_iff (isKept_shortened h limit)]
  intro hsensitive
  refine hns ?_
  obtain ⟨part, hpart, hoccurs⟩ := List.any_eq_true.mp hsensitive
  refine List.any_eq_true.mpr ⟨part, hpart, ?_⟩
  rw [occursIn_iff] at hoccurs ⊢
  have hpoint := (plain_of_mem_sensitiveParts hpart).2
  have hlowered : lowerChars (shortenedTo limit ns).toList =
      lowerChars (keepCodes (ns.take limit)) ++ ['.'] ++ ['.'] ++ ['.'] := by
    rw [shortenedTo, String.toList_append, lowerChars_append, ofCodes, String.toList_ofList,
      List.append_assoc, List.append_assoc]
    rfl
  have hpiece : lowerChars (keepCodes (ns.take limit)) <+: lowerChars (keepCodes ns) := by
    conv_rhs => rw [← List.take_append_drop limit ns, keepCodes_append, lowerChars_append]
    exact List.prefix_append _ _
  rw [hlowered] at hoccurs
  have hstart := infix_of_infix_concat hpoint
    (infix_of_infix_concat hpoint (infix_of_infix_concat hpoint hoccurs))
  exact hstart.trans hpiece.isInfix

/-! ## Sanitized messages -/

variable {m : String}

lemma sanitize_of_givesAway (hm : IsKept m) (h : GivesAway m) : sanitize m = hiddenMessage := by
  rw [sanitize, if_pos ((givesAway_iff hm).mp h)]

lemma sanitize_of_size_le (hm : IsKept m) (h : ¬GivesAway m) (hsize : size m.toList ≤ 200) :
    sanitize m = m := by
  have hlimit : ¬Nat.blt messageLimit (size m.toList) = true := by
    rw [Nat.blt_eq, messageLimit]
    omega
  rw [sanitize, if_neg fun hs => h ((givesAway_iff hm).mpr hs), if_neg hlimit]

lemma sanitize_of_lt_size (hm : IsKept m) (h : ¬GivesAway m) (hsize : 200 < size m.toList) :
    sanitize m = shortenedTo 200 (codes m.toList) := by
  have hlimit : Nat.blt messageLimit (size m.toList) = true := Nat.blt_eq.mpr hsize
  rw [sanitize, if_neg fun hs => h ((givesAway_iff hm).mpr hs), if_pos hlimit]
  rfl

lemma hiddenMessage_safe :
    IsKept hiddenMessage ∧ ¬GivesAway hiddenMessage ∧ size hiddenMessage.toList ≤ 200 := by
  have hkept : IsKept hiddenMessage := isKept_of_isPlain (by decide)
  refine ⟨hkept, ?_, by decide⟩
  rw [givesAway_iff hkept]
  decide

/-- A sanitized message is a text, gives nothing away, has no more codes than the limit and the
three points, and does not change when it is sanitized again. -/
structure Sanitized (m : String) : Prop where
  kept : IsKept m
  safe : ¬GivesAway m
  bounded : size m.toList ≤ 203
  stable : sanitize m = m

lemma sanitized_of_size_le (hm : IsKept m) (h : ¬GivesAway m) (hsize : size m.toList ≤ 200) :
    Sanitized m :=
  ⟨hm, h, by omega, sanitize_of_size_le hm h hsize⟩

/-- A message that was cut short is cut at the same place again. -/
lemma sanitized_shortened (h : ∀ n ∈ ns, isCode n) (hns : ¬GivesAway (ofCodes ns))
    (hlong : 200 < ns.length) : Sanitized (shortenedTo 200 ns) := by
  have hkept := isKept_shortened h 200
  have hsafe := not_givesAway_shortened h 200 hns
  have hcodes := codes_shortened h 200
  have hlength : (ns.take 200).length = 200 := by
    rw [List.length_take]
    omega
  have hsize : size (shortenedTo 200 ns).toList = 203 := by
    rw [size, hcodes, List.length_append, hlength]
    rfl
  refine ⟨hkept, hsafe, hsize.le, ?_⟩
  rw [sanitize_of_lt_size hkept hsafe (by omega), hcodes, shortenedTo,
    List.take_append_of_le_length hlength.ge, List.take_take, min_self]
  rfl

/-- Whatever text is sanitized, the outcome is a sanitized message. -/
lemma sanitized_sanitize (hm : IsKept m) : Sanitized (sanitize m) := by
  by_cases haway : GivesAway m
  · obtain ⟨hkept, hsafe, hsize⟩ := hiddenMessage_safe
    rw [sanitize_of_givesAway hm haway]
    exact sanitized_of_size_le hkept hsafe hsize
  · rcases Nat.lt_or_ge 200 (size m.toList) with hlong | hshort
    · have hcodes : ofCodes (codes m.toList) = m := by
        rw [ofCodes, hm, String.ofList_toList]
      rw [sanitize_of_lt_size hm haway hlong]
      exact sanitized_shortened (fun n hn => isCode_of_mem_codes hn) (hcodes.symm ▸ haway) hlong
    · rw [sanitize_of_size_le hm haway hshort]
      exact sanitized_of_size_le hm haway hshort

/-- **Sanitized messages are safe, bounded and stable.**  For every text, what it is sanitized to
has no sensitive part in any letter case, has at most 203 codes, is the text itself when that has no
sensitive part and at most 200 codes, and does not change when it is sanitized again.  So a refusal
with a status of 500 or more, whatever its detail, has a body whose message has no sensitive part,
and this body is what is written as its answer. -/
theorem sanitize_safe :
    (∀ m, IsKept m → ¬GivesAway (sanitize m) ∧ size (sanitize m).toList ≤ 203 ∧
      (¬GivesAway m → size m.toList ≤ 200 → sanitize m = m) ∧ sanitize (sanitize m) = sanitize m) ∧
    ∀ (s : Surroundings) (status : Int) (detail : Document), 500 ≤ status → detail.IsKept →
      ∃ body message, (Problem.http status detail).body s = .ok body ∧
        errorField? body "message" = some (.text message) ∧ ¬GivesAway message ∧
        answerProblem s (.http status detail) = Outgoing.written status body := by
  refine ⟨fun m hm => ?_, fun s status detail hstatus hdetail => ?_⟩
  · have hsanitized := sanitized_sanitize hm
    exact ⟨hsanitized.safe, hsanitized.bounded, sanitize_of_size_le hm, hsanitized.stable⟩
  · have hmessage : (Problem.http status detail).message = .text (sanitize detail.plain) := by
      rw [Problem.message, if_pos hstatus]
    -- a refusal has no details, so nobody asks for the environment
    have hbody : (Problem.http status detail).body s =
        .ok (errorBody false (Problem.http status detail).code (.text (sanitize detail.plain))
          s.requestId .null) := by
      rw [← hmessage]
      rfl
    refine ⟨_, _, hbody, rfl, (sanitized_sanitize (Document.isKept_plain hdetail)).safe, ?_⟩
    rw [answerProblem, hbody]
    rfl

/-- A message in which the start of a sensitive part stands behind some other characters. -/
def pathMessage (before : ℕ) : String :=
  String.ofList (List.replicate before 'x') ++ "/usr, and so on"

lemma isPlain_pathMessage (before : ℕ) : isPlain (pathMessage before) = true := by
  rw [pathMessage, isPlain_append, Bool.and_eq_true, isPlain_iff, String.toList_ofList]
  exact ⟨fun c hc => isMarked_of_mem_replicate (by decide) hc, by decide⟩

lemma size_pathMessage (before : ℕ) : size (pathMessage before).toList = before + 15 := by
  have hcodes := codes_plain_append (isPlain_iff.mp (isPlain_pathMessage before)) []
  rw [List.append_nil, codes_nil, List.append_nil] at hcodes
  rw [size, hcodes, List.length_map, pathMessage, String.toList_append, String.toList_ofList,
    List.length_append, List.length_replicate]
  rfl

/-- A short message that gives nothing away is passed on.  Of a long one in which a sensitive part
might go on right behind the cut, the start is passed on with points behind.  A refusal with a path
in its detail, in capital letters and inside a list, is answered with another message. -/
theorem sanitize_safe_pathMessage :
    sanitize "not in /usr" = "not in /usr" ∧
      (sanitize (pathMessage 196) ≠ pathMessage 196 ∧ ¬GivesAway (sanitize (pathMessage 196)) ∧
        size (sanitize (pathMessage 196)).toList ≤ 203 ∧
        sanitize (sanitize (pathMessage 196)) = sanitize (pathMessage 196)) ∧
      GivesAway (Document.array [.text "in /USR/LIB"]).plain ∧
      ∃ body message, (Problem.http 503 (.array [.text "in /USR/LIB"])).body
          ⟨Settings.standard, .text "1", ""⟩ = .ok body ∧
        errorField? body "message" = some (.text message) ∧ ¬GivesAway message ∧
        answerProblem ⟨Settings.standard, .text "1", ""⟩
          (.http 503 (.array [.text "in /USR/LIB"])) = Outgoing.written 503 body := by
  have hshort : IsKept "not in /usr" := isKept_of_isPlain (by decide)
  have hdetail : (Document.array [.text "in /USR/LIB"]).IsKept :=
    ⟨isKept_of_isPlain (by decide), trivial⟩
  obtain ⟨-, -, hself, -⟩ := sanitize_safe.1 _ hshort
  obtain ⟨hsafe, hbounded, -, hstable⟩ :=
    sanitize_safe.1 _ (isKept_of_isPlain (isPlain_pathMessage 196))
  obtain ⟨body, message, hbody, hmessage, hgives, hanswer⟩ := sanitize_safe.2
    ⟨Settings.standard, .text "1", ""⟩ 503 _ (by decide) hdetail
  have hcut : sanitize (pathMessage 196) ≠ pathMessage 196 := by
    intro h
    rw [h, size_pathMessage] at hbounded
    omega
  refine ⟨hself ?_ (by decide), ⟨hcut, hsafe, hbounded, hstable⟩, ?_, body, message, hbody,
    hmessage, hgives, hanswer⟩
  · rw [givesAway_iff hshort]
    decide
  · rw [givesAway_iff (Document.isKept_plain hdetail)]
    decide +kernel

end RouteIntake.Service
