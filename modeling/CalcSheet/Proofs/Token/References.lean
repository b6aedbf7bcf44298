import CalcSheet.Proofs.Token.LongestName

/-!
# References in a line

Every reference in a calculated line is a token by itself. It is read as a reference only in the
digits in which references are written; the same number in other digits is text.
-/
namespace CalcSheet.Token
open Reference

variable {vars : List Text} {ids : List LineId} {begun : Bool} {previous : Option Char}
  {c : Char} {t rest line digits : Text} {position start stop : Nat} {tokens : List Token}
  {token : Token} {m : Match}

/-- What a reference is read as: text, unless its digits are canonical and its line is known. -/
def writtenLexeme (ids : List LineId) (digits : Text) : Lexeme :=
  if Digits.IsCanonical digits then referenceLexeme ids digits else .text (written digits)

/-- No known name has other digits than canonical ones. -/
theorem nameAt?_of_not_isCanonical (plain : ArePlain vars) (identified : ∀ id ∈ ids, id ≠ 0)
    (nonempty : digits ≠ []) (decimal : ∀ c ∈ digits, Text.isDecimal c = true)
    (other : ¬ Digits.IsCanonical digits) (rest : Text) :
    nameAt? (written digits ++ rest) (longestFirst (knownNames vars ids)) = .ok none := by
  refine nameAt?_eq_none fun n mem => Bool.eq_false_iff.2 fun begins => ?_
  rcases mem_knownNames.1 (mem_longestFirst.1 mem) with ⟨v, hv, rfl⟩ | ⟨id, hid, rfl⟩
  · exact not_isPrefixOf_sign (plain v hv) begins
  · obtain ⟨n, rfl, rfl⟩ := exists_of_text_isPrefixOf nonempty decimal rest begins
    exact other (Digits.isCanonical_text fun zero => identified _ hid (congrArg Nat.cast zero))

theorem next_of_match? (plain : ArePlain vars) (identified : ∀ id ∈ ids, id ≠ 0)
    (found : match? (c :: rest) = some digits) (readable : digits.length ≤ Digits.maxLength) :
    next (longestFirst (knownNames vars ids)) begun previous c rest
      = .ok (writtenLexeme ids digits, digits.length + 3) := by
  obtain ⟨nonempty, decimal⟩ := decimal_of_match? found
  have whole := eq_written_append found
  unfold writtenLexeme
  split
  · next canonical => exact next_reference plain canonical readable whole
  · next other =>
    exact next_written nonempty decimal whole
      (nameAt?_of_not_isCanonical plain identified nonempty decimal other _)

/-- In a token the sign of a reference can only stand in first place. -/
theorem getElem?_ne_sign (plain : ArePlain vars) (identified : ∀ id ∈ ids, id ≠ 0)
    (short : (c :: rest).length ≤ Digits.maxLength)
    (matched : next (longestFirst (knownNames vars ids)) begun previous c rest = .ok m) {i : Nat}
    (pos : 0 < i) (inside : i < m.2) : (c :: rest)[i]? ≠ some '&' := by
  by_cases sign : c = '&'
  · subst sign
    cases found : match? ('&' :: rest) with
    | none =>
      obtain rfl := eq_text_of_next_sign plain found matched
      omega
    | some digits =>
      have length := length_of_match? found
      rw [next_of_match? plain identified found (by omega)] at matched
      obtain rfl := Except.ok.inj matched
      rw [eq_written_append found, List.getElem?_append_left (by simpa using inside)]
      exact getElem?_written_ne_sign (decimal_of_match? found).2 pos
  · have free := (next_takes plain sign matched).free
    rw [← List.getElem?_take_of_lt inside]
    exact fun found => free.not_mem (List.mem_of_getElem? found)

theorem Cover.exists_mem (h : Cover start stop tokens) (from_start : start ≤ position)
    (before : position < stop) :
    ∃ token ∈ tokens, token.start ≤ position ∧ position < token.stop := by
  induction tokens generalizing start with
  | nil =>
    obtain rfl : start = stop := h
    omega
  | cons first others ih =>
    obtain ⟨rfl, -, later⟩ := h
    rcases Nat.lt_or_ge position first.stop with within | beyond
    · exact ⟨first, List.mem_cons_self, from_start, within⟩
    · obtain ⟨token, mem, around⟩ := ih later beyond
      exact ⟨token, List.mem_cons_of_mem _ mem, around⟩

/-- Every reference in a calculated line is a token. -/
theorem mem_of_scan (plain : ArePlain vars) (identified : ∀ id ∈ ids, id ≠ 0)
    (calculated : isTextLine line = false) (scanned : scan line (knownNames vars ids) = .ok tokens)
    (short : line.length ≤ Digits.maxLength) (found : match? (line.drop position) = some digits) :
    ⟨writtenLexeme ids digits, position, position + digits.length + 3⟩ ∈ tokens := by
  obtain ⟨start, before, behind, rfl, assigned, cover, assignment, isFound⟩ :=
    exists_behind_of_scan calculated scanned
  have length := length_of_match? found
  rw [List.length_drop] at length
  have sign : (line.drop position).head? = some '&' := by
    rw [eq_written_append found]
    rfl
  rw [List.head?_drop] at sign
  -- the beginning of an assignment holds no sign
  have later : start ≤ position := by
    cases before with
    | nil =>
      obtain rfl : 0 = start := assigned
      exact Nat.zero_le _
    | cons first others =>
      obtain ⟨a, parsed, rfl, -⟩ := assignment first List.mem_cons_self
      by_contra within
      have free := Assignment.parse?_free parsed
      rw [← List.getElem?_take_of_lt (Nat.lt_of_not_le within)] at sign
      exact free.not_mem (List.mem_of_getElem? sign)
  -- the token around the sign begins with it, since no token has a sign further inside
  obtain ⟨token, mem, begins, ends⟩ := cover.exists_mem later (by omega)
  obtain ⟨begun, c, rest, n, whole, matched, stop⟩ := isFound token mem
  rcases Nat.eq_or_lt_of_le begins with same | inside
  · rw [← same, whole] at found
    rw [next_of_match? plain identified found (by omega)] at matched
    obtain ⟨lexeme, rfl⟩ := Prod.mk.inj (Except.ok.inj matched)
    obtain ⟨kind, first, last⟩ := token
    obtain rfl : first = position := same
    obtain rfl : last = first + (digits.length + 3) := stop
    obtain rfl : writtenLexeme ids digits = kind := lexeme
    exact List.mem_append_right _ mem
  · have rest_short : (c :: rest).length ≤ Digits.maxLength := by
      rw [← whole, List.length_drop]
      omega
    have noSign := getElem?_ne_sign plain identified rest_short matched
      (i := position - token.start) (by omega) (by omega)
    rw [← whole, List.getElem?_drop, Nat.add_sub_cancel' begins] at noSign
    exact absurd sign noSign

end CalcSheet.Token
