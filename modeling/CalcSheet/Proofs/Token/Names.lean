import CalcSheet.Proofs.Token.Units

/-!
# Known names

The names that a pass knows are those of variables and the texts of references. A reference that is
known is read as such wherever it stands, and no other text is.
-/
namespace CalcSheet.Token
open Reference

variable {names xs : List KnownName} {vars : List Text} {ids : List LineId} {t t' : Text}
  {m : Match}

theorem mem_insertByLength {n m : KnownName} : m ∈ insertByLength n xs ↔ m = n ∨ m ∈ xs := by
  induction xs with
  | nil => simp [insertByLength]
  | cons x xs ih =>
    unfold insertByLength
    split
    · simp
    · simp only [List.mem_cons, ih]
      tauto

@[simp] theorem mem_longestFirst {n : KnownName} : n ∈ longestFirst names ↔ n ∈ names := by
  induction names with
  | nil => rfl
  | cons x names ih =>
    change n ∈ insertByLength x (longestFirst names) ↔ _
    rw [mem_insertByLength, ih, List.mem_cons]

/-- Longer names stand before shorter ones. -/
def IsSorted (names : List KnownName) : Prop :=
  names.Pairwise fun m n => n.text.length ≤ m.text.length

theorem isSorted_insertByLength (n : KnownName) (sorted : IsSorted xs) :
    IsSorted (insertByLength n xs) := by
  induction xs with
  | nil => exact List.pairwise_singleton _ _
  | cons x xs ih =>
    obtain ⟨below, rest⟩ := List.pairwise_cons.1 sorted
    unfold insertByLength
    split
    · next fits =>
      refine List.pairwise_cons.2 ⟨fun m hm => ?_, sorted⟩
      rcases List.mem_cons.1 hm with rfl | hm
      · exact fits
      · exact Nat.le_trans (below m hm) fits
    · next longer =>
      refine List.pairwise_cons.2 ⟨fun m hm => ?_, ih rest⟩
      rcases mem_insertByLength.1 hm with rfl | hm
      · omega
      · exact below m hm

theorem isSorted_longestFirst (names : List KnownName) : IsSorted (longestFirst names) := by
  induction names with
  | nil => exact List.Pairwise.nil
  | cons x names ih => exact isSorted_insertByLength x ih

theorem insertByLength_eq_cons {n : KnownName} (h : ∀ m ∈ xs, m.text.length ≤ n.text.length) :
    insertByLength n xs = n :: xs := by
  cases xs with
  | nil => rfl
  | cons x xs => rw [insertByLength, if_pos (h x List.mem_cons_self)]

theorem filter_insertByLength (p : KnownName → Bool) (n : KnownName) (sorted : IsSorted xs) :
    (insertByLength n xs).filter p
      = if p n then insertByLength n (xs.filter p) else xs.filter p := by
  induction xs with
  | nil => cases h : p n <;> simp [insertByLength, h]
  | cons x xs ih =>
    obtain ⟨below, rest⟩ := List.pairwise_cons.1 sorted
    rw [insertByLength]
    split
    · next fits =>
      have all : ∀ m ∈ (x :: xs).filter p, m.text.length ≤ n.text.length := by
        intro m hm
        rcases List.mem_cons.1 (List.mem_filter.1 hm).1 with rfl | hm
        · exact fits
        · exact Nat.le_trans (below m hm) fits
      rw [insertByLength_eq_cons all, List.filter_cons]
    · next longer =>
      rw [List.filter_cons, ih rest, List.filter_cons]
      cases p x <;> cases p n <;> simp [insertByLength, longer]

/-- Leaving names out does not change the order of the others. -/
theorem filter_longestFirst (p : KnownName → Bool) (names : List KnownName) :
    (longestFirst names).filter p = longestFirst (names.filter p) := by
  induction names with
  | nil => rfl
  | cons x names ih =>
    change (insertByLength x (longestFirst names)).filter p = _
    rw [filter_insertByLength p x (isSorted_longestFirst names), ih, List.filter_cons]
    split <;> rfl

/-- The known names of variables and of references. -/
def knownNames (vars : List Text) (ids : List LineId) : List KnownName :=
  vars.map (⟨·, false⟩) ++ ids.map fun id => ⟨Reference.text id, true⟩

theorem mem_knownNames {n : KnownName} : n ∈ knownNames vars ids ↔
    (∃ v ∈ vars, n = ⟨v, false⟩) ∨ ∃ id ∈ ids, n = ⟨Reference.text id, true⟩ := by
  simp [knownNames, eq_comm]

/-- Names that cannot be confused with references. -/
def ArePlain (vars : List Text) : Prop := ∀ v ∈ vars, v ≠ [] ∧ '&' ∉ v

theorem variables_knownNames (vars : List Text) (ids : List LineId) :
    (longestFirst (knownNames vars ids)).filter (!·.isReference)
      = longestFirst (vars.map (⟨·, false⟩)) := by
  rw [filter_longestFirst]
  congr 1
  rw [knownNames, List.filter_append, List.filter_eq_self.2 (by simp),
    List.filter_eq_nil_iff.2 (by simp), List.append_nil]

theorem head?_text (id : LineId) : (Reference.text id).head? = some '&' := rfl

/-- Away from the sign of a reference only the names of variables matter. -/
theorem nameAt?_eq_variables (h : t.head? ≠ some '&')
    (signed : ∀ n ∈ names, n.isReference = true → n.text.head? = some '&') :
    nameAt? t names = nameAt? t (names.filter (!·.isReference)) := by
  induction names with
  | nil => rfl
  | cons n names ih =>
    have later := ih fun m hm => signed m (List.mem_cons_of_mem _ hm)
    cases kind : n.isReference with
    | false => simp only [List.filter_cons, kind, Bool.not_false, ↓reduceIte, nameAt?, later]
    | true =>
      have other : n.text.isPrefixOf t = false := by
        rw [Bool.eq_false_iff]
        intro begins
        obtain ⟨rest, rfl⟩ := List.isPrefixOf_iff_prefix.1 begins
        exact h (by simp [List.head?_append, signed n List.mem_cons_self kind])
      rw [nameAt?, other, List.filter_cons]
      simpa [kind] using later

theorem nameAt?_alike (h : Alike t t') (plain : ∀ n ∈ names, '&' ∉ n.text) :
    nameAt? t names = nameAt? t' names := by
  induction names with
  | nil => rfl
  | cons n names ih =>
    have free := plain n List.mem_cons_self
    have later := ih fun m hm => plain m (List.mem_cons_of_mem _ hm)
    simp only [nameAt?, h.isPrefixOf_eq free, later]
    cases begins : n.text.isPrefixOf t' with
    | false => rfl
    | true =>
      have rest := h.drop (.of_isPrefixOf ((h.isPrefixOf_eq free).trans begins) free)
      simp only [rest.head?_eq]

theorem nameAt?_takes (plain : ∀ n ∈ names, '&' ∉ n.text)
    (noReference : ∀ n ∈ names, n.isReference = false) (found : nameAt? t names = .ok (some m)) :
    Takes t m := by
  induction names with
  | nil => exact nomatch found
  | cons n names ih =>
    have free := plain n List.mem_cons_self
    have later := ih (fun m hm => plain m (List.mem_cons_of_mem _ hm))
      fun m hm => noReference m (List.mem_cons_of_mem _ hm)
    unfold nameAt? at found
    split at found
    · next begins =>
      split at found
      · exact nomatch found
      · next last ends =>
        have pos : 0 < n.text.length := List.length_pos_of_mem (List.mem_of_getLast? ends)
        split at found
        · exact later found
        · rw [noReference n List.mem_cons_self] at found
          obtain rfl := Option.some.inj (Except.ok.inj found)
          exact ⟨pos, .of_isPrefixOf begins free, nofun⟩
    · exact later found

theorem nameAt?_eq_none (h : ∀ n ∈ names, n.text.isPrefixOf t = false) :
    nameAt? t names = .ok none := by
  induction names with
  | nil => rfl
  | cons n names ih =>
    rw [nameAt?, h n List.mem_cons_self]
    exact ih fun m hm => h m (List.mem_cons_of_mem _ hm)

theorem match?_of_text_isPrefixOf {n : Nat} (h : (Reference.text n).isPrefixOf t = true) :
    match? t = some (Digits.text 10 n) := by
  obtain ⟨rest, rfl⟩ := List.isPrefixOf_iff_prefix.1 h
  rw [text_natCast]
  exact match?_written_append (Digits.text_ne_nil 10 n)
    (fun c hc => Digits.isDecimal_of_isDigit (Digits.isDigit_of_mem_text hc)) rest

/-- A reference that begins with the text of a line's own has the digits of the line's number. -/
theorem exists_of_text_isPrefixOf {id : LineId} {digits : Text} (nonempty : digits ≠ [])
    (decimal : ∀ c ∈ digits, Text.isDecimal c = true) (rest : Text)
    (h : (Reference.text id).isPrefixOf (written digits ++ rest) = true) :
    ∃ n : Nat, id = n ∧ digits = Digits.text 10 n := by
  cases id with
  | ofNat n =>
    have found := match?_of_text_isPrefixOf h
    rw [match?_written_append nonempty decimal] at found
    exact ⟨n, rfl, Option.some.inj found⟩
  | negSucc n =>
    obtain ⟨c, tail, rfl⟩ := List.exists_cons_of_ne_nil nonempty
    have minus : c = '-' := by
      have first : '-' == c := by
        simp only [Reference.text, written, Digits.signed, Int.negSucc_lt_zero, ↓reduceIte,
          List.cons_append, List.isPrefixOf_cons_cons, Bool.and_eq_true] at h
        exact h.2.2.1
      exact (beq_iff_eq.1 first).symm
    have digit := decimal c List.mem_cons_self
    rw [minus] at digit
    exact absurd digit (by decide)

/-- A text begins with at most one reference in canonical digits. -/
theorem eq_of_text_isPrefixOf {id : LineId} {digits : Text} (canonical : Digits.IsCanonical digits)
    (rest : Text) (h : (Reference.text id).isPrefixOf (written digits ++ rest) = true) :
    id = (Text.naturalOf digits : Int) := by
  obtain ⟨n, rfl, rfl⟩ := exists_of_text_isPrefixOf canonical.nonempty
    (fun c hc => Digits.isDecimal_of_isDigit (canonical.isDigit c hc)) rest h
  rw [Digits.naturalOf_text]

/-- At a reference, the names that could be found are the reference itself. -/
theorem nameAt?_of_unique {digits : Text} (canonical : Digits.IsCanonical digits)
    (readable : digits.length ≤ Digits.maxLength) {rest : Text}
    (unique : ∀ n ∈ names, n.text.isPrefixOf (written digits ++ rest) = true →
      n = ⟨written digits, true⟩) :
    nameAt? (written digits ++ rest) names = .ok
      (if ⟨written digits, true⟩ ∈ names then
        some (.operand (.reference (Text.naturalOf digits)), digits.length + 3) else none) := by
  induction names with
  | nil => rfl
  | cons n names ih =>
    have later := ih fun m hm => unique m (List.mem_cons_of_mem _ hm)
    cases begins : n.text.isPrefixOf (written digits ++ rest) with
    | false =>
      have other : (⟨written digits, true⟩ : KnownName) ≠ n := by
        rintro rfl
        rw [Bool.eq_false_iff] at begins
        exact begins (List.isPrefixOf_iff_prefix.2 (List.prefix_append _ _))
      rw [nameAt?, begins]
      simpa [other] using later
    | true =>
      obtain rfl := unique n List.mem_cons_self begins
      have blank : Text.isWord ']' = false := by decide
      have found := digits?_written canonical.nonempty
        fun c hc => Digits.isDecimal_of_isDigit (canonical.isDigit c hc)
      rw [nameAt?, if_pos begins]
      simp [blank, found, Nat.not_lt.2 readable]

theorem not_isPrefixOf_sign {v rest : Text} (plain : v ≠ [] ∧ '&' ∉ v) :
    ¬ v.isPrefixOf ('&' :: rest) = true := by
  intro begins
  obtain ⟨c, v, rfl⟩ := List.exists_cons_of_ne_nil plain.1
  have sign : c = '&' := by
    simp only [List.isPrefixOf_cons_cons, Bool.and_eq_true, beq_iff_eq] at begins
    exact begins.1
  exact plain.2 (sign ▸ List.mem_cons_self)

theorem nameAt?_reference (plain : ArePlain vars) {digits : Text}
    (canonical : Digits.IsCanonical digits) (readable : digits.length ≤ Digits.maxLength)
    (rest : Text) :
    nameAt? (written digits ++ rest) (longestFirst (knownNames vars ids)) = .ok
      (if (Text.naturalOf digits : Int) ∈ ids then
        some (.operand (.reference (Text.naturalOf digits)), digits.length + 3) else none) := by
  have own : Reference.text (Text.naturalOf digits : Int) = written digits := by
    rw [text_natCast, Digits.text_naturalOf canonical]
  have known : (⟨written digits, true⟩ : KnownName) ∈ longestFirst (knownNames vars ids)
      ↔ (Text.naturalOf digits : Int) ∈ ids := by
    rw [mem_longestFirst, mem_knownNames]
    constructor
    · rintro (⟨v, -, same⟩ | ⟨id, hid, same⟩)
      · exact nomatch (KnownName.mk.inj same).2
      · have begins : (Reference.text id).isPrefixOf (written digits ++ []) = true := by
          rw [← (KnownName.mk.inj same).1]
          exact List.isPrefixOf_iff_prefix.2 (List.prefix_append _ _)
        rwa [← eq_of_text_isPrefixOf canonical [] begins]
    · exact fun hid => .inr ⟨_, hid, by rw [own]⟩
  rw [nameAt?_of_unique canonical readable]
  · simp only [known]
  · intro n hn begins
    rcases mem_knownNames.1 (mem_longestFirst.1 hn) with ⟨v, hv, rfl⟩ | ⟨id, hid, rfl⟩
    · exact (not_isPrefixOf_sign (plain v hv) begins).elim
    · rw [eq_of_text_isPrefixOf canonical rest begins, own]

end CalcSheet.Token
