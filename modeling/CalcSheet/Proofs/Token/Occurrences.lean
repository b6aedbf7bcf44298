import CalcSheet.Proofs.Token.Faults

/-!
# Names that occur in a line

At each place of a line the longest known name is read that stands there. So neither the order of
the known names nor a name that occurs nowhere in the line makes a difference, and a line refers to
no names but those that occur in it.
-/
namespace CalcSheet.Token
open Reference

variable {names names' : List KnownName} {vars : List Text} {ids : List LineId} {n : KnownName}
  {t line : Text} {m : Match} {begun : Bool} {previous : Option Char} {c : Char} {rest : Text}
  {fuel position : Nat} {tokens : List Token}

/-! ### The longest name -/

/-- Whether a name stands at the beginning of a text and does not end inside a word there. -/
def standsAt (t : Text) (n : KnownName) : Bool :=
  n.text.isPrefixOf t
    && !(n.text.getLast?.any Text.isWord && (t.drop n.text.length).head?.any Text.isWord)

theorem prefix_of_standsAt (stands : standsAt t n = true) : n.text <+: t :=
  List.isPrefixOf_iff_prefix.1 (Bool.and_eq_true_iff.1 stands).1

/-- What a name is read as. -/
def readName (n : KnownName) : Except ScanFault Match :=
  if n.text.isEmpty then .error .emptyName
  else if n.isReference then
    match Reference.digits? n.text with
    | none => .error (.notAReference n.text)
    | some digits =>
        if Digits.maxLength < digits.length then .error (.longReference digits.length)
        else .ok (.operand (.reference (Text.naturalOf digits)), n.text.length)
  else .ok (.operand (.variable n.text), n.text.length)

theorem nameAt?_eq_find? (t : Text) (names : List KnownName) :
    nameAt? t names = (names.find? (standsAt t)).mapM readName := by
  induction names with
  | nil => rfl
  | cons n names ih =>
    rw [nameAt?, List.find?_cons]
    cases begins : n.text.isPrefixOf t with
    | false => simp [standsAt, begins, ih]
    | true =>
      cases last : n.text.getLast? with
      | none =>
        have empty := List.getLast?_eq_none_iff.1 last
        simp [standsAt, readName, empty]
      | some d =>
        have nonempty : n.text ≠ [] := List.ne_nil_of_mem (List.mem_of_getLast? last)
        have stands : standsAt t n
            = !(Text.isWord d && (t.drop n.text.length).head?.any Text.isWord) := by
          rw [standsAt, begins, last]
          rfl
        simp only [stands, ↓reduceIte]
        cases Text.isWord d && (t.drop n.text.length).head?.any Text.isWord with
        | true => exact ih
        | false =>
          simp only [Bool.false_eq_true, ↓reduceIte, Bool.not_false, Option.mapM_some, readName,
            List.isEmpty_iff, nonempty]
          cases n.isReference with
          | false => rfl
          | true =>
            cases digits? n.text with
            | none => rfl
            | some digits =>
              simp only [↓reduceIte]
              split <;> rfl

/-- The name that is found in a sorted list is at least as long as all others that stand there. -/
theorem length_le_of_find? {p : KnownName → Bool} (sorted : IsSorted names)
    (found : names.find? p = some n) {k : KnownName} (mem : k ∈ names) (stands : p k = true) :
    k.text.length ≤ n.text.length := by
  obtain ⟨-, before, after, rfl, others⟩ := List.find?_eq_some_iff_append.1 found
  rcases List.mem_append.1 mem with mem | mem
  · have absent := others k mem
    simp [stands] at absent
  · rcases List.mem_cons.1 mem with rfl | mem
    · exact Nat.le_refl _
    · have rest := (List.pairwise_append.1 sorted).2.1
      exact (List.pairwise_cons.1 rest).1 k mem

/-- The same names among those that occur in a text. -/
def SameIn (t : Text) (names names' : List KnownName) : Prop :=
  ∀ n : KnownName, n.text <:+: t → (n ∈ names ↔ n ∈ names')

/-- Whether a name refers to a line can be told from its text. -/
def ToldApart (names : List KnownName) : Prop :=
  ∀ m ∈ names, ∀ n ∈ names, m.text = n.text → m = n

theorem SameIn.mono {u : Text} (h : SameIn t names names') (part : u <:+: t) :
    SameIn u names names' := fun n occurs => h n (occurs.trans part)

theorem find?_congr (sorted : IsSorted names) (sorted' : IsSorted names') (apart : ToldApart names)
    (same : SameIn t names names') :
    names.find? (standsAt t) = names'.find? (standsAt t) := by
  cases found : names.find? (standsAt t) with
  | none =>
    refine (List.find?_eq_none.2 fun n mem stands => ?_).symm
    exact List.find?_eq_none.1 found n ((same n (prefix_of_standsAt stands).isInfix).2 mem) stands
  | some n =>
    have stands := List.find?_some found
    have begins := prefix_of_standsAt stands
    have mem := List.mem_of_find?_eq_some found
    have mem' := (same n begins.isInfix).1 mem
    cases found' : names'.find? (standsAt t) with
    | none => exact absurd stands (List.find?_eq_none.1 found' n mem')
    | some n' =>
      have stands' := List.find?_some found'
      have begins' := prefix_of_standsAt stands'
      have back := (same n' begins'.isInfix).2 (List.mem_of_find?_eq_some found')
      have longest := length_le_of_find? sorted found back stands'
      have longest' := length_le_of_find? sorted' found' mem' stands
      have text : n.text = n'.text :=
        (List.prefix_of_prefix_length_le begins begins' longest').eq_of_length
          (Nat.le_antisymm longest' longest)
      rw [apart n mem n' back text]

theorem nameAt?_congr (sorted : IsSorted names) (sorted' : IsSorted names')
    (apart : ToldApart names) (same : SameIn t names names') :
    nameAt? t names = nameAt? t names' := by
  rw [nameAt?_eq_find?, nameAt?_eq_find?, find?_congr sorted sorted' apart same]

/-! ### Lines in which the same names occur -/

theorem SameIn.any_eq {u : Text} (h : SameIn t names names') (occurs : u <:+: t) :
    (names.any (·.text = u)) = names'.any (·.text = u) := by
  rw [Bool.eq_iff_iff, List.any_eq_true, List.any_eq_true]
  refine exists_congr fun n => and_congr_left fun text => ?_
  exact h n (of_decide_eq_true text ▸ occurs)

theorem unitLengths_congr (same : SameIn t names names') (fuel taken : Nat) :
    unitLengths names fuel taken t = unitLengths names' fuel taken t := by
  induction fuel generalizing taken t with
  | zero => rfl
  | succ fuel ih =>
    rw [unitLengths, unitLengths]
    cases PhysicalUnit.term? t with
    | none => rfl
    | some term =>
      have known := same.any_eq (List.take_prefix term.length t).isInfix
      simp only [known]
      congr 2
      cases following : t.drop term.length with
      | nil => rfl
      | cons c rest =>
        have part : rest <:+: t := by
          have suffix : c :: rest <:+ t := following ▸ List.drop_suffix term.length t
          exact ((List.suffix_cons c rest).trans suffix).isInfix
        simp only [ih (same.mono part)]

theorem next_congr (sorted : IsSorted names) (sorted' : IsSorted names') (apart : ToldApart names)
    (same : SameIn (c :: rest) names names') :
    next names begun previous c rest = next names' begun previous c rest := by
  have name := nameAt?_congr sorted sorted' apart same
  have lengths := unitLengths_congr same (c :: rest).length 0
  simp only [next, knownName?, name, unit?, unitAt?, lengths]

theorem scanFrom_congr (sorted : IsSorted names) (sorted' : IsSorted names')
    (apart : ToldApart names) (same : SameIn t names names') :
    scanFrom names fuel begun previous position t
      = scanFrom names' fuel begun previous position t := by
  induction fuel generalizing begun previous position t with
  | zero => rfl
  | succ fuel ih =>
    cases t with
    | nil => rfl
    | cons c rest =>
      rw [scanFrom_cons, scanFrom_cons, next_congr sorted sorted' apart same]
      congr 1
      funext m
      rw [ih (same.mono (List.drop_suffix m.2 (c :: rest)).isInfix)]

/-- Known names that occur nowhere in a line make no difference to its tokens, and neither does the
order of the others. -/
theorem scan_congr (apart : ToldApart names) (same : SameIn line names names') :
    scan line names = scan line names' := by
  have sorted := isSorted_longestFirst names
  have sorted' := isSorted_longestFirst names'
  have apart : ToldApart (longestFirst names) := fun m hm n hn =>
    apart m (mem_longestFirst.1 hm) n (mem_longestFirst.1 hn)
  have same : SameIn line (longestFirst names) (longestFirst names') := fun n occurs => by
    rw [mem_longestFirst, mem_longestFirst, same n occurs]
  have rest (a : Assignment) := same.mono (List.drop_suffix a.length line).isInfix
  simp only [scan, scanFrom_congr sorted sorted' apart same,
    scanFrom_congr sorted sorted' apart (rest _)]

theorem toldApart_knownNames (plain : ArePlain vars) : ToldApart (knownNames vars ids) := by
  have sign {v : Text} {id : LineId} (mem : v ∈ vars) (same : v = Reference.text id) : False :=
    (plain v mem).2 (same ▸ List.mem_cons_self)
  intro m hm n hn text
  rcases mem_knownNames.1 hm with ⟨v, hv, rfl⟩ | ⟨id, -, rfl⟩
  · rcases mem_knownNames.1 hn with ⟨w, -, rfl⟩ | ⟨id', -, rfl⟩
    · rw [show v = w from text]
    · exact (sign hv text).elim
  · rcases mem_knownNames.1 hn with ⟨w, hw, rfl⟩ | ⟨id', -, rfl⟩
    · exact (sign hw text.symm).elim
    · rw [show Reference.text id = Reference.text id' from text]

/-! ### Names that a line refers to -/

/-- What a lexeme refers to by a name occurs in a text. -/
def OccursIn (t : Text) : Lexeme → Prop
  | .operand (.variable v) => v <:+: t
  | .operand (.reference id) => Reference.text id <:+: t
  | _ => True

theorem OccursIn.mono {u : Text} {lexeme : Lexeme} (h : OccursIn u lexeme) (part : u <:+: t) :
    OccursIn t lexeme := by
  unfold OccursIn at h ⊢
  split
  · exact List.IsInfix.trans h part
  · exact List.IsInfix.trans h part
  · trivial

/-- A reference is read from the text of the reference to that line. -/
theorem naturalOf_of_digits? {id : LineId} {digits : Text}
    (read : digits? (Reference.text id) = some digits) : (Text.naturalOf digits : Int) = id := by
  have written : Digits.signed id = digits := by
    have whole := eq_written_of_digits? read
    simpa [Reference.text, Reference.written] using whole
  have decimal := (decimal_of_match? (Option.filter_eq_some_iff.1 read).1).2
  cases id with
  | ofNat n =>
    obtain rfl : Digits.text 10 n = digits := written
    rw [Digits.naturalOf_text]
    rfl
  | negSucc n =>
    have minus : '-' ∈ digits := by
      rw [← written, Digits.signed, if_pos (Int.negSucc_lt_zero n)]
      exact List.mem_cons_self
    exact absurd (decimal '-' minus) (by decide)

theorem occursIn_of_nameAt? (known : ∀ n ∈ names, n ∈ knownNames vars ids)
    (found : nameAt? t names = .ok (some m)) : OccursIn t m.1 := by
  rw [nameAt?_eq_find?] at found
  cases name : names.find? (standsAt t) with
  | none =>
    rw [name] at found
    exact nomatch found
  | some n =>
    rw [name, Option.mapM_some] at found
    obtain ⟨_, read, same⟩ := map_eq_ok found
    obtain rfl := Option.some.inj same
    have occurs : n.text <:+: t := (prefix_of_standsAt (List.find?_some name)).isInfix
    unfold readName at read
    split at read
    · exact nomatch read
    · split at read
      · next kind =>
        split at read
        · exact nomatch read
        · next digits written =>
          split at read
          · exact nomatch read
          · obtain rfl := Except.ok.inj read
            rcases mem_knownNames.1 (known n (List.mem_of_find?_eq_some name)) with
              ⟨v, -, rfl⟩ | ⟨id, -, rfl⟩
            · exact nomatch kind
            · rwa [OccursIn, naturalOf_of_digits? written]
      · obtain rfl := Except.ok.inj read
        exact occurs

/-- A text that is read as anything but a reference. -/
theorem Reads.occursIn {lexeme : Lexeme} (h : Reads t lexeme)
    (noReference : ∀ line, lexeme ≠ .operand (.reference line)) : OccursIn t lexeme := by
  cases h with
  | name => exact List.infix_refl t
  | reference => exact absurd rfl (noReference _)
  | sign found =>
    unfold operator? at found
    split at found <;> cases found <;> trivial
  | _ => trivial

theorem Takes.occursIn (h : Takes t m) (fits : Fits t m) : OccursIn t m.1 :=
  (fits.2.occursIn h.noReference).mono (List.take_prefix m.2 t).isInfix

theorem occursIn_of_next (known : ∀ n ∈ names, n ∈ knownNames vars ids)
    (matched : next names begun previous c rest = .ok m) : OccursIn (c :: rest) m.1 := by
  unfold next at matched
  dsimp only at matched
  split at matched
  · next blank =>
    obtain rfl := Except.ok.inj matched
    exact (blank?_takes blank).occursIn (blank?_fits blank)
  · obtain ⟨name?, name, matched⟩ := bind_eq_ok matched
    split at matched
    · obtain rfl := Except.ok.inj matched
      unfold knownName? at name
      split at name
      · exact nomatch name
      · exact occursIn_of_nameAt? known name
    · split at matched
      · next found =>
        obtain rfl := Except.ok.inj matched
        rcases (Option.orElse_eq_some _ _ _).1 found with found | ⟨-, found⟩
        · obtain ⟨digits, -, rfl⟩ := Option.map_eq_some_iff.1 found
          trivial
        · exact (number?_takes found).occursIn (number?_fits found)
      · obtain ⟨conversion?, conversion, matched⟩ := bind_eq_ok matched
        split at matched
        · obtain rfl := Except.ok.inj matched
          exact (conversion?_takes conversion).occursIn (conversion?_fits conversion)
        · obtain ⟨unit?, unit, matched⟩ := bind_eq_ok matched
          split at matched
          · obtain rfl := Except.ok.inj matched
            exact (unit?_takes unit).occursIn (unit?_fits unit)
          · obtain rfl := Except.ok.inj matched
            cases word : word? (c :: rest) with
            | some m => exact (word?_takes word).occursIn (word?_fits word)
            | none =>
              change OccursIn (c :: rest) ((operator? c).getD (.text [c]))
              cases operator : operator? c with
              | none => trivial
              | some lexeme =>
                have part : [c] <:+: c :: rest := (List.prefix_append [c] rest).isInfix
                exact ((Reads.sign operator).occursIn (operator?_noReference operator)).mono part

theorem occursIn_of_scanFrom (known : ∀ n ∈ names, n ∈ knownNames vars ids)
    (scanned : scanFrom names fuel begun previous position t = .ok tokens) :
    ∀ token ∈ tokens, OccursIn t token.lexeme := by
  induction fuel generalizing begun previous position t tokens with
  | zero =>
    obtain rfl : [] = tokens := Except.ok.inj scanned
    exact List.forall_mem_nil _
  | succ fuel ih =>
    cases t with
    | nil =>
      obtain rfl : [] = tokens := Except.ok.inj scanned
      exact List.forall_mem_nil _
    | cons c rest =>
      rw [scanFrom_cons] at scanned
      obtain ⟨m, matched, continued⟩ := bind_eq_ok scanned
      obtain ⟨others, scannedRest, rfl⟩ := map_eq_ok continued
      refine List.forall_mem_cons.2 ⟨occursIn_of_next known matched, fun token mem => ?_⟩
      exact (ih scannedRest token mem).mono (List.drop_suffix m.2 (c :: rest)).isInfix

theorem occursIn_of_tokens {a : Assignment} (parsed : Assignment.parse? line = some a) :
    ∀ token ∈ a.tokens, OccursIn line token.lexeme := by
  intro token mem
  have noReference (id : LineId) : token.lexeme ≠ .operand (.reference id) := by
    simp only [Assignment.tokens, List.mem_append, List.mem_singleton] at mem
    rcases mem with ((mem | rfl) | mem) | rfl
    · split at mem
      · simp at mem
      · simp [List.mem_singleton.1 mem]
    · simp
    · split at mem
      · simp at mem
      · simp [List.mem_singleton.1 mem]
    · simp
  have part : token.spelling line <:+: line :=
    (List.take_prefix _ _).isInfix.trans (List.drop_suffix _ line).isInfix
  exact (((tokens_assignment parsed).2 token mem).occursIn noReference).mono part

/-- A line refers to no variables and no lines but those whose names occur in it. -/
theorem occursIn_of_scan (scanned : scan line (knownNames vars ids) = .ok tokens) :
    ∀ token ∈ tokens, OccursIn line token.lexeme := by
  have known : ∀ n ∈ longestFirst (knownNames vars ids), n ∈ knownNames vars ids :=
    fun n mem => mem_longestFirst.1 mem
  unfold scan at scanned
  split at scanned
  · obtain rfl := Except.ok.inj scanned
    exact List.forall_mem_singleton.2 trivial
  · dsimp only at scanned
    split at scanned
    · exact occursIn_of_scanFrom known scanned
    · next a parsed =>
      obtain ⟨others, scannedRest, done⟩ := bind_eq_ok scanned
      obtain rfl := Except.ok.inj done
      intro token mem
      rcases List.mem_append.1 mem with mem | mem
      · exact occursIn_of_tokens parsed token mem
      · exact (occursIn_of_scanFrom known scannedRest token mem).mono
          (List.drop_suffix a.length line).isInfix

end CalcSheet.Token
