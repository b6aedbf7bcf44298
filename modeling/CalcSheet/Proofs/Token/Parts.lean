import CalcSheet.Proofs.Lists
import CalcSheet.Proofs.Token.Faults

/-!
# Scanning a part of a line

A text is scanned into the same tokens wherever it stands, if no word ends just before it and the
text behind it does not go on with its last token. So what has been scanned part by part can be put
together. The names that are known begin like words; white space, numerals and signs do not.
-/
namespace CalcSheet
namespace Text
variable {c : Char}

theorem toNat_lt_of_isBlank (blank : isBlank c = true) (ascii : c.toNat < 128) : c.toNat < 33 := by
  rw [isBlank, if_pos ascii] at blank
  simp only [inRanges, List.any_cons, List.any_nil, Bool.or_false, Bool.or_eq_true,
    Bool.and_eq_true, decide_eq_true_eq] at blank
  omega

/-- No letter or digit is white space. -/
theorem isWord_of_isBlank (blank : isBlank c = true) : isWord c = false := by
  unfold isWord
  split
  · next ascii =>
    have control : ∀ n < 33, ((Char.ofNat n).isAlphanum || Char.ofNat n == '_') = false := by decide
    have here := control c.toNat (toNat_lt_of_isBlank blank ascii)
    rwa [Char.ofNat_toNat] at here
  · next other =>
    have apart : ∀ r ∈ Ranges.blank, ∀ s ∈ Ranges.alphanumeric, r.2 < s.1 ∨ s.2 < r.1 := by
      decide +kernel
    rw [isBlank, if_neg other] at blank
    obtain ⟨r, hr, inside⟩ := List.any_eq_true.1 blank
    refine List.any_eq_false.2 fun s hs inside' => ?_
    simp only [Bool.and_eq_true, decide_eq_true_eq] at inside inside'
    rcases apart r hr s hs with before | after <;> omega

/-- No digit that a numeral can have is white space. -/
theorem isDecimal_of_isBlank (blank : isBlank c = true) : isDecimal c = false := by
  unfold isDecimal digitValue?
  split
  · next ascii =>
    have control : ∀ n < 33, (Char.ofNat n).isDigit = false := by decide
    have here := control c.toNat (toNat_lt_of_isBlank blank ascii)
    rw [Char.ofNat_toNat] at here
    simp [here]
  · next other =>
    have apart : ∀ r ∈ Ranges.blank, ∀ z ∈ Ranges.decimalZeros, r.2 < z ∨ z + 10 ≤ r.1 := by decide
    rw [isBlank, if_neg other] at blank
    obtain ⟨r, hr, inside⟩ := List.any_eq_true.1 blank
    rw [Option.isSome_map, Option.isSome_eq_false_iff, Option.isNone_iff_eq_none,
      List.find?_eq_none]
    intro z hz inside'
    simp only [Bool.and_eq_true, decide_eq_true_eq] at inside inside'
    rcases apart r hr z hz with before | after <;> omega

theorem isBlank_of_isDecimal (decimal : isDecimal c = true) : isBlank c = false := by
  by_contra blank
  have noDigit := isDecimal_of_isBlank (Bool.not_eq_false _ ▸ blank)
  rw [decimal] at noDigit
  exact nomatch noDigit

end Text

namespace Token
open Reference

variable {names : List KnownName} {begun : Bool} {previous : Option Char} {c : Char}
  {rest digits after : Text} {lexeme : Lexeme}

/-! ### The next token -/

/-- Each of the names begins with a letter or an underscore, as words do. -/
def BeginLikeWords (names : List KnownName) : Prop :=
  ∀ n ∈ names, n.text.head?.any Text.isNameChar = true

theorem nameAt?_of_not_name (words : BeginLikeWords names) (noName : Text.isNameChar c = false) :
    nameAt? (c :: rest) names = .ok none := by
  refine nameAt?_eq_none fun n hn => ?_
  have begins := words n hn
  cases text : n.text with
  | nil => simp [text] at begins
  | cons d name =>
    have other : d ≠ c := by
      rintro rfl
      simp [text, noName] at begins
    simp [List.isPrefixOf, other]

theorem unitAt?_of_not_name (noName : Text.isNameChar c = false) :
    unitAt? names (c :: rest) = .ok none := by
  have none : PhysicalUnit.term? (c :: rest) = none := by simp [PhysicalUnit.term?, noName]
  rw [unitAt?, List.length_cons, unitLengths, none]
  rfl

/-- What is neither white space nor a word nor a reference is a known name, a number, a sign or
text. -/
theorem next_eq_map_knownName? (ink : Text.isBlank c = false) (noName : Text.isNameChar c = false)
    (other : c ≠ '&') :
    next names begun previous c rest
      = (fun name? => name?.getD ((number? previous (c :: rest)).getD
          ((operator? c).getD (.text [c]), 1))) <$> knownName? names previous (c :: rest) := by
  have blank : blank? (c :: rest) = none := by simp [blank?, ink]
  have conversion : conversion? begun previous (c :: rest) = .ok none := by
    unfold conversion?
    split
    · next same =>
      obtain ⟨rfl, -⟩ := List.cons.inj same
      exact absurd noName (by decide)
    · rfl
  have unit : unit? names previous (c :: rest) = .ok none := by
    rw [unit?, unitAt?_of_not_name noName]
    exact ite_self _
  have word : word? (c :: rest) = none := by simp [word?, noName]
  unfold next
  simp only [blank, reference?_eq_none other, conversion, unit, word]
  cases knownName? names previous (c :: rest) with
  | error fault => rfl
  | ok name? =>
    cases name? with
    | some m => rfl
    | none => cases number? previous (c :: rest) <;> rfl

theorem next_of_not_name (words : BeginLikeWords names) (ink : Text.isBlank c = false)
    (noName : Text.isNameChar c = false) (other : c ≠ '&') :
    next names begun previous c rest = .ok ((number? previous (c :: rest)).getD
      ((operator? c).getD (.text [c]), 1)) := by
  have name : knownName? names previous (c :: rest) = .ok none := by
    rw [knownName?, nameAt?_of_not_name words noName, ite_self]
  rw [next_eq_map_knownName? ink noName other, name]
  rfl

/-- Signs are neither white space nor digits nor letters. -/
theorem of_operator? (found : operator? c = some lexeme) :
    Text.isBlank c = false ∧ Text.isDecimal c = false ∧ Text.isWord c = false ∧ c ≠ '&'
      ∧ c ≠ '.' := by
  unfold operator? at found
  split at found
  all_goals first | decide +kernel | exact nomatch found

theorem isBlank_of_operator? (found : operator? c = some lexeme) : lexeme.isBlank = false := by
  unfold operator? at found
  split at found
  all_goals first | (obtain rfl := Option.some.inj found; rfl) | exact nomatch found

theorem number?_eq_none (noDigit : Text.isDecimal c = false) (noPoint : c ≠ '.') :
    number? previous (c :: rest) = none := by
  have numeral : numeral? (c :: rest) = none := by
    simp [numeral?, noDigit, fraction?, noPoint]
  have announced : announced? (c :: rest) = none := by
    have other : c ≠ '0' := by
      rintro rfl
      exact absurd noDigit (by decide)
    simp [announced?, other]
  rw [number?, announced, numeral]
  exact ite_self _

theorem next_of_operator? (words : BeginLikeWords names) (found : operator? c = some lexeme) :
    next names begun previous c rest = .ok (lexeme, 1) := by
  obtain ⟨ink, noDigit, noWord, other, noPoint⟩ := of_operator? found
  have noName : Text.isNameChar c = false := by simp [Text.isNameChar, noWord]
  rw [next_of_not_name words ink noName other, number?_eq_none noDigit noPoint, found]
  rfl

/-- A text that does not go on with a number: it is empty or begins with white space or a sign. -/
def Ends (after : Text) : Prop :=
  ∀ c ∈ after.head?, Text.isBlank c = true ∨ (operator? c).isSome = true

theorem Ends.isDecimal (ends : Ends after) : ∀ c ∈ after.head?, Text.isDecimal c = false := by
  intro c hc
  rcases ends c hc with blank | sign
  · exact Text.isDecimal_of_isBlank blank
  · obtain ⟨lexeme, found⟩ := Option.isSome_iff_exists.1 sign
    exact (of_operator? found).2.1

theorem ends_append {gap : Text} (blank : ∀ d ∈ gap, Text.isBlank d = true)
    (found : operator? c = some lexeme) : Ends (gap ++ c :: rest) := by
  intro d hd
  cases gap with
  | nil =>
    obtain rfl : c = d := by simpa using hd
    exact .inr (by rw [found]; rfl)
  | cons b gap =>
    obtain rfl : b = d := by simpa using hd
    exact .inl (blank b List.mem_cons_self)

/-- Decimal digits do not announce a number in another base. -/
theorem announced?_digits (nonempty : digits ≠ [])
    (decimal : ∀ c ∈ digits, Text.isDecimal c = true) (ends : Ends after) :
    announced? (digits ++ after) = none := by
  have letter {c : Char} {t : Text} (same : digits ++ after = '0' :: c :: t) :
      Text.isDecimal c = true ∨ Text.isBlank c = true ∨ (operator? c).isSome = true := by
    match digits, nonempty with
    | [d], _ =>
      obtain ⟨-, rfl⟩ := List.cons.inj same
      exact .inr (ends c rfl)
    | d :: e :: digits, _ =>
      obtain ⟨rfl, -⟩ := List.cons.inj (List.cons.inj same).2
      exact .inl (decimal e (by simp))
  unfold announced?
  split
  · next same => exact absurd (letter same) (by decide)
  · next same => exact absurd (letter same) (by decide)
  · rfl

/-- The digits of a number are scanned as the number. -/
theorem number?_digits (free : gluedTo previous = false) (nonempty : digits ≠ [])
    (decimal : ∀ c ∈ digits, Text.isDecimal c = true) (ends : Ends after) :
    number? previous (digits ++ after)
      = some (.operand (.number (.ofNat (Text.naturalOf digits))), digits.length) := by
  have before : (digits ++ after).takeWhile Text.isDecimal = digits :=
    takeWhile_append_of_stop decimal ends.isDecimal
  have noPoint : fraction? after = none := by
    unfold fraction?
    split
    · have := ends '.' rfl
      exact absurd this (by decide)
    · rfl
  have value : Decimal.ofDigits (digits.map fun c => (Text.digitValue? c).getD 0) []
      = .ofNat (Text.naturalOf digits) := by
    simp [Decimal.ofDigits, Decimal.ofNat, Digits.toNat, Text.naturalOf, List.foldl_map]
  have numeral : numeral? (digits ++ after)
      = some (.operand (.number (.ofNat (Text.naturalOf digits))), digits.length) := by
    simp only [numeral?, before, List.drop_left, noPoint, List.isEmpty_iff, nonempty, value]
    rfl
  rw [number?, free, announced?_digits nonempty decimal ends, numeral]
  rfl

theorem next_of_digits (words : BeginLikeWords names) (free : gluedTo previous = false)
    (decimal : ∀ d ∈ c :: digits, Text.isDecimal d = true) (ends : Ends after) :
    next names begun previous c (digits ++ after)
      = .ok (.operand (.number (.ofNat (Text.naturalOf (c :: digits)))), digits.length + 1) := by
  have first := decimal c List.mem_cons_self
  have ink := Text.isBlank_of_isDecimal first
  have other : c ≠ '&' := by
    rintro rfl
    exact absurd first (by decide)
  have number := number?_digits free (List.cons_ne_nil c digits) decimal ends
  rw [List.cons_append] at number
  rw [next_of_not_name words ink (isNameChar_of_isDecimal first) other, number]
  rfl

theorem next_of_blank {gap : Text} (blank : ∀ d ∈ c :: gap, Text.isBlank d = true)
    (ink : ∀ d ∈ after.head?, Text.isBlank d = false) :
    next names begun previous c (gap ++ after) = .ok (.text (c :: gap), gap.length + 1) := by
  have run : (c :: gap ++ after).takeWhile Text.isBlank = c :: gap :=
    takeWhile_append_of_stop blank ink
  have found : blank? (c :: (gap ++ after)) = some (.text (c :: gap), gap.length + 1) := by
    rw [List.cons_append] at run
    simp only [blank?, run]
    rfl
  unfold next
  simp only [found]
  rfl

/-! ### Scanning a part of a line -/

/-- Where the scanner stands in a line: what it knows of the characters before, and the characters
that are left. -/
structure Cursor where
  begun : Bool
  previous : Option Char
  position : Nat
  rest : Text

namespace Cursor

/-- No word has just ended, so that digits do not belong to it. -/
def IsFree (s : Cursor) : Prop := gluedTo s.previous = false

/-- Behind a token. -/
def behind (s : Cursor) (m : Match) : Cursor :=
  ⟨s.begun || !m.1.isBlank, s.rest[m.2 - 1]?, s.position + m.2, s.rest.drop m.2⟩

end Cursor

/-- The scanner goes from one place in a line to another, making tokens. -/
inductive Advances (names : List KnownName) : Cursor → List Token → Cursor → Prop
  | refl (s : Cursor) : Advances names s [] s
  | token {s s' : Cursor} {c : Char} {rest : Text} {m : Match} {tokens : List Token}
      (here : s.rest = c :: rest) (matched : next names s.begun s.previous c rest = .ok m)
      (later : Advances names (s.behind m) tokens s') :
      Advances names s (⟨m.1, s.position, s.position + m.2⟩ :: tokens) s'

namespace Advances
variable {s s' s'' : Cursor} {tokens tokens' : List Token}

theorem append (first : Advances names s tokens s') (second : Advances names s' tokens' s'') :
    Advances names s (tokens ++ tokens') s'' := by
  induction first with
  | refl => exact second
  | token here matched _ ih => exact .token here matched (ih second)

/-- A scanner that gets to the end of a line has made all of its tokens. -/
theorem scanFrom (h : Advances names s tokens s') (ended : s'.rest = []) {fuel : Nat}
    (enough : s.rest.length ≤ fuel) :
    scanFrom names fuel s.begun s.previous s.position s.rest = .ok tokens := by
  induction h generalizing fuel with
  | refl s =>
    rw [ended]
    cases fuel <;> rfl
  | @token s s' c rest m tokens here matched _ ih =>
    have pos := (next_fits matched).1
    rw [here, List.length_cons] at enough
    cases fuel with
    | zero => omega
    | succ fuel =>
      -- a token takes a character at least, so one unit of fuel less is still enough
      have later : Token.scanFrom names fuel _ _ _ _ = .ok tokens := ih ended (by
        simp only [Cursor.behind, here, List.length_drop, List.length_cons]
        omega)
      simp only [Cursor.behind, here] at later
      rw [here, scanFrom_of_next matched, later]
      rfl

end Advances

/-- Wherever a line goes on with a text and then with another, the scanner gets from the one to the
other, and the tokens that are not white space have a property. -/
def Scans (names : List KnownName) (t after : Text) (p : List Token → Prop) : Prop :=
  ∀ s : Cursor, s.IsFree → s.rest = t ++ after → ∃ tokens s',
    Advances names s tokens s' ∧ s'.IsFree ∧ s'.rest = after
      ∧ p (tokens.filter (!·.lexeme.isBlank))

namespace Scans
variable {t u : Text} {p q : List Token → Prop}

theorem mono (h : Scans names t after p) (le : ∀ tokens, p tokens → q tokens) :
    Scans names t after q := by
  intro s free here
  obtain ⟨tokens, s', advances, free', there, holds⟩ := h s free here
  exact ⟨tokens, s', advances, free', there, le _ holds⟩

/-- Two texts, one after the other. -/
theorem append (first : Scans names t (u ++ after) p) (second : Scans names u after q) :
    Scans names (t ++ u) after fun tokens => ∃ ts us, tokens = ts ++ us ∧ p ts ∧ q us := by
  intro s free here
  rw [List.append_assoc] at here
  obtain ⟨ts, s', advances, free', there, hp⟩ := first s free here
  obtain ⟨us, s'', advances', free'', there', hq⟩ := second s' free' there
  exact ⟨ts ++ us, s'', advances.append advances', free'', there',
    _, _, List.filter_append .., hp, hq⟩

/-- A text of one token. -/
theorem one {m : Match} {rest : Text}
    (matched : ∀ begun previous, gluedTo previous = false →
      next names begun previous c (rest ++ after) = .ok m)
    (length : m.2 = rest.length + 1) (free : ∀ d ∈ c :: rest, gluedTo (some d) = false) :
    Scans names (c :: rest) after
      fun tokens => ∃ token, token.lexeme = m.1 ∧ tokens = [token].filter (!·.lexeme.isBlank) := by
  intro s free' here
  refine ⟨_, _, .token here (matched _ _ free') (.refl _), ?_, ?_, _, rfl, rfl⟩
  · have last : m.2 - 1 < (c :: rest).length := by simp [length]
    have inside : s.rest[m.2 - 1]? = some (c :: rest)[m.2 - 1] := by
      rw [here, List.getElem?_append_left last, List.getElem?_eq_getElem last]
    rw [Cursor.IsFree, Cursor.behind, inside]
    exact free _ (List.getElem_mem last)
  · rw [Cursor.behind, here, length]
    exact List.drop_left' (by simp)

theorem sign (words : BeginLikeWords names) (found : operator? c = some lexeme) :
    Scans names [c] after fun tokens => ∃ token, token.lexeme = lexeme ∧ tokens = [token] := by
  have noWord := (of_operator? found).2.2.1
  have ink := isBlank_of_operator? found
  have scans : Scans names [c] after _ :=
    one (fun _ _ _ => next_of_operator? words found) rfl (by simp [gluedTo, noWord])
  refine scans.mono ?_
  rintro _ ⟨token, rfl, rfl⟩
  exact ⟨token, rfl, by simp [ink]⟩

/-- White space leaves no trace. -/
theorem spaced {gap : Text} (h : Scans names t after p) (blank : ∀ c ∈ gap, Text.isBlank c = true)
    (ink : ∀ c ∈ (t ++ after).head?, Text.isBlank c = false) : Scans names (gap ++ t) after p := by
  cases gap with
  | nil => exact h
  | cons c gap =>
    have free : ∀ d ∈ c :: gap, gluedTo (some d) = false := fun d hd => by
      simp [gluedTo, Text.isWord_of_isBlank (blank d hd)]
    have first : Scans names (c :: gap) (t ++ after) _ :=
      one (fun _ _ _ => next_of_blank blank ink) rfl free
    refine (first.append h).mono ?_
    rintro _ ⟨_, ts, rfl, ⟨token, lexeme, rfl⟩, holds⟩
    have isBlank : token.lexeme.isBlank = true := by
      rw [lexeme]
      exact List.all_eq_true.2 blank
    simpa [isBlank] using holds

theorem numeral (words : BeginLikeWords names) (nonempty : digits ≠ [])
    (decimal : ∀ c ∈ digits, Text.isDecimal c = true) (ends : Ends after) :
    Scans names digits after fun tokens => ∃ token,
      token.lexeme = .operand (.number (.ofNat (Text.naturalOf digits))) ∧ tokens = [token] := by
  obtain ⟨c, digits, rfl⟩ := List.exists_cons_of_ne_nil nonempty
  have free : ∀ d ∈ c :: digits, gluedTo (some d) = false := fun d hd => by
    simp [gluedTo, Text.isDigit, decimal d hd]
  have scans : Scans names (c :: digits) after _ :=
    one (fun _ _ free => next_of_digits words free decimal ends) rfl free
  refine scans.mono ?_
  rintro _ ⟨token, lexeme, rfl⟩
  exact ⟨token, lexeme, by simp [lexeme, Lexeme.isBlank]⟩

end Scans
end Token
end CalcSheet
