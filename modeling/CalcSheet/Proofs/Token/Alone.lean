import CalcSheet.Proofs.Token.Lines
import CalcSheet.Proofs.Token.Occurrences
import CalcSheet.Proofs.Token.Parts

/-!
# Lines of one name

A known name that stands alone on a line is read as that name, whatever other names, units and words
it resembles: known names come before units and words, and one that is longer would have to end with
white space, as no name does. A known reference that stands alone is read as that reference.
-/
namespace CalcSheet

/-- No name goes on with white space at its end. -/
theorem Assignment.IsName.eq_of_begins {n w trail : Text} (h : IsName w) (begins : w <+: n ++ trail)
    (longer : n.length ≤ w.length) (blank : ∀ c ∈ trail, Text.isBlank c = true) : w = n := by
  obtain ⟨more, rfl⟩ := List.prefix_of_prefix_length_le (List.prefix_append n trail) begins longer
  have inside : more <+: trail := (List.prefix_append_right_inj n).1 begins
  cases last : more.getLast? with
  | none => rw [List.getLast?_eq_none_iff.1 last, List.append_nil]
  | some c =>
    have mem := List.mem_of_getLast? last
    have space := blank c (inside.mem mem)
    have ends := h.ends c (by rw [List.getLast?_append, last]; rfl)
    have word := h.inside c (List.mem_append_right n mem)
    simp [inName, Text.isWord_of_isBlank space, ends] at word

/-- A line without an equals sign assigns to nothing. -/
theorem Assignment.parse?_eq_none {line : Text} (absent : '=' ∉ line) : parse? line = none := by
  cases parsed : parse? line with
  | none => rfl
  | some a =>
    obtain ⟨rest, rfl⟩ := Token.eq_append_of_parse? parsed
    simp at absent

theorem isTextLine_eq_false {line : Text} (begins : ∀ c ∈ line.head?, c ≠ '-' ∧ c ≠ '\'') :
    isTextLine line = false := by
  cases line with
  | nil => rfl
  | cons c line =>
    obtain ⟨dash, quote⟩ := begins c rfl
    simp [isTextLine, restartsSum, isComment, List.isPrefixOf, dash.symm, quote.symm]

/-- A text stands alone on a line, with white space around it or none. -/
def StandsAlone (t line : Text) : Prop :=
  ∃ lead trail : Text, (∀ c ∈ lead, Text.isBlank c = true) ∧ (∀ c ∈ trail, Text.isBlank c = true)
    ∧ line = lead ++ (t ++ trail)

namespace StandsAlone
variable {t line : Text} {c : Char}

theorem isTextLine_eq_false (alone : StandsAlone t line) (begins : t.head? = some c)
    (other : c ≠ '-' ∧ c ≠ '\'') : isTextLine line = false := by
  obtain ⟨lead, trail, before, -, rfl⟩ := alone
  refine CalcSheet.isTextLine_eq_false fun d first => ?_
  cases lead with
  | nil =>
    rw [List.nil_append, List.head?_append, begins] at first
    obtain rfl : c = d := Option.some.inj first
    exact other
  | cons b lead =>
    obtain rfl : b = d := Option.some.inj first
    have blank := before b List.mem_cons_self
    constructor <;> rintro rfl <;> exact absurd blank (by decide)

theorem parse?_eq_none (alone : StandsAlone t line) (absent : '=' ∉ t) :
    Assignment.parse? line = none := by
  obtain ⟨lead, trail, before, behind, rfl⟩ := alone
  have apart {gap : Text} (blank : ∀ d ∈ gap, Text.isBlank d = true) : '=' ∉ gap := fun mem =>
    absurd (blank '=' mem) (by decide)
  refine Assignment.parse?_eq_none fun mem => ?_
  rcases List.mem_append.1 mem with mem | mem
  · exact apart before mem
  · rcases List.mem_append.1 mem with mem | mem
    · exact absent mem
    · exact apart behind mem

end StandsAlone

namespace Token
open Reference Assignment

variable {names : List KnownName} {vars : List Text} {ids : List LineId} {n t line trail : Text}
  {lexeme : Lexeme} {begun : Bool} {previous : Option Char} {c : Char} {rest : Text}

/-! ### Lines of one lexeme -/

/-- A line that is calculated and is scanned as one lexeme, but for white space. -/
def ConsistsOf (names : List KnownName) (line : Text) (lexeme : Lexeme) : Prop :=
  isTextLine line = false ∧ ∃ tokens, scan line names = .ok tokens
    ∧ (tokens.filter (!·.lexeme.isBlank)).map (·.lexeme) = [lexeme]

/-- White space at the end of a line leaves no trace. -/
theorem advances_blank (names : List KnownName) {s : Cursor}
    (blank : ∀ c ∈ s.rest, Text.isBlank c = true) :
    ∃ tokens s', Advances names s tokens s' ∧ s'.rest = []
      ∧ tokens.filter (!·.lexeme.isBlank) = [] := by
  cases here : s.rest with
  | nil => exact ⟨[], s, .refl s, here, rfl⟩
  | cons c gap =>
    rw [here] at blank
    have matched : next names s.begun s.previous c (gap ++ [])
        = .ok (.text (c :: gap), gap.length + 1) := next_of_blank blank nofun
    rw [List.append_nil] at matched
    refine ⟨_, _, .token here matched (.refl _), ?_, ?_⟩
    · rw [Cursor.behind, here]
      exact List.drop_length
    · simpa [Lexeme.isBlank] using blank

/-- A line consists of one lexeme if it has only white space besides what is read as the lexeme
wherever no word ends just before it. -/
theorem consistsOf (alone : StandsAlone t line) (begins : t.head? = some c)
    (ink : Text.isBlank c = false) (calculated : c ≠ '-' ∧ c ≠ '\'') (noEquals : '=' ∉ t)
    (content : lexeme.isBlank = false)
    (matched : ∀ {begun : Bool} {previous : Option Char} {rest trail : Text},
      gluedTo previous = false → (∀ c ∈ trail, Text.isBlank c = true) → c :: rest = t ++ trail →
      next (longestFirst names) begun previous c rest = .ok (lexeme, t.length)) :
    ConsistsOf names line lexeme := by
  have calculation := alone.isTextLine_eq_false begins calculated
  have expression := alone.parse?_eq_none noEquals
  obtain ⟨t, rfl⟩ := List.head?_eq_some_iff.1 begins
  obtain ⟨lead, trail, before, behind, rfl⟩ := alone
  have nothing : Scans (longestFirst names) [] (c :: t ++ trail) (· = []) :=
    fun s free here => ⟨[], s, .refl s, free, here, rfl⟩
  have spaced : Scans (longestFirst names) (lead ++ []) (c :: t ++ trail) (· = []) :=
    nothing.spaced before (by simpa using ink)
  obtain ⟨gap, s, toLexeme, free, here, none⟩ := spaced ⟨false, none, 0, lead ++ (c :: t ++ trail)⟩
    rfl (by rw [List.append_nil])
  have rest : (s.behind (lexeme, t.length + 1)).rest = trail := by
    rw [Cursor.behind, here]
    exact List.drop_left
  obtain ⟨gap', s', toEnd, ended, none'⟩ := advances_blank (longestFirst names)
    (s := s.behind (lexeme, t.length + 1)) (rest.symm ▸ behind)
  have all := toLexeme.append (.token here (matched free behind rfl) toEnd)
  refine ⟨calculation, gap ++ ⟨lexeme, s.position, s.position + (t.length + 1)⟩ :: gap', ?_, ?_⟩
  · rw [scan, calculation, expression]
    exact all.scanFrom ended (Nat.le_refl _)
  · rw [List.filter_append, none, List.filter_cons, none']
    simp [content]

/-! ### Lines of one name -/

theorem find?_name (named : ∀ v ∈ vars, IsName v) (mem : n ∈ vars)
    (blank : ∀ c ∈ trail, Text.isBlank c = true) :
    (longestFirst (knownNames vars ids)).find? (standsAt (n ++ trail)) = some ⟨n, false⟩ := by
  have known : (⟨n, false⟩ : KnownName) ∈ longestFirst (knownNames vars ids) :=
    mem_longestFirst.2 (mem_knownNames.2 (.inl ⟨n, mem, rfl⟩))
  have apart : trail.head?.any Text.isWord = false := by
    cases trail with
    | nil => rfl
    | cons c trail => exact Text.isWord_of_isBlank (blank c List.mem_cons_self)
  have stands : standsAt (n ++ trail) ⟨n, false⟩ = true := by
    have begins : n.isPrefixOf (n ++ trail) = true :=
      List.isPrefixOf_iff_prefix.2 (List.prefix_append n trail)
    simp [standsAt, begins, apart]
  cases found : (longestFirst (knownNames vars ids)).find? (standsAt (n ++ trail)) with
  | none => exact absurd stands (List.find?_eq_none.1 found _ known)
  | some m =>
    have begins := prefix_of_standsAt (List.find?_some found)
    have longer : n.length ≤ m.text.length :=
      length_le_of_find? (isSorted_longestFirst _) found known stands
    rcases mem_knownNames.1 (mem_longestFirst.1 (List.mem_of_find?_eq_some found)) with
      ⟨w, hw, rfl⟩ | ⟨id, -, rfl⟩
    · rw [(named w hw).eq_of_begins begins longer blank]
    · -- a reference begins as no name does
      obtain ⟨more, whole⟩ := begins
      have sign : n.isPrefixOf (Reference.text id ++ more) = true :=
        List.isPrefixOf_iff_prefix.2 (whole ▸ List.prefix_append n trail)
      exact (not_isPrefixOf_sign (named n mem).plain sign).elim

/-- A known name is read as such wherever no word ends just before it and white space follows. -/
theorem next_name (named : ∀ v ∈ vars, IsName v) (mem : n ∈ vars)
    (blank : ∀ c ∈ trail, Text.isBlank c = true) (free : gluedTo previous = false)
    (ink : Text.isBlank c = false) (whole : c :: rest = n ++ trail) :
    next (longestFirst (knownNames vars ids)) begun previous c rest
      = .ok (.operand (.variable n), n.length) := by
  have noBlank : blank? (c :: rest) = none := by simp [blank?, ink]
  have known : knownName? (longestFirst (knownNames vars ids)) previous (c :: rest)
      = .ok (some (.operand (.variable n), n.length)) := by
    rw [knownName?, free, whole, nameAt?_eq_find?, find?_name named mem blank, Option.mapM_some]
    simp [readName, (named n mem).plain.1]
  simp only [next, noBlank, known]
  rfl

theorem consistsOf_name (named : ∀ v ∈ vars, IsName v) (mem : n ∈ vars)
    (alone : StandsAlone n line) :
    ConsistsOf (knownNames vars ids) line (.operand (.variable n)) := by
  have name := named n mem
  obtain ⟨c, first, begins⟩ := (Option.any_eq_true _ _).1 name.begins
  have ink : Text.isBlank c = false := by
    cases blank : Text.isBlank c with
    | false => rfl
    | true => simp [Text.isNameChar, Text.isWord_of_isBlank blank] at begins
  have calculated : c ≠ '-' ∧ c ≠ '\'' := by
    constructor <;> rintro rfl <;> exact absurd begins (by decide)
  have noEquals : '=' ∉ n := fun mem => absurd (name.inside '=' mem) (by decide)
  exact consistsOf alone first ink calculated noEquals rfl fun free blank whole =>
    next_name named mem blank free ink whole

theorem consistsOf_reference (plain : ArePlain vars) {id : LineId} (pos : 0 < id) (known : id ∈ ids)
    (readable : (Reference.text id).length ≤ Digits.maxLength)
    (alone : StandsAlone (Reference.text id) line) :
    ConsistsOf (knownNames vars ids) line (.operand (.reference id)) := by
  obtain ⟨k, rfl⟩ := Int.eq_ofNat_of_zero_le (Int.le_of_lt pos)
  have positive : k ≠ 0 := by
    rintro rfl
    exact absurd pos (by decide)
  have canonical := Digits.isCanonical_text positive
  rw [text_natCast] at alone readable
  rw [length_written] at readable
  have lexeme : referenceLexeme ids (Digits.text 10 k) = .operand (.reference k) := by
    rw [referenceLexeme, Digits.naturalOf_text, if_pos known]
  have noEquals : '=' ∉ written (Digits.text 10 k) := by
    have noDigit : '=' ∉ Digits.text 10 k := fun mem =>
      absurd (Digits.isDigit_of_mem_text mem) (by decide)
    simp [written, noDigit]
  refine consistsOf alone rfl (by decide) (by decide) noEquals rfl fun _ _ whole => ?_
  rw [next_reference plain canonical (by omega) whole, lexeme, length_written]

end Token
end CalcSheet
