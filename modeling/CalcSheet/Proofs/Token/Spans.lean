import CalcSheet.Proofs.Decimal.Rational
import CalcSheet.Proofs.Token.Lines
import CalcSheet.Proofs.Token.Literals

/-!
# What the tokens of a line say

The tokens of a line follow one another from its first character to its last, and every token says
what its characters say: a number is exactly the value of its numeral, however long that is, and an
operator is its sign.
-/
namespace CalcSheet
open Reference

namespace Token

/-- Tokens that follow one another without a gap from one position to another, each of them for a
character at least. -/
def Cover : Nat → Nat → List Token → Prop
  | start, stop, [] => start = stop
  | start, stop, token :: tokens =>
      token.start = start ∧ start < token.stop ∧ Cover token.stop stop tokens

/-- The digits of all bases up to sixteen, in the order of their values. -/
def hexDigits : Text := "0123456789abcdef".toList

/-- Numerals and their values: digits with or without a point, and digits of base sixteen or two
behind the mark of the base. -/
inductive IsNumeral : Text → ℚ → Prop where
  | whole {digits : Text} (some : digits ≠ []) (decimal : ∀ c ∈ digits, Text.isDecimal c = true) :
      IsNumeral digits (Text.naturalOf digits)
  | point {before after : Text} (some : before ≠ [] ∨ after ≠ [])
      (decimal : ∀ c ∈ before ++ after, Text.isDecimal c = true) :
      IsNumeral (before ++ '.' :: after)
        (Text.naturalOf before + Text.naturalOf after / 10 ^ after.length)
  | radix {mark : Char} {base : Nat} {digits : Text} (marks : (mark, base) ∈ [('x', 16), ('b', 2)])
      (some : digits ≠ []) (valid : ∀ c ∈ digits, c.toLower ∈ hexDigits.take base) :
      IsNumeral ('0' :: mark :: digits)
        (Nat.ofDigits base (digits.map fun c => hexDigits.idxOf c.toLower).reverse : ℕ)

/-- The sign that is usual for an operator. -/
def usualSign : Char → Char
  | '×' | '·' => '*'
  | '÷' => '/'
  | c => c

end Token

namespace Lexeme
open Token

/-- The sign of an operator, a bracket or a separator. -/
def sign? : Lexeme → Option Char
  | operator op => some op.symbol
  | opening .round => some '('
  | closing .round => some ')'
  | opening .square => some '['
  | closing .square => some ']'
  | comma => some ','
  | semicolon => some ';'
  | assign => some '='
  | _ => none

/-- What the characters of a token say. -/
def Means : Lexeme → Text → Prop
  | text t, u => u = t
  | operand (.variable name), u => u = name
  | operand (.number x), u => IsNumeral u x.toRat
  | operand (.reference id), u => ∃ digits, digits ≠ [] ∧ (∀ c ∈ digits, Text.isDecimal c = true)
      ∧ u = written digits ∧ id = Text.naturalOf digits
  | unit unit?, u => ReadsUnit u unit?
  | conversion unit?, u => ∃ gap t, gap ≠ [] ∧ (∀ c ∈ gap, Text.isBlank c = true)
      ∧ u = 't' :: 'o' :: gap ++ t ∧ ReadsUnit t unit?
  | lexeme, u => ∃ c, u = [c] ∧ lexeme.sign? = some (usualSign c)

end Lexeme

namespace Token

variable {names : List KnownName} {begun : Bool} {previous : Option Char} {c : Char}
  {line t rest : Text} {m : Match} {x : Decimal} {fuel position start middle stop : Nat}
  {tokens others : List Token} {lexeme : Lexeme}

theorem Cover.append (first : Cover start middle tokens) (second : Cover middle stop others) :
    Cover start stop (tokens ++ others) := by
  induction tokens generalizing start with
  | nil =>
    obtain rfl : start = middle := first
    exact second
  | cons token tokens ih => exact ⟨first.1, first.2.1, ih first.2.2⟩

theorem Cover.le (h : Cover start stop tokens) : start ≤ stop := by
  induction tokens generalizing start with
  | nil => exact Nat.le_of_eq h
  | cons token tokens ih => exact Nat.le_trans (Nat.le_of_lt h.2.1) (ih h.2.2)

theorem Cover.eq_nil (h : Cover start start tokens) : tokens = [] := by
  cases tokens with
  | nil => rfl
  | cons token tokens => exact absurd h.2.1 (Nat.not_lt.2 h.2.2.le)

/-! ### Numbers -/

theorem toNat_digitValues (digits : Text) :
    Digits.toNat 10 (digits.map fun c => (Text.digitValue? c).getD 0) = Text.naturalOf digits := by
  rw [Digits.toNat, List.foldl_map, Text.naturalOf]

/-- The letters that are digits have their values in the order of the alphabet. -/
theorem idxOf_hexDigits (digit : isHexDigit c = true) :
    c.toLower ∈ hexDigits ∧ hexDigits.idxOf c.toLower = hexValue c := by
  have code : c.toNat ∈ List.range' 48 10 ++ List.range' 65 6 ++ List.range' 97 6 := by
    simp only [isHexDigit, Char.isDigit, Bool.or_eq_true, Bool.and_eq_true, decide_eq_true_eq,
      Char.le_def, UInt32.le_iff_toNat_le, Char.toNat, Char.reduceVal, UInt32.reduceToNat]
      at digit ⊢
    simp only [List.mem_append, List.mem_range'_1]
    omega
  have all : ∀ n ∈ List.range' 48 10 ++ List.range' 65 6 ++ List.range' 97 6,
      (Char.ofNat n).toLower ∈ hexDigits
        ∧ hexDigits.idxOf (Char.ofNat n).toLower = hexValue (Char.ofNat n) := by
    decide +kernel
  have this := all c.toNat code
  rwa [Char.ofNat_toNat] at this

theorem toLower_mem_of_isBit (bit : isBit c = true) :
    c.toLower ∈ hexDigits.take 2 ∧ hexDigits.idxOf c.toLower = hexValue c := by
  simp only [isBit, Bool.or_eq_true, beq_iff_eq] at bit
  rcases bit with rfl | rfl <;> decide +kernel

theorem means_of_radix? {base : Nat} {mark : Char} {isDigit : Char → Bool}
    (marks : (mark, base) ∈ [('x', 16), ('b', 2)])
    (values : ∀ c, isDigit c = true →
      c.toLower ∈ hexDigits.take base ∧ hexDigits.idxOf c.toLower = hexValue c)
    (found : radix? base isDigit t = some m) : m.1.Means (('0' :: mark :: t).take m.2) := by
  unfold radix? at found
  dsimp only at found
  split at found
  · exact nomatch found
  · next some =>
    obtain rfl := Option.some.inj found
    have digit (c : Char) (mem : c ∈ t.takeWhile isDigit) := values c (List.mem_takeWhile_imp mem)
    have same : (t.takeWhile isDigit).map hexValue
        = (t.takeWhile isDigit).map fun c => hexDigits.idxOf c.toLower :=
      List.map_congr_left fun c mem => (digit c mem).2.symm
    rw [List.take_succ_cons, List.take_succ_cons,
      ← List.prefix_iff_eq_take.1 (List.takeWhile_prefix isDigit), Lexeme.Means,
      Decimal.toRat_ofNat, Digits.toNat_eq_ofDigits, same]
    exact .radix marks (by simpa using some) fun c mem => (digit c mem).1

theorem means_of_announced? (found : announced? t = some m) : m.1.Means (t.take m.2) := by
  unfold announced? at found
  split at found
  · exact means_of_radix? (by decide) (fun _ => idxOf_hexDigits) found
  · exact means_of_radix? (by decide) (fun _ => toLower_mem_of_isBit) found
  · exact nomatch found

theorem means_of_numeral? (found : numeral? t = some m) : m.1.Means (t.take m.2) := by
  have decimal (u : Text) : ∀ c ∈ u.takeWhile Text.isDecimal, Text.isDecimal c = true :=
    fun _ mem => List.mem_takeWhile_imp mem
  have before := List.prefix_iff_eq_take.1 (List.takeWhile_prefix Text.isDecimal (l := t))
  unfold numeral? at found
  dsimp only at found
  split at found
  · next after fraction =>
    unfold fraction? at fraction
    split at fraction
    · next rest behind =>
      obtain rfl := Option.some.inj fraction
      split at found
      · exact nomatch found
      · next some =>
        obtain rfl := Option.some.inj found
        have taken : t.take ((t.takeWhile Text.isDecimal).length + 1
              + (rest.takeWhile Text.isDecimal).length)
            = t.takeWhile Text.isDecimal ++ '.' :: rest.takeWhile Text.isDecimal := by
          rw [Nat.add_assoc, Nat.add_comm 1, List.take_add, behind, ← before, List.take_succ_cons,
            ← List.prefix_iff_eq_take.1 (List.takeWhile_prefix Text.isDecimal)]
        rw [taken, Lexeme.Means, Decimal.toRat_ofDigits, toNat_digitValues, toNat_digitValues,
          List.length_map]
        refine .point ?_ (List.forall_mem_append.2 ⟨decimal t, decimal rest⟩)
        simpa [-List.takeWhile_eq_nil_iff, imp_iff_not_or] using some
    · exact nomatch fraction
  · split at found
    · exact nomatch found
    · next some =>
      obtain rfl := Option.some.inj found
      rw [← before, Lexeme.Means, Decimal.toRat_ofDigits, toNat_digitValues]
      simpa [Digits.toNat] using IsNumeral.whole (by simpa using some) (decimal t)

theorem means_of_number? (found : number? previous t = some m) : m.1.Means (t.take m.2) := by
  unfold number? at found
  split at found
  · exact nomatch found
  · rcases (Option.orElse_eq_some _ _ _).1 found with found | ⟨-, found⟩
    · exact means_of_announced? found
    · exact means_of_numeral? found

/-! ### The next token -/

/-- An operator, a bracket or a separator has its usual sign. -/
theorem sign?_of_operator? (found : operator? c = some lexeme) :
    lexeme.sign? = some (usualSign c) := by
  unfold operator? at found
  split at found
  all_goals first | (obtain rfl := Option.some.inj found; rfl) | exact nomatch found

/-- Apart from numbers and references, what a text is read as is what it says. -/
theorem Reads.means (h : Reads t lexeme) (noNumber : ∀ x, lexeme ≠ .operand (.number x))
    (noReference : ∀ id, lexeme ≠ .operand (.reference id)) : lexeme.Means t := by
  cases h with
  | text => rfl
  | name => rfl
  | reference => exact absurd rfl (noReference _)
  | number _ x => exact absurd rfl (noNumber x)
  | unit reads => exact reads
  | conversion blank some reads => exact ⟨_, _, some, List.all_eq_true.1 blank, rfl, reads⟩
  | @sign c _ found =>
    have sign := sign?_of_operator? found
    cases lexeme with
    | text | operand | unit | conversion => exact nomatch sign
    | _ => exact ⟨c, rfl, sign⟩
  | assign => exact ⟨'=', rfl, rfl⟩

/-- A match stands for some characters that are there, and says what they say. -/
structure Spans (t : Text) (m : Match) : Prop where
  pos : 0 < m.2
  le_length : m.2 ≤ t.length
  means : m.1.Means (t.take m.2)

theorem Takes.spans (h : Takes t m) (fits : Fits t m) (noNumber : ∀ x, m.1 ≠ .operand (.number x)) :
    Spans t m :=
  ⟨h.pos, h.free.le_length, fits.2.means noNumber h.noReference⟩

theorem spans_prefix {u : Text} (some : u ≠ []) (begins : u <+: t) (means : lexeme.Means u) :
    Spans t (lexeme, u.length) := by
  refine ⟨List.length_pos_of_ne_nil some, begins.length_le, ?_⟩
  rwa [← List.prefix_iff_eq_take.1 begins]

theorem spans_of_number? (found : number? previous t = some m) : Spans t m :=
  ⟨(number?_takes found).pos, (number?_takes found).free.le_length, means_of_number? found⟩

theorem spans_of_reference? (found : reference? t = some m) : Spans t m := by
  obtain ⟨digits, written, rfl⟩ := Option.map_eq_some_iff.1 found
  have begins : Reference.written digits <+: t := ⟨_, (eq_written_append written).symm⟩
  rw [← length_written]
  exact spans_prefix (by simp [Reference.written]) begins rfl

theorem spans_of_nameAt? (found : nameAt? t names = .ok (some m)) : Spans t m := by
  rw [nameAt?_eq_find?] at found
  cases name : names.find? (standsAt t) with
  | none =>
    rw [name] at found
    exact nomatch found
  | some n =>
    rw [name, Option.mapM_some] at found
    obtain ⟨_, read, same⟩ := map_eq_ok found
    obtain rfl := Option.some.inj same
    have begins := prefix_of_standsAt (List.find?_some name)
    unfold readName at read
    split at read
    · exact nomatch read
    · next some =>
      have some : n.text ≠ [] := fun empty => some (List.isEmpty_iff.2 empty)
      split at read
      · split at read
        · exact nomatch read
        · next digits written =>
          have decimal := decimal_of_match? (Option.filter_eq_some_iff.1 written).1
          split at read
          · exact nomatch read
          · obtain rfl := Except.ok.inj read
            exact spans_prefix some begins
              ⟨digits, decimal.1, decimal.2, eq_written_of_digits? written, rfl⟩
      · obtain rfl := Except.ok.inj read
        exact spans_prefix some begins rfl

theorem spans_of_next (matched : next names begun previous c rest = .ok m) :
    Spans (c :: rest) m := by
  by_cases number : ∃ x, m.1 = .operand (.number x)
  · obtain ⟨x, number⟩ := number
    exact spans_of_number? (number?_of_next matched number)
  rw [not_exists] at number
  unfold next at matched
  dsimp only at matched
  split at matched
  · next blank =>
    obtain rfl := Except.ok.inj matched
    exact (blank?_takes blank).spans (blank?_fits blank) number
  · obtain ⟨name?, name, matched⟩ := bind_eq_ok matched
    split at matched
    · obtain rfl := Except.ok.inj matched
      unfold knownName? at name
      split at name
      · exact nomatch name
      · exact spans_of_nameAt? name
    · split at matched
      · next found =>
        obtain rfl := Except.ok.inj matched
        rcases (Option.orElse_eq_some _ _ _).1 found with found | ⟨-, found⟩
        · exact spans_of_reference? found
        · exact spans_of_number? found
      · obtain ⟨conversion?, conversion, matched⟩ := bind_eq_ok matched
        split at matched
        · obtain rfl := Except.ok.inj matched
          exact (conversion?_takes conversion).spans (conversion?_fits conversion) number
        · obtain ⟨unit?, unit, matched⟩ := bind_eq_ok matched
          split at matched
          · obtain rfl := Except.ok.inj matched
            exact (unit?_takes unit).spans (unit?_fits unit) number
          · obtain rfl := Except.ok.inj matched
            cases word : word? (c :: rest) with
            | some m =>
              rw [word] at number
              exact (word?_takes word).spans (word?_fits word) number
            | none =>
              have begins : [c] <+: c :: rest := ⟨rest, rfl⟩
              refine spans_prefix (List.cons_ne_nil c []) begins ?_
              cases operator : operator? c with
              | none => rfl
              | some lexeme =>
                have noNumber : ∀ x, lexeme ≠ .operand (.number x) := by
                  rintro x rfl
                  exact operator?_ne_operand operator
                exact (Reads.sign operator).means noNumber (operator?_noReference operator)

/-! ### Lines -/

theorem cover_means_of_scanFrom (enough : line.length ≤ position + fuel)
    (inside : position ≤ line.length)
    (scanned : scanFrom names fuel begun previous position (line.drop position) = .ok tokens) :
    Cover position line.length tokens
      ∧ ∀ token ∈ tokens, token.lexeme.Means (token.spelling line) := by
  induction fuel generalizing begun previous position tokens with
  | zero =>
    obtain rfl : [] = tokens := Except.ok.inj scanned
    exact ⟨Nat.le_antisymm inside enough, List.forall_mem_nil _⟩
  | succ fuel ih =>
    cases whole : line.drop position with
    | nil =>
      rw [whole] at scanned
      obtain rfl : [] = tokens := Except.ok.inj scanned
      exact ⟨Nat.le_antisymm inside (List.drop_eq_nil_iff.1 whole), List.forall_mem_nil _⟩
    | cons c rest =>
      rw [whole, scanFrom_cons] at scanned
      obtain ⟨m, matched, scanned⟩ := bind_eq_ok scanned
      have spans := spans_of_next matched
      have pos := spans.pos
      have within := spans.le_length
      rw [← whole, List.drop_drop] at scanned
      rw [← whole, List.length_drop] at within
      obtain ⟨others, scannedRest, rfl⟩ := map_eq_ok scanned
      obtain ⟨cover, means⟩ := ih (by omega) (by omega) scannedRest
      refine ⟨⟨rfl, by simpa using pos, cover⟩, List.forall_mem_cons.2 ⟨?_, means⟩⟩
      rw [spelling, Nat.add_sub_cancel_left, whole]
      exact spans.means

theorem cover_assignment {a : Assignment} (parsed : Assignment.parse? line = some a) :
    Cover 0 a.length a.tokens := by
  have named : a.name ≠ [] := (Assignment.target?_plain (by rw [Assignment.target?, parsed]; rfl)).1
  have name := List.length_pos_of_ne_nil named
  have optional {u : Text} {position : Nat} : Cover position (position + u.length)
      (if u.isEmpty then [] else [⟨.text u, position, position + u.length⟩]) := by
    split
    · next empty => simp [List.isEmpty_iff.1 empty, Cover]
    · next some =>
      have some := List.length_pos_of_ne_nil fun empty => some (List.isEmpty_iff.2 empty)
      exact ⟨rfl, by simpa using some, rfl⟩
  have lead : Cover 0 a.lead.length _ := Nat.zero_add a.lead.length ▸ optional
  have middle : Cover a.lead.length _ [⟨.operand (.variable a.name), a.lead.length,
    a.lead.length + a.name.length⟩] := ⟨rfl, by simpa using name, rfl⟩
  have equals : Cover (a.lead.length + a.name.length + a.gap.length) a.length
    [⟨.assign, _, a.lead.length + a.name.length + a.gap.length + 1⟩] := ⟨rfl, by simp, rfl⟩
  exact ((lead.append middle).append optional).append equals

/-- The tokens of a line cover it, and each of them means what its characters say. -/
theorem cover_means_of_scan (scanned : scan line names = .ok tokens) :
    Cover 0 line.length tokens ∧ (line = [] → tokens = [])
      ∧ ∀ token ∈ tokens, token.lexeme.Means (token.spelling line) := by
  have empty (cover : Cover 0 line.length tokens) : line = [] → tokens = [] := by
    rintro rfl
    exact cover.eq_nil
  suffices h : Cover 0 line.length tokens
      ∧ ∀ token ∈ tokens, token.lexeme.Means (token.spelling line) from ⟨h.1, empty h.1, h.2⟩
  unfold scan at scanned
  split at scanned
  · next textLine =>
    obtain rfl := Except.ok.inj scanned
    have some : 0 < line.length := by
      cases line with
      | nil => exact nomatch textLine
      | cons c line => exact Nat.succ_pos _
    refine ⟨⟨rfl, some, rfl⟩, fun token mem => ?_⟩
    obtain rfl := List.mem_singleton.1 mem
    simp [spelling, Lexeme.Means]
  · dsimp only at scanned
    split at scanned
    · exact cover_means_of_scanFrom (by omega) (Nat.zero_le _) scanned
    · next a parsed =>
      obtain ⟨others, scannedRest, done⟩ := bind_eq_ok scanned
      obtain rfl := Except.ok.inj done
      have inside : a.length ≤ line.length := (Assignment.parse?_free parsed).le_length
      obtain ⟨cover, means⟩ := cover_means_of_scanFrom (by omega) inside scannedRest
      refine ⟨(cover_assignment parsed).append cover, fun token mem => ?_⟩
      rcases List.mem_append.1 mem with mem | mem
      · have reads := (tokens_assignment parsed).2 token mem
        rcases Assignment.lexeme_of_mem_tokens mem with ⟨_, kind⟩ | ⟨_, kind⟩ | kind
          <;> exact reads.means (by simp [kind]) (by simp [kind])
      · exact means token mem

/-- An assignment with a numeral of each kind, a reference and a conversion. -/
theorem cover_means_of_scan_assignment :
    let line : Text := "x = .5 × 0x1F·&[2] to  km/h".toList
    let names : List KnownName := [⟨written ['2'], true⟩]
    ∃ tokens, scan line names = .ok tokens ∧ Cover 0 line.length tokens
      ∧ (line = [] → tokens = [])
      ∧ ∀ token ∈ tokens, token.lexeme.Means (token.spelling line) := by
  intro line names
  have succeeds : (scan line names).toBool = true := by decide +kernel
  cases scanned : scan line names with
  | ok tokens => exact ⟨tokens, rfl, cover_means_of_scan scanned⟩
  | error fault =>
    rw [scanned] at succeeds
    exact nomatch succeeds

end Token
end CalcSheet
