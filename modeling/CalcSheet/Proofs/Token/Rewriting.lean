import CalcSheet.Proofs.Postfix.Outline
import CalcSheet.Proofs.Token.Names

/-!
# Scanning a line with other references

Where the references of a line are replaced by others, which are known if and only if the old ones
were, the line is scanned into the same tokens but for the lines that they refer to.
-/
namespace CalcSheet.Token
open Reference

variable {vars : List Text} {ids ids' : List LineId} {begun : Bool} {previous : Option Char}
  {c : Char} {t t' rest rest' : Text} {m : Match}

theorem any_knownNames (vars : List Text) (ids : List LineId) {u : Text} (free : '&' ∉ u) :
    (longestFirst (knownNames vars ids)).any (·.text = u) = vars.any (· = u) := by
  rw [Bool.eq_iff_iff, List.any_eq_true, List.any_eq_true]
  constructor
  · rintro ⟨n, hn, same⟩
    rcases mem_knownNames.1 (mem_longestFirst.1 hn) with ⟨v, hv, rfl⟩ | ⟨id, -, rfl⟩
    · exact ⟨v, hv, same⟩
    · exact absurd (of_decide_eq_true same ▸ List.mem_cons_self) free
  · rintro ⟨v, hv, same⟩
    exact ⟨⟨v, false⟩, mem_longestFirst.2 (mem_knownNames.2 (.inl ⟨v, hv, rfl⟩)), same⟩

theorem not_mem_of_mem_variables (plain : ArePlain vars) :
    ∀ n ∈ longestFirst (vars.map (⟨·, false⟩)), '&' ∉ n.text := by
  intro n hn
  obtain ⟨v, hv, rfl⟩ := List.mem_map.1 (mem_longestFirst.1 hn)
  exact (plain v hv).2

theorem not_isReference_of_mem_variables :
    ∀ n ∈ longestFirst (vars.map (⟨·, false⟩)), n.isReference = false := by
  intro n hn
  obtain ⟨v, -, rfl⟩ := List.mem_map.1 (mem_longestFirst.1 hn)
  rfl

theorem nameAt?_knownNames (ids : List LineId) (h : t.head? ≠ some '&') :
    nameAt? t (longestFirst (knownNames vars ids))
      = nameAt? t (longestFirst (vars.map (⟨·, false⟩))) := by
  rw [nameAt?_eq_variables h, variables_knownNames]
  intro n hn kind
  rcases mem_knownNames.1 (mem_longestFirst.1 hn) with ⟨v, -, rfl⟩ | ⟨id, -, rfl⟩
  · exact nomatch kind
  · exact head?_text id

theorem knownName?_alike (plain : ArePlain vars) (other : c ≠ '&') (h : Alike rest rest') :
    knownName? (longestFirst (knownNames vars ids)) previous (c :: rest)
      = knownName? (longestFirst (knownNames vars ids')) previous (c :: rest') := by
  have name := nameAt?_alike (h.cons c) (not_mem_of_mem_variables plain)
  rw [← nameAt?_knownNames ids (by simpa using other),
    ← nameAt?_knownNames ids' (by simpa using other)] at name
  rw [knownName?, knownName?, name]
  rfl

theorem reference?_eq_none (other : c ≠ '&') : reference? (c :: rest) = none := by
  rw [reference?, match?_eq_none_of_ne (by simpa using other), Option.map_none]

theorem operator?_noReference {lexeme : Lexeme} (found : operator? c = some lexeme)
    (line : LineId) : lexeme ≠ .operand (.reference line) := by
  rintro rfl
  unfold operator? at found
  split at found <;> exact nomatch found

/-- A character that does not begin a reference begins the same token in alike texts. -/
theorem next_alike (plain : ArePlain vars) (other : c ≠ '&') (h : Alike rest rest') :
    next (longestFirst (knownNames vars ids)) begun previous c rest
      = next (longestFirst (knownNames vars ids')) begun previous c rest' := by
  have alike := h.cons c
  have units := unit?_alike previous (fun u free =>
    (any_knownNames vars ids free).trans (any_knownNames vars ids' free).symm) alike
  have name : knownName? (longestFirst (knownNames vars ids)) previous (c :: rest)
      = knownName? (longestFirst (knownNames vars ids')) previous (c :: rest') :=
    knownName?_alike plain other h
  simp only [next, blank?_alike alike, name, reference?_eq_none other,
    number?_alike previous alike, conversion?_alike begun previous alike, units, word?_alike alike]

theorem next_takes (plain : ArePlain vars) (other : c ≠ '&')
    (found : next (longestFirst (knownNames vars ids)) begun previous c rest = .ok m) :
    Takes (c :: rest) m := by
  unfold next at found
  dsimp only at found
  split at found
  · next blank =>
    obtain rfl := Except.ok.inj found
    exact blank?_takes blank
  · obtain ⟨name?, name, found⟩ := bind_eq_ok found
    split at found
    · obtain rfl := Except.ok.inj found
      unfold knownName? at name
      split at name
      · exact nomatch name
      · rw [nameAt?_knownNames ids (by simpa using other)] at name
        exact nameAt?_takes (not_mem_of_mem_variables plain) not_isReference_of_mem_variables name
    · rw [reference?_eq_none other] at found
      split at found
      · next number =>
        obtain rfl := Except.ok.inj found
        exact number?_takes number
      · obtain ⟨conversion?, conversion, found⟩ := bind_eq_ok found
        split at found
        · obtain rfl := Except.ok.inj found
          exact conversion?_takes conversion
        · obtain ⟨unit?, unit, found⟩ := bind_eq_ok found
          split at found
          · obtain rfl := Except.ok.inj found
            exact unit?_takes unit
          · obtain rfl := Except.ok.inj found
            cases word : word? (c :: rest) with
            | some m => exact word?_takes word
            | none =>
              refine ⟨Nat.one_pos, (Free.zero rest).cons other, fun line => ?_⟩
              simp only [Option.getD_none]
              cases operator : operator? c with
              | none => exact nofun
              | some lexeme => exact operator?_noReference operator line

/-- A sign that begins no reference matches nothing but, perhaps, a name. -/
theorem next_sign (names : List KnownName) (noReference : match? ('&' :: rest) = none) :
    next names begun previous '&' rest
      = (·.getD (.text ['&'], 1)) <$> nameAt? ('&' :: rest) names := by
  have unit : unit? names previous ('&' :: rest) = .ok none := by
    unfold unit?
    split
    · rfl
    · rfl
  have number : number? previous ('&' :: rest) = none := by
    unfold number?
    split
    · rfl
    · rfl
  have name : knownName? names previous ('&' :: rest) = nameAt? ('&' :: rest) names := by
    have noWord : Text.isWord '&' = false := by decide
    simp [knownName?, noWord]
  have reference : reference? ('&' :: rest) = none := by
    rw [reference?, noReference, Option.map_none]
  have blank : blank? ('&' :: rest) = none := rfl
  have conversion : conversion? begun previous ('&' :: rest) = .ok none := rfl
  have word : word? ('&' :: rest) = none := rfl
  simp only [next, blank, name, reference, number, conversion, unit, word]
  cases nameAt? ('&' :: rest) names with
  | error fault => rfl
  | ok m? => cases m? <;> rfl

/-- A name that is found there is no reference after all, which is a fault. -/
theorem nameAt?_sign {names : List KnownName} (plain : ArePlain vars)
    (known : ∀ n ∈ names, n ∈ knownNames vars ids) (noReference : match? ('&' :: rest) = none)
    {result : Option Match} (found : nameAt? ('&' :: rest) names = .ok result) :
    result = none := by
  induction names with
  | nil => exact (Except.ok.inj found).symm
  | cons n names ih =>
    have later := ih fun m hm => known m (List.mem_cons_of_mem _ hm)
    unfold nameAt? at found
    split at found
    · next begins =>
      rcases mem_knownNames.1 (known n List.mem_cons_self) with ⟨v, hv, rfl⟩ | ⟨id, -, rfl⟩
      · exact (not_isPrefixOf_sign (plain v hv) begins).elim
      · have noWord : Text.isWord ']' = false := by decide
        have none : digits? (Reference.text id) = none := by
          cases digits : digits? (Reference.text id) with
          | none => rfl
          | some digits' =>
            obtain ⟨tail, whole⟩ := List.isPrefixOf_iff_prefix.1 begins
            have valid := decimal_of_match? (Option.filter_eq_some_iff.1 digits).1
            rw [← whole, eq_written_of_digits? digits,
              match?_written_append valid.1 valid.2] at noReference
            cases noReference
        simp [Reference.text, noWord] at found none
        simp [none] at found
    · exact later found

/-- Where a sign begins no reference and no fault is raised, it is text. -/
theorem eq_text_of_next_sign (plain : ArePlain vars) (noReference : match? ('&' :: rest) = none)
    (found : next (longestFirst (knownNames vars ids)) begun previous '&' rest = .ok m) :
    m = (.text ['&'], 1) := by
  rw [next_sign _ noReference] at found
  obtain ⟨m?, name, rfl⟩ := map_eq_ok found
  obtain rfl := nameAt?_sign plain (fun n hn => mem_longestFirst.1 hn) noReference name
  rfl

/-- So it is in any text that is alike, as long as all known references have a number. -/
theorem next_sign_of_none (plain : ArePlain vars) (nonneg : ∀ id ∈ ids', 0 ≤ id)
    (noReference : match? ('&' :: rest) = none) (alike : Alike rest rest')
    (found : next (longestFirst (knownNames vars ids)) begun previous '&' rest = .ok m) :
    m = (.text ['&'], 1)
      ∧ next (longestFirst (knownNames vars ids')) begun previous '&' rest'
        = .ok (.text ['&'], 1) := by
  have noReference' : match? ('&' :: rest') = none := alike.match?_sign ▸ noReference
  refine ⟨eq_text_of_next_sign plain noReference found, ?_⟩
  rw [next_sign _ noReference', nameAt?_eq_none]
  · rfl
  · intro n hn
    rw [Bool.eq_false_iff]
    intro begins
    rcases mem_knownNames.1 (mem_longestFirst.1 hn) with ⟨v, hv, rfl⟩ | ⟨id, hid, rfl⟩
    · exact not_isPrefixOf_sign (plain v hv) begins
    · obtain ⟨n, rfl⟩ := Int.eq_ofNat_of_zero_le (nonneg id hid)
      rw [match?_of_text_isPrefixOf begins] at noReference'
      exact nomatch noReference'

/-- A reference is an operand if it is known, and text otherwise. -/
def referenceLexeme (ids : List LineId) (digits : Text) : Lexeme :=
  if (Text.naturalOf digits : Int) ∈ ids then .operand (.reference (Text.naturalOf digits))
  else .text (written digits)

/-- A reference is read as the name that is found there, and otherwise as text. -/
theorem next_written {names : List KnownName} {digits : Text} (nonempty : digits ≠ [])
    (decimal : ∀ c ∈ digits, Text.isDecimal c = true) (whole : c :: rest = written digits ++ t)
    {name? : Option Match} (name : nameAt? (written digits ++ t) names = .ok name?) :
    next names begun previous c rest
      = .ok (name?.getD (.text (written digits), digits.length + 3)) := by
  have known : knownName? names previous (written digits ++ t) = .ok name? := by
    have noWord : Text.isWord '&' = false := by decide
    have head : (written digits ++ t).head? = some '&' := rfl
    simpa [knownName?, head, noWord] using name
  have blank : blank? (written digits ++ t) = none := rfl
  have reference : reference? (written digits ++ t)
      = some (.text (written digits), digits.length + 3) := by
    rw [reference?, match?_written_append nonempty decimal, Option.map_some]
  simp only [next, whole, blank, known, reference]
  cases name? <;> rfl

theorem next_reference (plain : ArePlain vars) {digits : Text}
    (canonical : Digits.IsCanonical digits) (readable : digits.length ≤ Digits.maxLength)
    (whole : c :: rest = written digits ++ t) :
    next (longestFirst (knownNames vars ids)) begun previous c rest
      = .ok (referenceLexeme ids digits, digits.length + 3) := by
  rw [next_written canonical.nonempty
    (fun c hc => Digits.isDecimal_of_isDigit (canonical.isDigit c hc)) whole
    (nameAt?_reference plain canonical readable t), referenceLexeme]
  split <;> rfl

/-- What a reference and the one in its place have in common, where `f` gives the new numbers, `g`
the new lines of the old ones, and `ids` and `ids'` are the lines that can be referred to. -/
structure Renamed (f : Nat → Nat) (g : LineId → LineId) (ids ids' : List LineId) (digits : Text) :
    Prop where
  canonical : Digits.IsCanonical digits
  readable : digits.length ≤ Digits.maxLength
  pos : f (Text.naturalOf digits) ≠ 0
  readable' : (Digits.text 10 (f (Text.naturalOf digits))).length ≤ Digits.maxLength
  named : g (Text.naturalOf digits) = f (Text.naturalOf digits)
  known : (Text.naturalOf digits : Int) ∈ ids ↔ (f (Text.naturalOf digits) : Int) ∈ ids'

variable {f : Nat → Nat} {g : LineId → LineId} {names : List KnownName}
  {fuel fuel' position position' : Nat} {tokens : List Token} {digits : Text}

theorem Renamed.outline_lexeme (h : Renamed f g ids ids' digits) :
    (referenceLexeme ids' (Digits.text 10 (f (Text.naturalOf digits)))).outline id
      = (referenceLexeme ids digits).outline g := by
  unfold referenceLexeme
  rw [Digits.naturalOf_text]
  by_cases known : (Text.naturalOf digits : Int) ∈ ids
  · rw [if_pos known, if_pos (h.known.1 known)]
    simp [Lexeme.outline, Operand.rename, h.named]
  · rw [if_neg known, if_neg fun known' => known (h.known.2 known')]
    rfl

theorem outline_eq {lexeme lexeme' : Lexeme} {start stop start' stop' : Nat}
    (same : lexeme'.outline id = lexeme.outline g) :
    Token.outline id ⟨lexeme', start', stop'⟩ = Token.outline g ⟨lexeme, start, stop⟩ := by
  simp only [Token.outline, same]

theorem outline_of_noReference {lexeme : Lexeme}
    (h : ∀ line, lexeme ≠ .operand (.reference line)) :
    lexeme.outline id = lexeme.outline g := by
  cases lexeme with
  | operand o =>
    rcases o with x | name | line
    · rfl
    · rfl
    · exact absurd rfl (h line)
  | _ => rfl

theorem scanFrom_cons (c : Char) (rest : Text) :
    scanFrom names (fuel + 1) begun previous position (c :: rest)
      = next names begun previous c rest >>= fun m =>
        (⟨m.1, position, position + m.2⟩ :: ·)
          <$> scanFrom names fuel (begun || !m.1.isBlank) ((c :: rest)[m.2 - 1]?)
            (position + m.2) ((c :: rest).drop m.2) := by
  simp only [map_eq_pure_bind]
  rfl

theorem scanFrom_of_next (matched : next names begun previous c rest = .ok m) :
    scanFrom names (fuel + 1) begun previous position (c :: rest)
      = (⟨m.1, position, position + m.2⟩ :: ·)
        <$> scanFrom names fuel (begun || !m.1.isBlank) ((c :: rest)[m.2 - 1]?)
          (position + m.2) ((c :: rest).drop m.2) := by
  rw [scanFrom_cons, matched]
  rfl

/-- A token of a text and the one in its place, and that the texts go on in the same way. -/
structure SameNext (f : Nat → Nat) (g : LineId → LineId) (t t' : Text) (m m' : Match) : Prop where
  outline : m'.1.outline id = m.1.outline g
  last : t'[m'.2 - 1]? = t[m.2 - 1]?
  rest : t'.drop m'.2 = rewritten f (t.drop m.2)
  pos : 0 < m.2
  pos' : 0 < m'.2
  pieces : ∀ piece ∈ Reference.pieces (t.drop m.2), piece ∈ Reference.pieces t

theorem SameNext.isBlank {m' : Match} (h : SameNext f g t t' m m') :
    m'.1.isBlank = m.1.isBlank := by
  have outline := congrArg Lexeme.isBlank h.outline
  rwa [Lexeme.isBlank_outline, Lexeme.isBlank_outline] at outline

theorem sameNext_reference (h : Renamed f g ids ids' digits) (after : Text) :
    SameNext f g (written digits ++ after)
      (written (Digits.text 10 (f (Text.naturalOf digits))) ++ rewritten f after)
      (referenceLexeme ids digits, digits.length + 3)
      (referenceLexeme ids' (Digits.text 10 (f (Text.naturalOf digits))),
        (Digits.text 10 (f (Text.naturalOf digits))).length + 3) where
  outline := h.outline_lexeme
  last := (getElem?_written_append _ _).trans (getElem?_written_append _ _).symm
  rest := by rw [drop_written_append, drop_written_append]
  pos := Nat.succ_pos _
  pos' := Nat.succ_pos _
  pieces := by
    have decimal := fun c hc => Digits.isDecimal_of_isDigit (h.canonical.isDigit c hc)
    rw [drop_written_append, pieces_written_append h.canonical.nonempty decimal]
    exact fun piece mem => List.mem_cons_of_mem _ mem

theorem sameNext_takes (taken : Takes t m) : SameNext f g t (rewritten f t) m m where
  outline := outline_of_noReference taken.noReference
  last := ((Alike.rewritten f t).getElem?_pred taken.free taken.pos).symm
  rest := by
    rw [taken.free.rewritten_eq, List.drop_left' (List.length_take_of_le taken.free.le_length)]
  pos := taken.pos
  pos' := taken.pos
  pieces := fun _ mem => taken.free.mem_pieces mem

theorem sameNext_sign (noReference : match? ('&' :: rest) = none) :
    SameNext f g ('&' :: rest) ('&' :: rewritten f rest) (.text ['&'], 1) (.text ['&'], 1) where
  outline := rfl
  last := rfl
  rest := rfl
  pos := Nat.one_pos
  pos' := Nat.one_pos
  pieces := fun _ mem => pieces_cons_of_match?_none noReference ▸ List.mem_cons_of_mem _ mem

/-- The next token, of a text with other references. -/
theorem next_rewritten (plain : ArePlain vars) (nonneg : ∀ id ∈ ids', 0 ≤ id)
    (renamed : ∀ digits, .reference digits ∈ pieces (c :: rest) → Renamed f g ids ids' digits)
    (matched : next (longestFirst (knownNames vars ids)) begun previous c rest = .ok m) :
    ∃ rest' m', rewritten f (c :: rest) = c :: rest'
      ∧ next (longestFirst (knownNames vars ids')) begun previous c rest' = .ok m'
      ∧ SameNext f g (c :: rest) (c :: rest') m m' := by
  cases found : match? (c :: rest) with
  | some digits =>
    have whole := eq_written_append found
    have here := renamed digits (pieces_of_match?_some found ▸ List.mem_cons_self)
    have whole' := rewritten_of_match?_some (f := f) found
    generalize (c :: rest).drop (digits.length + 3) = after at whole whole'
    obtain ⟨rfl, rfl⟩ := List.cons.inj whole
    rw [next_reference plain here.canonical here.readable whole] at matched
    obtain rfl := Except.ok.inj matched
    rw [text_natCast] at whole'
    refine ⟨_, _, whole', ?_, sameNext_reference here after⟩
    exact next_reference plain (Digits.isCanonical_text here.pos) here.readable' rfl
  | none =>
    have unchanged := rewritten_cons_of_match?_none (f := f) found
    by_cases sign : c = '&'
    -- the texts are alike from here on, but a name that begins with the sign would not be seen
    · subst sign
      obtain ⟨rfl, matched'⟩ :=
        next_sign_of_none plain nonneg found (Alike.rewritten f rest) matched
      exact ⟨_, _, unchanged, matched', sameNext_sign found⟩
    · have taken := next_takes plain sign matched
      rw [next_alike plain sign (Alike.rewritten f rest)] at matched
      exact ⟨_, m, unchanged, matched, unchanged ▸ sameNext_takes taken⟩

/-- A line with other references is scanned into tokens that have the same outline. -/
theorem scanFrom_rewritten (plain : ArePlain vars) (nonneg : ∀ id ∈ ids', 0 ≤ id)
    (enough : t.length ≤ fuel) (enough' : (rewritten f t).length ≤ fuel')
    (renamed : ∀ digits, .reference digits ∈ pieces t → Renamed f g ids ids' digits)
    (scanned : scanFrom (longestFirst (knownNames vars ids)) fuel begun previous position t
      = .ok tokens) (position' : Nat) :
    ∃ tokens', scanFrom (longestFirst (knownNames vars ids')) fuel' begun previous position'
        (rewritten f t) = .ok tokens'
      ∧ tokens'.map (Token.outline id) = tokens.map (Token.outline g) := by
  induction fuel generalizing t begun previous position fuel' position' tokens with
  | zero =>
    obtain rfl := List.eq_nil_of_length_eq_zero (Nat.le_zero.1 enough)
    obtain rfl : [] = tokens := Except.ok.inj scanned
    exact ⟨[], by cases fuel' <;> rfl, rfl⟩
  | succ fuel ih =>
    cases t with
    | nil =>
      obtain rfl : [] = tokens := Except.ok.inj scanned
      exact ⟨[], by cases fuel' <;> rfl, rfl⟩
    | cons c rest =>
      rw [scanFrom_cons] at scanned
      obtain ⟨m, matched, continued⟩ := bind_eq_ok scanned
      obtain ⟨others, scannedRest, rfl⟩ := map_eq_ok continued
      obtain ⟨rest', m', whole, matched', same⟩ := next_rewritten plain nonneg renamed matched
      have pos := same.pos
      have pos' := same.pos'
      have length := congrArg List.length same.rest
      simp only [whole, List.length_cons, List.length_drop] at enough enough' length
      cases fuel' with
      | zero => omega
      | succ fuel' =>
        obtain ⟨others', scanned', outlines⟩ := ih (show _ ≤ fuel by simp; omega)
          (show _ ≤ fuel' by omega) (fun digits mem => renamed digits (same.pieces _ mem))
          scannedRest (position' + m'.2)
        refine ⟨⟨m'.1, position', position' + m'.2⟩ :: others', ?_, ?_⟩
        · rw [whole, scanFrom_of_next matched', same.rest, same.last, same.isBlank, scanned']
          rfl
        · rw [List.map_cons, List.map_cons, outlines]
          exact congrArg (· :: _) (outline_eq same.outline)

end CalcSheet.Token
