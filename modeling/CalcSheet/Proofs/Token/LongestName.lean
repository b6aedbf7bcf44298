import CalcSheet.Proofs.Token.Spans

/-!
# Where a known name is read

Every token behind the beginning of an assignment is the one that the scanner finds at its place.
So where a known name stands between the boundaries of words, the longest such name is read, and
only the names that occur in a line have a say in its tokens, in whatever order they are given.
-/
namespace CalcSheet
open Reference

namespace KnownName

/-- What a known name is read as: the name of a variable, or the line that a reference is to. -/
inductive ReadAs : KnownName → Lexeme → Prop where
  | variable (name : Text) : ReadAs ⟨name, false⟩ (.operand (.variable name))
  | reference (digits : Text) :
      ReadAs ⟨written digits, true⟩ (.operand (.reference (Text.naturalOf digits)))

/-- A name stands at a position of a line: no word that began before goes on in it, and it does not
end inside a word. Digits in front of it do not belong to its word. -/
structure StandsIn (n : KnownName) (line : Text) (position : Nat) : Prop where
  begins : n.text <+: line.drop position
  before : ∀ b ∈ (line.take position).getLast?, ∀ c ∈ n.text.head?,
    Text.isWord b = true → Text.isDigit b = false → Text.isWord c = false
  behind : ∀ c ∈ n.text.getLast?, ∀ d ∈ (line.drop (position + n.text.length)).head?,
    Text.isWord c = true → Text.isWord d = false

/-- There is something to the name, and this does not begin with white space. -/
def BeginsWithInk (n : KnownName) : Prop := ∃ c ∈ n.text.head?, Text.isBlank c = false

/-- The longest of the known names that stand at a position of a line. -/
structure IsLongest (n : KnownName) (names : List KnownName) (line : Text) (position : Nat) :
    Prop where
  mem : n ∈ names
  stands : n.StandsIn line position
  longest : ∀ k ∈ names, k.StandsIn line position → k.text.length ≤ n.text.length

end KnownName

namespace Token
open KnownName

variable {names names' : List KnownName} {n k : KnownName} {line : Text} {begun : Bool}
  {previous : Option Char} {c : Char} {rest : Text} {m : Match} {lexeme : Lexeme} {token : Token}
  {tokens : List Token} {fuel position start stop : Nat}

/-! ### Tokens at their places -/

theorem Cover.start_lt (h : Cover start stop tokens) (mem : token ∈ tokens) :
    token.start < stop := by
  induction tokens generalizing start with
  | nil => exact nomatch mem
  | cons first others ih =>
    obtain ⟨rfl, some, later⟩ := h
    rcases List.mem_cons.1 mem with rfl | mem
    · exact Nat.lt_of_lt_of_le some later.le
    · exact ih later mem

/-- A token is the one that the scanner finds at its place in a line. -/
def IsFoundIn (names : List KnownName) (line : Text) (token : Token) : Prop :=
  ∃ begun c rest n, line.drop token.start = c :: rest
    ∧ next names begun (line.take token.start).getLast? c rest = .ok (token.lexeme, n)
    ∧ token.stop = token.start + n

theorem getLast?_take_add {n : Nat} (pos : 0 < n) (le : n ≤ (line.drop position).length) :
    (line.take (position + n)).getLast? = (line.drop position)[n - 1]? := by
  rw [List.length_drop] at le
  have inside : position + n - 1 < line.length := by omega
  rw [List.getLast?_take, if_neg (by omega), List.getElem?_drop, ← Nat.add_sub_assoc pos,
    List.getElem?_eq_getElem inside, Option.some_or]

theorem isFoundIn_of_scanFrom (scanned : scanFrom names fuel begun (line.take position).getLast?
      position (line.drop position) = .ok tokens) :
    ∀ token ∈ tokens, IsFoundIn names line token := by
  induction fuel generalizing begun position tokens with
  | zero =>
    obtain rfl : [] = tokens := Except.ok.inj scanned
    exact List.forall_mem_nil _
  | succ fuel ih =>
    cases whole : line.drop position with
    | nil =>
      rw [whole] at scanned
      obtain rfl : [] = tokens := Except.ok.inj scanned
      exact List.forall_mem_nil _
    | cons c rest =>
      rw [whole, scanFrom_cons] at scanned
      obtain ⟨m, matched, scanned⟩ := bind_eq_ok scanned
      have spans := spans_of_next matched
      rw [← whole, List.drop_drop, ← getLast?_take_add spans.pos (whole ▸ spans.le_length)]
        at scanned
      obtain ⟨others, scannedRest, rfl⟩ := map_eq_ok scanned
      exact List.forall_mem_cons.2 ⟨⟨begun, c, rest, m.2, whole, matched, rfl⟩, ih scannedRest⟩

theorem getLast?_take_assignment {a : Assignment} (parsed : Assignment.parse? line = some a) :
    (line.take a.length).getLast? = some '=' := by
  obtain ⟨rest, rfl⟩ := eq_append_of_parse? parsed
  have whole : a.lead ++ (a.name ++ (a.gap ++ '=' :: rest))
      = (a.lead ++ (a.name ++ (a.gap ++ ['=']))) ++ rest := by
    simp
  have length : (a.lead ++ (a.name ++ (a.gap ++ ['=']))).length = a.length := by
    simp [Assignment.length, Nat.add_assoc]
  rw [whole, ← length, List.take_left]
  simp

/-- The tokens of a calculated line are those of the beginning of an assignment, if there is one,
and behind them tokens that are found at their places. -/
theorem exists_behind_of_scan (calculated : isTextLine line = false)
    (scanned : scan line names = .ok tokens) :
    ∃ start before behind, tokens = before ++ behind
      ∧ Cover 0 start before ∧ Cover start line.length behind
      ∧ (∀ token ∈ before, ∃ a ∈ Assignment.parse? line, start = a.length ∧ token ∈ a.tokens)
      ∧ ∀ token ∈ behind, IsFoundIn (longestFirst names) line token := by
  unfold scan at scanned
  rw [calculated] at scanned
  cases parsed : Assignment.parse? line with
  | none =>
    rw [parsed] at scanned
    have scannedAll : scanFrom (longestFirst names) line.length false (line.take 0).getLast? 0
        (line.drop 0) = .ok tokens := scanned
    exact ⟨0, [], tokens, rfl, rfl,
      (cover_means_of_scanFrom (by omega) (Nat.zero_le _) scannedAll).1, List.forall_mem_nil _,
      isFoundIn_of_scanFrom scannedAll⟩
  | some a =>
    rw [parsed] at scanned
    obtain ⟨others, scannedRest, done⟩ := bind_eq_ok scanned
    obtain rfl := Except.ok.inj done
    have inside : a.length ≤ line.length := (Assignment.parse?_free parsed).le_length
    rw [← getLast?_take_assignment parsed] at scannedRest
    exact ⟨a.length, a.tokens, others, rfl, cover_assignment parsed,
      (cover_means_of_scanFrom (by omega) inside scannedRest).1,
      fun token mem => ⟨a, rfl, rfl, mem⟩, isFoundIn_of_scanFrom scannedRest⟩

/-- Behind the beginning of an assignment all tokens are found at their places. -/
theorem isFoundIn_of_scan (calculated : isTextLine line = false)
    (scanned : scan line names = .ok tokens) (mem : token ∈ tokens)
    (behind : ∀ a ∈ Assignment.parse? line, a.length ≤ token.start) :
    IsFoundIn (longestFirst names) line token := by
  obtain ⟨start, before, others, rfl, cover, -, assigned, found⟩ :=
    exists_behind_of_scan calculated scanned
  rcases List.mem_append.1 mem with mem | mem
  · obtain ⟨a, parsed, rfl, -⟩ := assigned token mem
    exact absurd (cover.start_lt mem) (Nat.not_lt.2 (behind a parsed))
  · exact found token mem

/-! ### The name at a place -/

theorem standsAt_iff : standsAt (line.drop position) n = true ↔
    n.text <+: line.drop position
      ∧ ∀ c ∈ n.text.getLast?, ∀ d ∈ (line.drop (position + n.text.length)).head?,
        Text.isWord c = true → Text.isWord d = false := by
  rw [standsAt, Bool.and_eq_true, List.isPrefixOf_iff_prefix, List.drop_drop]
  refine and_congr_right fun _ => ?_
  cases n.text.getLast? with
  | none => simp
  | some c =>
    cases (line.drop (position + n.text.length)).head? with
    | none => simp
    | some d => cases hc : Text.isWord c <;> simp [hc]

theorem standsAt_of_standsIn (h : n.StandsIn line position) :
    standsAt (line.drop position) n = true := standsAt_iff.2 ⟨h.begins, h.behind⟩

/-- What a name is read as is as long as the name. -/
theorem readAs_of_readName (read : readName n = .ok m) :
    n.text ≠ [] ∧ n.ReadAs m.1 ∧ m.2 = n.text.length := by
  obtain ⟨text, isReference⟩ := n
  unfold readName at read
  split at read
  · exact nomatch read
  · next some =>
    refine ⟨fun empty => some (List.isEmpty_iff.2 empty), ?_⟩
    cases isReference with
    | false =>
      obtain rfl := Except.ok.inj read
      exact ⟨.variable text, rfl⟩
    | true =>
      rw [if_pos rfl] at read
      split at read
      · exact nomatch read
      · next digits written =>
        split at read
        · exact nomatch read
        · obtain rfl := Except.ok.inj read
          obtain rfl := eq_written_of_digits? written
          exact ⟨.reference digits, rfl⟩

/-- At a name that stands in a line, the known names are looked for. -/
theorem knownName?_of_standsIn (h : n.StandsIn line position) (begins : n.text.head? = some c) :
    knownName? names (line.take position).getLast? (c :: rest) = nameAt? (c :: rest) names := by
  have free : (gluedTo (line.take position).getLast? && (c :: rest).head?.any Text.isWord)
      = false := by
    cases last : (line.take position).getLast? with
    | none => rfl
    | some b =>
      have boundary := h.before b last c begins
      cases word : Text.isWord b <;> cases digit : Text.isDigit b <;>
        simp_all [gluedTo]
  rw [knownName?, free]
  rfl

theorem head?_eq_of_prefix {k : KnownName} (nonempty : k.text ≠ [])
    (begins : k.text <+: c :: rest) : k.text.head? = some c := by
  obtain ⟨d, text, whole⟩ := List.exists_cons_of_ne_nil nonempty
  rw [whole] at begins ⊢
  rw [(List.cons_prefix_cons.1 begins).1, List.head?_cons]

theorem isLongest_of_next (sorted : IsSorted names) (mem : n ∈ names) (ink : n.BeginsWithInk)
    (stands : n.StandsIn line position) (here : line.drop position = c :: rest)
    (matched : next names begun (line.take position).getLast? c rest = .ok m) :
    ∃ k : KnownName, k.IsLongest names line position ∧ k.ReadAs m.1 ∧ m.2 = k.text.length := by
  obtain ⟨d, begins, noBlank⟩ := ink
  have nonempty : n.text ≠ [] := fun empty => by
    rw [empty] at begins
    exact nomatch begins
  have head := head?_eq_of_prefix nonempty (here ▸ stands.begins)
  obtain rfl : c = d := Option.some.inj (head.symm.trans begins)
  have found : ∃ k, names.find? (standsAt (c :: rest)) = some k := by
    rw [← Option.isSome_iff_exists, List.find?_isSome]
    exact ⟨n, mem, here ▸ standsAt_of_standsIn stands⟩
  obtain ⟨k, found⟩ := found
  have blank : blank? (c :: rest) = none := by simp [blank?, noBlank]
  unfold next at matched
  simp only [blank, knownName?_of_standsIn stands head, nameAt?_eq_find?, found, Option.mapM_some]
    at matched
  obtain ⟨name?, named, matched⟩ := bind_eq_ok matched
  obtain ⟨m', read, rfl⟩ := map_eq_ok named
  obtain rfl : m' = m := Except.ok.inj matched
  obtain ⟨nonempty', readAs, length⟩ := readAs_of_readName read
  have standing := List.find?_some found
  rw [← here] at standing
  obtain ⟨begins', behind⟩ := standsAt_iff.1 standing
  have head' := head?_eq_of_prefix nonempty' (here ▸ begins')
  refine ⟨k, ⟨List.mem_of_find?_eq_some found, ⟨begins', ?_, behind⟩, ?_⟩, readAs, length⟩
  · exact head'.trans head.symm ▸ stands.before
  · intro k' mem' stands'
    exact length_le_of_find? sorted found mem' (here ▸ standsAt_of_standsIn stands')

/-- Where known names stand at the place of a token, it is the longest of them. -/
theorem IsFoundIn.isLongest (found : IsFoundIn (longestFirst names) line token) (mem : n ∈ names)
    (ink : n.BeginsWithInk) (stands : n.StandsIn line token.start) :
    ∃ k : KnownName, k.IsLongest names line token.start ∧ k.ReadAs token.lexeme
      ∧ token.stop = token.start + k.text.length := by
  obtain ⟨begun, c, rest, length, here, matched, stop⟩ := found
  obtain ⟨k, longest, readAs, same⟩ := isLongest_of_next (isSorted_longestFirst names)
    (mem_longestFirst.2 mem) ink stands here matched
  refine ⟨k, ⟨mem_longestFirst.1 longest.mem, longest.stands, fun k' mem' =>
    longest.longest k' (mem_longestFirst.2 mem')⟩, readAs, ?_⟩
  rw [stop, show length = k.text.length from same]

theorem toldApart_of_nodup (distinct : (names.map (·.text)).Nodup) : ToldApart names :=
  fun _ hm _ hn text => List.inj_on_of_nodup_map distinct hm hn text

/-- Known names that occur nowhere in a line make no difference, and neither does the order of the
others. Where known names stand behind the beginning of an assignment, the longest is read. -/
theorem scan_longest (line : Text) (names names' : List KnownName)
    (distinct : (names.map (·.text)).Nodup) :
    (SameIn line names names' → scan line names = scan line names')
      ∧ ∀ tokens, isTextLine line = false → scan line names = .ok tokens → ∀ token ∈ tokens,
        (∀ a ∈ Assignment.parse? line, a.length ≤ token.start) →
        ∀ n ∈ names, n.BeginsWithInk → n.StandsIn line token.start →
          ∃ k : KnownName, k.IsLongest names line token.start ∧ k.ReadAs token.lexeme
            ∧ token.stop = token.start + k.text.length := by
  refine ⟨scan_congr (toldApart_of_nodup distinct), ?_⟩
  intro tokens calculated scanned token mem behind n known ink stands
  exact (isFoundIn_of_scan calculated scanned mem behind).isLongest known ink stands

/-- A name with a space in it is read behind a digit, not the shorter one that it begins with. -/
theorem scan_longest_spaced :
    let line : Text := "2my var-my".toList
    let my : KnownName := ⟨"my".toList, false⟩
    let myVar : KnownName := ⟨"my var".toList, false⟩
    let other : KnownName := ⟨"zz".toList, false⟩
    let token : Token := ⟨.operand (.variable myVar.text), 1, 7⟩
    scan line [my, myVar, other] = scan line [myVar, my]
      ∧ (∃ tokens, scan line [my, myVar, other] = .ok tokens ∧ token ∈ tokens)
      ∧ ∃ k : KnownName, k.IsLongest [my, myVar, other] line 1 ∧ k.ReadAs token.lexeme
        ∧ token.stop = 1 + k.text.length := by
  intro line my myVar other token
  have all := scan_longest line [my, myVar, other] [myVar, my] (by decide)
  have absent : ¬ other.text <:+: line := by decide
  have scanned : scan line [my, myVar, other]
      = .ok [⟨.operand (.number (.ofNat 2)), 0, 1⟩, token, ⟨.operator .sub, 7, 8⟩,
        ⟨.operand (.variable my.text), 8, 10⟩] := by decide +kernel
  have mem : token ∈ [⟨.operand (.number (.ofNat 2)), 0, 1⟩, token, ⟨.operator .sub, 7, 8⟩,
        ⟨.operand (.variable my.text), 8, 10⟩] := by simp
  have stands : my.StandsIn line token.start := by
    refine ⟨by decide, ?_, ?_⟩
    · rintro _ ⟨⟩ _ ⟨⟩
      decide
    · rintro _ ⟨⟩ _ ⟨⟩
      decide
  refine ⟨all.1 fun n occurs => ?_, ⟨_, scanned, mem⟩, all.2 _ (by decide) scanned token mem
    (by decide) my List.mem_cons_self ⟨'m', rfl, by decide⟩ stands⟩
  have noOther : n ≠ other := fun same => absent (same ▸ occurs)
  simp only [List.mem_cons, List.not_mem_nil, or_false, noOther]
  exact or_comm

end Token
end CalcSheet
