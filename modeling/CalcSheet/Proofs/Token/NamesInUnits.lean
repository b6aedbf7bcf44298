import CalcSheet.Proofs.Evaluation.Assignments
import CalcSheet.Proofs.Token.LongestName
import CalcSheet.Proofs.Unit.Reading

/-!
# Known names in units

A unit does not begin with a known name, and it ends before an operator with a known name behind it,
which is then read as the name. An exponent hides the name: it is compared with the known names
together with its exponent.
-/
namespace CalcSheet

namespace PhysicalUnit

/-- The operation that an operator between terms stands for. -/
def Joint.operation : Joint → BinaryOp
  | .times => .mul
  | .per => .div

namespace Chain

/-- The characters of a text are those of the chain, and there is a name in each of its terms. -/
structure Spells (c : Chain) (t : Text) : Prop where
  text : c.text = t
  written : ∀ x ∈ c.terms, x.2.IsWritten

/-- None of the names is the first of the chain, and none is that of another term without an
exponent. -/
structure Avoids (c : Chain) (names : List KnownName) : Prop where
  first : ∀ n ∈ names, n.text ≠ c.first.name
  others : ∀ x ∈ c.others, x.2.exponent? = none → ∀ n ∈ names, n.text ≠ x.2.name

variable {c d : Chain} {t : Text}

/-- The chain with one more term in front. -/
def cons (first : Term) (j : Joint) (c : Chain) : Chain := ⟨first, (j, c.first) :: c.others⟩

theorem text_cons (first : Term) (j : Joint) (c : Chain) :
    (cons first j c).text = first.text ++ j.char :: c.text := rfl

theorem stopsBefore_others (t : Term) (others : List (Joint × Term)) :
    t.StopsBefore (others.flatMap fun (j, t) => j.char :: t.text) := by
  cases others with
  | nil => exact t.stopsBefore_nil
  | cons x others =>
    simp only [List.flatMap_cons, List.cons_append]
    exact t.stopsBefore_operator x.1 _

theorem term?_text (written : c.first.IsWritten) : term? c.text = some c.first :=
  term?_append written (stopsBefore_others c.first c.others)

/-- A text is read as one chain only, since each term takes as much of it as it can. -/
theorem Spells.unique (h : c.Spells t) (h' : d.Spells t) : c = d :=
  eq_of_text_eq
    (fun _ _ written written' same =>
      Option.some.inj ((term?_text written).symm.trans (same ▸ term?_text written')))
    h.written h'.written (h.text.trans h'.text.symm)

/-- Behind the first name of a chain that does not end inside a word, no word goes on. -/
theorem exists_behind_first (c : Chain) {after : Text}
    (ends : ∀ d ∈ after.head?, Text.isWord d = false) :
    ∃ behind, c.text ++ after = c.first.name ++ behind
      ∧ ∀ d ∈ behind.head?, Text.isWord d = false := by
  obtain ⟨⟨name, written⟩, others⟩ := c
  cases written with
  | some e =>
    refine ⟨e.text ++ ((others.flatMap fun (j, t) => j.char :: t.text) ++ after), ?_, ?_⟩
    · simp [text, Term.text]
    · rw [e.head?_text]
      rintro d ⟨⟩
      decide
  | none =>
    refine ⟨(others.flatMap fun (j, t) => j.char :: t.text) ++ after, ?_, ?_⟩
    · simp [text, Term.text]
    · cases others with
      | nil => exact ends
      | cons x others =>
        rintro d ⟨⟩
        cases x.1 <;> decide

end Chain

end PhysicalUnit

namespace Token
open PhysicalUnit KnownName

variable {names : List KnownName} {n : KnownName} {line t rest after : Text} {begun : Bool}
  {previous : Option Char} {c : Char} {m : Match} {u : Option PhysicalUnit} {token : Token}
  {tokens : List Token} {fuel taken start stop length : Nat} {j : Joint}

/-! ### The terms of a unit -/

/-- A length that is tried is that of a chain of terms; none of them behind an operator is known. -/
theorem exists_chain_of_mem_unitLengths (mem : length ∈ unitLengths names fuel taken t) :
    ∃ (chain : Chain) (rest : Text), t = chain.text ++ rest ∧ length = taken + chain.text.length
      ∧ (∀ x ∈ chain.terms, x.2.IsWritten)
      ∧ (taken ≠ 0 → ∀ n ∈ names, n.text ≠ chain.first.text)
      ∧ ∀ x ∈ chain.others, ∀ n ∈ names, n.text ≠ x.2.text := by
  induction fuel generalizing taken t with
  | zero => exact nomatch mem
  | succ fuel ih =>
    unfold unitLengths at mem
    cases found : term? t with
    | none => simp [found] at mem
    | some term =>
      obtain ⟨rest, rfl, written, -⟩ := term?_eq_some_iff.1 found
      simp only [found, ← term.length_text, List.take_left, List.drop_left] at mem
      split at mem
      · exact nomatch mem
      · next unknown =>
        have unknown : taken ≠ 0 → ∀ n ∈ names, n.text ≠ term.text := by
          simpa using unknown
        rcases List.mem_cons.1 mem with rfl | later
        · exact ⟨⟨term, []⟩, rest, by simp [Chain.text], by simp [Chain.text],
            by simpa [Chain.terms] using written, unknown, List.forall_mem_nil _⟩
        · split at later
          · next d rest =>
            split at later
            · next operator =>
              obtain ⟨j, rfl⟩ : ∃ j : Joint, d = j.char := by
                rcases operator with rfl | rfl
                exacts [⟨.times, rfl⟩, ⟨.per, rfl⟩]
              obtain ⟨chain, rest, rfl, rfl, writtenRest, first, others⟩ := ih later
              refine ⟨chain.cons term j, rest, ?_, ?_, ?_, unknown, ?_⟩
              · simp [Chain.text_cons]
              · simp only [Chain.text_cons, List.length_append, List.length_cons]
                omega
              · obtain ⟨head, tail⟩ := Chain.forall_mem_terms.1 writtenRest
                exact Chain.forall_mem_terms.2 ⟨written, List.forall_mem_cons.2 ⟨head, tail⟩⟩
              · exact List.forall_mem_cons.2 ⟨first (Nat.succ_ne_zero _), others⟩
            · exact nomatch later
          · exact nomatch later

/-- A unit does not end inside a word. -/
theorem isWord_of_unitOf? {lengths : List Nat}
    (found : unitOf? t lengths = .ok (some (u, length))) :
    ∀ d ∈ (t.drop length).head?, Text.isWord d = false := by
  induction lengths with
  | nil => exact nomatch found
  | cons k shorter ih =>
    unfold unitOf? at found
    split at found
    · exact ih found
    · next ends =>
      have ends : ∀ d ∈ (t.drop k).head?, Text.isWord d = false := fun d mem => by
        simpa [-List.head?_drop, Option.mem_def.1 mem] using ends
      split at found
      · obtain ⟨rfl, rfl⟩ := Prod.mk.inj (Option.some.inj (Except.ok.inj found))
        exact ends
      · exact nomatch found
      · obtain ⟨rfl, rfl⟩ := Prod.mk.inj (Option.some.inj (Except.ok.inj found))
        exact ends
      · exact ih found

/-- A unit is read only where no known name stands. -/
theorem unitAt?_of_next (matched : next names begun previous c rest = .ok m)
    (unit : m.1 = .unit u) :
    names.find? (standsAt (c :: rest)) = none
      ∧ unitAt? names (c :: rest) = .ok (some (u, m.2)) := by
  unfold next at matched
  dsimp only at matched
  split at matched
  · next blank =>
    obtain rfl := Except.ok.inj matched
    unfold blank? at blank
    dsimp only at blank
    split at blank
    · exact nomatch blank
    · obtain rfl := Option.some.inj blank
      exact nomatch unit
  · obtain ⟨name?, name, matched⟩ := bind_eq_ok matched
    cases name? with
    | some m' =>
      obtain rfl : m' = m := Except.ok.inj matched
      obtain ⟨o, operand, -⟩ := operand_of_knownName? name
      exact nomatch operand.symm.trans unit
    | none =>
      dsimp only at matched
      split at matched
      · next found =>
        obtain rfl := Except.ok.inj matched
        rcases (Option.orElse_eq_some _ _ _).1 found with found | ⟨-, found⟩
        · obtain ⟨digits, -, rfl⟩ := Option.map_eq_some_iff.1 found
          exact nomatch unit
        · obtain ⟨x, number⟩ := number_of_number? found
          exact nomatch number.symm.trans unit
      · obtain ⟨conversion?, conversion, matched⟩ := bind_eq_ok matched
        split at matched
        · obtain rfl := Except.ok.inj matched
          obtain ⟨u, kind⟩ := conversion_of_conversion? conversion
          exact nomatch kind.symm.trans unit
        · obtain ⟨unit?, found, matched⟩ := bind_eq_ok matched
          split at matched
          · obtain rfl := Except.ok.inj matched
            unfold unit? at found
            split at found
            · exact nomatch found
            · next free =>
              obtain ⟨at?, at_, done⟩ := bind_eq_ok found
              obtain ⟨⟨u', k⟩, rfl, rfl⟩ := Option.map_eq_some_iff.1 (Except.ok.inj done)
              obtain rfl := Lexeme.unit.inj unit
              unfold knownName? at name
              rw [if_neg (by simp [free]), nameAt?_eq_find?] at name
              refine ⟨?_, at_⟩
              cases standing : names.find? (standsAt (c :: rest)) with
              | none => rfl
              | some n =>
                rw [standing, Option.mapM_some] at name
                obtain ⟨m', -, absent⟩ := map_eq_ok name
                exact nomatch absent
          · obtain rfl := Except.ok.inj matched
            unfold word? at unit
            split at unit
            · exact nomatch unit
            · change (operator? c).getD (.text [c]) = _ at unit
              cases operator : operator? c with
              | none =>
                rw [operator] at unit
                exact nomatch unit
              | some lexeme =>
                rw [operator] at unit
                obtain rfl : lexeme = .unit u := unit
                exact nomatch sign?_of_operator? operator

/-- What is read as a unit is a chain of terms that avoids the known names. -/
theorem exists_chain_of_next (matched : next names begun previous c rest = .ok m)
    (unit : m.1 = .unit u) :
    ∃ chain : Chain, chain.Spells ((c :: rest).take m.2) ∧ chain.Avoids names := by
  obtain ⟨absent, found⟩ := unitAt?_of_next matched unit
  have tried := List.mem_reverse.1 (unitOf?_mem found)
  have ends := isWord_of_unitOf? found
  obtain ⟨chain, after, whole, length, written, -, others⟩ := exists_chain_of_mem_unitLengths tried
  rw [Nat.zero_add] at length
  rw [whole, length, List.drop_left] at ends
  rw [whole, length, List.take_left]
  refine ⟨chain, ⟨rfl, written⟩, ⟨fun n mem first => ?_, fun x mem bare n known same => ?_⟩⟩
  · obtain ⟨behind, split, stop⟩ := chain.exists_behind_first ends
    have stands : standsAt (c :: rest) n = true := by
      rw [whole, split, standsAt, first, List.drop_left, Bool.and_eq_true]
      refine ⟨List.isPrefixOf_iff_prefix.2 (List.prefix_append _ _), ?_⟩
      cases head : behind.head? with
      | none => simp
      | some d => simp [stop d head]
    exact List.find?_eq_none.1 absent n mem stands
  · refine others x mem n known ?_
    rw [same, Term.text, bare]
    exact (List.append_nil _).symm

theorem IsFoundIn.exists_chain (found : IsFoundIn (longestFirst names) line token)
    (unit : token.lexeme = .unit u) :
    ∃ chain : Chain, chain.Spells (token.spelling line) ∧ chain.Avoids names := by
  obtain ⟨begun, c, rest, length, here, matched, stop⟩ := found
  obtain ⟨chain, spells, avoids⟩ := exists_chain_of_next matched unit
  refine ⟨chain, ?_, fun n mem => avoids.first n (mem_longestFirst.2 mem),
    fun x part bare n mem => avoids.others x part bare n (mem_longestFirst.2 mem)⟩
  unfold spelling
  rwa [here, stop, Nat.add_sub_cancel_left]

/-! ### What follows a unit -/

/-- A unit is among the tokens behind the beginning of an assignment, if there is one. -/
theorem exists_behind_of_unit (scanned : scan line names = .ok tokens) (mem : token ∈ tokens)
    (unit : token.lexeme = .unit u) :
    ∃ start behind, token ∈ behind ∧ behind ⊆ tokens ∧ Cover start line.length behind
      ∧ ∀ token ∈ behind, IsFoundIn (longestFirst names) line token := by
  have calculated : isTextLine line = false := by
    cases textLine : isTextLine line with
    | false => rfl
    | true =>
      unfold scan at scanned
      rw [if_pos textLine] at scanned
      obtain rfl := Except.ok.inj scanned
      obtain rfl := List.mem_singleton.1 mem
      exact nomatch unit
  obtain ⟨start, before, behind, rfl, -, cover, assigned, found⟩ :=
    exists_behind_of_scan calculated scanned
  refine ⟨start, behind, ?_, List.subset_append_right _ _, cover, found⟩
  rcases List.mem_append.1 mem with early | mem
  · obtain ⟨a, -, -, part⟩ := assigned token early
    rcases Assignment.lexeme_of_mem_tokens part with ⟨_, kind⟩ | ⟨_, kind⟩ | kind
      <;> exact nomatch kind.symm.trans unit
  · exact mem

theorem lt_length_of_head?_drop {position : Nat} (h : (line.drop position).head? = some c) :
    position < line.length := by
  rw [List.head?_drop] at h
  exact (List.getElem?_eq_some_iff.1 h).1

/-- Before the end of what the tokens cover, another one begins where one ends. -/
theorem Cover.exists_next (h : Cover start stop tokens) (mem : token ∈ tokens)
    (inside : token.stop < stop) : ∃ next ∈ tokens, next.start = token.stop := by
  induction tokens generalizing start with
  | nil => exact nomatch mem
  | cons first others ih =>
    obtain ⟨-, -, later⟩ := h
    rcases List.mem_cons.1 mem with rfl | mem
    · cases others with
      | nil =>
        obtain rfl : token.stop = stop := later
        exact absurd inside (Nat.lt_irrefl _)
      | cons next others =>
        exact ⟨next, List.mem_cons_of_mem _ List.mem_cons_self, later.1⟩
    · obtain ⟨next, mem, same⟩ := ih later mem
      exact ⟨next, List.mem_cons_of_mem _ mem, same⟩

/-- An operator that no known name begins with is read as the operator. -/
theorem operator_of_next (noName : ∀ n ∈ names, n.text.head? ≠ some j.char)
    (matched : next names begun previous j.char rest = .ok m) :
    m = (.operator j.operation, 1) := by
  have operator : operator? j.char = some (.operator j.operation) := by cases j <;> rfl
  obtain ⟨ink, noDigit, -, other, noPoint⟩ := of_operator? operator
  rw [next_eq_map_knownName? ink (by cases j <;> decide) other,
    number?_eq_none noDigit noPoint, operator] at matched
  obtain ⟨name?, name, rfl⟩ := map_eq_ok matched
  cases name? with
  | none => rfl
  | some m =>
    unfold knownName? at name
    split at name
    · exact nomatch name
    · rw [nameAt?_eq_find?] at name
      cases standing : names.find? (standsAt (j.char :: rest)) with
      | none =>
        rw [standing] at name
        exact nomatch name
      | some n =>
        rw [standing, Option.mapM_some] at name
        obtain ⟨m', read, -⟩ := map_eq_ok name
        have begins := prefix_of_standsAt (List.find?_some standing)
        have head := head?_eq_of_prefix (readAs_of_readName read).1 begins
        exact absurd head (noName n (List.mem_of_find?_eq_some standing))

theorem IsFoundIn.eq_operator (found : IsFoundIn (longestFirst names) line token)
    (operator : (line.drop token.start).head? = some j.char)
    (noName : ∀ n ∈ names, n.text.head? ≠ some j.char) :
    token = ⟨.operator j.operation, token.start, token.start + 1⟩ := by
  obtain ⟨begun, c, rest, length, here, matched, stop⟩ := found
  obtain rfl : c = j.char := by
    rw [here] at operator
    exact Option.some.inj operator
  obtain ⟨lexeme, rfl⟩ :=
    Prod.mk.inj (operator_of_next (fun n mem => noName n (mem_longestFirst.1 mem)) matched)
  rw [← lexeme, ← stop]

/-- Where a token ends before an operator with a known name behind it, the operator and the longest
such name are the next tokens. -/
theorem exists_name_behind_operator (cover : Cover start line.length tokens)
    (found : ∀ token ∈ tokens, IsFoundIn (longestFirst names) line token) (mem : token ∈ tokens)
    (operator : (line.drop token.stop).head? = some j.char)
    (noName : ∀ n ∈ names, n.text.head? ≠ some j.char)
    (known : n ∈ names) (ink : n.BeginsWithInk) (stands : n.StandsIn line (token.stop + 1)) :
    ⟨.operator j.operation, token.stop, token.stop + 1⟩ ∈ tokens
      ∧ ∃ name ∈ tokens, name.start = token.stop + 1
        ∧ ∃ k : KnownName, k.IsLongest names line name.start ∧ k.ReadAs name.lexeme
          ∧ name.stop = name.start + k.text.length := by
  obtain ⟨sign, sign_mem, adjacent⟩ := cover.exists_next mem (lt_length_of_head?_drop operator)
  have isSign := (found sign sign_mem).eq_operator (adjacent.symm ▸ operator) noName
  rw [adjacent] at isSign
  subst isSign
  refine ⟨sign_mem, ?_⟩
  obtain ⟨d, begins, -⟩ := id ink
  have goes : (line.drop (token.stop + 1)).head? = some d := by
    obtain ⟨after, whole⟩ := stands.begins
    rw [← whole, List.head?_append, begins, Option.some_or]
  obtain ⟨name, name_mem, adjacent⟩ := cover.exists_next sign_mem (lt_length_of_head?_drop goes)
  exact ⟨name, name_mem, adjacent, (found name name_mem).isLongest known ink (adjacent ▸ stands)⟩

/-- The characters of a unit are a chain of terms. A known name is not the first of them, and it is
another only with an exponent. Where the unit ends before an operator with a known name behind it,
the operator and the longest such name are read. -/
theorem unit_of_scan (scanned : scan line names = .ok tokens) (mem : token ∈ tokens)
    (unit : token.lexeme = .unit u) :
    (∃ chain : Chain, chain.Spells (token.spelling line))
      ∧ (∀ chain : Chain, chain.Spells (token.spelling line) → chain.Avoids names)
      ∧ ∀ j : Joint, (line.drop token.stop).head? = some j.char →
        (∀ n ∈ names, n.text.head? ≠ some j.char) →
        ∀ n ∈ names, n.BeginsWithInk → n.StandsIn line (token.stop + 1) →
          ⟨.operator j.operation, token.stop, token.stop + 1⟩ ∈ tokens
            ∧ ∃ name ∈ tokens, name.start = token.stop + 1
              ∧ ∃ k : KnownName, k.IsLongest names line name.start ∧ k.ReadAs name.lexeme
                ∧ name.stop = name.start + k.text.length := by
  obtain ⟨start, behind, mem, sub, cover, found⟩ := exists_behind_of_unit scanned mem unit
  obtain ⟨chain, spells, avoids⟩ := (found token mem).exists_chain unit
  refine ⟨⟨chain, spells⟩, fun other h => h.unique spells ▸ avoids, ?_⟩
  intro j operator noName n known ink stands
  obtain ⟨sign, name, name_mem, read⟩ :=
    exists_name_behind_operator cover found mem operator noName known ink stands
  exact ⟨sub sign, name, sub name_mem, read⟩

/-- A unit ends before a quotient by a known name, and the name is read behind the operator. -/
theorem unit_of_scan_quotient :
    let line : Text := "6 m/b*s^2".toList
    let names : List KnownName := [⟨"b".toList, false⟩]
    let token : Token := ⟨.unit (PhysicalUnit.parse "m".toList).toOption, 2, 3⟩
    ∃ tokens, scan line names = .ok tokens ∧ token ∈ tokens
      ∧ (∀ chain : Chain, chain.Spells (token.spelling line) → chain.Avoids names)
      ∧ ⟨.operator .div, 3, 4⟩ ∈ tokens
      ∧ ∃ name ∈ tokens, name.start = 4 ∧ ∃ k : KnownName, k.IsLongest names line name.start
        ∧ k.ReadAs name.lexeme ∧ name.stop = name.start + k.text.length := by
  intro line names token
  obtain ⟨tokens, scanned, mem⟩ : ∃ tokens, scan line names = .ok tokens ∧ token ∈ tokens := by
    decide +kernel
  obtain ⟨-, avoids, following⟩ := unit_of_scan scanned mem rfl
  have stands : KnownName.StandsIn ⟨"b".toList, false⟩ line 4 := by
    refine ⟨by decide, ?_, ?_⟩
    · rintro _ ⟨⟩ _ ⟨⟩
      decide
    · rintro _ ⟨⟩ _ ⟨⟩
      decide
  exact ⟨tokens, scanned, mem, avoids, following .per rfl (by decide) ⟨"b".toList, false⟩
    List.mem_cons_self ⟨'b', rfl, by decide⟩ stands⟩

/-- A known name with an exponent is no different from other names in a unit. -/
theorem not_forall_names_unknown :
    ¬ ∀ (line : Text) (names : List KnownName) (tokens : List Token) (token : Token)
      (u : Option PhysicalUnit) (chain : Chain), scan line names = .ok tokens → token ∈ tokens →
      token.lexeme = .unit u → chain.Spells (token.spelling line) →
      ∀ x ∈ chain.terms, ∀ n ∈ names, n.text ≠ x.2.name := by
  intro all
  let line : Text := "2 m/s^2".toList
  let names : List KnownName := [⟨"s".toList, false⟩]
  let token : Token := ⟨.unit (PhysicalUnit.parse "m/s^2".toList).toOption, 2, 7⟩
  let chain : Chain := ⟨⟨"m".toList, none⟩, [(.per, ⟨"s".toList, some ⟨false, "2".toList⟩⟩)]⟩
  obtain ⟨tokens, scanned, mem⟩ : ∃ tokens, scan line names = .ok tokens ∧ token ∈ tokens := by
    decide +kernel
  have spells : chain.Spells (token.spelling line) := ⟨by decide, by decide⟩
  exact all line names tokens token _ chain scanned mem rfl spells
    (.per, ⟨"s".toList, some ⟨false, "2".toList⟩⟩) (by decide) ⟨"s".toList, false⟩
    List.mem_cons_self rfl

end Token
end CalcSheet
