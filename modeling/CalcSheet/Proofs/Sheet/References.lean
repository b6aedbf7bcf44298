import CalcSheet.Proofs.Sheet.Consistency
import CalcSheet.Proofs.Sheet.RowNumbers
import CalcSheet.Proofs.Token.References

/-!
# References in a pass and in saved texts

A pass reads a reference where a row above has the identifier and a result; this is the row whose
number is saved. But a saved text has the number of the row for every spelling of the identifier,
while a pass knows only the canonical one.
-/
namespace CalcSheet

theorem isTextLine_take (t : Text) : isTextLine (t.take Pass.maxWidth) = isTextLine t := by
  rcases t with _ | ⟨c, _ | ⟨d, t⟩⟩ <;> rfl

namespace Reference

/-- A reference among the first characters of a text is found there without the others. -/
theorem match?_take {t digits : Text} {n : Nat} (found : match? t = some digits)
    (within : digits.length + 3 ≤ n) : match? (t.take n) = some digits := by
  obtain ⟨nonempty, decimal⟩ := decimal_of_match? found
  rw [eq_written_append found, List.take_append, List.take_of_length_le (by simpa using within)]
  exact match?_written_append nonempty decimal _

end Reference

open Reference

namespace Pass

variable {places : Int} {s next : State} {row : Row} {rows : List Row} {line : LineResult}
  {p : Pass}

/-- The tokens of a calculated row are those of its first characters, where the names of the rows
above are known. -/
theorem Evaluates.scanned (h : Evaluates places s row line next)
    (calculated : isTextLine row.text = false) :
    Token.scan (row.text.take maxWidth) s.environment.knownNames = .ok line.tokens := by
  rw [← isTextLine_take] at calculated
  cases h with
  | textLine kind => exact absurd (kind.symm.trans calculated) (by decide)
  | withoutResult _ evaluated => exact (Line.parts_of_evaluate evaluated).1
  | withResult _ evaluated => exact (Line.parts_of_evaluate evaluated).1

theorem mem_keys_identifiedResults {pairs : List (Row × LineResult)} {id : LineId} :
    id ∈ (identifiedResults pairs).map Prod.fst
      ↔ id ≠ 0 ∧ ∃ x ∈ pairs, x.1.id = id ∧ x.2.result.isSome := by
  constructor
  · intro mem
    obtain ⟨⟨_, v⟩, bound, rfl⟩ := List.mem_map.1 mem
    obtain ⟨x, hx, found⟩ := List.mem_filterMap.1 bound
    obtain ⟨_, result, found⟩ := Option.bind_eq_some_iff.1 found
    split at found
    · exact nomatch found
    · next named =>
      obtain ⟨rfl, -⟩ := Prod.mk.inj (Option.some.inj found)
      exact ⟨named, x, hx, rfl, Option.isSome_of_eq_some result⟩
  · rintro ⟨named, x, hx, rfl, some⟩
    obtain ⟨v, result⟩ := Option.isSome_iff_exists.1 some
    refine List.mem_map.2 ⟨(x.1.id, v), List.mem_filterMap.2 ⟨x, hx, ?_⟩, rfl⟩
    rw [identified?, result, Option.bind_some, if_neg named]

/-- The identifiers that a row can refer to are those of the rows above that have a result. -/
theorem mem_references_iff (h : ofRows places rows = .ok p) {j : Nat}
    (inside : j ≤ (rows.take maxRows).length) (before : stateBefore places rows j = .ok s)
    (id : LineId) :
    id ∈ s.references.map Prod.fst ↔ id ≠ 0 ∧ ∃ i < j, ∃ above, rows[i]? = some above
      ∧ above.id = id ∧ p.hasResult i = true := by
  rw [(bindings_stateBefore h inside before).2, Bindings.keys_ofPairs, List.mem_eraseDups,
    mem_keys_identifiedResults]
  refine and_congr_right fun _ => ⟨?_, ?_⟩
  · rintro ⟨⟨above, line⟩, mem, same, some⟩
    obtain ⟨i, at_i⟩ := List.getElem?_of_mem mem
    rw [List.getElem?_take, Option.ite_none_right_eq_some] at at_i
    obtain ⟨order, both⟩ := at_i
    obtain ⟨at_i, found⟩ := List.getElem?_zip_eq_some.1 both
    exact ⟨i, order, above, at_i, same, by rw [hasResult, found]; exact some⟩
  · rintro ⟨i, order, above, at_i, same, result⟩
    obtain ⟨line, found, some⟩ := (Option.any_eq_true _ _).1 result
    have both : ((rows.zip p.lines).take j)[i]? = .some (above, line) := by
      rw [List.getElem?_take_of_lt order]
      exact List.getElem?_zip_eq_some.2 ⟨at_i, found⟩
    exact ⟨_, List.mem_of_getElem? both, same, some⟩

end Pass

namespace Sheet

variable {s s' : Sheet} {p : Pass} {j n i : Nat}

/-- The `i`-th row is above the `j`-th, was given the identifier `n` and has a result. -/
structure Names (s : Sheet) (p : Pass) (j n i : Nat) : Prop where
  above : i < j
  given : s.IsGiven n i
  result : p.hasResult i = true

/-- The identifiers that a row can refer to are those given to rows above that have a result. -/
theorem mem_references_iff (passed : Pass.ofRows s.places s.rows = .ok p) {state : Pass.State}
    (inside : j ≤ (s.rows.take Pass.maxRows).length)
    (before : Pass.stateBefore s.places s.rows j = .ok state) :
    (n : Int) ∈ state.references.map Prod.fst ↔ ∃ i, s.Names p j n i := by
  rw [Pass.mem_references_iff passed inside before]
  constructor
  · rintro ⟨nonzero, i, order, above, at_i, same, result⟩
    obtain ⟨_, d, -, at_i', rfl⟩ := List.getElem?_zipWith_eq_some.1 at_i
    exact ⟨i, order, ⟨Int.natCast_ne_zero.1 nonzero, d, at_i', same⟩, result⟩
  · rintro ⟨i, order, ⟨nonzero, d, at_i, same⟩, result⟩
    have rows : i < s.rows.length := by
      rw [List.length_take] at inside
      omega
    have at_row := List.getElem?_eq_getElem rows
    obtain ⟨_, e, -, at_i', row⟩ := List.getElem?_zipWith_eq_some.1 at_row
    obtain rfl := Option.some.inj (at_i.symm.trans at_i')
    exact ⟨Int.natCast_ne_zero.2 nonzero, i, order, _, at_row, row ▸ same, result⟩

/-- A pass reads a reference in canonical digits as one to the row above that has the identifier and
a result, which is also the row that is saved. Any other reference is text. -/
theorem token_of_reference (nodup : s.ids.Nodup) (evaluated : s.evaluate = .ok (p, s'))
    {position : Nat} {row : Row} {digits : Text} (at_j : s.rows[j]? = some row)
    (inside : j < Pass.maxRows) (calculated : isTextLine row.text = false)
    (found : match? (row.text.drop position) = some digits)
    (within : position + digits.length + 3 ≤ Pass.maxWidth) :
    ∃ line, p.lines[j]? = some line
      ∧ (∀ i, s.Names p j (Text.naturalOf digits) i →
        s.numberOf (Text.naturalOf digits) = i + 1
          ∧ (Digits.IsCanonical digits → ⟨.operand (.reference (Text.naturalOf digits)), position,
            position + digits.length + 3⟩ ∈ line.tokens))
      ∧ (¬ Digits.IsCanonical digits ∨ (∀ i, ¬ s.Names p j (Text.naturalOf digits) i) →
        ⟨.text (written digits), position, position + digits.length + 3⟩ ∈ line.tokens) := by
  obtain ⟨passed, rfl⟩ := evaluate_eq_ok.1 evaluated
  have bound : j < (s.rows.take Pass.maxRows).length := by
    rw [List.length_take]
    exact Nat.lt_min.2 ⟨inside, (List.getElem?_eq_some_iff.1 at_j).1⟩
  obtain ⟨state, before, named⟩ := Pass.wellNamed_stateBefore passed (Nat.le_of_lt bound)
  obtain ⟨_, line, next, at_j', at_line, evaluates, -⟩ :=
    Pass.evaluates_of_stateBefore passed bound before
  obtain rfl := Option.some.inj (at_j.symm.trans at_j')
  have scanned := evaluates.scanned calculated
  rw [Pass.State.knownNames_environment] at scanned
  -- a row is cut before its references can become too long to be read
  have short : (row.text.take Pass.maxWidth).length ≤ Digits.maxLength :=
    Nat.le_trans (List.length_take_le _ _) (by decide)
  have cut : match? ((row.text.take Pass.maxWidth).drop position) = some digits := by
    rw [List.drop_take]
    exact match?_take found (by omega)
  have token := Token.mem_of_scan named.arePlain named.identified
    ((isTextLine_take row.text).trans calculated) scanned short cut
  have known := mem_references_iff passed (Nat.le_of_lt bound) before (n := Text.naturalOf digits)
  refine ⟨line, at_line, fun i names => ⟨?_, fun canonical => ?_⟩, fun other => ?_⟩
  · exact (savesAs_iff nodup names.given.1).1 (.inl ⟨i, names.given, rfl⟩)
  · rwa [Token.writtenLexeme, if_pos canonical, Token.referenceLexeme,
      if_pos (known.2 ⟨i, names⟩)] at token
  · unfold Token.writtenLexeme at token
    split at token
    · next canonical =>
      have absent := other.resolve_left (not_not.2 canonical)
      rwa [Token.referenceLexeme,
        if_neg fun mem => (known.1 mem).elim fun i names => absent i names] at token
    · exact token

/-- The same identifier, in canonical digits and with a zero in front. -/
theorem token_of_reference_spellings :
    let s : Sheet := ⟨[['5'], ['&', '[', '1', ']', '+', '&', '[', '0', '1', ']']],
      [⟨1, .decimal⟩, ⟨0, .decimal⟩], 2, 4, none⟩
    ∃ p s' line, s.evaluate = .ok (p, s') ∧ p.lines[1]? = some line ∧ s.numberOf 1 = 1
      ∧ ⟨.operand (.reference 1), 0, 4⟩ ∈ line.tokens
      ∧ ⟨.text (written ['0', '1']), 5, 10⟩ ∈ line.tokens := by
  intro s
  obtain ⟨⟨p, s'⟩, evaluated, result⟩ : ∃ r, s.evaluate = .ok r ∧ r.1.hasResult 0 = true := by
    decide +kernel
  have names : s.Names p 1 1 0 := ⟨by decide, ⟨by decide, _, rfl, rfl⟩, result⟩
  let row : Row := ⟨['&', '[', '1', ']', '+', '&', '[', '0', '1', ']'], 0, .decimal⟩
  have at_1 : s.rows[1]? = some row := rfl
  have first : match? (row.text.drop 0) = some ['1'] := by decide
  have second : match? (row.text.drop 5) = some ['0', '1'] := by decide
  obtain ⟨line, at_line, read, -⟩ := token_of_reference (by decide) evaluated at_1 (by decide)
    (by decide) first (by decide)
  obtain ⟨line', at_line', -, other⟩ := token_of_reference (by decide) evaluated at_1 (by decide)
    (by decide) second (by decide)
  obtain rfl := Option.some.inj (at_line.symm.trans at_line')
  obtain ⟨number, token⟩ := read 0 names
  exact ⟨p, s', line, evaluated, at_line, number, token (by decide), other (.inl (by decide))⟩

/-- A pass does not read every reference to a row above that has a result. -/
theorem not_forall_tokens :
    ¬ ∀ (s s' : Sheet) (p : Pass) (j position i : Nat) (row : Row) (digits : Text)
      (line : LineResult), s.ids.Nodup → s.evaluate = .ok (p, s') → s.rows[j]? = some row →
      j < Pass.maxRows → isTextLine row.text = false →
      match? (row.text.drop position) = some digits →
      position + digits.length + 3 ≤ Pass.maxWidth → p.lines[j]? = some line →
      s.Names p j (Text.naturalOf digits) i →
      ⟨.operand (.reference (Text.naturalOf digits)), position, position + digits.length + 3⟩
        ∈ line.tokens := by
  intro always
  let s : Sheet := ⟨[['5'], ['&', '[', '0', '1', ']']], [⟨1, .decimal⟩, ⟨0, .decimal⟩], 2, 4, none⟩
  obtain ⟨⟨p, s'⟩, evaluated, result, tokens⟩ : ∃ r, s.evaluate = .ok r ∧ r.1.hasResult 0 = true
      ∧ r.1.lines[1]?.map (·.tokens) = some [⟨.text (written ['0', '1']), 0, 5⟩] := by
    decide +kernel
  obtain ⟨line, at_line, tokens⟩ := Option.map_eq_some_iff.1 tokens
  have names : s.Names p 1 1 0 := ⟨by decide, ⟨by decide, _, rfl, rfl⟩, result⟩
  have token := always s s' p 1 0 0 _ ['0', '1'] line (by decide) evaluated rfl (by decide)
    (by decide) (by decide) (by decide) at_line names
  rw [tokens] at token
  exact absurd token (by decide)

end Sheet
end CalcSheet
