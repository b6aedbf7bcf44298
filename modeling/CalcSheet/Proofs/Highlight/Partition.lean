import CalcSheet.Highlight.Ranges
import CalcSheet.Proofs.Sheet.References
import CalcSheet.Proofs.Sheet.Runs
import CalcSheet.Proofs.Token.LongestName

/-!
# Which characters are highlighted

The highlighted ranges are apart from each other and never leave a line. A line that is not
calculated is one range; of a calculated line each token has its own, unless it is white space.
-/
namespace CalcSheet

/-- Brackets of both kinds. -/
def Lexeme.isBracket : Lexeme → Bool
  | .opening _ | .closing _ => true
  | _ => false

theorem Lexeme.isBracket_eq_false {lexeme : Lexeme}
    (other : ∀ b, lexeme ≠ .opening b ∧ lexeme ≠ .closing b) : lexeme.isBracket = false := by
  cases lexeme with
  | opening b => exact absurd rfl (other b).1
  | closing b => exact absurd rfl (other b).2
  | _ => rfl

/-- The first character of a token and the number of its characters, in a line that begins at an
offset. -/
def Token.spanFrom (start : Int) (t : Token) : Int × Int :=
  (start + t.start, (t.stop : Int) - t.start)

/-- Where a line of a text begins: behind the lines before it with their line breaks. -/
def Text.offset (lines : List Text) (k : Nat) : Nat := ((lines.take k).map (·.length + 1)).sum

namespace Text

variable {lines : List Text} {line : Text} {k : Nat}

theorem offset_add_one (found : lines[k]? = some line) :
    offset lines (k + 1) = offset lines k + line.length + 1 := by
  simp [offset, List.take_add_one, found, Nat.add_assoc]

theorem offset_mono (lines : List Text) : Monotone (offset lines) := by
  refine monotone_nat_of_le_succ fun k => ?_
  rw [offset, offset, List.take_add_one, List.map_append, List.sum_append]
  exact Nat.le_add_right _ _

/-- A line stands in the text at its offset. -/
theorem prefix_drop_offset (found : lines[k]? = some line) :
    line <+: (unlines lines).drop (offset lines k) := by
  induction lines generalizing k with
  | nil => exact nomatch found
  | cons first others ih =>
    cases k with
    | zero =>
      obtain rfl := Option.some.inj found
      cases others with
      | nil => exact List.prefix_refl _
      | cons second others => exact List.prefix_append _ _
    | succ k =>
      have later : others[k]? = some line := by simpa using found
      cases others with
      | nil => exact nomatch later
      | cons second others =>
        have behind : offset (first :: second :: others) (k + 1)
            = (first ++ ['\n']).length + offset (second :: others) k := by
          simp [offset]
        have whole : unlines (first :: second :: others)
            = (first ++ ['\n']) ++ unlines (second :: others) := by
          simp [unlines]
        rw [behind, whole, ← List.drop_drop, List.drop_left]
        exact ih later

end Text

namespace Token

variable {tokens : List Token} {token : Token} {start stop : Nat} {line : Text}
  {names : List KnownName}

theorem Cover.within (h : Cover start stop tokens) (mem : token ∈ tokens) :
    start ≤ token.start ∧ token.start < token.stop ∧ token.stop ≤ stop := by
  induction tokens generalizing start with
  | nil => exact nomatch mem
  | cons first others ih =>
    obtain ⟨rfl, some, later⟩ := h
    rcases List.mem_cons.1 mem with rfl | mem
    · exact ⟨Nat.le_refl _, some, later.le⟩
    · obtain ⟨after, some', within⟩ := ih later mem
      exact ⟨Nat.le_trans (Nat.le_of_lt some) after, some', within⟩

theorem Cover.pairwise (h : Cover start stop tokens) :
    tokens.Pairwise fun a b => a.stop ≤ b.start := by
  induction tokens generalizing start with
  | nil => exact .nil
  | cons first others ih =>
    obtain ⟨-, -, later⟩ := h
    exact .cons (fun token mem => (later.within mem).1) (ih later)

/-- The tokens of a calculated line cover it. -/
theorem cover_of_scan (calculated : isTextLine line = false)
    (scanned : scan line names = .ok tokens) : Cover 0 line.length tokens := by
  obtain ⟨start, before, behind, rfl, first, second, -, -⟩ :=
    exists_behind_of_scan calculated scanned
  exact first.append second

/-- A bracket takes one character of a line. -/
theorem stop_of_isBracket (cover : Cover 0 line.length tokens)
    (scanned : scan line names = .ok tokens) (mem : token ∈ tokens)
    (bracket : token.lexeme.isBracket = true) : token.stop = token.start + 1 := by
  obtain ⟨-, some, inside⟩ := cover.within mem
  have reads := (reads_of_scan scanned).2 token mem
  have length : (token.spelling line).length = token.stop - token.start := by
    rw [spelling, List.length_take, List.length_drop]
    omega
  have one : (token.spelling line).length = 1 := by
    generalize token.spelling line = u at reads ⊢
    cases kind : token.lexeme with
    | opening b => rw [kind] at reads; cases reads; rfl
    | closing b => rw [kind] at reads; cases reads; rfl
    | _ => simp [kind, Lexeme.isBracket] at bracket
  omega

end Token

namespace Highlight

def Range.span (r : Range) : Int × Int := (r.start, r.length)

/-- Two spans have no character in common. -/
def Apart (a b : Int × Int) : Prop := a.1 + a.2 ≤ b.1 ∨ b.1 + b.2 ≤ a.1

/-- A span has a character, and all of its characters are between two positions. -/
def Between (start stop : Int) (a : Int × Int) : Prop := 0 < a.2 ∧ start ≤ a.1 ∧ a.1 + a.2 ≤ stop

variable {colors colors' : Colors} {start stop : Int} {tokens : List Token} {names : List KnownName}
  {line : Text}

/-! ### Ranges of a line -/

theorem span_tokenRanges (start : Int) (colors : Colors) (tokens : List Token) :
    (tokenRanges start colors tokens).1.map Range.span
      = (tokens.filter fun t => !t.lexeme.isBracket && !t.lexeme.isBlank).map
        (Token.spanFrom start) := by
  induction tokens generalizing colors with
  | nil => rfl
  | cons t rest ih =>
    obtain ⟨lexeme, first, last⟩ := t
    cases lexeme with
    | text t =>
      cases blank : (Lexeme.text t).isBlank <;>
        simp [tokenRanges, styleOf?, blank, Lexeme.isBracket, ih, styled, Range.span,
          Token.spanFrom]
    | operand o =>
      cases o <;>
        simp [tokenRanges, styleOf?, Lexeme.isBlank, Lexeme.isBracket, ih, styled, Range.span,
          Token.spanFrom]
    | _ =>
      simp [tokenRanges, styleOf?, Lexeme.isBlank, Lexeme.isBracket, ih, styled, Range.span,
        Token.spanFrom]

theorem bracketRanges_cons_other {t : Token}
    (other : ∀ b, t.lexeme ≠ .opening b ∧ t.lexeme ≠ .closing b) (start : Int)
    (unclosed : List (Bracket × Nat)) (rest : List Token) :
    bracketRanges start unclosed (t :: rest) = bracketRanges start unclosed rest := by
  obtain ⟨lexeme, first, last⟩ := t
  cases lexeme with
  | opening b => exact absurd rfl (other b).1
  | closing b => exact absurd rfl (other b).2
  | _ => rfl

/-- Every bracket is settled once, those that are open already included. -/
theorem span_bracketRanges_perm (start : Int) (unclosed : List (Bracket × Nat))
    (tokens : List Token) :
    ((bracketRanges start unclosed tokens).map Range.span).Perm
      (unclosed.map (fun b => (start + b.2, 1))
        ++ (tokens.filter (·.lexeme.isBracket)).map fun t => (start + t.start, 1)) := by
  induction unclosed, tokens using bracketRanges.induct with
  | case1 unclosed =>
    simp [bracketRanges, styled, Range.span, Function.comp_def]
  | case2 unclosed t rest b opens ih =>
    simp only [bracketRanges, opens, Lexeme.isBracket, List.filter_cons, List.map_cons, if_true]
    exact ih.trans List.perm_middle.symm
  | case3 t rest b first outer closes ih =>
    simp only [bracketRanges, closes, Lexeme.isBracket, List.filter_cons, List.map_cons, if_true,
      List.cons_append]
    exact (ih.cons _).trans List.perm_middle.symm |>.cons _
  | case4 t rest b closes b' first outer other ih =>
    simp only [bracketRanges, closes, Lexeme.isBracket, List.filter_cons, List.map_cons, if_true,
      if_neg other]
    exact (ih.cons _).trans List.perm_middle.symm
  | case5 t rest b closes ih =>
    simp only [bracketRanges, closes, Lexeme.isBracket, List.filter_cons, List.map_cons, if_true]
    exact ih.cons _
  | case6 unclosed t rest notOpening notClosing ih =>
    have other (b : Bracket) : t.lexeme ≠ .opening b ∧ t.lexeme ≠ .closing b :=
      ⟨notOpening b, notClosing b⟩
    rwa [bracketRanges_cons_other other,
      List.filter_cons_of_neg (by simp [Lexeme.isBracket_eq_false other])]

/-- Of a line whose brackets are one character wide, the tokens that are not blank are highlighted
once each. -/
theorem span_lineRanges_perm (colors : Colors) (start : Int)
    (narrow : ∀ t ∈ tokens, t.lexeme.isBracket = true → t.stop = t.start + 1) :
    ((lineRanges colors start tokens).1.map Range.span).Perm
      ((tokens.filter (!·.lexeme.isBlank)).map (Token.spanFrom start)) := by
  -- A bracket is never blank, so the two lists of ranges share the tokens that show.
  have shown (t : Token) :
      (t.lexeme.isBracket && !t.lexeme.isBlank) = t.lexeme.isBracket := by
    cases t.lexeme <;> rfl
  have brackets : (tokens.filter (·.lexeme.isBracket)).map (fun t => (start + t.start, 1))
      = ((tokens.filter (!·.lexeme.isBlank)).filter (·.lexeme.isBracket)).map
        (Token.spanFrom start) := by
    simp only [List.filter_filter, shown]
    refine List.map_congr_left fun t mem => ?_
    obtain ⟨mem, bracket⟩ := List.mem_filter.1 mem
    simp [Token.spanFrom, narrow t mem bracket]
  have others : (tokenRanges start colors tokens).1.map Range.span
      = ((tokens.filter (!·.lexeme.isBlank)).filter (!·.lexeme.isBracket)).map
        (Token.spanFrom start) := by
    rw [span_tokenRanges, List.filter_filter]
  have settled := span_bracketRanges_perm start [] tokens
  rw [List.map_nil, List.nil_append, brackets] at settled
  rw [lineRanges, List.map_append, others]
  refine (settled.append_left _).trans ?_
  rw [← List.map_append]
  refine List.Perm.map _ (List.perm_append_comm.trans ?_)
  exact List.filter_append_perm _ _

/-- The spans of some of the tokens that cover a line are in the line and apart. -/
theorem between_of_cover {width : Nat} (cover : Token.Cover 0 width tokens) (start : Int)
    (p : Token → Bool) :
    (∀ a ∈ (tokens.filter p).map (Token.spanFrom start), Between start (start + width) a)
      ∧ ((tokens.filter p).map (Token.spanFrom start)).Pairwise Apart := by
  constructor
  · intro a mem
    obtain ⟨token, shown, rfl⟩ := List.mem_map.1 mem
    obtain ⟨-, some, inside⟩ := cover.within (List.mem_of_mem_filter shown)
    refine ⟨?_, ?_, ?_⟩ <;> dsimp only [Token.spanFrom] <;> omega
  · rw [List.pairwise_map]
    refine (cover.pairwise.filter p).imp fun {a b} order => .inl ?_
    dsimp only [Token.spanFrom]
    omega

/-! ### Ranges of the rows -/

/-- The ranges of a row: the whole line as a comment, or one range for each token of its first
characters that is not blank, or nothing in the rows that are not evaluated. -/
inductive OfRow (s : Sheet) (k : Nat) (line : Text) (start : Int) : List Range → Prop
  | textLine (kind : isTextLine line = true) :
      OfRow s k line start [styled .comment start line.length]
  | calculated {before : Pass.State} {tokens : List Token} {ranges : List Range}
      (kind : isTextLine line = false) (evaluated : k < Pass.maxRows)
      (reached : Pass.stateBefore s.places s.rows k = .ok before)
      (scanned : Token.scan (line.take Pass.maxWidth) before.environment.knownNames = .ok tokens)
      (spans : (ranges.map Range.span).Perm
        ((tokens.filter (!·.lexeme.isBlank)).map (Token.spanFrom start))) :
      OfRow s k line start ranges
  | beyond (kind : isTextLine line = false) (late : Pass.maxRows ≤ k) : OfRow s k line start []

variable {s : Sheet} {k : Nat} {ranges : List Range} {t : Text}

theorem length_pos_of_isTextLine (kind : isTextLine line = true) : 0 < line.length := by
  cases line with
  | nil => exact nomatch kind
  | cons c line => exact Nat.succ_pos _

/-- The ranges of a row are in its line and apart. -/
theorem OfRow.between (h : OfRow s k line start ranges) :
    (∀ r ∈ ranges, Between start (start + line.length) r.span)
      ∧ (ranges.map Range.span).Pairwise Apart := by
  cases h with
  | textLine kind =>
    have some := length_pos_of_isTextLine kind
    refine ⟨fun r mem => ?_, List.pairwise_singleton _ _⟩
    obtain rfl := List.mem_singleton.1 mem
    exact ⟨Int.natCast_pos.2 some, Int.le_refl _, Int.le_refl _⟩
  | calculated kind evaluated reached scanned spans =>
    rw [← isTextLine_take] at kind
    obtain ⟨inside, apart⟩ := between_of_cover (Token.cover_of_scan kind scanned) start
      (!·.lexeme.isBlank)
    constructor
    · intro r mem
      obtain ⟨some, begins, ends⟩ := inside _ (spans.subset (List.mem_map_of_mem mem))
      have width := List.length_take_le' Pass.maxWidth line
      exact ⟨some, begins, by omega⟩
    · exact (spans.pairwise_iff fun {a b} => Or.symm).2 apart
  | beyond => exact ⟨List.forall_mem_nil _, .nil⟩

/-- The ranges of rows are those of one row after the other. -/
theorem exists_parts (colors : Colors) (start : Int) (rows : List (Text × List Token)) :
    ∃ parts : List (List Range), (rowRanges colors start rows).1 = parts.flatten
      ∧ parts.length = rows.length
      ∧ ∀ k line tokens, rows[k]? = some (line, tokens) → ∃ colors',
        let first := start + Text.offset (rows.map Prod.fst) k
        parts[k]? = some (if isTextLine line then [styled .comment first line.length]
          else (lineRanges colors' first tokens).1) := by
  induction rows generalizing colors start with
  | nil => exact ⟨[], rfl, rfl, nofun⟩
  | cons row rows ih =>
    obtain ⟨line, tokens⟩ := row
    let here : List Range × Colors :=
      if isTextLine line then ([styled .comment start line.length], colors)
      else lineRanges colors start tokens
    obtain ⟨parts, later, length, each⟩ := ih here.2 (start + line.length + 1)
    refine ⟨here.1 :: parts, ?_, by rw [List.length_cons, List.length_cons, length], ?_⟩
    · rw [List.flatten_cons, ← later]
      rfl
    · intro k line' tokens' found
      cases k with
      | zero =>
        obtain ⟨rfl, rfl⟩ := Prod.mk.inj (Option.some.inj found)
        refine ⟨colors, ?_⟩
        simp only [Text.offset, List.take_zero, List.map_nil, List.sum_nil, Nat.cast_zero,
          Int.add_zero, List.getElem?_cons_zero, here]
        split <;> rfl
      | succ k =>
        obtain ⟨colors', found⟩ := each k line' tokens' (by simpa using found)
        refine ⟨colors', ?_⟩
        have behind : start + (Text.offset (((line, tokens) :: rows).map Prod.fst) (k + 1) : Nat)
            = start + line.length + 1 + (Text.offset (rows.map Prod.fst) k : Nat) := by
          simp only [Text.offset, List.map_cons, List.take_succ_cons, List.sum_cons]
          omega
        dsimp only at found ⊢
        rwa [behind, List.getElem?_cons_succ]

/-- The ranges that a row gets from its tokens in a pass. -/
theorem ofRow_of_pass {p : Pass} {result : LineResult}
    (passed : Pass.ofRows s.places s.rows = .ok p) (paired : s.Paired) (at_k : s.texts[k]? = some line) (found : p.lines[k]? = some result)
    (colors : Colors) (start : Int) :
    OfRow s k line start (if isTextLine line then [styled .comment start line.length]
      else (lineRanges colors start result.tokens).1) := by
  cases kind : isTextLine line with
  | true => exact .textLine kind
  | false =>
    rw [if_neg Bool.false_ne_true]
    obtain ⟨d, at_d⟩ : ∃ d, s.data[k]? = some d := by
      have inside := (List.getElem?_eq_some_iff.1 at_k).1
      exact ⟨_, List.getElem?_eq_getElem (Nat.lt_of_lt_of_eq inside paired.symm)⟩
    have at_row : s.rows[k]? = some ⟨line, d.id, d.base⟩ := by
      simp [Sheet.rows, List.getElem?_zipWith, at_k, at_d]
    by_cases early : k < Pass.maxRows
    · have inside : k < (s.rows.take Pass.maxRows).length := by
        rw [List.length_take]
        exact Nat.lt_min.2 ⟨early, (List.getElem?_eq_some_iff.1 at_row).1⟩
      obtain ⟨before, reached⟩ := Pass.exists_stateBefore passed (Nat.le_of_lt inside)
      obtain ⟨row, result', next, at_row', found', evaluated, -⟩ :=
        Pass.evaluates_of_stateBefore passed inside reached
      obtain rfl := Option.some.inj (at_row.symm.trans at_row')
      obtain rfl := Option.some.inj (found.symm.trans found')
      have scanned := evaluated.scanned kind
      have calculated := (isTextLine_take line).trans kind
      have cover := Token.cover_of_scan calculated scanned
      exact .calculated kind early reached scanned (span_lineRanges_perm colors start
        fun token mem bracket => Token.stop_of_isBracket cover scanned mem bracket)
    · -- Rows past the limit have no tokens, so there is nothing to highlight.
      have late := Nat.le_of_not_lt early
      have beyond := (List.length_take_le _ s.rows).trans late
      rw [Pass.getElem?_lines_of_le passed beyond, at_row] at found
      obtain rfl := Option.some.inj found
      exact .beyond kind late

/-- The ranges of an evaluated sheet are those of its rows, each of which begins at its offset. -/
theorem exists_parts_sheetRanges {p : Pass} (passed : Pass.ofRows s.places s.rows = .ok p)
    (paired : s.Paired) (colors : Colors) :
    ∃ parts : List (List Range), (sheetRanges colors s p).1 = parts.flatten
      ∧ parts.length = s.texts.length
      ∧ ∀ k line part, s.texts[k]? = some line → parts[k]? = some part →
        OfRow s k line (Text.offset s.texts k) part := by
  have length : (p.lines.map (·.tokens)).length = s.texts.length := by
    rw [List.length_map, Pass.length_lines passed, Sheet.rows, List.length_zipWith, paired,
      Nat.min_self]
  have firsts : (s.texts.zip (p.lines.map (·.tokens))).map Prod.fst = s.texts :=
    List.map_fst_zip (Nat.le_of_eq length.symm)
  obtain ⟨parts, whole, count, each⟩ := exists_parts colors 0 (s.texts.zip (p.lines.map (·.tokens)))
  refine ⟨parts, whole, ?_, ?_⟩
  · rw [count, List.length_zip, length, Nat.min_self]
  · intro k line part at_k at_part
    obtain ⟨result, found⟩ : ∃ result, p.lines[k]? = some result := by
      have inside := (List.getElem?_eq_some_iff.1 at_k).1
      rw [← length, List.length_map] at inside
      exact ⟨_, List.getElem?_eq_getElem inside⟩
    have zipped : (s.texts.zip (p.lines.map (·.tokens)))[k]? = some (line, result.tokens) := by
      simp [List.getElem?_zip_eq_some, at_k, found]
    obtain ⟨colors', same⟩ := each k line result.tokens zipped
    rw [firsts, Int.zero_add] at same
    obtain rfl := Option.some.inj (same.symm.trans at_part)
    exact ofRow_of_pass passed paired at_k found colors' _

/-! ### Ranges of a document -/

/-- A range shows characters of a text, one at least, and no line break. -/
structure Range.Shows (t : Text) (r : Range) : Prop where
  between : Between 0 t.length r.span
  inLine : ∀ i : Nat, r.start ≤ i → i < r.start + r.length → t[i]? ≠ some '\n'

theorem shows_of_between {first : Nat} {r : Range} (stands : line <+: t.drop first)
    (unbroken : '\n' ∉ line) (h : Between first (first + line.length) r.span) : r.Shows t := by
  have fits := stands.length_le
  rw [List.length_drop] at fits
  obtain ⟨some, begins, ends⟩ := h
  simp only [Range.span] at some begins ends
  refine ⟨⟨some, by simp only [Range.span]; omega, by simp only [Range.span]; omega⟩, ?_⟩
  intro i after before breaks
  obtain ⟨j, rfl⟩ : ∃ j, i = first + j := ⟨i - first, by omega⟩
  obtain ⟨rest, whole⟩ := stands
  rw [← List.getElem?_drop, ← whole, List.getElem?_append_left (by omega)] at breaks
  exact unbroken (List.mem_of_getElem? breaks)

/-- The ranges of the rows of a text show characters of it and are apart. -/
theorem shows_and_apart {parts : List (List Range)} (length : parts.length = t.lines.length)
    (rows : ∀ k line part, t.lines[k]? = some line → parts[k]? = some part →
      OfRow s k line (Text.offset t.lines k) part) :
    (∀ r ∈ parts.flatten, r.Shows t)
      ∧ parts.flatten.Pairwise fun r r' => Apart r.span r'.span := by
  have at_part {k : Nat} (inside : k < parts.length) : ∃ line, t.lines[k]? = some line
      ∧ OfRow s k line (Text.offset t.lines k) parts[k] := by
    have at_k := List.getElem?_eq_getElem (Nat.lt_of_lt_of_eq inside length)
    exact ⟨_, at_k, rows k _ _ at_k (List.getElem?_eq_getElem inside)⟩
  constructor
  · intro r mem
    obtain ⟨part, at_mem, mem⟩ := List.mem_flatten.1 mem
    obtain ⟨k, inside, rfl⟩ := List.getElem_of_mem at_mem
    obtain ⟨line, at_k, ofRow⟩ := at_part inside
    have stands := Text.prefix_drop_offset at_k
    rw [Text.unlines_lines] at stands
    exact shows_of_between stands (Text.newline_not_mem_of_mem_lines (List.mem_of_getElem? at_k))
      (ofRow.between.1 r mem)
  · rw [List.pairwise_flatten]
    constructor
    · intro part mem
      obtain ⟨k, inside, rfl⟩ := List.getElem_of_mem mem
      obtain ⟨line, -, ofRow⟩ := at_part inside
      exact List.pairwise_map.1 ofRow.between.2
    · rw [List.pairwise_iff_getElem]
      intro i j i_inside j_inside order r mem r' mem'
      obtain ⟨line, at_i, above⟩ := at_part i_inside
      obtain ⟨line', -, below⟩ := at_part j_inside
      obtain ⟨-, -, ends⟩ := above.between.1 r mem
      obtain ⟨-, begins, -⟩ := below.between.1 r' mem'
      have next := Text.offset_add_one at_i
      have later := Text.offset_mono t.lines (show i + 1 ≤ j from order)
      exact .inl (by omega)

/-- A text that can be evaluated is highlighted. The ranges show some of its characters each, none
of which ends a line, and are apart from each other. They are those of the rows one after the other,
each of which begins at the offset of its line. -/
theorem highlightText_partition (colors : Colors) {p : Pass} {s' : Sheet}
    (evaluated : (s.setContent t).evaluate = .ok (p, s')) :
    ∃ ranges colors', highlightText colors s t = (.ok (ranges, colors'), s')
      ∧ (∀ r ∈ ranges, r.Shows t)
      ∧ ranges.Pairwise (fun r r' => Apart r.span r'.span)
      ∧ ∃ parts : List (List Range), ranges = parts.flatten ∧ parts.length = t.lines.length
        ∧ ∀ k line part, t.lines[k]? = some line → parts[k]? = some part →
          line <+: t.drop (Text.offset t.lines k)
          ∧ OfRow (s.setContent t) k line (Text.offset t.lines k) part := by
  obtain ⟨passed, kept⟩ := Sheet.evaluate_eq_ok.1 evaluated
  obtain ⟨parts, whole, length, rows⟩ :=
    exists_parts_sheetRanges passed (Sheet.paired_setContent s t) colors
  obtain ⟨shown, apart⟩ := shows_and_apart length rows
  refine ⟨parts.flatten, (sheetRanges colors s' p).2, ?_, shown, apart, parts, rfl, length, ?_⟩
  · have ranges : (sheetRanges colors s' p).1 = parts.flatten := by
      rw [kept, ← whole]
      rfl
    simp only [highlightText, evaluated, ← ranges]
  · intro k line part at_k found
    have stands := Text.prefix_drop_offset at_k
    rw [Text.unlines_lines] at stands
    exact ⟨stands, rows k line part at_k found⟩

/-- An assignment with brackets, a comment, an empty line and a bracket without a partner. -/
theorem highlightText_partition_brackets :
    let t : Text := "x = (2 m)\n' (note\n\n]".toList
    let s := Sheet.ofContent [] 4
    ∃ p s' ranges colors', (s.setContent t).evaluate = .ok (p, s')
      ∧ highlightText [] s t = (.ok (ranges, colors'), s')
      ∧ ranges.map Range.span
        = [(0, 1), (2, 1), (5, 1), (7, 1), (4, 1), (8, 1), (10, 7), (19, 1)]
      ∧ (∀ r ∈ ranges, r.Shows t)
      ∧ ranges.Pairwise (fun r r' => Apart r.span r'.span)
      ∧ ∃ parts : List (List Range), ranges = parts.flatten ∧ parts.length = 4
        ∧ ∀ k line part, t.lines[k]? = some line → parts[k]? = some part →
          line <+: t.drop (Text.offset t.lines k)
          ∧ OfRow (s.setContent t) k line (Text.offset t.lines k) part := by
  intro t s
  obtain ⟨⟨p, s'⟩, evaluated, spans⟩ : ∃ r, (s.setContent t).evaluate = .ok r
      ∧ (sheetRanges [] r.2 r.1).1.map Range.span
        = [(0, 1), (2, 1), (5, 1), (7, 1), (4, 1), (8, 1), (10, 7), (19, 1)] := by decide +kernel
  obtain ⟨ranges, colors', highlighted, partition⟩ := highlightText_partition [] evaluated
  have same : sheetRanges [] s' p = (ranges, colors') := by
    have result := congrArg Prod.fst highlighted
    simp only [highlightText, evaluated] at result
    exact Except.ok.inj result
  rw [same] at spans
  exact ⟨p, s', ranges, colors', evaluated, highlighted, spans, partition⟩

end Highlight
end CalcSheet
