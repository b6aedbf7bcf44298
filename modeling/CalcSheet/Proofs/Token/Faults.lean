import CalcSheet.Proofs.Token.Rewriting
import CalcSheet.Proofs.Unit.Parsing

/-!
# Where scanning fails

A word that is no unit is text, so a line is scanned whatever stands in it. Only two things are not
foreseen: a unit whose factor overflows or whose exponent is too long to be read, and a reference
that is too long to be read.
-/
namespace CalcSheet
open Reference

variable {t line : Text} {names : List KnownName}

/-- A name that can be looked for: there is something to it, and if it is one of a line, it is the
text of a reference. -/
structure KnownName.IsProper (n : KnownName) : Prop where
  nonempty : n.text ≠ []
  written : n.isReference = true →
    ∃ digits, digits ≠ [] ∧ (∀ c ∈ digits, Text.isDecimal c = true) ∧ n.text = written digits

namespace Token

/-- The characters of a line that a token stands for. -/
def spelling (line : Text) (token : Token) : Text :=
  (line.drop token.start).take (token.stop - token.start)

/-- A text is read as a unit; as none, if it names a scale that does not multiply. -/
def ReadsUnit (t : Text) : Option PhysicalUnit → Prop
  | some u => PhysicalUnit.parse t = .ok u
  | none => ∃ name, PhysicalUnit.parse t = .error (.name .notMultiplicative name)

/-- What a text can be read as. Letters are no more than text, unless they are the name of a
variable, a unit or a conversion. -/
inductive Reads : Text → Lexeme → Prop where
  | text (t : Text) : Reads t (.text t)
  | name (name : Text) : Reads name (.operand (.variable name))
  | reference (digits : Text) :
      Reads (written digits) (.operand (.reference (Text.naturalOf digits)))
  | number {t : Text} (begins : t.head?.any Text.isNameChar = false) (x : Decimal) :
      Reads t (.operand (.number x))
  | unit {t : Text} {u : Option PhysicalUnit} (reads : ReadsUnit t u) : Reads t (.unit u)
  | conversion {gap t : Text} {u : Option PhysicalUnit} (blank : gap.all Text.isBlank = true)
      (some : gap ≠ []) (reads : ReadsUnit t u) :
      Reads ('t' :: 'o' :: gap ++ t) (.conversion u)
  | sign {c : Char} {lexeme : Lexeme} (found : operator? c = some lexeme) : Reads [c] lexeme
  | assign : Reads ['='] .assign

/-- What makes the scanning of a line fail. -/
inductive ScanFault.ComesFrom (names : List KnownName) (line : Text) : ScanFault → Prop where
  | unit {t : Text} {cause : PhysicalUnit.Interruption} (part : t <:+: line)
      (parsed : PhysicalUnit.parse t = .error (.interrupted cause)) (reason : cause.ComesFrom t) :
      ComesFrom names line (.unit cause)
  | longReference {digits : Text} (known : ⟨written digits, true⟩ ∈ names)
      (part : written digits <:+: line) (long : Digits.maxLength < digits.length) :
      ComesFrom names line (.longReference digits.length)

theorem ScanFault.ComesFrom.mono {names' : List KnownName} {fault : ScanFault}
    (h : fault.ComesFrom names t) (all : names ⊆ names') (part : t <:+: line) :
    fault.ComesFrom names' line := by
  cases h with
  | unit inner parsed reason => exact .unit (inner.trans part) parsed reason
  | longReference known inner long => exact .longReference (all known) (inner.trans part) long

variable {previous : Option Char} {begun : Bool} {m : Match} {fault : ScanFault}

/-- A match reads the characters that it takes. -/
def Fits (t : Text) (m : Match) : Prop := 0 < m.2 ∧ Reads (t.take m.2) m.1

theorem fits_takeWhile {p : Char → Bool} (some : t.takeWhile p ≠ []) :
    Fits t (.text (t.takeWhile p), (t.takeWhile p).length) := by
  refine ⟨List.length_pos_of_ne_nil some, ?_⟩
  rw [← List.prefix_iff_eq_take.1 (List.takeWhile_prefix p)]
  exact .text _

theorem fits_prefix {u : Text} {lexeme : Lexeme} (nonempty : u ≠ []) (begins : u <+: t)
    (reads : Reads u lexeme) : Fits t (lexeme, u.length) := by
  refine ⟨List.length_pos_of_ne_nil nonempty, ?_⟩
  rwa [← List.prefix_iff_eq_take.1 begins]

theorem blank?_fits (found : blank? t = some m) : Fits t m := by
  simp only [blank?, List.isEmpty_iff] at found
  split at found
  · simp at found
  · next some =>
    obtain rfl := Option.some.inj found
    exact fits_takeWhile some

theorem word?_fits (found : word? t = some m) : Fits t m := by
  have pos := (word?_takes found).pos
  unfold word? at found
  split at found
  · obtain rfl := Option.some.inj found
    exact fits_takeWhile (List.ne_nil_of_length_pos pos)
  · exact nomatch found

theorem reference?_fits (found : reference? t = some m) : Fits t m := by
  obtain ⟨digits, matched, rfl⟩ := Option.map_eq_some_iff.1 found
  have begins : written digits <+: t := ⟨_, (eq_written_append matched).symm⟩
  rw [← length_written]
  exact fits_prefix (by simp [written]) begins (.text _)

/-! ### Numbers -/

theorem isNameChar_of_isDecimal {c : Char} (h : Text.isDecimal c = true) :
    Text.isNameChar c = false := by
  simp [Text.isNameChar, h]

theorem fits_number {n : Nat} {x : Decimal} (pos : 0 < n)
    (begins : t.head?.any Text.isNameChar = false) :
    Fits t (.operand (.number x), n) := by
  refine ⟨pos, .number ?_ x⟩
  rwa [List.head?_take, if_neg (by omega)]

theorem announced?_fits (found : announced? t = some m) : Fits t m := by
  have pos := (announced?_takes found).pos
  have zero {c : Char} {rest : Text} :
      ('0' :: c :: rest).head?.any Text.isNameChar = false := rfl
  have radix {base : Nat} {p : Char → Bool} {digits : Text} (read : radix? base p digits = some m) :
      ∃ x, m.1 = .operand (.number x) := by
    unfold radix? at read
    dsimp only at read
    split at read
    · exact nomatch read
    · exact ⟨_, congrArg Prod.fst (Option.some.inj read).symm⟩
  obtain ⟨lexeme, n⟩ := m
  fun_cases announced? t with
  | case1 digits =>
    obtain ⟨x, rfl⟩ := radix found
    exact fits_number pos zero
  | case2 digits =>
    obtain ⟨x, rfl⟩ := radix found
    exact fits_number pos zero
  | case3 => simp_all [announced?]

theorem numeral?_fits (found : numeral? t = some m) : Fits t m := by
  have pos := (numeral?_takes found).pos
  have decimal (begins : t.takeWhile Text.isDecimal ≠ []) :
      t.head?.any Text.isNameChar = false := by
    cases t with
    | nil => rfl
    | cons c t =>
      cases digit : Text.isDecimal c with
      | true => simpa using isNameChar_of_isDecimal digit
      | false => simp [digit] at begins
  unfold numeral? at found
  dsimp only at found
  split at found
  · next after behind =>
    split at found
    · exact nomatch found
    · obtain rfl := Option.some.inj found
      refine fits_number pos ?_
      cases digits : t.takeWhile Text.isDecimal with
      | cons c ds => exact decimal (by simp [digits])
      | nil =>
        rw [digits, List.length_nil, List.drop_zero] at behind
        unfold fraction? at behind
        split at behind
        · rfl
        · exact nomatch behind
  · split at found
    · exact nomatch found
    · next some =>
      obtain rfl := Option.some.inj found
      exact fits_number pos (decimal (by simpa using some))

theorem number?_fits (found : number? previous t = some m) : Fits t m := by
  unfold number? at found
  split at found
  · exact nomatch found
  · rcases (Option.orElse_eq_some _ _ _).1 found with found | ⟨-, found⟩
    · exact announced?_fits found
    · exact numeral?_fits found

/-! ### Known names -/

theorem nameAt?_fits (found : nameAt? t names = .ok (some m)) : Fits t m := by
  induction names with
  | nil => simp [nameAt?] at found
  | cons n names ih =>
    unfold nameAt? at found
    split at found
    · next begins =>
      have begins := List.isPrefixOf_iff_prefix.1 begins
      split at found
      · simp at found
      · next last ends =>
        have nonempty : n.text ≠ [] := List.ne_nil_of_mem (List.mem_of_getLast? ends)
        split at found
        · exact ih found
        · split at found
          · split at found
            · simp at found
            · next digits read =>
              split at found
              · simp at found
              · obtain rfl := Option.some.inj (Except.ok.inj found)
                refine fits_prefix nonempty begins ?_
                rw [eq_written_of_digits? read]
                exact .reference digits
          · obtain rfl := Option.some.inj (Except.ok.inj found)
            exact fits_prefix nonempty begins (.name _)
    · exact ih found

theorem comesFrom_of_nameAt? (proper : ∀ n ∈ names, n.IsProper)
    (failed : nameAt? t names = .error fault) : fault.ComesFrom names t := by
  induction names with
  | nil => exact nomatch failed
  | cons n names ih =>
    obtain ⟨here, later⟩ := List.forall_mem_cons.1 proper
    have ih := fun failed => (ih later failed).mono (List.subset_cons_self n names)
      (List.infix_refl t)
    unfold nameAt? at failed
    split at failed
    · next begins =>
      have begins := List.isPrefixOf_iff_prefix.1 begins
      split at failed
      · next empty => exact (here.nonempty (List.getLast?_eq_none_iff.1 empty)).elim
      · split at failed
        · exact ih failed
        · split at failed
          · next kind =>
            obtain ⟨digits, nonempty, decimal, text⟩ := here.written kind
            obtain ⟨_, _⟩ := n
            obtain ⟨rfl, rfl⟩ := And.intro text kind
            rw [digits?_written nonempty decimal] at failed
            dsimp only at failed
            split at failed
            · next long =>
              obtain rfl := Except.error.inj failed
              exact .longReference List.mem_cons_self begins.isInfix long
            · exact nomatch failed
          · exact nomatch failed
    · exact ih failed

/-! ### Units -/

variable {lengths : List Nat} {u : Option PhysicalUnit} {n : Nat}

theorem readsUnit_of_unitOf? (found : unitOf? t lengths = .ok (some (u, n))) :
    ReadsUnit (t.take n) u := by
  induction lengths with
  | nil => exact nomatch found
  | cons k shorter ih =>
    unfold unitOf? at found
    split at found
    · exact ih found
    · split at found
      · next parsed =>
        obtain ⟨rfl, rfl⟩ := Prod.mk.inj (Option.some.inj (Except.ok.inj found))
        exact parsed
      · exact nomatch found
      · next name parsed =>
        obtain ⟨rfl, rfl⟩ := Prod.mk.inj (Option.some.inj (Except.ok.inj found))
        exact ⟨name, parsed⟩
      · exact ih found

theorem comesFrom_of_unitOf? (failed : unitOf? t lengths = .error fault) :
    fault.ComesFrom names t := by
  induction lengths with
  | nil => exact nomatch failed
  | cons k shorter ih =>
    unfold unitOf? at failed
    split at failed
    · exact ih failed
    · split at failed
      · exact nomatch failed
      · next cause parsed =>
        obtain rfl := Except.error.inj failed
        exact .unit (List.take_prefix k t).isInfix parsed (PhysicalUnit.comesFrom_of_parse parsed)
      · exact nomatch failed
      · exact ih failed

theorem unit?_fits (found : unit? names previous t = .ok (some m)) : Fits t m := by
  have pos := (unit?_takes found).pos
  unfold unit? at found
  split at found
  · exact nomatch found
  · obtain ⟨result, at_, found⟩ := bind_eq_ok found
    obtain ⟨⟨u, n⟩, rfl, rfl⟩ := Option.map_eq_some_iff.1 (Except.ok.inj found)
    exact ⟨pos, .unit (readsUnit_of_unitOf? at_)⟩

theorem comesFrom_of_unit? (failed : unit? names previous t = .error fault) :
    fault.ComesFrom names t := by
  unfold unit? at failed
  split at failed
  · exact nomatch failed
  · rcases bind_eq_error failed with failed | ⟨_, -, failed⟩
    · exact comesFrom_of_unitOf? failed
    · exact nomatch failed

theorem conversion?_fits (found : conversion? begun previous t = .ok (some m)) : Fits t m := by
  unfold conversion? at found
  split at found
  · next rest =>
    dsimp only at found
    split at found
    · exact nomatch found
    · next gap =>
      simp only [Bool.or_eq_true, not_or, List.isEmpty_iff] at gap
      obtain ⟨result, at_, found⟩ := bind_eq_ok found
      obtain ⟨⟨u, n⟩, rfl, rfl⟩ := Option.map_eq_some_iff.1 (Except.ok.inj found)
      have whole : ('t' :: 'o' :: rest).take (n + (rest.takeWhile Text.isBlank).length + 2)
          = 't' :: 'o' :: rest.takeWhile Text.isBlank
            ++ (rest.drop (rest.takeWhile Text.isBlank).length).take n := by
        rw [Nat.add_comm n, List.take_succ_cons, List.take_succ_cons, List.take_add,
          ← List.prefix_iff_eq_take.1 (List.takeWhile_prefix Text.isBlank)]
        rfl
      refine ⟨Nat.succ_pos _, ?_⟩
      dsimp only
      rw [whole]
      exact .conversion List.all_takeWhile gap.2 (readsUnit_of_unitOf? at_)
  · exact nomatch found

theorem comesFrom_of_conversion? (failed : conversion? begun previous t = .error fault) :
    fault.ComesFrom names t := by
  unfold conversion? at failed
  split at failed
  · next rest =>
    dsimp only at failed
    split at failed
    · exact nomatch failed
    · rcases bind_eq_error failed with failed | ⟨_, -, failed⟩
      · have part : rest <:+: 't' :: 'o' :: rest := ⟨['t', 'o'], [], by simp⟩
        exact (comesFrom_of_unitOf? failed).mono (List.Subset.refl names)
          ((List.drop_suffix _ rest).isInfix.trans part)
      · exact nomatch failed
  · exact nomatch failed

/-! ### Tokens -/

variable {c : Char} {rest : Text} {fuel position : Nat} {tokens : List Token}

theorem next_fits (matched : next names begun previous c rest = .ok m) : Fits (c :: rest) m := by
  unfold next at matched
  dsimp only at matched
  split at matched
  · next blank =>
    obtain rfl := Except.ok.inj matched
    exact blank?_fits blank
  · obtain ⟨name?, name, matched⟩ := bind_eq_ok matched
    split at matched
    · obtain rfl := Except.ok.inj matched
      unfold knownName? at name
      split at name
      · exact nomatch name
      · exact nameAt?_fits name
    · split at matched
      · next found =>
        obtain rfl := Except.ok.inj matched
        rcases (Option.orElse_eq_some _ _ _).1 found with found | ⟨-, found⟩
        · exact reference?_fits found
        · exact number?_fits found
      · obtain ⟨conversion?, conversion, matched⟩ := bind_eq_ok matched
        split at matched
        · obtain rfl := Except.ok.inj matched
          exact conversion?_fits conversion
        · obtain ⟨unit?, unit, matched⟩ := bind_eq_ok matched
          split at matched
          · obtain rfl := Except.ok.inj matched
            exact unit?_fits unit
          · obtain rfl := Except.ok.inj matched
            cases word : word? (c :: rest) with
            | some m => exact word?_fits word
            | none =>
              refine ⟨Nat.one_pos, ?_⟩
              change Reads [c] ((operator? c).getD (.text [c]))
              cases operator : operator? c with
              | none => exact .text [c]
              | some lexeme => exact .sign operator

theorem comesFrom_of_next (proper : ∀ n ∈ names, n.IsProper)
    (failed : next names begun previous c rest = .error fault) :
    fault.ComesFrom names (c :: rest) := by
  unfold next at failed
  dsimp only at failed
  split at failed
  · exact nomatch failed
  · rcases bind_eq_error failed with failed | ⟨name?, -, failed⟩
    · unfold knownName? at failed
      split at failed
      · exact nomatch failed
      · exact comesFrom_of_nameAt? proper failed
    · split at failed
      · exact nomatch failed
      · split at failed
        · exact nomatch failed
        · rcases bind_eq_error failed with failed | ⟨conversion?, -, failed⟩
          · exact comesFrom_of_conversion? failed
          · split at failed
            · exact nomatch failed
            · rcases bind_eq_error failed with failed | ⟨unit?, -, failed⟩
              · exact comesFrom_of_unit? failed
              · split at failed
                · exact nomatch failed
                · exact nomatch failed

theorem scanFrom_reads
    (scanned : scanFrom names fuel begun previous position (line.drop position) = .ok tokens) :
    ∀ token ∈ tokens, Reads (token.spelling line) token.lexeme := by
  induction fuel generalizing begun previous position tokens with
  | zero =>
    obtain rfl : [] = tokens := Except.ok.inj scanned
    exact fun _ none => nomatch none
  | succ fuel ih =>
    cases whole : line.drop position with
    | nil =>
      rw [whole] at scanned
      obtain rfl : [] = tokens := Except.ok.inj scanned
      exact fun _ none => nomatch none
    | cons c rest =>
      rw [whole, scanFrom_cons] at scanned
      obtain ⟨m, matched, scanned⟩ := bind_eq_ok scanned
      rw [← whole, List.drop_drop] at scanned
      obtain ⟨others, scannedRest, rfl⟩ := map_eq_ok scanned
      refine List.forall_mem_cons.2 ⟨?_, ih scannedRest⟩
      have fits := (next_fits matched).2
      rwa [spelling, Nat.add_sub_cancel_left, whole]

/-- The tokens of the rest of a line make up the rest. -/
theorem flatMap_spelling_scanFrom (enough : line.length ≤ position + fuel)
    (scanned : scanFrom names fuel begun previous position (line.drop position) = .ok tokens) :
    tokens.flatMap (spelling line) = line.drop position := by
  induction fuel generalizing begun previous position tokens with
  | zero =>
    obtain rfl : [] = tokens := Except.ok.inj scanned
    exact (List.drop_eq_nil_iff.2 enough).symm
  | succ fuel ih =>
    cases whole : line.drop position with
    | nil =>
      rw [whole] at scanned
      obtain rfl : [] = tokens := Except.ok.inj scanned
      rfl
    | cons c rest =>
      rw [whole, scanFrom_cons] at scanned
      obtain ⟨m, matched, scanned⟩ := bind_eq_ok scanned
      have pos := (next_fits matched).1
      rw [← whole, List.drop_drop] at scanned
      obtain ⟨others, scannedRest, rfl⟩ := map_eq_ok scanned
      rw [List.flatMap_cons, ih (by omega) scannedRest, spelling, Nat.add_sub_cancel_left,
        ← List.drop_drop, List.take_append_drop, whole]

theorem comesFrom_of_scanFrom (proper : ∀ n ∈ names, n.IsProper)
    (failed : scanFrom names fuel begun previous position t = .error fault) :
    fault.ComesFrom names t := by
  induction fuel generalizing begun previous position t with
  | zero => exact nomatch failed
  | succ fuel ih =>
    cases t with
    | nil => exact nomatch failed
    | cons c rest =>
      rw [scanFrom_cons] at failed
      rcases bind_eq_error failed with failed | ⟨m, -, failed⟩
      · exact comesFrom_of_next proper failed
      · exact (ih (map_eq_error failed)).mono (List.Subset.refl names)
          (List.drop_suffix _ _).isInfix

/-! ### Lines -/

theorem eq_append_of_parse? {a : Assignment} (parsed : Assignment.parse? line = some a) :
    ∃ rest, line = a.lead ++ (a.name ++ (a.gap ++ '=' :: rest)) := by
  have split {u t : Text} (begins : u <+: t) : t = u ++ t.drop u.length :=
    (List.prefix_iff_eq_append.1 begins).symm
  unfold Assignment.parse? at parsed
  dsimp only at parsed
  split at parsed
  · split at parsed
    · next equals =>
      obtain rfl := Option.some.inj parsed
      have lead := split (List.takeWhile_prefix Text.isBlank (l := line))
      generalize line.drop (line.takeWhile Text.isBlank).length = u at lead equals ⊢
      have name := split (u := Assignment.trimSpaces (u.takeWhile Assignment.inName)) (t := u)
        ((List.rdropWhile_prefix _ _).trans (List.takeWhile_prefix _))
      rw [← List.drop_drop] at equals
      generalize u.drop (Assignment.trimSpaces (u.takeWhile Assignment.inName)).length = v
        at name equals ⊢
      have gap := split (List.takeWhile_prefix Text.isBlank (l := v))
      generalize v.drop (v.takeWhile Text.isBlank).length = w at gap equals
      unfold Assignment.beginsWithEquals at equals
      split at equals
      · exact nomatch equals
      · next rest _ => exact ⟨rest, by rw [← gap, ← name, ← lead]⟩
      · exact nomatch equals
    · exact nomatch parsed
  · exact nomatch parsed

theorem spelling_append (before u after : Text) (lexeme : Lexeme) :
    spelling (before ++ (u ++ after)) ⟨lexeme, before.length, before.length + u.length⟩ = u := by
  simp [spelling]

/-- The tokens of an assignment make up the line to its equals sign. -/
theorem tokens_assignment {a : Assignment} (parsed : Assignment.parse? line = some a) :
    a.tokens.flatMap (spelling line) = line.take a.length
      ∧ ∀ token ∈ a.tokens, Reads (token.spelling line) token.lexeme := by
  obtain ⟨rest, rfl⟩ := eq_append_of_parse? parsed
  have lead : spelling (a.lead ++ (a.name ++ (a.gap ++ '=' :: rest)))
      ⟨.text a.lead, 0, a.lead.length⟩ = a.lead := by
    simp [spelling]
  have name := spelling_append a.lead a.name (a.gap ++ '=' :: rest) (.operand (.variable a.name))
  have gap := spelling_append (a.lead ++ a.name) a.gap ('=' :: rest) (.text a.gap)
  have equals := spelling_append (a.lead ++ a.name ++ a.gap) ['='] rest .assign
  simp only [List.append_assoc, List.length_append, List.cons_append, List.nil_append,
    List.length_singleton, ← Nat.add_assoc] at gap equals
  constructor
  · have whole : a.lead ++ (a.name ++ (a.gap ++ '=' :: rest))
        = (a.lead ++ (a.name ++ (a.gap ++ ['=']))) ++ rest := by
      simp
    have length : (a.lead ++ (a.name ++ (a.gap ++ ['=']))).length = a.length := by
      simp [Assignment.length, Nat.add_assoc]
    rw [← length, whole, List.take_left, ← whole]
    have optional {u : Text} {token : Token} {line : Text} (spelled : spelling line token = u) :
        (if u.isEmpty = true then [] else [token]).flatMap (spelling line) = u := by
      split
      · next empty => exact (List.isEmpty_iff.1 empty).symm
      · rw [List.flatMap_singleton, spelled]
    simp only [Assignment.tokens, List.flatMap_append, List.flatMap_singleton, optional lead, name,
      optional gap, equals, List.append_assoc]
  · intro token mem
    simp only [Assignment.tokens, List.mem_append, List.mem_singleton] at mem
    rcases mem with ((mem | rfl) | mem) | rfl
    · split at mem
      · exact nomatch mem
      · obtain rfl := List.mem_singleton.1 mem
        rw [lead]
        exact .text _
    · rw [name]
      exact .name _
    · split at mem
      · exact nomatch mem
      · obtain rfl := List.mem_singleton.1 mem
        rw [gap]
        exact .text _
    · rw [equals]
      exact .assign

/-- The tokens of a line make it up and read it. -/
theorem reads_of_scan (scanned : scan line names = .ok tokens) :
    tokens.flatMap (spelling line) = line
      ∧ ∀ token ∈ tokens, Reads (token.spelling line) token.lexeme := by
  unfold scan at scanned
  split at scanned
  · obtain rfl := Except.ok.inj scanned
    have whole : spelling line ⟨.text line, 0, line.length⟩ = line := by simp [spelling]
    refine ⟨by rw [List.flatMap_singleton, whole], fun token mem => ?_⟩
    obtain rfl := List.mem_singleton.1 mem
    rw [whole]
    exact .text line
  · dsimp only at scanned
    split at scanned
    · exact ⟨flatMap_spelling_scanFrom (by omega) scanned, scanFrom_reads scanned⟩
    · next a parsed =>
      obtain ⟨others, scannedRest, done⟩ := bind_eq_ok scanned
      obtain rfl := Except.ok.inj done
      obtain ⟨spelled, reads⟩ := tokens_assignment parsed
      constructor
      · rw [List.flatMap_append, spelled, flatMap_spelling_scanFrom (by omega) scannedRest,
          List.take_append_drop]
      · intro token mem
        rcases List.mem_append.1 mem with mem | mem
        · exact reads token mem
        · exact scanFrom_reads scannedRest token mem

theorem comesFrom_of_scan (proper : ∀ n ∈ names, n.IsProper)
    (failed : scan line names = .error fault) : fault.ComesFrom names line := by
  have sorted : longestFirst names ⊆ names := fun _ mem => mem_longestFirst.1 mem
  have proper : ∀ n ∈ longestFirst names, n.IsProper := fun n mem => proper n (sorted mem)
  unfold scan at failed
  split at failed
  · exact nomatch failed
  · dsimp only at failed
    split at failed
    · exact (comesFrom_of_scanFrom proper failed).mono sorted (List.infix_refl line)
    · rcases bind_eq_error failed with failed | ⟨_, -, failed⟩
      · exact (comesFrom_of_scanFrom proper failed).mono sorted (List.drop_suffix _ line).isInfix
      · exact nomatch failed

/-- A line is scanned into tokens that make it up and read it, or else there is a unit in it whose
factor overflows or whose exponent is too long, or a known reference that is too long. -/
theorem scan_reads_or_comesFrom (line : Text) (proper : ∀ n ∈ names, n.IsProper) :
    (∃ tokens, scan line names = .ok tokens ∧ tokens.flatMap (spelling line) = line
      ∧ ∀ token ∈ tokens, Reads (token.spelling line) token.lexeme)
    ∨ ∃ fault, scan line names = .error fault ∧ fault.ComesFrom names line := by
  cases scanned : scan line names with
  | ok tokens =>
    obtain ⟨spelled, reads⟩ := reads_of_scan scanned
    exact .inl ⟨tokens, rfl, spelled, reads⟩
  | error fault => exact .inr ⟨fault, rfl, comesFrom_of_scan proper scanned⟩

/-- Next to a known reference, `km/bar` is a unit and a word. -/
theorem scan_reads_reference :
    let line := ['k', 'm', '/', 'b', 'a', 'r', '&', '[', '1', ']']
    let names : List KnownName := [⟨written ['1'], true⟩]
    (∀ n ∈ names, n.IsProper) ∧ ∃ tokens, scan line names = .ok tokens
      ∧ tokens.flatMap (spelling line) = line
      ∧ ∀ token ∈ tokens, Reads (token.spelling line) token.lexeme := by
  intro line names
  have proper : ∀ n ∈ names, n.IsProper := by
    intro n mem
    obtain rfl := List.mem_singleton.1 mem
    exact ⟨by decide, fun _ => ⟨['1'], by decide, List.forall_mem_singleton.2 rfl, rfl⟩⟩
  have succeeds : (scan line names).toBool = true := by decide +kernel
  refine ⟨proper, ?_⟩
  rcases scan_reads_or_comesFrom line proper with tokens | ⟨fault, failed, -⟩
  · exact tokens
  · rw [failed] at succeeds
    exact nomatch succeeds

/-- Not every line is scanned: the factor of a unit may overflow. -/
theorem not_forall_scans :
    ¬ ∀ (line : Text) (names : List KnownName), (∀ n ∈ names, n.IsProper) →
      ∃ tokens, scan line names = .ok tokens := by
  intro always
  obtain ⟨tokens, scanned⟩ := always ['k', 'm', '^', '1', '0', '0', '0', '0', '0', '0'] [] nofun
  have fails : (scan ['k', 'm', '^', '1', '0', '0', '0', '0', '0', '0'] []).toBool = false := by
    decide +kernel
  rw [scanned] at fails
  exact nomatch fails

end Token
end CalcSheet
