import CalcSheet.Proofs.Unit.Grammar
import CalcSheet.Proofs.Unit.Products
import CalcSheet.Report

/-!
# Which texts are units

A text is a unit just if it is a chain of terms with an operator between each two of them, where
every name is that of a unit, no exponent is zero or too long to be read, and the factor can be
calculated. In any other text the first place that does not fit decides on the fault.
-/
namespace CalcSheet.PhysicalUnit

/-- What joins a term to those in front of it. -/
inductive Joint where
  | times
  | per
  deriving DecidableEq, Repr

namespace Joint

def char : Joint → Char
  | times => '*'
  | per => '/'

/-- The sign that the exponent of the next term gets. -/
def sign : Joint → Int
  | times => 1
  | per => -1

theorem sign_ne_zero (j : Joint) : j.sign ≠ 0 := by cases j <;> decide

theorem char_inj {j j' : Joint} (same : j.char = j'.char) : j = j' := by
  cases j <;> cases j' <;> first | rfl | exact nomatch same

end Joint

/-- Terms with operators between them. -/
structure Chain where
  first : Term
  others : List (Joint × Term)

namespace Chain

/-- The terms with the operators in front of them; the first one is multiplied. -/
def terms (c : Chain) : List (Joint × Term) := (.times, c.first) :: c.others

def text (c : Chain) : Text := c.first.text ++ c.others.flatMap fun (j, t) => j.char :: t.text

/-- The chain with one more term. -/
def concat (c : Chain) (x : Joint × Term) : Chain := ⟨c.first, c.others ++ [x]⟩

theorem text_concat (c : Chain) (j : Joint) (t : Term) :
    (c.concat (j, t)).text = c.text ++ j.char :: t.text := by
  simp [text, concat]

theorem forall_mem_terms {c : Chain} {p : Joint × Term → Prop} :
    (∀ x ∈ c.terms, p x) ↔ p (.times, c.first) ∧ ∀ x ∈ c.others, p x := List.forall_mem_cons

/-- Chains with one text are the same, if their terms are of a kind for which the text tells the
first term. -/
theorem eq_of_text_eq {p : Term → Prop}
    (cut : ∀ c d : Chain, p c.first → p d.first → c.text = d.text → c.first = d.first) {c d : Chain}
    (hc : ∀ x ∈ c.terms, p x.2) (hd : ∀ x ∈ d.terms, p x.2) (same : c.text = d.text) : c = d := by
  obtain ⟨first, others⟩ := c
  obtain ⟨first', others'⟩ := d
  induction others generalizing first first' others' with
  | nil =>
    obtain rfl : first = first' :=
      cut _ _ (hc _ List.mem_cons_self) (hd _ List.mem_cons_self) same
    cases others' with
    | nil => rfl
    | cons x others' => exact nomatch List.append_cancel_left same
  | cons x others ih =>
    obtain rfl : first = first' :=
      cut _ _ (hc _ List.mem_cons_self) (hd _ List.mem_cons_self) same
    replace same := List.append_cancel_left same
    cases others' with
    | nil => exact nomatch same
    | cons x' others' =>
      obtain ⟨j, next⟩ := x
      obtain ⟨j', next'⟩ := x'
      obtain ⟨char, tail⟩ := List.cons.inj same
      obtain rfl := Joint.char_inj char
      have behind := List.forall_mem_cons.1 (forall_mem_terms.1 hc).2
      have behind' := List.forall_mem_cons.1 (forall_mem_terms.1 hd).2
      obtain ⟨rfl, rfl⟩ := Chain.mk.inj
        (ih next (forall_mem_terms.2 behind) next' others' (forall_mem_terms.2 behind') tail)
      rfl

end Chain

namespace Term

/-- The exponent of a term, however many digits it has. -/
def value (t : Term) : Int := (t.exponent?.map (·.value)).getD 1

/-- The exponent has few enough digits to be read. -/
def IsReadable (t : Term) : Prop := ∀ e ∈ t.exponent?, e.digits.length ≤ Digits.maxLength

instance (t : Term) : Decidable t.IsReadable := inferInstanceAs (Decidable (∀ _ ∈ _, _))

theorem exponent_eq_ok {t : Term} (h : t.IsReadable) : t.exponent = .ok t.value := by
  obtain ⟨name, written⟩ := t
  cases written with
  | none => rfl
  | some e => exact if_neg (Nat.not_lt.2 (h e rfl))

theorem exponent_eq_error {t : Term} {e : WrittenExponent} (written : t.exponent? = some e)
    (long : Digits.maxLength < e.digits.length) :
    t.exponent = .error (.longExponent e.digits.length) := by
  rw [exponent, written]
  exact if_pos long

/-- A term stops at an operator. -/
theorem stopsBefore_operator (t : Term) (j : Joint) (rest : Text) :
    t.StopsBefore (j.char :: rest) := by
  cases j with
  | times => exact t.stopsBefore_cons rfl rfl (by decide) rest
  | per => exact t.stopsBefore_cons rfl rfl (by decide) rest

end Term

/-- What a term behind an operator stands for. -/
structure Denotes (x : Joint × Term) (p : Power) : Prop where
  written : x.2.IsWritten
  nonzero : x.2.value ≠ 0
  find : Catalogue.find x.2.name = .ok p.unit
  exponent : p.exponent = x.1.sign * x.2.value

/-- The terms of a chain stand for powers, and their exponents can be read. -/
structure Chain.StandsFor (c : Chain) (ps : List Power) : Prop where
  readable : ∀ y ∈ c.terms, y.2.IsReadable
  denotes : List.Forall₂ Denotes c.terms ps

/-- The text is the chain `c`, which stands for the powers `ps`; their product has the factor
`x`. -/
structure IsReading (t : Text) (c : Chain) (ps : List Power) (x : Scalar) : Prop where
  text : c.text = t
  powers : c.StandsFor ps
  factor : totalFactor ps = .ok x

/-- How far a text can be read: some powers, and what is left behind the operator `j`. -/
inductive Reads (whole : Text) : List Power → Joint → Text → Prop where
  | start : Reads whole [] .times whole
  | step {ps : List Power} {p : Power} {j j' : Joint} {term : Term} {rest : Text} {x : Scalar}
      (before : Reads whole ps j (term.text ++ j'.char :: rest)) (denotes : Denotes (j, term) p)
      (readable : term.IsReadable) (calculated : totalFactor (ps ++ [p]) = .ok x) :
      Reads whole (ps ++ [p]) j' rest

/-- A text can be read to its end. -/
inductive ReadsAll (whole : Text) : List Power → Scalar → Prop where
  | last {ps : List Power} {p : Power} {j : Joint} {term : Term} {x : Scalar}
      (before : Reads whole ps j term.text) (denotes : Denotes (j, term) p)
      (readable : term.IsReadable) (calculated : totalFactor (ps ++ [p]) = .ok x) :
      ReadsAll whole (ps ++ [p]) x

/-- What stands behind the last operator that is read: a term as long as it goes, and the rest. -/
structure Next (whole : Text) (ps : List Power) (j : Joint) (term : Term) (rest : Text) :
    Prop where
  reads : Reads whole ps j (term.text ++ rest)
  written : term.IsWritten
  stops : term.StopsBefore rest

/-- The first term or character of a text that does not fit, with the fault that it is. -/
inductive Offence (whole : Text) : ParseFault → Prop where
  | empty (nothing : whole = []) : Offence whole .empty
  | nameExpected {ps : List Power} {j : Joint} {rest : Text} (something : whole ≠ [])
      (reads : Reads whole ps j rest) (noName : ∀ c ∈ rest.head?, Text.isNameChar c = false) :
      Offence whole (.nameExpected (whole.length - rest.length) whole)
  | longExponent {ps : List Power} {j : Joint} {term : Term} {rest : Text} {e : WrittenExponent}
      (next : Next whole ps j term rest) (exponent : term.exponent? = some e)
      (long : Digits.maxLength < e.digits.length) :
      Offence whole (.interrupted (.longExponent e.digits.length))
  | zeroExponent {ps : List Power} {j : Joint} {term : Term} {rest : Text}
      (next : Next whole ps j term rest) (readable : term.IsReadable) (zero : term.value = 0) :
      Offence whole (.zeroExponent whole)
  | name {ps : List Power} {j : Joint} {term : Term} {rest : Text} {cause : NameFault}
      (next : Next whole ps j term rest) (readable : term.IsReadable) (nonzero : term.value ≠ 0)
      (refused : Catalogue.find term.name = .error cause) : Offence whole (.name cause term.name)
  | signal {ps : List Power} {p : Power} {j : Joint} {term : Term} {rest : Text}
      {s : Decimal.Signal} (next : Next whole ps j term rest) (readable : term.IsReadable)
      (denotes : Denotes (j, term) p) (signalled : totalFactor (ps ++ [p]) = .error s) :
      Offence whole (.interrupted (.signal s))
  | unexpected {ps : List Power} {p : Power} {j : Joint} {term : Term} {c : Char} {rest : Text}
      {x : Scalar} (next : Next whole ps j term (c :: rest)) (readable : term.IsReadable)
      (denotes : Denotes (j, term) p) (calculated : totalFactor (ps ++ [p]) = .ok x)
      (noOperator : ∀ j : Joint, c ≠ j.char) : Offence whole (.unexpected c whole)

variable {whole rest t : Text} {ps : List Power} {p : Power} {j : Joint} {term : Term} {c : Chain}
  {x y : Scalar} {u : PhysicalUnit} {fuel position : Nat} {fault : ParseFault}

theorem Denotes.isProper (h : Denotes (j, term) p) : p.IsProper where
  symbol := Catalogue.symbols_of_find h.find
  nonzero := h.exponent ▸ mul_ne_zero j.sign_ne_zero h.nonzero

theorem isProper_of_denotes {ys : List (Joint × Term)} (h : List.Forall₂ Denotes ys ps) :
    ∀ p ∈ ps, p.IsProper := by
  induction h with
  | nil => exact List.forall_mem_nil _
  | cons here _ ih => exact List.forall_mem_cons.2 ⟨here.isProper, ih⟩

theorem ofTerm_of_denotes (h : Denotes (j, term) p) (readable : term.IsReadable) :
    ofTerm whole j.sign term
      = (p.unit.pow p.exponent).mapError (ParseFault.interrupted ∘ .signal) := by
  rw [ofTerm, Term.exponent_eq_ok readable, h.exponent]
  change (if term.value = 0 then _ else _) = _
  rw [if_neg h.nonzero]
  simp only [h.find]

theorem ofTerm_of_long {sign : Int} {e : WrittenExponent} (written : term.exponent? = some e)
    (long : Digits.maxLength < e.digits.length) :
    ofTerm whole sign term = .error (.interrupted (.longExponent e.digits.length)) := by
  rw [ofTerm, Term.exponent_eq_error written long]
  rfl

theorem ofTerm_of_zero {sign : Int} (readable : term.IsReadable) (zero : term.value = 0) :
    ofTerm whole sign term = .error (.zeroExponent whole) := by
  rw [ofTerm, Term.exponent_eq_ok readable]
  exact if_pos zero

theorem ofTerm_of_refused {sign : Int} {cause : NameFault} (readable : term.IsReadable)
    (nonzero : term.value ≠ 0) (refused : Catalogue.find term.name = .error cause) :
    ofTerm whole sign term = .error (.name cause term.name) := by
  rw [ofTerm, Term.exponent_eq_ok readable]
  change (if term.value = 0 then _ else _) = _
  rw [if_neg nonzero, refused]

/-! ### One term -/

theorem parseFrom_term {product : Option PhysicalUnit} {sign : Int} (written : term.IsWritten)
    (stops : term.StopsBefore rest) :
    parseFrom whole (fuel + 1) product sign position (term.text ++ rest)
      = ofTerm whole sign term >>= fun factor => extend product factor >>= fun product =>
        parseRest whole fuel product (position + term.length + 1) rest := by
  rw [parseFrom_succ (term?_append written stops), ← term.length_text, List.drop_left]

/-- A term that stands for a power is one more factor. -/
theorem parseFrom_denotes (denotes : Denotes (j, term) p) (readable : term.IsReadable)
    (stops : term.StopsBefore rest) (calculated : totalFactor ps = .ok x) :
    parseFrom whole (fuel + 1) (productOf ps x) j.sign position (term.text ++ rest)
      = ((totalFactor (ps ++ [p])).map (unitOf (ps ++ [p]))).mapError
          (ParseFault.interrupted ∘ .signal) >>= fun product =>
        parseRest whole fuel product (position + term.length + 1) rest := by
  rw [parseFrom_term denotes.written stops, ofTerm_of_denotes denotes readable,
    ← extend_productOf denotes.isProper calculated, bind_assoc]

theorem parseRest_operator (j : Joint) (rest : Text) :
    parseRest whole fuel u position (j.char :: rest)
      = parseFrom whole fuel (some u) j.sign position rest := by
  cases j <;> rfl

theorem parseRest_other {c : Char} (noOperator : ∀ j : Joint, c ≠ j.char) (rest : Text) :
    parseRest whole fuel u position (c :: rest) = .error (.unexpected c whole) := by
  unfold parseRest
  split
  · next same => exact nomatch same
  · next same => exact absurd (List.cons.inj same).1 (noOperator .times)
  · next same => exact absurd (List.cons.inj same).1 (noOperator .per)
  · next same => rw [(List.cons.inj same).1]

theorem productOf_concat (ps : List Power) (p : Power) (x : Scalar) :
    productOf (ps ++ [p]) x = some (unitOf (ps ++ [p]) x) := if_neg (by simp)

/-! ### As far as a text is read -/

theorem Reads.exists_factor (h : Reads whole ps j rest) : ∃ x, totalFactor ps = .ok x := by
  cases h with
  | start => exact ⟨.one, rfl⟩
  | step before denotes readable calculated => exact ⟨_, calculated⟩

theorem Reads.suffix (h : Reads whole ps j rest) : rest <:+ whole := by
  induction h with
  | start => exact List.suffix_rfl
  | step before denotes readable calculated ih =>
    exact ((List.suffix_cons _ _).trans (List.suffix_append _ _)).trans ih

/-- Where the text goes on behind a term and the operator after it. -/
theorem Reads.position_eq {c : Char} (h : Reads whole ps j (term.text ++ c :: rest)) :
    whole.length - (term.text ++ c :: rest).length + term.length + 1
      = whole.length - rest.length := by
  have lengths := h.suffix.length_le
  simp only [List.length_append, List.length_cons, term.length_text] at lengths ⊢
  omega

/-- The parser gets as far as a text can be read, with the product of what it has read. -/
theorem Reads.parse_eq (h : Reads whole ps j rest) (something : whole ≠ [])
    (calculated : totalFactor ps = .ok x) :
    ∃ fuel, rest.length ≤ fuel ∧ parse whole
      = parseFrom whole (fuel + 1) (productOf ps x) j.sign (whole.length - rest.length) rest := by
  induction h generalizing x with
  | start =>
    refine ⟨whole.length, Nat.le_refl _, ?_⟩
    rw [parse, if_neg (by simpa using something), Nat.sub_self]
    rfl
  | @step ps p j j' term rest y before denotes readable next ih =>
    obtain ⟨z, earlier⟩ := before.exists_factor
    obtain ⟨fuel, enough, same⟩ := ih earlier
    obtain rfl := Except.ok.inj (next.symm.trans calculated)
    simp only [List.length_append, List.length_cons] at enough
    obtain ⟨fuel, rfl⟩ := Nat.exists_eq_succ_of_ne_zero (show fuel ≠ 0 by omega)
    refine ⟨fuel, by omega, ?_⟩
    rw [same, parseFrom_denotes denotes readable (term.stopsBefore_operator j' rest) earlier, next,
      productOf_concat, before.position_eq, ← parseRest_operator]
    rfl

theorem Term.text_ne_nil (h : term.IsWritten) : term.text ≠ [] := by
  simp [Term.text, h.nonempty]

/-- The parser comes to the term behind the last operator. -/
theorem Next.parse_eq (h : Next whole ps j term rest) (calculated : totalFactor ps = .ok x) :
    ∃ fuel position, parse whole
      = parseFrom whole (fuel + 1) (productOf ps x) j.sign position (term.text ++ rest) := by
  have something : whole ≠ [] := by
    rintro rfl
    exact Term.text_ne_nil h.written (List.append_eq_nil_iff.1 (List.suffix_nil.1 h.reads.suffix)).1
  obtain ⟨fuel, -, same⟩ := h.reads.parse_eq something calculated
  exact ⟨fuel, _, same⟩

theorem Next.parse_failed (h : Next whole ps j term rest)
    (failed : ofTerm whole j.sign term = .error fault) : parse whole = .error fault := by
  obtain ⟨x, earlier⟩ := h.reads.exists_factor
  obtain ⟨fuel, position, same⟩ := h.parse_eq earlier
  rw [same, parseFrom_term h.written h.stops, failed]
  rfl

theorem Next.parse_denotes (h : Next whole ps j term rest) (readable : term.IsReadable)
    (denotes : Denotes (j, term) p) :
    ∃ fuel position, parse whole
      = ((totalFactor (ps ++ [p])).map (unitOf (ps ++ [p]))).mapError
          (ParseFault.interrupted ∘ .signal) >>= fun product =>
        parseRest whole fuel product position rest := by
  obtain ⟨x, earlier⟩ := h.reads.exists_factor
  obtain ⟨fuel, position, same⟩ := h.parse_eq earlier
  exact ⟨fuel, _, same.trans (parseFrom_denotes denotes readable h.stops earlier)⟩

/-- The first place that does not fit is what the parser reports. -/
theorem Offence.parse_eq (h : Offence t fault) : parse t = .error fault := by
  cases h with
  | empty nothing =>
    subst nothing
    rfl
  | nameExpected something reads noName =>
    obtain ⟨x, earlier⟩ := reads.exists_factor
    obtain ⟨fuel, -, same⟩ := reads.parse_eq something earlier
    rw [same, parseFrom, term?_eq_none_iff.2 noName]
  | longExponent next exponent long => exact next.parse_failed (ofTerm_of_long exponent long)
  | zeroExponent next readable zero => exact next.parse_failed (ofTerm_of_zero readable zero)
  | name next readable nonzero refused =>
    exact next.parse_failed (ofTerm_of_refused readable nonzero refused)
  | signal next readable denotes signalled =>
    obtain ⟨fuel, position, same⟩ := next.parse_denotes readable denotes
    rw [same, signalled]
    rfl
  | unexpected next readable denotes calculated noOperator =>
    obtain ⟨fuel, position, same⟩ := next.parse_denotes readable denotes
    rw [same, calculated]
    exact parseRest_other noOperator _

/-! ### Every text -/

/-- A term that does not stand for a power is the first place that does not fit. -/
theorem Next.offence_or_denotes (h : Next whole ps j term rest) :
    (∃ fault, ofTerm whole j.sign term = .error fault ∧ Offence whole fault) ∨
      term.IsReadable ∧ ∃ p, Denotes (j, term) p := by
  by_cases readable : term.IsReadable
  case neg =>
    obtain ⟨e, exponent, long⟩ : ∃ e, term.exponent? = some e ∧
        Digits.maxLength < e.digits.length := by
      simpa [Term.IsReadable] using readable
    exact .inl ⟨_, ofTerm_of_long exponent long, .longExponent h exponent long⟩
  by_cases zero : term.value = 0
  case pos => exact .inl ⟨_, ofTerm_of_zero readable zero, .zeroExponent h readable zero⟩
  cases known : Catalogue.find term.name with
  | error cause =>
    exact .inl ⟨_, ofTerm_of_refused readable zero known, .name h readable zero known⟩
  | ok u => exact .inr ⟨readable, ⟨u, j.sign * term.value⟩, h.written, zero, known, rfl⟩

/-- From wherever a text can be read, it is read to its end or there is a place that does not
fit. -/
theorem outcome_of_reads (h : Reads whole ps j rest) (something : whole ≠ [])
    (calculated : totalFactor ps = .ok x) (enough : rest.length < fuel) :
    Yields (fun u => ∃ ps x, ReadsAll whole ps x ∧ u = unitOf ps x) (Offence whole)
      (parseFrom whole fuel (productOf ps x) j.sign (whole.length - rest.length) rest) := by
  -- Each step takes a term and the operator behind it, so the fuel outlasts the text.
  induction fuel generalizing ps j rest x with
  | zero => exact absurd enough (Nat.not_lt_zero _)
  | succ fuel ih =>
    cases found : term? rest with
    | none =>
      rw [parseFrom, found]
      exact .nameExpected something h (term?_eq_none_iff.1 found)
    | some term =>
      obtain ⟨rest, rfl, written, stops⟩ := term?_eq_some_iff.1 found
      have next : Next whole ps j term rest := ⟨h, written, stops⟩
      rcases next.offence_or_denotes with ⟨fault, failed, offence⟩ | ⟨readable, p, denotes⟩
      · rw [parseFrom_term written stops, failed]
        exact offence
      rw [parseFrom_denotes denotes readable stops calculated]
      cases more : totalFactor (ps ++ [p]) with
      | error s => exact .signal next readable denotes more
      | ok y =>
        cases rest with
        | nil =>
          rw [List.append_nil] at h
          exact ⟨_, _, .last h denotes readable more, rfl⟩
        | cons c rest =>
          change Yields _ _ (parseRest _ _ _ _ _)
          by_cases operator : ∃ j : Joint, c = j.char
          · obtain ⟨j', rfl⟩ := operator
            simp only [List.length_append, List.length_cons] at enough
            have later := ih (.step h denotes readable more) more (by omega)
            rwa [productOf_concat, ← h.position_eq, ← parseRest_operator] at later
          · have noOperator := not_exists.1 operator
            rw [parseRest_other noOperator]
            exact .unexpected next readable denotes more noOperator

theorem parse_outcome (t : Text) :
    Yields (fun u => ∃ ps x, ReadsAll t ps x ∧ u = unitOf ps x) (Offence t) (parse t) := by
  by_cases nothing : t = []
  · rw [nothing]
    exact .empty rfl
  · have whole := outcome_of_reads .start nothing rfl (Nat.lt_succ_self t.length)
    rw [parse, if_neg (by simpa using nothing)]
    rwa [Nat.sub_self] at whole

theorem parse_eq_error_iff : parse t = .error fault ↔ Offence t fault :=
  ⟨(parse_outcome t).error, Offence.parse_eq⟩

/-! ### Chains -/

theorem Chain.StandsFor.single (denotes : Denotes (.times, term) p) (readable : term.IsReadable) :
    (Chain.mk term []).StandsFor [p] :=
  ⟨List.forall_mem_singleton.2 readable, .cons denotes .nil⟩

theorem Chain.StandsFor.concat (h : c.StandsFor ps) (denotes : Denotes (j, term) p)
    (readable : term.IsReadable) : (c.concat (j, term)).StandsFor (ps ++ [p]) where
  readable := List.forall_mem_append.2 ⟨h.readable, List.forall_mem_singleton.2 readable⟩
  denotes := List.rel_append h.denotes (.cons denotes .nil)

/-- What is read is a chain, with an operator behind it unless nothing has been read. -/
theorem Reads.exists_chain (h : Reads t ps j rest) :
    (ps = [] ∧ j = .times ∧ rest = t) ∨
      ∃ c : Chain, t = c.text ++ j.char :: rest ∧ c.StandsFor ps := by
  induction h with
  | start => exact .inl ⟨rfl, rfl, rfl⟩
  | @step ps p j j' term rest x before denotes readable calculated ih =>
    rcases ih with ⟨rfl, rfl, split⟩ | ⟨c, split, powers⟩
    · exact .inr ⟨⟨term, []⟩, by simpa [Chain.text] using split.symm, .single denotes readable⟩
    · refine .inr ⟨c.concat (j, term), ?_, powers.concat denotes readable⟩
      rw [Chain.text_concat, split, List.append_assoc, List.cons_append]

theorem ReadsAll.exists_chain (h : ReadsAll t ps x) : ∃ c, IsReading t c ps x := by
  obtain ⟨before, denotes, readable, calculated⟩ := h
  rename_i ps p j term
  rcases before.exists_chain with ⟨rfl, rfl, rfl⟩ | ⟨c, split, powers⟩
  · exact ⟨⟨term, []⟩, List.append_nil _, .single denotes readable, calculated⟩
  · exact ⟨c.concat (j, term), (c.text_concat j term).trans split.symm,
      powers.concat denotes readable, calculated⟩

/-- A chain is read term by term, as long as the factor can be calculated. -/
theorem Reads.parse_others {others : List (Joint × Term)} {qs : List Power}
    (h : Reads t ps j (term.text ++ others.flatMap fun (j, t) => j.char :: t.text))
    (readable : ∀ y ∈ (j, term) :: others, y.2.IsReadable)
    (denotes : List.Forall₂ Denotes ((j, term) :: others) qs) :
    parse t = ((totalFactor (ps ++ qs)).map (unitOf (ps ++ qs))).mapError
      (ParseFault.interrupted ∘ .signal) := by
  induction others generalizing ps j term qs with
  | nil =>
    obtain ⟨p, _, denoted, nothing, rfl⟩ := List.forall₂_cons_left_iff.1 denotes
    obtain rfl := List.forall₂_nil_left_iff.1 nothing
    have next : Next t ps j term [] := ⟨h, denoted.written, term.stopsBefore_nil⟩
    obtain ⟨fuel, position, same⟩ := next.parse_denotes (readable _ List.mem_cons_self) denoted
    exact same.trans (bind_pure _)
  | cons y others ih =>
    obtain ⟨j', term'⟩ := y
    obtain ⟨p, qs, denoted, later, rfl⟩ := List.forall₂_cons_left_iff.1 denotes
    have readableHere := readable _ List.mem_cons_self
    rw [List.flatMap_cons, List.cons_append] at h
    rw [← List.singleton_append, ← List.append_assoc]
    cases calculated : totalFactor (ps ++ [p]) with
    | ok x =>
      have step := Reads.step h denoted readableHere calculated
      exact ih step (fun y mem => readable y (List.mem_cons_of_mem _ mem)) later
    | error s =>
      -- The terms that are still to come do not count: the product in front of them has no factor.
      have next : Next t ps j term _ := ⟨h, denoted.written, term.stopsBefore_operator j' _⟩
      rw [totalFactor_append (by simp), calculated]
      exact (Offence.signal next readableHere denoted calculated).parse_eq

/-- The text of a chain that stands for powers is read as their product. -/
theorem Chain.StandsFor.parse_text (h : c.StandsFor ps) :
    parse c.text = ((totalFactor ps).map (unitOf ps)).mapError (ParseFault.interrupted ∘ .signal) :=
  Reads.start.parse_others h.readable h.denotes

theorem IsReading.parse_eq (h : IsReading t c ps x) : parse t = .ok (unitOf ps x) := by
  rw [← h.text, h.powers.parse_text, h.factor]
  rfl

/-- A text is a unit just if it is a chain of terms that all stand for powers and have exponents
that can be read, and if the factor of the product can be calculated. The unit has this factor, the
dimensions of the powers added up and every symbol with its total exponent, those with total zero
left out. Any other text fails with the fault that its first offending term or character is, which
belongs to one of three families if reading was not interrupted. -/
theorem parse_chain (t : Text) :
    ((∃ u, parse t = .ok u) ↔ ∃ c ps x, IsReading t c ps x) ∧
    (∀ c ps x, IsReading t c ps x → ∃ u, parse t = .ok u ∧ u.factor = x ∧
      u.dimensions = totalDimensions ps ∧ (u.symbols.map Prod.fst).Nodup ∧
      ∀ s e, (s, e) ∈ u.symbols ↔ e = totalExponent s ps ∧ e ≠ 0) ∧
    (∀ fault, parse t = .error fault ↔ Offence t fault) ∧
    ∀ fault, parse t = .error fault → (∃ cause, fault = .interrupted cause) ∨
      (Report.ofUnit fault).kind ∈ [.unknownUnit, .unsupportedUnit, .malformedUnit] := by
  refine ⟨⟨?_, ?_⟩, ?_, fun fault => parse_eq_error_iff, ?_⟩
  · rintro ⟨u, parsed⟩
    obtain ⟨ps, x, read, -⟩ := (parse_outcome t).ok parsed
    obtain ⟨c, reading⟩ := read.exists_chain
    exact ⟨c, ps, x, reading⟩
  · rintro ⟨c, ps, x, reading⟩
    exact ⟨_, reading.parse_eq⟩
  · intro c ps x reading
    obtain ⟨reduced, exponents⟩ := totalSymbols_spec (isProper_of_denotes reading.powers.denotes)
    refine ⟨unitOf ps x, reading.parse_eq, rfl, rfl, reduced.nodup, fun s e => ?_⟩
    rw [← exponents s]
    exact reduced.mem_iff
  · intro fault failed
    cases fault with
    | interrupted cause => exact .inl ⟨cause, rfl⟩
    | name cause name => cases cause <;> simp [Report.ofUnit, Report.ofName]
    | _ => simp [Report.ofUnit]

/-- The chain `kg*m/s^2`. -/
def newtonChain : Chain :=
  ⟨⟨['k', 'g'], none⟩, [(.times, ⟨['m'], none⟩), (.per, ⟨['s'], some ⟨false, ['2']⟩⟩)]⟩

theorem parse_chain_newton :
    ∃ u, parse newtonChain.text = .ok u ∧ u.dimensions = ⟨1, 1, -2, 0, 0, 0, 0, 0⟩ ∧
      (['s'], -2) ∈ u.symbols := by
  obtain ⟨kg, hkg, m, hm, s, hs, x, factor, dimensions, exponent⟩ :
      ∃ kg, Catalogue.find ['k', 'g'] = .ok kg ∧ ∃ m, Catalogue.find ['m'] = .ok m ∧
      ∃ s, Catalogue.find ['s'] = .ok s ∧ ∃ x, totalFactor [⟨kg, 1⟩, ⟨m, 1⟩, ⟨s, -2⟩] = .ok x ∧
      totalDimensions [⟨kg, 1⟩, ⟨m, 1⟩, ⟨s, -2⟩] = ⟨1, 1, -2, 0, 0, 0, 0, 0⟩ ∧
      totalExponent ['s'] [⟨kg, 1⟩, ⟨m, 1⟩, ⟨s, -2⟩] = -2 := by decide +kernel
  have reading : IsReading newtonChain.text newtonChain [⟨kg, 1⟩, ⟨m, 1⟩, ⟨s, -2⟩] x := by
    refine ⟨rfl, ⟨by decide, .cons ⟨?_, ?_, hkg, rfl⟩ (.cons ⟨?_, ?_, hm, rfl⟩
      (.cons ⟨?_, ?_, hs, rfl⟩ .nil))⟩, factor⟩
    all_goals decide
  obtain ⟨u, parsed, -, same, -, symbols⟩ := (parse_chain _).2.1 _ _ _ reading
  exact ⟨u, parsed, same.trans dimensions, (symbols _ _).2 ⟨exponent.symm, by decide⟩⟩

/-- One, written with more digits than can be read. -/
def longOne : WrittenExponent := ⟨false, List.replicate Digits.maxLength '0' ++ ['1']⟩

/-- A metre, written as its first power with a long exponent. -/
def longMetre : Term := ⟨['m'], some longOne⟩

theorem naturalOf_zeros (n : Nat) (digits : Text) :
    Text.naturalOf (List.replicate n '0' ++ digits) = Text.naturalOf digits := by
  induction n with
  | zero => rfl
  | succ n ih =>
    rw [List.replicate_succ, List.cons_append, ← ih]
    rfl

theorem value_longMetre : longMetre.value = 1 := by
  have value := naturalOf_zeros Digits.maxLength ['1']
  change ((Text.naturalOf longOne.digits : Nat) : Int) = 1
  rw [longOne, value]
  rfl

theorem isWritten_longMetre : longMetre.IsWritten where
  nonempty := by decide
  name := List.forall_mem_singleton.2 rfl
  exponent := by
    rintro e ⟨⟩
    refine ⟨by simp [longOne], fun c mem => ?_⟩
    rcases List.mem_append.1 mem with mem | mem
    · rw [List.eq_of_mem_replicate mem]
      rfl
    · rw [List.mem_singleton.1 mem]
      rfl

theorem parse_longMetre :
    parse longMetre.text = .error (.interrupted (.longExponent (Digits.maxLength + 1))) := by
  have next : Next longMetre.text [] .times longMetre [] :=
    ⟨by simpa using .start, isWritten_longMetre, longMetre.stopsBefore_nil⟩
  have length : longOne.digits.length = Digits.maxLength + 1 := by simp [longOne]
  rw [← length]
  exact (Offence.longExponent next rfl (by omega)).parse_eq

/-- There are chains of terms that stand for powers, with factors that can be calculated, that are
not read: `m^00…01`. -/
theorem not_forall_chains :
    ¬ ∀ t : Text, (∃ u, parse t = .ok u) ↔
      ∃ (c : Chain) (ps : List Power) (x : Scalar),
        c.text = t ∧ List.Forall₂ Denotes c.terms ps ∧ totalFactor ps = .ok x := by
  intro all
  obtain ⟨u, found, x, raised, -⟩ : ∃ u, Catalogue.find longMetre.name = .ok u ∧
      ∃ x, u.factor.pow workingPrecision (.ofInt 1) = .ok x ∧ True := by decide +kernel
  have denotes : Denotes (.times, longMetre) ⟨u, 1⟩ :=
    ⟨isWritten_longMetre, by simp [value_longMetre], found, by simp [value_longMetre, Joint.sign]⟩
  obtain ⟨w, parsed⟩ := (all longMetre.text).2 ⟨⟨longMetre, []⟩, [⟨u, 1⟩], x, List.append_nil _,
    .cons denotes .nil, (totalFactor_singleton _).trans raised⟩
  exact nomatch parse_longMetre.symm.trans parsed

end CalcSheet.PhysicalUnit
