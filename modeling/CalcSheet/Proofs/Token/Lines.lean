import Mathlib.Data.List.TakeWhile
import CalcSheet.Proofs.Token.Rewriting

/-!
# Lines with other references

An assignment ends before the first reference, so a line with other references assigns to the same
name; what follows is scanned into tokens of the same outline.
-/
namespace CalcSheet
open Reference

variable {t t' : Text}

theorem isTextLine_alike (h : Alike t t') : isTextLine t = isTextLine t' := by
  have dashes := h.isPrefixOf_eq (show '&' ∉ ['-', '-'] by decide)
  have quote := h.isPrefixOf_eq (show '&' ∉ ['\''] by decide)
  simp only [isTextLine, restartsSum, isComment, dashes, quote]

theorem restartsSum_alike (h : Alike t t') : restartsSum t = restartsSum t' :=
  h.isPrefixOf_eq (by decide)

namespace Assignment

theorem length_trimSpaces_le (t : Text) : (trimSpaces t).length ≤ t.length := by
  have whole : t.reverse.length = t.length := List.length_reverse
  rw [trimSpaces, List.length_reverse, ← whole]
  exact (List.dropWhile_sublist _).length_le

theorem trimSpaces_subset (t : Text) : trimSpaces t ⊆ t := by
  intro c hc
  exact List.mem_reverse.1 ((List.dropWhile_sublist _).mem (List.mem_reverse.1 hc))

theorem trimSpaces_ne_nil {t : Text} {c : Char} (mem : c ∈ t) (ink : c ≠ ' ') :
    trimSpaces t ≠ [] := by
  intro empty
  have none := List.dropWhile_eq_nil_iff.1 (List.reverse_eq_nil_iff.1 empty)
  exact ink (of_decide_eq_true (none c (List.mem_reverse.2 mem)))

theorem beginsWithEquals_alike (h : Alike t t') :
    beginsWithEquals t = beginsWithEquals t' := by
  cases h with
  | nil => rfl
  | sign => rfl
  | cons c h =>
    by_cases equals : c = '='
    · subst equals
      cases h with
      | nil => rfl
      | sign => rfl
      | cons d h =>
        by_cases twice : d = '='
        · simp only [beginsWithEquals, twice]
        · simp [beginsWithEquals, twice]
    · simp [beginsWithEquals, equals]

theorem beginsWithEquals_free (h : beginsWithEquals t = true) : Free t 1 := by
  unfold beginsWithEquals at h
  split at h
  · exact nomatch h
  · exact (Free.zero _).cons (by decide)
  · exact nomatch h

theorem name_free (t : Text) : Free t (trimSpaces (t.takeWhile inName)).length :=
  (Free.takeWhile (p := inName) (by rfl) t).mono (length_trimSpaces_le _)

theorem parse?_alike (h : Alike t t') : parse? t = parse? t' := by
  have lead := h.takeWhile_eq (p := Text.isBlank) (by rfl)
  have rest := h.drop_takeWhile (p := Text.isBlank) (by rfl)
  simp only [parse?, ← lead]
  generalize t.drop (t.takeWhile Text.isBlank).length = u at rest ⊢
  generalize t'.drop (t.takeWhile Text.isBlank).length = u' at rest ⊢
  have name := rest.takeWhile_eq (p := inName) (by rfl)
  have afterName := rest.drop (name_free u)
  have gap := afterName.takeWhile_eq (p := Text.isBlank) (by rfl)
  have afterGap := afterName.drop_takeWhile (p := Text.isBlank) (by rfl)
  rw [List.drop_drop, List.drop_drop] at afterGap
  have ends := beginsWithEquals_alike afterGap
  simp only [rest.head?_eq, ← name, ← gap, ends]

theorem parse?_free {a : Assignment} (found : parse? t = some a) : Free t a.length := by
  unfold parse? at found
  dsimp only at found
  split at found
  · split at found
    · next ends =>
      obtain rfl := Option.some.inj found
      have equals := beginsWithEquals_free ends
      rw [← List.drop_drop] at equals
      have gap := (Free.takeWhile (p := Text.isBlank) (by rfl) _).add equals
      have name := (name_free (t.drop (t.takeWhile Text.isBlank).length)).add gap
      have lead := (Free.takeWhile (p := Text.isBlank) (by rfl) t).add name
      simpa only [length, Nat.add_assoc] using lead
    · exact nomatch found
  · exact nomatch found

/-- What a name looks like: it begins as words do, goes on with word characters and spaces, and does
not end with a space. -/
structure IsName (n : Text) : Prop where
  begins : n.head?.any Text.isNameChar = true
  inside : ∀ c ∈ n, inName c = true
  ends : ∀ c ∈ n.getLast?, c ≠ ' '

theorem isName_trimSpaces {rest : Text} (begins : rest.head?.any Text.isNameChar = true) :
    IsName (trimSpaces (rest.takeWhile inName)) where
  begins := by
    obtain ⟨c, rest, rfl⟩ : ∃ c u, rest = c :: u := by
      cases rest with
      | nil => exact nomatch begins
      | cons c rest => exact ⟨c, rest, rfl⟩
    simp only [List.head?_cons, Option.any_some] at begins
    have ink : c ≠ ' ' := by
      rintro rfl
      exact absurd begins (by decide)
    have word : inName c = true := by
      simp only [Text.isNameChar, Bool.and_eq_true] at begins
      simp [inName, begins.1]
    have some : trimSpaces ((c :: rest).takeWhile inName) ≠ [] :=
      trimSpaces_ne_nil (c := c) (by simp [word]) ink
    obtain ⟨after, whole⟩ : trimSpaces ((c :: rest).takeWhile inName) <+: c :: rest :=
      (List.rdropWhile_prefix _ _).trans (List.takeWhile_prefix inName)
    obtain ⟨d, name, same⟩ := List.exists_cons_of_ne_nil some
    rw [same] at whole ⊢
    obtain ⟨rfl, -⟩ := List.cons.inj whole
    exact begins
  inside c mem := List.all_eq_true.1 List.all_takeWhile c (trimSpaces_subset _ mem)
  ends c last := by
    rw [trimSpaces, List.getLast?_reverse] at last
    have first := List.head?_dropWhile_not (· = ' ') (rest.takeWhile inName).reverse
    rw [last] at first
    exact of_decide_eq_false first

theorem isName_of_target? {n : Text} (found : target? t = some n) : IsName n := by
  obtain ⟨a, parsed, rfl⟩ := Option.map_eq_some_iff.1 found
  unfold parse? at parsed
  dsimp only at parsed
  split at parsed
  · next begins =>
    split at parsed
    · obtain rfl := Option.some.inj parsed
      exact isName_trimSpaces begins
    · exact nomatch parsed
  · exact nomatch parsed

/-- No name can be confused with a reference. -/
theorem IsName.plain {n : Text} (h : IsName n) : n ≠ [] ∧ '&' ∉ n := by
  constructor
  · rintro rfl
    exact absurd h.begins (by decide)
  · exact fun sign => absurd (h.inside _ sign) (by decide)

theorem target?_plain {name : Text} (found : target? t = some name) : name ≠ [] ∧ '&' ∉ name :=
  (isName_of_target? found).plain

end Assignment

namespace Token

variable {vars : List Text} {ids ids' : List LineId} {f : Nat → Nat} {g : LineId → LineId}
  {tokens : List Token}

/-- A line that is calculated is scanned into tokens of the same outline if it has other references,
which are known if and only if the old ones are. -/
theorem scan_rewritten (plain : ArePlain vars) (nonneg : ∀ id ∈ ids', 0 ≤ id)
    (calculated : isTextLine t = false)
    (renamed : ∀ digits, .reference digits ∈ pieces t → Renamed f g ids ids' digits)
    (scanned : scan t (knownNames vars ids) = .ok tokens) :
    ∃ tokens', scan (rewritten f t) (knownNames vars ids') = .ok tokens'
      ∧ tokens'.map (Token.outline id) = tokens.map (Token.outline g) := by
  have alike := Alike.rewritten f t
  have calculated' := isTextLine_alike alike ▸ calculated
  unfold scan at scanned ⊢
  rw [calculated] at scanned
  rw [calculated', ← Assignment.parse?_alike alike]
  cases found : Assignment.parse? t with
  | none =>
    rw [found] at scanned
    exact scanFrom_rewritten plain nonneg (Nat.le_refl _) (Nat.le_refl _) renamed scanned 0
  | some a =>
    rw [found] at scanned
    have free := Assignment.parse?_free found
    have rest : (rewritten f t).drop a.length = rewritten f (t.drop a.length) := by
      rw [free.rewritten_eq, List.drop_left' (List.length_take_of_le free.le_length)]
    have length := congrArg List.length rest
    rw [List.length_drop] at length
    obtain ⟨others, scannedRest, whole⟩ := bind_eq_ok scanned
    obtain rfl : a.tokens ++ others = tokens := Except.ok.inj whole
    obtain ⟨others', scanned', same⟩ := scanFrom_rewritten plain nonneg (by simp)
      (show _ ≤ (rewritten f t).length by omega)
      (fun digits mem => renamed digits (free.mem_pieces mem)) scannedRest a.length
    refine ⟨a.tokens ++ others', ?_, ?_⟩
    · rw [← rest] at scanned'
      exact congrArg (· >>= _) scanned'
    · rw [List.map_append, List.map_append, same]
      congr 1
      unfold Assignment.tokens
      split <;> split <;> rfl

end Token
end CalcSheet
