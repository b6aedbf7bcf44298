import CalcSheet.Proofs.Text.Rewriting
import CalcSheet.Token.Scan

/-!
# What a token depends on

No token other than a reference crosses the sign of a reference. So alike texts begin with the same
token, unless they begin with that sign.
-/
namespace CalcSheet.Token
open Reference

variable {t t' : Text} {m : Match}

/-- A match of some characters before the first reference, which refers to no line. -/
structure Takes (t : Text) (m : Match) : Prop where
  pos : 0 < m.2
  free : Free t m.2
  noReference : ∀ line, m.1 ≠ .operand (.reference line)

theorem takes_takeWhile {p : Char → Bool} {lexeme : Lexeme} (reject : p '&' = false)
    (some : t.takeWhile p ≠ []) (noReference : ∀ line, lexeme ≠ .operand (.reference line)) :
    Takes t (lexeme, (t.takeWhile p).length) :=
  ⟨List.length_pos_of_ne_nil some, .takeWhile reject t, noReference⟩

theorem blank?_alike (h : Alike t t') : blank? t = blank? t' := by
  simp only [blank?, h.takeWhile_eq (p := Text.isBlank) (by rfl)]

theorem blank?_takes (found : blank? t = some m) : Takes t m := by
  simp only [blank?, List.isEmpty_iff] at found
  split at found
  · exact nomatch found
  · next some =>
    obtain rfl := Option.some.inj found
    exact takes_takeWhile rfl some nofun

theorem word?_alike (h : Alike t t') : word? t = word? t' := by
  simp only [word?, h.head?_eq, h.takeWhile_eq (p := Text.isWord) (by rfl)]

theorem word?_takes (found : word? t = some m) : Takes t m := by
  unfold word? at found
  split at found
  · next begins =>
    obtain rfl := Option.some.inj found
    refine takes_takeWhile rfl ?_ nofun
    cases t with
    | nil => simp at begins
    | cons c t =>
      have : Text.isWord c = true := by
        simp only [List.head?_cons, Option.any_some, Text.isNameChar, Bool.and_eq_true] at begins
        exact begins.1
      simp [this]
  · exact nomatch found

theorem radix?_alike {base : Nat} {p : Char → Bool} (reject : p '&' = false) (h : Alike t t') :
    radix? base p t = radix? base p t' := by
  simp only [radix?, h.takeWhile_eq reject]

theorem radix?_takes {base : Nat} {p : Char → Bool} (reject : p '&' = false)
    (found : radix? base p t = some m) {c d : Char} (hc : c ≠ '&') (hd : d ≠ '&') :
    Takes (c :: d :: t) m := by
  unfold radix? at found
  dsimp only at found
  split at found
  · exact nomatch found
  · obtain rfl := Option.some.inj found
    exact ⟨Nat.succ_pos _, ((Free.takeWhile reject t).cons hd).cons hc, nofun⟩

theorem announced?_alike (h : Alike t t') : announced? t = announced? t' := by
  have digits {base : Nat} {p : Char → Bool} {c d : Char} {u : Text} (reject : p '&' = false)
      (hc : c ≠ '&') (hd : d ≠ '&') (begins : Alike (c :: d :: u) t') :
      ∃ u', t' = c :: d :: u' ∧ radix? base p u = radix? base p u' := by
    obtain ⟨_, rfl, second⟩ := begins.exists_cons hc
    obtain ⟨u', rfl, rest⟩ := second.exists_cons hd
    exact ⟨u', rfl, radix?_alike reject rest⟩
  fun_cases announced? t with
  | case1 u =>
    obtain ⟨u', rfl, same⟩ := digits (p := isHexDigit) rfl (by decide) (by decide) h
    exact same
  | case2 u =>
    obtain ⟨u', rfl, same⟩ := digits (p := isBit) rfl (by decide) (by decide) h
    exact same
  | case3 u noHex noBits =>
    fun_cases announced? t' with
    | case1 u =>
      obtain ⟨_, rfl, rest⟩ := h.symm.exists_cons (by decide)
      obtain ⟨u', rfl, rest⟩ := rest.exists_cons (by decide)
      exact (noHex u' rfl).elim
    | case2 u =>
      obtain ⟨_, rfl, rest⟩ := h.symm.exists_cons (by decide)
      obtain ⟨u', rfl, rest⟩ := rest.exists_cons (by decide)
      exact (noBits u' rfl).elim
    | case3 => rfl

theorem announced?_takes (found : announced? t = some m) : Takes t m := by
  fun_cases announced? t with
  | case1 u => exact radix?_takes rfl found (by decide) (by decide)
  | case2 u => exact radix?_takes rfl found (by decide) (by decide)
  | case3 => simp_all [announced?]

theorem fraction?_alike (h : Alike t t') : fraction? t = fraction? t' := by
  cases h with
  | nil => rfl
  | sign => rfl
  | cons c h =>
    by_cases point : c = '.'
    · subst point
      simp only [fraction?, h.takeWhile_eq (p := Text.isDecimal) (by rfl)]
    · simp [fraction?, point]

theorem fraction?_free {after : Text} (found : fraction? t = some after) :
    Free t (after.length + 1) := by
  unfold fraction? at found
  split at found
  · obtain rfl := Option.some.inj found
    exact (Free.takeWhile rfl _).cons (by decide)
  · exact nomatch found

theorem numeral?_alike (h : Alike t t') : numeral? t = numeral? t' := by
  have before := h.takeWhile_eq (p := Text.isDecimal) (by rfl)
  have after := fraction?_alike (h.drop_takeWhile (p := Text.isDecimal) (by rfl))
  simp only [numeral?, ← before, after]

theorem numeral?_takes (found : numeral? t = some m) : Takes t m := by
  have before : Free t (t.takeWhile Text.isDecimal).length := .takeWhile rfl t
  unfold numeral? at found
  dsimp only at found
  split at found
  · next after behind =>
    split at found
    · exact nomatch found
    · obtain rfl := Option.some.inj found
      have whole := before.add (fraction?_free behind)
      rw [← Nat.add_assoc, Nat.add_right_comm] at whole
      exact ⟨by simp only; omega, whole, nofun⟩
  · split at found
    · exact nomatch found
    · next some =>
      obtain rfl := Option.some.inj found
      exact takes_takeWhile rfl (by simpa using some) nofun

theorem number?_alike (previous : Option Char) (h : Alike t t') :
    number? previous t = number? previous t' := by
  rw [number?, number?, announced?_alike h, numeral?_alike h]

theorem number?_takes {previous : Option Char} (found : number? previous t = some m) :
    Takes t m := by
  unfold number? at found
  split at found
  · exact nomatch found
  · rcases (Option.orElse_eq_some _ _ _).1 found with found | ⟨-, found⟩
    · exact announced?_takes found
    · exact numeral?_takes found

end CalcSheet.Token
