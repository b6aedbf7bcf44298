import CalcSheet.Proofs.Sheet.Identifiers
import CalcSheet.Proofs.Sheet.Renumbering

/-!
# Saved and loaded sheets

A saved text refers to rows by their numbers, and loading it makes these the identifiers of the
rows. What the rows compute stays the same; only the bases of the results are lost.
-/
namespace CalcSheet.Sheet
open Reference

variable {s : Sheet} {t : Text}

/-- The number that stands in a saved text for an identifier. -/
def numberOf (s : Sheet) (n : Nat) : Nat := (s.rowOfId n).getD 0 + 1

/-- The identifier after loading of the line with an identifier, or zero if there is none. -/
def reloadedId (s : Sheet) (id : LineId) : LineId :=
  if id = 0 then 0 else (s.rowOfId id).elim 0 fun k => (k + 1 : Nat)

/-- A sheet that can be saved. Besides what holds of sheets at all times, its lines keep to the
width, also once they are rewritten, and each of its references can be read and refers to a line. -/
structure Savable (s : Sheet) : Prop where
  paired : s.Paired
  nonempty : s.texts ≠ []
  nodup : s.ids.Nodup
  unbroken : ∀ t ∈ s.texts, '\n' ∉ t
  canonical : ∀ t ∈ s.texts, ∀ digits, .reference digits ∈ pieces t → Digits.IsCanonical digits
  held : ∀ t ∈ s.texts, ∀ digits, .reference digits ∈ pieces t →
    (Text.naturalOf digits : Int) ∈ s.ids
  width : ∀ t ∈ s.texts, t.length ≤ Pass.maxWidth
  width' : ∀ t ∈ s.texts, ∀ saved, s.denormalizeRefs t = .ok saved → saved.length ≤ Pass.maxWidth

instance (s : Sheet) : Decidable s.Paired := inferInstanceAs (Decidable (_ = _))

instance (s : Sheet) : Decidable s.Savable :=
  decidable_of_iff (s.Paired ∧ s.texts ≠ [] ∧ s.ids.Nodup ∧ (∀ t ∈ s.texts, '\n' ∉ t)
      ∧ (∀ t ∈ s.texts, ∀ digits, .reference digits ∈ pieces t → Digits.IsCanonical digits)
      ∧ (∀ t ∈ s.texts, ∀ digits, .reference digits ∈ pieces t →
        (Text.naturalOf digits : Int) ∈ s.ids)
      ∧ (∀ t ∈ s.texts, t.length ≤ Pass.maxWidth)
      ∧ ∀ t ∈ s.texts, ∀ saved, s.denormalizeRefs t = .ok saved → saved.length ≤ Pass.maxWidth)
    ⟨fun ⟨a, b, c, d, e, f, g, h⟩ => ⟨a, b, c, d, e, f, g, h⟩,
      fun ⟨a, b, c, d, e, f, g, h⟩ => ⟨a, b, c, d, e, f, g, h⟩⟩

namespace Edit

/-- Where finding an identifier changes nothing, the references are replaced each on its own. -/
theorem replaceRefs_eq_rewritten {f : Nat → Edit (Option LineId)} {g : Nat → Nat} {ps : List Piece}
    (readable : ∀ digits, .reference digits ∈ ps → digits.length ≤ Digits.maxLength)
    (answers : ∀ digits, .reference digits ∈ ps →
      (f (Text.naturalOf digits)).on s = (.ok (some (g (Text.naturalOf digits) : Nat)), s)) :
    (replaceRefs f ps).on s = (.ok (ps.flatMap (Piece.rewritten g)), s) := by
  induction ps with
  | nil => rfl
  | cons piece ps ih =>
    have rest := ih (fun digits mem => readable digits (List.mem_cons_of_mem _ mem))
      fun digits mem => answers digits (List.mem_cons_of_mem _ mem)
    cases piece with
    | char c =>
      rw [replaceRefs_char, rest]
      rfl
    | reference digits =>
      rw [replaceRefs_reference (readable digits List.mem_cons_self),
        answers digits List.mem_cons_self]
      dsimp only
      rw [rest]
      rfl

theorem numberOfId_on (n : Nat) (s : Sheet) :
    (numberOfId n).on s = (.ok (some (s.numberOf n : Nat)), s) := rfl

theorem replaceRefs_numberOfId {ps : List Piece}
    (readable : ∀ digits, .reference digits ∈ ps → digits.length ≤ Digits.maxLength) (s : Sheet) :
    (replaceRefs numberOfId ps).on s = (.ok (ps.flatMap (Piece.rewritten s.numberOf)), s) :=
  replaceRefs_eq_rewritten readable fun _ _ => numberOfId_on _ s

end Edit

theorem denormalizeRefs_eq
    (readable : ∀ digits, .reference digits ∈ pieces t → digits.length ≤ Digits.maxLength) :
    s.denormalizeRefs t = .ok (rewritten s.numberOf t) := by
  rw [denormalizeRefs, Edit.denormalizeRefs, Edit.replaceRefs_numberOfId readable]
  rfl

theorem mapM_eq_map {f : α → Except ε β} {g : α → β} {xs : List α}
    (h : ∀ x ∈ xs, f x = .ok (g x)) : xs.mapM f = .ok (xs.map g) := by
  induction xs with
  | nil => rfl
  | cons x xs ih =>
    rw [List.mapM_cons, h x List.mem_cons_self, ih fun y hy => h y (List.mem_cons_of_mem _ hy)]
    rfl

theorem rowOfId_eq_some (nodup : s.ids.Nodup) {id : LineId} (held : id ≠ 0) {k : Nat} :
    s.rowOfId id = some k ↔ ∃ d, s.data[k]? = some d ∧ d.id = id := by
  rw [rowOfId, List.findIdx?_eq_some_iff_getElem]
  constructor
  · rintro ⟨bound, found, -⟩
    exact ⟨s.data[k], List.getElem?_eq_getElem bound, of_decide_eq_true found⟩
  · rintro ⟨d, at_k, rfl⟩
    obtain ⟨bound, same⟩ := List.getElem?_eq_some_iff.1 at_k
    refine ⟨bound, decide_eq_true (congrArg LineData.id same), fun j before found => ?_⟩
    have at_j := List.getElem?_eq_getElem (Nat.lt_trans before bound)
    have := eq_of_id_eq nodup at_k at_j (of_decide_eq_true found).symm held
    omega

/-- An identifier leads to the line that has it. -/
theorem exists_rowOfId (nodup : s.ids.Nodup) {id : LineId} (held : id ∈ s.ids) :
    ∃ k d, s.rowOfId id = some k ∧ s.data[k]? = some d ∧ d.id = id := by
  obtain ⟨nonzero, d, mem, same⟩ := mem_idsOf.1 held
  obtain ⟨k, at_k⟩ := List.getElem?_of_mem mem
  exact ⟨k, d, (rowOfId_eq_some nodup nonzero).2 ⟨d, at_k, same⟩, at_k, same⟩

theorem reloadedId_eq (nodup : s.ids.Nodup) {k : Nat} {d : LineData} (at_k : s.data[k]? = some d)
    (id : LineId) : s.reloadedId id = (k + 1 : Nat) ↔ d.id ≠ 0 ∧ id = d.id := by
  unfold reloadedId
  split
  · next absent =>
    subst absent
    have positive : (0 : Int) ≠ (k + 1 : Nat) := by omega
    exact ⟨fun zero => absurd zero positive, fun ⟨held, zero⟩ => absurd zero.symm held⟩
  · next held =>
    constructor
    · intro found
      cases row : s.rowOfId id with
      | none =>
        rw [row] at found
        have positive : (0 : Int) ≠ (k + 1 : Nat) := by omega
        exact absurd found positive
      | some j =>
        rw [row] at found
        have same : ((j + 1 : Nat) : Int) = (k + 1 : Nat) := found
        obtain rfl : j = k := by omega
        obtain ⟨e, at_j, rfl⟩ := (rowOfId_eq_some nodup held).1 row
        obtain rfl := Option.some.inj (at_j.symm.trans at_k)
        exact ⟨held, rfl⟩
    · rintro ⟨held, rfl⟩
      rw [(rowOfId_eq_some nodup held).2 ⟨d, at_k, rfl⟩]
      rfl

namespace Savable

theorem readable (h : s.Savable) (mem : t ∈ s.texts) (digits : Text)
    (ref : .reference digits ∈ pieces t) : digits.length ≤ Digits.maxLength := by
  have width := Nat.le_trans (length_text_le ref) (h.width t mem)
  have short : Pass.maxWidth ≤ Digits.maxLength := by decide
  simp only [Piece.text, length_written] at width
  omega

theorem denormalizeRefs (h : s.Savable) (mem : t ∈ s.texts) :
    s.denormalizeRefs t = .ok (rewritten s.numberOf t) :=
  denormalizeRefs_eq (h.readable mem)

theorem normalizedContent (h : s.Savable) :
    s.normalizedContent = .ok (Text.unlines (s.texts.map (rewritten s.numberOf))) := by
  rw [Sheet.normalizedContent, mapM_eq_map fun t mem => h.denormalizeRefs mem]
  rfl

theorem lines_saved (h : s.Savable) :
    (Text.unlines (s.texts.map (rewritten s.numberOf))).lines
      = s.texts.map (rewritten s.numberOf) := by
  refine Text.lines_unlines (by simpa using h.nonempty) fun line hline => ?_
  obtain ⟨t, mem, rfl⟩ := List.mem_map.1 hline
  exact newline_not_mem_rewritten (h.unbroken t mem)

theorem named (h : s.Savable) (mem : t ∈ s.texts) {digits : Text}
    (ref : .reference digits ∈ pieces t) :
    s.numberOf (Text.naturalOf digits) ≠ 0
      ∧ s.reloadedId (Text.naturalOf digits) = s.numberOf (Text.naturalOf digits) := by
  have held := h.held t mem digits ref
  obtain ⟨k, d, row, -, -⟩ := exists_rowOfId h.nodup held
  refine ⟨Nat.succ_ne_zero _, ?_⟩
  rw [reloadedId, if_neg (mem_idsOf.1 held).1, numberOf, row]
  rfl

theorem rows_setNormalizedContent (h : s.Savable) (loaded : Sheet) :
    (loaded.setNormalizedContent (Text.unlines (s.texts.map (rewritten s.numberOf)))).rows
      = (s.texts.map (rewritten s.numberOf)).zipWith (fun t d => ⟨t, d.id, d.base⟩)
        (numbered s.texts.length) := by
  simp only [setNormalizedContent, rows, h.lines_saved, List.length_map]

/-- Every row is loaded as a row with other references. -/
theorem renumbered (h : s.Savable) (loaded : Sheet) :
    List.Forall₂ (Row.Renumbered s.numberOf s.reloadedId) s.rows
      (loaded.setNormalizedContent
        (Text.unlines (s.texts.map (rewritten s.numberOf)))).rows := by
  have paired : s.data.length = s.texts.length := h.paired
  rw [h.rows_setNormalizedContent, List.forall₂_iff_get]
  simp only [rows, numbered, List.length_zipWith, List.length_map, List.length_range]
  refine ⟨by omega, fun i hi hi' => ?_⟩
  have bound : i < s.texts.length := by omega
  have mem := List.getElem_mem bound
  have bound' : i < s.data.length := by omega
  have at_i : s.data[i]? = some s.data[i] := List.getElem?_eq_getElem bound'
  simp only [List.get_eq_getElem, List.getElem_zipWith, List.getElem_map, List.getElem_range]
  exact {
    text := rfl
    width := h.width _ mem
    width' := h.width' _ mem _ (h.denormalizeRefs mem)
    canonical := h.canonical _ mem
    named := fun digits ref => h.named mem ref
    pos := by
      change (0 : Int) < (i + 1 : Nat)
      omega
    id := reloadedId_eq h.nodup at_i
    base := rfl }

end Savable

/-- A pass that has found out the same about each of the rows to which `data` belongs. -/
structure Repeats (data : List LineData) (p p' : Pass) : Prop where
  results : p'.lines.map (·.result) = p.lines.map (·.result)
  assignments : p'.lines.map (·.isAssignment) = p.lines.map (·.isAssignment)
  resultBits : p'.resultBits = p.resultBits
  bindings : p'.bindings = p.bindings
  shown : ∀ (k : Nat) (d : LineData), data[k]? = some d → d.base = .decimal →
    p'.lines[k]?.map (·.shown) = p.lines[k]?.map (·.shown)

theorem exists_row (paired : s.Paired) {k : Nat} {d : LineData} (at_k : s.data[k]? = some d) :
    ∃ row, s.rows[k]? = some row ∧ row.base = d.base := by
  have bound : k < s.texts.length := paired ▸ (List.getElem?_eq_some_iff.1 at_k).1
  refine ⟨⟨s.texts[k], d.id, d.base⟩, ?_, rfl⟩
  rw [rows, List.getElem?_zipWith, List.getElem?_eq_getElem bound, at_k]

theorem exists_data {k : Nat} {row : Row} (at_k : s.rows[k]? = some row) :
    ∃ d, s.data[k]? = some d ∧ d.base = row.base := by
  obtain ⟨bound, rfl⟩ := List.getElem?_eq_some_iff.1 at_k
  rw [rows, List.length_zipWith] at bound
  refine ⟨_, List.getElem?_eq_getElem (by omega), ?_⟩
  simp only [rows, List.getElem_zipWith]

/-- A saved sheet has the same results when it is loaded, on any sheet with the same places, unless
a result that was not shown in decimals cannot be. -/
theorem evaluate_setNormalizedContent {s₁ : Sheet} {p : Pass} (savable : s.Savable)
    (evaluated : s.evaluate = .ok (p, s₁)) {loaded : Sheet} (places : loaded.places = s.places) :
    ∃ content, s.normalizedContent = .ok content ∧
      ((∃ p' s', (loaded.setNormalizedContent content).evaluate = .ok (p', s')
          ∧ Repeats s.data p p')
        ∨ ∃ (k : Nat) (d : LineData) (line : LineResult) (fault : DisplayFault),
          s.data[k]? = some d ∧ p.lines[k]? = some line
          ∧ Pass.Unshowable s.places d.base line fault
          ∧ (loaded.setNormalizedContent content).evaluate = .error (.line (.display fault))) := by
  refine ⟨_, savable.normalizedContent, ?_⟩
  obtain ⟨_, pass, done⟩ := bind_eq_ok evaluated
  obtain ⟨rfl, rfl⟩ := Prod.mk.inj (Except.ok.inj done)
  have loadedPlaces : (loaded.setNormalizedContent
      (Text.unlines (s.texts.map (rewritten s.numberOf)))).places = s.places := places
  rcases Pass.ofRows_renumbered (savable.renumbered loaded) (mapError_eq_ok pass) with
    ⟨p', again, agree, bindings⟩ | ⟨k, row, line, fault, at_k, found, unshowable, failed⟩
  · refine .inl ⟨p', _, by rw [evaluate, loadedPlaces, again]; rfl, ?_⟩
    constructor
    · exact agree.results
    · exact agree.assignments
    · rw [Pass.resultBits_eq, Pass.resultBits_eq, agree.results]
    · exact bindings
    · intro k d at_k base
      obtain ⟨row, at_k, same⟩ := exists_row savable.paired at_k
      exact agree.shown at_k (same.trans base)
  · obtain ⟨d, at_k, same⟩ := exists_data at_k
    refine .inr ⟨k, d, line, fault, at_k, found, same ▸ unshowable, ?_⟩
    rw [evaluate, loadedPlaces, failed]
    rfl

/-- A reference to the line with the identifier 7 is saved as one to the first row. -/
theorem evaluate_setNormalizedContent_reference :
    let s : Sheet := ⟨[['2'], ['&', '[', '7', ']', '*', '3']],
      [⟨7, .decimal⟩, ⟨0, .hexadecimal⟩], 8, 4, none⟩
    s.Savable ∧ ∃ p s₁, s.evaluate = .ok (p, s₁)
      ∧ ∃ p' s', ((ofContent [] 4).setNormalizedContent
        ['2', '\n', '&', '[', '1', ']', '*', '3']).evaluate = .ok (p', s')
      ∧ Repeats s.data p p' := by
  intro s
  have savable : s.Savable := by decide +kernel
  have succeeds : s.evaluate.toBool = true := by decide +kernel
  have saved : s.normalizedContent = .ok ['2', '\n', '&', '[', '1', ']', '*', '3'] := by decide
  have again : ((ofContent [] 4).setNormalizedContent
      ['2', '\n', '&', '[', '1', ']', '*', '3']).evaluate.toBool = true := by decide +kernel
  refine ⟨savable, ?_⟩
  cases evaluated : s.evaluate with
  | error fault =>
    rw [evaluated] at succeeds
    exact nomatch succeeds
  | ok r =>
    refine ⟨r.1, r.2, rfl, ?_⟩
    obtain ⟨content, saved', result⟩ := evaluate_setNormalizedContent savable evaluated
      (show (ofContent [] 4).places = s.places from rfl)
    obtain rfl := Except.ok.inj (saved'.symm.trans saved)
    rcases result with repeats | ⟨_, _, _, _, -, -, -, failed⟩
    · exact repeats
    · rw [failed] at again
      exact nomatch again

/-- A sheet that evaluates may fail to evaluate once it has been saved and loaded: a result that was
shown in another base has too many digits for the precision of decimals. -/
theorem not_forall_repeats :
    ¬ ∀ (s loaded : Sheet) (p : Pass) (s₁ : Sheet), s.Savable → s.evaluate = .ok (p, s₁) →
      loaded.places = s.places → ∃ content p' s', s.normalizedContent = .ok content
        ∧ (loaded.setNormalizedContent content).evaluate = .ok (p', s') ∧ Repeats s.data p p' := by
  intro always
  let s : Sheet := ⟨[['1']], [⟨0, .hexadecimal⟩], 1, 1000000000000000000, none⟩
  have savable : s.Savable := by decide +kernel
  have succeeds : s.evaluate.toBool = true := by decide +kernel
  have content : s.normalizedContent = .ok ['1'] := by decide
  have fails : (s.setNormalizedContent ['1']).evaluate.toBool = false := by decide +kernel
  cases evaluated : s.evaluate with
  | error fault =>
    rw [evaluated] at succeeds
    exact nomatch succeeds
  | ok r =>
    obtain ⟨content', p', s', saved, again, -⟩ := always s s r.1 r.2 savable evaluated rfl
    obtain rfl := Except.ok.inj (content.symm.trans saved)
    rw [again] at fails
    exact nomatch fails

end CalcSheet.Sheet
