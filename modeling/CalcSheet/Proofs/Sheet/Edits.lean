import CalcSheet.Sheet.Reference

/-!
# What edits do

The answer of each edit and the sheet it leaves behind. Edits of both lists agree on the place as
long as the lists are equally long; then no fault comes after the first change.
-/
namespace CalcSheet.Sheet

/-- Every line has its data. -/
def Paired (s : Sheet) : Prop := s.data.length = s.texts.length

theorem lt_of_rowAt? {n k : Nat} {row : Int} (h : rowAt? n row = some k) : k < n := by
  unfold rowAt? at h
  split at h
  · split at h
    · obtain rfl := Option.some.inj h
      omega
    · exact nomatch h
  · split at h
    · obtain rfl := Option.some.inj h
      omega
    · exact nomatch h

theorem findRow_eq_ok {n k : Nat} {row : Int} {absent : SheetFault} :
    findRow n row absent = .ok k ↔ IsIndex row ∧ rowAt? n row = some k := by
  unfold findRow
  by_cases index : IsIndex row
  · cases found : rowAt? n row <;> simp [index]
  · simp [index]

theorem lt_of_findRow {n k : Nat} {row : Int} {absent : SheetFault}
    (h : findRow n row absent = .ok k) : k < n :=
  lt_of_rowAt? (findRow_eq_ok.1 h).2

theorem findRow_natCast {n k : Nat} {absent : SheetFault} (index : IsIndex k) (bound : k < n) :
    findRow n k absent = .ok k := by
  rw [findRow_eq_ok, rowAt?, if_pos (Int.natCast_nonneg k), if_pos (Int.ofNat_lt.2 bound)]
  exact ⟨index, rfl⟩

theorem insertionPlace_le {n : Nat} {row : Int} : insertionPlace n row ≤ n := by
  unfold insertionPlace
  split <;> omega

namespace Edit
variable {s : Sheet}

theorem setLine_on (row : Int) (t : Text) (s : Sheet) :
    (setLine row t).on s = match findRow s.texts.length row .noRowToEdit with
      | .ok k => (.ok (), { s with texts := s.texts.modify k fun _ => t })
      | .error fault => (.error fault, s) := by
  rw [setLine, onTexts_on, modifyAt]
  cases findRow s.texts.length row .noRowToEdit <;> rfl

theorem insertLine_on (row : Int) (t : Text) (paired : s.Paired) :
    (insertLine row t).on s =
      if IsIndex row then
        (.ok (), { s with
          texts := s.texts.take (insertionPlace s.texts.length row)
            ++ t :: s.texts.drop (insertionPlace s.texts.length row)
          data := s.data.take (insertionPlace s.texts.length row)
            ++ .blank :: s.data.drop (insertionPlace s.texts.length row) })
      else (.error .placeBeyondIndex, s) := by
  have place : insertionPlace s.data.length row = insertionPlace s.texts.length row := by
    rw [paired]
  rw [insertLine, on_bind, onTexts_on, insertAt]
  by_cases index : IsIndex row
  · simp only [index, ↓reduceIte, onData_on, insertAt, place]
  · simp only [index, ↓reduceIte]

/-- The sheet without the `k`-th line, or with an empty line in the place of its only one. -/
def without (s : Sheet) (k : Nat) : Sheet :=
  if s.texts.length = 1 then { s with texts := [[]], data := [.blank] }
  else { s with texts := s.texts.eraseIdx k, data := s.data.eraseIdx k }

theorem removeLine_on (row : Int) (paired : s.Paired) :
    (removeLine row).on s = match findRow s.texts.length row .noRowToEdit with
      | .ok k => (.ok (), without s k)
      | .error fault => (.error fault, s) := by
  rw [removeLine, on_bind, onTexts_on, removeAt]
  cases found : findRow s.texts.length row .noRowToEdit with
  | error fault => rfl
  | ok k =>
    have bound := lt_of_findRow found
    have data : removeAt s.data row = .ok (s.data.eraseIdx k) := by
      rw [removeAt, paired, found]
      rfl
    have texts : (s.texts.eraseIdx k).length = s.texts.length - 1 :=
      List.length_eraseIdx_of_lt bound
    have rest : (s.data.eraseIdx k).length = s.texts.length - 1 := by
      rw [List.length_eraseIdx_of_lt (by rwa [paired]), paired]
    change (onData _ >>= _).on { s with texts := s.texts.eraseIdx k } = _
    simp only [on_bind, onData_on, data, on_get, without]
    by_cases single : s.texts.length = 1
    · have noTexts : s.texts.eraseIdx k = [] := List.eq_nil_of_length_eq_zero (by omega)
      have noData : s.data.eraseIdx k = [] := List.eq_nil_of_length_eq_zero (by omega)
      simp [single, noTexts, noData]
    · have some : s.texts.eraseIdx k ≠ [] := List.ne_nil_of_length_pos (by omega)
      simp [single, some]

theorem setLineFormat_on (row : Int) (name : Text) (s : Sheet) :
    (setLineFormat row name).on s = match Numeral.Base.ofName? name with
      | none => (.error (.unknownBase name), s)
      | some base => match findRow s.data.length row .noRowToRead with
        | .ok k => (.ok (), { s with data := s.data.modify k fun d => { d with base } })
        | .error fault => (.error fault, s) := by
  unfold setLineFormat
  cases Numeral.Base.ofName? name with
  | none => rfl
  | some base =>
    simp only [onData_on, modifyAt]
    cases findRow s.data.length row .noRowToRead <;> rfl

/-- The sheet with the next identifier given to the `k`-th line. -/
def identified (s : Sheet) (k : Nat) : Sheet :=
  { s with data := s.data.modify k fun d => { d with id := s.nextId }, nextId := s.nextId + 1 }

/-- A line keeps its identifier, or gets the next one. -/
theorem ensureLineId_of_findRow {row : Int} {k : Nat} {d : LineData}
    (found : findRow s.data.length row .noRowToRead = .ok k) (at_k : s.data[k]? = some d) :
    (ensureLineId row).on s =
      if d.id ≠ 0 then (.ok d.id, s) else (.ok s.nextId, identified s k) := by
  have element : elementAt s.data row = .ok d := by
    simp only [elementAt, found, bind, Except.bind, at_k]
  have changed (f : LineData → LineData) :
      modifyAt s.data row f .noRowToRead = .ok (s.data.modify k f) := by
    rw [modifyAt, found]
    rfl
  simp only [ensureLineId, on_get, on_bind, on_lift, element]
  by_cases held : d.id ≠ 0
  · simp [held]
  · simp only [held, ↓reduceIte, on_get, on_bind, onData_on, changed, on_modify, on_pure,
      identified]

theorem ensureLineId_of_fault {row : Int} {fault : SheetFault}
    (absent : findRow s.data.length row .noRowToRead = .error fault) :
    (ensureLineId row).on s = (.error fault, s) := by
  have element : elementAt s.data row = .error fault := by
    rw [elementAt, absent]
    rfl
  simp only [ensureLineId, on_get, on_bind, on_lift, element]

variable {f : Nat → Edit (Option LineId)}

theorem replaceRefs_char (c : Char) (rest : List Reference.Piece) (s : Sheet) :
    (replaceRefs f (.char c :: rest)).on s
      = (((replaceRefs f rest).on s).1.map (c :: ·), ((replaceRefs f rest).on s).2) := by
  rw [replaceRefs, ← on_map, map_eq_pure_bind]

/-- What a reference with the digits is replaced by. -/
def replacement (digits : Text) : Option LineId → Text
  | some id => Reference.text id
  | none => Reference.written digits

theorem replaceRefs_reference {digits : Text} (readable : digits.length ≤ Digits.maxLength)
    (rest : List Reference.Piece) (s : Sheet) :
    (replaceRefs f (.reference digits :: rest)).on s
      = match (f (Text.naturalOf digits)).on s with
        | (.ok id?, s) => (((replaceRefs f rest).on s).1.map (replacement digits id? ++ ·),
            ((replaceRefs f rest).on s).2)
        | (.error fault, s) => (.error fault, s) := by
  simp only [replaceRefs, Nat.not_lt.2 readable, ↓reduceIte, on_bind, on_pure]
  rcases (f (Text.naturalOf digits)).on s with ⟨answer, s'⟩
  cases answer with
  | error fault => rfl
  | ok id? =>
    dsimp only
    rcases (replaceRefs f rest).on s' with ⟨answer, s''⟩
    cases answer <;> cases id? <;> rfl

theorem replaceRefs_long {digits : Text} (long : Digits.maxLength < digits.length)
    (rest : List Reference.Piece) (s : Sheet) :
    (replaceRefs f (.reference digits :: rest)).on s
      = (.error (.longReference digits.length), s) := by
  simp [replaceRefs, long]

end Edit
end CalcSheet.Sheet
