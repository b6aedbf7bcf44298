import Mathlib.Data.List.Nodup
import CalcSheet.Proofs.Sheet.Edits

/-!
# Identifiers of a sheet

What every sheet satisfies that edits have made, and how an edit may change the identifiers in it:
it takes some away and gives lines new ones, which are not below `nextId`.
-/
namespace CalcSheet.Sheet

/-- The identifiers of lines that were referred to. -/
def idsOf (data : List LineData) : List LineId := (data.map (·.id)).filter (· ≠ 0)

def ids (s : Sheet) : List LineId := idsOf s.data

theorem idsOf_append (xs ys : List LineData) : idsOf (xs ++ ys) = idsOf xs ++ idsOf ys := by
  simp [idsOf]

theorem idsOf_cons_blank (xs : List LineData) : idsOf (.blank :: xs) = idsOf xs := by
  simp [idsOf, LineData.blank]

theorem idsOf_replicate_blank (n : Nat) : idsOf (List.replicate n .blank) = [] := by
  simp [idsOf, LineData.blank]

theorem idsOf_sublist {xs ys : List LineData} (h : xs.Sublist ys) :
    (idsOf xs).Sublist (idsOf ys) :=
  (h.map _).filter _

theorem mem_idsOf {id : LineId} {data : List LineData} :
    id ∈ idsOf data ↔ id ≠ 0 ∧ ∃ d ∈ data, d.id = id := by
  simp [idsOf, and_comm]

theorem idsOf_insert (data : List LineData) (k : Nat) :
    idsOf (data.take k ++ .blank :: data.drop k) = idsOf data := by
  rw [idsOf_append, idsOf_cons_blank, ← idsOf_append, List.take_append_drop]

theorem idsOf_modify_base (data : List LineData) (k : Nat) (base : Numeral.Base) :
    idsOf (data.modify k fun d => { d with base }) = idsOf data := by
  have same : (data.modify k fun d => { d with base }).map (·.id) = data.map (·.id) := by
    refine List.ext_getElem (by simp) fun i _ _ => ?_
    simp only [List.getElem_map, List.getElem_modify]
    split <;> rfl
  rw [idsOf, same, idsOf]

/-- A line without an identifier adds the one it gets. -/
theorem idsOf_modify_id_perm {data : List LineData} {k : Nat} {d : LineData} {id : LineId}
    (at_k : data[k]? = some d) (unnamed : d.id = 0) (new : id ≠ 0) :
    (idsOf (data.modify k fun d => { d with id })).Perm (id :: idsOf data) := by
  obtain ⟨bound, at_k⟩ := List.getElem?_eq_some_iff.1 at_k
  have split : data = data.take k ++ d :: data.drop (k + 1) := by
    rw [← at_k, ← List.drop_eq_getElem_cons bound, List.take_append_drop]
  have before : idsOf data = idsOf (data.take k) ++ idsOf (data.drop (k + 1)) := by
    conv_lhs => rw [split]
    rw [idsOf_append]
    congr 1
    simp [idsOf, unnamed]
  have after : idsOf (data.modify k fun d => { d with id })
      = idsOf (data.take k) ++ id :: idsOf (data.drop (k + 1)) := by
    rw [List.modify_eq_take_cons_drop bound, idsOf_append, at_k]
    congr 1
    simp [idsOf, new]
  rw [before, after]
  exact List.perm_middle

/-- No two lines have the same identifier. -/
theorem eq_of_id_eq {s : Sheet} (nodup : s.ids.Nodup) {i j : Nat} {d e : LineData}
    (at_i : s.data[i]? = some d) (at_j : s.data[j]? = some e) (same : d.id = e.id)
    (held : d.id ≠ 0) : i = j := by
  obtain ⟨hi, rfl⟩ := List.getElem?_eq_some_iff.1 at_i
  obtain ⟨hj, rfl⟩ := List.getElem?_eq_some_iff.1 at_j
  have apart := List.pairwise_iff_getElem.1 (List.pairwise_filter.1 nodup)
  rcases Nat.lt_trichotomy i j with lt | eq | gt
  · have := apart i j (by simpa using hi) (by simpa using hj) lt
    simp_all
  · exact eq
  · have := apart j i (by simpa using hj) (by simpa using hi) gt
    simp_all

theorem eq_of_row_id_eq {s : Sheet} (nodup : s.ids.Nodup) {i j : Nat} {a b : Row}
    (at_i : s.rows[i]? = some a) (at_j : s.rows[j]? = some b) (same : a.id = b.id)
    (held : a.id ≠ 0) : i = j := by
  obtain ⟨_, d, -, first, rfl⟩ := List.getElem?_zipWith_eq_some.1 at_i
  obtain ⟨_, e, -, second, rfl⟩ := List.getElem?_zipWith_eq_some.1 at_j
  exact eq_of_id_eq nodup first second same held

theorem mem_idsOf_numbered {n : Nat} {id : LineId} (h : id ∈ idsOf (numbered n)) :
    0 < id ∧ id < ((n + 1 : Nat) : Int) := by
  obtain ⟨-, d, hd, rfl⟩ := mem_idsOf.1 h
  obtain ⟨k, hk, rfl⟩ := List.mem_map.1 hd
  have := List.mem_range.1 hk
  change (0 : Int) < (k + 1 : Nat) ∧ ((k + 1 : Nat) : Int) < (n + 1 : Nat)
  omega

theorem nodup_idsOf_numbered (n : Nat) : (idsOf (numbered n)).Nodup := by
  refine List.Nodup.filter _ ?_
  rw [numbered, List.map_map]
  refine List.Nodup.map (fun a b h => ?_) List.nodup_range
  have : ((a + 1 : Nat) : Int) = ((b + 1 : Nat) : Int) := h
  omega

/-- What holds of a sheet at all times: every line has its data, there is a line, and no two lines
have the same identifier, which are all positive and have all been counted. -/
structure Valid (s : Sheet) : Prop where
  paired : s.Paired
  nonempty : 1 ≤ s.texts.length
  nextId_pos : 0 < s.nextId
  pos : ∀ id ∈ s.ids, 0 < id
  lt_nextId : ∀ id ∈ s.ids, id < s.nextId
  nodup : s.ids.Nodup

/-- `s'` is valid, and each of its identifiers is one of `s` or was not counted yet. -/
structure Grows (s s' : Sheet) : Prop where
  valid : s'.Valid
  nextId_le : s.nextId ≤ s'.nextId
  mem_or_le : ∀ id ∈ s'.ids, id ∈ s.ids ∨ s.nextId ≤ id

variable {s s' s'' : Sheet}

theorem Grows.refl (h : s.Valid) : Grows s s := ⟨h, Int.le_refl _, fun _ => .inl⟩

theorem Grows.trans (first : Grows s s') (second : Grows s' s'') : Grows s s'' := by
  refine ⟨second.valid, Int.le_trans first.nextId_le second.nextId_le, fun id hid => ?_⟩
  rcases second.mem_or_le id hid with old | new
  · exact first.mem_or_le id old
  · exact .inr (Int.le_trans first.nextId_le new)

/-- An edit that gives no identifiers away keeps the sheet valid. -/
theorem Valid.grows_of_sublist (h : s.Valid) (paired : s'.Paired) (nonempty : 1 ≤ s'.texts.length)
    (nextId : s'.nextId = s.nextId) (ids : s'.ids.Sublist s.ids) : Grows s s' where
  valid := {
    paired
    nonempty
    nextId_pos := nextId ▸ h.nextId_pos
    pos := fun id hid => h.pos id (ids.mem hid)
    lt_nextId := fun id hid => nextId ▸ h.lt_nextId id (ids.mem hid)
    nodup := h.nodup.sublist ids }
  nextId_le := Int.le_of_eq nextId.symm
  mem_or_le := fun _ hid => .inl (ids.mem hid)

theorem Valid.grows_identified (h : s.Valid) {k : Nat} {d : LineData} (at_k : s.data[k]? = some d)
    (unnamed : d.id = 0) : Grows s (Edit.identified s k) := by
  have pos := h.nextId_pos
  have step : s.nextId < s.nextId + 1 := Int.lt_succ _
  have perm : (Edit.identified s k).ids.Perm (s.nextId :: s.ids) :=
    idsOf_modify_id_perm at_k unnamed (Int.ne_of_gt pos)
  have mem (id : LineId) (hid : id ∈ (Edit.identified s k).ids) : id = s.nextId ∨ id ∈ s.ids :=
    List.mem_cons.1 (perm.mem_iff.1 hid)
  have new : s.nextId ∉ s.ids := fun hid => Int.lt_irrefl _ (h.lt_nextId _ hid)
  refine ⟨⟨?_, h.nonempty, Int.lt_trans pos step, ?_, ?_, ?_⟩, Int.le_of_lt step, ?_⟩
  · simpa [Paired, Edit.identified] using h.paired
  · intro id hid
    rcases mem id hid with rfl | old
    · exact pos
    · exact h.pos id old
  · intro id hid
    rcases mem id hid with rfl | old
    · exact step
    · exact Int.lt_trans (h.lt_nextId id old) step
  · exact perm.nodup_iff.2 (List.nodup_cons.2 ⟨new, h.nodup⟩)
  · intro id hid
    rcases mem id hid with rfl | old
    · exact .inr (Int.le_refl _)
    · exact .inl old

/-- `s'` is `s` in which some lines without an identifier may have got one. -/
structure Labels (s s' : Sheet) : Prop where
  texts : s'.texts = s.texts
  bases : s'.data.map (·.base) = s.data.map (·.base)
  kept : ∀ (k : Nat) (d : LineData), s.data[k]? = some d → d.id ≠ 0 → s'.data[k]? = some d
  places : s'.places = s.places
  pass? : s'.pass? = s.pass?

theorem Labels.refl (s : Sheet) : Labels s s := ⟨rfl, rfl, fun _ _ h _ => h, rfl, rfl⟩

theorem Labels.trans (first : Labels s s') (second : Labels s' s'') : Labels s s'' where
  texts := second.texts.trans first.texts
  bases := second.bases.trans first.bases
  kept := fun k d at_k named => second.kept k d (first.kept k d at_k named) named
  places := second.places.trans first.places
  pass? := second.pass?.trans first.pass?

theorem labels_identified {k : Nat} {d : LineData} (at_k : s.data[k]? = some d)
    (unnamed : d.id = 0) : Labels s (Edit.identified s k) where
  texts := rfl
  bases := by
    refine List.ext_getElem (by simp [Edit.identified]) fun i _ _ => ?_
    simp only [Edit.identified, List.getElem_map, List.getElem_modify]
    split <;> rfl
  kept := fun i e at_i named => by
    have other : k ≠ i := by
      rintro rfl
      exact named (Option.some.inj (at_k.symm.trans at_i) ▸ unnamed)
    simp [Edit.identified, other, at_i]
  places := rfl
  pass? := rfl

/-- Giving identifiers to lines keeps a sheet valid. -/
theorem Valid.ensureLineId (h : s.Valid) (row : Int) :
    Grows s ((Edit.ensureLineId row).on s).2 ∧ Labels s ((Edit.ensureLineId row).on s).2 := by
  cases found : findRow s.data.length row .noRowToRead with
  | error fault =>
    rw [Edit.ensureLineId_of_fault found]
    exact ⟨.refl h, .refl s⟩
  | ok k =>
    have at_k := List.getElem?_eq_getElem (lt_of_findRow found)
    rw [Edit.ensureLineId_of_findRow found at_k]
    split
    · exact ⟨.refl h, .refl s⟩
    · next unnamed =>
      have unnamed := not_not.1 unnamed
      exact ⟨h.grows_identified at_k unnamed, labels_identified at_k unnamed⟩

/-- Replacing references relates two sheets as finding each of the identifiers does. -/
theorem Edit.replaceRefs_relates {R : Sheet → Sheet → Prop} {f : Nat → Edit (Option LineId)}
    (refl : ∀ s, R s s) (trans : ∀ {s s' s''}, R s s' → R s' s'' → R s s'')
    (step : ∀ n s, R s ((f n).on s).2) (pieces : List Reference.Piece) (s : Sheet) :
    R s ((replaceRefs f pieces).on s).2 := by
  induction pieces generalizing s with
  | nil => exact refl s
  | cons piece rest ih =>
    cases piece with
    | char c =>
      rw [replaceRefs_char]
      exact ih s
    | reference digits =>
      rcases Nat.lt_or_ge Digits.maxLength digits.length with long | readable
      · rw [replaceRefs_long long]
        exact refl s
      · have here := step (Text.naturalOf digits) s
        rw [replaceRefs_reference readable]
        rcases outcome : (f (Text.naturalOf digits)).on s with ⟨answer, s'⟩
        rw [outcome] at here
        cases answer with
        | error fault => exact here
        | ok id? => exact trans here (ih s')

theorem Edit.idOfNumber_on (n : Nat) (s : Sheet) :
    (idOfNumber n).on s =
      if n = 0 ∨ s.texts.length < n then (.ok none, s)
      else (((ensureLineId ((n - 1 : Nat) : Int)).on s).1.map some,
        ((ensureLineId ((n - 1 : Nat) : Int)).on s).2) := by
  rw [idOfNumber, on_bind, on_get]
  dsimp only
  split
  · rfl
  · exact on_map _ _ s

theorem Valid.idOfNumber (h : s.Valid) (n : Nat) :
    Grows s ((Edit.idOfNumber n).on s).2 ∧ Labels s ((Edit.idOfNumber n).on s).2 := by
  rw [Edit.idOfNumber_on]
  split
  · exact ⟨.refl h, .refl s⟩
  · have found := h.ensureLineId ((n - 1 : Nat) : Int)
    rcases outcome : (Edit.ensureLineId ((n - 1 : Nat) : Int)).on s with ⟨answer, s'⟩
    rw [outcome] at found
    exact found

theorem Valid.normalizeRefs (h : s.Valid) (t : Text) :
    Grows s ((Edit.normalizeRefs t).on s).2 ∧ Labels s ((Edit.normalizeRefs t).on s).2 := by
  refine Edit.replaceRefs_relates (R := fun s s' => s.Valid → Grows s s' ∧ Labels s s')
    (fun s h => ⟨.refl h, .refl s⟩) (fun first second h => ?_) (fun n s h => h.idOfNumber n) _ s h
  have first := first h
  have second := second first.1.valid
  exact ⟨first.1.trans second.1, first.2.trans second.2⟩

end CalcSheet.Sheet
