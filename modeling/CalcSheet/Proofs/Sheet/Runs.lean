import CalcSheet.Proofs.Sheet.Identifiers
import CalcSheet.Proofs.Success
import CalcSheet.Proofs.Text.References

/-!
# Runs of calls on a sheet

A sheet is made from a text and then changed by calls in any order and with any arguments. What
holds of it at all times is shown for one call and carried over to all runs.
-/
namespace CalcSheet.Sheet

/-- A call of an operation that changes a sheet. -/
inductive Call where
  | setContent (content : Text)
  | setLine (row : Int) (t : Text)
  | insertLine (row : Int) (t : Text)
  | removeLine (row : Int)
  | setLineFormat (row : Int) (name : Text)
  | ensureLineId (row : Int)
  | referenceLine (row : Int)
  | normalizeRefs (t : Text)
  | setNormalizedContent (content : Text)
  | evaluate
  deriving DecidableEq, Repr

/-- What a call answers. -/
inductive Answer where
  | done
  | id (id : LineId)
  | text (t : Text)
  | pass (p : Pass)
  deriving DecidableEq

namespace Call

/-- What a call does. -/
def edit : Call → Edit Answer
  | setContent content => (fun _ => .done) <$> (modify (·.setContent content) : Edit PUnit)
  | setLine row t => (fun _ => .done) <$> Edit.setLine row t
  | insertLine row t => (fun _ => .done) <$> Edit.insertLine row t
  | removeLine row => (fun _ => .done) <$> Edit.removeLine row
  | setLineFormat row name => (fun _ => .done) <$> Edit.setLineFormat row name
  | ensureLineId row => .id <$> Edit.ensureLineId row
  | referenceLine row => .text <$> Edit.referenceLine row
  | normalizeRefs t => .text <$> Edit.normalizeRefs t
  | setNormalizedContent content =>
      (fun _ => .done) <$> (modify (·.setNormalizedContent content) : Edit PUnit)
  | evaluate => do
      let (p, s) ← (← get).evaluate
      set s
      pure (.pass p)

/-- Whether a call loads a saved text, which gives all lines new identifiers. -/
def loads : Call → Bool
  | setNormalizedContent _ => true
  | _ => false

/-- Whether a call gives identifiers to the rows that a text refers to. -/
def normalizes : Call → Bool
  | normalizeRefs _ => true
  | _ => false

end Call

/-- The answer of a call, and the sheet after it. -/
def perform (s : Sheet) (c : Call) : Except SheetFault Answer × Sheet := c.edit.on s

/-- The sheet after a number of calls, whether they succeed or not. -/
def after (s : Sheet) (calls : List Call) : Sheet := calls.foldl (fun s c => (s.perform c).2) s

/-- The identifiers that a number of calls hand out: those that some line has after a call and none
had before it. -/
def handedOut : Sheet → List Call → List LineId
  | _, [] => []
  | s, c :: rest =>
      let next := (s.perform c).2
      next.ids.filter (· ∉ s.ids) ++ handedOut next rest

variable {s : Sheet}

theorem paired_setContent (s : Sheet) (content : Text) : (s.setContent content).Paired := by
  simp only [Paired, setContent, List.length_append, List.length_take, List.length_replicate]
  omega

theorem ids_setContent_sublist (s : Sheet) (content : Text) :
    (s.setContent content).ids.Sublist s.ids := by
  rw [ids, setContent, idsOf_append, idsOf_replicate_blank, List.append_nil]
  exact idsOf_sublist (List.take_sublist _ _)

theorem Valid.setContent (h : s.Valid) (content : Text) : Grows s (s.setContent content) :=
  h.grows_of_sublist (paired_setContent s content) (by simp [Sheet.setContent, Text.lines]) rfl
    (ids_setContent_sublist s content)

theorem valid_ofContent (content : Text) (places : Int) : (ofContent content places).Valid := by
  have none : (ofContent content places).ids = [] :=
    List.eq_nil_of_sublist_nil (ids_setContent_sublist ⟨[], [], 1, places, none⟩ content)
  refine ⟨paired_setContent _ content, ?_, Int.one_pos, ?_, ?_, ?_⟩
  · simp [ofContent, Sheet.setContent, Text.lines]
  · simp [none]
  · simp [none]
  · simp [none]

theorem valid_setNormalizedContent (s : Sheet) (content : Text) :
    (s.setNormalizedContent content).Valid where
  paired := by simp [Paired, setNormalizedContent, numbered]
  nonempty := by simp [setNormalizedContent, Text.lines]
  nextId_pos := Int.natCast_pos.2 (Nat.succ_pos _)
  pos := fun _ hid => (mem_idsOf_numbered hid).1
  lt_nextId := fun _ hid => (mem_idsOf_numbered hid).2
  nodup := nodup_idsOf_numbered _

theorem Valid.without (h : s.Valid) (k : Nat) (bound : k < s.texts.length) :
    Grows s (Edit.without s k) := by
  have paired : s.data.length = s.texts.length := h.paired
  unfold Edit.without
  split
  · exact h.grows_of_sublist rfl (Nat.le_refl 1) rfl (List.nil_sublist _)
  · next several =>
    refine h.grows_of_sublist ?_ ?_ rfl (idsOf_sublist (List.eraseIdx_sublist _ _))
    · simp only [Paired, List.length_eraseIdx, paired]
    · change 1 ≤ (s.texts.eraseIdx k).length
      rw [List.length_eraseIdx_of_lt bound]
      have := h.nonempty
      omega

/-- An outcome on `s` that leaves a valid sheet, which is `s` itself where there is a fault. -/
structure Sound (s : Sheet) (outcome : Except SheetFault α × Sheet) : Prop where
  grows : Grows s outcome.2
  unchanged : ∀ fault, outcome.1 = .error fault → outcome.2 = s

theorem Sound.fault (h : s.Valid) (fault : SheetFault) :
    Sound s ((.error fault, s) : Except SheetFault α × Sheet) :=
  ⟨.refl h, fun _ _ => rfl⟩

theorem Sound.ok {s' : Sheet} (grows : Grows s s') (a : α) : Sound s (.ok a, s') :=
  ⟨grows, fun _ failed => nomatch failed⟩

theorem Sound.map {e : Edit α} (sound : Sound s (e.on s)) (f : α → β) :
    Sound s ((f <$> e).on s) := by
  rw [Edit.on_map]
  rcases outcome : e.on s with ⟨answer, s'⟩
  rw [outcome] at sound
  cases answer with
  | ok a => exact .ok sound.grows (f a)
  | error fault => exact ⟨sound.grows, fun _ _ => sound.unchanged fault rfl⟩

theorem Valid.setLine_sound (h : s.Valid) (row : Int) (t : Text) :
    Sound s ((Edit.setLine row t).on s) := by
  rw [Edit.setLine_on]
  cases findRow s.texts.length row .noRowToEdit with
  | error fault => exact .fault h fault
  | ok k =>
    refine Sound.ok (Valid.grows_of_sublist h ?_ ?_ ?_ ?_) ()
    · simpa [Paired] using h.paired
    · simpa using h.nonempty
    · rfl
    · exact List.Sublist.refl _

theorem Valid.insertLine_sound (h : s.Valid) (row : Int) (t : Text) :
    Sound s ((Edit.insertLine row t).on s) := by
  have paired : s.data.length = s.texts.length := h.paired
  have place : insertionPlace s.texts.length row ≤ s.texts.length := insertionPlace_le
  rw [Edit.insertLine_on row t h.paired]
  split
  · refine Sound.ok (Valid.grows_of_sublist h ?_ ?_ ?_ ?_) ()
    · simp only [Paired, List.length_append, List.length_cons, List.length_take, List.length_drop,
        paired]
    · simp only [List.length_append, List.length_cons]
      omega
    · rfl
    · rw [ids, idsOf_insert]
      exact List.Sublist.refl _
  · exact .fault h _

theorem Valid.removeLine_sound (h : s.Valid) (row : Int) :
    Sound s ((Edit.removeLine row).on s) := by
  rw [Edit.removeLine_on row h.paired]
  cases found : findRow s.texts.length row .noRowToEdit with
  | error fault => exact .fault h fault
  | ok k => exact .ok (h.without k (lt_of_findRow found)) ()

theorem Valid.setLineFormat_sound (h : s.Valid) (row : Int) (name : Text) :
    Sound s ((Edit.setLineFormat row name).on s) := by
  rw [Edit.setLineFormat_on]
  cases Numeral.Base.ofName? name with
  | none => exact .fault h _
  | some base =>
    dsimp only
    cases findRow s.data.length row .noRowToRead with
    | error fault => exact .fault h fault
    | ok k =>
      refine Sound.ok (Valid.grows_of_sublist h ?_ ?_ ?_ ?_) ()
      · simpa [Paired] using h.paired
      · exact h.nonempty
      · rfl
      · rw [ids, idsOf_modify_base]
        exact List.Sublist.refl _

theorem Valid.ensureLineId_sound (h : s.Valid) (row : Int) :
    Sound s ((Edit.ensureLineId row).on s) := by
  refine ⟨(h.ensureLineId row).1, fun fault failed => ?_⟩
  cases found : findRow s.data.length row .noRowToRead with
  | error fault => rw [Edit.ensureLineId_of_fault found]
  | ok k =>
    have at_k := List.getElem?_eq_getElem (lt_of_findRow found)
    rw [Edit.ensureLineId_of_findRow found at_k] at failed
    split at failed <;> exact nomatch failed

theorem Valid.evaluate_sound (h : s.Valid) : Sound s (Call.evaluate.edit.on s) := by
  simp only [Call.edit, Edit.on_bind, Edit.on_get, Edit.on_lift]
  cases outcome : s.evaluate with
  | error fault => exact .fault h fault
  | ok found =>
    obtain ⟨pass, -, made⟩ := bind_eq_ok outcome
    obtain rfl : (pass, { s with pass? := some pass }) = found := Except.ok.inj made
    change Sound s (.ok (Answer.pass pass), { s with pass? := some pass })
    refine Sound.ok (Valid.grows_of_sublist h ?_ ?_ ?_ ?_) _
    · exact h.paired
    · exact h.nonempty
    · rfl
    · exact List.Sublist.refl _

/-- What one call does to a valid sheet, unless it loads a text. -/
theorem Valid.perform_sound (h : s.Valid) {c : Call} (loads : c.loads = false)
    (normalizes : c.normalizes = false) : Sound s (s.perform c) := by
  cases c with
  | setContent content => exact .ok (h.setContent content) _
  | setLine row t => exact (h.setLine_sound row t).map _
  | insertLine row t => exact (h.insertLine_sound row t).map _
  | removeLine row => exact (h.removeLine_sound row).map _
  | setLineFormat row name => exact (h.setLineFormat_sound row name).map _
  | ensureLineId row => exact (h.ensureLineId_sound row).map _
  | referenceLine row => exact ((h.ensureLineId_sound row).map _).map _
  | normalizeRefs t => exact nomatch normalizes
  | setNormalizedContent content => exact nomatch loads
  | evaluate => exact h.evaluate_sound

theorem Valid.perform_normalizeRefs (h : s.Valid) (t : Text) :
    Grows s (s.perform (.normalizeRefs t)).2 ∧ Labels s (s.perform (.normalizeRefs t)).2 := by
  have found := h.normalizeRefs t
  rw [perform, Call.edit, Edit.on_map]
  rcases outcome : (Edit.normalizeRefs t).on s with ⟨answer, s'⟩
  rw [outcome] at found
  exact found

theorem Valid.perform_grows (h : s.Valid) {c : Call} (loads : c.loads = false) :
    Grows s (s.perform c).2 := by
  cases normalizes : c.normalizes with
  | false => exact (h.perform_sound loads normalizes).grows
  | true =>
    cases c with
    | normalizeRefs t => exact (h.perform_normalizeRefs t).1
    | _ => exact nomatch normalizes

theorem Valid.perform (h : s.Valid) (c : Call) : (s.perform c).2.Valid := by
  cases loads : c.loads with
  | false => exact (h.perform_grows loads).valid
  | true =>
    cases c with
    | setNormalizedContent content => exact valid_setNormalizedContent s content
    | _ => exact nomatch loads

theorem Valid.after (h : s.Valid) (calls : List Call) : (s.after calls).Valid := by
  induction calls generalizing s with
  | nil => exact h
  | cons c rest ih => exact ih (h.perform c)

/-- No identifier is handed out twice, whatever becomes of its line; and all of them come after
those that the sheet had counted. -/
theorem Valid.handedOut (h : s.Valid) {calls : List Call} (loads : ∀ c ∈ calls, c.loads = false) :
    (s.handedOut calls).Nodup ∧ ∀ id ∈ s.handedOut calls, s.nextId ≤ id := by
  induction calls generalizing s with
  | nil => exact ⟨List.nodup_nil, fun _ hid => nomatch hid⟩
  | cons c rest ih =>
    have grows := h.perform_grows (loads c List.mem_cons_self)
    have later := ih grows.valid fun c hc => loads c (List.mem_cons_of_mem _ hc)
    simp only [Sheet.handedOut]
    have here : ∀ id ∈ (s.perform c).2.ids.filter (· ∉ s.ids),
        s.nextId ≤ id ∧ id < (s.perform c).2.nextId := by
      intro id hid
      obtain ⟨held, new⟩ := List.mem_filter.1 hid
      have new : id ∉ s.ids := of_decide_eq_true new
      exact ⟨(grows.mem_or_le id held).resolve_left new, grows.valid.lt_nextId id held⟩
    constructor
    · refine List.Nodup.append (grows.valid.nodup.filter _) later.1 fun id hid hid' => ?_
      exact Int.lt_irrefl _ (Int.lt_of_lt_of_le (here id hid).2 (later.2 id hid'))
    · intro id hid
      rcases List.mem_append.1 hid with hid | hid
      · exact (here id hid).1
      · exact Int.le_trans grows.nextId_le (later.2 id hid)

theorem length_rows (paired : s.Paired) : s.rows.length = s.texts.length := by
  have paired : s.data.length = s.texts.length := paired
  simp [rows, paired]

theorem rows_eraseIdx (paired : s.Paired) (k : Nat) :
    rows { s with texts := s.texts.eraseIdx k, data := s.data.eraseIdx k } = s.rows.eraseIdx k := by
  simp only [rows, List.eraseIdx_eq_take_drop_succ, List.take_zipWith, List.drop_zipWith]
  rw [List.zipWith_append]
  simp [show s.data.length = s.texts.length from paired]

end CalcSheet.Sheet
