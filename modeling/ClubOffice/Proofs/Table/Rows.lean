import ClubOffice.Audit.Trail
import ClubOffice.Proofs.Event.Restoring
import ClubOffice.Table.Audits
import ClubOffice.Table.Events
import ClubOffice.Table.Ideal
import Mathlib.Data.List.Forall2

/-!
# What rows tell

A row of a table tells all of the event, or of the entry of the trail, that it is the row of: it is
read as that event or entry, and a statement that looks at the row selects it as the event or entry
itself would be selected. Several rows are read one after the other, up to the first that cannot be
read.
-/

namespace ClubOffice.Table

open Audit Event

section Lists

variable {ρ α ε : Type} {read : ρ → Except ε α} {row : ρ} {rows : List ρ}

theorem mapM_cons_of_error {fault : ε} (here : read row = .error fault) :
    (row :: rows).mapM read = .error fault := by
  rw [List.mapM_cons, here]
  rfl

theorem mapM_cons_of_ok {a : α} (here : read row = .ok a) :
    (row :: rows).mapM read = (a :: ·) <$> rows.mapM read := by
  rw [List.mapM_cons, here]
  cases rows.mapM read <;> rfl

theorem mapM_eq_ok_iff {list : List α} :
    rows.mapM read = .ok list ↔ List.Forall₂ (fun row a => read row = .ok a) rows list := by
  induction rows generalizing list with
  | nil => cases list <;> simp [pure, Except.pure]
  | cons row rows ih =>
      cases here : read row with
      | error fault => cases list <;> simp [mapM_cons_of_error here, here]
      | ok a =>
          rw [mapM_cons_of_ok here]
          cases later : rows.mapM read with
          | error fault => cases list <;> simp [← ih, later]
          | ok others => cases list <;> simp [← ih, later, here]

/-- The fault is that of the first row that cannot be read. -/
def FirstFault (read : ρ → Except ε α) (rows : List ρ) (fault : ε) : Prop :=
  ∃ before bad after, rows = before ++ bad :: after ∧
    (∀ row ∈ before, ∃ a, read row = .ok a) ∧ read bad = .error fault

theorem firstFault_cons_iff {fault : ε} :
    FirstFault read (row :: rows) fault ↔
      read row = .error fault ∨ (∃ a, read row = .ok a) ∧ FirstFault read rows fault := by
  constructor
  · rintro ⟨before, bad, after, whole, fine, wrong⟩
    cases before with
    | nil =>
        cases whole
        exact .inl wrong
    | cons first before =>
        cases whole
        obtain ⟨here, fine⟩ := List.forall_mem_cons.1 fine
        exact .inr ⟨here, before, bad, after, rfl, fine, wrong⟩
  · rintro (wrong | ⟨here, before, bad, after, rfl, fine, wrong⟩)
    · exact ⟨[], row, rows, rfl, List.forall_mem_nil _, wrong⟩
    · exact ⟨row :: before, bad, after, rfl, List.forall_mem_cons.2 ⟨here, fine⟩, wrong⟩

theorem mapM_eq_error_iff {fault : ε} :
    rows.mapM read = .error fault ↔ FirstFault read rows fault := by
  induction rows with
  | nil => simp [FirstFault, pure, Except.pure]
  | cons row rows ih =>
      rw [firstFault_cons_iff, ← ih]
      cases here : read row with
      | error found => simp [mapM_cons_of_error here]
      | ok a =>
          rw [mapM_cons_of_ok here]
          cases rows.mapM read <;> simp

theorem mapM_fails_iff :
    (∃ fault, rows.mapM read = .error fault) ↔ ∃ row ∈ rows, ∃ fault, read row = .error fault := by
  induction rows with
  | nil => simp [pure, Except.pure]
  | cons row rows ih =>
      rw [List.exists_mem_cons_iff, ← ih]
      cases here : read row with
      | error fault => simp [mapM_cons_of_error here]
      | ok a =>
          rw [mapM_cons_of_ok here]
          cases rows.mapM read <;> simp

/-- What is written to rows one by one is read from all of them. -/
theorem mapM_map_eq_ok {write : α → ρ} {list : List α}
    (reads : ∀ a ∈ list, read (write a) = .ok a) : (list.map write).mapM read = .ok list := by
  rw [mapM_eq_ok_iff, List.forall₂_map_left_iff]
  exact List.forall₂_same.2 reads

end Lists

namespace EventRow

variable {event : Event}

theorem word_inj (status other : Status) : status.word = other.word ↔ status = other := by
  constructor
  · intro same
    have read := Status.ofWord?_word status
    rw [same, Status.ofWord?_word] at read
    exact (Option.some.inj read).symm
  · exact congrArg _

theorem key_ofEvent_eq_iff (key : EventKey) : (ofEvent event).key = key.uuid ↔ event.key = key :=
  ⟨fun same => congrArg Key.mk same, congrArg Key.uuid⟩

theorem matching_ofEvent_iff (key : EventKey) (expected : Status) :
    EventTable.matching key.uuid expected.word (ofEvent event) = true ↔
      event.key = key ∧ event.status = expected := by
  rw [EventTable.matching, Bool.and_eq_true, decide_eq_true_iff, decide_eq_true_iff,
    key_ofEvent_eq_iff]
  exact and_congr_right' (word_inj _ _)

theorem due_ofEvent (now : Time.Instant) :
    (decide ((ofEvent event).status = "open") && decide ((ofEvent event).endsAt ≤ now)) =
      event.isDue now := by
  have standing : event.status.word = "open" ↔ event.status = .opened := word_inj _ .opened
  rw [Bool.eq_iff_iff, isDue_iff, Bool.and_eq_true, decide_eq_true_iff, decide_eq_true_iff]
  exact and_congr_left' standing

/-- What the event of a row would be planned from. -/
def draft (row : EventRow) : Draft := ⟨row.title, row.startsAt, row.endsAt⟩

theorem read_of_known {row : EventRow} {status : Status} (standing : row.status = status.word) :
    row.read = restore ⟨row.key⟩ row.draft status := by
  simp only [read, Status.read, standing, Status.ofWord?_word]
  rfl

/-- The row of a sound event is read as that event. -/
theorem read_ofEvent (sound : event.Sound) : (ofEvent event).read = .ok event := by
  have standing : (ofEvent event).status = event.status.word := rfl
  rw [read_of_known standing, restore_eq_ok_iff]
  exact ⟨sound, rfl, rfl, rfl⟩

end EventRow

namespace AuditRow

def ofEntry (entry : Entry) : AuditRow :=
  ⟨entry.key.uuid, entry.trace.uuid, entry.source, entry.message, entry.severity.word, entry.time⟩

theorem read_of_known {row : AuditRow} {severity : Severity}
    (standing : row.severity = severity.word) :
    row.read = .ok ⟨⟨row.key⟩, ⟨row.trace⟩, row.source, row.message, severity, row.time⟩ := by
  simp only [read, Severity.read, standing, Severity.ofWord?_word]
  rfl

theorem read_ofEntry (entry : Entry) : (ofEntry entry).read = .ok entry :=
  read_of_known rfl

end AuditRow

end ClubOffice.Table
