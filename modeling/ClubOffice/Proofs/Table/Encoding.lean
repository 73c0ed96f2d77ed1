import ClubOffice.Proofs.Table.Paging

/-!
# Rows and what they are the rows of

What is bound to the statement that keeps an event, or a line of the trail, makes the row of it, and
the row is read as what it was made of. The other way round, a row that is read is the row that
would be made of the result, and it is said exactly which rows cannot be read and what is found
wrong with them. Several rows are read one after the other, up to the first that cannot be read.
-/

namespace ClubOffice.Table

open Audit Event

/-- Whatever it is answered with, the plan executes one statement, and what is bound to that makes
the row. -/
def Binds {ρ α : Type} (plan : Plan link α) (make : List Parameter → Option ρ) (row : ρ) : Prop :=
  ∃ statement : Statement,
    (∀ (σ : Type) (serve : Server link σ) (state : σ),
      (plan.transcript serve state).map (·.1) = [.execute statement]) ∧
    make statement.parameters = some row

theorem binds_finish_iff {ρ α : Type} {statement : Statement} {fault : String → Fault}
    {result : statement.Answer → Except Fault α} {make : List Parameter → Option ρ} {row : ρ} :
    Binds (finish statement fault result) make row ↔ make statement.parameters = some row := by
  constructor
  · rintro ⟨asked, only, made⟩
    have asks := only Supply (AuditTable.ofEntries []).serve ⟨0⟩
    rw [transcript_finish] at asks
    cases asks
    exact made
  · intro made
    exact ⟨statement, fun _ serve state => transcript_finish serve _ _ _ state, made⟩

/-- The plan executes one statement. It ends with what the rows of the answer are read as, in their
order, or with the fault of the first that cannot be read. -/
def ReadsRows {ρ α : Type} (plan : Plan link (Except Fault (List α))) (statement : Statement)
    (rowsOf : statement.Answer → List ρ) (read : ρ → Except Fault α) : Prop :=
  ∀ (σ : Type) (serve : Server link σ) (state : σ),
    ∃ reply : Except Failure statement.Answer,
      plan.transcript serve state = [⟨.execute statement, reply⟩] ∧
      match reply with
      | .error _ => ∃ cause, (plan.run serve state).1 = .error (.internal cause)
      | .ok answer =>
          (∀ list, (plan.run serve state).1 = .ok list ↔
            List.Forall₂ (fun row a => read row = .ok a) (rowsOf answer) list) ∧
          ∀ fault, (plan.run serve state).1 = .error fault ↔ FirstFault read (rowsOf answer) fault

theorem readsRows_finish {ρ α : Type} {statement : Statement} {cause : String → String}
    {rowsOf : statement.Answer → List ρ} {read : ρ → Except Fault α} :
    ReadsRows (finish statement (fun text => .internal (cause text))
      fun answer => (rowsOf answer).mapM read) statement rowsOf read := by
  intro σ serve state
  refine ⟨(serve (.execute statement) state).1, ?_, ?_⟩
  · exact exchange_finish serve _ _ _ state
  · cases answered : (serve (.execute statement) state).1 with
    | error failure =>
        refine ⟨cause failure.message, ?_⟩
        simp only [finish, query, Plan.run, answered]
    | ok answer =>
        simp only [finish, query, Plan.run, answered]
        exact ⟨fun list => mapM_eq_ok_iff, fun fault => mapM_eq_error_iff⟩

theorem find?_word_eq_none {κ : Type} {word : κ → String} {all : List κ} {text : String}
    (never : ∀ kind, text ≠ word kind) : all.find? (word · = text) = none := by
  refine List.find?_eq_none.2 fun kind _ => ?_
  rw [decide_eq_true_iff]
  exact (never kind).symm

namespace EventRow

variable {row : EventRow} {event : Event}

/-- The row that the values bound to a statement make. -/
def ofParameters? : List Parameter → Option EventRow
  | [.uuid key, .text title, .time startsAt, .time endsAt, .text status] =>
      some ⟨key, title, startsAt, endsAt, status⟩
  | _ => none

/-- What can be wrong with a row, in the order in which it is looked for. -/
inductive Faulty (row : EventRow) : Fault → Prop
  | unknown (never : ∀ status : Status, row.status ≠ status.word) :
      Faulty row (.validation s!"unknown club event status '{row.status}'")
  | early {status : Status} (standing : row.status = status.word)
      (early : row.endsAt < row.startsAt) : Faulty row (endsTooEarly row.draft)
  | blank {status : Status} (standing : row.status = status.word)
      (late : row.startsAt ≤ row.endsAt) (blank : Text.isBlank row.title.toList = true) :
      Faulty row Label.blank

theorem binds_save_iff : Binds (Events.save event) ofParameters? row ↔ row = ofEvent event := by
  rw [Events.save, binds_finish_iff]
  exact ⟨fun same => (Option.some.inj same).symm, fun same => same ▸ rfl⟩

theorem read_of_unknown (never : ∀ status : Status, row.status ≠ status.word) :
    row.read = .error (.validation s!"unknown club event status '{row.status}'") := by
  have unread : Status.ofWord? row.status = none := find?_word_eq_none never
  simp only [read, Status.read, unread]
  rfl

theorem read_eq_error_iff {fault : Fault} : row.read = .error fault ↔ row.Faulty fault := by
  -- Only where the status is known are the times and the title looked at.
  by_cases known : ∃ status : Status, row.status = status.word
  · obtain ⟨status, standing⟩ := known
    rw [read_of_known standing, restore_eq_error_iff]
    constructor
    · rintro (⟨early, rfl⟩ | ⟨late, blank, rfl⟩)
      · exact .early standing early
      · exact .blank standing late blank
    · intro faulty
      cases faulty with
      | unknown never => exact absurd standing (never status)
      | early _ early => exact .inl ⟨early, rfl⟩
      | blank _ late blank => exact .inr ⟨late, blank, rfl⟩
  · have never : ∀ status : Status, row.status ≠ status.word := not_exists.1 known
    rw [read_of_unknown never]
    constructor
    · intro same
      cases same
      exact .unknown never
    · intro faulty
      cases faulty with
      | unknown => rfl
      | early standing => exact absurd standing (never _)
      | blank standing => exact absurd standing (never _)

/-- A row is read as an event just if the event is sound and the row is its own. -/
theorem read_eq_ok_iff : row.read = .ok event ↔ event.Sound ∧ row = ofEvent event := by
  constructor
  · intro told
    by_cases known : ∃ status : Status, row.status = status.word
    · obtain ⟨status, standing⟩ := known
      rw [read_of_known standing] at told
      obtain ⟨sound, key, draft, rfl⟩ := restore_eq_ok_iff.1 told
      obtain ⟨title, startsAt, endsAt⟩ : event.title.text = row.title ∧
          event.startsAt = row.startsAt ∧ event.endsAt = row.endsAt := by
        simpa [Event.draft, EventRow.draft] using draft
      refine ⟨sound, ?_⟩
      rw [ofEvent, key, title, startsAt, endsAt, ← standing]
    · rw [read_of_unknown (not_exists.1 known)] at told
      cases told
  · rintro ⟨sound, rfl⟩
    exact read_ofEvent sound

end EventRow

namespace AuditRow

variable {row : AuditRow} {entry : Entry}

/-- The row that the values bound to a statement make, under a key. -/
def ofParameters? (key : Uuid) : List Parameter → Option AuditRow
  | [.uuid trace, .text source, .text message, .text severity, .time time] =>
      some ⟨key, trace, source, message, severity, time⟩
  | _ => none

/-- The record of what an entry says. -/
def recordOf (entry : Entry) : Record :=
  ⟨entry.trace, ⟨⟨entry.source⟩⟩, entry.message, entry.severity, entry.time⟩

theorem binds_append_iff {record : Record} {key : Uuid} :
    Binds (Audits.append record) (ofParameters? key) row ↔ row = ofRecord key record := by
  rw [Audits.append, binds_finish_iff]
  exact ⟨fun same => (Option.some.inj same).symm, fun same => same ▸ rfl⟩

theorem read_of_unknown (never : ∀ severity : Severity, row.severity ≠ severity.word) :
    row.read = .error (.validation s!"unknown audit level value '{row.severity}'") := by
  have unread : Severity.ofWord? row.severity = none := find?_word_eq_none never
  simp only [read, Severity.read, unread]
  rfl

/-- Only an unknown severity can be wrong with the row of an entry. -/
theorem read_eq_error_iff {fault : Fault} :
    row.read = .error fault ↔ (∀ severity : Severity, row.severity ≠ severity.word) ∧
      fault = .validation s!"unknown audit level value '{row.severity}'" := by
  by_cases known : ∃ severity : Severity, row.severity = severity.word
  · obtain ⟨severity, standing⟩ := known
    rw [read_of_known standing]
    exact ⟨fun same => (nomatch same), fun ⟨never, _⟩ => absurd standing (never severity)⟩
  · have never : ∀ severity : Severity, row.severity ≠ severity.word := not_exists.1 known
    rw [read_of_unknown never]
    exact ⟨fun same => ⟨never, (Except.error.inj same).symm⟩, fun ⟨_, same⟩ => same ▸ rfl⟩

theorem read_eq_ok_iff : row.read = .ok entry ↔ row = ofRecord entry.key.uuid (recordOf entry) := by
  constructor
  · intro told
    by_cases known : ∃ severity : Severity, row.severity = severity.word
    · obtain ⟨severity, standing⟩ := known
      rw [read_of_known standing] at told
      cases told
      rw [ofRecord, recordOf, ← standing]
      rfl
    · rw [read_of_unknown (not_exists.1 known)] at told
      cases told
  · rintro rfl
    exact read_ofEntry entry

end AuditRow

/-- What is bound for a sound event, or for a record under any key, is read as it was. A row is read
just if it is what would be bound for the result, and otherwise it is said what is wrong with it.
What lists rows reads all of them in order, or ends with the fault of the first that is wrong. -/
theorem rows_are_what_is_bound :
    (∀ event : Event, event.Sound →
      ∃ row, Binds (Events.save event) EventRow.ofParameters? row ∧ row.read = .ok event) ∧
    (∀ (record : Record) (key : Uuid),
      ∃ row, Binds (Audits.append record) (AuditRow.ofParameters? key) row ∧
        row.read = .ok (.ofRecord ⟨key⟩ record)) ∧
    (∀ (row : EventRow) (fault : Fault), row.read = .error fault ↔ row.Faulty fault) ∧
    (∀ (row : EventRow) (event : Event), row.read = .ok event ↔
      event.Sound ∧ Binds (Events.save event) EventRow.ofParameters? row) ∧
    (∀ (row : AuditRow) (fault : Fault), row.read = .error fault ↔
      (∀ severity : Severity, row.severity ≠ severity.word) ∧
        fault = .validation s!"unknown audit level value '{row.severity}'") ∧
    (∀ (row : AuditRow) (entry : Entry), row.read = .ok entry ↔
      Binds (Audits.append (AuditRow.recordOf entry)) (AuditRow.ofParameters? entry.key.uuid) row) ∧
    (∀ now, ReadsRows (Events.due now) (.selectDue now) id EventRow.read) ∧
    (∀ query : Query, ReadsRows (Audits.page query)
      (.selectPage query.source (query.atLeast.map Audits.wordsFrom) (Query.pageSize query.limit)
        (min query.offset Audits.maxOffset)) id AuditRow.read) ∧
    ∀ trace, ReadsRows (Audits.trace trace) (.selectTrace trace.uuid) id AuditRow.read := by
  refine ⟨?saved, ?appended, fun _ _ => EventRow.read_eq_error_iff, ?event,
    fun _ _ => AuditRow.read_eq_error_iff, ?entry, fun _ => readsRows_finish,
    fun _ => readsRows_finish, fun _ => readsRows_finish⟩
  case saved =>
    intro event sound
    exact ⟨.ofEvent event, EventRow.binds_save_iff.2 rfl, EventRow.read_ofEvent sound⟩
  case appended =>
    intro record key
    exact ⟨.ofRecord key record, AuditRow.binds_append_iff.2 rfl,
      AuditRow.read_ofEntry (.ofRecord ⟨key⟩ record)⟩
  case event =>
    intro row event
    rw [EventRow.binds_save_iff, EventRow.read_eq_ok_iff]
  case entry =>
    intro row entry
    rw [AuditRow.binds_append_iff, AuditRow.read_eq_ok_iff]

def matinee : Event := ⟨⟨.ofNat 9⟩, ⟨"Matinee"⟩, .epoch, .epoch, .opened⟩

/-- A row of which the status and the title are wrong. -/
def smudged : EventRow := { EventRow.ofEvent matinee with title := " ", status := "planned" }

/-- A matinee is read as it was saved. Of the smudged row only the status is said to be wrong, and a
list that begins with the good row ends with what is wrong with the other. -/
theorem matinee_is_read_as_saved :
    matinee.Sound ∧
      (∃ row, Binds (Events.save matinee) EventRow.ofParameters? row ∧ row.read = .ok matinee) ∧
      smudged.read = .error (.validation "unknown club event status 'planned'") ∧
      FirstFault EventRow.read [EventRow.ofEvent matinee, smudged]
        (.validation "unknown club event status 'planned'") := by
  obtain ⟨saved, _, wrong, _⟩ := rows_are_what_is_bound
  have sound : matinee.Sound := by decide
  have never : ∀ status : Status, smudged.status ≠ status.word := by
    intro status
    cases status <;> decide
  have read : smudged.read = .error (.validation "unknown club event status 'planned'") :=
    (wrong _ _).2 (.unknown never)
  refine ⟨sound, saved matinee sound, read, [EventRow.ofEvent matinee], smudged, [], rfl, ?_, read⟩
  exact fun row member => ⟨matinee, List.mem_singleton.1 member ▸ EventRow.read_ofEvent sound⟩

end ClubOffice.Table
