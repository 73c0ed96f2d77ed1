import ClubOffice.Plan.Transcript
import ClubOffice.Proofs.Audit.Listing
import ClubOffice.Proofs.Table.Rows

/-!
# Pages of the trail

The trail in memory and the table of audited events are read through the same window on their
entries: what a query selects, without what it skips, up to the size of a page. They differ in one
thing, that the table never skips more than a fixed number of entries. As long as no page begins
beyond that, the pages of either, one after the other, show each entry that is selected once.
-/

namespace ClubOffice

namespace Table

open Audit

theorem exchange_finish {α σ : Type} (serve : Server link σ) (statement : Statement)
    (fault : String → Fault) (result : statement.Answer → Except Fault α) (state : σ) :
    (finish statement fault result).transcript serve state =
      [⟨.execute statement, (serve (.execute statement) state).1⟩] := by
  cases answered : (serve (.execute statement) state).1 with
  | ok answer => simp [finish, query, Plan.transcript, answered]
  | error failure => simp [finish, query, Plan.transcript, answered]

/-- One statement is all that is asked, whatever it is answered with. -/
theorem transcript_finish {α σ : Type} (serve : Server link σ) (statement : Statement)
    (fault : String → Fault) (result : statement.Answer → Except Fault α) (state : σ) :
    ((finish statement fault result).transcript serve state).map (·.1) = [.execute statement] := by
  rw [exchange_finish]
  rfl

/-- The rows of the table of audited events, in the order in which the table lists them. -/
structure AuditTable where
  rows : List AuditRow

namespace AuditTable

/-- Whether a row is of the source and of one of the severities, where these are given. -/
def matching (source : Option String) (severities : Option (List String)) (row : AuditRow) : Bool :=
  source.all (row.source = ·) && severities.all (row.severity ∈ ·)

def page (table : AuditTable) (source : Option String) (severities : Option (List String))
    (limit offset : Nat) : List AuditRow :=
  ((table.rows.filter (matching source severities)).drop offset).take limit

def execute : (statement : Statement) → AuditTable → Except Failure statement.Answer
  | .selectPage source severities limit offset, table =>
      .ok (table.page source severities limit offset)
  | statement, _ => .ok statement.nothing

/-- A table that is only read answers requests. -/
def serve (table : AuditTable) : Server link Supply
  | .begin, supply => (.ok (), supply)
  | .commit, supply => (.ok (), supply)
  | .execute statement, supply => (table.execute statement, supply)
  | .freshId, supply => supply.take

/-- The table that lists the rows of the entries. -/
def ofEntries (listed : List Entry) : AuditTable := ⟨listed.map AuditRow.ofEntry⟩

end AuditTable

namespace Audits

theorem word_mem_wordsFrom_iff (least severity : Severity) :
    severity.word ∈ wordsFrom least ↔ least ≤ severity := by
  cases least <;> cases severity <;> decide

/-- What is said to the table selects the rows of the entries that the query selects. -/
theorem matching_ofEntry (query : Query) (entry : Entry) :
    AuditTable.matching query.source (query.atLeast.map wordsFrom) (.ofEntry entry) =
      query.selects entry := by
  have severities : (query.atLeast.map wordsFrom).all (entry.severity.word ∈ ·) =
      query.atLeast.all (· ≤ entry.severity) := by
    cases query.atLeast with
    | none => rfl
    | some least => simp [word_mem_wordsFrom_iff]
  exact congrArg (query.source.all (entry.source = ·) && ·) severities

/-- The query with an offset no greater than what is asked of the table. -/
def capped (query : Query) : Query := { query with offset := min query.offset maxOffset }

theorem capped_eq_self {query : Query} (within : query.offset ≤ maxOffset) :
    capped query = query := by
  have offset : min query.offset maxOffset = query.offset := Nat.min_eq_left within
  rw [capped, offset]

/-- The table shows what the capped query shows of the entries that it lists. -/
theorem run_page (query : Query) (listed : List Entry) (supply : Supply) :
    (page query).run (AuditTable.ofEntries listed).serve supply =
      (.ok ((capped query).window listed), supply) := by
  have same : AuditTable.matching query.source (query.atLeast.map wordsFrom) ∘ AuditRow.ofEntry =
      query.selects := funext (matching_ofEntry query)
  have rows : (AuditTable.ofEntries listed).page query.source (query.atLeast.map wordsFrom)
      (Query.pageSize query.limit) (min query.offset maxOffset) =
        ((capped query).window listed).map AuditRow.ofEntry := by
    rw [AuditTable.page, AuditTable.ofEntries, List.filter_map, same, ← List.map_drop,
      ← List.map_take]
    rfl
  have read : (((capped query).window listed).map AuditRow.ofEntry).mapM AuditRow.read =
      .ok ((capped query).window listed) :=
    mapM_map_eq_ok fun entry _ => AuditRow.read_ofEntry entry
  rw [← rows] at read
  exact congrArg (·, supply) read

/-- Something can always be selected: it is of the source and of the severity that are given. -/
theorem exists_selected (query : Query) : ∃ entry, query.selects entry = true := by
  obtain ⟨limit, offset, source, atLeast⟩ := query
  refine ⟨⟨⟨.ofNat 1⟩, ⟨.ofNat 2⟩, source.getD "", "", atLeast.getD .info, .epoch⟩, ?_⟩
  rw [Query.selects, Bool.and_eq_true]
  constructor
  · cases source <;> simp
  · cases atLeast with
    | none => rfl
    | some least => exact decide_eq_true (Nat.le_refl least.rank)

theorem window_replicate {query : Query} {entry : Entry} (selected : query.selects entry = true)
    (count : Nat) :
    query.window (List.replicate count entry) =
      List.replicate (min (Query.pageSize query.limit) (count - query.offset)) entry := by
  rw [Query.window, List.filter_replicate_of_pos selected, List.drop_replicate, List.take_replicate]

/-- The table shows another window than the trail does just if its offset is too large: of one
selected entry more than the largest offset, the table leaves one and the trail none. -/
theorem run_page_eq_window_iff (query : Query) :
    (∀ listed supply, ((page query).run (AuditTable.ofEntries listed).serve supply).1 =
      .ok (query.window listed)) ↔ query.offset ≤ maxOffset := by
  constructor
  · intro agree
    obtain ⟨entry, selected⟩ := exists_selected query
    have selected' : (capped query).selects entry = true := selected
    have same := agree (List.replicate (maxOffset + 1) entry) ⟨0⟩
    rw [run_page] at same
    have lengths := congrArg List.length (Except.ok.inj same)
    have size : 1 ≤ Query.pageSize query.limit := Nat.le_max_left _ _
    rw [window_replicate selected', window_replicate selected, List.length_replicate,
      List.length_replicate] at lengths
    simp only [capped] at lengths
    omega
  · intro within listed supply
    rw [run_page, capped_eq_self within]

/-- The window that is asked of the table is the one that is shown in memory, just if it begins
within the largest offset that is asked for; and then the pages, one after the other, show what is
selected, each entry once and in its order, in either. -/
theorem table_shows_same_window (query : Query) :
    (∀ (σ : Type) (serve : Server link σ) (state : σ),
      ((page query).transcript serve state).map (·.1) =
        [.execute (.selectPage query.source (query.atLeast.map wordsFrom)
          (Query.pageSize query.limit) (min query.offset maxOffset))]) ∧
    (∀ entry, AuditTable.matching query.source (query.atLeast.map wordsFrom) (.ofEntry entry) =
      query.selects entry) ∧
    (∀ trail : Trail, trail.page query = query.window trail.listed) ∧
    (∀ listed supply,
      ((page query).run (AuditTable.ofEntries listed).serve supply).1 =
        .ok ((capped query).window listed)) ∧
    ((∀ listed supply, ((page query).run (AuditTable.ofEntries listed).serve supply).1 =
      .ok (query.window listed)) ↔ query.offset ≤ maxOffset) ∧
    (∀ (trail : Trail) count,
      ((List.range count).map fun number => trail.page (query.turnTo number)).flatten =
        (trail.listed.filter query.selects).take (count * Query.pageSize query.limit)) ∧
    ∀ listed supply count,
      (∀ number < count, number * Query.pageSize query.limit ≤ maxOffset) →
        ∃ pages : List (List Entry),
          ((List.range count).map fun number =>
            ((page (query.turnTo number)).run (AuditTable.ofEntries listed).serve supply).1) =
              pages.map .ok ∧
          pages.flatten =
            (listed.filter query.selects).take (count * Query.pageSize query.limit) := by
  refine ⟨?asked, matching_ofEntry query, ?shown, ?answered, run_page_eq_window_iff query,
    ?inMemory, ?inTable⟩
  case asked => exact fun σ serve state => transcript_finish serve _ _ _ state
  case shown => exact fun trail => trail.page_eq_window query
  case answered =>
    intro listed supply
    rw [run_page]
  case inMemory =>
    intro trail count
    simp only [Trail.page_eq_window]
    exact query.flatten_windows trail.listed count
  case inTable =>
    intro listed supply count within
    refine ⟨(List.range count).map fun number => (query.turnTo number).window listed, ?_,
      query.flatten_windows listed count⟩
    rw [List.map_map]
    apply List.map_congr_left
    intro number member
    have early : (query.turnTo number).offset ≤ maxOffset :=
      within number (List.mem_range.1 member)
    rw [run_page, capped_eq_self early]
    rfl

def descent : Entry := ⟨⟨.ofNat 1⟩, ⟨.ofNat 2⟩, "dives", "descent", .info, .epoch⟩

def alarm : Entry := ⟨⟨.ofNat 3⟩, ⟨.ofNat 2⟩, "dives", "alarm", .error, .epoch⟩

def ascent : Entry := ⟨⟨.ofNat 4⟩, ⟨.ofNat 2⟩, "dives", "ascent", .warning, .epoch⟩

/-- What is grave about a dive, one entry a page. -/
def graveOfDives : Query := ⟨0, 7, some "dives", some .warning⟩

/-- Two pages show what is grave about a dive, from the table as well as in memory. -/
theorem graveOfDives_is_shown :
    (∀ number < 2, number * Query.pageSize graveOfDives.limit ≤ maxOffset) ∧
      ((page graveOfDives).run (AuditTable.ofEntries [ascent, alarm, descent]).serve ⟨0⟩).1 =
        .ok (graveOfDives.window [ascent, alarm, descent]) ∧
      ((List.range 2).map fun number =>
        (⟨[descent, alarm, ascent]⟩ : Trail).page (graveOfDives.turnTo number)).flatten =
          [ascent, alarm] ∧
      ∃ pages : List (List Entry),
        ((List.range 2).map fun number =>
          ((page (graveOfDives.turnTo number)).run
            (AuditTable.ofEntries [ascent, alarm, descent]).serve ⟨0⟩).1) = pages.map .ok ∧
        pages.flatten = [ascent, alarm] := by
  obtain ⟨_, _, _, _, whole, inMemory, inTable⟩ := table_shows_same_window graveOfDives
  have within : ∀ number < 2, number * Query.pageSize graveOfDives.limit ≤ maxOffset := by decide
  refine ⟨within, whole.2 (by decide) _ _, ?_, ?_⟩
  · rw [inMemory]
    decide
  · obtain ⟨pages, replies, shown⟩ := inTable [ascent, alarm, descent] ⟨0⟩ 2 within
    refine ⟨pages, replies, ?_⟩
    rw [shown]
    decide

def beyondLargest : Query := ⟨50, 10001, none, none⟩

/-- An offset that is one beyond the largest one skips all of as many entries in memory. The table
is asked to skip one entry less, and shows that one. -/
theorem offset_is_capped :
    (∀ (σ : Type) (serve : Server link σ) (state : σ),
      ((page beyondLargest).transcript serve state).map (·.1) =
        [.execute (.selectPage none none 50 10000)]) ∧
      (⟨List.replicate 10001 descent⟩ : Trail).page beyondLargest = [] ∧
      ((page beyondLargest).run
        (AuditTable.ofEntries (List.replicate 10001 descent)).serve ⟨0⟩).1 = .ok [descent] := by
  refine ⟨fun σ serve state => transcript_finish serve _ _ _ state, ?_, ?_⟩
  · have ordered : (List.replicate 10001 descent).Pairwise fun a b =>
        decide (b.time ≤ a.time) = true :=
      List.pairwise_replicate.2 (.inr (by decide))
    rw [Trail.page_eq_window, Trail.listed, List.reverse_replicate, sorted_eq_self ordered,
      window_replicate (by decide)]
    rfl
  · rw [run_page, window_replicate (by decide)]
    rfl

end Audits

end Table

end ClubOffice
