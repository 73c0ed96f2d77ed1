import ClubOffice.Audit.Retention
import ClubOffice.Proofs.Audit.Bracketing
import ClubOffice.Proofs.Plan.Run
import Mathlib.Algebra.Order.Ring.Nat
import Mathlib.Data.List.Forall2

/-!
# What a trail holds

A trail that is written to, read and purged, in any order, holds what was written and outlived every
purge that came afterwards, in the order of writing. Times may be of any age and cutoffs may go back
and forth: what counts for a record are only the purges that come after it.
-/

namespace ClubOffice.Audit

open Manner Time

/-- Whether an entry tells of the record as it was written. -/
def Entry.Tells (entry : Entry) (record : Record) : Prop := ∃ key, entry = .ofRecord key record

namespace Trail

/-- What a trail does with the requests of those who read it and keep it short, and of those who
write to it. The entry of a record gets a key from outside. -/
def keeps : Manner (archive.plus ambient) Trail
  | .inl request, trail, reply, after => ∃ now, Trail.serve now request trail = (reply, after)
  | .inr (.write record), trail, reply, after =>
      reply = .ok () ∧ ∃ key, after = trail.append (.ofRecord key record)
  | .inr _, trail, _, after => after = trail

/-- The cutoff of a purge, with the number of entries that it was said to have removed. -/
def purge? : Exchange (archive.plus ambient) → Option (Instant × Nat)
  | ⟨.inl (.purge cutoff), .ok count⟩ => some (cutoff, count)
  | _ => none

/-- Whether the time is before none of the cutoffs. -/
def outlives (later : List (Exchange (archive.plus ambient))) (time : Instant) : Bool :=
  (later.filterMap purge?).all (·.1 ≤ time)

/-- The records that were written and outlive all purges that came afterwards. -/
def survivors : List (Exchange (archive.plus ambient)) → List Record
  | [] => []
  | exchange :: later =>
      match attempt? exchange with
      | none => survivors later
      | some record =>
          if outlives later record.time then record :: survivors later else survivors later

/-- The number of entries that purges were said to have removed. -/
def removed (asked : List (Exchange (archive.plus ambient))) : Nat :=
  ((asked.filterMap purge?).map (·.2)).sum

variable {trail after last : Trail} {asked later : List (Exchange (archive.plus ambient))}

theorem survivors_sublist (asked : List (Exchange (archive.plus ambient))) :
    (survivors asked).Sublist (attempted asked) := by
  induction asked with
  | nil => exact .slnil
  | cons exchange later ih =>
      rw [attempted, List.filterMap_cons, survivors]
      cases attempt? exchange with
      | none => exact ih
      | some record =>
          simp only
          split
          · exact ih.cons_cons record
          · exact ih.cons record

/-- What an exchange does to a trail: nothing, a purge, or one entry more. -/
inductive Keeps (trail : Trail) : Exchange (archive.plus ambient) → Trail → Prop
  | idle (exchange : Exchange (archive.plus ambient)) (unpurged : purge? exchange = none)
      (unwritten : attempt? exchange = none) : Keeps trail exchange trail
  | purge (cutoff : Instant) :
      Keeps trail ⟨.inl (.purge cutoff), .ok (trail.purged cutoff)⟩ (trail.purge cutoff)
  | write (record : Record) (key : EntryKey) :
      Keeps trail ⟨.inr (.write record), .ok ()⟩ (trail.append (.ofRecord key record))

theorem keeps_cases {request : (archive.plus ambient).Request}
    {reply : (archive.plus ambient).Reply request} (replied : keeps request trail reply after) :
    Keeps trail ⟨request, reply⟩ after := by
  rcases request with request | _ | _ | record
  · obtain ⟨now, served⟩ := replied
    cases request with
    | purge cutoff =>
        cases served
        exact .purge cutoff
    | _ =>
        cases served
        exact .idle _ rfl rfl
  · cases replied
    exact .idle _ rfl rfl
  · cases replied
    exact .idle _ rfl rfl
  · obtain ⟨rfl, key, rfl⟩ := replied
    exact .write record key

theorem outlives_cons_idle {exchange : Exchange (archive.plus ambient)}
    (unpurged : purge? exchange = none) : outlives (exchange :: later) = outlives later := by
  funext time
  rw [outlives, List.filterMap_cons_none unpurged, outlives]

/-- What is exchanged with a trail takes from it what the purges reach, and adds to it the records
that outlive the purges after them. -/
theorem run_keeps (run : Run keeps trail asked after) :
    ∃ added,
      after.entries = trail.entries.filter (fun entry => outlives asked entry.time) ++ added ∧
        List.Forall₂ Entry.Tells added (survivors asked) := by
  induction run with
  | nil trail =>
      refine ⟨[], ?_, .nil⟩
      rw [List.append_nil]
      exact (List.filter_eq_self.2 fun entry _ => rfl).symm
  | @cons request reply trail next after asked replied _ ih =>
      obtain ⟨added, held, told⟩ := ih
      cases keeps_cases replied with
      | idle _ unpurged unwritten =>
          rw [survivors, unwritten, outlives_cons_idle unpurged]
          exact ⟨added, held, told⟩
      | purge cutoff =>
          refine ⟨added, ?_, told⟩
          rw [held, purge, List.filter_filter]
          exact congrArg (· ++ added) (List.filter_congr fun entry _ => Bool.and_comm _ _)
      | write record key =>
          rw [entries_append, List.filter_append] at held
          have unpurged : purge? ⟨.inr (.write record), .ok ()⟩ = none := rfl
          rw [survivors, outlives_cons_idle unpurged]
          -- Whether the record stays is decided by the purges after it, and by nothing before it.
          by_cases lasts : outlives asked record.time = true
          · have kept : [Entry.ofRecord key record].filter (outlives asked ·.time) =
                [Entry.ofRecord key record] :=
              List.filter_eq_self.2 (List.forall_mem_singleton.2 lasts)
            refine ⟨.ofRecord key record :: added, ?_, ?_⟩
            · rw [held, kept, List.append_assoc, List.singleton_append]
            · simp only [attempt?, lasts, if_true]
              exact .cons ⟨key, rfl⟩ told
          · have gone : [Entry.ofRecord key record].filter (outlives asked ·.time) = [] :=
              List.filter_eq_nil_iff.2 (List.forall_mem_singleton.2 lasts)
            refine ⟨added, ?_, ?_⟩
            · rw [held, gone, List.append_nil]
            · simp only [attempt?, lasts]
              exact told

/-- Entries are only ever added by records and removed by purges. -/
theorem run_size (run : Run keeps trail asked after) :
    trail.size + (attempted asked).length = after.size + removed asked := by
  induction run with
  | nil trail => rfl
  | @cons request reply trail next after asked replied _ ih =>
      cases keeps_cases replied with
      | idle _ unpurged unwritten =>
          rw [attempted, List.filterMap_cons_none unwritten, removed,
            List.filterMap_cons_none unpurged]
          exact ih
      | purge cutoff =>
          have fewer : (trail.purge cutoff).size ≤ trail.size := List.length_filter_le _ _
          change trail.size + (attempted asked).length =
            after.size + (trail.size - (trail.purge cutoff).size + removed asked)
          omega
      | write record key =>
          have more : (trail.append (.ofRecord key record)).size = trail.size + 1 :=
            List.length_append
          change trail.size + ((attempted asked).length + 1) = after.size + removed asked
          omega

theorem run_idle (run : Run keeps trail asked after)
    (idle : ∀ exchange ∈ asked, purge? exchange = none ∧ attempt? exchange = none) :
    after = trail := by
  induction run with
  | nil trail => rfl
  | cons replied _ ih =>
      obtain ⟨first, later⟩ := List.forall_mem_cons.1 idle
      rw [ih later]
      cases keeps_cases replied with
      | idle => rfl
      | purge => cases first.1
      | write => cases first.2

/-- No record is turned away. -/
theorem run_write (run : Run keeps trail asked after) {record : Record} {reply : Except Fault Unit}
    (written : ⟨.inr (.write record), reply⟩ ∈ asked) : reply = .ok () := by
  induction run with
  | nil trail => cases written
  | cons replied _ ih =>
      rcases List.mem_cons.1 written with same | later
      · cases same
        exact replied.1
      · exact ih later

/-- A record that is written stays until a purge that comes later reaches it, whatever cutoffs there
were before. -/
theorem run_written {record : Record} {reply : Except Fault Unit}
    (run : Run keeps trail (⟨.inr (.write record), reply⟩ :: later) after)
    (lasts : outlives later record.time = true) : ∃ entry ∈ after.entries, entry.Tells record := by
  obtain ⟨added, held, told⟩ := run_keeps run
  have listed : survivors (⟨.inr (.write record), reply⟩ :: later) = record :: survivors later :=
    if_pos lasts
  rw [listed] at told
  cases told with
  | @cons entry _ added _ first rest =>
      exact ⟨entry, held ▸ List.mem_append_right _ List.mem_cons_self, first⟩

/-- Whatever is exchanged with a trail that was empty at first: it holds the records that outlive
the purges after them, each as it was written and once, in the order of writing; what is missing was
counted by the purges. From then on entries only go with the purges to come, records are only added
behind them, and those who only read change nothing. -/
theorem trail_holds_what_outlives_purges (run : Run keeps .empty asked trail) :
    List.Forall₂ Entry.Tells trail.entries (survivors asked) ∧
      (survivors asked).Sublist (attempted asked) ∧
      (∀ record reply, ⟨.inr (.write record), reply⟩ ∈ asked → reply = .ok ()) ∧
      (attempted asked).length = trail.size + removed asked ∧
      (trail.entries.isEmpty = true ↔ trail.size = 0) ∧
      ∀ later last, Run keeps trail later last →
        (∃ added,
          last.entries = trail.entries.filter (fun entry => outlives later entry.time) ++ added ∧
            List.Forall₂ Entry.Tells added (survivors later)) ∧
        (∀ record reply onward, later = ⟨.inr (.write record), reply⟩ :: onward →
          outlives onward record.time = true → ∃ entry ∈ last.entries, entry.Tells record) ∧
        ((∀ exchange ∈ later, purge? exchange = none ∧ attempt? exchange = none) →
          last = trail) := by
  refine ⟨?_, survivors_sublist asked, fun record reply => run_write run, ?_, ?_, ?_⟩
  · obtain ⟨added, held, told⟩ := run_keeps run
    have nothing : Trail.empty.entries.filter (fun entry => outlives asked entry.time) = [] := rfl
    rw [nothing, List.nil_append] at held
    exact held ▸ told
  · have size := run_size run
    have nothing : Trail.empty.size = 0 := rfl
    omega
  · rw [List.isEmpty_iff, size, List.length_eq_zero_iff]
  · intro later last onward
    refine ⟨run_keeps onward, ?_, run_idle onward⟩
    rintro record reply rest rfl lasts
    exact run_written onward lasts

def early : Instant := ⟨10, 0, by decide, by decide, Instant.epoch.nanos_lt, by decide⟩

def dive (time : Instant) : Record := ⟨⟨.ofNat 1⟩, ⟨⟨"diving"⟩⟩, "dive begins", .info, time⟩

/-- A record from before the cutoff of a purge is written after it, and a second purge with an
earlier cutoff leaves it there. -/
def lateDive : List (Exchange (archive.plus ambient)) :=
  [ ⟨.inr (.write (dive .epoch)), .ok ()⟩, ⟨.inl (.purge early), .ok 1⟩,
    ⟨.inr (.write (dive .epoch)), .ok ()⟩,
    ⟨.inl (.trace ⟨.ofNat 1⟩), .ok [.ofRecord ⟨.ofNat 8⟩ (dive .epoch)]⟩,
    ⟨.inl (.purge .epoch), .ok 0⟩]

theorem lateDive_is_held :
    survivors lateDive = [dive .epoch] ∧
      ∃ trail, Run keeps .empty lateDive trail ∧
        List.Forall₂ Entry.Tells trail.entries (survivors lateDive) ∧
        (attempted lateDive).length = trail.size + removed lateDive := by
  let held : Trail := ⟨[.ofRecord ⟨.ofNat 8⟩ (dive .epoch)]⟩
  have run : Run keeps .empty lateDive held :=
    .cons ⟨rfl, ⟨.ofNat 7⟩, rfl⟩ <| .cons ⟨.epoch, rfl⟩ <| .cons ⟨rfl, ⟨.ofNat 8⟩, rfl⟩ <|
      .cons ⟨.epoch, rfl⟩ <| .cons ⟨.epoch, rfl⟩ (.nil held)
  have holds := trail_holds_what_outlives_purges run
  exact ⟨by decide, held, run, holds.1, holds.2.2.2.1⟩

end Trail

end ClubOffice.Audit
