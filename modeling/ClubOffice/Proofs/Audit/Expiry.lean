import ClubOffice.Plan.Transcript
import ClubOffice.Proofs.Audit.Purging
import Mathlib.Algebra.Order.Ring.Nat

/-!
# What a cleanup removes

Entries are kept for a number of days that is checked beforehand, so that the calendar always goes
back far enough for the cutoff of a cleanup: it is the same time of day that many days earlier. What
is not older than that stays, and the longer entries are to be kept, the more of them stay.
-/

namespace ClubOffice

open Time

namespace Time.Instant

variable {now earlier cutoff : Instant} {days : Nat}

/-- Nanoseconds since the start of 1970. -/
def elapsed (instant : Instant) : Int := instant.seconds * nanosPerSecond + instant.nanos

/-- Whether a time is at most a number of days ago: that many days later it is not yet past. Days
are added in the measure of `order`, in which every second has room for a leap second. -/
def IsWithin (days : Nat) (now earlier : Instant) : Prop :=
  now.order ≤ earlier.order + (days * secondsPerDay * (2 * nanosPerSecond) : Nat)

/-- Where no leap second is about, ages can be told by the nanoseconds that have elapsed. -/
theorem isWithin_iff (plain : now.nanos < nanosPerSecond)
    (plain' : earlier.nanos < nanosPerSecond) :
    IsWithin days now earlier ↔
      now.elapsed - earlier.elapsed ≤ (days * secondsPerDay * nanosPerSecond : Nat) := by
  simp only [IsWithin, order, elapsed, secondsPerDay, nanosPerSecond] at *
  omega

/-- The calendar goes back a hundred years from every time since 1970. -/
theorem exists_daysBefore (since : 0 ≤ now.seconds) (plain : now.nanos < nanosPerSecond)
    (few : days ≤ 36500) :
    ∃ cutoff, now.daysBefore? days = some cutoff ∧
      cutoff.seconds = now.seconds - days * secondsPerDay ∧ cutoff.nanos = now.nanos := by
  unfold daysBefore?
  split
  · rename_i none
    exact ⟨now, rfl, by simp [none], rfl⟩
  · have plainly : now.plain = (now.seconds, now.nanos) := if_neg (Nat.not_le.2 plain)
    have known : firstSecond ≤ now.seconds - days * secondsPerDay ∧
        now.seconds - days * secondsPerDay ≤ lastSecond ∧ now.nanos < 2 * nanosPerSecond ∧
        (nanosPerSecond ≤ now.nanos → (now.seconds - days * secondsPerDay) % 60 = 59) := by
      have below := now.le_last
      simp only [firstSecond, lastSecond, secondsPerDay, nanosPerSecond] at *
      omega
    rw [plainly, ofParts?, dif_pos known]
    exact ⟨_, rfl, rfl, rfl⟩

theorem seconds_nonneg {later : Instant} (since : 0 ≤ now.seconds) (notEarlier : now ≤ later) :
    0 ≤ later.seconds := by
  have inOrder : now.order ≤ later.order := notEarlier
  have below := later.nanos_lt
  simp only [order, nanosPerSecond] at *
  omega

theorem not_le {a b : Instant} : ¬ a ≤ b ↔ b < a := Int.not_le

theorem isWithin_iff_le (seconds : cutoff.seconds = now.seconds - days * secondsPerDay)
    (nanos : cutoff.nanos = now.nanos) : IsWithin days now earlier ↔ cutoff ≤ earlier := by
  change _ ↔ cutoff.order ≤ earlier.order
  simp only [IsWithin, order, seconds, nanos, secondsPerDay, nanosPerSecond]
  omega

end Time.Instant

namespace Audit

theorem Trail.purged_eq_countP (trail : Trail) (cutoff : Instant) :
    trail.purged cutoff = trail.entries.countP (·.time < cutoff) := by
  have all := List.length_eq_countP_add_countP (l := trail.entries) (p := (cutoff ≤ ·.time))
  have others : trail.entries.countP (fun entry => ¬ decide (cutoff ≤ entry.time) = true) =
      trail.entries.countP (·.time < cutoff) :=
    List.countP_congr fun entry _ => by simp [Instant.not_le]
  rw [others, List.countP_eq_length_filter] at all
  rw [purged, size, size, purge, all, Nat.add_sub_cancel_left]

theorem Trail.entries_purge (trail : Trail) (cutoff : Instant) :
    (trail.purge cutoff).entries = trail.entries.filter (¬ ·.time < cutoff) :=
  List.filter_congr fun entry _ => by simp [← Instant.not_le]

namespace Retention

theorem days_of_make {days : Nat} {retention : Retention} (accepted : make days = .ok retention) :
    retention.days = days := by
  unfold make at accepted
  split at accepted
  · cases accepted
  · split at accepted
    · cases accepted
    · cases accepted
      rfl

/-- The seconds of the cutoff as they are reckoned in words of 64 bits. -/
def cutoffWord (retention : Retention) (now : Instant) : Int64 :=
  .ofInt now.seconds - .ofInt (retention.days * secondsPerDay)

/-- A cleanup that asks for a single purge, at the same time of day as now but so many days earlier,
which removes the entries before it and no others. -/
structure Cleans (retention : Retention) (now : Instant) (trail : Trail) (cutoff : Instant)
    (left : Trail) : Prop where
  seconds : cutoff.seconds = now.seconds - retention.days * secondsPerDay
  nanos : cutoff.nanos = now.nanos
  asked : retention.cleanup.transcript (Trail.serve now) trail =
    [⟨.now, now⟩, ⟨.purge cutoff, .ok (trail.entries.countP (·.time < cutoff))⟩]
  ended : retention.cleanup.run (Trail.serve now) trail =
    (.ok (trail.entries.countP (·.time < cutoff)), left)
  left : left.entries = trail.entries.filter (¬ ·.time < cutoff)

variable {retention longer : Retention} {now cutoff cutoff' : Instant}
  {trail left left' : Trail}

theorem exists_cleans (retention : Retention) (since : 0 ≤ now.seconds)
    (plain : now.nanos < nanosPerSecond) (trail : Trail) :
    ∃ cutoff left, retention.Cleans now trail cutoff left := by
  obtain ⟨cutoff, back, seconds, nanos⟩ :=
    Instant.exists_daysBefore since plain retention.le_longest
  have known : retention.cutoff now = .ok cutoff := by rw [Retention.cutoff, back]
  refine ⟨cutoff, trail.purge cutoff, seconds, nanos, ?asked, ?ended, trail.entries_purge cutoff⟩
  case asked =>
    rw [← trail.purged_eq_countP]
    simp only [cleanup, Plan.transcript, Trail.serve, known]
  case ended =>
    rw [← trail.purged_eq_countP]
    simp only [cleanup, Plan.run, Trail.serve, known]

theorem Cleans.mem_left_iff (cleans : retention.Cleans now trail cutoff left) (entry : Entry) :
    entry ∈ left.entries ↔
      entry ∈ trail.entries ∧ Instant.IsWithin retention.days now entry.time := by
  rw [cleans.left, List.mem_filter, Instant.isWithin_iff_le cleans.seconds cleans.nanos]
  simp [← Instant.not_le]

/-- The cutoff of a retention of more days is no later. -/
theorem Cleans.sublist (cleans : retention.Cleans now trail cutoff left)
    (cleans' : longer.Cleans now trail cutoff' left') (longer : retention.days ≤ longer.days) :
    left.entries.Sublist left'.entries := by
  have earlier : cutoff' ≤ cutoff := by
    change cutoff'.order ≤ cutoff.order
    simp only [Instant.order, cleans.seconds, cleans.nanos, cleans'.seconds, cleans'.nanos,
      secondsPerDay, nanosPerSecond]
    omega
  rw [cleans.left, cleans'.left]
  refine List.monotone_filter_right _ fun entry stays => ?_
  simp only [decide_eq_true_iff, ← Instant.not_le, not_not] at stays ⊢
  exact Int.le_trans earlier stays

/-- What is left has no entry that another cleanup at the same time would remove. -/
theorem Cleans.run_again (cleans : retention.Cleans now trail cutoff left)
    (cleans' : retention.Cleans now left cutoff' left') :
    retention.cleanup.run (Trail.serve now) left = (.ok 0, left) := by
  have same : cutoff' = cutoff := by
    refine Instant.order_inj ?_
    rw [Instant.order, Instant.order, cleans.seconds, cleans.nanos, cleans'.seconds, cleans'.nanos]
  have young : ∀ entry ∈ left.entries, ¬ entry.time < cutoff' := by
    intro entry member
    rw [cleans.left, ← same] at member
    exact of_decide_eq_true (List.mem_filter.1 member).2
  have none : left.entries.countP (·.time < cutoff') = 0 :=
    List.countP_eq_zero.2 fun entry member => by simpa using young entry member
  have all : left' = left := by
    have entries := cleans'.left
    rw [List.filter_eq_self.2 fun entry member => decide_eq_true (young entry member)] at entries
    exact congrArg Trail.mk entries
  rw [cleans'.ended, none, all]

theorem toInt_cutoffWord (since : 0 ≤ now.seconds)
    (cleans : retention.Cleans now trail cutoff left) :
    (retention.cutoffWord now).toInt = cutoff.seconds := by
  have below := now.le_last
  have few := retention.le_longest
  rw [cutoffWord, ← Int64.ofInt_sub, cleans.seconds]
  simp only [lastSecond, secondsPerDay] at *
  exact Int64.toInt_ofInt_of_le (by omega) (by omega)

/-- With a retention that was accepted, a cleanup at any time since 1970 asks for one purge, which
removes what is older than so many days and keeps the rest. The retention in milliseconds, and the
cutoff in seconds, can be reckoned in words of 64 bits. Cleanups go on in the same way later, at once
there is nothing more to remove, and a longer retention keeps everything that a shorter one does. -/
theorem cleanup_removes_what_expired {days : Nat} (accepted : make days = .ok retention)
    (since : 0 ≤ now.seconds) (plain : now.nanos < nanosPerSecond) (trail : Trail) :
    retention.days = days ∧ days * secondsPerDay * 1000 < 2 ^ 63 ∧
      ∃ cutoff left, retention.Cleans now trail cutoff left ∧
        (retention.cutoffWord now).toInt = cutoff.seconds ∧
        (∀ entry ∈ trail.entries,
          (entry ∈ left.entries ↔ Instant.IsWithin days now entry.time) ∧
          (entry.time.nanos < nanosPerSecond →
            (entry ∈ left.entries ↔ now.elapsed - entry.time.elapsed ≤
              (days * secondsPerDay * nanosPerSecond : Nat))) ∧
          (now ≤ entry.time → entry ∈ left.entries)) ∧
        (∀ later, now ≤ later → later.nanos < nanosPerSecond → ∀ added,
          ∃ cutoff' left', retention.Cleans later ⟨left.entries ++ added⟩ cutoff' left') ∧
        retention.cleanup.run (Trail.serve now) left = (.ok 0, left) ∧
        ∀ longer : Retention, days ≤ longer.days →
          ∃ cutoff' left', longer.Cleans now trail cutoff' left' ∧
            left.entries.Sublist left'.entries := by
  have known := days_of_make accepted
  subst known
  obtain ⟨cutoff, left, cleans⟩ := retention.exists_cleans since plain trail
  refine ⟨rfl, ?small, cutoff, left, cleans, toInt_cutoffWord since cleans, ?ages, ?later, ?again,
    ?longer⟩
  case small =>
    have few := retention.le_longest
    simp only [secondsPerDay]
    omega
  case ages =>
    intro entry member
    have stays : entry ∈ left.entries ↔ Instant.IsWithin retention.days now entry.time :=
      (cleans.mem_left_iff entry).trans (and_iff_right member)
    refine ⟨stays, fun plain' => stays.trans (Instant.isWithin_iff plain plain'), fun written => ?_⟩
    exact stays.2 (Int.le_trans written (Int.le_add_of_nonneg_right (Int.natCast_nonneg _)))
  case later =>
    intro later notEarlier plain' added
    exact retention.exists_cleans (Instant.seconds_nonneg since notEarlier) plain' _
  case again =>
    obtain ⟨cutoff', left', cleans'⟩ := retention.exists_cleans since plain left
    exact cleans.run_again cleans'
  case longer =>
    intro longer more
    obtain ⟨cutoff', left', cleans'⟩ := longer.exists_cleans since plain trail
    exact ⟨cutoff', left', cleans', cleans.sublist cleans' more⟩

/-- A month for which entries are kept. -/
def month : Retention := ⟨30, by decide, by decide⟩

/-- Half a microsecond into the first second of 2026. -/
def firstOfJanuary : Instant := ⟨1767225600, 500, by decide, by decide, by decide, by decide⟩

/-- The same time of day thirty days before. -/
def secondOfDecember : Instant := ⟨1764633600, 500, by decide, by decide, by decide, by decide⟩

/-- A nanosecond before that. -/
def justBefore : Instant := ⟨1764633600, 499, by decide, by decide, by decide, by decide⟩

def inspect (time : Instant) : Entry :=
  ⟨⟨.ofNat 5⟩, ⟨.ofNat 6⟩, "gear", "inspect", .info, time⟩

def logbook : Trail := ⟨[inspect justBefore, inspect firstOfJanuary, inspect secondOfDecember]⟩

/-- What is a nanosecond older than thirty days is removed, and what is just as old stays. -/
theorem logbook_is_cleaned :
    make 30 = .ok month ∧ 0 ≤ firstOfJanuary.seconds ∧ firstOfJanuary.nanos < nanosPerSecond ∧
      month.cleanup.run (Trail.serve firstOfJanuary) logbook =
        (.ok 1, ⟨[inspect firstOfJanuary, inspect secondOfDecember]⟩) ∧
      month.cleanup.run (Trail.serve firstOfJanuary)
          ⟨[inspect firstOfJanuary, inspect secondOfDecember]⟩ =
        (.ok 0, ⟨[inspect firstOfJanuary, inspect secondOfDecember]⟩) := by
  have accepted : make 30 = .ok month := rfl
  have since : 0 ≤ firstOfJanuary.seconds := by decide
  have plain : firstOfJanuary.nanos < nanosPerSecond := by decide
  obtain ⟨_, _, cutoff, left, cleans, _, _, _, again, _⟩ :=
    cleanup_removes_what_expired accepted since plain logbook
  have known : cutoff = secondOfDecember := by
    refine Instant.order_inj ?_
    rw [Instant.order, cleans.seconds, cleans.nanos]
    decide
  have entries : left = ⟨[inspect firstOfJanuary, inspect secondOfDecember]⟩ :=
    congrArg Trail.mk (cleans.left.trans (by rw [known]; decide))
  have ended := cleans.ended
  rw [known, entries] at ended
  rw [entries] at again
  exact ⟨accepted, since, plain, ended, again⟩

end Retention

end Audit

end ClubOffice
