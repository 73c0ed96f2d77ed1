import ClubOffice.Audit.Retention
import ClubOffice.Proofs.Audit.Invocations
import ClubOffice.Proofs.Audit.Survival
import ClubOffice.Proofs.Plan.Crowd
import Mathlib.Data.List.Forall2
import Mathlib.Data.List.Nodup

/-!
# One trace for one call

Any number of tasks perform plain programs at the same time over one trail that was empty at first.
As long as identifiers are not given out twice and the times of the entries do not go back, the
trace of an outermost call lists what this call and the calls inside it reported, and nothing else.
-/

namespace ClubOffice.Audit

open Crowd Plan

variable {ν : Type}

/-- Tasks, each of which performs a program outside any scope. -/
abbrev tasks (ν : Type) : Interface where
  Request := Program ν
  Reply _ := Program.End ν × Slot

def performTask : Service (tasks ν) ((Program.stage ν).plus ambient) :=
  fun program => program.perform .outside

/-- What a trail does with the requests of tasks: it takes every record. Which identifiers and times
are given is left open. -/
def Trail.takes : Manner ((Program.stage ν).plus ambient) Trail
  | .inr (.write record), trail, reply, after =>
      reply = .ok () ∧ ∃ key, after = trail.append (.ofRecord key record)
  | _, trail, _, after => after = trail

/-- A request either leaves the trail as it is, without a record, or adds the entry of one. -/
theorem Trail.takes_cases {request : ((Program.stage ν).plus ambient).Request} {trail after : Trail}
    {reply : ((Program.stage ν).plus ambient).Reply request}
    (taken : Trail.takes request trail reply after) :
    (attempt? ⟨request, reply⟩ = none ∧ after = trail) ∨
      ∃ record key, (⟨request, reply⟩ : Exchange ((Program.stage ν).plus ambient)) =
        ⟨.inr (.write record), .ok ()⟩ ∧ after = trail.append (.ofRecord key record) := by
  rcases request with request | _ | _ | record
  · exact .inl ⟨rfl, taken⟩
  · exact .inl ⟨rfl, taken⟩
  · exact .inl ⟨rfl, taken⟩
  · obtain ⟨rfl, key, rfl⟩ := taken
    exact .inr ⟨record, key, rfl, rfl⟩

/-- The tasks under way over a trail that was empty at first. -/
abbrev Reachable (made : List (Program ν))
    (crowd : Crowd (tasks ν) ((Program.stage ν).plus ambient) Trail) : Prop :=
  Crowd.Reachable performTask Trail.takes (fun _ _ => False) made .empty crowd

section Owned

variable {asked within : List (Exchange ((Program.stage ν).plus ambient))} {uuid : Uuid}

theorem Owned.filter_eq_nil (owned : Owned asked) (absent : uuid ∉ given asked) :
    (attempted asked).filter (·.trace = ⟨uuid⟩) = [] := by
  refine List.filter_eq_nil_iff.2 fun record member same => absent ?_
  have found := owned record member
  rwa [of_decide_eq_true same] at found

theorem Under.filter_eq_self (under : Under ⟨uuid⟩ asked) :
    (attempted asked).filter (·.trace = ⟨uuid⟩) = attempted asked :=
  List.filter_eq_self.2 fun record member => decide_eq_true (under.2 record member)

theorem owned_flatMap {strands : List (Strand (tasks ν) ((Program.stage ν).plus ambient))}
    (owned : ∀ strand ∈ strands, Owned strand.asked) : Owned (strands.flatMap (·.asked)) := by
  induction strands with
  | nil => exact additive_owned.nil
  | cons strand strands ih =>
      obtain ⟨first, later⟩ := List.forall_mem_cons.1 owned
      exact additive_owned.append first (ih later)

/-- A record that one of the tasks writes comes last of its trace, since the other tasks report
under other traces. -/
theorem told_write {before after : List (Exchange ((Program.stage ν).plus ambient))}
    {entries : List Entry} {trace : TraceKey} {record : Record} (key : EntryKey)
    (owned : Owned (asked ++ [⟨.inr (.write record), .ok ()⟩])) (others : Owned after)
    (distinct :
      (given (before ++ (asked ++ [⟨.inr (.write record), .ok ()⟩] ++ after))).Nodup)
    (told : List.Forall₂ Entry.Tells (entries.filter (·.trace = trace))
      ((attempted (before ++ (asked ++ after))).filter (·.trace = trace))) :
    List.Forall₂ Entry.Tells
      ((entries ++ [Entry.ofRecord key record]).filter (·.trace = trace))
      ((attempted (before ++ (asked ++ [⟨.inr (.write record), .ok ()⟩] ++ after))).filter
        (·.trace = trace)) := by
  have written : attempted ([⟨.inr (.write record), .ok ()⟩] :
      List (Exchange ((Program.stage ν).plus ambient))) = [record] := rfl
  have ungiven : given ([⟨.inr (.write record), .ok ()⟩] :
      List (Exchange ((Program.stage ν).plus ambient))) = [] := rfl
  simp only [given_append, ungiven, List.append_nil] at distinct
  simp only [attempted_append, written, List.filter_append] at told ⊢
  by_cases same : record.trace = trace
  · subst same
    have mine : record.trace.uuid ∈ given asked := by
      have found := owned record (by simp [written])
      rwa [given_append, ungiven, List.append_nil] at found
    have absent : record.trace.uuid ∉ given after := fun there =>
      (List.nodup_append.1 (List.nodup_append.1 distinct).2.1).2.2 _ mine _ there rfl
    rw [others.filter_eq_nil absent, List.append_nil] at told ⊢
    have now : [record].filter (·.trace = record.trace) = [record] := by simp
    have now' : [Entry.ofRecord key record].filter (·.trace = record.trace) =
        [Entry.ofRecord key record] := by simp [Entry.ofRecord]
    rw [now, now', ← List.append_assoc]
    exact List.rel_append told (.cons ⟨key, rfl⟩ .nil)
  · have passed : [record].filter (·.trace = trace) = [] := by simpa using same
    have passed' : [Entry.ofRecord key record].filter (·.trace = trace) = [] := by
      simpa [Entry.ofRecord] using same
    rw [passed, passed', List.append_nil, List.append_nil]
    exact told

/-- What is reported under an identifier is what is reported by the call that opens with it. -/
theorem filter_attempted {before after : List (Exchange ((Program.stage ν).plus ambient))}
    (owned : Owned before) (opens : Opens (⟨.inr .freshId, uuid⟩ :: within)) (others : Owned after)
    (distinct : (given (before ++ (⟨.inr .freshId, uuid⟩ :: within ++ after))).Nodup) :
    (attempted (before ++ (⟨.inr .freshId, uuid⟩ :: within ++ after))).filter
        (·.trace = ⟨uuid⟩) =
      attempted within := by
  obtain ⟨_, _, ⟨⟩, under⟩ := opens.resolve_left (List.cons_ne_nil _ _)
  have opened : given (⟨.inr .freshId, uuid⟩ :: within) = [uuid] :=
    congrArg (uuid :: ·) under.1
  have same : attempted (⟨.inr .freshId, uuid⟩ :: within) = attempted within := rfl
  rw [given_append, given_append, opened, List.nodup_append] at distinct
  have absent : uuid ∉ given before := fun there =>
    distinct.2.2 uuid there uuid List.mem_cons_self rfl
  have absent' : uuid ∉ given after := (List.nodup_cons.1 distinct.2.1).1
  rw [attempted_append, attempted_append, same, List.filter_append, List.filter_append,
    owned.filter_eq_nil absent, others.filter_eq_nil absent', under.filter_eq_self,
    List.append_nil, List.nil_append]

end Owned

theorem exchanges_split (before after : List (Strand (tasks ν) ((Program.stage ν).plus ambient)))
    (strand : Strand (tasks ν) ((Program.stage ν).plus ambient)) (trail : Trail) :
    exchanges ⟨before ++ strand :: after, trail⟩ =
      before.flatMap (·.asked) ++ (strand.asked ++ after.flatMap (·.asked)) := by
  simp [exchanges]

variable {made : List (Program ν)} {crowd : Crowd (tasks ν) ((Program.stage ν).plus ambient) Trail}

theorem Reachable.plain (reachable : Reachable made crowd)
    (plain : ∀ program ∈ made, program.plain) :
    ∀ strand ∈ crowd.strands, strand.call.plain := by
  intro strand member
  exact plain _ (reachable.map_call ▸ List.mem_map_of_mem member)

theorem Reachable.owned (reachable : Reachable made crowd)
    (plain : ∀ program ∈ made, program.plain) : ∀ strand ∈ crowd.strands, Owned strand.asked := by
  intro strand member
  exact (Program.owned_perform strand.call (Reachable.plain reachable plain strand member) _ _
    (reachable.course member)).1

theorem exists_record {entries : List Entry} {records : List Record}
    (told : List.Forall₂ Entry.Tells entries records) {entry : Entry} (member : entry ∈ entries) :
    ∃ record ∈ records, entry.Tells record := by
  induction told with
  | nil => cases member
  | @cons _ record _ records first _ ih =>
      rcases List.mem_cons.1 member with rfl | later
      · exact ⟨record, List.mem_cons_self, first⟩
      · obtain ⟨record', present, tells⟩ := ih later
        exact ⟨record', List.mem_cons_of_mem _ present, tells⟩

/-- For each trace the trail holds what was reported under it, in the order of reporting. -/
theorem Reachable.told (reachable : Reachable made crowd)
    (plain : ∀ program ∈ made, program.plain) (distinct : (given crowd.exchanges).Nodup)
    (trace : TraceKey) :
    List.Forall₂ Entry.Tells (crowd.state.entries.filter (·.trace = trace))
      ((attempted crowd.exchanges).filter (·.trace = trace)) := by
  induction reachable with
  | refl =>
      rw [exchanges_start]
      exact .nil
  | tail reachable step ih =>
      have next : Reachable made _ := reachable.tail step
      cases step with
      | drift strands trail after never => cases never
      | exchange before after program asked request onward trail trail' reply taken =>
          rw [exchanges_split] at distinct ⊢
          have fewer : (before.flatMap (·.asked) ++ (asked ++ after.flatMap (·.asked))).Sublist
              (before.flatMap (·.asked) ++
                (asked ++ [⟨request, reply⟩] ++ after.flatMap (·.asked))) :=
            ((List.sublist_append_left asked _).append_right _).append_left _
          have earlier := ih (exchanges_split before after _ trail ▸
            (fewer.filterMap given?).nodup distinct)
          rw [exchanges_split] at earlier
          rcases Trail.takes_cases taken with ⟨unwritten, rfl⟩ | ⟨record, key, same, rfl⟩
          · have unchanged : attempted (before.flatMap (·.asked) ++
                (asked ++ [⟨request, reply⟩] ++ after.flatMap (·.asked))) =
                  attempted (before.flatMap (·.asked) ++ (asked ++ after.flatMap (·.asked))) := by
              simp [unwritten]
            rw [unchanged]
            exact earlier
          · cases same
            obtain ⟨_, others⟩ := List.forall_mem_append.1 (Reachable.owned next plain)
            obtain ⟨mine, others⟩ := List.forall_mem_cons.1 others
            exact told_write key mine (owned_flatMap others) distinct earlier

/-- Whether the task at the place made an outermost call after so many exchanges, which opened with
the identifier and exchanged the others since. -/
def Began (crowd : Crowd (tasks ν) ((Program.stage ν).plus ambient) Trail) (place start : Nat)
    (uuid : Uuid) (within : List (Exchange ((Program.stage ν).plus ambient))) : Prop :=
  ∃ strand call first, crowd.strands[place]? = some strand ∧ first.length = start ∧
    strand.call.Invokes strand.asked call first (⟨.inr .freshId, uuid⟩ :: within)

section Began

variable {place start : Nat} {uuid : Uuid}
variable {within : List (Exchange ((Program.stage ν).plus ambient))}

/-- All that an outermost call reports is under the identifier that it opens with. -/
theorem Began.under (began : Began crowd place start uuid within)
    (reachable : Reachable made crowd) (plain : ∀ program ∈ made, program.plain) :
    Under ⟨uuid⟩ within := by
  obtain ⟨strand, call, first, found, _, invokes⟩ := began
  have member := List.mem_of_getElem? found
  obtain ⟨_, _, _, opens, _⟩ := invokes.split (Reachable.plain reachable plain strand member)
    (reachable.course member)
  obtain ⟨_, _, ⟨⟩, under⟩ := opens.resolve_left (List.cons_ne_nil _ _)
  exact under

/-- What the trail holds under the identifier of an outermost call is what this call reported. -/
theorem Began.told (began : Began crowd place start uuid within)
    (reachable : Reachable made crowd) (plain : ∀ program ∈ made, program.plain)
    (distinct : (given crowd.exchanges).Nodup) :
    List.Forall₂ Entry.Tells (crowd.state.entries.filter (·.trace = ⟨uuid⟩))
      (attempted within) := by
  obtain ⟨strand, call, first, found, _, invokes⟩ := began
  have member := List.mem_of_getElem? found
  obtain ⟨later, same, owned, opens, others⟩ := invokes.split
    (Reachable.plain reachable plain strand member) (reachable.course member)
  have told := Reachable.told reachable plain distinct ⟨uuid⟩
  have owns := Reachable.owned reachable plain
  obtain ⟨strands, trail⟩ := crowd
  obtain ⟨before, after, rfl⟩ := List.append_of_mem member
  obtain ⟨earlier, last⟩ := List.forall_mem_append.1 owns
  have ownsBefore := additive_owned.append (owned_flatMap earlier) owned
  have ownsAfter := additive_owned.append others
    (owned_flatMap (List.forall_mem_cons.1 last).2)
  have shape : exchanges ⟨before ++ strand :: after, trail⟩ =
      (before.flatMap (·.asked) ++ first) ++ (⟨.inr .freshId, uuid⟩ :: within ++
        (later ++ after.flatMap (·.asked))) := by
    rw [exchanges_split, same]
    simp only [List.append_assoc, List.cons_append]
  rw [shape] at told distinct
  rwa [filter_attempted ownsBefore opens ownsAfter distinct] at told

/-- Once an identifier was given, it is not given again. -/
theorem eq_nil_of_distinct {between later later' :
      List (Exchange ((Program.stage ν).plus ambient))}
    (same : ⟨.inr .freshId, uuid⟩ :: later = between ++ ⟨.inr .freshId, uuid⟩ :: later')
    (distinct : (given (⟨.inr .freshId, uuid⟩ :: later)).Nodup) : between = [] := by
  cases between with
  | nil => rfl
  | cons found between =>
      cases same
      have again : uuid ∈ given (between ++ ⟨.inr .freshId, uuid⟩ :: later') := by
        rw [given_append]
        exact List.mem_append_right _ List.mem_cons_self
      exact absurd again (List.nodup_cons.1 distinct).1

/-- A task is given each identifier at one place only. -/
theorem length_eq_of_distinct {first other later later' :
      List (Exchange ((Program.stage ν).plus ambient))}
    (same : first ++ ⟨.inr .freshId, uuid⟩ :: later = other ++ ⟨.inr .freshId, uuid⟩ :: later')
    (distinct : (given (first ++ ⟨.inr .freshId, uuid⟩ :: later)).Nodup) :
    first.length = other.length := by
  have distinct' := same ▸ distinct
  rw [given_append] at distinct distinct'
  rcases List.append_eq_append_iff.1 same with ⟨between, rfl, rest⟩ | ⟨between, rfl, rest⟩
  · cases eq_nil_of_distinct rest (List.nodup_append.1 distinct).2.1
    rw [List.append_nil]
  · cases eq_nil_of_distinct rest (List.nodup_append.1 distinct').2.1
    rw [List.append_nil]

/-- An outermost call takes up a stretch of what its task has exchanged. -/
theorem Program.Invokes.exists_later {program : Program ν} {call : Program.Call ν}
    {asked first within : List (Exchange ((Program.stage ν).plus ambient))}
    (invokes : program.Invokes asked call first within) :
    ∃ later, asked = first ++ (within ++ later) := by
  cases invokes with
  | running => exact ⟨[], by rw [List.append_nil]⟩
  | ended _ _ later => exact ⟨later, List.append_assoc _ _ _⟩

theorem Program.Invokes.mem_given {program : Program ν} {call : Program.Call ν}
    {asked first : List (Exchange ((Program.stage ν).plus ambient))}
    (invokes : program.Invokes asked call first (⟨.inr .freshId, uuid⟩ :: within)) :
    uuid ∈ given asked := by
  obtain ⟨later, rfl⟩ := invokes.exists_later
  rw [given_append]
  exact List.mem_append_right _ List.mem_cons_self

/-- An identifier is given to one task only. -/
theorem place_eq_of_distinct {place' : Nat}
    {strand strand' : Strand (tasks ν) ((Program.stage ν).plus ambient)}
    (distinct : (given crowd.exchanges).Nodup) (found : crowd.strands[place]? = some strand)
    (found' : crowd.strands[place']? = some strand') (member : uuid ∈ given strand.asked)
    (member' : uuid ∈ given strand'.asked) : place = place' := by
  have shared : given crowd.exchanges = crowd.strands.flatMap fun strand => given strand.asked :=
    List.filterMap_flatMap
  rw [shared, List.nodup_flatMap] at distinct
  obtain ⟨inside, rfl⟩ := List.getElem?_eq_some_iff.1 found
  obtain ⟨inside', rfl⟩ := List.getElem?_eq_some_iff.1 found'
  have apart := List.pairwise_iff_getElem.1 distinct.2
  rcases Nat.lt_trichotomy place place' with before | same | after
  · exact absurd member' (apart _ _ inside inside' before member)
  · exact same
  · exact absurd member (apart _ _ inside' inside after member')

/-- No two outermost calls open with the same identifier. -/
theorem Began.unique {place' start' : Nat}
    {within' : List (Exchange ((Program.stage ν).plus ambient))}
    (began : Began crowd place start uuid within) (other : Began crowd place' start' uuid within')
    (distinct : (given crowd.exchanges).Nodup) : place = place' ∧ start = start' := by
  obtain ⟨strand, call, first, found, rfl, invokes⟩ := began
  obtain ⟨strand', call', first', found', rfl, invokes'⟩ := other
  cases place_eq_of_distinct distinct found found' invokes.mem_given invokes'.mem_given
  cases found.symm.trans found'
  obtain ⟨later, asked⟩ := invokes.exists_later
  obtain ⟨later', asked'⟩ := invokes'.exists_later
  have own : (given strand.asked).Nodup :=
    ((List.sublist_flatten_of_mem (List.mem_map_of_mem (List.mem_of_getElem? found))).filterMap
      given?).nodup distinct
  rw [asked] at own
  exact ⟨rfl, length_eq_of_distinct (asked.symm.trans asked') own⟩

/-- What is listed under the identifier of an outermost call, if the times do not go back. -/
theorem Began.listed (began : Began crowd place start uuid within)
    (reachable : Reachable made crowd) (plain : ∀ program ∈ made, program.plain)
    (distinct : (given crowd.exchanges).Nodup)
    (clock : crowd.state.entries.Pairwise fun entry later => entry.time ≤ later.time) :
    List.Forall₂ Entry.Tells (crowd.state.ofTrace ⟨uuid⟩) (attempted within) := by
  have ordered : (crowd.state.entries.filter (·.trace = ⟨uuid⟩)).Pairwise fun entry later =>
      decide (entry.time ≤ later.time) = true :=
    (clock.sublist List.filter_sublist).imp decide_eq_true
  rw [Trail.ofTrace, sorted_eq_self ordered]
  exact began.told reachable plain distinct

/-- Every entry was reported in the course of an outermost call. -/
theorem exists_began (reachable : Reachable made crowd) (plain : ∀ program ∈ made, program.plain)
    (distinct : (given crowd.exchanges).Nodup) {entry : Entry}
    (present : entry ∈ crowd.state.entries) :
    ∃ place start within, Began crowd place start entry.trace.uuid within ∧
      ∃ record ∈ attempted within, entry.Tells record := by
  have own : entry ∈ crowd.state.entries.filter (·.trace = entry.trace) :=
    List.mem_filter.2 ⟨present, decide_eq_true rfl⟩
  obtain ⟨record, reported, _, rfl⟩ :=
    exists_record (Reachable.told reachable plain distinct entry.trace) own
  obtain ⟨exchange, exchanged, attempt⟩ := List.mem_filterMap.1 (List.mem_filter.1 reported).1
  obtain ⟨strand, member, asked⟩ := mem_exchanges.1 exchanged
  have opening : record.trace.uuid ∈ given strand.asked :=
    Reachable.owned reachable plain strand member record
      (List.mem_filterMap.2 ⟨exchange, asked, attempt⟩)
  obtain ⟨call, first, within, invokes⟩ := Program.exists_invokes
    (Reachable.plain reachable plain strand member) (reachable.course member) opening
  obtain ⟨place, found⟩ := List.getElem?_of_mem member
  have began : Began crowd place first.length record.trace.uuid within :=
    ⟨strand, call, first, found, rfl, invokes⟩
  exact ⟨place, first.length, within, began,
    exists_record (began.told reachable plain distinct) own⟩

end Began

/-- However plain programs run side by side over a trail that takes every record, if no identifier
is given out twice and the times of the entries do not go back: the trace of an outermost call lists
what was reported in the course of that call, in the order of reporting; no two outermost calls have
the same trace; and each entry was reported in the course of just one of them. -/
theorem one_trace_groups_one_call (reachable : Reachable made crowd)
    (plain : ∀ program ∈ made, program.plain) (distinct : (given crowd.exchanges).Nodup)
    (clock : crowd.state.entries.Pairwise fun entry later => entry.time ≤ later.time) :
    (∀ place start uuid within, Began crowd place start uuid within → ∀ now, ∃ listed,
        (invocation ⟨uuid⟩).run (Trail.serve now) crowd.state = (.ok listed, crowd.state) ∧
          List.Forall₂ Entry.Tells listed (attempted within)) ∧
      (∀ place start place' start' uuid within within', Began crowd place start uuid within →
        Began crowd place' start' uuid within' → place = place' ∧ start = start') ∧
      ∀ entry ∈ crowd.state.entries, ∃! spot : Nat × Nat, ∃ uuid within,
        Began crowd spot.1 spot.2 uuid within ∧
          ∃ record ∈ attempted within, entry.Tells record := by
  refine ⟨?_, ?_, ?_⟩
  · intro place start uuid within began now
    exact ⟨_, rfl, began.listed reachable plain distinct clock⟩
  · intro place start place' start' uuid within within' began other
    exact began.unique other distinct
  · intro entry present
    obtain ⟨place, start, within, began, reported⟩ :=
      exists_began reachable plain distinct present
    refine ⟨(place, start), ⟨_, within, began, reported⟩, ?_⟩
    rintro ⟨place', start'⟩ ⟨uuid, within', began', record, reported', _, rfl⟩
    have same : record.trace = ⟨uuid⟩ := (began'.under reachable plain).2 record reported'
    simp only [Entry.ofRecord, same] at began
    obtain ⟨rfl, rfl⟩ := began.unique began' distinct
    rfl

/-- A trail that takes every record, and gives identifiers by its size. -/
def Trail.accept : Server ((Program.stage ν).plus ambient) Trail
  | .inl _, trail => ((), trail)
  | .inr .freshId, trail => (.ofNat trail.size, trail)
  | .inr .now, trail => (.epoch, trail)
  | .inr (.write record), trail =>
      (.ok (), trail.append (.ofRecord ⟨.ofNat trail.size⟩ record))

theorem Trail.takes_accept (request : ((Program.stage ν).plus ambient).Request) (trail : Trail) :
    Trail.takes request trail (Trail.accept request trail).1 (Trail.accept request trail).2 := by
  rcases request with request | _ | _ | record
  · exact rfl
  · exact rfl
  · exact rfl
  · exact ⟨rfl, _, rfl⟩

def outings : List (Program Unit) :=
  [ .audited "boat" "sail" "moor" [] false
      (.capture (.audited "crew" "hoist" "stow" [.failure "tear"] true (.fail (.internal "gust"))
        .finish) .finish) .finish,
    .audited "swimmer" "dive" "surface" [] false .finish
      (.audited "swimmer" "rest" "leave" [] false .finish .finish)]

/-- A boat is out while a swimmer dives. It has come back when the swimmer is still resting. -/
def outing : Crowd (tasks Unit) ((Program.stage Unit).plus ambient) Trail :=
  (Crowd.start performTask outings .empty).turns Trail.accept
    [0, 0, 0, 0, 1, 1, 1, 0, 1, 1, 0, 0, 0, 1, 1, 1, 1, 0, 0, 0, 0]

theorem outing_is_grouped :
    outing.state.entries.map (·.message) =
        ["sail", "dive", "hoist", "surface", "tear", "rest", "moor"] ∧
      (outing.state.ofTrace ⟨.ofNat 0⟩).map (·.message) = ["sail", "hoist", "tear", "moor"] ∧
      (∃ start within, Began outing 0 start (.ofNat 0) within ∧
        List.Forall₂ Entry.Tells (outing.state.ofTrace ⟨.ofNat 0⟩) (attempted within)) ∧
      ∀ entry ∈ outing.state.entries, ∃! spot : Nat × Nat, ∃ uuid within,
        Began outing spot.1 spot.2 uuid within ∧
          ∃ record ∈ attempted within, entry.Tells record := by
  have reachable : Reachable outings outing := turns_steps Trail.takes_accept _ _
  have plain : ∀ program ∈ outings, program.plain := by decide
  have grouped := one_trace_groups_one_call reachable plain (by decide) (by decide)
  have found : outing.strands[0]? = some outing.strands[0] := rfl
  have member := List.mem_of_getElem? found
  have opening : .ofNat 0 ∈ given outing.strands[0].asked := by decide
  obtain ⟨call, first, within, invokes⟩ := Program.exists_invokes
    (Reachable.plain reachable plain _ member) (reachable.course member) opening
  have began : Began outing 0 first.length (.ofNat 0) within :=
    ⟨_, call, first, found, rfl, invokes⟩
  obtain ⟨_, ⟨⟩, listed⟩ := grouped.1 _ _ _ _ began .epoch
  exact ⟨by decide, by decide, ⟨_, within, began, listed⟩, grouped.2.2⟩

end ClubOffice.Audit
