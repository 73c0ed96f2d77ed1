import ClubOffice.Event.Rehearsal
import ClubOffice.Proofs.Event.Finality

/-!
# Closings, one after the other

A closing holds the open events whose end has come, and leaves everything else as it is. One that
fails on its way has held the events at the front of its list, and the next closing holds the rest,
so that in the end it makes no difference that the first one failed.
-/

namespace ClubOffice.Event

open Audit Time

/-- The event, held if it is among the chosen ones. -/
def holdIf (chosen : Event → Bool) (event : Event) : Event :=
  if chosen event then { event with status := .held } else event

theorem key_holdIf (chosen : Event → Bool) (event : Event) :
    (holdIf chosen event).key = event.key := by
  unfold holdIf
  split <;> rfl

/-- An event that is held already can be chosen again, which makes no difference. -/
theorem holdIf_holdIf (chosen again : Event → Bool) (event : Event) :
    holdIf again (holdIf chosen event) = holdIf (fun other => chosen other || again other) event := by
  by_cases first : chosen event = true
  · simp [holdIf, first]
  · simp [holdIf, first]

/-- An event is due after a closing if it was left open and its end comes later. -/
theorem isDue_holdIf (now later : Instant) (event : Event) :
    (holdIf (·.isDue now) event).isDue later = true ↔
      (holdIf (·.isDue now) event).status = .opened ∧ now < event.endsAt ∧ event.endsAt ≤ later := by
  by_cases due : event.isDue now = true
  · simp [holdIf, due, isDue_iff]
  · have same : holdIf (·.isDue now) event = event := if_neg due
    rw [same, isDue_iff]
    rw [isDue_iff] at due
    constructor
    · rintro ⟨opened, ended⟩
      refine ⟨opened, ?_, ended⟩
      have early : ¬ event.endsAt ≤ now := fun ended => due ⟨opened, ended⟩
      exact Int.not_le.1 early
    · rintro ⟨opened, _, ended⟩
      exact ⟨opened, ended⟩

namespace Register

theorem eq_of_events {register other : Register} (same : register.events = other.events) :
    register = other := by
  obtain ⟨events, distinct⟩ := register
  obtain ⟨events', distinct'⟩ := other
  subst same
  rfl

/-- The register with the chosen events held. -/
def hold (register : Register) (chosen : Event → Bool) : Register where
  events := register.events.map (holdIf chosen)
  distinct := by
    have same : (fun event : Event => event.key) ∘ holdIf chosen = fun event => event.key :=
      funext (key_holdIf chosen)
    rw [List.map_map, same]
    exact register.distinct

variable {register : Register} {event : Event}

theorem hold_congr {chosen chosen' : Event → Bool}
    (same : ∀ event ∈ register.events, chosen event = chosen' event) :
    register.hold chosen = register.hold chosen' := by
  apply eq_of_events
  apply List.map_congr_left
  intro event member
  simp only [holdIf, same event member]

theorem hold_hold (register : Register) (chosen again : Event → Bool) :
    (register.hold chosen).hold again =
      register.hold fun event => chosen event || again event := by
  apply eq_of_events
  simp only [hold, List.map_map]
  apply List.map_congr_left
  intro event _
  exact holdIf_holdIf chosen again event

theorem hold_none (register : Register) : register.hold (fun _ => false) = register := by
  apply eq_of_events
  have same : holdIf (fun _ => false) = id := rfl
  simp [hold, same]

theorem setStatus_held (register : Register) (key : EventKey) :
    register.setStatus key .held = register.hold (·.key = key) := by
  apply eq_of_events
  apply List.map_congr_left
  intro event _
  simp only [withStatus, holdIf, decide_eq_true_eq]

theorem update_of_opened (member : event ∈ register.events) (opened : event.status = .opened) :
    register.update event.key .opened .held = (.ok true, register.hold (·.key = event.key)) := by
  have found : register.find? event.key = some event :=
    (find?_eq_some_iff register event.key event).2 ⟨member, rfl⟩
  have moved : event.moveTo .held = .ok { event with status := .held } := by
    simp [moveTo, opened, Status.mayBecome]
  simp only [update, found, opened, moved, if_true, setStatus_held]

end Register

section Holding

variable {σ : Type} {serve : Server (registry.plus ambient) σ} {count : Nat}

/-- As long as the register itself answers the updates, the events at the front of the list are
held. The stages are the states of the server, by the number of updates made and by the register. -/
theorem run_holdEach (stage : Nat → Register → σ)
    (answers : ∀ made < count, ∀ register key,
      serve (.inl (.update key .opened .held)) (stage made register) =
        ((register.update key .opened .held).1,
          stage (made + 1) (register.update key .opened .held).2))
    (events others : List Event) (made held : Nat) (register : Register)
    (enough : made + events.length ≤ count)
    (present : ∀ event ∈ events, event ∈ register.events ∧ event.status = .opened)
    (distinct : (events.map (·.key)).Nodup) :
    (holdEach (events ++ others) held).run serve (stage made register) =
      (holdEach others (held + events.length)).run serve
        (stage (made + events.length) (register.hold (· ∈ events))) := by
  induction events generalizing made held register with
  | nil =>
      have same : register.hold (fun event => decide (event ∈ ([] : List Event))) = register := by
        simpa using register.hold_none
      rw [same]
      rfl
  | cons event events ih =>
      obtain ⟨⟨member, opened⟩, later⟩ := List.forall_mem_cons.1 present
      obtain ⟨fresh, distinct⟩ := List.nodup_cons.1 distinct
      rw [List.length_cons] at enough
      have answered := answers made (by omega) register event.key
      rw [Register.update_of_opened member opened] at answered
      have still : ∀ other ∈ events,
          other ∈ (register.hold (·.key = event.key)).events ∧ other.status = .opened := by
        intro other among
        have differs : other.key ≠ event.key := by
          intro same
          have there : event.key ∈ events.map (·.key) := by
            rw [← same]
            exact List.mem_map_of_mem among
          exact fresh there
        have kept : holdIf (·.key = event.key) other = other := by simp [holdIf, differs]
        refine ⟨?_, (later other among).2⟩
        exact List.mem_map.2 ⟨other, (later other among).1, kept⟩
      have onward := ih (made + 1) (held + 1) (register.hold (·.key = event.key)) (by omega) still
        distinct
      have all : (register.hold (·.key = event.key)).hold (· ∈ events) =
          register.hold (· ∈ event :: events) := by
        rw [Register.hold_hold]
        apply Register.hold_congr
        intro other there
        have same : other.key = event.key ↔ other = event :=
          ⟨Keyed.eq_of_key register.distinct there member, congrArg _⟩
        simp [same]
      rw [all] at onward
      simp only [List.cons_append, holdEach, Plan.run, answered, onward, List.length_cons]
      rw [Nat.add_assoc, Nat.add_assoc, Nat.add_comm 1]

end Holding

namespace Scene

variable {scene : Scene}

/-- Lets the given number of updates pass, and the next one fail. -/
def failAfter (scene : Scene) (count : Nat) (fault : Fault) : Scene :=
  { scene with arranged := List.replicate count (.update, .extra []) ++ [(.update, .fails fault)] }

/-- The scene at another time. -/
def wait (scene : Scene) (now : Instant) : Scene := { scene with now := now }

/-- The scene with the chosen events held. -/
def holding (scene : Scene) (chosen : Event → Bool) : Scene :=
  { scene with register := scene.register.hold chosen }

theorem holding_none (scene : Scene) : scene.holding (fun _ => false) = scene := by
  simp only [holding, Register.hold_none]

theorem due_perm (scene : Scene) (now : Instant) :
    (scene.due now).Perm (scene.register.events.filter (·.isDue now)) :=
  (sorted_perm _ _).trans (sorted_perm _ _)

theorem mem_due (scene : Scene) (now : Instant) (event : Event) :
    event ∈ scene.due now ↔ event ∈ scene.register.events ∧ event.isDue now = true := by
  rw [(scene.due_perm now).mem_iff, List.mem_filter]

theorem nodup_due (scene : Scene) (now : Instant) : ((scene.due now).map (·.key)).Nodup := by
  have listed : ((scene.register.events.filter (·.isDue now)).map (·.key)).Nodup :=
    scene.register.distinct.sublist (List.filter_sublist.map _)
  exact ((scene.due_perm now).map _).nodup_iff.2 listed

theorem length_due (scene : Scene) (now : Instant) :
    (scene.due now).length = scene.register.events.countP (·.isDue now) := by
  rw [(scene.due_perm now).length_eq, List.countP_eq_length_filter]

theorem present_due (scene : Scene) (now : Instant) :
    ∀ event ∈ scene.due now, event ∈ scene.register.events ∧ event.status = .opened := by
  intro event listed
  obtain ⟨member, due⟩ := (scene.mem_due now event).1 listed
  exact ⟨member, ((isDue_iff event now).1 due).1⟩

theorem hold_due (scene : Scene) (now : Instant) :
    scene.register.hold (· ∈ scene.due now) = scene.register.hold (·.isDue now) := by
  apply Register.hold_congr
  intro event member
  simp [scene.mem_due, member]

/-- A closing whose list is not disturbed goes through the events that are due. -/
theorem close_eq (listed : ∀ entry ∈ scene.arranged, entry.1 ≠ .due) :
    scene.close =
      (holdEach (scene.due scene.now) 0).run (Server.both serve surround) scene := by
  have calm : scene.takeArranged .due = (none, scene) := by
    have none : scene.arranged.find? (·.1 = .due) = none := by
      simpa [List.find?_eq_none] using listed
    rw [takeArranged, none]
  have answered : serve (.due scene.now) scene = (.ok (scene.due scene.now), scene) := by
    simp [serve, Registry.Request.call, calm, serveCalmly]
  have all : (scene.due scene.now).filter (·.isDue scene.now) = scene.due scene.now := by
    apply List.filter_eq_self.2
    intro event member
    exact ((scene.mem_due _ event).1 member).2
  simp only [close, closeElapsed, Plan.run, Server.both, surround, answered, all]

theorem serve_update_of_calm (scene : Scene) (calm : scene.arranged = []) (key : EventKey)
    (expected next : Status) :
    serve (.update key expected next) scene =
      ((scene.register.update key expected next).1,
        { scene with register := (scene.register.update key expected next).2 }) := by
  simp [serve, takeArranged, calm, serveCalmly]

theorem serve_update_failAfter (scene : Scene) (count : Nat) (fault : Fault) (key : EventKey)
    (expected next : Status) :
    serve (.update key expected next) (scene.failAfter (count + 1) fault) =
      ((scene.register.update key expected next).1,
        { scene.failAfter count fault with
          register := (scene.register.update key expected next).2 }) := by
  simp [serve, takeArranged, failAfter, List.replicate_succ, Registry.Request.call, serveDisturbed,
    serveCalmly]

theorem serve_update_failing (scene : Scene) (fault : Fault) (key : EventKey)
    (expected next : Status) :
    serve (.update key expected next) (scene.failAfter 0 fault) =
      (.error fault, { scene with arranged := [] }) := by
  simp [serve, takeArranged, failAfter, Registry.Request.call, serveDisturbed]

/-- A closing that nothing disturbs holds what is due, and tells how much that was. -/
theorem close_of_calm (calm : scene.arranged = []) :
    scene.close = (.ok (scene.register.events.countP (·.isDue scene.now)),
      scene.holding (·.isDue scene.now)) := by
  have answers : ∀ made < (scene.due scene.now).length, ∀ (register : Register) (key : EventKey),
      Server.both serve surround (.inl (.update key .opened .held))
          { scene with register := register } =
        ((register.update key .opened .held).1,
          { scene with register := (register.update key .opened .held).2 }) :=
    fun _ _ register key =>
      serve_update_of_calm { scene with register := register } calm key .opened .held
  have ran := run_holdEach (fun _ register => { scene with register := register }) answers
    (scene.due scene.now) [] 0 0 scene.register (by simp) (scene.present_due _) (scene.nodup_due _)
  rw [close_eq (by simp [calm])]
  rw [List.append_nil, hold_due, Nat.zero_add, length_due] at ran
  exact ran

/-- A closing whose updates fail after some of them has held what they were for. -/
theorem close_of_failing {count : Nat} (within : count < (scene.due scene.now).length)
    (fault : Fault) :
    (scene.failAfter count fault).close =
      (.error fault, { scene.holding (· ∈ (scene.due scene.now).take count) with arranged := [] }) := by
  let stage (made : Nat) (register : Register) : Scene :=
    { scene.failAfter (count - made) fault with register := register }
  have answers : ∀ made < count, ∀ (register : Register) (key : EventKey),
      Server.both serve surround (.inl (.update key .opened .held)) (stage made register) =
        ((register.update key .opened .held).1,
          stage (made + 1) (register.update key .opened .held).2) := by
    intro made before register key
    have left : count - made = count - (made + 1) + 1 := by omega
    simp only [stage, left]
    exact serve_update_failAfter { scene with register := register } _ fault key .opened .held
  obtain ⟨event, later, rest⟩ : ∃ event later, (scene.due scene.now).drop count = event :: later := by
    cases rest : (scene.due scene.now).drop count with
    | nil =>
        have short := List.drop_eq_nil_iff.1 rest
        omega
    | cons event later => exact ⟨event, later, rfl⟩
  have whole : (scene.due scene.now).take count ++ event :: later = scene.due scene.now := by
    rw [← rest, List.take_append_drop]
  have length : ((scene.due scene.now).take count).length = count := by
    rw [List.length_take]
    omega
  have present : ∀ event ∈ (scene.due scene.now).take count,
      event ∈ scene.register.events ∧ event.status = .opened :=
    fun event member => scene.present_due _ event (List.mem_of_mem_take member)
  have distinct : (((scene.due scene.now).take count).map (·.key)).Nodup :=
    (scene.nodup_due _).sublist ((List.take_sublist _ _).map _)
  have ran := run_holdEach stage answers ((scene.due scene.now).take count) (event :: later) 0 0
    scene.register (by omega) present distinct
  have last (register : Register) :
      stage count register = ({ scene with register := register } : Scene).failAfter 0 fault := by
    simp only [stage, Nat.sub_self]
    rfl
  have listed : ∀ entry ∈ (scene.failAfter count fault).arranged, entry.1 ≠ .due := by
    intro entry member
    simp only [failAfter, List.mem_append, List.mem_replicate, List.mem_singleton] at member
    rcases member with ⟨_, rfl⟩ | rfl <;> simp
  rw [close_eq listed]
  rw [whole, length, Nat.zero_add] at ran
  refine ran.trans ?_
  simp only [last, holdEach, Plan.run, Server.both, serve_update_failing, holding]

/-- A closing at a later time holds what was left open by an earlier one and has come to its end in
between. -/
theorem close_holding (calm : scene.arranged = []) (later : Instant) :
    ((scene.holding (·.isDue scene.now)).wait later).close =
      (.ok ((scene.holding (·.isDue scene.now)).register.events.countP fun event =>
          event.status = .opened ∧ scene.now < event.endsAt ∧ event.endsAt ≤ later),
        ((scene.holding (·.isDue scene.now)).wait later).holding fun event =>
          event.status = .opened ∧ scene.now < event.endsAt ∧ event.endsAt ≤ later) := by
  have same : ∀ event ∈ (scene.register.hold (·.isDue scene.now)).events,
      event.isDue later = decide
        (event.status = .opened ∧ scene.now < event.endsAt ∧ event.endsAt ≤ later) := by
    intro event member
    obtain ⟨before, _, rfl⟩ := List.mem_map.1 member
    have ends : (holdIf (·.isDue scene.now) before).endsAt = before.endsAt := by
      unfold holdIf
      split <;> rfl
    rw [Bool.eq_iff_iff, isDue_holdIf, decide_eq_true_iff, ends]
  have held := Register.hold_congr same
  have calmly : ((scene.holding (·.isDue scene.now)).wait later).arranged = [] := calm
  rw [close_of_calm calmly]
  simp only [holding, wait, held]
  rw [List.countP_congr fun event member => by rw [same event member]]

/-- A closing holds what an earlier one held as well, as long as that was due. -/
theorem close_wait_holding (calm : scene.arranged = []) {chosen : Event → Bool} {later : Instant}
    (due : ∀ event ∈ scene.register.events, chosen event = true → event.isDue later = true) :
    ((scene.holding chosen).wait later).close.2 = (scene.wait later).holding (·.isDue later) := by
  have both : (scene.register.hold chosen).hold (·.isDue later) =
      scene.register.hold (·.isDue later) := by
    rw [Register.hold_hold]
    apply Register.hold_congr
    intro event member
    rw [Bool.eq_iff_iff, Bool.or_eq_true]
    exact ⟨fun either => either.elim (due event member) id, .inr⟩
  have calmly : ((scene.holding chosen).wait later).arranged = [] := calm
  rw [close_of_calm calmly]
  simp only [holding, wait, both]

/-- Whatever the register holds, and in whatever order it lists the events that end together: a
closing holds exactly the open events whose end has come, and tells their number; the next one holds
those whose end has come in between; and one that fails has held the events in front of the one it
failed at, and the next one makes good for it. -/
theorem close_exact_and_resumable (scene : Scene) (calm : scene.arranged = []) :
    scene.close =
        (.ok (scene.register.events.countP fun event =>
            event.status = .opened ∧ event.endsAt ≤ scene.now),
          scene.holding fun event => event.status = .opened ∧ event.endsAt ≤ scene.now) ∧
      (∀ later,
        (scene.close.2.wait later).close =
          (.ok (scene.close.2.register.events.countP fun event =>
              event.status = .opened ∧ scene.now < event.endsAt ∧ event.endsAt ≤ later),
            (scene.close.2.wait later).holding fun event =>
              event.status = .opened ∧ scene.now < event.endsAt ∧ event.endsAt ≤ later)) ∧
      scene.close.2.close = (.ok 0, scene.close.2) ∧
      ∀ candidates, (scene.ask (.due scene.now)).1 = .ok candidates →
        ∀ count < candidates.length, ∀ fault,
          (scene.failAfter count fault).close =
              (.error fault, scene.holding (· ∈ candidates.take count)) ∧
            ∀ later, scene.now ≤ later →
              ((scene.failAfter count fault).close.2.wait later).close.2 =
                (scene.close.2.wait later).close.2 := by
  have due : ∀ event : Event, event.isDue scene.now =
      decide (event.status = .opened ∧ event.endsAt ≤ scene.now) := by
    intro event
    rw [Bool.eq_iff_iff, isDue_iff, decide_eq_true_iff]
  have closed := close_of_calm calm
  have left : scene.close.2 = scene.holding (·.isDue scene.now) := congrArg Prod.snd closed
  refine ⟨?exact, fun later => left ▸ close_holding calm later, ?again, ?failing⟩
  case exact => simpa only [due] using closed
  case again =>
    have never : ∀ event : Event, decide (event.status = .opened ∧ scene.now < event.endsAt ∧
        event.endsAt ≤ scene.now) = false := by
      intro event
      apply decide_eq_false
      rintro ⟨_, early, late⟩
      exact absurd early (Int.not_lt.2 late)
    have next := close_holding calm scene.now
    simp only [never, List.countP_false, holding_none] at next
    rw [left]
    exact next
  case failing =>
    intro candidates answered count within fault
    have listed : candidates = scene.due scene.now := by
      have calmly : scene.ask (.due scene.now) = (.ok (scene.due scene.now), scene) := by
        simp [ask, serve, takeArranged, calm, serveCalmly]
      rw [calmly] at answered
      exact (Except.ok.inj answered).symm
    subst listed
    have failed : (scene.failAfter count fault).close =
        (.error fault, scene.holding (· ∈ (scene.due scene.now).take count)) := by
      rw [close_of_failing within, ← calm]
      rfl
    refine ⟨failed, fun later order => ?_⟩
    have still : ∀ event ∈ scene.register.events, event.isDue scene.now = true →
        event.isDue later = true := by
      intro event _ due
      rw [isDue_iff] at due ⊢
      exact ⟨due.1, Int.le_trans due.2 order⟩
    rw [failed, left, close_wait_holding calm still]
    apply close_wait_holding calm
    intro event member among
    have listed := List.mem_of_mem_take (of_decide_eq_true among)
    exact still event member ((scene.mem_due _ event).1 listed).2

def afternoon : Instant := ⟨54000, 0, by decide, by decide, Instant.epoch.nanos_lt, by decide⟩

def evening : Instant := ⟨72000, 0, by decide, by decide, Instant.epoch.nanos_lt, by decide⟩

def outing (number : Nat) (endsAt : Instant) (status : Status) : Event :=
  ⟨⟨.ofNat number⟩, ⟨"Outing"⟩, .epoch, endsAt, status⟩

/-- Two open events that end in the afternoon, a cancelled one, and one that ends in the evening. -/
def outings : Scene :=
  { set ⟨100⟩ afternoon with
    register :=
      { events := [outing 1 afternoon .opened, outing 2 afternoon .opened, outing 3 .epoch .cancelled,
          outing 4 evening .opened]
        distinct := by decide }
    created := [⟨.ofNat 2⟩, ⟨.ofNat 1⟩] }

/-- A closing of the outings that fails at its second update has held the one that was created
first, and a closing in the evening holds the other two. -/
theorem outings_are_closed :
    (outings.due afternoon).map (·.key) = [⟨.ofNat 2⟩, ⟨.ofNat 1⟩] ∧
      (∀ fault, (outings.failAfter 1 fault).close =
        (.error fault, outings.holding (· ∈ (outings.due afternoon).take 1))) ∧
      (∀ fault, ((outings.failAfter 1 fault).close.2.wait evening).close.2 =
        (outings.close.2.wait evening).close.2) ∧
      outings.close.1 = .ok 2 ∧ (outings.close.2.wait evening).close.1 = .ok 1 := by
  obtain ⟨exact, later, _, failing⟩ := close_exact_and_resumable outings rfl
  have answered : (outings.ask (.due outings.now)).1 = .ok (outings.due afternoon) := rfl
  refine ⟨by decide, fun fault => ?_, fun fault => ?_, ?_, ?_⟩
  · exact (failing _ answered 1 (by decide) fault).1
  · exact (failing _ answered 1 (by decide) fault).2 evening (by decide)
  · rw [exact]
    decide
  · rw [later evening, exact]
    decide

end Scene

end ClubOffice.Event
