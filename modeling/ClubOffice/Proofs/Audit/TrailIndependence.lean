import ClubOffice.Audit.Rehearsal
import ClubOffice.Proofs.Audit.Bracketing
import ClubOffice.Proofs.Audit.Composition
import ClubOffice.Proofs.Plan.Confinement

/-!
# Programs do not depend on the trail

A program never learns whether its records were taken. Performed with different verdicts on them, it
ends in the same way, shows the same and tries to write the same; and of what it tries to write,
just the records that are not refused are written.
-/

namespace ClubOffice.Audit

open Plan

variable {α β ν : Type}

namespace Program

/-- Whether a program that is one task alone can ask the request. What it shows is never a record;
only the trail adds these to what is seen. -/
def OfOneTask : ((stage ν).plus ambient).Request → Prop
  | .inl (.show observation) => observation.record? = none
  | .inl (.writes _) => True
  | .inl .openTask | .inl (.closeTask _) | .inl .gather => False
  | .inr _ => True

def IsWrite : ((stage ν).plus ambient).Request → Prop
  | .inr (.write _) => True
  | _ => False

/-- Whether the act asks only what one task can ask, and does not heed whether records are taken. -/
def Heedless (act : Act (stage ν) α) : Prop := ∀ slot, (act slot).Confined OfOneTask IsWrite

namespace Heedless

variable {act : Act (stage ν) α}

theorem finish (exit : Exit α) : Heedless (Act.finish exit : Act (stage ν) α) := fun _ => trivial

theorem bind (heedless : Heedless act) {after : α → Act (stage ν) β}
    (later : ∀ result, Heedless (after result)) : Heedless (act.bind after) := by
  intro slot
  refine (heedless slot).bind fun (exit, between) => ?_
  cases exit with
  | value result => exact later result between
  | fault cause => trivial
  | crash message => trivial

theorem direct {request : Request ν} (permitted : OfOneTask (.inl request)) :
    Heedless (direct request) := fun _ => ⟨permitted, fun heard => heard.elim, fun _ => trivial⟩

theorem slot : Heedless (Act.slot : Act (stage ν) Slot) := fun _ => trivial

theorem changeSlot (change : Slot → Slot) :
    Heedless (Act.changeSlot change : Act (stage ν) Unit) := fun _ => trivial

theorem scope (heedless : Heedless act) : Heedless (Act.scope act) := by
  intro slot
  exact (heedless (.inside none)).bind fun _ => trivial

theorem enter (heedless : Heedless act) (key : TraceKey) : Heedless (Act.enter key act) := by
  intro slot
  exact (heedless (slot.store key)).bind fun _ => trivial

theorem capture (heedless : Heedless act) : Heedless (Act.capture act) := by
  intro slot
  exact (heedless slot).bind fun _ => trivial

theorem settle (heedless : Heedless act) : Heedless (Act.settle act) := by
  intro slot
  refine (heedless slot).bind fun (exit, left) => ?_
  cases exit <;> trivial

/-- What comes after a report is the same whether or not the record was taken. -/
theorem report (heedless : Heedless act) (trace : TraceKey) (source : Source) (message : String)
    (severity : Severity) :
    Heedless ((Audit.report trace source message severity).bind fun _ => act) := by
  intro slot
  refine ⟨trivial, fun heard => heard.elim, fun now => ?_⟩
  exact ⟨trivial, fun _ _ _ => rfl, fun _ => heedless slot⟩

theorem reported (heedless : Heedless act) (trace : TraceKey) (source : Source)
    (operation : Operation) : Heedless (Audit.reported trace source operation act) := by
  refine report ?_ trace source _ _
  intro slot
  refine (heedless slot).bind fun (exit, left) => ?_
  cases closing : operation.closing exit with
  | none =>
      simp only [closing]
      trivial
  | some line =>
      simp only [closing]
      exact report (finish exit) trace source line.1 line.2 left

theorem reportedInScope (heedless : Heedless act) (source : Source) (operation : Operation) :
    Heedless (Audit.reportedInScope source operation act) := by
  intro slot
  unfold Audit.reportedInScope
  split
  · exact reported heedless _ source operation slot
  · refine ⟨trivial, fun heard => heard.elim, fun uuid => ?_⟩
    exact enter (reported heedless ⟨uuid⟩ source operation) ⟨uuid⟩ slot

theorem audited (heedless : Heedless act) (source : Source) (operation : Operation) :
    Heedless (Audit.audited source operation act) := by
  intro slot
  unfold Audit.audited
  split
  · exact reportedInScope heedless source operation slot
  · exact scope (reportedInScope heedless source operation) slot

end Heedless

theorem closed_heedless : Closed fun α (act : Act (stage ν) α) => Heedless act where
  finish := .finish
  bind first later := first.bind later
  exhibit plain := .direct plain
  writes _ := .direct trivial
  slot := .slot
  store _ := .changeSlot _
  clear := .changeSlot _
  enter key heedless := heedless.enter key
  scope := .scope
  capture := .capture
  settle := .settle
  audited source operation heedless := heedless.audited source operation

/-- A program that is one task alone does not heed whether its records are taken. -/
theorem heedless_perform (program : Program ν) (single : program.alone = true) :
    Heedless program.perform :=
  closed_heedless.perform program fun other => (nomatch single.symm.trans other)

end Program

/-- For each attempt to write a record, by its number, the fault that it fails with. -/
abbrev Verdicts := Nat → Option Fault

/-- A stage, and how many attempts to write a record there have been. -/
structure Trial (ν : Type) where
  stage : Stage ν
  attempts : Nat

namespace Trial

variable {verdicts verdicts' : Verdicts}

/-- The stage serves its requests; before each record it is told whether to refuse that one. -/
def serve (verdicts : Verdicts) : Server ((Program.stage ν).plus ambient) (Trial ν)
  | .inr (.write record), trial =>
      let told := (Stage.direct (.writes (verdicts trial.attempts)) trial.stage).2
      ((Stage.surround (.write record) told).1,
        ⟨(Stage.surround (.write record) told).2, trial.attempts + 1⟩)
  | .inl request, trial => ((), ⟨(Stage.direct request trial.stage).2, trial.attempts⟩)
  | .inr .freshId, trial =>
      ((Stage.surround .freshId trial.stage).1,
        ⟨(Stage.surround .freshId trial.stage).2, trial.attempts⟩)
  | .inr .now, trial => (trial.stage.now, trial)

def log (trial : Trial ν) : List (Observation ν) := trial.stage.frame.seen

/-- Whether two stages give the same identifiers from now on, and the same time. -/
def Alike (trial trial' : Trial ν) : Prop :=
  trial.stage.supply = trial'.stage.supply ∧ trial.stage.now = trial'.stage.now

theorem surroundings_direct (request : Program.Request ν) (stage : Stage ν) :
    (Stage.direct request stage).2.supply = stage.supply ∧
      (Stage.direct request stage).2.now = stage.now := by
  obtain ⟨frame, waiting, supply, now⟩ := stage
  cases request with
  | closeTask exit => cases waiting <;> exact ⟨rfl, rfl⟩
  | _ => exact ⟨rfl, rfl⟩

theorem surroundings_write (record : Record) (stage : Stage ν) :
    (Stage.surround (.write record) stage).2.supply = stage.supply ∧
      (Stage.surround (.write record) stage).2.now = stage.now := by
  obtain ⟨⟨seen, reject, reports⟩, waiting, supply, now⟩ := stage
  cases reject <;> exact ⟨rfl, rfl⟩

theorem agree (verdicts verdicts' : Verdicts) :
    Confined.Agree Program.OfOneTask Program.IsWrite (Alike (ν := ν)) (serve verdicts)
      (serve verdicts') where
  heard request trial trial' same _ heard := by
    rcases request with request | _ | _ | record
    · rfl
    · exact congrArg (fun supply : Supply => supply.take.1) same.1
    · exact same.2
    · exact absurd trivial heard
  kept request trial trial' same _ := by
    rcases request with request | _ | _ | record
    · have first := surroundings_direct request trial.stage
      have second := surroundings_direct request trial'.stage
      exact ⟨first.1.trans (same.1.trans second.1.symm), first.2.trans (same.2.trans second.2.symm)⟩
    · exact ⟨congrArg (fun supply : Supply => supply.take.2) same.1, same.2⟩
    · exact same
    · have first := surroundings_write record
        (Stage.direct (.writes (verdicts trial.attempts)) trial.stage).2
      have second := surroundings_write record
        (Stage.direct (.writes (verdicts' trial'.attempts)) trial'.stage).2
      exact ⟨first.1.trans (same.1.trans second.1.symm), first.2.trans (same.2.trans second.2.symm)⟩

/-- What an exchange adds to the log. -/
def logged : Exchange ((Program.stage ν).plus ambient) → Option (Observation ν)
  | ⟨.inl (.show observation), _⟩ => some observation
  | ⟨.inr (.write record), .ok _⟩ => some (.written record)
  | _ => none

theorem logged_write (record : Record) (trial : Trial ν)
    (asked : List (Exchange ((Program.stage ν).plus ambient))) :
    List.filterMap logged
        (⟨.inr (.write record), (serve verdicts (.inr (.write record)) trial).1⟩ :: asked) =
      (if (verdicts trial.attempts).isNone then [.written record] else []) ++
        asked.filterMap logged := by
  cases verdict : verdicts trial.attempts with
  | none =>
      simp only [serve, Stage.direct, Stage.surround, verdict]
      rfl
  | some fault =>
      simp only [serve, Stage.direct, Stage.surround, verdict]
      rfl

def shown? : ((Program.stage ν).plus ambient).Request → Option (Observation ν)
  | .inl (.show observation) => some observation
  | _ => none

def tried? : ((Program.stage ν).plus ambient).Request → Option Record
  | .inr (.write record) => some record
  | _ => none

/-- The records among those tried that are not refused, after so many other attempts. -/
def spared (verdicts : Verdicts) (earlier : Nat) (tried : List Record) : List Record :=
  (tried.zipIdx earlier).filterMap fun attempt =>
    if (verdicts attempt.2).isNone then some attempt.1 else none

theorem log_serve {request : ((Program.stage ν).plus ambient).Request}
    (permitted : Program.OfOneTask request) (trial : Trial ν) :
    (serve verdicts request trial).2.log =
      trial.log ++ (logged ⟨request, (serve verdicts request trial).1⟩).toList := by
  rcases request with request | _ | _ | record
  · cases request with
    | «show» observation => rfl
    | writes reject => exact (List.append_nil _).symm
    | openTask => exact permitted.elim
    | closeTask exit => exact permitted.elim
    | gather => exact permitted.elim
  · exact (List.append_nil _).symm
  · exact (List.append_nil _).symm
  · cases verdict : verdicts trial.attempts with
    | none => simp [serve, Stage.direct, Stage.surround, log, logged, verdict, Frame.add]
    | some fault => simp [serve, Stage.direct, Stage.surround, log, logged, verdict]

theorem log_run {plan : Plan ((Program.stage ν).plus ambient) α}
    (confined : plan.Confined Program.OfOneTask Program.IsWrite) (trial : Trial ν) :
    (plan.run (serve verdicts) trial).2.log =
      trial.log ++ (plan.transcript (serve verdicts) trial).filterMap logged := by
  induction plan generalizing trial with
  | done result => exact (List.append_nil _).symm
  | ask request next ih =>
      obtain ⟨permitted, _, onward⟩ := confined
      have ahead := ih (serve verdicts request trial).1 (onward _) (serve verdicts request trial).2
      simp only [run, transcript, List.filterMap_cons]
      rw [ahead, log_serve permitted, List.append_assoc]
      cases logged ⟨request, (serve verdicts request trial).1⟩ <;> rfl

theorem spared_cons (verdicts : Verdicts) (earlier : Nat) (record : Record) (tried : List Record) :
    spared verdicts earlier (record :: tried) =
      (if (verdicts earlier).isNone then [record] else []) ++
        spared verdicts (earlier + 1) tried := by
  unfold spared
  rw [List.zipIdx_cons, List.filterMap_cons]
  cases verdicts earlier <;> rfl

/-- The records that a performance adds to the log are those that it tries to write and that are not
refused. -/
theorem written_transcript {plan : Plan ((Program.stage ν).plus ambient) α}
    (confined : plan.Confined Program.OfOneTask Program.IsWrite) (trial : Trial ν) :
    ((plan.transcript (serve verdicts) trial).filterMap logged).filterMap Observation.record? =
      spared verdicts trial.attempts (attempted (plan.transcript (serve verdicts) trial)) := by
  induction plan generalizing trial with
  | done result => rfl
  | ask request next ih =>
      obtain ⟨permitted, _, onward⟩ := confined
      have ahead := ih (serve verdicts request trial).1 (onward _) (serve verdicts request trial).2
      rcases request with request | _ | _ | record
      · cases request with
        | «show» observation => exact (List.filterMap_cons_none permitted).trans ahead
        | writes reject => exact ahead
        | openTask => exact permitted.elim
        | closeTask exit => exact permitted.elim
        | gather => exact permitted.elim
      · exact ahead
      · exact ahead
      · have tried :
            attempted ((ask (P := (Program.stage ν).plus ambient)
                (.inr (.write record)) next).transcript (serve verdicts) trial) =
              record :: attempted ((next (serve verdicts (.inr (.write record)) trial).1).transcript
                (serve verdicts) (serve verdicts (.inr (.write record)) trial).2) := rfl
        have later : (serve verdicts (.inr (.write record)) trial).2.attempts =
            trial.attempts + 1 := rfl
        rw [later] at ahead
        rw [tried, spared_cons, ← ahead]
        refine (congrArg (List.filterMap _) (logged_write record trial _)).trans ?_
        cases verdicts trial.attempts <;> rfl

/-- What a performance adds to the log besides records is what the program shows. -/
theorem shown_transcript {asked : List (Exchange ((Program.stage ν).plus ambient))}
    (permitted : ∀ exchange ∈ asked, Program.OfOneTask exchange.1) :
    (asked.filterMap logged).filter (fun observation => observation.record?.isNone) =
      (asked.map (·.1)).filterMap shown? := by
  induction asked with
  | nil => rfl
  | cons exchange asked ih =>
      obtain ⟨here, later⟩ := List.forall_mem_cons.1 permitted
      have ahead := ih later
      obtain ⟨request | _ | _ | record, reply⟩ := exchange
      · cases request with
        | «show» observation =>
            have plain : observation.record?.isNone = true := Option.isNone_iff_eq_none.2 here
            change List.filter _ (observation :: asked.filterMap logged) = observation :: _
            simp only [List.filter_cons, plain, if_true, ahead]
        | writes reject => exact ahead
        | openTask => exact here.elim
        | closeTask exit => exact here.elim
        | gather => exact here.elim
      · exact ahead
      · exact ahead
      · cases reply with
        | ok taken => exact ahead
        | error fault => exact ahead

theorem attempted_eq_tried (asked : List (Exchange ((Program.stage ν).plus ambient))) :
    attempted asked = (asked.map (·.1)).filterMap tried? := by
  rw [List.filterMap_map]
  refine congrArg (List.filterMap · asked) (funext fun exchange => ?_)
  obtain ⟨request | _ | _ | record, reply⟩ := exchange <;> rfl

end Trial

namespace Program

/-- What is to be seen of a program that was performed: how it ended, the slot that it left, what it
showed with the records that were written, and the records that it tried to write. -/
structure Performance (ν : Type) where
  exit : End ν
  slot : Slot
  log : List (Observation ν)
  tried : List Record

/-- Performs a program with verdicts on its records, on a stage where nothing was seen before. -/
def performUnder (verdicts : Verdicts) (program : Program ν) (slot : Slot) (supply : Supply)
    (now : Time.Instant) : Performance ν :=
  let plan := program.perform slot
  let result := plan.run (Trial.serve verdicts) ⟨.set supply now, 0⟩
  ⟨result.1.1, result.1.2, result.2.log,
    attempted (plan.transcript (Trial.serve verdicts) ⟨.set supply now, 0⟩)⟩

namespace Performance

/-- The log apart from the entries for records that were written. -/
def shown (performance : Performance ν) : List (Observation ν) :=
  performance.log.filter fun observation => observation.record?.isNone

def written (performance : Performance ν) : List Record :=
  performance.log.filterMap Observation.record?

end Performance

variable {program : Program ν}

theorem log_performUnder (single : program.alone = true) (verdicts : Verdicts) (slot : Slot)
    (supply : Supply) (now : Time.Instant) :
    (program.performUnder verdicts slot supply now).log =
      ((program.perform slot).transcript (Trial.serve verdicts) ⟨.set supply now, 0⟩).filterMap
        Trial.logged :=
  Trial.log_run (heedless_perform program single slot) _

theorem shown_performUnder (single : program.alone = true) (verdicts : Verdicts) (slot : Slot)
    (supply : Supply) (now : Time.Instant) :
    (program.performUnder verdicts slot supply now).shown =
      (((program.perform slot).transcript (Trial.serve verdicts) ⟨.set supply now, 0⟩).map
        (·.1)).filterMap Trial.shown? := by
  have heedless := heedless_perform program single slot
  rw [Performance.shown, log_performUnder single]
  exact Trial.shown_transcript (heedless.forall_transcript _ _)

/-- Just the records that are not refused are written, in the order in which they were tried. -/
theorem written_performUnder (single : program.alone = true) (verdicts : Verdicts) (slot : Slot)
    (supply : Supply) (now : Time.Instant) :
    (program.performUnder verdicts slot supply now).written =
      Trial.spared verdicts 0 (program.performUnder verdicts slot supply now).tried := by
  rw [Performance.written, log_performUnder single]
  exact Trial.written_transcript (heedless_perform program single slot) _

/-- Whether the records of a program are taken or refused, and with which faults, has no influence
on it: it ends in the same way and leaves the same slot, it shows the same, every look at the
current key included, and it tries to write the same records. Those that were not refused, and no
others, are written. -/
theorem writes_have_no_influence (program : Program ν) (single : program.alone = true)
    (slot : Slot) (supply : Supply) (now : Time.Instant) (verdicts verdicts' : Verdicts) :
    let first := program.performUnder verdicts slot supply now
    let second := program.performUnder verdicts' slot supply now
    first.exit = second.exit ∧ first.slot = second.slot ∧ first.shown = second.shown ∧
      first.tried = second.tried ∧ first.written = Trial.spared verdicts 0 first.tried ∧
      second.written = Trial.spared verdicts' 0 first.tried := by
  intro first second
  have same := (heedless_perform program single slot).same_course
    (Trial.agree verdicts verdicts')
    (⟨rfl, rfl⟩ : Trial.Alike ⟨.set supply now, 0⟩ ⟨.set supply now, 0⟩)
  have tried : first.tried = second.tried := by
    change attempted _ = attempted _
    rw [Trial.attempted_eq_tried, Trial.attempted_eq_tried, same.2]
  refine ⟨congrArg Prod.fst same.1, congrArg Prod.snd same.1, ?_, tried, ?_, ?_⟩
  · rw [shown_performUnder single, shown_performUnder single, same.2]
  · exact written_performUnder single verdicts slot supply now
  · rw [tried]
    exact written_performUnder single verdicts' slot supply now

/-- An audited act refuses inside another one, which then fails. -/
def sinking : Program Unit :=
  .audited "outer" "begin" "end" [.failure "lost"] true
    (.audited "inner" "start" "stop" [] false (.fail (.refused (.warning "too deep")))
      (.get (.fail (.internal "no air"))))
    .finish

/-- Verdicts that refuse the start and the end of the inner act. -/
def muting : Verdicts
  | 1 => some (.refused (.warning "trail is full"))
  | 2 => some (.internal "trail is away")
  | _ => none

theorem sinking_is_not_influenced :
    let first := sinking.performUnder muting .outside ⟨0⟩ .epoch
    let second := sinking.performUnder (fun _ => none) .outside ⟨0⟩ .epoch
    first.exit = .fault (.internal "no air") ∧ first.written.map (·.message) = ["begin", "lost"] ∧
      first.exit = second.exit ∧ first.slot = second.slot ∧ first.shown = second.shown ∧
      first.tried = second.tried ∧ first.written = Trial.spared muting 0 first.tried ∧
      second.written = Trial.spared (fun _ => none) 0 first.tried :=
  ⟨rfl, rfl, writes_have_no_influence sinking rfl .outside ⟨0⟩ .epoch muting fun _ => none⟩

end Program

end ClubOffice.Audit
