import ClubOffice.Audit.Envelope

/-!
# Programs of acts

A small language of everything that a task can do around audited acts: look at the slot and change
it, open scopes, catch faults and crashes, report acts inside one another, and run other tasks. A
program is performed as an act, so the slot is changed in place and guards put it back.
-/

namespace ClubOffice.Audit

/-- A program. Each constructor but the ending ones is followed by the rest of the program; one
that runs out ends without a value. -/
inductive Program (ν : Type)
  | finish
  | give (value : ν)
  | fail (cause : Fault)
  | crash (message : String)
  | get (rest : Program ν)
  | isInside (rest : Program ν)
  | set (key : TraceKey) (rest : Program ν)
  | clear (rest : Program ν)
  | note (text : String) (rest : Program ν)
  | pause (rest : Program ν)
  | writes (reject : Option Fault) (rest : Program ν)
  | enter (key : TraceKey) (body rest : Program ν)
  | scope (body rest : Program ν)
  | capture (body rest : Program ν)
  | audited (source start success : String) (changes : List Adjustment) (passOn : Bool)
      (body rest : Program ν)
  | spawn (body rest : Program ν)
  | gather (rest : Program ν)

/-- How a program ends: with the value given, or with none. -/
abbrev Program.End (ν : Type) := Exit (Option ν)

/-- What a program lets be seen. -/
inductive Observation (ν : Type)
  | current (key : Option TraceKey)
  | isInside (answer : Bool)
  | stored (done : Bool)
  | note (text : String)
  | captured (exit : Program.End ν)
  | result (outcome : Except Fault (Option ν))
  | written (record : Record)
  | tasks (reports : List (List (Observation ν) × Program.End ν))

namespace Program

variable {ν : Type}

/-- What a program asks of the stage on which it is performed. A task is opened and closed around
the work of another task, whose observations and writes are its own. -/
inductive Request (ν : Type)
  | show (observation : Observation ν)
  | writes (reject : Option Fault)
  | openTask
  | closeTask (exit : Program.End ν)
  | gather

/-- The interface to the stage; every request is simply carried out. -/
abbrev stage (ν : Type) : Interface where
  Request := Request ν
  Reply _ := Unit

def exhibit (observation : Observation ν) : Act (stage ν) Unit :=
  Act.observe (.ask (.show observation) .done)

def direct (request : Request ν) : Act (stage ν) Unit := Act.observe (.ask request .done)

/-- Runs an act as a task of its own, outside any scope. -/
def asTask (act : Act (stage ν) (Option ν)) : Act (stage ν) Unit :=
  (direct .openTask).bind fun _ slot =>
    (act .outside).bind fun (exit, _) => direct (.closeTask exit) slot

def announced (source start success : String) (changes : List Adjustment)
    (act : Act (stage ν) (Option ν)) : Act (stage ν) (Option ν) :=
  match Source.make source, Operation.describe start success changes with
  | .error fault, _ => .fail fault
  | .ok _, .error fault => .fail fault
  | .ok source, .ok operation => Audit.audited source operation act

/-- Shows the result of an audited act, and passes its fault on if that is asked for. -/
def conclude (passOn : Bool) (outcome : Except Fault (Option ν)) : Act (stage ν) Unit :=
  (exhibit (.result outcome)).bind fun _ =>
    match outcome with
    | .error fault => if passOn then Act.fail fault else pure ()
    | .ok _ => pure ()

/-- Performs a program with the slot changed in place. -/
def perform : Program ν → Act (stage ν) (Option ν)
  | .finish => Act.finish (.value none)
  | .give value => Act.finish (.value (some value))
  | .fail cause => Act.fail cause
  | .crash message => Act.crash message
  | .get rest =>
      Act.slot.bind fun slot => (exhibit (.current slot.current)).bind fun _ => rest.perform
  | .isInside rest =>
      Act.slot.bind fun slot => (exhibit (.isInside slot.isInside)).bind fun _ => rest.perform
  | .set key rest =>
      Act.slot.bind fun slot =>
        (Act.changeSlot (Slot.store key)).bind fun _ =>
          (exhibit (.stored slot.isInside)).bind fun _ => rest.perform
  | .clear rest => (Act.changeSlot Slot.clear).bind fun _ => rest.perform
  | .note text rest => (exhibit (.note text)).bind fun _ => rest.perform
  | .pause rest => rest.perform
  | .writes reject rest => (direct (.writes reject)).bind fun _ => rest.perform
  | .enter key body rest => (Act.enter key body.perform).bind fun _ => rest.perform
  | .scope body rest => (Act.scope body.perform).bind fun _ => rest.perform
  | .capture body rest =>
      (Act.capture body.perform).bind fun exit =>
        (exhibit (.captured exit)).bind fun _ => rest.perform
  | .audited source start success changes passOn body rest =>
      (Act.settle (announced source start success changes body.perform)).bind fun outcome =>
        (conclude passOn outcome).bind fun _ => rest.perform
  | .spawn body rest => (asTask body.perform).bind fun _ => rest.perform
  | .gather rest => (direct .gather).bind fun _ => rest.perform

end Program

end ClubOffice.Audit
