import ClubOffice.Audit.Program

/-!
# Rehearsals of programs

A stage on which programs are performed: it gives fresh identifiers, keeps what is seen, and takes
audit records, or refuses them for as long as it is told to. Every task has a frame of its own.
-/

namespace ClubOffice.Audit

variable {ν : Type}

/-- What a task has let be seen, whether its records are refused, and the reports of the tasks that
it has run and not yet gathered. -/
structure Frame (ν : Type) where
  seen : List (Observation ν)
  reject : Option Fault
  reports : List (List (Observation ν) × Program.End ν)

namespace Frame

def fresh : Frame ν := ⟨[], none, []⟩

def add (frame : Frame ν) (observation : Observation ν) : Frame ν :=
  { frame with seen := frame.seen ++ [observation] }

end Frame

/-- The frame of the task at work, the frames of the tasks that wait for it, the supply of
identifiers, and the time. -/
structure Stage (ν : Type) where
  frame : Frame ν
  waiting : List (Frame ν)
  supply : Supply
  now : Time.Instant

namespace Stage

def set (supply : Supply) (now : Time.Instant) : Stage ν := ⟨.fresh, [], supply, now⟩

def direct : Server (Program.stage ν) (Stage ν)
  | .show observation, stage => ((), { stage with frame := stage.frame.add observation })
  | .writes reject, stage => ((), { stage with frame := { stage.frame with reject := reject } })
  | .openTask, stage =>
      ((), { stage with frame := .fresh, waiting := stage.frame :: stage.waiting })
  | .closeTask exit, stage =>
      match stage.waiting with
      | [] => ((), stage)
      | outer :: waiting =>
          let reports := outer.reports ++ [(stage.frame.seen, exit)]
          ((), { stage with frame := { outer with reports := reports }, waiting := waiting })
  | .gather, stage =>
      let frame := { stage.frame.add (.tasks stage.frame.reports) with reports := [] }
      ((), { stage with frame := frame })

def surround : Server ambient (Stage ν)
  | .freshId, stage => (stage.supply.take.1, { stage with supply := stage.supply.take.2 })
  | .now, stage => (stage.now, stage)
  | .write record, stage =>
      match stage.frame.reject with
      | some fault => (.error fault, stage)
      | none => (.ok (), { stage with frame := stage.frame.add (.written record) })

end Stage

/-- Performs a program outside any scope: its end, the slot afterwards, and the stage. -/
def Program.rehearse (program : Program ν) (stage : Stage ν) : (Program.End ν × Slot) × Stage ν :=
  (program.perform .outside).run (Stage.direct.both Stage.surround) stage

end ClubOffice.Audit
