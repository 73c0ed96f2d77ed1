import ClubOffice.Audit.Program

/-!
# Programs read lexically

A second reading of programs, without a slot that changes. What a program finds in its slot is
decided by the constructs around it: each hands a slot down to its body, and after the body the
program goes on with the slot that it had before. Storing and clearing by hand have no effect on
what is handed down.
-/

namespace ClubOffice.Audit

variable {ν α : Type} {P : Interface}

def Exit.goOn {β : Type} (rest : Plan P (Exit β)) : Exit α → Plan P (Exit β)
  | .value _ => rest
  | .fault cause => .done (.fault cause)
  | .crash message => .done (.crash message)

def reporting (trace : TraceKey) (source : Source) (message : String) (severity : Severity)
    (rest : Plan (P.plus ambient) α) : Plan (P.plus ambient) α :=
  .ask (.inr .now) fun now =>
    .ask (.inr (.write ⟨trace, source, message, severity, now⟩)) fun _ => rest

def enveloping (trace : TraceKey) (source : Source) (operation : Operation)
    (body : Plan (P.plus ambient) (Exit α)) : Plan (P.plus ambient) (Exit α) :=
  reporting trace source operation.start.text operation.severity <|
    body.bind fun exit =>
      match operation.closing exit with
      | some (message, severity) => reporting trace source message severity (.done exit)
      | none => .done exit

/-- Reports a body under the trace that was handed down, or else under a fresh one, which is handed
down to the body. -/
def envelopingIn (source : Source) (operation : Operation)
    (body : Slot → Plan (P.plus ambient) (Exit α)) (slot : Slot) :
    Plan (P.plus ambient) (Exit α) :=
  match slot.current with
  | some trace => enveloping trace source operation (body slot)
  | none =>
      .ask (.inr .freshId) fun uuid =>
        enveloping ⟨uuid⟩ source operation (body (.inside (some ⟨uuid⟩)))

namespace Program

def directing (request : Request ν) (rest : Plan ((stage ν).plus ambient) α) :
    Plan ((stage ν).plus ambient) α :=
  .ask (.inl request) fun _ => rest

def announcing (source start success : String) (changes : List Adjustment)
    (body : Slot → Plan ((stage ν).plus ambient) (End ν)) (slot : Slot) :
    Plan ((stage ν).plus ambient) (End ν) :=
  match Source.make source, Operation.describe start success changes with
  | .error fault, _ => .done (.fault fault)
  | .ok _, .error fault => .done (.fault fault)
  | .ok source, .ok operation => envelopingIn source operation body slot

def concluding (passOn : Bool) (rest : Plan ((stage ν).plus ambient) (End ν)) :
    End ν → Plan ((stage ν).plus ambient) (End ν)
  | .value value => directing (.show (.result (.ok value))) rest
  | .fault cause =>
      directing (.show (.result (.error cause))) (if passOn then .done (.fault cause) else rest)
  | .crash message => .done (.crash message)

/-- What a program does where the given slot is handed down to it. -/
def evaluate : Program ν → Slot → Plan ((stage ν).plus ambient) (End ν)
  | .finish, _ => .done (.value none)
  | .give value, _ => .done (.value (some value))
  | .fail cause, _ => .done (.fault cause)
  | .crash message, _ => .done (.crash message)
  | .get rest, slot => directing (.show (.current slot.current)) (rest.evaluate slot)
  | .isInside rest, slot => directing (.show (.isInside slot.isInside)) (rest.evaluate slot)
  | .set _ rest, slot => directing (.show (.stored slot.isInside)) (rest.evaluate slot)
  | .clear rest, slot => rest.evaluate slot
  | .note text rest, slot => directing (.show (.note text)) (rest.evaluate slot)
  | .pause rest, slot => rest.evaluate slot
  | .writes reject rest, slot => directing (.writes reject) (rest.evaluate slot)
  | .enter key body rest, slot =>
      (body.evaluate (slot.store key)).bind (Exit.goOn (rest.evaluate slot))
  | .scope body rest, slot => (body.evaluate (.inside none)).bind (Exit.goOn (rest.evaluate slot))
  | .capture body rest, slot =>
      (body.evaluate slot).bind fun exit => directing (.show (.captured exit)) (rest.evaluate slot)
  | .audited source start success changes passOn body rest, slot =>
      (announcing source start success changes body.evaluate slot).bind
        (concluding passOn (rest.evaluate slot))
  | .spawn body rest, slot =>
      directing .openTask <|
        (body.evaluate .outside).bind fun exit =>
          directing (.closeTask exit) (rest.evaluate slot)
  | .gather rest, slot => directing .gather (rest.evaluate slot)

/-- Whether a program leaves the slot to the constructs around it: nowhere does it store a key or
clear the slot by hand. -/
def handsOff : Program ν → Bool
  | .finish | .give _ | .fail _ | .crash _ => true
  | .set _ _ | .clear _ => false
  | .get rest | .isInside rest | .note _ rest | .pause rest | .writes _ rest | .gather rest =>
      rest.handsOff
  | .enter _ body rest | .scope body rest | .capture body rest | .audited _ _ _ _ _ body rest
  | .spawn body rest => body.handsOff && rest.handsOff

end Program

end ClubOffice.Audit
