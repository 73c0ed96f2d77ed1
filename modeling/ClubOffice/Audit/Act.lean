import ClubOffice.Audit.Trail
import ClubOffice.Plan

/-!
# Acts

An act is work of one task. The task has a slot for the key of its current trace, which is there
only inside a scope; the act begins with the slot as it finds it and says how it leaves it. It ends
with a value, with a fault, or in a crash. Besides the calls of its own interface it can ask for
fresh identifiers, for the time, and for a record to be written.
-/

namespace ClubOffice

namespace Audit

inductive Ambient.Request
  | freshId
  | now
  | write (record : Record)
deriving DecidableEq

abbrev ambient : Interface where
  Request := Ambient.Request
  Reply
    | .freshId => Uuid
    | .now => Time.Instant
    | .write _ => Except Fault Unit

/-- The place for the key of the current trace. -/
inductive Slot
  | outside
  | inside (current : Option TraceKey)
deriving DecidableEq

namespace Slot

def isInside : Slot → Bool
  | .outside => false
  | .inside _ => true

/-- The key of the current trace. -/
def current : Slot → Option TraceKey
  | .outside => none
  | .inside current => current

/-- Puts a key in place of what is there; outside a scope nothing is stored. -/
def store (key : TraceKey) : Slot → Slot
  | .outside => .outside
  | .inside _ => .inside (some key)

def clear : Slot → Slot
  | .outside => .outside
  | .inside _ => .inside none

end Slot

/-- How work ends. -/
inductive Exit (α : Type)
  | value (result : α)
  | fault (cause : Fault)
  | crash (message : String)
deriving DecidableEq

def Exit.ofExcept {α : Type} : Except Fault α → Exit α
  | .ok result => .value result
  | .error cause => .fault cause

/-- Work of one task, from the slot as found to the slot as left. -/
def Act (P : Interface) (α : Type) := Slot → Plan (P.plus ambient) (Exit α × Slot)

namespace Act

variable {P : Interface} {α β : Type}

def finish (exit : Exit α) : Act P α := fun slot => .done (exit, slot)

/-- Goes on with `after` when the act ends with a value; any other end is the end of both. -/
def bind (act : Act P α) (after : α → Act P β) : Act P β := fun slot =>
  (act slot).bind fun
    | (.value result, slot) => after result slot
    | (.fault fault, slot) => .done (.fault fault, slot)
    | (.crash message, slot) => .done (.crash message, slot)

instance : Monad (Act P) where
  pure result := finish (.value result)
  bind := bind

def fail (fault : Fault) : Act P α := finish (.fault fault)

def crash (message : String) : Act P α := finish (.crash message)

def check (result : Except Fault α) : Act P α := finish (.ofExcept result)

/-- A plan of calls, which leaves the slot alone. -/
def ofPlan (plan : Plan P (Except Fault α)) : Act P α := fun slot =>
  plan.inLeft.bind fun result => .done (.ofExcept result, slot)

def observe (plan : Plan P α) : Act P α := fun slot =>
  plan.inLeft.bind fun result => .done (.value result, slot)

def freshId : Act P Uuid := fun slot =>
  .ask (.inr .freshId) fun uuid => .done (.value uuid, slot)

def slot : Act P Slot := fun slot => .done (.value slot, slot)

def changeSlot (change : Slot → Slot) : Act P Unit := fun slot => .done (.value (), change slot)

/-- Changes the slot at the end, whichever way the act ends. -/
def atEnd (act : Act P α) (change : Slot → Slot) : Act P α := fun slot =>
  (act slot).bind fun (exit, slot) => .done (exit, change slot)

/-- Runs the act with a slot of its own, empty at first, and gives the outer slot back. -/
def scope (act : Act P α) : Act P α := fun outer =>
  (act (.inside none)).bind fun (exit, _) => .done (exit, outer)

/-- Runs the act with the key stored, and takes away what is stored when it ends. -/
def enter (key : TraceKey) (act : Act P α) : Act P α := fun slot =>
  act.atEnd Slot.clear (slot.store key)

def capture (act : Act P α) : Act P (Exit α) := fun slot =>
  (act slot).bind fun (exit, slot) => .done (.value exit, slot)

/-- Goes on with the value or the fault that the act ends with; a crash is still a crash. -/
def settle (act : Act P α) : Act P (Except Fault α) := fun slot =>
  (act slot).bind fun
    | (.value result, slot) => .done (.value (.ok result), slot)
    | (.fault fault, slot) => .done (.value (.error fault), slot)
    | (.crash message, slot) => .done (.crash message, slot)

end Act

end Audit

end ClubOffice
