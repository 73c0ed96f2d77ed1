import ClubOffice.Audit.Retention
import ClubOffice.Event.Lifecycle

/-!
# Rehearsals with events

A register and a trail in memory, with disturbances arranged in advance: a call can be made to
fail, to lose a race against another move of the same event, or to be answered falsely.
-/

namespace ClubOffice.Event

open Audit

inductive Registry.Call
  | save
  | find
  | due
  | update
deriving DecidableEq, Repr

def Registry.Request.call : Registry.Request → Registry.Call
  | .save _ => .save
  | .find _ => .find
  | .due _ => .due
  | .update _ _ _ => .update

/-- What can come between a call and the register. -/
inductive Disturbance
  | fails (fault : Fault)
  | race (status : Status)
  | extra (events : List Event)
  | refuses
deriving DecidableEq

/-- A register and a trail, the keys of the events that were created here, first one first, what is
arranged for the calls to come, whether the trail refuses records, the supply of identifiers, and
the time. -/
structure Scene where
  register : Register
  created : List EventKey
  arranged : List (Registry.Call × Disturbance)
  trail : Trail
  reject : Option Fault
  supply : Supply
  now : Time.Instant

namespace Scene

def set (supply : Supply) (now : Time.Instant) : Scene :=
  ⟨.empty, [], [], .empty, none, supply, now⟩

def arrange (scene : Scene) (call : Registry.Call) (disturbance : Disturbance) : Scene :=
  { scene with arranged := scene.arranged ++ [(call, disturbance)] }

def takeArranged (scene : Scene) (call : Registry.Call) : Option Disturbance × Scene :=
  match scene.arranged.find? (·.1 = call) with
  | none => (none, scene)
  | some (_, disturbance) =>
      (some disturbance, { scene with arranged := scene.arranged.eraseP (·.1 = call) })

/-- The place of an event among those created here; all others come after them. -/
def place (scene : Scene) (event : Event) : Nat := scene.created.idxOf event.key

/-- The events that are due at a time. Of those that end together, the ones created here come first,
in the order of their creation. -/
def due (scene : Scene) (now : Time.Instant) : List Event :=
  sorted (fun a b => a.endsAt < b.endsAt || (a.endsAt ≤ b.endsAt && scene.place a ≤ scene.place b))
    (scene.register.due now)

def serveCalmly : Server registry Scene
  | .due now, scene => (.ok (scene.due now), scene)
  | .save event, scene =>
      let (reply, register) := Register.serve (.save event) scene.register
      (reply, { scene with register := register })
  | .find key, scene => (.ok (scene.register.find? key), scene)
  | .update key expected next, scene =>
      let (reply, register) := scene.register.update key expected next
      (reply, { scene with register := register })

def failing (fault : Fault) : (request : registry.Request) → registry.Reply request
  | .save _ => .error fault
  | .find _ => .error fault
  | .due _ => .error fault
  | .update _ _ _ => .error fault

/-- The register answers through a disturbance. -/
def serveDisturbed (disturbance : Disturbance) :
    (request : registry.Request) → Scene → registry.Reply request × Scene
  | .update key expected next, scene =>
      match disturbance with
      | .fails fault => (.error fault, scene)
      | .refuses => (.ok false, scene)
      | .extra _ => serveCalmly (.update key expected next) scene
      | .race status =>
          match scene.register.update key .opened status with
          | (.error fault, register) => (.error fault, { scene with register := register })
          | (.ok _, register) =>
              serveCalmly (.update key expected next) { scene with register := register }
  | .due now, scene =>
      match disturbance with
      | .fails fault => (.error fault, scene)
      | .extra events => (.ok (scene.due now ++ events), scene)
      | _ => serveCalmly (.due now) scene
  | .save event, scene =>
      match disturbance with
      | .fails fault => (.error fault, scene)
      | _ => serveCalmly (.save event) scene
  | .find key, scene =>
      match disturbance with
      | .fails fault => (.error fault, scene)
      | _ => serveCalmly (.find key) scene

def serve : Server registry Scene := fun request scene =>
  match scene.takeArranged request.call with
  | (none, scene) => serveCalmly request scene
  | (some disturbance, scene) => serveDisturbed disturbance request scene

def surround : Server ambient Scene
  | .freshId, scene => (scene.supply.take.1, { scene with supply := scene.supply.take.2 })
  | .now, scene => (scene.now, scene)
  | .write record, scene =>
      match scene.reject with
      | some fault => (.error fault, scene)
      | none =>
          let (uuid, supply) := scene.supply.take
          let trail := scene.trail.append (.ofRecord ⟨uuid⟩ record)
          (.ok (), { scene with trail := trail, supply := supply })

def ask (scene : Scene) (request : registry.Request) : registry.Reply request × Scene :=
  serve request scene

/-- Carries out an act outside any scope. -/
def perform {α : Type} (scene : Scene) (act : Act registry α) : Exit α × Scene :=
  let ((exit, _), scene) := (act .outside).run (serve.both surround) scene
  (exit, scene)

def create (scene : Scene) (draft : Draft) : Exit Event × Scene :=
  match scene.perform (Event.create draft) with
  | (.value event, scene) =>
      (.value event, { scene with created := scene.created ++ [event.key] })
  | (.fault fault, scene) => (.fault fault, scene)
  | (.crash message, scene) => (.crash message, scene)

def cancel (scene : Scene) (key : EventKey) : Exit Event × Scene :=
  scene.perform (Event.cancel key)

def close (scene : Scene) : Except Fault Nat × Scene :=
  closeElapsed.run (serve.both surround) scene

end Scene

end ClubOffice.Event
