import ClubOffice.Email.Flush

/-!
# Rehearsals with email

A queue in memory and a way to deliver whose outcomes are arranged in advance. Calls can be made to
fail, and leases to be lost in the middle of a delivery.
-/

namespace ClubOffice.Email

inductive Post.Call
  | enqueue
  | claim
  | send
  | markSent
  | recordFailure
deriving DecidableEq, Repr

def Post.Request.call : Post.Request → Post.Call
  | .enqueue _ => .enqueue
  | .claim _ _ => .claim
  | .send _ _ _ _ => .send
  | .markSent _ _ => .markSent
  | .recordFailure _ _ _ _ => .recordFailure

def Post.failing (fault : Fault) : (request : post.Request) → post.Reply request
  | .enqueue _ => .error fault
  | .claim _ _ => .error fault
  | .send _ _ _ _ => .error fault
  | .markSent _ _ => .error fault
  | .recordFailure _ _ _ _ => .error fault

/-- The outcome of one delivery: first every lease may go to someone else, then the delivery fails
or succeeds. -/
structure Delivery where
  steal : Bool
  failure : Option Fault
deriving DecidableEq

/-- How emails are delivered: to the console, which always works and is not noted as a call, or as
arranged. -/
inductive Channel
  | console
  | arranged (outcomes : List Delivery)
deriving DecidableEq

/-- A queue and a channel, the faults arranged for the calls to come, the calls made so far, and the
supply of identifiers. -/
structure Office where
  queue : Queue
  channel : Channel
  faults : List (Post.Call × Fault)
  calls : List Post.Request
  supply : Supply

namespace Office

def set (channel : Channel) (supply : Supply) : Office := ⟨.empty, channel, [], [], supply⟩

def arrangeDeliveries (office : Office) (outcomes : List Delivery) : Office :=
  match office.channel with
  | .console => office
  | .arranged before => { office with channel := .arranged (before ++ outcomes) }

/-- Arranges a fault for the next call of its kind that has none yet. -/
def arrangeFault (office : Office) (call : Post.Call) (fault : Fault) : Office :=
  { office with faults := office.faults ++ [(call, fault)] }

def expire (office : Office) : Office := { office with queue := office.queue.expire }

def forgetCalls (office : Office) : Office := { office with calls := [] }

def notes (office : Office) (request : Post.Request) : Bool :=
  match office.channel, request with
  | .console, .send _ _ _ _ => false
  | _, _ => true

/-- Takes the next arranged outcome; when none is left the delivery succeeds. -/
def deliver (office : Office) : Except Fault Unit × Office :=
  match office.channel with
  | .console | .arranged [] => (.ok (), office)
  | .arranged (outcome :: rest) =>
      let (queue, supply) :=
        if outcome.steal then office.queue.steal office.supply else (office.queue, office.supply)
      let reply : Except Fault Unit :=
        match outcome.failure with
        | some fault => .error fault
        | none => .ok ()
      (reply, { office with queue := queue, supply := supply, channel := .arranged rest })

def serveCalmly : Server post Office
  | .enqueue letter, office =>
      let (uuid, supply) := office.supply.take
      (.ok ⟨uuid⟩, { office with queue := office.queue.enqueue ⟨uuid⟩ letter, supply := supply })
  | .claim limit _, office =>
      let (claimed, queue, supply) := office.queue.claim limit office.supply
      (.ok claimed, { office with queue := queue, supply := supply })
  | .send _ _ _ _, office => office.deliver
  | .markSent key token, office =>
      let (reply, queue) := office.queue.markSent key token
      (reply, { office with queue := queue })
  | .recordFailure key token reason maxAttempts, office =>
      let (reply, queue) := office.queue.recordFailure key token reason maxAttempts
      (reply, { office with queue := queue })

/-- Answers requests: the call is noted, and fails if a fault is arranged for it. -/
def serve : Server post Office := fun (request : Post.Request) office =>
  if office.notes request then
    let office := { office with calls := office.calls ++ [request] }
    match office.faults.find? (·.1 = request.call) with
    | some (_, fault) =>
        (Post.failing fault request,
          { office with faults := office.faults.eraseP (·.1 = request.call) })
    | none => serveCalmly request office
  else serveCalmly request office

end Office

end ClubOffice.Email
