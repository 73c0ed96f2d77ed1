import ClubOffice.Email.Queue

/-!
# Delivering the queue

A flush claims a batch of emails and delivers them one after the other, noting the outcome of each
before the next is tried. A delivery that fails counts against that email alone; a queue that fails
ends the flush, and what was noted before stays noted.
-/

namespace ClubOffice.Email

structure Policy where
  batchSize : Nat
  maxAttempts : Nat
  leaseSeconds : Nat
deriving DecidableEq, Repr

namespace Policy

def standard : Policy := ⟨50, 5, 300⟩

/-- Accepts a policy of numbers that are not zero. -/
def check (policy : Policy) : Except Fault Policy :=
  if policy.batchSize = 0 then
    .error (.validation "email flush batch size must be greater than zero")
  else if policy.maxAttempts = 0 then
    .error (.validation "email max attempts must be greater than zero")
  else if policy.leaseSeconds = 0 then
    .error (.validation "email lease must be greater than zero")
  else .ok policy

theorem check_eq_ok_iff (policy accepted : Policy) :
    policy.check = .ok accepted ↔
      accepted = policy ∧ 0 < policy.batchSize ∧ 0 < policy.maxAttempts ∧
        0 < policy.leaseSeconds := by
  unfold check
  repeat' split
  all_goals simp_all [Nat.pos_iff_ne_zero, eq_comm]

end Policy

structure Tally where
  claimed : Nat
  sent : Nat
  retried : Nat
  failed : Nat
  leaseLost : Nat
deriving DecidableEq, Repr

namespace Tally

def start (claimed : Nat) : Tally := ⟨claimed, 0, 0, 0, 0⟩

def addSent (tally : Tally) : Tally := { tally with sent := tally.sent + 1 }

def addLeaseLost (tally : Tally) : Tally := { tally with leaseLost := tally.leaseLost + 1 }

/-- One more that was not delivered, and how it stands now. -/
def addFailure (tally : Tally) : Status → Tally
  | .failed => { tally with failed := tally.failed + 1 }
  | _ => { tally with retried := tally.retried + 1 }

end Tally

def enqueue (recipient subject body : String) : Plan post (Except Fault EmailKey) :=
  match Letter.make recipient subject body with
  | .error fault => .done (.error fault)
  | .ok letter => .ask (.enqueue letter) .done

def deliverEach (maxAttempts : Nat) : List Claimed → Tally → Plan post (Except Fault Tally)
  | [], tally => .done (.ok tally)
  | email :: rest, tally =>
      .ask (.send email.recipient email.subject email.body none) fun
        | .ok () =>
            .ask (.markSent email.key email.token) fun
              | .ok true => deliverEach maxAttempts rest tally.addSent
              | .ok false => deliverEach maxAttempts rest tally.addLeaseLost
              | .error fault => .done (.error fault)
        | .error failure =>
            .ask (.recordFailure email.key email.token failure.message maxAttempts) fun
              | .ok (some status) => deliverEach maxAttempts rest (tally.addFailure status)
              | .ok none => deliverEach maxAttempts rest tally.addLeaseLost
              | .error fault => .done (.error fault)

def flush (policy : Policy) : Plan post (Except Fault Tally) :=
  .ask (.claim policy.batchSize policy.leaseSeconds) fun
    | .ok claimed => deliverEach policy.maxAttempts claimed (.start claimed.length)
    | .error fault => .done (.error fault)

end ClubOffice.Email
