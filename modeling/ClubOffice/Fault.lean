/-!
# Severities and faults

A fault is what an operation ends with when it does not succeed: a kind, and a text for whoever
reads it. A refusal is the one kind whose own text and severity go to the audit trail.
-/

namespace ClubOffice

/-- How grave an audited event is. -/
inductive Severity
  | info
  | warning
  | error
deriving DecidableEq, Repr

namespace Severity

def rank : Severity → Nat
  | .info => 0
  | .warning => 1
  | .error => 2

instance : LE Severity := ⟨fun a b => a.rank ≤ b.rank⟩

instance (a b : Severity) : Decidable (a ≤ b) := inferInstanceAs (Decidable (a.rank ≤ b.rank))

def word : Severity → String
  | .info => "info"
  | .warning => "warn"
  | .error => "error"

def all : List Severity := [.info, .warning, .error]

def ofWord? (word : String) : Option Severity := all.find? (·.word = word)

theorem ofWord?_word (severity : Severity) : ofWord? severity.word = some severity := by
  cases severity <;> rfl

end Severity

/-- A refusal to carry out an operation, to be told in the audit trail in its own words. -/
structure Refusal where
  reason : String
  severity : Severity
deriving DecidableEq, Repr

def Refusal.warning (reason : String) : Refusal := ⟨reason, .warning⟩

/-- Why an operation did not succeed. -/
inductive Fault
  | validation (detail : String)
  | notFound (detail : String)
  | conflict (detail : String)
  | unauthorized (detail : String)
  | forbidden (detail : String)
  | internal (detail : String)
  | refused (refusal : Refusal)
deriving DecidableEq, Repr

/-- The fault in words: its kind, then its detail. A refusal speaks for itself. -/
def Fault.message : Fault → String
  | .validation detail => "validation error: " ++ detail
  | .notFound detail => "not found: " ++ detail
  | .conflict detail => "conflict: " ++ detail
  | .unauthorized detail => "unauthorized: " ++ detail
  | .forbidden detail => "forbidden: " ++ detail
  | .internal detail => "internal error: " ++ detail
  | .refused refusal => refusal.reason

def Severity.read (word : String) : Except Fault Severity :=
  match Severity.ofWord? word with
  | some severity => .ok severity
  | none => .error (.validation s!"unknown audit level value '{word}'")

end ClubOffice
