import ClubOffice.Label

/-!
# Audited operations

What the audit trail says about an operation: who reports it, a line for its start and one for
its success, perhaps one for its failure, and how grave these lines are.
-/

namespace ClubOffice.Audit

/-- The subsystem that reports. -/
structure Source where
  label : Label
deriving DecidableEq, Repr

namespace Source

def make (name : String) : Except Fault Source := Source.mk <$> Label.make name

def name (source : Source) : String := source.label.text

end Source

/-- The lines reported about an operation. -/
structure Operation where
  start : Label
  success : Label
  failure : Option Label
  severity : Severity
deriving DecidableEq, Repr

namespace Operation

/-- An operation reported as information and without a line for failure. -/
def make (start success : String) : Except Fault Operation := do
  let start ← Label.make start
  let success ← Label.make success
  return ⟨start, success, none, .info⟩

/-- Reports a failure with the given line, or not at all if it is blank. -/
def withFailure (operation : Operation) (line : String) : Operation :=
  { operation with failure := (Label.make line).toOption }

def withSeverity (operation : Operation) (severity : Severity) : Operation :=
  { operation with severity := severity }

end Operation

inductive Adjustment
  | failure (line : String)
  | severity (severity : Severity)
deriving DecidableEq, Repr

def Operation.adjust (operation : Operation) : Adjustment → Operation
  | .failure line => operation.withFailure line
  | .severity severity => operation.withSeverity severity

def Operation.describe (start success : String) (changes : List Adjustment) :
    Except Fault Operation :=
  (fun operation => changes.foldl adjust operation) <$> make start success

end ClubOffice.Audit
