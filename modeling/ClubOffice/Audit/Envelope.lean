import ClubOffice.Audit.Act

/-!
# The audit envelope

An audited act is reported when it starts and when it ends: its success with the line of the
operation, a refusal with the words of the refusal, and another fault with the line for failure if
the operation has one. A crash is not reported. What is reported never changes how the act ends,
and a report that cannot be written is dropped. The reports of one invocation, and of those
inside it, share a trace.
-/

namespace ClubOffice.Audit

variable {P : Interface} {α : Type}

/-- Writes one report, whether or not the trail takes it. -/
def report (trace : TraceKey) (source : Source) (message : String) (severity : Severity) :
    Act P Unit := fun slot =>
  .ask (.inr .now) fun now =>
    .ask (.inr (.write ⟨trace, source, message, severity, now⟩)) fun _ => .done (.value (), slot)

/-- What is reported about an end, and how grave it is. -/
def Operation.closing (operation : Operation) : Exit α → Option (String × Severity)
  | .value _ => some (operation.success.text, operation.severity)
  | .fault (.refused refusal) => some (refusal.reason, refusal.severity)
  | .fault _ => operation.failure.map fun line => (line.text, operation.severity)
  | .crash _ => none

def reportEnd (trace : TraceKey) (source : Source) (operation : Operation) (act : Act P α) :
    Act P α := fun slot =>
  (act slot).bind fun (exit, slot) =>
    match operation.closing exit with
    | some (message, severity) =>
        (report trace source message severity).bind (fun _ => Act.finish exit) slot
    | none => .done (exit, slot)

def reported (trace : TraceKey) (source : Source) (operation : Operation) (act : Act P α) :
    Act P α :=
  (report trace source operation.start.text operation.severity).bind fun _ =>
    reportEnd trace source operation act

/-- Reports an act inside a scope: under the current trace if there is one, and else under a fresh
one, which is current until the act ends. -/
def reportedInScope (source : Source) (operation : Operation) (act : Act P α) : Act P α :=
  fun slot =>
    match slot.current with
    | some trace => reported trace source operation act slot
    | none =>
        .ask (.inr .freshId) fun uuid =>
          Act.enter ⟨uuid⟩ (reported ⟨uuid⟩ source operation act) slot

/-- Reports an act. Outside a scope it gets one of its own. -/
def audited (source : Source) (operation : Operation) (act : Act P α) : Act P α := fun slot =>
  if slot.isInside then reportedInScope source operation act slot
  else Act.scope (reportedInScope source operation act) slot

end ClubOffice.Audit
