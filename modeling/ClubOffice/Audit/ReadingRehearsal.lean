import ClubOffice.Audit.Retention

/-!
# Rehearsals of reading

A store of entries that holds none, keeps what it was asked, and can be made to fail. What a removal
is answered with is arranged.
-/

namespace ClubOffice.Audit

/-- The fault that every call fails with, the number of entries said to be removed, the calls made
so far, and the time. -/
structure ReadingRoom where
  failure : Option Fault
  removed : Nat
  calls : List Archive.Request
  now : Time.Instant

namespace ReadingRoom

def set (now : Time.Instant) : ReadingRoom := ⟨none, 0, [], now⟩

def note (room : ReadingRoom) (call : Archive.Request) : ReadingRoom :=
  { room with calls := room.calls ++ [call] }

def forgetCalls (room : ReadingRoom) : ReadingRoom := { room with calls := [] }

def answer {α : Type} (room : ReadingRoom) (result : α) : Except Fault α :=
  match room.failure with
  | some fault => .error fault
  | none => .ok result

def serve : Server archive ReadingRoom
  | .now, room => (room.now, room)
  | .page query, room => (room.answer [], room.note (.page query))
  | .trace trace, room => (room.answer [], room.note (.trace trace))
  | .purge cutoff, room => (room.answer room.removed, room.note (.purge cutoff))

end ReadingRoom

end ClubOffice.Audit
