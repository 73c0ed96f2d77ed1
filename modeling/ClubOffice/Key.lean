import ClubOffice.Fault
import ClubOffice.Uuid

/-!
# Keys

A key tells one thing of its kind from all others. Keys of different kinds cannot be mixed up.
New keys come from a supply that never gives the same one twice.
-/

namespace ClubOffice

/-- What a key is a key of. -/
inductive Subject
  | trace
  | event
  | entry
  | email
  | claim
deriving DecidableEq, Repr

/-- A key of a thing of the given kind. -/
structure Key (subject : Subject) where
  uuid : Uuid
deriving DecidableEq, Repr

/-- Groups the audited events of one invocation. -/
abbrev TraceKey := Key .trace

/-- Stands for a club event. -/
abbrev EventKey := Key .event

/-- Stands for an entry of the audit trail. -/
abbrev EntryKey := Key .entry

/-- Stands for a queued email. -/
abbrev EmailKey := Key .email

/-- Shows which claim an email is leased to. -/
abbrev ClaimToken := Key .claim

instance {subject : Subject} : ToString (Key subject) := ⟨fun key => key.uuid.text⟩

/-- Reads a key in any form of an identifier. -/
def Key.read {subject : Subject} (text : String) : Except Uuid.Flaw (Key subject) :=
  Key.mk <$> Uuid.read text.toList

/-- Reads the key of a trace, or says what is wrong with its text. -/
def TraceKey.parse (text : String) : Except Fault TraceKey :=
  match Key.read text with
  | .ok key => .ok key
  | .error flaw => .error (.validation s!"invalid trace id '{text}': {flaw.message}")

/-- An endless supply of fresh identifiers, the next of which is numbered `next`. -/
structure Supply where
  next : Nat
deriving DecidableEq, Repr

def Supply.take (supply : Supply) : Uuid × Supply := (Uuid.ofNat supply.next, ⟨supply.next + 1⟩)

def Supply.takeMany : Nat → Supply → List Uuid × Supply
  | 0, supply => ([], supply)
  | count + 1, supply =>
      let (others, left) := takeMany count supply.take.2
      (supply.take.1 :: others, left)

end ClubOffice
