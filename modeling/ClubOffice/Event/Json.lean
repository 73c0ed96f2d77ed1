import ClubOffice.Event.Basic
import ClubOffice.Json.Reader
import ClubOffice.Time.Reader

/-!
# Events and their parts as JSON

An event is an object with five fields; it is also read from an array of the five in order. A key,
a label or a time is a string. A word out of a list is a string, and is also read from an object
with that word as its only name and null as its value. Reading does not check what is checked
when an event is planned.
-/

namespace ClubOffice

namespace Json

def Value.text? : Value → Option String
  | .string text => text
  | _ => none

/-- The word of a string, or of an object that names it. -/
def Value.word? : Value → Option String
  | .string text => text
  | .object [(name, .null)] => name
  | _ => none

/-- The value of the only member of that name. -/
def only? (name : String) (members : List (Text × Value)) : Option Value :=
  match members.filter fun field => field.1 = some name with
  | [(_, value)] => some value
  | _ => none

end Json

open Json

def Key.toJson {subject : Subject} (key : Key subject) : Value := .ofString key.uuid.text

/-- Reads a key in any form of an identifier. -/
def Key.ofJson? {subject : Subject} (value : Value) : Option (Key subject) :=
  value.text?.bind fun text => (Key.read text).toOption

def Label.toJson (label : Label) : Value := .ofString label.text

/-- Reads a label, blank or not. -/
def Label.ofJson? (value : Value) : Option Label := value.text?.map Label.mk

def Severity.toJson (severity : Severity) : Value := .ofString severity.word

def Severity.ofJson? (value : Value) : Option Severity := value.word?.bind Severity.ofWord?

def Time.Instant.toJson (instant : Time.Instant) : Value := .ofString instant.zulu

def Time.Instant.ofJson? (value : Value) : Option Time.Instant :=
  value.text?.bind fun text => Time.Instant.read text.toList

namespace Event

def Status.toJson (status : Status) : Value := .ofString status.word

def Status.ofJson? (value : Value) : Option Status := value.word?.bind Status.ofWord?

def fieldNames : List String := ["event_id", "title", "starts_at", "ends_at", "status"]

def fieldValues (event : Event) : List Value :=
  [event.key.toJson, event.title.toJson, event.startsAt.toJson, event.endsAt.toJson,
    event.status.toJson]

def toJson (event : Event) : Value :=
  .object ((fieldNames.map some).zip event.fieldValues)

def ofFieldValues? : List Value → Option Event
  | [key, title, startsAt, endsAt, status] => do
      return ⟨← Key.ofJson? key, ← Label.ofJson? title, ← Time.Instant.ofJson? startsAt,
        ← Time.Instant.ofJson? endsAt, ← Status.ofJson? status⟩
  | _ => none

/-- Reads an event. Every name in an object has to stand for a text, and each of the five has to
be there once. -/
def ofJson? : Value → Option Event
  | .array items => ofFieldValues? items
  | .object members =>
      if members.all (·.1.isSome) then (fieldNames.mapM (only? · members)).bind ofFieldValues?
      else none
  | _ => none

end Event

end ClubOffice
