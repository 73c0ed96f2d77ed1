import ClubOffice.Audit.Operation
import ClubOffice.Email.Queue
import ClubOffice.Event.Json

/-!
# Addresses, email statuses and sources as JSON

Each is a string, and a status is also read from an object with its word as the only name. Reading
does not check what is checked when an address or a source is made.
-/

namespace ClubOffice

open Json

namespace Email

def Address.toJson (address : Address) : Value := .ofString address.text

/-- Reads an address, sound or not. -/
def Address.ofJson? (value : Value) : Option Address := value.text?.map Address.mk

def Status.toJson (status : Status) : Value := .ofString status.word

def Status.ofJson? (value : Value) : Option Status := value.word?.bind Status.ofWord?

end Email

namespace Audit

def Source.toJson (source : Source) : Value := source.label.toJson

/-- Reads a source, blank or not. -/
def Source.ofJson? (value : Value) : Option Source := (Label.ofJson? value).map Source.mk

end Audit

end ClubOffice
