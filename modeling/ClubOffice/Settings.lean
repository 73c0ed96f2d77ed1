import ClubOffice.Audit.Retention
import ClubOffice.Email.Flush
import ClubOffice.Text.Numeral

/-!
# Settings

The settings of the office come from named texts, some of which may be missing. They are looked at
in a fixed order, and the first thing that is wrong is reported: first every number on its own,
then the numbers that must not be zero, then the retention, then the way emails are sent.
-/

namespace ClubOffice

open Text

/-- The texts that settings are made of, by name. -/
abbrev Lookup := String → Option String

/-- What can be wrong with settings. -/
inductive Settings.Flaw
  | missing (name : String)
  | blank (name : String)
  | notNumber (name : String) (flaw : NumeralFlaw)
  | zero (name : String)
  | retentionTooLong
  | unknownProvider (provider : String)
deriving DecidableEq, Repr

namespace Settings.Flaw

def message : Flaw → String
  | .missing name => s!"{name} is required"
  | .blank name => s!"{name} must not be empty"
  | .notNumber name flaw => s!"invalid {name}: {flaw.message}"
  | .zero name => s!"{name} must be greater than zero"
  | .retentionTooLong => s!"AUDIT_RETENTION_DAYS must not exceed {Audit.Retention.longestDays}"
  | .unknownProvider provider =>
      s!"EMAIL_PROVIDER must be either 'console' or 'smtp', got '{provider}'"

def fault (flaw : Flaw) : Fault := .validation flaw.message

end Settings.Flaw

structure RelaySettings where
  host : String
  serverPort : Nat
  username : String
  password : String
  sender : String
deriving DecidableEq, Repr

/-- The way emails are sent. -/
inductive Provider
  | console
  | relay (settings : RelaySettings)
deriving DecidableEq, Repr

structure Settings where
  migrateOnly : Bool
  databaseUrl : String
  maxConnections : Nat
  retentionDays : Nat
  policy : Email.Policy
  provider : Provider
deriving DecidableEq, Repr

namespace Settings

def bound16 : Nat := Nat.pow 2 16

def bound32 : Nat := Nat.pow 2 32

def bound64 : Nat := Nat.pow 2 64

def standardConnections : Nat := 5

/-- A text that has to be there and to say something. It is taken as it is. -/
def required (lookup : Lookup) (name : String) : Except Flaw String :=
  match lookup name with
  | none => .error (.missing name)
  | some text => if isBlank text.toList then .error (.blank name) else .ok text

/-- A number, which may have white space around it, or a default. -/
def number (lookup : Lookup) (name : String) (bound default : Nat) : Except Flaw Nat :=
  match lookup name with
  | none => .ok default
  | some text => (readNumeral bound (trim text.toList)).mapError (.notNumber name)

/-- The first of the named numbers that is zero is reported. -/
def checkPositive : List (String × Nat) → Except Flaw Unit
  | [] => .ok ()
  | (name, n) :: rest => if n = 0 then .error (.zero name) else checkPositive rest

/-- How to reach the relay. The number may not have white space around it. -/
def readRelay (lookup : Lookup) : Except Flaw RelaySettings := do
  let serverPort ← required lookup "SMTP_PORT"
  let serverPort ← (readNumeral bound16 serverPort.toList).mapError (.notNumber "SMTP_PORT")
  let host ← required lookup "SMTP_HOST"
  let username := (lookup "SMTP_USERNAME").getD ""
  let password := (lookup "SMTP_PASSWORD").getD ""
  let sender ← required lookup "SMTP_FROM_ADDRESS"
  return ⟨host, serverPort, username, password, sender⟩

/-- The way emails are sent: to the console, unless it is said otherwise. -/
def readProvider (lookup : Lookup) : Except Flaw Provider :=
  let provider := String.ofList (trim ((lookup "EMAIL_PROVIDER").getD "console").toList)
  if provider = "console" then .ok .console
  else if provider = "smtp" then .relay <$> readRelay lookup
  else .error (.unknownProvider provider)

def read (migrateOnly : Bool) (lookup : Lookup) : Except Flaw Settings := do
  let databaseUrl ← required lookup "DATABASE_URL"
  let maxConnections ← number lookup "DATABASE_MAX_CONNECTIONS" bound32 standardConnections
  let retentionDays ←
    number lookup "AUDIT_RETENTION_DAYS" bound32 Audit.Retention.standardDays
  let batchSize ←
    number lookup "EMAIL_FLUSH_BATCH_SIZE" bound64 Email.Policy.standard.batchSize
  let maxAttempts ← number lookup "EMAIL_MAX_ATTEMPTS" bound32 Email.Policy.standard.maxAttempts
  let leaseSeconds ←
    number lookup "EMAIL_LEASE_SECONDS" bound32 Email.Policy.standard.leaseSeconds
  checkPositive
    [ ("DATABASE_MAX_CONNECTIONS", maxConnections), ("AUDIT_RETENTION_DAYS", retentionDays),
      ("EMAIL_FLUSH_BATCH_SIZE", batchSize), ("EMAIL_MAX_ATTEMPTS", maxAttempts),
      ("EMAIL_LEASE_SECONDS", leaseSeconds)]
  if Audit.Retention.longestDays < retentionDays then .error .retentionTooLong
  let provider ← readProvider lookup
  return ⟨migrateOnly, databaseUrl, maxConnections, retentionDays,
    ⟨batchSize, maxAttempts, leaseSeconds⟩, provider⟩

end Settings

end ClubOffice
