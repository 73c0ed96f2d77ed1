import ClubOffice.Settings

/-!
# Spelling settings

Settings that could be in use, and the named texts that spell them: numbers in decimal and texts as
they are.
-/

namespace ClubOffice

open Text

/-- Whether the relay can be reached in principle. -/
def RelaySettings.Sound (settings : RelaySettings) : Prop :=
  isBlank settings.host.toList = false ∧ settings.serverPort < Settings.bound16 ∧
    isBlank settings.sender.toList = false

/-- Whether emails can be sent in the given way. -/
def Provider.Sound : Provider → Prop
  | .console => True
  | .relay settings => settings.Sound

namespace Settings

/-- Whether the settings could be in use: nothing that is needed is missing, and every number is
within its bounds. -/
def Sound (settings : Settings) : Prop :=
  isBlank settings.databaseUrl.toList = false ∧
    (0 < settings.maxConnections ∧ settings.maxConnections < bound32) ∧
    (0 < settings.retentionDays ∧ settings.retentionDays ≤ Audit.Retention.longestDays) ∧
    (0 < settings.policy.batchSize ∧ settings.policy.batchSize < bound64) ∧
    (0 < settings.policy.maxAttempts ∧ settings.policy.maxAttempts < bound32) ∧
    (0 < settings.policy.leaseSeconds ∧ settings.policy.leaseSeconds < bound32) ∧
    settings.provider.Sound

def decimalText (n : Nat) : String := String.ofList (decimal n)

def providerTexts : Provider → List (String × String)
  | .console => [("EMAIL_PROVIDER", "console")]
  | .relay settings =>
      [ ("EMAIL_PROVIDER", "smtp"), ("SMTP_HOST", settings.host),
        ("SMTP_PORT", decimalText settings.serverPort), ("SMTP_USERNAME", settings.username),
        ("SMTP_PASSWORD", settings.password), ("SMTP_FROM_ADDRESS", settings.sender)]

/-- The texts that spell the settings, by name. -/
def texts (settings : Settings) : List (String × String) :=
  [ ("DATABASE_URL", settings.databaseUrl),
    ("DATABASE_MAX_CONNECTIONS", decimalText settings.maxConnections),
    ("AUDIT_RETENTION_DAYS", decimalText settings.retentionDays),
    ("EMAIL_FLUSH_BATCH_SIZE", decimalText settings.policy.batchSize),
    ("EMAIL_MAX_ATTEMPTS", decimalText settings.policy.maxAttempts),
    ("EMAIL_LEASE_SECONDS", decimalText settings.policy.leaseSeconds)] ++
    providerTexts settings.provider

def spelled (settings : Settings) : Lookup := fun name => List.lookup name settings.texts

end Settings

end ClubOffice
