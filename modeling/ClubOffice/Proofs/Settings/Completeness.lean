import ClubOffice.Proofs.Text.Spelling
import ClubOffice.Settings.Spelling

/-!
# Which settings are read

Settings that are read could be in use, and all that could be in use are read from the texts that
spell them. How a number is spelled makes no difference, and as long as emails go to the console it
makes none how to reach the relay.
-/

namespace ClubOffice.Settings

open Text

variable {lookup lookup' : Lookup} {name text : String} {bound default n : Nat}

theorem ok_of_bind {ε α β : Type} {first : Except ε α} {next : α → Except ε β} {result : β}
    (done : (first >>= next) = .ok result) :
    ∃ value, first = .ok value ∧ next value = .ok result := by
  cases first with
  | error flaw => cases done
  | ok value => exact ⟨value, rfl, done⟩

theorem required_eq_ok_iff :
    required lookup name = .ok text ↔ lookup name = some text ∧ isBlank text.toList = false := by
  unfold required
  cases lookup name with
  | none => simp
  | some given =>
      by_cases blank : isBlank given.toList = true
      · simp only [blank, if_true, reduceCtorEq, Option.some.injEq, false_iff, not_and]
        rintro rfl
        exact Bool.eq_false_iff.not.2 (not_not.2 blank)
      · simp only [blank, Bool.false_eq_true, if_false, Except.ok.injEq, Option.some.injEq]
        constructor
        · rintro rfl
          exact ⟨rfl, Bool.eq_false_iff.2 blank⟩
        · exact fun found => found.1

theorem lt_of_number (small : default < bound) (done : number lookup name bound default = .ok n) :
    n < bound := by
  unfold number at done
  cases found : lookup name with
  | none =>
      rw [found] at done
      cases done
      exact small
  | some given =>
      rw [found] at done
      cases read : readNumeral bound (trim given.toList) with
      | error flaw =>
          simp only [read] at done
          cases done
      | ok value =>
          simp only [read] at done
          cases done
          exact lt_of_readNumeral (Nat.zero_lt_of_lt small) read

theorem number_of_spells (positive : 0 < bound) (found : lookup name = some text)
    (spells : Spells n text.toList) :
    number lookup name bound default = (checkBelow bound n).mapError (.notNumber name) := by
  simp only [number, found]
  rw [readNumeral_of_spells positive spells]

theorem checkPositive_eq_ok_iff (numbers : List (String × Nat)) :
    checkPositive numbers = .ok () ↔ ∀ named ∈ numbers, 0 < named.2 := by
  induction numbers with
  | nil => simp [checkPositive]
  | cons named numbers ih =>
      obtain ⟨name, n⟩ := named
      rw [List.forall_mem_cons, ← ih, checkPositive]
      split
      · rename_i zero
        simp [zero]
      · rename_i other
        simp [Nat.pos_of_ne_zero other]

/-- The settings that are numbers, apart from the port of the relay. -/
def numberNames : List String :=
  [ "DATABASE_MAX_CONNECTIONS", "AUDIT_RETENTION_DAYS", "EMAIL_FLUSH_BATCH_SIZE",
    "EMAIL_MAX_ATTEMPTS", "EMAIL_LEASE_SECONDS"]

theorem sound_of_readRelay {relay : RelaySettings} (done : readRelay lookup = .ok relay) :
    relay.Sound := by
  unfold readRelay at done
  obtain ⟨portText, _, done⟩ := ok_of_bind done
  obtain ⟨serverPort, port, done⟩ := ok_of_bind done
  obtain ⟨host, hostRead, done⟩ := ok_of_bind done
  obtain ⟨sender, senderRead, done⟩ := ok_of_bind done
  cases done
  refine ⟨(required_eq_ok_iff.1 hostRead).2, ?_, (required_eq_ok_iff.1 senderRead).2⟩
  cases read : readNumeral bound16 portText.toList with
  | error flaw =>
      rw [read] at port
      cases port
  | ok value =>
      rw [read] at port
      cases port
      exact lt_of_readNumeral (by decide) read

theorem sound_of_readProvider {provider : Provider} (done : readProvider lookup = .ok provider) :
    provider.Sound := by
  simp only [readProvider] at done
  split at done
  · cases done
    trivial
  · split at done
    · cases read : readRelay lookup with
      | error flaw =>
          rw [read] at done
          cases done
      | ok relay =>
          rw [read] at done
          cases done
          exact sound_of_readRelay read
    · cases done

/-- Settings that are read could be in use. -/
theorem sound_of_read {migrateOnly : Bool} {settings : Settings}
    (done : read migrateOnly lookup = .ok settings) :
    settings.migrateOnly = migrateOnly ∧ settings.Sound := by
  unfold read at done
  obtain ⟨databaseUrl, urlRead, done⟩ := ok_of_bind done
  obtain ⟨maxConnections, connectionsRead, done⟩ := ok_of_bind done
  obtain ⟨retentionDays, daysRead, done⟩ := ok_of_bind done
  obtain ⟨batchSize, batchRead, done⟩ := ok_of_bind done
  obtain ⟨maxAttempts, attemptsRead, done⟩ := ok_of_bind done
  obtain ⟨leaseSeconds, leaseRead, done⟩ := ok_of_bind done
  obtain ⟨_, positive, done⟩ := ok_of_bind done
  have positive := (checkPositive_eq_ok_iff _).1 positive
  simp only [List.forall_mem_cons] at positive
  obtain ⟨somePlaces, someDays, someEmails, someAttempts, someSeconds, _⟩ := positive
  split at done
  · cases done
  · rename_i short
    obtain ⟨provider, providerRead, done⟩ := ok_of_bind done
    cases done
    exact ⟨rfl, (required_eq_ok_iff.1 urlRead).2,
      ⟨somePlaces, lt_of_number (by decide) connectionsRead⟩, ⟨someDays, Nat.not_lt.1 short⟩,
      ⟨someEmails, lt_of_number (by decide) batchRead⟩,
      ⟨someAttempts, lt_of_number (by decide) attemptsRead⟩,
      ⟨someSeconds, lt_of_number (by decide) leaseRead⟩, sound_of_readProvider providerRead⟩

/-- Sound settings are accepted by those who use them. -/
theorem Sound.accepted {settings : Settings} (sound : settings.Sound) :
    (∃ retention, Audit.Retention.make settings.retentionDays = .ok retention) ∧
      settings.policy.check = .ok settings.policy := by
  obtain ⟨_, _, ⟨someDays, short⟩, ⟨someEmails, _⟩, ⟨someAttempts, _⟩, ⟨someSeconds, _⟩, _⟩ := sound
  constructor
  · unfold Audit.Retention.make
    rw [dif_neg (Nat.pos_iff_ne_zero.1 someDays), dif_neg (Nat.not_lt.2 short)]
    exact ⟨_, rfl⟩
  · exact (Email.Policy.check_eq_ok_iff _ _).2 ⟨rfl, someEmails, someAttempts, someSeconds⟩

theorem number_of_decimal (fits : n < bound) (found : lookup name = some (decimalText n)) :
    number lookup name bound default = .ok n := by
  have spells : Spells n (decimalText n).toList := by
    rw [decimalText, String.toList_ofList]
    exact spells_decimal n
  rw [number_of_spells (Nat.zero_lt_of_lt fits) found spells, checkBelow, if_pos fits]
  rfl

theorem ok_bind {ε α β : Type} (value : α) (next : α → Except ε β) :
    ((.ok value : Except ε α) >>= next) = next value := rfl

theorem readRelay_spelled {settings : Settings} {relay : RelaySettings} (sound : relay.Sound)
    (used : settings.provider = .relay relay) : readRelay settings.spelled = .ok relay := by
  obtain ⟨hostSaid, portFits, senderSaid⟩ := sound
  have portText : settings.spelled "SMTP_PORT" = some (decimalText relay.serverPort) := by
    simp [spelled, texts, providerTexts, used, List.lookup_cons]
  have host : settings.spelled "SMTP_HOST" = some relay.host := by
    simp [spelled, texts, providerTexts, used, List.lookup_cons]
  have username : settings.spelled "SMTP_USERNAME" = some relay.username := by
    simp [spelled, texts, providerTexts, used, List.lookup_cons]
  have password : settings.spelled "SMTP_PASSWORD" = some relay.password := by
    simp [spelled, texts, providerTexts, used, List.lookup_cons]
  have sender : settings.spelled "SMTP_FROM_ADDRESS" = some relay.sender := by
    simp [spelled, texts, providerTexts, used, List.lookup_cons]
  have digits : (decimalText relay.serverPort).toList = decimal relay.serverPort :=
    String.toList_ofList
  have port : readNumeral bound16 (decimalText relay.serverPort).toList = .ok relay.serverPort := by
    rw [digits]
    exact (readNumeral_numeral (by decide) false 0 relay.serverPort).trans (if_pos portFits)
  have said : isBlank (decimalText relay.serverPort).toList = false := by
    rw [digits]
    exact isBlank_decimal relay.serverPort
  unfold readRelay
  rw [required_eq_ok_iff.2 ⟨portText, said⟩, ok_bind, port, required_eq_ok_iff.2 ⟨host, hostSaid⟩,
    required_eq_ok_iff.2 ⟨sender, senderSaid⟩, username, password]
  rfl

theorem readProvider_spelled {settings : Settings} (sound : settings.provider.Sound) :
    readProvider settings.spelled = .ok settings.provider := by
  cases used : settings.provider with
  | console =>
      have named : settings.spelled "EMAIL_PROVIDER" = some "console" := by
        simp [spelled, texts, providerTexts, used, List.lookup_cons]
      have trimmed : String.ofList (trim "console".toList) = "console" := by decide
      simp only [readProvider, named, Option.getD_some, trimmed]
      rfl
  | relay relay =>
      rw [used] at sound
      have named : settings.spelled "EMAIL_PROVIDER" = some "smtp" := by
        simp [spelled, texts, providerTexts, used, List.lookup_cons]
      have trimmed : String.ofList (trim "smtp".toList) = "smtp" := by decide
      simp only [readProvider, named, Option.getD_some, trimmed]
      rw [readRelay_spelled sound used]
      rfl

/-- Settings that could be in use are read from the texts that spell them. -/
theorem read_spelled {settings : Settings} (sound : settings.Sound) :
    read settings.migrateOnly settings.spelled = .ok settings := by
  obtain ⟨urlSaid, ⟨somePlaces, placesFit⟩, ⟨someDays, short⟩, ⟨someEmails, emailsFit⟩,
    ⟨someAttempts, attemptsFit⟩, ⟨someSeconds, secondsFit⟩, provider⟩ := sound
  have daysFit : settings.retentionDays < bound32 := Nat.lt_of_le_of_lt short (by decide)
  have url : required settings.spelled "DATABASE_URL" = .ok settings.databaseUrl :=
    required_eq_ok_iff.2 ⟨rfl, urlSaid⟩
  have places : number settings.spelled "DATABASE_MAX_CONNECTIONS" bound32 standardConnections =
      .ok settings.maxConnections := number_of_decimal placesFit rfl
  have days : number settings.spelled "AUDIT_RETENTION_DAYS" bound32
      Audit.Retention.standardDays = .ok settings.retentionDays := number_of_decimal daysFit rfl
  have emails : number settings.spelled "EMAIL_FLUSH_BATCH_SIZE" bound64
      Email.Policy.standard.batchSize = .ok settings.policy.batchSize :=
    number_of_decimal emailsFit rfl
  have attempts : number settings.spelled "EMAIL_MAX_ATTEMPTS" bound32
      Email.Policy.standard.maxAttempts = .ok settings.policy.maxAttempts :=
    number_of_decimal attemptsFit rfl
  have seconds : number settings.spelled "EMAIL_LEASE_SECONDS" bound32
      Email.Policy.standard.leaseSeconds = .ok settings.policy.leaseSeconds :=
    number_of_decimal secondsFit rfl
  have positive : checkPositive
      [ ("DATABASE_MAX_CONNECTIONS", settings.maxConnections),
        ("AUDIT_RETENTION_DAYS", settings.retentionDays),
        ("EMAIL_FLUSH_BATCH_SIZE", settings.policy.batchSize),
        ("EMAIL_MAX_ATTEMPTS", settings.policy.maxAttempts),
        ("EMAIL_LEASE_SECONDS", settings.policy.leaseSeconds)] = .ok () :=
    (checkPositive_eq_ok_iff _).2 (by simp [*])
  unfold read
  rw [url, ok_bind, places, ok_bind, days, ok_bind, emails, ok_bind, attempts, ok_bind, seconds,
    ok_bind, positive, ok_bind, if_neg (Nat.not_lt.2 short), readProvider_spelled provider]
  rfl

/-- Settings are read alike where the numbers are read alike and the other texts are the same. -/
theorem read_congr (migrateOnly : Bool) (url : lookup' "DATABASE_URL" = lookup "DATABASE_URL")
    (numbers : ∀ name ∈ numberNames, ∀ bound default, 0 < bound →
      number lookup' name bound default = number lookup name bound default)
    (provider : readProvider lookup' = readProvider lookup) :
    read migrateOnly lookup' = read migrateOnly lookup := by
  simp only [numberNames, List.forall_mem_cons] at numbers
  obtain ⟨places, days, emails, attempts, seconds, _⟩ := numbers
  have small : 0 < bound32 := by decide
  have large : 0 < bound64 := by decide
  have sameUrl : required lookup' "DATABASE_URL" = required lookup "DATABASE_URL" := by
    simp only [required, url]
  unfold read
  rw [sameUrl, places _ _ small, days _ _ small, emails _ _ large, attempts _ _ small,
    seconds _ _ small, provider]

/-- Whether the second lookup finds the same texts as the first, apart from numbers that it may find
spelled in another way. -/
structure Respelled (lookup lookup' : Lookup) : Prop where
  texts : ∀ name ∉ numberNames, lookup' name = lookup name
  numbers : ∀ name ∈ numberNames, lookup' name = lookup name ∨
    ∃ n text text', lookup name = some text ∧ lookup' name = some text' ∧
      Spells n text.toList ∧ Spells n text'.toList

theorem Respelled.number_eq (respelled : Respelled lookup lookup') (member : name ∈ numberNames)
    (positive : 0 < bound) :
    number lookup' name bound default = number lookup name bound default := by
  rcases respelled.numbers name member with same | ⟨n, text, text', found, found', spells, spells'⟩
  · simp only [number, same]
  · rw [number_of_spells positive found spells, number_of_spells positive found' spells']

theorem Respelled.readProvider_eq (respelled : Respelled lookup lookup') :
    readProvider lookup' = readProvider lookup := by
  have same := respelled.texts
  simp only [readProvider, readRelay, required]
  rw [same "EMAIL_PROVIDER" (by decide), same "SMTP_PORT" (by decide),
    same "SMTP_HOST" (by decide), same "SMTP_USERNAME" (by decide),
    same "SMTP_PASSWORD" (by decide), same "SMTP_FROM_ADDRESS" (by decide)]

/-- Whether emails are to go to the console. -/
def ToConsole (lookup : Lookup) : Prop :=
  ∀ text, lookup "EMAIL_PROVIDER" = some text → trim text.toList = "console".toList

/-- Whether a name is that of a setting of the relay. -/
def OfRelay (name : String) : Prop := "SMTP_".toList <+: name.toList

instance (name : String) : Decidable (OfRelay name) :=
  inferInstanceAs (Decidable (_ <+: _))

theorem ToConsole.readProvider_eq (console : ToConsole lookup) :
    readProvider lookup = .ok .console := by
  have trimmed : String.ofList (trim ((lookup "EMAIL_PROVIDER").getD "console").toList) =
      "console" := by
    cases found : lookup "EMAIL_PROVIDER" with
    | none => decide
    | some text =>
        rw [Option.getD_some, console text found]
        decide
  simp only [readProvider, trimmed, if_true]

/-- What is read could be in use, or else a fault of validation is found; and whatever could be in
use is accepted by those who use it, and is read from the texts that spell it. How the numbers are
spelled makes no difference, and neither does the relay if emails are to go to the console. -/
theorem settings_are_sound_and_complete (migrateOnly : Bool) (lookup : Lookup) :
    ((∃ settings, read migrateOnly lookup = .ok settings ∧
        settings.migrateOnly = migrateOnly ∧ settings.Sound) ∨
      ∃ flaw detail, read migrateOnly lookup = .error flaw ∧ flaw.fault = .validation detail) ∧
    (∀ settings : Settings, settings.Sound →
      (∃ retention, Audit.Retention.make settings.retentionDays = .ok retention) ∧
        settings.policy.check = .ok settings.policy ∧
        read settings.migrateOnly settings.spelled = .ok settings) ∧
    (∀ lookup', Respelled lookup lookup' →
      read migrateOnly lookup' = read migrateOnly lookup) ∧
    (ToConsole lookup → ∀ lookup', (∀ name, ¬ OfRelay name → lookup' name = lookup name) →
      read migrateOnly lookup' = read migrateOnly lookup) := by
  refine ⟨?_, fun settings sound => ?_, fun lookup' respelled => ?_, fun console lookup' same => ?_⟩
  · cases done : read migrateOnly lookup with
    | error flaw => exact .inr ⟨flaw, flaw.message, rfl, rfl⟩
    | ok settings => exact .inl ⟨settings, rfl, sound_of_read done⟩
  · exact ⟨sound.accepted.1, sound.accepted.2, read_spelled sound⟩
  · exact read_congr migrateOnly (respelled.texts _ (by decide))
      (fun name member bound default positive => respelled.number_eq member positive)
      respelled.readProvider_eq
  · have console' : ToConsole lookup' := by
      intro text found
      exact console text (by rw [← same "EMAIL_PROVIDER" (by decide), found])
    refine read_congr migrateOnly (same _ (by decide)) (fun name member bound default _ => ?_) ?_
    · have other : ∀ name ∈ numberNames, ¬ OfRelay name := by decide
      simp only [number, same name (other name member)]
    · rw [console.readProvider_eq, console'.readProvider_eq]

/-- Settings whose numbers are as large as they can be. -/
def largest : Settings :=
  ⟨true, "postgres://club", 4294967295, 36500, ⟨18446744073709551615, 4294967295, 4294967295⟩,
    .relay ⟨"mail.reef.org", 65535, "", "", "office@reef.org"⟩⟩

/-- The largest retention is spelled with a sign, zeros and white space. -/
def largestRespelled : Lookup := fun name =>
  if name = "AUDIT_RETENTION_DAYS" then some " +0036500\t" else largest.spelled name

theorem largest_is_read :
    read true largest.spelled = .ok largest ∧ read true largestRespelled = .ok largest := by
  have sound : largest.Sound := by
    refine ⟨?_, ⟨?_, ?_⟩, ⟨?_, ?_⟩, ⟨?_, ?_⟩, ⟨?_, ?_⟩, ⟨?_, ?_⟩, ?_, ?_, ?_⟩ <;> decide
  have respelled : Respelled largest.spelled largestRespelled := by
    constructor
    · intro name text
      have other : name ≠ "AUDIT_RETENTION_DAYS" := by
        rintro rfl
        exact text (by decide)
      exact if_neg other
    · intro name number
      by_cases days : name = "AUDIT_RETENTION_DAYS"
      · subst days
        refine .inr ⟨36500, "36500", " +0036500\t", by decide, rfl, ?_, ?_⟩
        · exact spells_decimal 36500
        · exact @Spells.intro 36500 [' '] ['\t'] true 2 (by decide) (by decide)
      · exact .inl (if_neg days)
  have law := settings_are_sound_and_complete true largest.spelled
  have readLargest : read true largest.spelled = .ok largest := (law.2.1 largest sound).2.2
  exact ⟨readLargest, (law.2.2.1 largestRespelled respelled).trans readLargest⟩

end ClubOffice.Settings
