import ClubOffice.Email.Json
import ClubOffice.Proofs.Email.CanonicalAddress
import ClubOffice.Proofs.Event.Rereading
import ClubOffice.Proofs.Event.Restoring

/-!
# Where values come from

Labels, sources, addresses and events are checked when they are made, and what happens to an event
later does not undo that. But they are also read out of JSON, and nothing is checked then. So a
value is sound in whatever way it came about, unless it began with one that was read and was not
sound; and every value can be read, but for events with a time that has no written form of its own.
-/

namespace ClubOffice

/-- A type of values that are checked when they are made of what is given, that can be changed later
by some steps, and that are also written and read. What is read of a value that was written is what
its written form shows. -/
structure Checked where
  Given : Type
  Value : Type
  Flaw : Type
  Step : Type
  Sound : Value → Prop
  make : Given → Except Flaw Value
  own : Value → Given
  change : Value → Step → Value
  toJson : Value → Json.Value
  ofJson? : Json.Value → Option Value
  shown : Value → Value
  sound_of_make : ∀ {given value}, make given = .ok value → Sound value
  make_own : ∀ {value}, Sound value → make (own value) = .ok value
  sound_change_iff : ∀ value step, Sound (change value step) ↔ Sound value
  spelt_toJson : ∀ value, (toJson value).Spelt
  ofJson?_toJson : ∀ value, ofJson? (toJson value) = some (shown value)
  shown_of_ofJson? : ∀ {json value}, ofJson? json = some value → shown value = value

namespace Checked

/-- How a value comes about. -/
inductive History (checked : Checked)
  | made (given : checked.Given)
  | read (text : String)
  | changed (earlier : History checked) (step : checked.Step)

variable {checked : Checked}

def ofText? (checked : Checked) (text : String) : Option checked.Value :=
  (Json.Value.read text).bind checked.ofJson?

theorem ofText?_write (value : checked.Value) :
    checked.ofText? (checked.toJson value).write = some (checked.shown value) := by
  rw [ofText?, (checked.spelt_toJson value).read_write, Option.bind_some, checked.ofJson?_toJson]

/-- The values that are read out of some text are those that their own written form shows. -/
theorem exists_ofText?_iff {value : checked.Value} :
    (∃ text, checked.ofText? text = some value) ↔ checked.shown value = value := by
  constructor
  · rintro ⟨text, read⟩
    obtain ⟨json, -, found⟩ := Option.bind_eq_some_iff.1 read
    exact checked.shown_of_ofJson? found
  · intro same
    refine ⟨(checked.toJson value).write, ?_⟩
    rw [ofText?_write, same]

/-- A value is sound just if it can be made again of what it says itself. -/
theorem make_own_iff (value : checked.Value) :
    checked.make (checked.own value) = .ok value ↔ checked.Sound value :=
  ⟨checked.sound_of_make, checked.make_own⟩

namespace History

def value? : History checked → Option checked.Value
  | .made given => (checked.make given).toOption
  | .read text => checked.ofText? text
  | .changed earlier step => earlier.value?.map (checked.change · step)

/-- The value that was read in the beginning, if one was. -/
def read? : History checked → Option checked.Value
  | .made _ => none
  | .read text => checked.ofText? text
  | .changed earlier _ => earlier.read?

/-- A value is sound unless it was read in the beginning and was not sound then. -/
theorem sound_iff {history : History checked} {value : checked.Value}
    (came : history.value? = some value) :
    checked.Sound value ↔ ∀ first, history.read? = some first → checked.Sound first := by
  -- The induction goes back to the beginning: a change neither spoils a value nor mends it.
  induction history generalizing value with
  | made given =>
      cases made : checked.make given with
      | error flaw =>
          rw [value?, made] at came
          cases came
      | ok found =>
          rw [value?, made] at came
          cases came
          exact ⟨fun _ _ read => (nomatch read), fun _ => checked.sound_of_make made⟩
  | read text =>
      constructor
      · intro sound first read
        cases came.symm.trans read
        exact sound
      · exact fun each => each value came
  | changed earlier step ih =>
      obtain ⟨before, earlierCame, rfl⟩ := Option.map_eq_some_iff.1 came
      rw [checked.sound_change_iff, ih earlierCame]
      rfl

end History

end Checked

def Label.checked : Checked where
  Given := String
  Value := Label
  Flaw := Fault
  Step := Empty
  Sound := Sound
  make := make
  own := text
  change _ step := step.elim
  toJson := toJson
  ofJson? := ofJson?
  shown value := value
  sound_of_make made := by
    obtain ⟨said, rfl⟩ := (make_eq_ok_iff _ _).1 made
    exact said
  make_own sound := (make_eq_ok_iff _ _).2 ⟨sound, rfl⟩
  sound_change_iff _ step := step.elim
  spelt_toJson _ := .string _
  ofJson?_toJson := ofJson?_toJson
  shown_of_ofJson? _ := rfl

namespace Audit.Source

theorem make_eq_ok_iff {name : String} {source : Source} :
    make name = .ok source ↔ Label.make name = .ok source.label := by
  unfold make
  cases Label.make name with
  | error fault => exact ⟨fun same => (nomatch same), fun same => (nomatch same)⟩
  | ok label =>
      cases source
      exact ⟨fun same => by cases same; rfl, fun same => by cases same; rfl⟩

def checked : Checked where
  Given := String
  Value := Source
  Flaw := Fault
  Step := Empty
  Sound source := source.label.Sound
  make := make
  own := name
  change _ step := step.elim
  toJson := toJson
  ofJson? := ofJson?
  shown value := value
  sound_of_make made := Label.checked.sound_of_make (make_eq_ok_iff.1 made)
  make_own sound := make_eq_ok_iff.2 (Label.checked.make_own sound)
  sound_change_iff _ step := step.elim
  spelt_toJson _ := .string _
  ofJson?_toJson _ := rfl
  shown_of_ofJson? _ := rfl

end Audit.Source

namespace Email.Address

theorem sound_of_make {text : String} {address : Address} (made : make text = .ok address) :
    address.Sound := by
  obtain ⟨wellFormed, same⟩ := (make_eq_ok_iff _ _).1 made
  have normal : normal address.text.toList = normal text.toList := by
    rw [same, String.toList_ofList, normal_normal]
  exact (make_congr normal).trans made

def checked : Checked where
  Given := String
  Value := Address
  Flaw := Flaw
  Step := Empty
  Sound := Sound
  make := make
  own := text
  change _ step := step.elim
  toJson := toJson
  ofJson? := ofJson?
  shown value := value
  sound_of_make := sound_of_make
  make_own sound := sound
  sound_change_iff _ step := step.elim
  spelt_toJson _ := .string _
  ofJson?_toJson _ := rfl
  shown_of_ofJson? _ := rfl

end Email.Address

namespace Event

/-- The event after it was asked to take another status, which it may refuse. -/
def changed (event : Event) (next : Status) : Event :=
  match event.moveTo next with
  | .ok moved => moved
  | .error _ => event

theorem sound_changed_iff (event : Event) (next : Status) :
    (event.changed next).Sound ↔ event.Sound := by
  unfold changed moveTo
  split <;> rename_i moved
  · split at moved
    · cases moved
      rfl
    · cases moved
  · rfl

def checked : Checked where
  Given := EventKey × Draft × Status
  Value := Event
  Flaw := Fault
  Step := Status
  Sound := Sound
  make | (key, draft, status) => restore key draft status
  own event := (event.key, event.draft, event.status)
  change := changed
  toJson := toJson
  ofJson? := ofJson?
  shown := shown
  sound_of_make made := (restore_eq_ok_iff.1 made).1
  make_own sound := restore_eq_ok_iff.2 ⟨sound, rfl, rfl, rfl⟩
  sound_change_iff := sound_changed_iff
  spelt_toJson event := spelt_toJson event
  ofJson?_toJson event := ofJson?_toJson event
  shown_of_ofJson? found := shown_eq_self_iff.2 (regular_of_ofJson? found)

end Event

namespace Checked

/-- The types of values that are checked. -/
inductive Kind
  | label
  | source
  | address
  | event

def Kind.checked : Kind → Checked
  | .label => Label.checked
  | .source => Audit.Source.checked
  | .address => Email.Address.checked
  | .event => Event.checked

variable {kind : Kind}

/-- However a value came about, it is sound, and can then be made of what it says itself, just if it
did not begin with one that was read and was not sound. And what is read of the text that is written
of a value is what that shows, which is the value itself just if it is read out of some text. -/
theorem sound_iff_not_read_unsound (history : History kind.checked) {value : kind.checked.Value}
    (came : history.value? = some value) :
    (kind.checked.Sound value ↔
      ∀ first, history.read? = some first → kind.checked.Sound first) ∧
    (kind.checked.make (kind.checked.own value) = .ok value ↔ kind.checked.Sound value) ∧
    ∀ other : kind.checked.Value,
      (History.read (kind.checked.toJson other).write).value? = some (kind.checked.shown other) ∧
      ((∃ text, (History.read text : History kind.checked).value? = some other) ↔
        kind.checked.shown other = other) :=
  ⟨history.sound_iff came, make_own_iff value,
    fun other => ⟨ofText?_write other, exists_ofText?_iff⟩⟩

def nightDive : Event := ⟨⟨.ofNat 3⟩, ⟨"Night dive"⟩, .epoch, .epoch, .opened⟩

/-- A night dive that was planned and cancelled, and was not held when it was asked to be. -/
def nightDiveHistory : History Kind.event.checked :=
  .changed (.changed (.made (nightDive.key, nightDive.draft, .opened)) .cancelled) .held

theorem nightDive_is_sound_in_the_end :
    nightDiveHistory.value? = some { nightDive with status := .cancelled } ∧
      Event.Sound { nightDive with status := .cancelled } := by
  have came : nightDiveHistory.value? = some { nightDive with status := .cancelled } := by
    rfl
  obtain ⟨sound, _⟩ := sound_iff_not_read_unsound nightDiveHistory came
  exact ⟨came, sound.2 fun first read => nomatch read⟩

/-- Whether a value is read out of the text that could not have been made. -/
def Smuggles (kind : Kind) (text : String) : Prop :=
  ∃ value, (History.read text : History kind.checked).value? = some value ∧
    kind.checked.make (kind.checked.own value) ≠ .ok value

/-- What is written of a value that is not sound is read nevertheless, if it shows that value. -/
theorem smuggles_of_written {text : String} {value : kind.checked.Value}
    (written : (kind.checked.toJson value).write = text)
    (itself : kind.checked.shown value = value) (unsound : ¬ kind.checked.Sound value) :
    Smuggles kind text := by
  subst written
  have read := ofText?_write value
  rw [itself] at read
  exact ⟨value, read, fun made => unsound ((make_own_iff value).1 made)⟩

/-- An event without a title that ends before it starts. -/
def mirage : Event :=
  ⟨⟨.ofNat 3⟩, ⟨""⟩, ⟨1, 500000000, by decide, by decide, by decide, by decide⟩, .epoch, .held⟩

def mirageText : String :=
  "\x7b\"event_id\":\"00000000-0000-0000-0000-000000000003\",\"title\":\"\"" ++
    ",\"starts_at\":\"1970-01-01T00:00:01.500Z\",\"ends_at\":\"1970-01-01T00:00:00Z\"" ++
    ",\"status\":\"held\"\x7d"

/-- A blank label, a blank source, an address without an at-sign and the mirage are all read. -/
theorem unsound_values_are_read :
    Smuggles .label "\" \"" ∧ Smuggles .source "\" \"" ∧ Smuggles .address "\"diver\"" ∧
      Smuggles .event mirageText := by
  have label : (Label.toJson ⟨" "⟩).write = "\" \"" := by rfl
  have blank : ¬ Label.Sound ⟨" "⟩ := by decide
  have address : (Email.Address.toJson ⟨"diver"⟩).write = "\"diver\"" := by rfl
  have unmarked : ¬ Email.Address.Sound ⟨"diver"⟩ := by
    have refused : Email.Address.make "diver" = .error .notOneAt := by rfl
    intro made
    cases refused.symm.trans made
  have event : mirage.toJson.write = mirageText := by decide +kernel
  have itself : mirage.shown = mirage := Event.shown_eq_self_iff.2 (by decide)
  have untimely : ¬ mirage.Sound := by decide
  -- A source is written as its label is.
  exact ⟨smuggles_of_written label rfl blank, smuggles_of_written label rfl blank,
    smuggles_of_written address rfl unmarked, smuggles_of_written event itself untimely⟩

end Checked

end ClubOffice
