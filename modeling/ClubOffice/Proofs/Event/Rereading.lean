import ClubOffice.Event.Json
import ClubOffice.Proofs.Json.Rereading
import ClubOffice.Proofs.Time.Rereading
import ClubOffice.Proofs.Uuid.Rereading
import Mathlib.Data.List.Forall2

/-!
# Events are read as they are written

What is written of an event is read as that event, unless one of its times is in a leap second
within a minute: these are read as the seconds that they look like. The order of the fields in an
object does not matter, and neither do fields of other names, for each of the five is looked up by
its name.
-/

namespace ClubOffice

open Json Time

namespace Json

variable {name : String} {value : Value} {names : List String} {values : List Value}
  {members others : List (Text × Value)}

theorem filter_zip (distinct : names.Nodup) (pair : (name, value) ∈ names.zip values) :
    ((names.map some).zip values).filter (fun field => field.1 = some name) =
      [(some name, value)] := by
  induction names generalizing values with
  | nil => cases pair
  | cons first names ih =>
      cases values with
      | nil => cases pair
      | cons here values =>
          obtain ⟨new, distinct⟩ := List.nodup_cons.1 distinct
          rw [List.map_cons, List.zip_cons_cons]
          rcases List.mem_cons.1 pair with same | later
          · cases same
            have rest : ((names.map some).zip values).filter (fun field => field.1 = some name) =
                [] := by
              refine List.filter_eq_nil_iff.2 fun field listed named => new ?_
              have among := (List.of_mem_zip (a := field.1) (b := field.2) listed).1
              rw [of_decide_eq_true named] at among
              simpa using among
            rw [List.filter_cons_of_pos (by simp), rest]
          · have differs : first ≠ name := by
              rintro rfl
              exact new (List.of_mem_zip later).1
            rw [List.filter_cons_of_neg (by simpa using differs), ih distinct later]

/-- A field is found by its name in any order, among fields of other names. -/
theorem only?_of_perm (distinct : names.Nodup)
    (foreign : ∀ other ∈ others, ∀ name ∈ names, other.1 ≠ some name)
    (order : members.Perm ((names.map some).zip values ++ others))
    (pair : (name, value) ∈ names.zip values) : only? name members = some value := by
  have none : others.filter (fun field => field.1 = some name) = [] :=
    List.filter_eq_nil_iff.2 fun other listed named =>
      foreign other listed name (List.of_mem_zip pair).1 (of_decide_eq_true named)
  have found := order.filter fun field => decide (field.1 = some name)
  rw [List.filter_append, filter_zip distinct pair, none, List.append_nil,
    List.perm_singleton] at found
  rw [only?, found]

theorem mapM_eq_some {find : String → Option Value}
    (each : List.Forall₂ (fun name value => find name = some value) names values) :
    names.mapM find = some values := by
  induction each with
  | nil => rfl
  | cons first _ ih => rw [List.mapM_cons, first, ih]; rfl

end Json

theorem Key.ofJson?_toJson {subject : Subject} (key : Key subject) :
    Key.ofJson? key.toJson = some key := by
  have read := Key.read_text key
  simp only [Key.ofJson?, Key.toJson, Value.ofString, Value.text?, Option.bind_some, read]
  rfl

theorem Label.ofJson?_toJson (label : Label) : Label.ofJson? label.toJson = some label := rfl

namespace Time.Instant

theorem ofJson?_toJson (instant : Instant) : ofJson? instant.toJson = some instant.shown := by
  rw [ofJson?, toJson, Value.ofString, Value.text?, Option.bind_some, read_zulu]

theorem regular_of_ofJson? {value : Value} {instant : Instant}
    (found : ofJson? value = some instant) : instant.Regular := by
  obtain ⟨_, -, found⟩ := Option.bind_eq_some_iff.1 found
  exact regular_of_read found

end Time.Instant

namespace Event

/-- Whether neither time is in a leap second within a minute. -/
def Regular (event : Event) : Prop := event.startsAt.Regular ∧ event.endsAt.Regular

instance (event : Event) : Decidable event.Regular := inferInstanceAs (Decidable (_ ∧ _))

/-- The event with both times as their written forms show them. -/
def shown (event : Event) : Event :=
  { event with startsAt := event.startsAt.shown, endsAt := event.endsAt.shown }

theorem shown_eq_self_iff {event : Event} : event.shown = event ↔ event.Regular := by
  rw [Regular, ← Instant.shown_eq_self_iff, ← Instant.shown_eq_self_iff]
  constructor
  · exact fun same => ⟨congrArg startsAt same, congrArg endsAt same⟩
  · rintro ⟨starts, ends⟩
    rw [shown, starts, ends]

theorem Status.ofJson?_toJson (status : Status) : Status.ofJson? status.toJson = some status :=
  Status.ofWord?_word status

theorem ofFieldValues?_fieldValues (event : Event) :
    ofFieldValues? event.fieldValues = some event.shown := by
  simp only [ofFieldValues?, fieldValues, Key.ofJson?_toJson, Label.ofJson?_toJson,
    Time.Instant.ofJson?_toJson, Status.ofJson?_toJson, Option.bind_eq_bind, Option.bind_some]
  rfl

theorem regular_of_ofFieldValues? {values : List Value} {event : Event}
    (found : ofFieldValues? values = some event) : event.Regular := by
  unfold ofFieldValues? at found
  split at found
  · simp only [Option.bind_eq_bind, Option.bind_eq_some_iff] at found
    obtain ⟨key, -, title, -, startsAt, starts, endsAt, ends, status, -, same⟩ := found
    cases same
    exact ⟨Instant.regular_of_ofJson? starts, Instant.regular_of_ofJson? ends⟩
  · cases found

theorem regular_of_ofJson? {value : Value} {event : Event} (found : ofJson? value = some event) :
    event.Regular := by
  unfold ofJson? at found
  split at found
  · exact regular_of_ofFieldValues? found
  · split at found
    · obtain ⟨values, -, found⟩ := Option.bind_eq_some_iff.1 found
      exact regular_of_ofFieldValues? found
    · cases found
  · cases found

/-- The members of the object that is written of an event. -/
def fields (event : Event) : List (Text × Value) := (fieldNames.map some).zip event.fieldValues

/-- Whether the members have names that an event knows nothing of. -/
def Foreign (others : List (Text × Value)) : Prop :=
  ∀ other ∈ others, ∃ name, other.1 = some name ∧ name ∉ fieldNames

theorem ofJson?_of_perm {event : Event} {members others : List (Text × Value)}
    (foreign : Foreign others) (order : members.Perm (event.fields ++ others)) :
    ofJson? (.object members) = some event.shown := by
  have named : members.all (·.1.isSome) = true := by
    have known : event.fields.all (·.1.isSome) = true := rfl
    rw [order.all_eq, List.all_append, known, Bool.true_and, List.all_eq_true]
    intro other listed
    obtain ⟨name, same, -⟩ := foreign other listed
    rw [same]
    rfl
  have apart : ∀ other ∈ others, ∀ name ∈ fieldNames, other.1 ≠ some name := by
    rintro other listed name known same
    obtain ⟨name, same', unknown⟩ := foreign other listed
    cases same.symm.trans same'
    exact unknown known
  have found : fieldNames.mapM (only? · members) = some event.fieldValues :=
    mapM_eq_some (List.forall₂_iff_zip.2
      ⟨rfl, only?_of_perm (by decide) apart order⟩)
  rw [ofJson?, if_pos named, found, Option.bind_some, ofFieldValues?_fieldValues]

theorem spelt_fieldValues (event : Event) : ∀ value ∈ event.fieldValues, value.Spelt := by
  simp only [fieldValues, List.mem_cons, List.not_mem_nil, or_false]
  rintro value (rfl | rfl | rfl | rfl | rfl) <;> exact .string _

theorem spelt_members {event : Event} {members others : List (Text × Value)}
    (order : members.Perm (event.fields ++ others)) (spelt : ∀ other ∈ others, other.2.Spelt) :
    (Value.object members).Spelt := by
  refine .object fun member listed => ?_
  rcases List.mem_append.1 (order.mem_iff.1 listed) with field | other
  · exact spelt_fieldValues event _ (List.of_mem_zip (a := member.1) (b := member.2) field).2
  · exact spelt member other

theorem perm_fields (event : Event) : event.fields.Perm (event.fields ++ []) := by
  rw [List.append_nil]

theorem spelt_toJson (event : Event) : event.toJson.Spelt :=
  spelt_members event.perm_fields (List.forall_mem_nil _)

theorem ofJson?_toJson (event : Event) : ofJson? event.toJson = some event.shown :=
  ofJson?_of_perm (List.forall_mem_nil _) event.perm_fields

/-- Reads an event out of a JSON text. -/
def ofText? (text : String) : Option Event := (Value.read text).bind ofJson?

theorem ofText?_of_read {text : String} {value : Value} {event : Event}
    (read : Value.read text = some value) (known : ofJson? value = some event) :
    ofText? text = some event := by
  rw [ofText?, read, Option.bind_some, known]

theorem ofText?_write (event : Event) : ofText? event.toJson.write = some event.shown :=
  ofText?_of_read event.spelt_toJson.read_write event.ofJson?_toJson

theorem regular_of_ofText? {text : String} {event : Event} (found : ofText? text = some event) :
    event.Regular := by
  obtain ⟨value, -, found⟩ := Option.bind_eq_some_iff.1 found
  exact regular_of_ofJson? found

/-- Every event, sound or not, is read as what its written form shows. It is also read so of a text
that has its fields in another order and among others, and of a text that lists their values. That
is the event itself just if it is regular. What has been read of any text is regular, and is written
and read as the same event again. -/
theorem read_as_written :
    (∀ event : Event, ofText? event.toJson.write = some event.shown) ∧
    (∀ (event : Event) (members others : List (Text × Value)), Foreign others →
      members.Perm (event.fields ++ others) →
      (∀ text, Value.read text = some (.object members) → ofText? text = some event.shown) ∧
      ((∀ other ∈ others, other.2.Spelt) →
        ofText? (Value.object members).write = some event.shown)) ∧
    (∀ event : Event, ofText? (Value.array event.fieldValues).write = some event.shown ∧
      ∀ text, Value.read text = some (.array event.fieldValues) →
        ofText? text = some event.shown) ∧
    (∀ event : Event, event.shown = event ↔ event.Regular) ∧
    (∀ text event, ofText? text = some event →
      event.Regular ∧ ofText? event.toJson.write = some event) := by
  refine ⟨ofText?_write, fun event members others foreign order => ?_, fun event => ?_,
    fun event => shown_eq_self_iff, fun text event found => ?_⟩
  · have known := ofJson?_of_perm foreign order
    exact ⟨fun text read => ofText?_of_read read known,
      fun spelt => ofText?_of_read (spelt_members order spelt).read_write known⟩
  · have known : ofJson? (.array event.fieldValues) = some event.shown :=
      ofFieldValues?_fieldValues event
    exact ⟨ofText?_of_read (Value.Spelt.array (spelt_fieldValues event)).read_write known,
      fun text read => ofText?_of_read read known⟩
  · have regular := regular_of_ofText? found
    refine ⟨regular, ?_⟩
    rw [ofText?_write, shown_eq_self_iff.2 regular]

/-- An event that lasts from the first moment there is into a leap second. -/
def voyage : Event :=
  ⟨⟨Uuid.ofNat 7⟩, ⟨"Voyage \"∞\""⟩,
    ⟨Time.firstSecond, 120000000, by decide, by decide, by decide, by decide⟩,
    ⟨1435708799, 1250000000, by decide, by decide, by decide, by decide⟩, .cancelled⟩

def berths : Text × Value := (some "berths", .array [.number "-1.5e3", .null])

def voyageText : String :=
  "\x7b \"berths\": [-1.5e3, null], \"status\": \"cancelled\",
    \"ends_at\": \"2015-06-30T23:59:60.250Z\",
    \"starts_at\": \"-262143-01-01T00:00:00.120Z\", \"title\": \"Voyage \\\"\\u221e\\\"\",
    \"event_id\": \"00000000-0000-0000-0000-000000000007\" \x7d"

theorem voyage_is_read_as_written :
    ofText? voyageText = some voyage ∧
    ofText? (Value.object (voyage.fields ++ [berths]).reverse).write = some voyage ∧
    ofText? (Value.array voyage.fieldValues).write = some voyage ∧
    ofText? voyage.toJson.write = some voyage := by
  have foreign : Foreign [berths] :=
    List.forall_mem_singleton.2 ⟨"berths", rfl, by decide⟩
  have spelt : ∀ other ∈ [berths], other.2.Spelt :=
    List.forall_mem_singleton.2 (.array fun item listed => by
      rcases List.mem_pair.1 listed with rfl | rfl
      · exact .number rfl
      · exact .null)
  obtain ⟨-, objects, arrays, same, others⟩ := read_as_written
  have itself : voyage.shown = voyage := (same voyage).2 (by decide)
  have order := (voyage.fields ++ [berths]).reverse_perm
  have reversed := (spelt_members order spelt).read_write
  have members := (objects voyage _ [berths] foreign order).1 _ reversed
  have listed := (arrays voyage).2 _ (Value.Spelt.array (spelt_fieldValues voyage)).read_write
  have read : ofText? voyageText = some voyage := by decide +kernel
  rw [itself] at members listed
  exact ⟨read, members, listed, (others voyageText voyage read).2⟩

/-- A sound event that starts in a leap second within a minute. -/
def sprint : Event :=
  ⟨⟨Uuid.ofNat 8⟩, ⟨"Sprint"⟩, ⟨30, 1600000000, by decide, by decide, by decide, by decide⟩,
    ⟨31, 400000000, by decide, by decide, by decide, by decide⟩, .opened⟩

/-- The sprint starts with what looks like the next second, after its end. -/
theorem sprint_is_read_differently :
    restore sprint.key sprint.draft sprint.status = .ok sprint ∧
      sprint.startsAt.zulu = "1970-01-01T00:00:31.600Z" ∧
      ofText? sprint.toJson.write = some sprint.shown ∧ sprint.shown ≠ sprint ∧
      ¬ sprint.shown.Sound := by
  exact ⟨rfl, rfl, ofText?_write sprint, by decide, by decide⟩

end Event

end ClubOffice
