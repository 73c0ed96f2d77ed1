import ClubOffice.Fault
import ClubOffice.Text.WhiteSpace

/-!
# Labels

A label is a text that says something: a title, the name of a subsystem, a line of the audit
trail. It is checked when it is made and kept as it was given, white space included.
-/

namespace ClubOffice

/-- A text that is meant to hold more than white space. -/
structure Label where
  text : String
deriving DecidableEq, Repr

namespace Label

def Sound (label : Label) : Prop := Text.isBlank label.text.toList = false

instance (label : Label) : Decidable label.Sound :=
  inferInstanceAs (Decidable (_ = false))

def blank : Fault := .validation "value must not be empty or whitespace"

def make (text : String) : Except Fault Label :=
  if Text.isBlank text.toList then .error blank else .ok ⟨text⟩

theorem make_eq_ok_iff (text : String) (label : Label) :
    make text = .ok label ↔ Text.isBlank text.toList = false ∧ label = ⟨text⟩ := by
  unfold make
  constructor
  · intro same
    split at same
    · cases same
    · rename_i said
      exact ⟨Bool.eq_false_iff.2 said, (Except.ok.inj same).symm⟩
  · rintro ⟨said, rfl⟩
    rw [if_neg (Bool.eq_false_iff.1 said)]

end Label

end ClubOffice
