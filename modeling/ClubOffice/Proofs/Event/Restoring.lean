import ClubOffice.Event.Basic

/-!
# What is checked when an event is made

An event can be made of a draft just if the draft says what a sound event would, and it is then that
event. Otherwise the times are found wrong, or, if they are right, the title.
-/

namespace ClubOffice

theorem Label.make_eq_error_iff {text : String} {fault : Fault} :
    make text = .error fault ↔ Text.isBlank text.toList = true ∧ fault = blank := by
  unfold make
  split
  · rename_i said
    exact ⟨fun same => ⟨said, (Except.error.inj same).symm⟩, fun ⟨_, same⟩ => same ▸ rfl⟩
  · rename_i said
    exact ⟨fun same => (nomatch same), fun ⟨empty, _⟩ => absurd empty said⟩

namespace Event

variable {key : EventKey} {draft : Draft} {status : Status}

theorem restore_of_early (early : draft.endsAt < draft.startsAt) :
    restore key draft status = .error (endsTooEarly draft) := by
  rw [restore, if_pos early]

theorem restore_of_late (late : draft.startsAt ≤ draft.endsAt) :
    restore key draft status =
      (fun title => ⟨key, title, draft.startsAt, draft.endsAt, status⟩) <$>
        Label.make draft.title := by
  have timely : ¬ draft.endsAt < draft.startsAt := Int.not_lt.2 late
  rw [restore, if_neg timely]

theorem restore_eq_ok_iff {event : Event} :
    restore key draft status = .ok event ↔
      event.Sound ∧ event.key = key ∧ event.draft = draft ∧ event.status = status := by
  constructor
  · intro restored
    rcases Int.lt_or_le draft.endsAt.order draft.startsAt.order with early | late
    · rw [restore_of_early early] at restored
      cases restored
    · rw [restore_of_late late] at restored
      cases made : Label.make draft.title with
      | error fault =>
          rw [made] at restored
          cases restored
      | ok title =>
          rw [made] at restored
          cases restored
          obtain ⟨said, rfl⟩ := (Label.make_eq_ok_iff _ _).1 made
          exact ⟨⟨said, late⟩, rfl, rfl, rfl⟩
  · rintro ⟨⟨said, late⟩, rfl, rfl, rfl⟩
    have title : Label.make event.draft.title = .ok event.title :=
      (Label.make_eq_ok_iff _ _).2 ⟨said, rfl⟩
    rw [restore_of_late late, title]
    rfl

theorem restore_eq_error_iff {fault : Fault} :
    restore key draft status = .error fault ↔
      draft.endsAt < draft.startsAt ∧ fault = endsTooEarly draft ∨
        draft.startsAt ≤ draft.endsAt ∧ Text.isBlank draft.title.toList = true ∧
          fault = Label.blank := by
  rcases Int.lt_or_le draft.endsAt.order draft.startsAt.order with early | late
  · rw [restore_of_early early]
    constructor
    · exact fun same => .inl ⟨early, (Except.error.inj same).symm⟩
    · rintro (⟨_, same⟩ | ⟨late, _⟩)
      · exact congrArg _ same.symm
      · exact absurd early (Int.not_lt.2 late)
  · have timely : ¬ draft.endsAt < draft.startsAt := Int.not_lt.2 late
    have title : restore key draft status = .error fault ↔
        Label.make draft.title = .error fault := by
      rw [restore_of_late late]
      cases Label.make draft.title <;> simp [Functor.map, Except.map]
    rw [title, Label.make_eq_error_iff]
    exact ⟨fun wrong => .inr ⟨late, wrong⟩,
      fun wrong => (wrong.resolve_left fun early => timely early.1).2⟩

end Event

end ClubOffice
