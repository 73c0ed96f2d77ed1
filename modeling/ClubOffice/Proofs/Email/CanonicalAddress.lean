import ClubOffice.Email.Flush
import ClubOffice.Plan.Transcript
import ClubOffice.Proofs.Text.Lowering

/-!
# The one form of an address

An address is accepted by what its text is once it is trimmed and in lowercase, and that text is the
address. It is the only form of it: it is accepted as it stands, and so is every text that differs
from it in white space around it or in the case of ASCII letters. Nothing is queued for a recipient
that is not accepted.
-/

namespace ClubOffice.Email

open Text

namespace Address

/-- One at-sign, something before it, a dot after it, and no more bytes than an address may have. -/
def WellFormed (text : List Char) : Prop :=
  ∃ localPart domain, text = localPart ++ '@' :: domain ∧ '@' ∉ localPart ∧ '@' ∉ domain ∧
    localPart ≠ [] ∧ '.' ∈ domain ∧ (String.ofList text).utf8ByteSize ≤ 254

variable {text localPart domain localPart' domain' : List Char}

theorem byteLength_eq_utf8ByteSize (text : List Char) :
    byteLength text = (String.ofList text).utf8ByteSize := by
  induction text with
  | nil => rfl
  | cons c rest ih =>
      rw [byteLength_cons, ih, ← List.singleton_append, String.ofList_append,
        String.utf8ByteSize_append, ← String.singleton_eq_ofList, String.utf8ByteSize_singleton]

/-- A text with an at-sign falls into two parts at the first of them. -/
theorem parts_of_append (before : '@' ∉ localPart) (domain : List Char) :
    (localPart ++ '@' :: domain).takeWhile (· ≠ '@') = localPart ∧
      (localPart ++ '@' :: domain).dropWhile (· ≠ '@') = '@' :: domain := by
  have plain : ∀ c ∈ localPart, decide (c ≠ '@') = true := fun c member =>
    decide_eq_true fun same => before (same ▸ member)
  rw [List.takeWhile_append_of_pos plain, List.dropWhile_append_of_pos plain]
  simp

theorem parts_inj (before : '@' ∉ localPart) (before' : '@' ∉ localPart')
    (same : localPart ++ '@' :: domain = localPart' ++ '@' :: domain') :
    localPart = localPart' ∧ domain = domain' := by
  obtain ⟨first, second⟩ := parts_of_append before domain
  obtain ⟨first', second'⟩ := parts_of_append before' domain'
  rw [same] at first second
  exact ⟨first.symm.trans first', List.tail_eq_of_cons_eq (second.symm.trans second')⟩

theorem flaw?_eq_none_of_parts (before : '@' ∉ localPart) :
    flaw? (localPart ++ '@' :: domain) = none ↔
      localPart ≠ [] ∧ '@' ∉ domain ∧ '.' ∈ domain ∧
        byteLength (localPart ++ '@' :: domain) ≤ maxBytes := by
  obtain ⟨first, second⟩ := parts_of_append before domain
  have marked : '@' ∈ localPart ++ '@' :: domain := List.mem_append_right _ List.mem_cons_self
  simp only [flaw?, first, second, List.drop_succ_cons, List.drop_zero]
  rw [if_neg (by simp), if_neg (not_not.2 marked)]
  by_cases nothing : localPart = []
  · simp [nothing]
  · rw [if_neg (by simp [nothing])]
    by_cases ill : '@' ∈ domain ∨ '.' ∉ domain
    · rw [if_pos ill]
      simp only [reduceCtorEq, false_iff]
      tauto
    · rw [if_neg ill]
      simp only [not_or, not_not] at ill
      simp [nothing, ill]

theorem flaw?_eq_none_iff (text : List Char) : flaw? text = none ↔ WellFormed text := by
  by_cases marked : '@' ∈ text
  · obtain ⟨localPart, domain, rfl, before⟩ := List.eq_append_cons_of_mem marked
    rw [flaw?_eq_none_of_parts before, byteLength_eq_utf8ByteSize]
    constructor
    · rintro ⟨some, single, dotted, short⟩
      exact ⟨localPart, domain, rfl, before, single, some, dotted, short⟩
    · rintro ⟨localPart', domain', same, before', single, some, dotted, short⟩
      obtain ⟨rfl, rfl⟩ := parts_inj before before' same
      exact ⟨some, single, dotted, short⟩
  · constructor
    · intro none
      unfold flaw? at none
      split at none <;> cases none
    · rintro ⟨localPart, domain, rfl, _⟩
      exact absurd (List.mem_append_right _ List.mem_cons_self) marked

theorem make_eq_ok_iff (text : String) (address : Address) :
    make text = .ok address ↔
      WellFormed (normal text.toList) ∧ address.text = String.ofList (normal text.toList) := by
  rw [← flaw?_eq_none_iff]
  simp only [make]
  cases flaw? (normal text.toList) with
  | none =>
      constructor
      · rintro ⟨⟩
        exact ⟨rfl, rfl⟩
      · rintro ⟨-, same⟩
        exact congrArg (fun text => Except.ok (Address.mk text)) same.symm
  | some flaw => simp

/-- What comes of a text depends on its normal form alone. -/
theorem make_congr {text other : String} (same : normal text.toList = normal other.toList) :
    make text = make other := by
  simp only [make, same]

theorem normal_normal (text : List Char) : normal (normal text) = normal text := by
  unfold normal
  rw [trim_lower (startsSolid_trim text) (startsSolid_reverse_trim text), lower_lower]

theorem normal_surround {before varied after text : List Char} (blankBefore : isBlank before = true)
    (blankAfter : isBlank after = true)
    (letters : varied.map Char.toLower = text.map Char.toLower) :
    normal (before ++ varied ++ after) = normal text := by
  unfold normal
  rw [trim_surround blankBefore blankAfter]
  exact lower_trim_congr letters

end Address

variable {recipient subject body : String}

theorem enqueue_of_ok {address : Address} (accepted : Address.make recipient = .ok address)
    (said : isBlank subject.toList = false) (body : String) :
    enqueue recipient subject body = .ask (.enqueue ⟨address, subject, body⟩) .done := by
  have label := (Label.make_eq_ok_iff subject ⟨subject⟩).2 ⟨said, rfl⟩
  simp only [enqueue, Letter.make, accepted, label]

theorem enqueue_of_not_ok
    (refused : ¬ ((∃ address, Address.make recipient = .ok address) ∧
      isBlank subject.toList = false)) (body : String) :
    ∃ fault, enqueue recipient subject body = .done (.error fault) := by
  unfold enqueue Letter.make
  cases made : Address.make recipient with
  | error flaw => exact ⟨_, rfl⟩
  | ok address =>
      cases titled : Label.make subject with
      | error fault => exact ⟨_, rfl⟩
      | ok label =>
          have said := ((Label.make_eq_ok_iff subject label).1 titled).1
          exact absurd ⟨⟨address, made⟩, said⟩ refused

/-- An address is accepted if its text, trimmed and in lowercase, is well formed, and is then that
text. The text is its own normal form, and so white space around a recipient and the case of ASCII
letters make no difference to what comes of it, a flaw included. A letter is queued, once and as it
is but for the recipient, if that is accepted and the subject says something. -/
theorem address_has_one_form (text : String) :
    (∀ address, Address.make text = .ok address ↔
        Address.WellFormed (lower (trim text.toList)) ∧
          address.text = String.ofList (lower (trim text.toList))) ∧
      Address.make (String.ofList (lower (trim text.toList))) = Address.make text ∧
      (∀ before varied after, isBlank before = true → isBlank after = true →
        varied.map Char.toLower = text.toList.map Char.toLower →
        Address.make (String.ofList (before ++ varied ++ after)) = Address.make text) ∧
      ∀ (subject body : String) (σ : Type) (serve : Server post σ) (state : σ),
        let asked := (enqueue text subject body).transcript serve state
        let letter : Letter := ⟨⟨String.ofList (lower (trim text.toList))⟩, subject, body⟩
        let accepted := (∃ address, Address.make text = .ok address) ∧
          isBlank subject.toList = false
        (accepted → asked = [⟨.enqueue letter, (serve (.enqueue letter) state).1⟩]) ∧
          (¬ accepted → asked = [] ∧
            ∃ fault, (enqueue text subject body).run serve state = (.error fault, state)) := by
  have shape := Address.make_eq_ok_iff text
  refine ⟨shape, ?again, ?alike, fun subject body σ serve state => ⟨?reached, ?unreached⟩⟩
  case again =>
    refine Address.make_congr ?_
    rw [String.toList_ofList]
    exact Address.normal_normal text.toList
  case alike =>
    intro before varied after blankBefore blankAfter letters
    refine Address.make_congr ?_
    rw [String.toList_ofList]
    exact Address.normal_surround blankBefore blankAfter letters
  case reached =>
    rintro ⟨⟨address, made⟩, said⟩
    obtain ⟨text⟩ := address
    have known : text = _ := ((shape _).1 made).2
    subst known
    rw [enqueue_of_ok made said]
    rfl
  case unreached =>
    intro refused
    obtain ⟨fault, ended⟩ := enqueue_of_not_ok refused body
    rw [ended]
    exact ⟨rfl, fault, rfl⟩

/-- A queue that takes no letter. -/
def closedPost : Server post Unit
  | .enqueue _, _ => (.error (.internal "closed"), ())
  | .claim _ _, _ => (.ok [], ())
  | .send _ _ _ _, _ => (.ok (), ())
  | .markSent _ _, _ => (.ok false, ())
  | .recordFailure _ _ _ _, _ => (.ok none, ())

/-- The sigma before the at-sign ends a word, and the capital I with a dot becomes two letters. -/
theorem odysseus_has_one_form :
    isBlank " \t".toList = true ∧ isBlank "\u2003".toList = true ∧
      "οΔΥΣΣΕΥΣ@İthaki.GR".toList.map Char.toLower =
        "οΔΥΣΣΕΥΣ@İTHAKI.gr".toList.map Char.toLower ∧
      Address.make (String.ofList (" \t".toList ++ "οΔΥΣΣΕΥΣ@İthaki.GR".toList ++ "\u2003".toList)) =
        .ok ⟨"οδυσσευς@i\u0307thaki.gr"⟩ ∧
      isBlank "Return".toList = false ∧
      (enqueue "οΔΥΣΣΕΥΣ@İTHAKI.gr" "Return" "").transcript closedPost () =
        [⟨.enqueue ⟨⟨"οδυσσευς@i\u0307thaki.gr"⟩, "Return", ""⟩, .error (.internal "closed")⟩] ∧
      (enqueue "οΔΥΣΣΕΥΣ@İTHAKI.gr" " " "").transcript closedPost () = [] := by
  obtain ⟨_, again, alike, queued⟩ := address_has_one_form "οΔΥΣΣΕΥΣ@İTHAKI.gr"
  have low : lower (trim "οΔΥΣΣΕΥΣ@İTHAKI.gr".toList) = "οδυσσευς@i\u0307thaki.gr".toList := by
    decide +kernel
  have made : Address.make "οΔΥΣΣΕΥΣ@İTHAKI.gr" = .ok ⟨"οδυσσευς@i\u0307thaki.gr"⟩ := by
    rw [← again, low]
    decide +kernel
  have blankBefore : isBlank " \t".toList = true := by decide
  have blankAfter : isBlank "\u2003".toList = true := by decide
  have letters : "οΔΥΣΣΕΥΣ@İthaki.GR".toList.map Char.toLower =
      "οΔΥΣΣΕΥΣ@İTHAKI.gr".toList.map Char.toLower := by decide
  have said : isBlank "Return".toList = false := by decide
  have reached := (queued "Return" "" Unit closedPost ()).1 ⟨⟨_, made⟩, said⟩
  have unreached := (queued " " "" Unit closedPost ()).2 fun accepted =>
    absurd accepted.2 (by decide)
  rw [low, String.ofList_toList] at reached
  exact ⟨blankBefore, blankAfter, letters, (alike _ _ _ blankBefore blankAfter letters).trans made,
    said, reached, unreached.1⟩

end ClubOffice.Email
