import ClubOffice.Proofs.Audit.Composition
import ClubOffice.Proofs.Audit.Ownership

/-!
# Outermost calls

A plain program is made of audited acts, one after the other and inside one another, which may fail
and crash and be caught. Those that it performs outside any trace are its outermost calls: each of
them takes up a stretch of what the task exchanges, and begins it with a fresh identifier.
-/

namespace ClubOffice.Audit

open Plan

variable {ν α : Type}

theorem Act.bind_assoc {P : Interface} {β γ : Type} (act : Act P α) (after : α → Act P β)
    (last : β → Act P γ) :
    (act.bind after).bind last = act.bind fun value => (after value).bind last := by
  funext slot
  refine (Plan.bind_assoc _ _ _).trans (congrArg (Plan.bind (act slot)) (funext fun result => ?_))
  obtain ⟨exit, found⟩ := result
  cases exit with
  | value value => rfl
  | fault cause => rfl
  | crash message => rfl

/-- What comes after an act whose value or fault is looked at. -/
def Act.settled {P : Interface} {β : Type} (after : Except Fault α → Act P β) :
    Exit α × Slot → Plan (P.plus ambient) (Exit β × Slot)
  | (.value value, slot) => after (.ok value) slot
  | (.fault cause, slot) => after (.error cause) slot
  | (.crash message, slot) => .done (.crash message, slot)

theorem Act.settle_bind {P : Interface} {β : Type} (act : Act P α)
    (after : Except Fault α → Act P β) (slot : Slot) :
    (Act.settle act).bind after slot = (act slot).bind (settled after) := by
  refine (Plan.bind_assoc _ _ _).trans (congrArg (Plan.bind (act slot)) (funext fun result => ?_))
  obtain ⟨exit, found⟩ := result
  cases exit with
  | value value => rfl
  | fault cause => rfl
  | crash message => rfl

theorem Act.capture_bind {P : Interface} {β : Type} (act : Act P α) (after : Exit α → Act P β)
    (slot : Slot) :
    (Act.capture act).bind after slot = (act slot).bind fun result => after result.1 result.2 :=
  Plan.bind_assoc _ _ _

theorem Keeps.settled {P : Interface} {β : Type}
    {property : List (Exchange (P.plus ambient)) → Prop} {slot : Slot} (nil : property [])
    {after : Except Fault α → Act P β} (keeps : ∀ outcome, Keeps property slot (after outcome slot))
    (exit : Exit α) : Keeps property slot (Act.settled after (exit, slot)) := by
  cases exit with
  | value value => exact keeps (.ok value)
  | fault cause => exact keeps (.error cause)
  | crash message => exact .done nil _

namespace Program

/-- Whether a program does not store, clear or enter a key by hand, open a scope, run other tasks,
or have its records refused. -/
def plain : Program ν → Bool
  | .finish | .give _ | .fail _ | .crash _ => true
  | .set _ _ | .clear _ | .enter _ _ _ | .scope _ _ | .spawn _ _ => false
  | .get rest | .isInside rest | .note _ rest | .pause rest | .gather rest => rest.plain
  | .writes reject rest => reject.isNone && rest.plain
  | .capture body rest | .audited _ _ _ _ _ body rest => body.plain && rest.plain

/-- What a plain program does first, and the program that follows it. -/
def head? : Program ν → Option (Act (stage ν) Unit × Program ν)
  | .get rest => some (Act.slot.bind fun slot => exhibit (.current slot.current), rest)
  | .isInside rest => some (Act.slot.bind fun slot => exhibit (.isInside slot.isInside), rest)
  | .note text rest => some (exhibit (.note text), rest)
  | .pause rest => some (Act.finish (.value ()), rest)
  | .writes reject rest => some (direct (.writes reject), rest)
  | .capture body rest =>
      some ((Act.capture body.perform).bind fun exit => exhibit (.captured exit), rest)
  | .audited source start success changes passOn body rest =>
      some ((Act.settle (announced source start success changes body.perform)).bind
        (conclude passOn), rest)
  | .gather rest => some (direct .gather, rest)
  | _ => none

section Keeping

variable {property : List (Exchange ((stage ν).plus ambient)) → Prop} {slot : Slot}
variable (additive : Additive property) (staged : ∀ request reply, property [⟨.inl request, reply⟩])

include additive staged

theorem keeps_direct (request : Request ν) : Keeps property slot (direct request slot) :=
  .ask additive (staged request) fun _ => .done additive.nil _

theorem keeps_direct_bind (request : Request ν) {rest : Act (stage ν) α}
    (keeps : Keeps property slot (rest slot)) :
    Keeps property slot ((direct request).bind (fun _ => rest) slot) :=
  (keeps_direct additive staged request).andThen additive fun _ => keeps

theorem keeps_conclude (passOn : Bool) (outcome : Except Fault (Option ν)) :
    Keeps property slot (conclude passOn outcome slot) := by
  refine keeps_direct_bind additive staged _ ?_
  rcases outcome with cause | value
  · cases passOn with
    | true => exact .done additive.nil _
    | false => exact .done additive.nil _
  · exact .done additive.nil _

/-- A plain program keeps to what its audited acts keep to. -/
theorem keeps_perform
    (announces : ∀ source start success changes (body : Program ν), body.plain →
      Keeps property slot (body.perform slot) →
        Keeps property slot (announced source start success changes body.perform slot))
    (program : Program ν) (plain : program.plain) :
    Keeps property slot (program.perform slot) := by
  induction program with
  | finish => exact .done additive.nil _
  | give value => exact .done additive.nil _
  | fail cause => exact .done additive.nil _
  | crash message => exact .done additive.nil _
  | get rest ih => exact keeps_direct_bind additive staged _ (ih plain)
  | isInside rest ih => exact keeps_direct_bind additive staged _ (ih plain)
  | set key rest ih => cases plain
  | clear rest ih => cases plain
  | note text rest ih => exact keeps_direct_bind additive staged _ (ih plain)
  | pause rest ih => exact ih plain
  | writes reject rest ih =>
      exact keeps_direct_bind additive staged _ (ih (Bool.and_eq_true_iff.1 plain).2)
  | enter key body rest bodyIH restIH => cases plain
  | scope body rest bodyIH restIH => cases plain
  | capture body rest bodyIH restIH =>
      obtain ⟨bodyPlain, restPlain⟩ := Bool.and_eq_true_iff.1 plain
      refine ((bodyIH bodyPlain).capture additive).andThen additive fun exit => ?_
      exact keeps_direct_bind additive staged _ (restIH restPlain)
  | audited source start success changes passOn body rest bodyIH restIH =>
      obtain ⟨bodyPlain, restPlain⟩ := Bool.and_eq_true_iff.1 plain
      have announcing := announces source start success changes body bodyPlain (bodyIH bodyPlain)
      refine (announcing.settle additive).andThen additive fun outcome => ?_
      refine (keeps_conclude additive staged passOn outcome).andThen additive fun _ => ?_
      exact restIH restPlain
  | spawn body rest bodyIH restIH => cases plain
  | gather rest ih => exact keeps_direct_bind additive staged _ (ih plain)

end Keeping

/-- Under a trace a plain program reports under that trace only. -/
theorem under_perform (trace : TraceKey) (program : Program ν) (plain : program.plain) :
    Keeps (Under trace) (.inside (some trace)) (program.perform (.inside (some trace))) := by
  refine keeps_perform (additive_under trace) (fun _ _ => ⟨rfl, List.forall_mem_nil _⟩) ?_ program
    plain
  intro source start success changes body bodyPlain keeps
  rcases announced_cases source start success changes body.perform with
    ⟨fault, same⟩ | ⟨found, operation, same⟩
  · rw [same]
    exact .done (additive_under trace).nil _
  · rw [same]
    exact keeps.reported found operation

/-- An outermost call: how an audited act is announced, and the program inside. -/
structure Call (ν : Type) where
  source : String
  start : String
  success : String
  changes : List Adjustment
  body : Program ν

def Call.perform (call : Call ν) : Act (stage ν) (Option ν) :=
  announced call.source call.start call.success call.changes call.body.perform

theorem Call.opens (call : Call ν) (plain : call.body.plain) :
    Keeps Opens .outside (call.perform .outside) := by
  unfold Call.perform
  rcases announced_cases call.source call.start call.success call.changes call.body.perform with
    ⟨fault, same⟩ | ⟨found, operation, same⟩
  · rw [same]
    exact .done (.inl rfl) _
  · rw [same]
    exact .audited found operation fun uuid => under_perform ⟨uuid⟩ call.body plain

theorem staged_owned (request : Request ν) (reply : Unit) :
    Owned ([⟨.inl request, reply⟩] : List (Exchange ((stage ν).plus ambient))) :=
  List.forall_mem_nil _

/-- Outside any trace a plain program reports under identifiers that it asks for. -/
theorem owned_perform (program : Program ν) (plain : program.plain) :
    Keeps Owned .outside (program.perform .outside) := by
  refine keeps_perform additive_owned staged_owned ?_ program plain
  intro source start success changes body bodyPlain _
  exact (Call.opens ⟨source, start, success, changes, body⟩ bodyPlain).imp fun _ => Opens.owned

/-- The exchanges after which a program is about to make an outermost call. -/
inductive Reaches : Program ν → List (Exchange ((stage ν).plus ambient)) → Call ν → Prop
  | here (source start success : String) (changes : List Adjustment) (passOn : Bool)
      (body rest : Program ν) :
      Reaches (.audited source start success changes passOn body rest) []
        ⟨source, start, success, changes, body⟩
  | caught {body : Program ν} (rest : Program ν)
      {first : List (Exchange ((stage ν).plus ambient))} {call : Call ν}
      (within : Reaches body first call) : Reaches (.capture body rest) first call
  | onward {program rest : Program ν} {act : Act (stage ν) Unit}
      {first later : List (Exchange ((stage ν).plus ambient))} {call : Call ν}
      (head : program.head? = some (act, rest))
      (whole : Course (act .outside) first (.done (.value (), .outside)))
      (reaches : Reaches rest later call) : Reaches program (first ++ later) call

/-- The exchanges of an outermost call among those of its task, and those before it. A call that is
under way takes up all that the task has exchanged since it began. -/
inductive Invokes (program : Program ν) : List (Exchange ((stage ν).plus ambient)) → Call ν →
    List (Exchange ((stage ν).plus ambient)) → List (Exchange ((stage ν).plus ambient)) → Prop
  | running {call : Call ν} {first within : List (Exchange ((stage ν).plus ambient))}
      {left : Plan ((stage ν).plus ambient) (End ν × Slot)} (reaches : program.Reaches first call)
      (course : Course (call.perform .outside) within left) :
      Invokes program (first ++ within) call first within
  | ended {call : Call ν} {first within : List (Exchange ((stage ν).plus ambient))}
      {result : End ν × Slot} (reaches : program.Reaches first call)
      (course : Course (call.perform .outside) within (.done result))
      (later : List (Exchange ((stage ν).plus ambient))) :
      Invokes program (first ++ within ++ later) call first within

section Heads

variable {program rest : Program ν} {act : Act (stage ν) Unit}

theorem plain_of_head? (plain : program.plain) (head : program.head? = some (act, rest)) :
    rest.plain := by
  cases program with
  | get next | isInside next | note text next | pause next | gather next =>
      cases head
      exact plain
  | writes reject next =>
      cases head
      exact (Bool.and_eq_true_iff.1 plain).2
  | capture body next =>
      cases head
      exact (Bool.and_eq_true_iff.1 plain).2
  | audited source start success changes passOn body next =>
      cases head
      exact (Bool.and_eq_true_iff.1 plain).2
  | _ => cases head

theorem perform_of_head? (head : program.head? = some (act, rest)) (slot : Slot) :
    program.perform slot = act.bind (fun _ => rest.perform) slot := by
  cases program with
  | get next | isInside next | note text next | pause next | writes reject next | gather next =>
      cases head
      rfl
  | capture body next =>
      cases head
      exact congrFun (Act.bind_assoc _ _ _).symm slot
  | audited source start success changes passOn body next =>
      cases head
      exact congrFun (Act.bind_assoc _ _ _).symm slot
  | _ => cases head

theorem course_of_head? {first : List (Exchange ((stage ν).plus ambient))}
    (head : program.head? = some (act, rest))
    (whole : Course (act .outside) first (.done (.value (), .outside))) :
    Course (program.perform .outside) first (rest.perform .outside) := by
  rw [perform_of_head? head]
  exact whole.bind _

theorem keeps_head? (plain : program.plain) (head : program.head? = some (act, rest)) :
    Keeps Owned .outside (act .outside) := by
  cases program with
  | get next | isInside next | note text next | writes reject next | gather next =>
      cases head
      exact keeps_direct additive_owned staged_owned _
  | pause next =>
      cases head
      exact .done additive_owned.nil _
  | capture body next =>
      cases head
      have body := owned_perform body (Bool.and_eq_true_iff.1 plain).1
      exact (body.capture additive_owned).andThen additive_owned fun exit =>
        keeps_direct additive_owned staged_owned _
  | audited source start success changes passOn body next =>
      cases head
      have opens := Call.opens ⟨source, start, success, changes, body⟩
        (Bool.and_eq_true_iff.1 plain).1
      have owned := opens.imp fun _ => Opens.owned
      exact (owned.settle additive_owned).andThen additive_owned fun outcome =>
        keeps_conclude additive_owned staged_owned passOn outcome
  | _ => cases head

end Heads

theorem perform_capture (body rest : Program ν) (slot : Slot) :
    (Program.capture body rest).perform slot = (body.perform slot).bind fun result =>
      (exhibit (.captured result.1)).bind (fun _ => rest.perform) result.2 :=
  Act.capture_bind _ _ _

theorem perform_audited (source start success : String) (changes : List Adjustment) (passOn : Bool)
    (body rest : Program ν) (slot : Slot) :
    (Program.audited source start success changes passOn body rest).perform slot =
      (Call.perform ⟨source, start, success, changes, body⟩ slot).bind
        (Act.settled fun outcome => (conclude passOn outcome).bind fun _ => rest.perform) :=
  Act.settle_bind _ _ _

section Calls

variable {program : Program ν} {call : Call ν} {uuid : Uuid}
variable {asked first within later : List (Exchange ((stage ν).plus ambient))}

/-- When an outermost call is reached, it is performed, and what comes after it is again outside any
trace. -/
theorem Reaches.course (reaches : program.Reaches first call) (plain : program.plain) :
    call.body.plain ∧ ∃ after, Course (program.perform .outside) first
        ((call.perform .outside).bind after) ∧
      ∀ exit, Keeps Owned .outside (after (exit, .outside)) := by
  induction reaches with
  | here source start success changes passOn body rest =>
      obtain ⟨bodyPlain, restPlain⟩ := Bool.and_eq_true_iff.1 plain
      rw [perform_audited]
      refine ⟨bodyPlain, _, .still _, .settled additive_owned.nil ?_⟩
      intro outcome
      refine (keeps_conclude additive_owned staged_owned passOn outcome).andThen additive_owned ?_
      exact fun _ => owned_perform rest restPlain
  | @caught body rest first call within ih =>
      obtain ⟨bodyPlain, restPlain⟩ := Bool.and_eq_true_iff.1 plain
      obtain ⟨callPlain, after, course, keeps⟩ := ih bodyPlain
      have caught := course.bind fun result =>
        (exhibit (.captured result.1)).bind (fun _ => rest.perform) result.2
      rw [Plan.bind_assoc, ← perform_capture] at caught
      refine ⟨callPlain, _, caught, fun exit => ?_⟩
      refine (keeps exit).bind additive_owned fun exit' => ?_
      exact keeps_direct_bind additive_owned staged_owned _ (owned_perform rest restPlain)
  | onward head whole _ ih =>
      obtain ⟨callPlain, after, course, keeps⟩ := ih (plain_of_head? plain head)
      exact ⟨callPlain, after, (course_of_head? head whole).append course, keeps⟩

/-- The exchanges of an outermost call are set apart from those of its task before and after it. -/
theorem Invokes.split (invokes : program.Invokes asked call first within) (plain : program.plain)
    {rest : Plan ((stage ν).plus ambient) (End ν × Slot)}
    (course : Course (program.perform .outside) asked rest) :
    ∃ later, asked = first ++ within ++ later ∧ Owned first ∧ Opens within ∧ Owned later := by
  cases invokes with
  | running reaches made =>
      obtain ⟨callPlain, after, begun, keeps⟩ := reaches.course plain
      have owned := (owned_perform program plain first _ begun).1
      have opens := (call.opens callPlain within _ made).1
      exact ⟨[], (List.append_nil _).symm, owned, opens, additive_owned.nil⟩
  | @ended _ _ _ result reaches made later =>
      obtain ⟨callPlain, after, begun, keeps⟩ := reaches.course plain
      have owned := (owned_perform program plain first _ begun).1
      obtain ⟨opens, ends⟩ := call.opens callPlain within _ made
      obtain ⟨exit, slot⟩ := result
      cases ends exit slot rfl
      rw [List.append_assoc, begun.append_iff, (made.bind after).append_iff] at course
      exact ⟨later, rfl, owned, opens, (keeps exit later rest course).1⟩

/-- An outermost call that opens with an identifier takes up what follows until it ends. -/
theorem Reaches.invokes (reaches : program.Reaches first call) (plain : program.plain)
    {rest left : Plan ((stage ν).plus ambient) (End ν × Slot)}
    {exchange : Exchange ((stage ν).plus ambient)}
    {later' : List (Exchange ((stage ν).plus ambient))}
    (course : Course (program.perform .outside) (first ++ exchange :: later) rest)
    (opening : Course (call.perform .outside) (exchange :: later') left) :
    ∃ within, program.Invokes (first ++ exchange :: later) call first (exchange :: within) := by
  obtain ⟨_, after, begun, _⟩ := reaches.course plain
  rcases ((begun.append_iff).1 course).of_bind with
    ⟨between, made, _⟩ | ⟨within, last, result, same, made, _⟩
  · exact ⟨later, .running reaches made⟩
  · cases within with
    | nil =>
        -- A call that is done without any exchange does not open with one.
        have none := (course_done_iff.1 (made.append_iff.1 opening)).1
        cases none
    | cons found within =>
        cases same
        have invokes := Invokes.ended reaches made last
        rw [List.append_assoc] at invokes
        exact ⟨within, invokes⟩

end Calls

/-- Whether a plan can ask for an identifier right after the given exchanges, and get this one. -/
def Asks (plan : Plan ((stage ν).plus ambient) α)
    (first : List (Exchange ((stage ν).plus ambient))) (uuid : Uuid) : Prop :=
  ∃ later rest, Course plan (first ++ ⟨.inr .freshId, uuid⟩ :: later) rest

/-- Whether the identifier is one that an outermost call opens with. -/
def Opened (program : Program ν) (first : List (Exchange ((stage ν).plus ambient))) (uuid : Uuid) :
    Prop :=
  ∃ call : Call ν, program.Reaches first call ∧ Asks (call.perform .outside) [] uuid

section Asks

variable {first : List (Exchange ((stage ν).plus ambient))} {uuid : Uuid}

theorem not_asks_done (result : α) : ¬ Asks (.done result) first uuid := by
  rintro ⟨later, rest, course⟩
  exact List.append_ne_nil_of_right_ne_nil _ (List.cons_ne_nil _ _) (course_done_iff.1 course).1

theorem Asks.of_bind {β : Type} {plan : Plan ((stage ν).plus ambient) α}
    {after : α → Plan ((stage ν).plus ambient) β} (asks : Asks (plan.bind after) first uuid) :
    Asks plan first uuid ∨ ∃ begun between result, first = begun ++ between ∧
      Course plan begun (.done result) ∧ Asks (after result) between uuid := by
  obtain ⟨later, rest, course⟩ := asks
  rcases course.of_bind_append with inside | ⟨begun, between, result, same, whole, onward⟩
  · exact .inl inside
  · exact .inr ⟨begun, between, result, same, whole, later, rest, onward⟩

def Silent (asked : List (Exchange ((stage ν).plus ambient))) : Prop := given asked = []

theorem additive_silent : Additive (Silent (ν := ν)) where
  nil := rfl
  append {first second} none none' := by
    unfold Silent at *
    rw [given_append, none, none', List.append_nil]

theorem staged_silent (request : Request ν) (reply : Unit) :
    Silent ([⟨.inl request, reply⟩] : List (Exchange ((stage ν).plus ambient))) := rfl

theorem not_silent_append (later : List (Exchange ((stage ν).plus ambient))) :
    ¬ Silent (first ++ ⟨.inr .freshId, uuid⟩ :: later) := by
  unfold Silent
  rw [given_append]
  exact List.append_ne_nil_of_right_ne_nil _ (List.cons_ne_nil _ _)

theorem not_asks_of_silent {slot : Slot} {plan : Plan ((stage ν).plus ambient) (Exit α × Slot)}
    (keeps : Keeps Silent slot plan) : ¬ Asks plan first uuid := by
  rintro ⟨later, rest, course⟩
  exact not_silent_append later (keeps _ _ course).1

theorem not_asks_direct (request : Request ν) (slot : Slot) :
    ¬ Asks (direct request slot) first uuid :=
  not_asks_of_silent (keeps_direct additive_silent staged_silent request)

/-- A call opens with the only identifier that it asks for. -/
theorem Call.eq_nil_of_asks (call : Call ν) (plain : call.body.plain)
    (asks : Asks (call.perform .outside) first uuid) : first = [] := by
  obtain ⟨later, rest, course⟩ := asks
  rcases (call.opens plain _ _ course).1 with none | ⟨opening, onward, same, silent, _⟩
  · exact absurd none (List.append_ne_nil_of_right_ne_nil _ (List.cons_ne_nil _ _))
  · cases first with
    | nil => rfl
    | cons found first =>
        cases same
        exact absurd silent (not_silent_append later)

/-- An identifier is asked for by what a program does first, or by the rest of the program, which is
then outside any trace as well. -/
theorem opened_of_head? {program rest : Program ν} {act : Act (stage ν) Unit}
    (plain : program.plain) (head : program.head? = some (act, rest))
    (asks : Asks (program.perform .outside) first uuid)
    (inside : Asks (act .outside) first uuid → program.Opened first uuid)
    (after : ∀ between, Asks (rest.perform .outside) between uuid → rest.Opened between uuid) :
    program.Opened first uuid := by
  rw [perform_of_head? head] at asks
  rcases asks.of_bind with within | ⟨begun, between, ⟨exit, slot⟩, rfl, whole, onward⟩
  · exact inside within
  cases (keeps_head? plain head begun _ whole).2 exit slot rfl
  cases exit with
  | value value =>
      obtain ⟨call, reaches, opens⟩ := after between onward
      exact ⟨call, .onward head whole reaches, opens⟩
  | fault cause => exact absurd onward (not_asks_done _)
  | crash message => exact absurd onward (not_asks_done _)

/-- An identifier that is asked for outside any trace is one that an outermost call opens with. -/
theorem opened_of_asks (program : Program ν) (plain : program.plain)
    (asks : Asks (program.perform .outside) first uuid) : program.Opened first uuid := by
  induction program generalizing first with
  | finish => exact absurd asks (not_asks_done _)
  | give value => exact absurd asks (not_asks_done _)
  | fail cause => exact absurd asks (not_asks_done _)
  | crash message => exact absurd asks (not_asks_done _)
  | get rest ih | isInside rest ih | note text rest ih | gather rest ih =>
      exact opened_of_head? plain rfl asks (absurd · (not_asks_direct _ _)) fun _ => ih plain
  | writes reject rest ih =>
      have restPlain := (Bool.and_eq_true_iff.1 plain).2
      exact opened_of_head? plain rfl asks (absurd · (not_asks_direct _ _)) fun _ => ih restPlain
  | pause rest ih =>
      exact opened_of_head? plain rfl asks (absurd · (not_asks_done _)) fun _ => ih plain
  | capture body rest bodyIH restIH =>
      obtain ⟨bodyPlain, restPlain⟩ := Bool.and_eq_true_iff.1 plain
      refine opened_of_head? plain rfl asks (fun asks => ?_) fun _ => restIH restPlain
      rw [Act.capture_bind] at asks
      rcases asks.of_bind with inside | ⟨_, _, result, _, _, shown⟩
      · obtain ⟨call, reaches, opens⟩ := bodyIH bodyPlain inside
        exact ⟨call, .caught rest reaches, opens⟩
      · exact absurd shown (not_asks_direct _ _)
  | audited source start success changes passOn body rest bodyIH restIH =>
      obtain ⟨bodyPlain, restPlain⟩ := Bool.and_eq_true_iff.1 plain
      refine opened_of_head? plain rfl asks (fun asks => ?_) fun _ => restIH restPlain
      rw [Act.settle_bind] at asks
      rcases asks.of_bind with inside | ⟨_, _, ⟨exit, slot⟩, _, _, concluded⟩
      · let call : Call ν := ⟨source, start, success, changes, body⟩
        cases call.eq_nil_of_asks bodyPlain inside
        exact ⟨call, .here source start success changes passOn body rest, inside⟩
      · have silent (outcome : Except Fault (Option ν)) :
            Keeps Silent slot (conclude passOn outcome slot) :=
          keeps_conclude additive_silent staged_silent passOn outcome
        exact absurd concluded (not_asks_of_silent (.settled additive_silent.nil silent exit))
  | _ => cases plain

theorem of_given?_eq_some {exchange : Exchange ((stage ν).plus ambient)}
    (found : given? exchange = some uuid) : exchange = ⟨.inr .freshId, uuid⟩ := by
  unfold given? at found
  split at found
  · cases found
    rfl
  · cases found

/-- Every identifier that a task was given is that of one of its outermost calls. -/
theorem exists_invokes {program : Program ν} (plain : program.plain)
    {asked : List (Exchange ((stage ν).plus ambient))}
    {rest : Plan ((stage ν).plus ambient) (End ν × Slot)}
    (course : Course (program.perform .outside) asked rest) (member : uuid ∈ given asked) :
    ∃ call first within,
      program.Invokes asked call first (⟨.inr .freshId, uuid⟩ :: within) := by
  obtain ⟨exchange, present, found⟩ := List.mem_filterMap.1 member
  cases of_given?_eq_some found
  obtain ⟨first, later, rfl⟩ := List.append_of_mem present
  obtain ⟨call, reaches, later', left, opening⟩ :=
    opened_of_asks program plain ⟨later, rest, course⟩
  obtain ⟨within, invokes⟩ := reaches.invokes plain course opening
  exact ⟨call, first, within, invokes⟩

end Asks

end Program

end ClubOffice.Audit
