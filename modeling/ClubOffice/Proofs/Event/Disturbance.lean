import ClubOffice.Event.Rehearsal
import ClubOffice.Plan.Interleaving
import ClubOffice.Proofs.Event.Finality
import ClubOffice.Proofs.Plan.Walk

/-!
# A disturbed register

Calls to a register can be made to fail, updates to be answered with no, and lists to tell of
anything. A register that is disturbed in these ways is changed by what it serves and by nothing
else: a call that is not answered well leaves it as it is.
-/

namespace ClubOffice.Event

open Audit Plan Relation Time

/-- What can come of a request to a register. -/
inductive Disturbed : Manner registry Register
  | calm (request : registry.Request) (register : Register) :
      Disturbed request register (Register.serve request register).1
        (Register.serve request register).2
  | fails (request : registry.Request) (register : Register) (fault : Fault) :
      Disturbed request register (Scene.failing fault request) register
  | refuses (key : EventKey) (expected next : Status) (register : Register) :
      Disturbed (.update key expected next) register (.ok false) register
  | lists (now : Instant) (register : Register) (events : List Event) :
      Disturbed (.due now) register (.ok events) register

/-- What can come of a request to a disturbed register or to the surroundings, which reply with
anything. -/
def unsteady : Manner (registry.plus ambient) Register
  | .inl request, register, reply, after => Disturbed request register reply after
  | .inr _, register, _, after => after = register

namespace Disturbed

variable {register after : Register}

theorem save_cases {event : Event} {reply : Except Fault Unit}
    (disturbed : Disturbed (.save event) register reply after) :
    (∃ fault, reply = .error fault ∧ after = register) ∨
      (reply = .ok () ∧ event.key ∉ register.events.map (·.key) ∧
        after.events = register.events ++ [event]) := by
  cases disturbed with
  | fails _ _ fault => exact .inl ⟨fault, rfl, rfl⟩
  | calm =>
      by_cases taken : event.key ∈ register.events.map (·.key)
      · have refused : Register.serve (.save event) register =
            (.error (Register.taken event.key), register) := by
          simp [Register.serve, Register.save, taken]
        rw [refused]
        exact .inl ⟨_, rfl, rfl⟩
      · refine .inr ⟨?_, taken, ?_⟩
        · simp [Register.serve, Register.save, taken]
        · simp [Register.serve, Register.save, taken]

theorem unchanged_find {key : EventKey} {reply : Except Fault (Option Event)}
    (disturbed : Disturbed (.find key) register reply after) : after = register := by
  cases disturbed with
  | calm => rfl
  | fails => rfl

/-- What a register says that it found is there. -/
theorem find?_of_found {key : EventKey} {found : Option Event}
    (disturbed : Disturbed (.find key) register (.ok found) after) :
    register.find? key = found := by
  generalize told : (Except.ok found : Except Fault (Option Event)) = reply at disturbed
  cases disturbed with
  | calm => exact (Except.ok.inj told).symm
  | fails => cases told

theorem update_cases {key : EventKey} {expected next : Status} {reply : Except Fault Bool}
    (disturbed : Disturbed (.update key expected next) register reply after) :
    (reply ≠ .ok true ∧ after = register) ∨
      (reply = .ok true ∧ ∃ event ∈ register.events, event.key = key ∧ event.status = .opened ∧
        next ≠ .opened ∧ after = register.setStatus key next) := by
  cases disturbed with
  | fails => exact .inl ⟨by simp [Scene.failing], rfl⟩
  | refuses => exact .inl ⟨by simp, rfl⟩
  | calm =>
      rcases Register.update_cases register key expected next with
        ⟨event, member, same, opened, closed, done⟩ | ⟨refused, unchanged, _⟩
      · have served : Register.serve (.update key expected next) register =
            (.ok true, register.setStatus key next) := done
        rw [served]
        exact .inr ⟨rfl, event, member, same, opened, closed, rfl⟩
      · exact .inl ⟨refused, unchanged⟩

theorem unchanged_update {key : EventKey} {expected next : Status} {reply : Except Fault Bool}
    (disturbed : Disturbed (.update key expected next) register reply after)
    (refused : reply ≠ .ok true) : after = register := by
  rcases disturbed.update_cases with ⟨_, unchanged⟩ | ⟨done, _⟩
  · exact unchanged
  · exact absurd done refused

variable {request : registry.Request} {reply : registry.Reply request}

/-- A disturbed register is as it was, or as it is when it serves the request. -/
theorem state_cases (disturbed : Disturbed request register reply after) :
    after = register ∨ after = (Register.serve request register).2 := by
  cases disturbed with
  | calm => exact .inr rfl
  | fails => exact .inl rfl
  | refuses => exact .inl rfl
  | lists => exact .inl rfl

theorem sound (disturbed : Disturbed request register reply after) (sound : register.Sound)
    (saved : ∀ event, request = .save event → event.Sound) : after.Sound := by
  rcases disturbed.state_cases with rfl | rfl
  · exact sound
  · exact sound.serve request saved

end Disturbed

/-- Whatever is exchanged with a disturbed register, only what it serves changes it. -/
theorem changes_unsteady (request : (registry.plus ambient).Request) (register : Register)
    (reply : (registry.plus ambient).Reply request) (after : Register)
    (replied : unsteady request register reply after) :
    ReflTransGen Register.Changes register after := by
  rcases request with request | request
  · rcases Disturbed.state_cases replied with rfl | served
    · exact .refl
    · exact .single ⟨request, served⟩
  · have same : after = register := replied
    rw [same]

namespace Scene

theorem register_takeArranged (scene : Scene) (call : Registry.Call) :
    (scene.takeArranged call).2.register = scene.register := by
  unfold takeArranged
  split
  · rfl
  · rfl

theorem register_surround (request : ambient.Request) (scene : Scene) :
    (surround request scene).2.register = scene.register := by
  cases request with
  | freshId => rfl
  | now => rfl
  | write record =>
      simp only [surround]
      split
      · rfl
      · rfl

theorem disturbed_serveCalmly (request : registry.Request) (scene : Scene) :
    Disturbed request scene.register (serveCalmly request scene).1
      (serveCalmly request scene).2.register := by
  cases request with
  | save event => exact .calm (.save event) scene.register
  | find key => exact .calm (.find key) scene.register
  | update key expected next => exact .calm (.update key expected next) scene.register
  -- A rehearsal breaks ties by what was created first, so that its list may be in another order.
  | due now => exact .lists now scene.register (scene.due now)

theorem disturbed_serveDisturbed (disturbance : Disturbance) (request : registry.Request)
    (scene : Scene) :
    ∃ between, ReflTransGen Register.Changes scene.register between ∧
      Disturbed request between (serveDisturbed disturbance request scene).1
        (serveDisturbed disturbance request scene).2.register := by
  have calmly := disturbed_serveCalmly request scene
  -- Each disturbance but a failure concerns one kind of request, and leaves the others calm.
  cases disturbance with
  | fails fault =>
      have failed : serveDisturbed (.fails fault) request scene =
          (failing fault request, scene) := by
        cases request <;> rfl
      rw [failed]
      exact ⟨_, .refl, .fails request scene.register fault⟩
  | refuses =>
      cases request with
      | update key expected next =>
          exact ⟨_, .refl, .refuses key expected next scene.register⟩
      | _ => exact ⟨_, .refl, calmly⟩
  | extra events =>
      cases request with
      | due now => exact ⟨_, .refl, .lists now scene.register (scene.due now ++ events)⟩
      | _ => exact ⟨_, .refl, calmly⟩
  | race status =>
      cases request with
      | update key expected next =>
          have raced : Register.Changes scene.register
              (scene.register.update key .opened status).2 := ⟨.update key .opened status, rfl⟩
          simp only [serveDisturbed]
          generalize scene.register.update key .opened status = outcome at raced
          obtain ⟨fault | moved, register⟩ := outcome
          · exact ⟨register, .single raced, .fails (.update key expected next) register fault⟩
          · have later := disturbed_serveCalmly (.update key expected next)
              { scene with register := register }
            exact ⟨register, .single raced, later⟩
      | _ => exact ⟨_, .refl, calmly⟩

/-- Each call of a rehearsal is answered by a disturbed register, perhaps after a lost race. -/
theorem unsteady_serve (request : (registry.plus ambient).Request) (scene : Scene) :
    ∃ between, ReflTransGen Register.Changes scene.register between ∧
      unsteady request between (Server.both serve surround request scene).1
        (Server.both serve surround request scene).2.register := by
  rcases request with request | request
  · have kept := register_takeArranged scene request.call
    simp only [Server.both, serve]
    generalize scene.takeArranged request.call = taken at kept
    obtain ⟨_ | disturbance, scene'⟩ := taken
    · rw [← kept]
      exact ⟨scene'.register, .refl, disturbed_serveCalmly request scene'⟩
    · rw [← kept]
      exact disturbed_serveDisturbed disturbance request scene'
  · exact ⟨scene.register, .refl, register_surround request scene⟩

theorem walk_perform {α : Type} (scene : Scene) (act : Act registry α) :
    ∃ passed left, Walk unsteady Register.Changes (act .outside) scene.register passed
      ((scene.perform act).1, left) (scene.perform act).2.register := by
  obtain ⟨passed, _, walk⟩ := Walk.of_run unsteady_serve (act .outside) scene
  exact ⟨passed, _, walk⟩

end Scene

end ClubOffice.Event
