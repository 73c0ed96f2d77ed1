/-!
# Plans

A plan is a piece of work described by the calls it makes: it is either done, or it asks one
request of an interface and goes on with the reply. The same plan can be carried out against a store
in memory, against arranged replies, or one call at a time between the calls of other plans.
-/

namespace ClubOffice

/-- The requests that can be asked, and what each is replied with. -/
structure Interface where
  Request : Type
  Reply : Request → Type

/-- Both interfaces side by side. -/
abbrev Interface.plus (P Q : Interface) : Interface where
  Request := P.Request ⊕ Q.Request
  Reply
    | .inl request => P.Reply request
    | .inr request => Q.Reply request

/-- Work that is done with a result, or that asks a request and goes on with the reply. -/
inductive Plan (P : Interface) (α : Type) : Type
  | done (result : α)
  | ask (request : P.Request) (next : P.Reply request → Plan P α)

/-- Replies to each request from a state, which it moves on. -/
abbrev Server (P : Interface) (σ : Type) := (request : P.Request) → σ → P.Reply request × σ

namespace Plan

variable {P Q : Interface} {α β σ : Type}

/-- Goes on with `after` once the plan is done. -/
def bind : Plan P α → (α → Plan P β) → Plan P β
  | .done result, after => after result
  | .ask request next, after => .ask request fun reply => (next reply).bind after

instance : Monad (Plan P) where
  pure := .done
  bind := bind

/-- The same plan where a second interface is at hand as well. -/
def inLeft : Plan P α → Plan (P.plus Q) α
  | .done result => .done result
  | .ask request next => .ask (.inl request) fun reply => (next reply).inLeft

/-- Carries the plan out against a server. -/
def run (serve : Server P σ) : Plan P α → σ → α × σ
  | .done result, state => (result, state)
  | .ask request next, state =>
      (next (serve request state).1).run serve (serve request state).2

theorem done_bind (result : α) (after : α → Plan P β) : (Plan.done result).bind after =
    after result := rfl

theorem bind_assoc {γ : Type} (plan : Plan P α) (after : α → Plan P β) (last : β → Plan P γ) :
    (plan.bind after).bind last = plan.bind fun result => (after result).bind last := by
  induction plan with
  | done result => rfl
  | ask request next ih => simp only [bind, ih]

theorem run_bind (serve : Server P σ) (plan : Plan P α) (after : α → Plan P β) (state : σ) :
    (plan.bind after).run serve state =
      (after (plan.run serve state).1).run serve (plan.run serve state).2 := by
  induction plan generalizing state with
  | done result => rfl
  | ask request next ih => exact ih _ _

end Plan

/-- Serves both interfaces from one state. -/
def Server.both {P Q : Interface} {σ : Type} (left : Server P σ) (right : Server Q σ) :
    Server (P.plus Q) σ
  | .inl request, state => left request state
  | .inr request, state => right request state

end ClubOffice
