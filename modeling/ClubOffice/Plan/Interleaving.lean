import ClubOffice.Plan.Transcript

/-!
# Plans side by side

Calls of one interface are carried out by plans over another. Several calls can be under way at
once: a step lets one of them make its next exchange, so that the exchanges of different calls come
in any order, and between two exchanges the shared state may change by itself. What a request may be
replied with is left open: a manner says which replies there are, and a server picks one of them.
-/

namespace ClubOffice

/-- Carries out each call of one interface by a plan over another. -/
abbrev Service (S P : Interface) := (call : S.Request) → Plan P (S.Reply call)

/-- The replies that a request can get in a state, each with a state that can come after it. -/
abbrev Manner (P : Interface) (σ : Type) :=
  (request : P.Request) → σ → P.Reply request → σ → Prop

/-- A call under way: what it has exchanged so far, and what is left of its plan. -/
structure Strand (S P : Interface) where
  call : S.Request
  asked : List (Exchange P)
  rest : Plan P (S.Reply call)

/-- Calls under way over a shared state. -/
structure Crowd (S P : Interface) (σ : Type) where
  strands : List (Strand S P)
  state : σ

variable {S P : Interface} {σ : Type}

namespace Strand

def start (service : Service S P) (call : S.Request) : Strand S P := ⟨call, [], service call⟩

def isDone : Strand S P → Bool
  | ⟨_, _, .done _⟩ => true
  | ⟨_, _, .ask _ _⟩ => false

def turn (serve : Server P σ) : Strand S P → σ → Strand S P × σ
  | ⟨call, asked, .done result⟩, state => (⟨call, asked, .done result⟩, state)
  | ⟨call, asked, .ask request next⟩, state =>
      (⟨call, asked ++ [⟨request, (serve request state).1⟩], next (serve request state).1⟩,
        (serve request state).2)

end Strand

namespace Crowd

def start (service : Service S P) (calls : List S.Request) (state : σ) : Crowd S P σ :=
  ⟨calls.map (Strand.start service), state⟩

/-- Everything that was exchanged, call by call. -/
def exchanges (crowd : Crowd S P σ) : List (Exchange P) := crowd.strands.flatMap (·.asked)

/-- One call makes an exchange, or the state changes by itself. -/
inductive Step (manner : Manner P σ) (drift : σ → σ → Prop) : Crowd S P σ → Crowd S P σ → Prop
  | exchange (before after : List (Strand S P)) (call : S.Request) (asked : List (Exchange P))
      (request : P.Request) (next : P.Reply request → Plan P (S.Reply call))
      (state state' : σ) (reply : P.Reply request) (replied : manner request state reply state') :
      Step manner drift ⟨before ++ ⟨call, asked, .ask request next⟩ :: after, state⟩
        ⟨before ++ ⟨call, asked ++ [⟨request, reply⟩], next reply⟩ :: after, state'⟩
  | drift (strands : List (Strand S P)) (state state' : σ) (drifted : drift state state') :
      Step manner drift ⟨strands, state⟩ ⟨strands, state'⟩

def turn (serve : Server P σ) (crowd : Crowd S P σ) (place : Nat) : Crowd S P σ :=
  match crowd.strands[place]? with
  | none => crowd
  | some strand =>
      ⟨crowd.strands.set place (strand.turn serve crowd.state).1,
        (strand.turn serve crowd.state).2⟩

/-- Lets calls take turns in the order of a schedule. -/
def turns (serve : Server P σ) (crowd : Crowd S P σ) (schedule : List Nat) : Crowd S P σ :=
  schedule.foldl (turn serve) crowd

end Crowd

end ClubOffice
