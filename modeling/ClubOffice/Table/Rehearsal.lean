import ClubOffice.Key
import ClubOffice.Table.Server

/-!
# Rehearsals with a table server

A server whose answers are arranged in advance, one for each statement; when none is left it finds
nothing. It can also be out of reach. What it was told is kept.
-/

namespace ClubOffice.Table

/-- What is arranged: an answer to the next statement, or the failure of the next beginning or end
of a transaction. -/
inductive Arranged
  | answer (respond : (statement : Statement) → Except Failure statement.Answer)
  | beginFails (message : String)
  | commitFails (message : String)

inductive Told
  | begin
  | commit
  | statement (statement : Statement)
deriving DecidableEq

/-- A server, what it was told, and the supply of identifiers. -/
structure Desk where
  unreachable : Option String
  arranged : List Arranged
  told : List Told
  supply : Supply

namespace Desk

def set (unreachable : Option String) (arranged : List Arranged) (supply : Supply) : Desk :=
  ⟨unreachable, arranged, [], supply⟩

def tell (desk : Desk) (told : Told) : Desk := { desk with told := desk.told ++ [told] }

def serveReached : Server link Desk
  | .begin, desk =>
      let desk := desk.tell .begin
      match desk.arranged with
      | .beginFails message :: rest =>
          (.error (.refused message), { desk with arranged := rest })
      | _ => (.ok (), desk)
  | .commit, desk =>
      let desk := desk.tell .commit
      match desk.arranged with
      | .commitFails message :: rest =>
          (.error (.refused message), { desk with arranged := rest })
      | _ => (.ok (), desk)
  | .execute statement, desk =>
      let desk := desk.tell (.statement statement)
      match desk.arranged with
      | .answer respond :: rest => (respond statement, { desk with arranged := rest })
      | _ => (.ok statement.nothing, desk)
  | .freshId, desk => (desk.supply.take.1, { desk with supply := desk.supply.take.2 })

/-- Answers requests. A server out of reach is told nothing and answers nothing; fresh identifiers
can be had all the same. -/
def serve : Server link Desk := fun request desk =>
  match desk.unreachable, request with
  | some cause, .begin => (.error (.unreachable cause), desk)
  | some cause, .commit => (.error (.unreachable cause), desk)
  | some cause, .execute _ => (.error (.unreachable cause), desk)
  | _, request => serveReached request desk

def perform {α : Type} (desk : Desk) (plan : Plan link (Except Fault α)) :
    Except Fault α × Desk :=
  plan.run serve desk

end Desk

end ClubOffice.Table
