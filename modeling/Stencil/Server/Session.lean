import Stencil.Diagnostic.Wire
import Stencil.Server.Request
import Stencil.Text.Base64

/-!
# Sessions on web sockets

A client that has opened a web socket sends one request and is then told about every phase
of the compilation and, at last, about its result.

Two parties work at the same time. The compilation puts its phases into a queue, without
ever waiting for room, and its outcome into a slot when it is over. The handler takes from
both, whichever is there, and writes frames; once it has the outcome, it writes the phases
that are left in the queue and then the final frame. Whoever asked may give up at any time,
and any write may fail; either ends the session.

`Session.step` says what an action of either party does, so a session is a list of actions:
every interleaving and every choice of the handler is one.
-/

namespace Stencil

open Bytes

/-- The JSON object of a result. -/
def Compile.Result.toJson (r : Compile.Result) : Json :=
  .obj [("module", match r.module with
      | none => .null
      | some m => .str (Base64.encode m)),
    ("diagnostics", .arr (r.diagnostics.map Diagnostic.toJson))]

/-- **A message of the server to a client.** -/
inductive Frame where
  /-- A phase starts. -/
  | phase (p : Phase)
  /-- The compilation is over. -/
  | result (r : Compile.Result)
  /-- There was no compilation, or it was given up. -/
  | error (message : Bytes)
  deriving DecidableEq, Repr

namespace Frame

/-- The final frame of a compilation. -/
def ofOutcome : Except Failure Compile.Result → Frame
  | .ok r => .result r
  | .error e => .error e.text

/-- The JSON object of a frame. -/
def toJson : Frame → Json
  | .phase p => .obj [("type", .str "phase"), ("phase", .str p.label)]
  | .result r => .obj [("type", .str "result"), ("result", r.toJson)]
  | .error m =>
    if m.isEmpty then .obj [("type", .str "error")]
    else .obj [("type", .str "error"), ("error", .str m)]

end Frame

/-- What the handler of a session is doing. -/
inductive HandlerState where
  /-- It waits for whatever comes. -/
  | listening
  /-- It has the outcome and writes what is left. -/
  | draining
  /-- It has written everything. -/
  | finished
  /-- It has given up. -/
  | aborted
  deriving DecidableEq, Repr

/-- **A session** between a compilation and a client. -/
structure Session where
  /-- How many phases can wait in the queue. -/
  capacity : Nat := 8
  /-- The phases that the compilation has yet to report. -/
  unreported : List Phase
  /-- How the compilation ends. -/
  outcome : Except Failure Compile.Result
  /-- The phases in the queue, oldest first. -/
  queue : List Phase := []
  /-- Whether the outcome is in its slot. -/
  delivered : Bool := false
  /-- What the handler is doing. -/
  handler : HandlerState := .listening
  /-- The frames that were written, in order. -/
  frames : List Frame := []

namespace Session

/-- **What can happen in a session.** Writing a frame may fail. -/
inductive Action where
  /-- The compilation reports its next phase. -/
  | report
  /-- The compilation, which has no more phases to report, hands over its outcome. -/
  | deliver
  /-- The handler takes a phase from the queue and writes its frame. -/
  | forward (written : Bool)
  /-- The handler takes the outcome. -/
  | receive
  /-- The handler, which has the outcome, writes the next of the frames that are left. -/
  | drain (written : Bool)
  /-- Whoever asked has given up, and the handler sees it. -/
  | cancel
  deriving DecidableEq, Repr

/-- The session of a compilation. -/
def ofRun (r : Compile.Run) : Session := { unreported := r.phases, outcome := r.outcome }

/-- A frame written to the client, or not. -/
def write (s : Session) (f : Frame) (written : Bool) : Session :=
  if written then { s with frames := s.frames ++ [f] } else { s with handler := .aborted }

/-- **What an action does.** An action that cannot happen does nothing. -/
def step (s : Session) : Action → Session
  | .report =>
    match s.unreported with
    | [] => s
    | p :: ps =>
      { s with
        unreported := ps
        queue := if s.queue.length < s.capacity then s.queue ++ [p] else s.queue }
  | .deliver => if s.unreported.isEmpty then { s with delivered := true } else s
  | .forward written =>
    match s.handler, s.queue with
    | .listening, p :: ps => ( { s with queue := ps } : Session).write (.phase p) written
    | _, _ => s
  | .receive =>
    if s.handler = .listening && s.delivered then { s with handler := .draining } else s
  | .drain written =>
    match s.handler, s.queue with
    | .draining, p :: ps => ( { s with queue := ps } : Session).write (.phase p) written
    | .draining, [] =>
      ( { s with handler := .finished } : Session).write (.ofOutcome s.outcome) written
    | _, _ => s
  | .cancel => if s.handler = .listening then { s with handler := .aborted } else s

/-- The session after some actions. -/
def run (s : Session) (actions : List Action) : Session := actions.foldl step s

/-- **The frames of a compilation**: its phases in order, and its outcome. -/
def transcript (r : Compile.Run) : List Frame :=
  r.phases.map Frame.phase ++ [.ofOutcome r.outcome]

/-- The actions of a session in which every phase is written as soon as it is reported. -/
def promptly (phases : Nat) : List Action :=
  (List.replicate phases [Action.report, .forward true]).flatten
    ++ [.deliver, .receive, .drain true]

/-- What a client gets: the frames, and how the connection is closed. -/
structure Reply where
  /-- The frames. -/
  frames : List Frame
  /-- The code with which the connection is closed. -/
  code : Nat
  /-- The reason that is given. -/
  reason : Bytes
  deriving DecidableEq, Repr

/-- The reply to a request that cannot be compiled. -/
def refuse (e : RequestError) : Reply :=
  ⟨[.error e.failure.text], 1008, "invalid compile request"⟩

/-- **The reply to a compilation**, when nobody gives up and nothing fails. -/
def reply (r : Compile.Run) : Reply :=
  ⟨((ofRun r).run (promptly r.phases.length)).frames, 1000, []⟩

end Session

end Stencil
