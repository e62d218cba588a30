import HubLink.Client.Request

/-! # Clones of a client

Calls of several callers that submit messages through clones of one client. The clones share the ids
and the way to the worker, and a call is made in two steps, between which other calls may make
theirs: it draws the id of its message, and it puts its command on the way to the worker. -/

namespace HubLink

/-- The id of the message that a command submits. -/
def Command.id? : Command → Option Nat
  | .submit message _ _ => some message.id
  | .open _ | .close _ | .cancel _ | .settle _ => none

/-- The command of a call, with who calls. -/
structure Call where
  /-- Who calls. -/
  caller : Nat
  /-- What is sent to the worker. -/
  command : Command
  deriving DecidableEq

/-- A step of a call. -/
inductive CallStep where
  /-- A caller in no call begins one to submit a message under a completion at an instant,
  within a time, if one is given, and draws the id of the message. -/
  | draw (caller now completion : Nat) (kind : MessageKind) (message : Message)
      (timeout : Option Nat)
  /-- The caller of a call puts the command on the way to the worker. -/
  | queue (caller : Nat)

/-- What clones of a client share. -/
structure Clones where
  /-- The client. -/
  client : Client
  /-- The calls that have drawn an id and put no command on the way yet, in the order of drawing. -/
  drawn : List Call := []
  /-- The calls whose commands are on the way to the worker, in order. -/
  inbox : List Call := []

namespace Clones

/-- Whether someone is in a call. -/
def isCalling (s : Clones) (caller : Nat) : Bool := s.drawn.any (·.caller = caller)

/-- The clones after a step of a call. -/
def step (s : Clones) : CallStep → Clones
  | .draw caller now completion kind message timeout =>
    if s.isCalling caller then s
    else
      let (client, command) :=
        s.client.command now completion (.deliver kind message timeout .delivered)
      { s with client, drawn := s.drawn ++ command.toList.map fun c => ⟨caller, c.1⟩ }
  | .queue caller =>
    { s with
      drawn := s.drawn.filter (·.caller ≠ caller)
      inbox := s.inbox ++ s.drawn.filter (·.caller = caller) }

/-- The clones after steps of calls. -/
def after (s : Clones) (steps : List CallStep) : Clones := steps.foldl step s

end Clones

end HubLink
