import HubLink.Upload.Records

/-! # Upload receivers

A receiver of the news that devices finished uploads, on a link of its own. A piece of news is
settled only when it was read: completed when it could be, rejected when it could not, so one whose
receiver fails in between is delivered again. -/

namespace HubLink

/-- A call to the link of a receiver. -/
inductive ReceiverCall where
  /-- Connect. -/
  | connect
  /-- Settle a piece of news. -/
  | settle (tag : DeliveryTag) (disposition : Disposition)
  /-- Close. -/
  | close
  deriving DecidableEq, Repr

/-- A receiver of upload news. -/
structure UploadReceiver where
  /-- Whether it is connected, as far as it knows. -/
  isOpen : Bool := false
  deriving DecidableEq, Repr

/-- How a receiver takes an event. -/
inductive Verdict where
  /-- It has nothing to do with it. -/
  | skip
  /-- It is a piece of news. -/
  | news (n : Notification)
  /-- The link is gone. -/
  | lost (fault : Fault)
  deriving DecidableEq

namespace UploadReceiver

/-- The time to wait for news unless another is given. -/
def standardTimeout : Nat := Duration.ofSeconds 60

/-- When a wait that starts at an instant ends; it aborts if that is past the end of the clock. -/
def deadline? (now timeout : Nat) : Option Nat := Instant.after? now timeout

/-- The call that opening makes. -/
def openCall (r : UploadReceiver) : Option ReceiverCall :=
  if r.isOpen then none else some .connect

/-- The receiver after opening, where connecting had a result. -/
def opened (r : UploadReceiver) (result : Except Fault Unit) :
    UploadReceiver × Except Fault Unit :=
  if r.isOpen then (r, .ok ())
  else
    match result with
    | .ok () => ({ isOpen := true }, .ok ())
    | .error fault => (r, .error fault)

/-- The call that closing makes. -/
def closeCall (r : UploadReceiver) : Option ReceiverCall :=
  if r.isOpen then some .close else none

/-- The receiver after closing, where closing the link had a result. -/
def closed (r : UploadReceiver) (result : Except Fault Unit) :
    UploadReceiver × Except Fault Unit :=
  if r.isOpen then ({ isOpen := false }, result) else (r, .ok ())

/-- How an event is taken. -/
def judge : Except Fault LinkEvent → Verdict
  | .ok (.notification n) => if n.kind = .upload then .news n else .skip
  | .ok (.disconnected fault) | .error fault => .lost fault
  | .ok (.acknowledged ..) | .ok (.rejected ..) => .skip

/-- The call that settles a piece of news, if it can be settled. -/
def settleCall (n : Notification) : Option (DeliveryTag × Disposition) :=
  n.tag.map fun tag =>
    (tag, if (UploadNotification.parse? n.message.body).isSome then .complete else .reject)

/-- What a receiver makes of a piece of news, where settling it had a result and there are
complaints about texts that cannot be read. -/
def accept (n : Notification) (settled : Except Fault Unit) (complaint : List UInt8 → String) :
    Except Fault UploadNotification :=
  let parsed := readOr UploadNotification.parse? complaint n.message.body
  match n.tag with
  | some _ => settled.bind fun () => parsed
  | none => parsed

/-- The first event that matters among those that have arrived, and the events after it. -/
def pick : List (Except Fault LinkEvent) → Verdict × List (Except Fault LinkEvent)
  | [] => (.skip, [])
  | e :: rest =>
    match judge e with
    | .skip => pick rest
    | verdict => (verdict, rest)

/-- The receiver after an event. -/
def after (r : UploadReceiver) : Verdict → UploadReceiver
  | .lost _ => { isOpen := false }
  | .skip | .news _ => r

end UploadReceiver

end HubLink
