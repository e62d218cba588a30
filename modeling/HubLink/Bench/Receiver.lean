import HubLink.Bench.Link
import HubLink.Upload.Receiver

/-! # The receiver bench

An upload receiver on a scripted link. Nothing but the receiver's own waiting moves the clock. -/

namespace HubLink.Bench

/-- The bench. -/
structure ReceiverBench where
  /-- The clock. -/
  now : Nat := 0
  /-- The receiver. -/
  receiver : UploadReceiver := {}
  /-- The link. -/
  link : ScriptedLink := {}
  /-- What is said of news that cannot be read. -/
  complaint : List UInt8 → String

namespace ReceiverBench

/-- Connect the link, which takes its time. -/
def connect (b : ReceiverBench) : ReceiverBench × Except Fault Unit :=
  let (link, result) := (b.link.record b.now .connect).connected
  ({ b with link, now := b.now + b.link.connectDelay }, result)

/-- Open the receiver. -/
def openUp (b : ReceiverBench) : ReceiverBench × Except Fault Unit :=
  let (b, result) :=
    match b.receiver.openCall with
    | some _ => b.connect
    | none => (b, .ok ())
  let (receiver, result) := b.receiver.opened result
  ({ b with receiver }, result)

/-- Close the receiver. -/
def closeDown (b : ReceiverBench) : ReceiverBench × Except Fault Unit :=
  let (link, result) :=
    match b.receiver.closeCall with
    | some _ => b.link.close b.now
    | none => (b.link, .ok ())
  let (receiver, result) := b.receiver.closed result
  ({ b with receiver, link }, result)

/-- Settle a piece of news over the link and read it. -/
def accept (b : ReceiverBench) (n : Notification) :
    ReceiverBench × Except Fault UploadNotification :=
  let (link, settled) :=
    match UploadReceiver.settleCall n with
    | some (tag, disposition) => b.link.settle b.now tag disposition
    | none => (b.link, .ok ())
  ({ b with link }, UploadReceiver.accept n settled b.complaint)

/-- Wait for news until a deadline. When nothing that matters has arrived, nothing will. -/
def receiveUntil (b : ReceiverBench) (deadline : Nat) :
    ReceiverBench × Except Fault (Option UploadNotification) :=
  let (verdict, events) := UploadReceiver.pick b.link.events
  let b := { b with link := { b.link with events }, receiver := b.receiver.after verdict }
  match verdict with
  | .skip => ({ b with now := deadline }, .ok none)
  | .lost fault => (b, .error fault)
  | .news n =>
    let (b, result) := b.accept n
    (b, result.map some)

/-- Wait for news, unless waiting so long aborts the program. -/
def receive (b : ReceiverBench) (timeout : Nat) :
    Option (ReceiverBench × Except Fault (Option UploadNotification)) :=
  if b.receiver.isOpen then
    (UploadReceiver.deadline? b.now timeout).map b.receiveUntil
  else some (b, .error .closed)

end ReceiverBench

end HubLink.Bench
