import HubLink.Bench.Receiver
import HubLink.Client.Request
import HubLink.Proofs.Connection.Horizon

/-! # Durations of any length

Callers, settings and the hub name durations of any length, and each becomes an instant somewhere
(`Places`): the deadline of a submission, the time at which a message is sent again, because its
confirmation is missing or because it failed, the time to connect again and the time to renew the
token. All of them go through `deadlineAfter`, so while the clock has a year left each is an instant
the clock can show, at most a year ahead and no earlier for a longer duration, and a worker never
wants to be woken later. Only the wait of an upload receiver is a plain sum, which runs past the end
of the clock (`absorbsDurations_of_room`). -/

namespace HubLink

open Duration (year)

/-- The deadline a command comes with. -/
def Command.deadline? : Command → Option Nat
  | .submit _ _ deadline => some deadline
  | .open _ | .close _ | .cancel _ | .settle _ => none

/-- **What a duration becomes** at an instant, on each of the ways it may take to a worker. -/
inductive Places (now : Nat) : (d : Nat) → (due : Option Nat) → Prop
  /-- A caller gives a message so much time. -/
  | submission (c : Client) (token : Nat) (kind : MessageKind) (message : Message) (timeout : Nat)
      (reading : Reading) :
      Places now timeout
        ((c.command now token (.deliver kind message (some timeout) reading)).2.bind
          fun issued => issued.1.deadline?)
  /-- A caller leaves it to the settings how much time a message has. -/
  | operation (c : Client) (token : Nat) (kind : MessageKind) (message : Message)
      (reading : Reading) :
      Places now c.operationTime
        ((c.command now token (.deliver kind message none reading)).2.bind
          fun issued => issued.1.deadline?)
  /-- A message was handed over and is to be confirmed. -/
  | confirmation (m : Tracked) (ackTimeout : Nat) :
      Places now ackTimeout ((m.handOver now).resendAt ackTimeout)
  /-- A message failed and is to be sent again. -/
  | retry {t : DeliveryTracker} {policy : RetryPolicy} {id after : Nat} {fault : Fault} {m : Tracked}
      (tracked : t.message? id = some m)
      (again : policy.decide fault.kind m.message.retryCount = .retry after) :
      Places now after
        (((t.sendFailed policy id fault now).state.message? id).bind (·.retryAt))
  /-- The link failed and is to connect again. -/
  | reconnect {w : Worker} {after : Nat} {fault : Fault}
      (again : w.terms.policy.decide fault.kind w.attempt = .retry after) :
      Places now after (w.planReconnect now fault).worker.reconnectAt
  /-- The link connected with a token that is to be renewed. -/
  | renewal {w : Worker} {d : Nat} (renewable : w.terms.renewal = some d) (reason : StatusReason) :
      Places now d (w.connectionUp now reason).worker.renewAt

/-- **All ways go through the one helper.** -/
theorem Places.due_eq {now d : Nat} {due : Option Nat} (h : Places now d due) :
    due = some (deadlineAfter now d) := by
  cases h with
  | submission | operation => rfl
  | confirmation m ackTimeout => rfl
  | retry tracked again =>
    rw [DeliveryTracker.message?] at tracked
    simp only [DeliveryTracker.sendFailed, tracked, again]
    rw [DeliveryTracker.message?_insert, if_pos rfl]
    rfl
  | reconnect again => rw [Worker.planReconnect, again]
  | renewal renewable reason =>
    rw [Worker.connectionUp_eq, Turn.andThen_worker, Worker.enter_worker]
    simp only [Worker.answerWaiters, renewable, Option.map_some]

/-- A hub that is busy and says when to come back is believed, whatever it says. -/
theorem RetryPolicy.eq_hint_of_decide {policy : RetryPolicy} {hint n after : Nat}
    (h : policy.decide (.throttled (some hint)) n = .retry after) : after = hint := by
  rw [decide, Curve.decide] at h
  split at h
  · cases h
  · exact (Decision.retry.inj h).symm

/-- **A submission bears the deadline that a client gave it** no later than an instant. -/
def Input.IsIssued (now : Nat) (input : Input) : Prop :=
  ∀ message completion deadline, input = .command (.submit message completion deadline) →
    ∃ (c : Client) (token : Nat) (request : Request) (given : Nat) (id : Option Nat), given ≤ now ∧
      (c.command given token request).2 = some (.submit message completion deadline, id)

/-- Clients give no message more than a year. -/
theorem Input.IsIssued.withinYear {now : Nat} {input : Input} (h : input.IsIssued now) :
    input.WithinYear now := by
  intro message completion deadline heq
  obtain ⟨c, token, request, given, id, hgiven, hcommand⟩ := h message completion deadline heq
  cases request with
  | deliver kind message timeout reading =>
    simp only [Client.command, Option.some.injEq, Prod.mk.injEq, Command.submit.injEq] at hcommand
    obtain ⟨⟨-, -, rfl⟩, -⟩ := hcommand
    exact (deadlineAfter_le given _).trans (Nat.add_le_add_right hgiven _)
  | _ => simp [Client.command] at hcommand

/-! ## Workers -/

/-- A worker never wants to be woken past the end of the clock. -/
theorem Worker.nextWake_le_last {now : Nat} (room : now + year ≤ Instant.last) (terms : Terms)
    {inputs : List (Nat × Input)} (hinputs : ∀ i ∈ inputs, i.1 ≤ now ∧ i.2.IsIssued now) {t : Nat}
    (ht : ((Worker.new terms).after inputs).nextWake = some t) :
    t ≤ now + year ∧ t ≤ Instant.last := by
  have hyear : ∀ i ∈ inputs, i.1 ≤ now ∧ i.2.WithinYear now := fun i hi =>
    ⟨(hinputs i hi).1, (hinputs i hi).2.withinYear⟩
  have hle : t ≤ now + year := (withinYear_of_run terms hyear).nextWake ht
  exact ⟨hle, hle.trans room⟩

/-! ## Receivers -/

/-- **A receiver aborts exactly if it is open and its wait ends after the last instant.** -/
theorem Bench.ReceiverBench.receive_eq_none_iff (b : ReceiverBench) (timeout : Nat) :
    b.receive timeout = none ↔
      b.receiver.isOpen = true ∧ Instant.last < b.now + timeout := by
  rw [receive]
  split
  · rename_i hopen
    rw [Option.map_eq_none_iff, UploadReceiver.deadline?, Instant.after?_eq_none_iff]
    exact ⟨fun hlate => ⟨hopen, hlate⟩, And.right⟩
  · rename_i hclosed
    exact ⟨fun h => (nomatch h), fun ⟨hopen, _⟩ => absurd hopen hclosed⟩

/-! ## Durations of any length -/

/-- **How an instant deals with durations of any length.** -/
structure AbsorbsDurations (now : Nat) : Prop where
  /-- What a duration becomes on its way to a worker is an instant that the clock shows, no more than
  a year ahead. -/
  placed : ∀ d due, Places now d due → ∃ t, due = some t ∧
    Instant.after? now (min d year) = some t ∧ now ≤ t ∧ t ≤ now + year
  /-- A longer duration becomes no earlier instant, not even on another way. -/
  monotone : ∀ d e t u, Places now d (some t) → Places now e (some u) → d ≤ e → t ≤ u
  /-- The wait that a busy hub asks for is one of these durations. -/
  hinted : ∀ (policy : RetryPolicy) (hint n after : Nat),
    policy.decide (.throttled (some hint)) n = .retry after → after = hint
  /-- Whatever came to a worker by now, it wants to be woken while the clock runs. -/
  woken : ∀ (terms : Terms) (inputs : List (Nat × Input)),
    (∀ i ∈ inputs, i.1 ≤ now ∧ i.2.IsIssued now) →
      ∀ t, ((Worker.new terms).after inputs).nextWake = some t → t ≤ now + year ∧ t ≤ Instant.last
  /-- But a receiver that is open aborts exactly if its wait ends past the end of the clock. -/
  awaited : ∀ (b : Bench.ReceiverBench) (timeout : Nat), b.now = now →
    (b.receive timeout = none ↔ b.receiver.isOpen = true ∧ Instant.last < now + timeout)
  /-- Its wait ends within a year exactly if it was no longer. -/
  awaitedWithin : ∀ timeout t, UploadReceiver.deadline? now timeout = some t →
    (t ≤ now + year ↔ timeout ≤ year)

/-- **While the clock has a year left, durations of any length become instants within the year**, on
all ways but the wait of a receiver, which is a plain sum. -/
theorem absorbsDurations_of_room {now : Nat} (room : now + year ≤ Instant.last) :
    AbsorbsDurations now where
  placed d due h :=
    ⟨deadlineAfter now d, h.due_eq, after?_min_year room d, le_deadlineAfter now d,
      deadlineAfter_le now d⟩
  monotone d e t u hd he hle := by
    rw [Option.some.inj hd.due_eq, Option.some.inj he.due_eq]
    exact deadlineAfter_mono now hle
  hinted policy hint n after h := RetryPolicy.eq_hint_of_decide h
  woken terms inputs hinputs t ht := Worker.nextWake_le_last room terms hinputs ht
  awaited b timeout hnow := hnow ▸ b.receive_eq_none_iff timeout
  awaitedWithin timeout t h := by
    obtain ⟨rfl, -⟩ := Instant.after?_eq_some_iff.1 h
    exact Nat.add_le_add_iff_left

/-- The last instant at which there is a year left. -/
theorem absorbsDurations_yearLeft :
    Instant.last - year + year ≤ Instant.last ∧ AbsorbsDurations (Instant.last - year) :=
  ⟨by decide, absorbsDurations_of_room (by decide)⟩

/-- Not every wait of an open receiver is absorbed while there is a year left: one of the greatest
duration aborts, at the very start of the clock. -/
theorem not_absorbed_of_greatest :
    ¬∀ (b : Bench.ReceiverBench) (timeout : Nat), b.now + year ≤ Instant.last →
      timeout ≤ Duration.greatest → b.receiver.isOpen = true →
        (b.receive timeout).isSome = true := by
  intro h
  have hopen := h { receiver := { isOpen := true }, complaint := fun _ => "no news of an upload" }
    Duration.greatest (by decide) (by decide) rfl
  exact absurd hopen (by decide)

end HubLink
