import HubLink.Collection.Transcript
import HubLink.Proofs.Delivery.Reading

/-! # Requests to a tracker

A tracker keeps its messages and the operations that wait for them in two maps, which go together as
long as it is coherent. So it may be read as one map of *deliveries*, a message with the operation
that waits for it, and a request about one message acts on the delivery of its id alone
(`DeliveryTracker.handle_eq`). What is asked of a tracker besides, to expire or to fail everything,
ends deliveries and changes none. A tracker is coherent after all requests
(`DeliveryTracker.coherent_ofRequests`). -/

namespace HubLink

/-- A message on its way, with the operation that waits for it. -/
structure Delivery where
  /-- The message. -/
  tracked : Tracked
  /-- The operation. -/
  waits : PendingCorrelation

/-- The delivery whose message is to be sent again at an instant. -/
def Delivery.planned (d : Delivery) (due : Nat) : Delivery where
  tracked := { d.tracked with retryAt := some due }
  waits := d.waits

/-! ## Requests about one message -/

/-- What may be asked of a tracker about one message. -/
inductive MessageRequest where
  /-- To take it on, with who waits for its end and until when. -/
  | submit (message : Outbound) (completion deadline : Nat)
  /-- To note that it is handed to a link. -/
  | markSent (id now : Nat)
  /-- To end it, since the hub confirmed it. -/
  | acknowledge (id : Nat) (response : Option Response)
  /-- To decide by a policy what becomes of it after it could not be sent. -/
  | sendFailed (policy : RetryPolicy) (id : Nat) (fault : Fault) (now : Nat)
  /-- To end it, since it failed for good. -/
  | fail (id : Nat) (fault : Fault)
  /-- To end it, since the caller gave it up. -/
  | cancel (id : Nat)

/-- What a tracker answers to a request about one message. -/
inductive MessageReply where
  /-- Whether the message was taken on. -/
  | taken (result : Except Fault Unit)
  /-- The message to hand to the link. -/
  | handed (message : Option Outbound)
  /-- Whether there was a message to end. -/
  | ended (found : Bool)
  /-- What became of the message. -/
  | judged (state : Option DeliveryState)

/-- The same change, told in other words. -/
def Change.map {σ α β : Type} (c : Change σ α) (f : α → β) : Change σ β where
  state := c.state
  value := f c.value
  resolved := c.resolved

/-- End the delivery of an id, if there is one. -/
def Delivery.finish? (id : Nat) (outcome : Except Fault (Option Response)) :
    Option Delivery → Change (Option Delivery) MessageReply
  | some d => { state := none, value := .ended true, resolved := [d.waits.resolve id outcome] }
  | none => { state := none, value := .ended false }

namespace MessageRequest

/-- The id of the message that a request is about. -/
def id : MessageRequest → Nat
  | .submit message _ _ => message.id
  | .markSent id _ | .acknowledge id _ | .sendFailed _ id _ _ | .fail id _ | .cancel id => id

/-- **What a request makes of the delivery of its id**, with the answer and what ends. -/
def act : MessageRequest → Option Delivery → Change (Option Delivery) MessageReply
  | .submit message completion deadline, none =>
    { state := some ⟨{ message }, ⟨completion, deadline⟩⟩, value := .taken (.ok ()) }
  | .submit message completion _, some d =>
    { state := some d, value := .taken (.error (.duplicateId message.id))
      resolved := [⟨completion, .error (.duplicateId message.id)⟩] }
  | .markSent _ now, some d =>
    { state := some { d with tracked := d.tracked.handOver now }
      value := .handed (some (d.tracked.handOver now).message) }
  | .markSent _ _, none => { state := none, value := .handed none }
  | .acknowledge id response, d => Delivery.finish? id (.ok response) d
  | .sendFailed policy id fault now, some d =>
    match policy.decide fault.kind d.tracked.message.retryCount with
    | .giveUp =>
      { state := none, value := .judged (some .failed)
        resolved := [d.waits.resolve id (.error fault)] }
    | .retry delay =>
      { state := some (d.planned (deadlineAfter now delay)), value := .judged (some .sent) }
  | .sendFailed _ _ _ _, none => { state := none, value := .judged none }
  | .fail id fault, d => Delivery.finish? id (.error fault) d
  | .cancel id, d => Delivery.finish? id (.error .cancelled) d

/-- A request files the message of its id under its own id. -/
theorem filed_act {r : MessageRequest} {d : Option Delivery}
    (hd : ∀ x, d = some x → x.tracked.message.id = r.id) {x : Delivery}
    (hx : (r.act d).state = some x) : x.tracked.message.id = r.id := by
  cases r with
  | submit message completion deadline =>
    cases d with
    | none =>
      obtain rfl := Option.some.inj hx
      rfl
    | some d => exact hd x hx
  | markSent id now =>
    cases d with
    | none => cases hx
    | some d =>
      obtain rfl := Option.some.inj hx
      exact hd d rfl
  | sendFailed policy id fault now =>
    cases d with
    | none => cases hx
    | some d =>
      rw [act] at hx
      split at hx
      · cases hx
      · obtain rfl := Option.some.inj hx
        exact hd d rfl
  | acknowledge | fail | cancel => cases d <;> cases hx

end MessageRequest

namespace DeliveryTracker

variable {t : DeliveryTracker} {id k : Nat}

/-! ## Deliveries -/

/-- The delivery of an id. -/
def delivery? (t : DeliveryTracker) (id : Nat) : Option Delivery :=
  match t.message? id, t.pending? id with
  | some tracked, some waits => some { tracked, waits }
  | _, _ => none

theorem delivery?_eq_some_iff {d : Delivery} : t.delivery? id = some d ↔
    t.message? id = some d.tracked ∧ t.pending? id = some d.waits := by
  rw [delivery?]
  constructor
  · intro h
    split at h
    · rename_i hm hp
      obtain rfl := Option.some.inj h
      exact ⟨hm, hp⟩
    · cases h
  · rintro ⟨hm, hp⟩
    rw [hm, hp]

/-- Make this the delivery of an id. -/
def put (t : DeliveryTracker) (id : Nat) (d : Option Delivery) : DeliveryTracker where
  messages := t.messages.alter id (d.map (·.tracked))
  registry := ⟨t.registry.pending.alter id (d.map (·.waits))⟩

namespace Coherent

variable (ht : t.Coherent)
include ht

theorem message?_eq (id : Nat) : t.message? id = (t.delivery? id).map (·.tracked) := by
  cases hm : t.message? id with
  | none => simp [delivery?, hm]
  | some m =>
    obtain ⟨p, hp⟩ := ht.pending_of_message hm
    simp [delivery?, hm, hp]

theorem pending?_eq (id : Nat) : t.pending? id = (t.delivery? id).map (·.waits) := by
  cases hp : t.pending? id with
  | none => simp [delivery?, hp]
  | some p =>
    obtain ⟨m, hm⟩ := ht.message_of_pending hp
    simp [delivery?, hm, hp]

theorem state?_eq (id : Nat) : t.state? id = (t.delivery? id).map (·.tracked.message.state) := by
  rw [state?, show t.messages.get? id = _ from ht.message?_eq id, Option.map_map]
  rfl

/-- An id is under way exactly if it has a delivery. -/
theorem mem_outstanding_iff : id ∈ t.outstanding ↔ ∃ d, t.delivery? id = some d := by
  rw [mem_outstanding, ht.message?_eq, Option.isSome_map, Option.isSome_iff_exists]

theorem notMem_outstanding_iff : id ∉ t.outstanding ↔ t.delivery? id = none := by
  rw [ht.mem_outstanding_iff, not_exists, Option.eq_none_iff_forall_ne_some]

/-- The message of a delivery has its id. -/
theorem id_of_delivery {d : Delivery} (hd : t.delivery? id = some d) :
    d.tracked.message.id = id :=
  ht.filed id d.tracked (delivery?_eq_some_iff.1 hd).1

end Coherent

theorem message?_put (t : DeliveryTracker) (id : Nat) (d : Option Delivery) (k : Nat) :
    (t.put id d).message? k = if k = id then d.map (·.tracked) else t.message? k :=
  SortedMap.get?_alter ..

theorem pending?_put (t : DeliveryTracker) (id : Nat) (d : Option Delivery) (k : Nat) :
    (t.put id d).pending? k = if k = id then d.map (·.waits) else t.pending? k :=
  SortedMap.get?_alter ..

/-- Reading a delivery after one was put sees that one at its id and the old ones elsewhere. -/
theorem delivery?_put (t : DeliveryTracker) (id : Nat) (d : Option Delivery) (k : Nat) :
    (t.put id d).delivery? k = if k = id then d else t.delivery? k := by
  rw [delivery?, message?_put, pending?_put]
  by_cases h : k = id
  · simp only [if_pos h]
    cases d <;> rfl
  · simp only [if_neg h]
    rfl

/-- What is there may be put again. -/
theorem Coherent.put_self (ht : t.Coherent) (id : Nat) : t.put id (t.delivery? id) = t := by
  rw [DeliveryTracker.put, ← ht.message?_eq, ← ht.pending?_eq]
  exact congrArg₂ (fun m p => DeliveryTracker.mk m ⟨p⟩) (SortedMap.alter_self _ id)
    (SortedMap.alter_self _ id)

/-- Nothing changes where nothing is put and nothing was. -/
theorem Coherent.put_none (ht : t.Coherent) (hd : t.delivery? id = none) : t.put id none = t := by
  rw [← hd]
  exact ht.put_self id

/-- **Deliveries of different ids may be put in either order.** -/
theorem put_comm (t : DeliveryTracker) {id id' : Nat} (h : id ≠ id') (d d' : Option Delivery) :
    (t.put id d).put id' d' = (t.put id' d').put id d :=
  congrArg₂ (fun m p => DeliveryTracker.mk m ⟨p⟩) (SortedMap.alter_comm _ h ..)
    (SortedMap.alter_comm _ h ..)

/-- A message that changes while the same operation waits for it. -/
theorem put_of_pending {p : PendingCorrelation} (hp : t.pending? id = some p) (m : Tracked) :
    t.put id (some ⟨m, p⟩) = { t with messages := t.messages.insert id m } := by
  have hsame : t.registry.pending.alter id (some p) = t.registry.pending := by
    rw [← hp]
    exact SortedMap.alter_self _ id
  exact congrArg (fun p => DeliveryTracker.mk (t.messages.insert id m) ⟨p⟩) hsame

/-- A tracker stays coherent when a message is put under its own id. -/
theorem Coherent.put (ht : t.Coherent) {d : Option Delivery}
    (hd : ∀ x, d = some x → x.tracked.message.id = id) : (t.put id d).Coherent where
  paired k := by
    rw [message?_put, pending?_put]
    split
    · rw [Option.isSome_map, Option.isSome_map]
    · exact ht.paired k
  filed k m hm := by
    rw [message?_put] at hm
    split at hm
    · rename_i hk
      obtain ⟨x, hx, rfl⟩ := Option.map_eq_some_iff.1 hm
      exact (hd x hx).trans hk.symm
    · exact ht.filed k m hm

/-! ## What requests do -/

/-- Do what is asked about one message. -/
def handle (t : DeliveryTracker) : MessageRequest → Change DeliveryTracker MessageReply
  | .submit message completion deadline => (t.submit message completion deadline).map .taken
  | .markSent id now =>
    { state := (t.markSent id now).1, value := .handed (t.markSent id now).2 }
  | .acknowledge id response => (t.acknowledge id response).map .ended
  | .sendFailed policy id fault now => (t.sendFailed policy id fault now).map .judged
  | .fail id fault => (t.fail id fault).map .ended
  | .cancel id => (t.cancel id).map .ended

/-- A change of the delivery of an id as a change of the tracker. -/
def change (t : DeliveryTracker) (id : Nat) (c : Change (Option Delivery) MessageReply) :
    Change DeliveryTracker MessageReply where
  state := t.put id c.state
  value := c.value
  resolved := c.resolved

/-- Ending a message ends its delivery. -/
theorem Coherent.finish_eq_change (ht : t.Coherent) (id : Nat)
    (outcome : Except Fault (Option Response)) :
    (t.finish id outcome).map .ended =
      t.change id (Delivery.finish? id outcome (t.delivery? id)) := by
  obtain ⟨hnone, heq⟩ | ⟨p, hp, heq⟩ := finish_eq ht id outcome
  · have hd : t.delivery? id = none := by simp [delivery?, hnone]
    simp only [heq, hd, Delivery.finish?, change, ht.put_none hd]
    rfl
  · obtain ⟨m, hm⟩ := ht.message_of_pending hp
    have hd : t.delivery? id = some ⟨m, p⟩ := delivery?_eq_some_iff.2 ⟨hm, hp⟩
    rw [heq, hd]
    rfl

/-- A failed send of an id without a delivery changes nothing. Otherwise it ends the delivery, or
sets an instant for its message, as the policy decides. -/
theorem sendFailed_cases (ht : t.Coherent) (policy : RetryPolicy) (id : Nat) (fault : Fault)
    (now : Nat) :
    (t.delivery? id = none ∧
        t.sendFailed policy id fault now = { state := t, value := none }) ∨
      (∃ d, t.delivery? id = some d ∧
        policy.decide fault.kind d.tracked.message.retryCount = .giveUp ∧
        t.sendFailed policy id fault now =
          { state := t.put id none, value := some .failed
            resolved := [d.waits.resolve id (.error fault)] }) ∨
      ∃ d delay, t.delivery? id = some d ∧
        policy.decide fault.kind d.tracked.message.retryCount = .retry delay ∧
        t.sendFailed policy id fault now =
          { state := t.put id (some (d.planned (deadlineAfter now delay)))
            value := some .sent } := by
  have hmessage : t.messages.get? id = (t.delivery? id).map (·.tracked) := ht.message?_eq id
  have hpending := ht.pending?_eq id
  cases hd : t.delivery? id with
  | none =>
    rw [hd] at hmessage
    exact .inl ⟨rfl, by simp only [sendFailed, hmessage, Option.map_none]⟩
  | some d =>
    rw [hd] at hmessage hpending
    cases hdecide : policy.decide fault.kind d.tracked.message.retryCount with
    | giveUp =>
      exact .inr (.inl ⟨d, rfl, hdecide, sendFailed_of_giveUp ht hmessage hpending hdecide now⟩)
    | retry delay =>
      refine .inr (.inr ⟨d, delay, rfl, hdecide, ?_⟩)
      simp only [sendFailed, hmessage, Option.map_some, hdecide]
      rw [Delivery.planned, put_of_pending hpending]

/-- **A request about one message acts on the delivery of its id alone.** -/
theorem handle_eq (ht : t.Coherent) (r : MessageRequest) :
    t.handle r = t.change r.id (r.act (t.delivery? r.id)) := by
  cases r with
  | submit message completion deadline =>
    simp only [handle, MessageRequest.id]
    obtain ⟨hsome, heq⟩ | ⟨hnone, heq⟩ := submit_eq t message completion deadline
    · rw [ht.pending?_eq, Option.isSome_map, Option.isSome_iff_exists] at hsome
      obtain ⟨d, hd⟩ := hsome
      have hput := ht.put_self message.id
      rw [hd] at hput
      simp only [heq, hd, MessageRequest.act, change, hput]
      rfl
    · rw [ht.pending?_eq, Option.map_eq_none_iff] at hnone
      rw [heq, hnone]
      rfl
  | markSent id now =>
    simp only [handle, MessageRequest.id]
    have hmessage : t.messages.get? id = (t.delivery? id).map (·.tracked) := ht.message?_eq id
    have hpending := ht.pending?_eq id
    cases hd : t.delivery? id with
    | none =>
      rw [hd] at hmessage
      simp only [markSent, hmessage, Option.map_none, MessageRequest.act, change, ht.put_none hd]
    | some d =>
      rw [hd] at hmessage hpending
      simp only [markSent, hmessage, Option.map_some, MessageRequest.act, change]
      rw [put_of_pending hpending]
  | sendFailed policy id fault now =>
    simp only [handle, MessageRequest.id]
    obtain ⟨hd, heq⟩ | ⟨d, hd, hdecide, heq⟩ | ⟨d, delay, hd, hdecide, heq⟩ :=
      sendFailed_cases ht policy id fault now
    · simp only [heq, hd, MessageRequest.act, change, ht.put_none hd]
      rfl
    · simp only [heq, hd, MessageRequest.act, hdecide]
      rfl
    · simp only [heq, hd, MessageRequest.act, hdecide]
      rfl
  | acknowledge id response => exact ht.finish_eq_change id (.ok response)
  | fail id fault => exact ht.finish_eq_change id (.error fault)
  | cancel id => exact ht.finish_eq_change id (.error .cancelled)

/-- What a request about one message leaves behind: the delivery of its id, and the others as they
were. -/
theorem delivery?_handle (ht : t.Coherent) (r : MessageRequest) (k : Nat) :
    (t.handle r).state.delivery? k =
      if k = r.id then (r.act (t.delivery? k)).state else t.delivery? k := by
  rw [handle_eq ht]
  show (t.put r.id _).delivery? k = _
  rw [delivery?_put]
  split
  · rename_i h
    rw [h]
  · rfl

/-- A request about one message keeps a tracker coherent. -/
theorem Coherent.handle (ht : t.Coherent) (r : MessageRequest) : (t.handle r).state.Coherent := by
  rw [handle_eq ht]
  exact ht.put fun x hx => MessageRequest.filed_act (fun d hd => ht.id_of_delivery hd) hx

/-! ## Requests one after the other -/

end DeliveryTracker

/-- What may be asked of a tracker. -/
inductive TrackerRequest where
  /-- Something about one message. -/
  | about (r : MessageRequest)
  /-- To end the messages whose deadline has passed. -/
  | expire (now : Nat)
  /-- To end all messages with a fault. -/
  | failAll (fault : Fault)

/-- Whether a request is about the message of an id. Requests that end messages by their deadlines
or all of them are about none. -/
def TrackerRequest.isAbout (r : TrackerRequest) (id : Nat) : Bool :=
  match r with
  | .about r => r.id = id
  | .expire _ | .failAll _ => false

/-- What a request leaves of the delivery of an id. -/
def TrackerRequest.leaves (r : TrackerRequest) (id : Nat) (d : Option Delivery) : Option Delivery :=
  match r with
  | .about r => if r.id = id then (r.act d).state else d
  | .expire now => d.filter fun d => !d.waits.isExpired now
  | .failAll _ => none

namespace DeliveryTracker

variable {t : DeliveryTracker} {id : Nat}

/-- The tracker after a request. -/
def next (t : DeliveryTracker) : TrackerRequest → DeliveryTracker
  | .about r => (t.handle r).state
  | .expire now => (t.expire now).state
  | .failAll fault => (t.failAll fault).state

/-- The operations that end on a request. -/
def ends (t : DeliveryTracker) : TrackerRequest → List Resolution
  | .about r => (t.handle r).resolved
  | .expire now => (t.expire now).resolved
  | .failAll fault => (t.failAll fault).resolved

/-- The tracker after requests. -/
def after (t : DeliveryTracker) (requests : List TrackerRequest) : DeliveryTracker :=
  requests.foldl next t

/-- The operations that end on requests, in order. -/
def endings (t : DeliveryTracker) (requests : List TrackerRequest) : List Resolution :=
  transcript next ends t requests

/-- The tracker that is made by requests. -/
def ofRequests (requests : List TrackerRequest) : DeliveryTracker := empty.after requests

theorem ofRequests_concat (requests : List TrackerRequest) (r : TrackerRequest) :
    ofRequests (requests ++ [r]) = (ofRequests requests).next r :=
  List.foldl_append

/-- What is left of a delivery when the overdue ones end. -/
theorem delivery?_expire (ht : t.Coherent) (now id : Nat) :
    (t.expire now).state.delivery? id =
      (t.delivery? id).filter fun d => !d.waits.isExpired now := by
  have hoverdue : id ∈ (t.overdue now).map (·.1) ↔
      ∃ d, t.delivery? id = some d ∧ d.waits.isExpired now = true := by
    rw [mem_overdue_ids, ht.pending?_eq]
    simp
  rw [expire_eq, delivery?, message?_retireAll, pending?_retireAll]
  by_cases hmem : id ∈ (t.overdue now).map (·.1)
  · obtain ⟨d, hd, hexpired⟩ := hoverdue.1 hmem
    simp [Option.filter, hmem, hd, hexpired]
  · simp only [if_neg hmem]
    show t.delivery? id = _
    cases hd : t.delivery? id with
    | none => rfl
    | some d =>
      have hwaits : d.waits.isExpired now = false := by
        rw [← Bool.not_eq_true]
        intro hexpired
        exact hmem (hoverdue.2 ⟨d, hd, hexpired⟩)
      simp [Option.filter, hwaits]

/-- **A delivery after a request** is what the request leaves of it. -/
theorem delivery?_next (ht : t.Coherent) (r : TrackerRequest) (id : Nat) :
    (t.next r).delivery? id = r.leaves id (t.delivery? id) := by
  cases r with
  | about r =>
    show (t.handle r).state.delivery? id = _
    rw [delivery?_handle ht]
    simp only [TrackerRequest.leaves, eq_comm]
  | expire now => exact delivery?_expire ht now id
  | failAll fault => rfl

/-- Every request keeps a tracker coherent. -/
theorem Coherent.next (ht : t.Coherent) (r : TrackerRequest) : (t.next r).Coherent := by
  cases r with
  | about r => exact ht.handle r
  | expire now => exact ht.expire now
  | failAll fault => exact coherent_empty

theorem Coherent.after (ht : t.Coherent) (requests : List TrackerRequest) :
    (t.after requests).Coherent := by
  induction requests generalizing t with
  | nil => exact ht
  | cons r requests ih => exact ih (ht.next r)

/-- **Whatever is asked of it, a tracker is coherent.** -/
theorem coherent_ofRequests (requests : List TrackerRequest) : (ofRequests requests).Coherent :=
  coherent_empty.after requests

end DeliveryTracker

/-- A reading of a device as it is submitted. -/
def Outbound.reading (id : Nat) : Outbound where
  id
  kind := .telemetry
  message := .empty

end HubLink
