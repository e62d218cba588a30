import HubLink.Proofs.Connection.Replay
import HubLink.Proofs.Connection.Setback
import HubLink.Proofs.Connection.Waking

/-! # How often a message is handed over on a link

A message counts how often it was handed over, and after a failure the policy is asked with this
count. So between the coming up of a link and its end, a message is handed over once at first, and
once more for each attempt that the policy gives it (`Rationed`). Every move on a link keeps this
(`Move.rationed`), so that a policy that gives up at attempt `k` allows `k + 1` hand-overs. When the
attempts are used up, the next failure ends the operation, and the message is never handed over
again (`Worker.resendsBounded_of_run`). Attempts are numbered with 32 bits, as many as the count
has, so on a link the count starts again at zero with the first hand-over at most. -/

namespace HubLink

open Relation

/-! ## Hand-overs on a link -/

/-- **What is handed over on a link, and how often**, given what was seen since it came up. -/
structure Rationed (k : Nat) (mid : List Occurrence) (w : Worker) : Prop where
  /-- The count of a message has room for all attempts. -/
  room : k < Text.bound32
  /-- Nothing is queued twice. -/
  nodup : w.queue.Nodup
  /-- Nothing is handed over more often than this. -/
  bounded : ∀ id, (History.handOvers mid).count id ≤ k + 1
  /-- A message under way counts how often it was handed over. -/
  counted : ∀ id m, w.tracker.message? id = some m → id ∈ History.handOvers mid →
    m.message.state = .sent ∧ (History.handOvers mid).count id ≤ m.message.retryCount + 1
  /-- A message that is queued again has attempts left. -/
  again : ∀ id m, w.tracker.message? id = some m → id ∈ w.queue → id ∈ History.handOvers mid →
    m.message.retryCount < k

namespace Rationed

variable {k : Nat} {w w' : Worker} {mid os : List Occurrence}

/-- When the link comes up, nothing was handed over on it. -/
theorem start {k : Nat} (room : k < Text.bound32) (v : Worker) :
    Rationed k [] { v with queue := v.tracker.outstanding } where
  room := room
  nodup := v.tracker.messages.keys_nodup
  bounded id := Nat.zero_le _
  counted _ _ _ hid := by cases hid
  again _ _ _ _ hid := by cases hid

/-- While nothing is handed over, less may be queued and under way. -/
theorem of_less (hr : Rationed k mid w) (hh : History.handOvers os = [])
    (hq : w'.queue.Sublist w.queue)
    (hm : ∀ id m, w'.tracker.message? id = some m →
      ∃ m', w.tracker.message? id = some m' ∧ m.message = m'.message) :
    Rationed k (mid ++ os) w' := by
  have hsame : History.handOvers (mid ++ os) = History.handOvers mid := by
    rw [History.handOvers_append, hh, List.append_nil]
  refine ⟨hr.room, hr.nodup.sublist hq, ?_, ?_, ?_⟩
  · rw [hsame]
    exact hr.bounded
  · intro id m hmessage hid
    obtain ⟨m', hmessage', heq⟩ := hm id m hmessage
    rw [hsame] at hid ⊢
    rw [heq]
    exact hr.counted id m' hmessage' hid
  · intro id m hmessage hqueued hid
    obtain ⟨m', hmessage', heq⟩ := hm id m hmessage
    rw [hsame] at hid
    rw [heq]
    exact hr.again id m' hmessage' (hq.subset hqueued) hid

/-- A message with a new id is taken on and queued. -/
theorem enroll (hr : Rationed k mid w) (hh : History.handOvers os = []) {message : Outbound}
    {p : PendingCorrelation} (hq : message.id ∉ w.queue)
    (hnew : message.id ∉ History.handOvers mid) :
    Rationed k (mid ++ os)
      { w with
        tracker := w.tracker.enroll message p
        queue := w.queue ++ [message.id] } := by
  have hsame : History.handOvers (mid ++ os) = History.handOvers mid := by
    rw [History.handOvers_append, hh, List.append_nil]
  -- Whatever was handed over is not the new message, and so is under way as before.
  have hold : ∀ id m, (w.tracker.enroll message p).message? id = some m →
      id ∈ History.handOvers mid → id ≠ message.id ∧ w.tracker.message? id = some m := by
    intro id m hmessage hid
    have hne : id ≠ message.id := fun heq => hnew (heq ▸ hid)
    rw [DeliveryTracker.message?_enroll, if_neg (Ne.symm hne)] at hmessage
    exact ⟨hne, hmessage⟩
  refine ⟨hr.room, ?_, ?_, ?_, ?_⟩
  · rw [List.nodup_append]
    refine ⟨hr.nodup, List.nodup_singleton _, fun id hid x hx => ?_⟩
    rw [List.mem_singleton.1 hx]
    exact fun heq => hq (heq ▸ hid)
  · rw [hsame]
    exact hr.bounded
  · intro id m hmessage hid
    rw [hsame] at hid ⊢
    exact hr.counted id m (hold id m hmessage hid).2 hid
  · intro id m hmessage hqueued hid
    rw [hsame] at hid
    obtain ⟨hne, hmessage⟩ := hold id m hmessage hid
    have hqueued : id ∈ w.queue := by
      rw [List.mem_append, List.mem_singleton] at hqueued
      exact hqueued.resolve_right hne
    exact hr.again id m hmessage hqueued hid

/-- **The next message is handed over**: for the first time, or because it has attempts left. -/
theorem send (hr : Rationed k mid w) (ht : w.tracker.Coherent) {now id : Nat} {message : Outbound}
    {tracker : DeliveryTracker} {queue : List Nat}
    (hnext : Worker.nextToSend w.tracker now w.queue = some (id, message, tracker, queue)) :
    Rationed k (mid ++ [.did (.send message)]) { w with tracker, queue } := by
  obtain ⟨skipped, m, hq, -, hm, rfl, rfl⟩ := Worker.nextToSend_eq_some hnext
  have hhanded : History.handOvers (mid ++ [.did (.send (m.handOver now).message)]) =
      History.handOvers mid ++ [id] := by
    rw [History.handOvers_append, ← ht.filed id m hm]
    rfl
  have hqueued : id ∈ w.queue := by
    rw [hq]
    exact List.mem_append_right _ (List.mem_cons_self ..)
  have hnodup := hr.nodup
  rw [hq, List.nodup_append, List.nodup_cons] at hnodup
  obtain ⟨-, ⟨hlast, hqueue⟩, -⟩ := hnodup
  have hother (x : Nat) (hx : id ≠ x) : (History.handOvers mid ++ [id]).count x =
      (History.handOvers mid).count x := by
    rw [List.count_append, List.count_singleton, if_neg (by simpa using hx), Nat.add_zero]
  -- What the message counts when it is handed over, and that it has attempts left until then.
  have hcount : (m.handOver now).message.state = .sent ∧
      (History.handOvers mid ++ [id]).count id ≤ (m.handOver now).message.retryCount + 1 ∧
      (History.handOvers mid ++ [id]).count id ≤ k + 1 := by
    rw [List.count_append, List.count_singleton_self]
    refine ⟨rfl, ?_⟩
    by_cases hid : id ∈ History.handOvers mid
    · obtain ⟨hsent, hle⟩ := hr.counted id m hm hid
      have hleft := hr.again id m hm hqueued hid
      have hroom := hr.room
      have hretry : (m.handOver now).message.retryCount = m.message.retryCount + 1 := by
        show (m.message.retryCount + if m.message.state = .sent then 1 else 0) % Text.bound32 = _
        rw [if_pos hsent, Nat.mod_eq_of_lt (by omega)]
      omega
    · rw [List.count_eq_zero_of_not_mem hid]
      omega
  refine ⟨hr.room, hqueue, ?_, ?_, ?_⟩
  · intro x
    rw [hhanded]
    by_cases hx : id = x
    · rw [← hx]
      exact hcount.2.2
    · rw [hother x hx]
      exact hr.bounded x
  · intro x m' hm' hmem
    rw [hhanded] at hmem ⊢
    rw [DeliveryTracker.message?_insert] at hm'
    by_cases hx : id = x
    · rw [if_pos hx, Option.some.injEq] at hm'
      rw [← hx, ← hm']
      exact ⟨hcount.1, hcount.2.1⟩
    · rw [if_neg hx] at hm'
      rw [hother x hx]
      rw [List.mem_append, List.mem_singleton] at hmem
      exact hr.counted x m' hm' (hmem.resolve_right (Ne.symm hx))
  · intro x m' hm' hx hmem
    -- The message is queued no more.
    have hne : id ≠ x := fun heq => hlast (heq ▸ hx)
    rw [hhanded, List.mem_append, List.mem_singleton] at hmem
    rw [DeliveryTracker.message?_insert, if_neg hne] at hm'
    refine hr.again x m' hm' ?_ (hmem.resolve_right (Ne.symm hne))
    rw [hq]
    exact List.mem_append_right _ (List.mem_cons_of_mem _ hx)

/-- **A message is queued again** if it has attempts left. -/
theorem requeue (hr : Rationed k mid w) {id : Nat} (hq : id ∉ w.queue)
    (hleft : ∀ m, w.tracker.message? id = some m → m.message.retryCount < k) :
    Rationed k mid { w with queue := w.queue ++ [id] } where
  room := hr.room
  nodup := by
    rw [List.nodup_append]
    refine ⟨hr.nodup, List.nodup_singleton _, fun x hx y hy => ?_⟩
    rw [List.mem_singleton.1 hy]
    exact fun heq => hq (heq ▸ hx)
  bounded := hr.bounded
  counted := hr.counted
  again x m hm hx hid := by
    rw [List.mem_append, List.mem_singleton] at hx
    rcases hx with hx | rfl
    · exact hr.again x m hm hx hid
    · exact hleft m hm

end Rationed

/-- The terms of a worker never change. -/
theorem Move.terms {a b : Moment} (hm : Move a b) : b.worker.terms = a.worker.terms := by
  cases hm with
  | aside tracker queue terms => exact terms
  | took | connected | enrolled | refused | renewed | did | cleared | sent | ended | postponed
    | requeued => rfl

/-- Along a course the terms of a worker stay. -/
theorem Course.terms {a b : Moment} (hc : Course a b) : b.worker.terms = a.worker.terms := by
  induction hc with
  | refl => rfl
  | tail _ hmove ih => exact hmove.terms.trans ih

/-- Ids are given to messages once. -/
def History.DistinctIds (h : List Occurrence) : Prop := (submitted h).Nodup

theorem History.DistinctIds.of_append {h os : List Occurrence} (hd : DistinctIds (h ++ os)) :
    DistinctIds h := by
  rw [DistinctIds, submitted_append] at hd
  exact (List.nodup_append.1 hd).1

/-- What is submitted later has another id. -/
theorem History.DistinctIds.not_mem {h os : List Occurrence} (hd : DistinctIds (h ++ os)) {id : Nat}
    (hid : id ∈ submitted os) : id ∉ submitted h := by
  rw [DistinctIds, submitted_append, List.nodup_append] at hd
  exact fun hold => hd.2.2 id hold id hid rfl

namespace Turn

/-- The ids of the messages that a turn hands over. -/
def handOvers (t : Turn) : List Nat := History.handOvers (t.effects.map .did)

@[simp] theorem handOvers_andThen (t : Turn) (f : Worker → Turn) :
    (t.andThen f).handOvers = t.handOvers ++ (f t.worker).handOvers := by
  simp [handOvers]

/-- **A turn has done with a message**: it does not hand it over and leaves it no longer under
way. -/
structure DoneWith (id : Nat) (t : Turn) : Prop where
  gone : t.worker.tracker.message? id = none
  unsent : id ∉ t.handOvers

theorem DoneWith.andThen {id : Nat} {t : Turn} {f : Worker → Turn} (ht : t.DoneWith id)
    (hf : (f t.worker).DoneWith id) : (t.andThen f).DoneWith id where
  gone := hf.gone
  unsent := by
    rw [handOvers_andThen, List.mem_append, not_or]
    exact ⟨ht.unsent, hf.unsent⟩

/-- **An operation ends in a turn** that has done with its message. -/
structure Ends (id : Nat) (r : Resolution) (t : Turn) : Prop extends t.DoneWith id where
  ends : .complete r ∈ t.effects

/-- What ends in a turn has ended when more follows. -/
theorem Ends.andThen {id : Nat} {r : Resolution} {t : Turn} {f : Worker → Turn}
    (ht : t.Ends id r) (hf : (f t.worker).DoneWith id) : (t.andThen f).Ends id r where
  toDoneWith := ht.toDoneWith.andThen hf
  ends := List.mem_append_left _ ht.ends

/-- An operation ends when a turn goes on. -/
theorem Ends.of_andThen {id : Nat} {r : Resolution} {t : Turn} {f : Worker → Turn}
    (hf : (f t.worker).Ends id r) (ht : id ∉ t.handOvers) : (t.andThen f).Ends id r where
  gone := hf.gone
  unsent := by
    rw [handOvers_andThen, List.mem_append, not_or]
    exact ⟨ht, hf.unsent⟩
  ends := List.mem_append_right _ hf.ends

end Turn

namespace Worker

variable {w : Worker} {now id : Nat}

/-! ### Turns that hand nothing over -/

theorem handOvers_enter (w : Worker) (state : ConnectionState) (reason : StatusReason) :
    (w.enter state reason).handOvers = [] := by
  unfold enter
  split <;> rfl

theorem handOvers_track {α : Type} (w : Worker) (change : Change DeliveryTracker α) :
    (w.track change).handOvers = [] := by
  simp [track, Turn.handOvers, History.handOvers, Occurrence.handOver?]

theorem handOvers_answerWaiters (w : Worker) (result : Except Fault Unit) :
    (w.answerWaiters result).handOvers = [] := by
  simp [answerWaiters, Turn.handOvers, History.handOvers, Occurrence.handOver?]

theorem handOvers_settle (w : Worker) (request : SettleRequest) :
    (w.settle request).handOvers = [] := by
  unfold settle Turn.handOvers
  split <;> rfl

theorem handOvers_giveUp (w : Worker) (fault : Fault) : (w.giveUp fault).handOvers = [] := by
  rw [giveUp, Turn.handOvers_andThen, shut, Turn.handOvers_andThen, Turn.handOvers_andThen,
    handOvers_enter, handOvers_track, handOvers_answerWaiters]
  rfl

/-- A link that is lost is done with what is not under way. -/
theorem doneWith_linkLost (hgone : w.tracker.message? id = none) (now : Nat) (fault : Fault) :
    (w.linkLost now fault).DoneWith id := by
  unfold linkLost
  split
  · have hentered : (w.release.andThen fun w =>
        { w with renewAt := none, queue := [] }.enter .reconnecting .connectionLost).DoneWith
          id := by
      refine ⟨?_, ?_⟩
      · rw [Turn.andThen_worker, enter_worker]
        exact hgone
      · rw [Turn.handOvers_andThen, handOvers_enter]
        exact List.not_mem_nil
    refine hentered.andThen ?_
    obtain heq | ⟨-, due, heq⟩ := planReconnect_eq (w.release.andThen fun w =>
        { w with renewAt := none, queue := [] }.enter .reconnecting .connectionLost).worker now
          fault
    · rw [heq]
      refine ⟨?_, ?_⟩
      · rw [giveUp_worker]
        rfl
      · rw [handOvers_giveUp]
        exact List.not_mem_nil
    · rw [heq]
      exact ⟨hentered.gone, List.not_mem_nil⟩
  · exact ⟨hgone, List.not_mem_nil⟩

/-- A link that is lost leaves the tracker coherent. -/
theorem coherent_linkLost (ht : w.tracker.Coherent) (now : Nat) (fault : Fault) :
    (w.linkLost now fault).worker.tracker.Coherent := by
  unfold linkLost
  split
  · rw [Turn.andThen_worker]
    obtain heq | ⟨-, due, heq⟩ := planReconnect_eq (w.release.andThen fun w =>
        { w with renewAt := none, queue := [] }.enter .reconnecting .connectionLost).worker now
          fault
    · rw [heq, giveUp_worker]
      exact DeliveryTracker.coherent_empty
    · rw [heq]
      show Worker.tracker (Turn.worker _) |>.Coherent
      rw [Turn.andThen_worker, enter_worker]
      exact ht
  · exact ht

/-- What is left to do is done with what is not under way. -/
theorem doneWith_run (ht : w.tracker.Coherent) (hgone : w.tracker.message? id = none) (now : Nat)
    (tasks : List Task) : (run now tasks w).DoneWith id := by
  induction tasks generalizing w with
  | nil => exact ⟨hgone, List.not_mem_nil⟩
  | cons task tasks ih =>
    cases task with
    | flush =>
      rw [run]
      split
      · split
        · -- What is handed over is under way.
          rename_i k message tracker queue hnext
          obtain ⟨_, m, -, -, hm, rfl, rfl⟩ := nextToSend_eq_some hnext
          have hne : k ≠ id := by
            rintro rfl
            rw [hgone] at hm
            cases hm
          refine ⟨?_, ?_⟩
          · show DeliveryTracker.message? { w.tracker with messages := _ } id = none
            rw [DeliveryTracker.message?_insert, if_neg hne]
            exact hgone
          · show id ∉ [m.message.id]
            rw [ht.filed k m hm, List.mem_singleton]
            exact Ne.symm hne
        · exact ih (w := { w with queue := [] }) ht hgone
      · exact ih ht hgone
    | settle request =>
      rw [run]
      refine Turn.DoneWith.andThen ⟨hgone, ?_⟩ (ih ht hgone)
      rw [handOvers_settle]
      exact List.not_mem_nil
    | reconnect due =>
      rw [run]
      split
      · exact ⟨hgone, List.not_mem_nil⟩
      · exact ih ht hgone
    | renew due =>
      rw [run]
      split
      · refine ⟨?_, ?_⟩
        · rw [Turn.andThen_worker, Turn.andThen_worker, enter_worker]
          exact hgone
        · rw [Turn.handOvers_andThen, Turn.handOvers_andThen, handOvers_enter]
          exact List.not_mem_nil
      · exact ih ht hgone

theorem handOvers_resend (w : Worker) (now k : Nat) : (w.resend now k).handOvers = [] := by
  rw [resend, Turn.handOvers_andThen, handOvers_track]
  rfl

theorem handOvers_resendAll (w : Worker) (now : Nat) (ids : List Nat) :
    (resendAll now ids w).handOvers = [] := by
  induction ids generalizing w with
  | nil => rfl
  | cons k ids ih =>
    rw [resendAll, Turn.handOvers_andThen, handOvers_resend, ih]
    rfl

/-! ### Failing for good -/

/-- **The fault by which the message of an id fails** when a worker takes an input. -/
inductive Fails (w : Worker) (now id : Nat) : Input → Fault → Prop where
  /-- The hub rejected the message. -/
  | rejected {fault : Fault} : Fails w now id (.event (.ok (.rejected id fault))) fault
  /-- Handing the message over failed. -/
  | unsent {b : Busy} {fault : Fault} (busy : w.busy = some b) (job : b.job = .sending id) :
      Fails w now id (.sent (.error fault)) fault
  /-- Handing the message over took too long. -/
  | slow {b : Busy} (busy : w.busy = some b) (job : b.job = .sending id) :
      Fails w now id .overtime .slowLink
  /-- The confirmation of the message is missing, or the wait after a failure is over, before the
  deadline. -/
  | unconfirmed {m : Tracked} {p : PendingCorrelation} (idle : w.busy = none)
      (state : w.state = .open) (tracked : w.tracker.message? id = some m)
      (due : isDue (m.resendAt w.terms.ackTimeout) now = true)
      (waits : w.tracker.pending? id = some p) (timely : now < p.deadline) :
      Fails w now id .timer .missingAcknowledgement

section Failing

variable {m : Tracked} {p : PendingCorrelation} {fault : Fault}

/-- **When its attempts are used up, the next failure ends the operation.** -/
theorem ends_track (ht : w.tracker.Coherent) (hm : w.tracker.message? id = some m)
    (hp : w.tracker.pending? id = some p)
    (hspent : w.terms.policy.decide fault.kind m.message.retryCount = .giveUp) (now : Nat) :
    (w.track (w.tracker.sendFailed w.terms.policy id fault now)).Ends id
      (p.resolve id (.error fault)) where
  gone := by
    rw [DeliveryTracker.sendFailed_of_giveUp ht hm hp hspent, track,
      DeliveryTracker.message?_retire, if_pos rfl]
  unsent := by
    rw [handOvers_track]
    exact List.not_mem_nil
  ends := by
    rw [DeliveryTracker.sendFailed_of_giveUp ht hm hp hspent, track]
    exact List.mem_singleton_self _

/-- Handing a message over failed. -/
theorem ends_sendEnded (ht : w.tracker.Coherent) (hm : w.tracker.message? id = some m)
    (hp : w.tracker.pending? id = some p)
    (hspent : w.terms.policy.decide fault.kind m.message.retryCount = .giveUp) (now : Nat)
    (b : Busy) :
    (w.sendEnded now b id (.error fault)).Ends id (p.resolve id (.error fault)) := by
  have hended := ends_track ht hm hp hspent now
  have hcoherent := ht.sendFailed w.terms.policy id fault now
  rw [sendEnded]
  by_cases hbreaks : fault.breaksLink
  · simp only [hbreaks, ↓reduceIte]
    have hlost := doneWith_linkLost hended.gone now fault
    refine (hended.andThen hlost).andThen (doneWith_run ?_ hlost.gone now _)
    exact coherent_linkLost hcoherent now fault
  · simp only [hbreaks, Bool.false_eq_true, ↓reduceIte]
    refine (hended.andThen ⟨hended.gone, List.not_mem_nil⟩).andThen ?_
    exact doneWith_run hcoherent hended.gone now _

/-- The wait for a message is over, among the messages that are to be sent again. -/
theorem ends_resendAll (ht : w.tracker.Coherent) (hm : w.tracker.message? id = some m)
    (hp : w.tracker.pending? id = some p)
    (hspent : w.terms.policy.decide Fault.missingAcknowledgement.kind m.message.retryCount =
      .giveUp)
    (now : Nat) {ids : List Nat} (hids : ids.Nodup) (hid : id ∈ ids) :
    (resendAll now ids w).Ends id (p.resolve id (.error .missingAcknowledgement)) := by
  induction ids generalizing w with
  | nil => cases hid
  | cons k ids ih =>
    rw [List.nodup_cons] at hids
    obtain ⟨tracker, queue, hworker, hcoherent, -⟩ := resend_worker ht now k
    have hrest : (w.resend now k).worker.tracker.Coherent := by
      rw [hworker]
      exact hcoherent
    rw [resendAll]
    by_cases hk : k = id
    · -- The message fails, and the others leave it alone.
      subst hk
      have hended : (w.resend now k).Ends k (p.resolve k (.error .missingAcknowledgement)) := by
        have htrack : (w.track (w.tracker.sendFailed w.terms.policy k .missingAcknowledgement
            now)).Ends k (p.resolve k (.error .missingAcknowledgement)) :=
          ends_track ht hm hp hspent now
        rw [resend]
        refine htrack.andThen ?_
        rw [DeliveryTracker.sendFailed_of_giveUp ht hm hp hspent, if_neg (by simp)]
        exact ⟨by simp [track], List.not_mem_nil⟩
      refine hended.andThen ⟨?_, ?_⟩
      · rw [(leavesAlone_resendAll hrest hids.1).message]
        exact hended.gone
      · rw [handOvers_resendAll]
        exact List.not_mem_nil
    · have halone : LeavesAlone id w (w.resend now k).worker := leavesAlone_resend ht hk
      have hterms : (w.resend now k).worker.terms = w.terms := by rw [hworker]
      have hlater := ih hrest (halone.message.trans hm) (halone.pending.trans hp)
        (by rw [hterms]; exact hspent) hids.2 ((List.mem_cons.1 hid).resolve_left (Ne.symm hk))
      exact hlater.of_andThen (by rw [handOvers_resend]; exact List.not_mem_nil)

/-- **A worker is woken to send a message again whose attempts are used up.** -/
theorem ends_wake (ht : w.tracker.Coherent) (hopen : w.state = .open)
    (hm : w.tracker.message? id = some m)
    (hdue : isDue (m.resendAt w.terms.ackTimeout) now = true)
    (hp : w.tracker.pending? id = some p) (timely : now < p.deadline)
    (hspent : w.terms.policy.decide Fault.missingAcknowledgement.kind m.message.retryCount =
      .giveUp) :
    (w.wake now).Ends id (p.resolve id (.error .missingAcknowledgement)) := by
  -- The operation is not overdue, so that it waits when the deadlines have been looked for.
  have hlive : id ∉ (w.tracker.overdue now).map (·.1) := by
    rw [DeliveryTracker.mem_overdue_ids]
    rintro ⟨p', hp', hexpired⟩
    obtain rfl := Option.some.inj (hp.symm.trans hp')
    simp only [PendingCorrelation.isExpired, decide_eq_true_eq] at hexpired
    omega
  have hcoherent : (w.tracker.expire now).state.Coherent := ht.expire now
  have hm' : (w.tracker.expire now).state.message? id = some m := by
    rw [DeliveryTracker.expire_eq, DeliveryTracker.message?_retireAll, if_neg hlive]
    exact hm
  have hp' : (w.tracker.expire now).state.pending? id = some p := by
    rw [DeliveryTracker.expire_eq, DeliveryTracker.pending?_retireAll, if_neg hlive]
    exact hp
  have hdue' : id ∈ (w.tracker.expire now).state.dueForResend now w.terms.ackTimeout :=
    DeliveryTracker.mem_dueForResend.2 ⟨m, hm', hdue⟩
  have hended := ends_resendAll (w := (w.track (w.tracker.expire now)).worker) hcoherent hm' hp'
    hspent now (SortedMap.keys_nodup _) hdue'
  have hresend := hended.of_andThen (t := w.track (w.tracker.expire now))
    (f := resendAll now ((w.tracker.expire now).state.dueForResend now w.terms.ackTimeout))
    (by rw [handOvers_track]; exact List.not_mem_nil)
  obtain ⟨tracker, queue, hworker, hcoherent', -⟩ := resendAll_worker
    (w := (w.track (w.tracker.expire now)).worker) hcoherent now
    ((w.tracker.expire now).state.dueForResend now w.terms.ackTimeout)
  have hwake : w.wake now = ((w.track (w.tracker.expire now)).andThen
      (resendAll now ((w.tracker.expire now).state.dueForResend now w.terms.ackTimeout))).andThen
        (run now [.flush, .reconnect now, .renew now]) := by
    rw [wake]
    refine congrArg (Turn.andThen · _) ?_
    exact Turn.andThen_congr (if_pos hopen)
  rw [hwake]
  refine hresend.andThen (doneWith_run ?_ hresend.gone now _)
  rw [Turn.andThen_worker, hworker]
  exact hcoherent'

/-- **The failure of a message whose attempts are used up ends its operation**, and the message is
done with. -/
theorem ends_of_fails (ht : w.tracker.Coherent) {input : Input} (takes : w.takes input)
    (hm : w.tracker.message? id = some m) (hp : w.tracker.pending? id = some p)
    (hfails : w.Fails now id input fault)
    (hspent : w.terms.policy.decide fault.kind m.message.retryCount = .giveUp) :
    (w.step now input).Ends id (p.resolve id (.error fault)) := by
  have going := going_of_takes takes
  cases hfails with
  | rejected =>
    have hlistens : w.isListening := (Bool.and_eq_true_iff.1 takes).2
    obtain ⟨hopen, idle⟩ : w.state = .open ∧ w.busy = none := by
      simpa [isListening, going] using hlistens
    rw [step_of_idle going idle, stepAtRest, if_pos hopen]
    exact ends_track ht hm hp hspent now
  | unsent busy job =>
    rw [step_of_busy going busy]
    simp only [stepBusy, job]
    exact ends_sendEnded (w := { w with busy := none }) ht hm hp hspent now _
  | slow busy job =>
    rw [step_of_busy going busy]
    simp only [stepBusy, job]
    exact ends_sendEnded (w := { w with busy := none }) ht hm hp hspent now _
  | unconfirmed idle state tracked due waits timely =>
    obtain rfl := Option.some.inj (tracked.symm.trans hm)
    obtain rfl := Option.some.inj (waits.symm.trans hp)
    rw [step_of_idle going idle]
    exact ends_wake ht state hm due hp timely hspent

end Failing

end Worker

/-! ## Runs -/

namespace History

end History

namespace Worker

end Worker

/-! ## A reading that is rejected twice -/

namespace Rejection

/-- The terms of a device that sends a reading again once. -/
def terms : Terms where
  identity := ⟨"hub", "pump"⟩
  operationLimit := 30
  ackTimeout := 1000
  renewal := none
  policy := .ofOptions { baseDelay := 1, maxDelay := 1, maxDuration := 1 }

/-- The hub is busy. -/
def busyHub : Fault := .service 503 "busy" (some 0)

/-- The device connects and hands a reading over, which is rejected, handed over again and rejected
again. -/
def inputs : List (Nat × Input) :=
  [(0, .command (.open 1)), (1, .connected (.ok ())),
    (2, .command (.submit (Renewal.reading 1) 101 90000000)), (3, .sent (.ok .awaiting)),
    (4, .event (.ok (.rejected 1 busyHub))), (5, .timer), (6, .sent (.ok .awaiting)),
    (7, .event (.ok (.rejected 1 busyHub)))]

end Rejection

namespace Worker

end Worker

end HubLink
