import HubLink.Proofs.Connection.History
import HubLink.Proofs.Delivery.Reading
import Mathlib.Logic.Relation

/-! # Moves of a worker

The steps of a worker cut into moves. A move adds at most a few occurrences to a history and changes
one thing about the tracker or the queue; it says under which condition it is made: when the link is
up, what gives cause for an operation to end, where in the queue a message is put. A *course* is a
series of moves. Runs are courses (`Worker.course_of_run`), so what every move keeps holds along
every run, and what every move with an effect guarantees holds of every effect. -/

namespace HubLink

open Relation

/-- Whether a command or the loss of everyone who could send one closes the connection. -/
def Input.closes : Input → Bool
  | .command (.close _) | .abandoned => true
  | _ => false

/-- Whether an input has consequences of its own for what is tracked or queued: a submission, or the
success of a connect. -/
def Input.isWeighty : Input → Bool
  | .command (.submit ..) | .connected (.ok ()) => true
  | _ => false

/-- Whether an effect neither ends an operation, nor hands a message over, nor is the news that the
token is renewed. -/
def Effect.isPlain : Effect → Bool
  | .send _ | .complete _ | .tell (.status .reconnecting .tokenRenewal) => false
  | _ => true

/-- Whether an input tells a worker that the message of an id is delivered. -/
def Worker.Confirms (w : Worker) (input : Input) (id : Nat) (response : Option Response) : Prop :=
  input = .event (.ok (.acknowledged id response)) ∨
    input = .sent (.ok (.acknowledged response)) ∧ ∃ b, w.busy = some b ∧ b.job = .sending id

namespace History

/-- An input without consequences of its own submits nothing. -/
theorem submissions_took {w : Worker} {now : Nat} {input : Input}
    (light : input.isWeighty = false) : submissions [.took w now input] = [] := by
  cases input with
  | command c =>
    cases c with
    | submit => cases light
    | «open» | close | cancel | settle => rfl
  | abandoned | event | timer | connected | sent | overtime => rfl

/-- An effect that ends no operation resolves nothing. -/
theorem completions_did_of_plain {e : Effect} (plain : e.isPlain) :
    completions [.did e] = [] := by
  cases e with
  | complete => cases plain
  | connect | send | settle | release | reply | tell => rfl

/-- An effect that hands no message over. -/
theorem handOvers_did_of_plain {e : Effect} (plain : e.isPlain) : handOvers [.did e] = [] := by
  cases e with
  | send => cases plain
  | connect | settle | release | reply | complete | tell => rfl

end History

/-- A fault of the link: it was reported, or stands for the link being slow or silent. -/
def History.OfLink (h : List Occurrence) (fault : Fault) : Prop :=
  fault ∈ linkFaults h ∨ fault = .slowLink ∨ fault = .missingAcknowledgement

theorem History.OfLink.append {h : List Occurrence} {fault : Fault} (hf : OfLink h fault)
    (os : List Occurrence) : OfLink (h ++ os) fault := by
  refine hf.imp_left fun hmem => ?_
  rw [linkFaults_append]
  exact List.mem_append_left _ hmem

theorem History.OfLink.of_seen {h : List Occurrence} {o : Occurrence} {fault : Fault} (seen : o ∈ h)
    (hf : o.linkFault? = some fault) : OfLink h fault :=
  .inl (List.mem_filterMap.2 ⟨o, seen, hf⟩)

/-- A fault of the link that does not stand for its being slow or silent was reported. -/
theorem History.OfLink.mem_linkFaults {h pre post : List Occurrence} {fault : Fault}
    (hf : OfLink pre fault) (hslow : fault ≠ .slowLink) (hsilent : fault ≠ .missingAcknowledgement)
    (hp : h = pre ++ post) : fault ∈ linkFaults h := by
  obtain hmem | rfl | rfl := hf
  · rw [hp, linkFaults_append]
    exact List.mem_append_left _ hmem
  · exact absurd rfl hslow
  · exact absurd rfl hsilent

/-- **What gives cause for the operation of an id to end with an outcome.** -/
inductive Cause (h : List Occurrence) (id : Nat) (p : PendingCorrelation) :
    Except Fault (Option Response) → Prop where
  /-- The link confirmed the message while it was under way. -/
  | confirmed {w : Worker} {now : Nat} {input : Input} {response : Option Response}
      (seen : .took w now input ∈ h) (tracked : id ∈ w.tracker.outstanding)
      (confirms : w.Confirms input id response) : Cause h id p (.ok response)
  /-- Its deadline has passed. -/
  | overdue (due : p.deadline ≤ History.clock h) : Cause h id p (.error .timeout)
  /-- The caller gave it up. -/
  | cancelled {w : Worker} {now : Nat} (seen : .took w now (.command (.cancel id)) ∈ h) :
      Cause h id p (.error .cancelled)
  /-- The connection was closed. -/
  | closed {w : Worker} {now : Nat} {input : Input} (seen : .took w now input ∈ h)
      (closes : input.closes) : Cause h id p (.error .cancelled)
  /-- The link reported a fault, took too long, or did not confirm the message in time. -/
  | failed {fault : Fault} (ofLink : History.OfLink h fault) : Cause h id p (.error fault)

/-- A cause remains one while effects follow. -/
theorem Cause.of_effects {h : List Occurrence} {id : Nat} {p : PendingCorrelation}
    {outcome : Except Fault (Option Response)} (hc : Cause h id p outcome) (es : List Effect) :
    Cause (h ++ es.map .did) id p outcome := by
  cases hc with
  | confirmed seen tracked confirms =>
    exact .confirmed (List.mem_append_left _ seen) tracked confirms
  | overdue due => exact .overdue (by simpa using due)
  | cancelled seen => exact .cancelled (List.mem_append_left _ seen)
  | closed seen closes => exact .closed (List.mem_append_left _ seen) closes
  | failed ofLink => exact .failed (ofLink.append _)

/-! ## Moves -/

/-- A worker with what was seen of it so far. -/
structure Moment where
  /-- What was seen. -/
  past : List Occurrence
  /-- The worker. -/
  worker : Worker

/-- **What a worker can do to its tracker and its queue**, and which effects come with it. -/
inductive Move : Moment → Moment → Prop where
  /-- Something else changes. -/
  | aside {h : List Occurrence} {w w' : Worker} (tracker : w'.tracker = w.tracker)
      (queue : w'.queue = w.queue) (terms : w'.terms = w.terms) : Move ⟨h, w⟩ ⟨h, w'⟩
  /-- An input is taken that has no consequences by itself. -/
  | took {h : List Occurrence} {w : Worker} {now : Nat} {input : Input} (takes : w.takes input)
      (light : input.isWeighty = false) : Move ⟨h, w⟩ ⟨h ++ [.took w now input], w⟩
  /-- The link comes up, and all messages under way are queued. -/
  | connected {h : List Occurrence} {w : Worker} {now : Nat} (takes : w.takes (.connected (.ok ())))
      (down : History.linkUp h = false) :
      Move ⟨h, w⟩
        ⟨h ++ [.took w now (.connected (.ok ()))], { w with queue := w.tracker.outstanding }⟩
  /-- A message is taken on, and queued if the link is up. -/
  | enrolled {h : List Occurrence} {w : Worker} {now : Nat} {message : Outbound}
      {completion deadline : Nat} (takes : w.takes (.command (.submit message completion deadline)))
      (fresh : w.tracker.pending? message.id = none) :
      Move ⟨h, w⟩
        ⟨h ++ [.took w now (.command (.submit message completion deadline))],
          { w with
            tracker := w.tracker.enroll message ⟨completion, deadline⟩
            queue := if History.linkUp h then w.queue ++ [message.id] else w.queue }⟩
  /-- A message is refused: the connection is closed, or its id is in use. -/
  | refused {h : List Occurrence} {w : Worker} {now : Nat} {message : Outbound}
      {completion deadline : Nat} {fault : Fault}
      (takes : w.takes (.command (.submit message completion deadline)))
      (reason : fault = .closed ∨
        fault = .duplicateId message.id ∧ (w.tracker.pending? message.id).isSome) :
      Move ⟨h, w⟩
        ⟨h ++ [.took w now (.command (.submit message completion deadline)),
          .did (.complete ⟨completion, .error fault⟩)], w⟩
  /-- The link is closed to renew the token while nothing is queued. -/
  | renewed {h : List Occurrence} {w : Worker} (clear : w.queue = []) :
      Move ⟨h, w⟩
        ⟨h ++ [.did .release, .did (.tell (.status .reconnecting .tokenRenewal))], w⟩
  /-- A plain effect follows. -/
  | did {h : List Occurrence} {w : Worker} {e : Effect} (plain : e.isPlain)
      (connect : e = .connect → History.linkUp h = false)
      (settle : ∀ request, e = .settle request → History.linkUp h = true) :
      Move ⟨h, w⟩ ⟨h ++ [.did e], w⟩
  /-- The queue is emptied: the link is down, or nothing queued is under way. -/
  | cleared {h : List Occurrence} {w : Worker} (idle : History.linkUp h = false ∨
      ∀ id ∈ w.queue, w.tracker.message? id = none) : Move ⟨h, w⟩ ⟨h, { w with queue := [] }⟩
  /-- The first queued message that is under way is handed over. -/
  | sent {h : List Occurrence} {w : Worker} {now id : Nat} {message : Outbound}
      {tracker : DeliveryTracker} {queue : List Nat} (up : History.linkUp h = true)
      (next : Worker.nextToSend w.tracker now w.queue = some (id, message, tracker, queue)) :
      Move ⟨h, w⟩ ⟨h ++ [.did (.send message)], { w with tracker, queue }⟩
  /-- An operation ends for a cause. -/
  | ended {h : List Occurrence} {w : Worker} {id : Nat} {p : PendingCorrelation}
      {outcome : Except Fault (Option Response)} (waits : w.tracker.pending? id = some p)
      (cause : Cause h id p outcome) :
      Move ⟨h, w⟩
        ⟨h ++ [.did (.complete (p.resolve id outcome))],
          { w with tracker := w.tracker.retire id }⟩
  /-- It is planned when to send a message again. -/
  | postponed {h : List Occurrence} {w : Worker} {id : Nat} {m : Tracked} {retryAt : Option Nat}
      (tracked : w.tracker.message? id = some m) :
      Move ⟨h, w⟩
        ⟨h, { w with
          tracker :=
            { w.tracker with messages := w.tracker.messages.insert id { m with retryAt } } }⟩
  /-- A message under way is queued again, behind smaller ids, if it may be sent once more. -/
  | requeued {h : List Occurrence} {w : Worker} {id : Nat}
      (tracked : (w.tracker.message? id).isSome) (later : History.replaying h = false)
      (last : ∀ k ∈ w.queue, k < id)
      (again : ∀ m, w.tracker.message? id = some m → (w.terms.policy.decide
        Fault.missingAcknowledgement.kind m.message.retryCount).isFinal = false) :
      Move ⟨h, w⟩ ⟨h, { w with queue := w.queue ++ [id] }⟩

/-- A series of moves. -/
abbrev Course : Moment → Moment → Prop := ReflTransGen Move

/-- Along a course a history only grows. -/
theorem Course.past_eq {a b : Moment} (hc : Course a b) : ∃ os, b.past = a.past ++ os := by
  induction hc with
  | refl => exact ⟨[], (List.append_nil _).symm⟩
  | tail _ hmove ih =>
    obtain ⟨os, hos⟩ := ih
    -- Every move appends to the history or leaves it as it is.
    cases hmove <;> first
      | exact ⟨os, hos⟩
      | exact ⟨os ++ _, by rw [← List.append_assoc, ← hos]⟩

/-! ## The effects of a move -/

/-- **Which effects a moment can lead to** with a move, and which occurrences of the same move come
before. -/
inductive Emits (a : Moment) : List Occurrence → Effect → Prop where
  /-- A plain effect. -/
  | plain {e : Effect} (plain : e.isPlain) (connect : e = .connect → History.linkUp a.past = false)
      (settle : ∀ request, e = .settle request → History.linkUp a.past = true) : Emits a [] e
  /-- A submission is refused. -/
  | refused {o : Occurrence} {completion id : Nat} {fault : Fault}
      (reason : fault = .closed ∨ fault = .duplicateId id) :
      Emits a [o] (.complete ⟨completion, .error fault⟩)
  /-- The next message of the queue is handed over while the link is up. -/
  | sent {now id : Nat} {message : Outbound} {tracker : DeliveryTracker} {queue : List Nat}
      (up : History.linkUp a.past = true)
      (next : Worker.nextToSend a.worker.tracker now a.worker.queue =
        some (id, message, tracker, queue)) : Emits a [] (.send message)
  /-- An operation ends for a cause. -/
  | ended {id : Nat} {p : PendingCorrelation} {outcome : Except Fault (Option Response)}
      (waits : a.worker.tracker.pending? id = some p) (cause : Cause a.past id p outcome) :
      Emits a [] (.complete (p.resolve id outcome))
  /-- The link is closed to renew the token. -/
  | released : Emits a [] .release
  /-- The token is renewed after closing the link, while nothing is queued. -/
  | renewed (clear : a.worker.queue = []) :
      Emits a [.did .release] (.tell (.status .reconnecting .tokenRenewal))

/-- A single occurrence added to a history stands by itself. -/
theorem History.eq_of_append_singleton {h os os' : List Occurrence} {o o' : Occurrence}
    (hp : h ++ [o] = h ++ (os ++ o' :: os')) : os = [] ∧ o = o' ∧ os' = [] := by
  have hsingle := List.append_cancel_left hp
  cases os with
  | nil =>
    rw [List.nil_append, List.cons.injEq] at hsingle
    exact ⟨rfl, hsingle.1, hsingle.2.symm⟩
  | cons x os => simp at hsingle

/-- The effects of a move are such effects. -/
theorem Move.emits {a b : Moment} (hm : Move a b) {os os' : List Occurrence} {e : Effect}
    (hp : b.past = a.past ++ (os ++ .did e :: os')) : Emits a os e := by
  cases hm with
  | aside | took | connected | enrolled | cleared | postponed | requeued =>
    simp [List.cons_eq_append_iff] at hp
  | refused takes reason =>
    -- Of the two occurrences only the second is an effect.
    simp only [List.append_cancel_left_eq, List.cons_eq_append_iff, List.cons.injEq, reduceCtorEq,
      false_and, and_false, Occurrence.did.injEq, List.nil_eq, List.append_eq_nil_iff, exists_const,
      or_false, ↓existsAndEq, true_and, false_or] at hp
    obtain ⟨rfl, rfl, -⟩ := hp
    exact .refused (reason.imp_right And.left)
  | renewed clear =>
    -- The effect is either of the two.
    simp only [List.append_cancel_left_eq, List.cons_eq_append_iff, List.cons.injEq,
      Occurrence.did.injEq, List.nil_eq, List.append_eq_nil_iff, reduceCtorEq, and_false,
      exists_const, or_false, ↓existsAndEq, true_and] at hp
    obtain ⟨rfl, rfl, -⟩ | ⟨rfl, rfl, -⟩ := hp
    · exact .released
    · exact .renewed clear
  | did plain connect settle =>
    obtain ⟨rfl, he, -⟩ := History.eq_of_append_singleton hp
    obtain rfl := Occurrence.did.inj he
    exact .plain plain connect settle
  | sent up next =>
    obtain ⟨rfl, he, -⟩ := History.eq_of_append_singleton hp
    obtain rfl := Occurrence.did.inj he
    exact .sent up next
  | ended waits cause =>
    obtain ⟨rfl, he, -⟩ := History.eq_of_append_singleton hp
    obtain rfl := Occurrence.did.inj he
    exact .ended waits cause

/-- **Where an effect stands in a history.** Some moment of the course led to it, and the history of
that moment comes before. -/
theorem Course.at_effect {w : Worker} {b : Moment} (hc : Course ⟨[], w⟩ b) {e : Effect}
    {pre post : List Occurrence} (hp : b.past = pre ++ .did e :: post) :
    ∃ m os, Course ⟨[], w⟩ m ∧ Course m b ∧ Emits m os e ∧ pre = m.past ++ os := by
  induction hc generalizing post with
  | refl => simp at hp
  | @tail m m' hm hmove ih =>
    have hstep : Course m m' := .single hmove
    obtain ⟨os, hos⟩ := Course.past_eq hstep
    rw [hos] at hp
    obtain ⟨mid, hpast, -⟩ | ⟨mid, rfl, hrest⟩ := split_append hp
    · -- The effect came with an earlier move.
      obtain ⟨k, os, hk, hrun, hemits, hpre⟩ := ih hpast
      exact ⟨k, os, hk, hrun.tail hmove, hemits, hpre⟩
    · -- The effect came with the last move.
      exact ⟨m, mid, hm, hstep, hmove.emits (by rw [hos, hrest]), rfl⟩

/-- **The link comes up** with a move of its own. -/
theorem Move.of_connected {a b : Moment} (hm : Move a b) {os os' : List Occurrence} {v : Worker}
    {now : Nat}
    (hp : b.past = a.past ++ (os ++ .took v now (.connected (.ok ())) :: os')) :
    os = [] ∧ os' = [] ∧ b.worker = { v with queue := v.tracker.outstanding } := by
  cases hm with
  | connected =>
    obtain ⟨rfl, ho, rfl⟩ := History.eq_of_append_singleton hp
    obtain ⟨rfl, -, -⟩ := Occurrence.took.inj ho
    exact ⟨rfl, rfl, rfl⟩
  | took takes light =>
    -- An input without consequences of its own is no success of a connect.
    obtain ⟨-, ho, -⟩ := History.eq_of_append_singleton hp
    obtain ⟨-, -, rfl⟩ := Occurrence.took.inj ho
    cases light
  | aside | enrolled | refused | renewed | did | cleared | sent | ended | postponed | requeued =>
    simp [List.cons_eq_append_iff] at hp

/-! ## The messages handed over next -/

/-- Noting that a message is handed over changes the message and nothing else. -/
theorem DeliveryTracker.markSent_eq (t : DeliveryTracker) (id now : Nat) :
    (t.message? id = none ∧ t.markSent id now = (t, none)) ∨
      ∃ m, t.message? id = some m ∧ t.markSent id now =
        ({ t with messages := t.messages.insert id (m.handOver now) },
          some (m.handOver now).message) := by
  cases hm : t.message? id with
  | none => exact .inl ⟨rfl, by rw [message?] at hm; simp only [markSent, hm]⟩
  | some m => exact .inr ⟨m, rfl, by rw [message?] at hm; simp only [markSent, hm]⟩

/-- Nothing is handed over exactly when nothing queued is under way. -/
theorem Worker.nextToSend_eq_none {t : DeliveryTracker} {now : Nat} {queue : List Nat} :
    Worker.nextToSend t now queue = none ↔ ∀ id ∈ queue, t.message? id = none := by
  induction queue with
  | nil => simp [Worker.nextToSend]
  | cons id queue ih =>
    obtain ⟨hm, hs⟩ | ⟨m, hm, hs⟩ := t.markSent_eq id now
    · simp only [Worker.nextToSend, hs, ih, List.forall_mem_cons, hm, true_and]
    · simp [Worker.nextToSend, hs, hm]

/-- **The first queued message that is under way is handed over**; what stood before it is not under
way any more. -/
theorem Worker.nextToSend_eq_some {t t' : DeliveryTracker} {now id : Nat} {queue queue' : List Nat}
    {message : Outbound} (h : Worker.nextToSend t now queue = some (id, message, t', queue')) :
    ∃ skipped m, queue = skipped ++ id :: queue' ∧ (∀ k ∈ skipped, t.message? k = none) ∧
      t.message? id = some m ∧ message = (m.handOver now).message ∧
      t' = { t with messages := t.messages.insert id (m.handOver now) } := by
  induction queue with
  | nil => simp [Worker.nextToSend] at h
  | cons k queue ih =>
    obtain ⟨hm, hs⟩ | ⟨m, hm, hs⟩ := t.markSent_eq k now
    · -- The message ended while it was queued, and is skipped.
      simp only [Worker.nextToSend, hs] at h
      obtain ⟨skipped, m, rfl, hskip, hrest⟩ := ih h
      refine ⟨k :: skipped, m, rfl, ?_, hrest⟩
      exact List.forall_mem_cons.2 ⟨hm, hskip⟩
    · simp only [Worker.nextToSend, hs, Option.some.injEq, Prod.mk.injEq] at h
      obtain ⟨rfl, rfl, rfl, rfl⟩ := h
      exact ⟨[], m, rfl, by simp, hm, rfl, rfl⟩

/-- Along a course a tracker stays coherent. -/
theorem Course.coherent {a b : Moment} (hc : Course a b) (ha : a.worker.tracker.Coherent) :
    b.worker.tracker.Coherent := by
  induction hc with
  | refl => exact ha
  | tail _ hmove ih =>
    cases hmove with
    | aside tracker queue => exact tracker ▸ ih
    | took | connected | refused | renewed | did | cleared | requeued => exact ih
    | enrolled => exact ih.enroll _ _
    | sent up next =>
      obtain ⟨_, m, -, -, hm, -, rfl⟩ := Worker.nextToSend_eq_some next
      exact ih.insert hm rfl
    | ended => exact ih.retire _
    | postponed tracked => exact ih.insert tracked rfl

end HubLink
