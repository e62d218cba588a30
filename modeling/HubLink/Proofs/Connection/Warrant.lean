import HubLink.Proofs.Connection.Setback
import HubLink.Proofs.Delivery.Due

/-! # What a worker may tell and answer

Which news and answers are warranted depends on the last status that was told and on the inputs that
were taken so far, the last of them being the one that is answered (`Warranted`). A turn *speaks*
when it says only what is warranted, leaves a worker that accords with what was told and asked
(`Worker.Accords`), and accounts for the answers that are owed: each of them is given once or still
owed afterwards (`Turn.Speaks`). -/

namespace HubLink

/-! ## Readings -/

/-- A state of a connection with the reason it was told with. -/
abbrev Status := ConnectionState × StatusReason

namespace Effect

/-- The last status that was told, after an effect. -/
def status (q : Status) : Effect → Status
  | .tell (.status state reason) => (state, reason)
  | _ => q

/-- Whether an effect answers the request with a token. -/
def repliesTo (token : Nat) : Effect → Bool
  | .reply k _ => k = token
  | .settle request => request.reply = token
  | _ => false

/-- Whether an effect neither tells a status nor answers a request. -/
def isSilent : Effect → Bool
  | .tell (.status ..) | .reply .. | .settle _ => false
  | _ => true

theorem status_of_isSilent {e : Effect} (he : e.isSilent) (q : Status) : e.status q = q := by
  unfold isSilent at he
  unfold status
  split at he <;> simp_all

theorem repliesTo_of_isSilent {e : Effect} (he : e.isSilent) (token : Nat) :
    e.repliesTo token = false := by
  unfold isSilent at he
  unfold repliesTo
  split at he <;> simp_all

end Effect

namespace Input

/-- The token of a request to open the connection. -/
def open? : Input → Option Nat
  | .command (.open reply) => some reply
  | _ => none

/-- The request to settle an inbound message. -/
def settle? : Input → Option SettleRequest
  | .command (.settle request) => some request
  | _ => none

/-- The token of a request that is to be answered. -/
def request? : Input → Option Nat
  | .command (.open reply) | .command (.close reply) => some reply
  | .command (.settle request) => some request.reply
  | _ => none

/-- How often an input asks for an answer with a token. -/
def requests (token : Nat) (input : Input) : Nat := input.request?.toList.count token

end Input

/-! ### Inputs taken -/

namespace Inputs

variable (xs ys : List (Nat × Input))

/-- The tokens of the requests to open the connection. -/
def opens : List Nat := xs.filterMap (·.2.open?)

/-- The requests to settle inbound messages. -/
def settlements : List SettleRequest := xs.filterMap (·.2.settle?)

/-- The tokens of all requests. -/
def requests : List Nat := xs.filterMap (·.2.request?)

/-- The instant of a successful connect. -/
def connect? : Nat × Input → Option Nat
  | (now, .connected (.ok ())) => some now
  | _ => none

/-- The instant of the last successful connect. -/
def lastConnect : Option Nat := (xs.filterMap connect?).getLast?

@[simp] theorem opens_append : opens (xs ++ ys) = opens xs ++ opens ys := List.filterMap_append

@[simp] theorem settlements_append : settlements (xs ++ ys) = settlements xs ++ settlements ys :=
  List.filterMap_append

@[simp] theorem requests_append : requests (xs ++ ys) = requests xs ++ requests ys :=
  List.filterMap_append

variable {xs}

theorem mem_opens {token : Nat} :
    token ∈ opens xs ↔ ∃ now, (now, .command (.open token)) ∈ xs := by
  rw [opens, List.mem_filterMap]
  constructor
  · rintro ⟨⟨now, input⟩, hmem, hopen⟩
    unfold Input.open? at hopen
    split at hopen
    · rename_i reply hinput
      obtain rfl : reply = token := Option.some.inj hopen
      obtain rfl : input = .command (.open reply) := hinput
      exact ⟨now, hmem⟩
    · cases hopen
  · rintro ⟨now, hmem⟩
    exact ⟨_, hmem, rfl⟩

theorem mem_settlements {request : SettleRequest} :
    request ∈ settlements xs ↔ ∃ now, (now, .command (.settle request)) ∈ xs := by
  rw [settlements, List.mem_filterMap]
  constructor
  · rintro ⟨⟨now, input⟩, hmem, hsettle⟩
    unfold Input.settle? at hsettle
    split at hsettle
    · rename_i asked hinput
      obtain rfl : asked = request := Option.some.inj hsettle
      obtain rfl : input = .command (.settle asked) := hinput
      exact ⟨now, hmem⟩
    · cases hsettle
  · rintro ⟨now, hmem⟩
    exact ⟨_, hmem, rfl⟩

variable (xs)

/-- The requests with a token are counted one by one. -/
theorem count_requests_concat (i : Nat × Input) (token : Nat) :
    (requests (xs ++ [i])).count token = (requests xs).count token + i.2.requests token := by
  rw [requests_append, List.count_append]
  cases h : i.2.request? <;> simp [requests, Input.requests, h]

/-- Other inputs leave the last successful connect as it is. -/
theorem lastConnect_concat_of_ne {i : Nat × Input} (h : i.2 ≠ .connected (.ok ())) :
    lastConnect (xs ++ [i]) = lastConnect xs := by
  have hnone : connect? i = none := by
    unfold connect?
    split
    · exact absurd rfl h
    · rfl
  simp [lastConnect, hnone]

end Inputs

/-- A successful connect that is the last input is the last connect. -/
theorem Inputs.lastConnect_of_last {xs : List (Nat × Input)} {now : Nat}
    (h : xs.getLast? = some (now, .connected (.ok ()))) : lastConnect xs = some now := by
  obtain ⟨ys, rfl⟩ := List.getLast?_eq_some_iff.1 h
  simp [lastConnect, connect?]

/-- The input that is taken, with its instant. -/
def Occurrence.taken? : Occurrence → Option (Nat × Input)
  | .took _ now input => some (now, input)
  | .did _ => none

/-- The last status that was told, after an occurrence. -/
def Occurrence.status (q : Status) : Occurrence → Status
  | .did e => e.status q
  | .took .. => q

namespace History

/-- The inputs that were taken, with their instants, in order. -/
def taken (h : List Occurrence) : List (Nat × Input) := h.filterMap (·.taken?)

/-- The last status that was told. A worker that has told none counts as closed by its caller. -/
def status (h : List Occurrence) : Status := h.foldl Occurrence.status (.closed, .clientClose)

/-- How often the requests with a token were answered. -/
def replies (h : List Occurrence) (token : Nat) : Nat :=
  h.countP fun
    | .did e => e.repliesTo token
    | .took .. => false

@[simp] theorem taken_append (h k : List Occurrence) : taken (h ++ k) = taken h ++ taken k :=
  List.filterMap_append

@[simp] theorem status_append (h k : List Occurrence) :
    status (h ++ k) = k.foldl Occurrence.status (status h) :=
  List.foldl_append

@[simp] theorem replies_append (h k : List Occurrence) (token : Nat) :
    replies (h ++ k) token = replies h token + replies k token :=
  List.countP_append

/-! ### One step -/

variable (h : List Occurrence) (w : Worker) (now : Nat) (input : Input) (es : List Effect)

theorem taken_took : taken (h ++ .took w now input :: es.map .did) = taken h ++ [(now, input)] := by
  simp [taken, Occurrence.taken?]

theorem status_took :
    status (h ++ .took w now input :: es.map .did) = es.foldl Effect.status (status h) := by
  rw [status_append, List.foldl_cons, List.foldl_map]
  rfl

theorem replies_took (token : Nat) :
    replies (h ++ .took w now input :: es.map .did) token =
      replies h token + es.countP (·.repliesTo token) := by
  rw [replies_append, replies, replies, List.countP_cons_of_neg (by simp), List.countP_map]
  rfl

end History

/-! ## What is warranted -/

/-- **What a worker may tell and answer**, given the inputs taken so far and the last status that
was told. The last of the inputs is the one that is being answered. -/
inductive Warranted (terms : Terms) (xs : List (Nat × Input)) (q : Status) : Effect → Prop where
  /-- Something else is done. -/
  | silent {e : Effect} (silent : e.isSilent) : Warranted terms xs q e
  /-- The caller opens a closed connection. -/
  | opening {now reply : Nat} (last : xs.getLast? = some (now, .command (.open reply)))
      (state : q.1 = .closed) : Warranted terms xs q (.tell (.status .opening .clientOpen))
  /-- A connect succeeds. Only after its renewal the token is told to be renewed. -/
  | connected {now : Nat} {reason : StatusReason}
      (last : xs.getLast? = some (now, .connected (.ok ())))
      (state : q.1 = .opening ∨ q.1 = .reconnecting)
      (which : reason = .connected ∨
        reason = .tokenRenewal ∧ q = (.reconnecting, .tokenRenewal)) :
      Warranted terms xs q (.tell (.status .open reason))
  /-- The first connect fails. -/
  | stumbled {i : Nat × Input} {fault : Fault} (last : xs.getLast? = some i)
      (setback : i.2.setback? = some fault) (state : q.1 = .opening) :
      Warranted terms xs q (.tell (.status .reconnecting .communicationError))
  /-- The link is lost. -/
  | lost {i : Nat × Input} {fault : Fault} (last : xs.getLast? = some i)
      (setback : i.2.setback? = some fault) (state : q.1 = .open) :
      Warranted terms xs q (.tell (.status .reconnecting .connectionLost))
  /-- It is time to renew the token. -/
  | renewing {connect renewal due : Nat} {input : Input} (state : q.1 = .open)
      (renewable : terms.renewal = some renewal) (since : Inputs.lastConnect xs = some connect)
      (waking : (due, input) ∈ xs) (elapsed : deadlineAfter connect renewal ≤ due) :
      Warranted terms xs q (.tell (.status .reconnecting .tokenRenewal))
  /-- The connection is closed for the caller. -/
  | closed {i : Nat × Input} (last : xs.getLast? = some i) (closes : i.2.closes)
      (state : q.1 ≠ .closed) : Warranted terms xs q (.tell (.status .closed .clientClose))
  /-- The connection is closed because of a fault. -/
  | failed {i : Nat × Input} {fault : Fault} (last : xs.getLast? = some i)
      (setback : i.2.setback? = some fault)
      (state : q.1 = .reconnecting ∨ q.1 = .opening ∧ fault.isTransient = false) :
      Warranted terms xs q (.tell (.status .closed (Worker.finalReason fault)))
  /-- Who asked to open the connection is told that it is open. -/
  | opened {token : Nat} (asked : token ∈ Inputs.opens xs) (state : q.1 = .open) :
      Warranted terms xs q (.reply token (.ok ()))
  /-- Who asks to close the connection is told that it is closed. -/
  | released {now token : Nat} (last : xs.getLast? = some (now, .command (.close token)))
      (state : q.1 = .closed) : Warranted terms xs q (.reply token (.ok ()))
  /-- Who asked to open the connection is told that it was closed for the caller. -/
  | cancelled {i : Nat × Input} {token : Nat} (asked : token ∈ Inputs.opens xs)
      (last : xs.getLast? = some i) (closes : i.2.closes) (state : q.1 = .closed) :
      Warranted terms xs q (.reply token (.error .cancelled))
  /-- Who asked to open the connection is told why it was closed. -/
  | ended {i : Nat × Input} {token : Nat} {fault : Fault} (asked : token ∈ Inputs.opens xs)
      (last : xs.getLast? = some i) (setback : i.2.setback? = some fault)
      (status : q = (.closed, Worker.finalReason fault)) :
      Warranted terms xs q (.reply token (.error fault))
  /-- Who asks to open the connection is told that nobody can be connected. -/
  | refused {now token : Nat} {fault : Fault}
      (last : xs.getLast? = some (now, .command (.open token))) (state : q.1 = .closed)
      (invalid : terms.identity.validate = .error fault) :
      Warranted terms xs q (.reply token (.error fault))
  /-- An inbound message is settled. -/
  | settles {request : SettleRequest} (asked : request ∈ Inputs.settlements xs)
      (state : q.1 = .open) : Warranted terms xs q (.settle request)
  /-- Who asked to settle an inbound message is told that the connection is not open. -/
  | unsettled {request : SettleRequest} (asked : request ∈ Inputs.settlements xs)
      (state : q.1 ≠ .open) : Warranted terms xs q (.reply request.reply (.error .closed))

/-- **Effects are justified**: they are warranted one after the other. -/
def Justified (terms : Terms) (xs : List (Nat × Input)) : Status → List Effect → Prop
  | _, [] => True
  | q, e :: es => Warranted terms xs q e ∧ Justified terms xs (e.status q) es

section Saying

variable {terms : Terms} {xs : List (Nat × Input)} {q : Status} {es es' : List Effect} {e : Effect}

theorem justified_append :
    Justified terms xs q (es ++ es') ↔
      Justified terms xs q es ∧ Justified terms xs (es.foldl Effect.status q) es' := by
  induction es generalizing q with
  | nil => simp [Justified]
  | cons e es ih => simp [Justified, ih, and_assoc]

theorem justified_singleton : Justified terms xs q [e] ↔ Warranted terms xs q e := by
  simp [Justified]

/-- Silent effects leave the status as it is. -/
theorem status_of_isSilent (hes : ∀ e ∈ es, e.isSilent) : es.foldl Effect.status q = q := by
  induction es with
  | nil => rfl
  | cons e es ih =>
    rw [List.forall_mem_cons] at hes
    rw [List.foldl_cons, Effect.status_of_isSilent hes.1]
    exact ih hes.2

/-- Silent effects are justified. -/
theorem justified_of_isSilent (hes : ∀ e ∈ es, e.isSilent) : Justified terms xs q es := by
  induction es with
  | nil => trivial
  | cons e es ih =>
    rw [List.forall_mem_cons] at hes
    rw [Justified, Effect.status_of_isSilent hes.1]
    exact ⟨.silent hes.1, ih hes.2⟩

/-- Answers leave the status as it is. -/
theorem status_replies (tokens : List Nat) (result : Except Fault Unit) :
    (tokens.map (Effect.reply · result)).foldl Effect.status q = q := by
  induction tokens with
  | nil => rfl
  | cons token tokens ih => exact ih

/-- Answers are justified if each is warranted. -/
theorem justified_replies {tokens : List Nat} {result : Except Fault Unit}
    (h : ∀ token ∈ tokens, Warranted terms xs q (.reply token result)) :
    Justified terms xs q (tokens.map (.reply · result)) := by
  induction tokens with
  | nil => trivial
  | cons token tokens ih =>
    rw [List.forall_mem_cons] at h
    exact ⟨h.1, ih h.2⟩

end Saying

/-! ## What is owed -/

/-- The tokens that tasks are to answer. -/
def Task.token? : Task → Option Nat
  | .settle request => some request.reply
  | _ => none

/-- How often tasks are to answer the requests with a token. -/
def Task.owes (tasks : List Task) (token : Nat) : Nat := (tasks.filterMap (·.token?)).count token

theorem Task.owes_cons (task : Task) (tasks : List Task) (token : Nat) :
    Task.owes (task :: tasks) token = Task.owes [task] token + Task.owes tasks token := by
  rw [← List.singleton_append, Task.owes, List.filterMap_append, List.count_append]
  rfl

/-- What tasks rest on: the requests that were made, and the instants of inputs. -/
def Task.Founded (xs : List (Nat × Input)) (tasks : List Task) : Prop :=
  (∀ request, .settle request ∈ tasks → request ∈ Inputs.settlements xs) ∧
    ∀ due, .renew due ∈ tasks → ∃ input, (due, input) ∈ xs

theorem Task.founded_nil {xs : List (Nat × Input)} : Task.Founded xs [] :=
  ⟨by simp, by simp⟩

theorem Task.founded_flush {xs : List (Nat × Input)} : Task.Founded xs [.flush] :=
  ⟨by simp, by simp⟩

theorem Task.Founded.tail {xs : List (Nat × Input)} {task : Task} {tasks : List Task}
    (h : Task.Founded xs (task :: tasks)) : Task.Founded xs tasks :=
  ⟨fun request hmem => h.1 request (List.mem_cons_of_mem _ hmem),
    fun due hmem => h.2 due (List.mem_cons_of_mem _ hmem)⟩

namespace Worker

/-- How often a worker is still to answer the requests with a token: those who wait for the
connection to open, and those whose requests are put off. -/
def owes (w : Worker) (token : Nat) : Nat :=
  w.waiters.count token +
    match w.busy with
    | some b => Task.owes (afterwards b) token
    | none => 0

/-- **A worker accords with what was told and taken.** -/
structure Accords (terms : Terms) (xs : List (Nat × Input)) (q : Status) (w : Worker) : Prop where
  /-- The state is the one told last. -/
  state : q.1 = w.state
  /-- A connect is a renewal of the token only if that was told last. -/
  job : ∀ b reason, w.busy = some b → b.job = .connecting reason →
    reason = .connected ∨ reason = .tokenRenewal ∧ q = (.reconnecting, .tokenRenewal)
  /-- Whoever waits asked to open the connection. -/
  waiters : w.waiters ⊆ Inputs.opens xs
  /-- What is left to do was asked for. -/
  founded : ∀ b, w.busy = some b → Task.Founded xs (afterwards b)
  /-- The renewal of the token is planned from the last connect on. -/
  planned : ∀ t, w.renewAt = some t → ∃ connect renewal, Inputs.lastConnect xs = some connect ∧
    terms.renewal = some renewal ∧ t = deadlineAfter connect renewal
  /-- The terms are these. -/
  terms : w.terms = terms

end Worker

namespace Turn

/-- How often a turn answers the requests with a token. -/
def replies (t : Turn) (token : Nat) : Nat := t.effects.countP (·.repliesTo token)

@[simp] theorem replies_andThen (t : Turn) (f : Worker → Turn) (token : Nat) :
    (t.andThen f).replies token = t.replies token + (f t.worker).replies token :=
  List.countP_append

/-- **A turn speaks** only what is warranted, leaves a worker that accords with it, and accounts for
the answers that are owed. -/
structure Speaks (terms : Terms) (xs : List (Nat × Input)) (q : Status) (owed : Nat → Nat)
    (t : Turn) : Prop where
  justified : Justified terms xs q t.effects
  accords : t.worker.Accords terms xs (t.effects.foldl Effect.status q)
  accounts : ∀ token, t.replies token + t.worker.owes token = owed token

namespace Speaks

variable {terms : Terms} {xs : List (Nat × Input)} {q : Status} {owed : Nat → Nat} {t : Turn}
  {w : Worker}

/-- One turn after the other, the latter with more that is owed. -/
theorem andThen_more {f : Worker → Turn} {k : Nat → Nat} (ht : Speaks terms xs q owed t)
    (hf : Speaks terms xs (t.effects.foldl Effect.status q)
      (fun token => t.worker.owes token + k token) (f t.worker)) :
    Speaks terms xs q (fun token => owed token + k token) (t.andThen f) where
  justified := justified_append.2 ⟨ht.justified, hf.justified⟩
  accords := by
    rw [andThen_effects, List.foldl_append]
    exact hf.accords
  accounts token := by
    have hfirst := ht.accounts token
    have hrest := hf.accounts token
    rw [replies_andThen, andThen_worker]
    omega

/-- One turn after the other. -/
theorem andThen {f : Worker → Turn} (ht : Speaks terms xs q owed t)
    (hf : Speaks terms xs (t.effects.foldl Effect.status q) t.worker.owes (f t.worker)) :
    Speaks terms xs q owed (t.andThen f) :=
  ht.andThen_more (k := fun _ => 0) hf

/-- A turn that neither tells a status nor answers. -/
theorem silent {es : List Effect} (hes : ∀ e ∈ es, e.isSilent) (ha : w.Accords terms xs q)
    (howed : ∀ token, w.owes token = owed token) :
    Speaks terms xs q owed { worker := w, effects := es } where
  justified := justified_of_isSilent hes
  accords := by
    rw [status_of_isSilent hes]
    exact ha
  accounts token := by
    have hnone : replies { worker := w, effects := es } token = 0 := by
      rw [replies, List.countP_eq_zero]
      intro e he
      simp [Effect.repliesTo_of_isSilent (hes e he)]
    rw [hnone, Nat.zero_add]
    exact howed token

/-- A turn that does nothing. -/
theorem rest (ha : w.Accords terms xs q) : Speaks terms xs q w.owes { worker := w } :=
  silent (by simp) ha fun _ => rfl

/-- A turn that answers one request. -/
theorem reply {token : Nat} {result : Except Fault Unit} (ha : w.Accords terms xs q)
    (h : Warranted terms xs q (.reply token result)) :
    Speaks terms xs q (fun k => w.owes k + [token].count k)
      { worker := w, effects := [.reply token result] } where
  justified := justified_singleton.2 h
  accords := ha
  accounts k := by
    rw [Nat.add_comm]
    refine congrArg (w.owes k + ·) ?_
    simp [replies, Effect.repliesTo, List.countP_cons, List.count_cons]

/-- The same answers are owed. -/
theorem congr {owed' : Nat → Nat} (ht : Speaks terms xs q owed t)
    (h : ∀ token, owed token = owed' token) : Speaks terms xs q owed' t :=
  { ht with accounts := fun token => (ht.accounts token).trans (h token) }

end Speaks

end Turn

end HubLink
