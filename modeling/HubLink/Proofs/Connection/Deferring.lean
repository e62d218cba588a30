import HubLink.Proofs.Connection.Quiet
import HubLink.Proofs.Connection.Warrant

/-! # Requests put off

A request to settle an inbound message is carried out at once by a worker at rest. While the link is
busy it is put off, to the end of what the link does. What was put off while the link sends comes
before everything else that is left to do then, but what was put off while it connects comes behind
the messages that are handed over again. A turn *serves* the requests that are put off in their
order (`Turn.Serves`), and every step keeps the order of what is put off, with a request that comes
behind those that came since the link is busy (`Worker.keepsOrder_step`). -/

namespace HubLink

/-! ## Requests put off -/

/-- The request that a task carries out. -/
def Task.settle? : Task → Option SettleRequest
  | .settle request => some request
  | .flush | .reconnect _ | .renew _ => none

namespace Task

/-- The requests that tasks carry out, in order. -/
def settles (tasks : List Task) : List SettleRequest := tasks.filterMap (·.settle?)

/-- **Tasks are prompt** if all requests come before whatever may connect the link. -/
def Prompt : List Task → Prop
  | [] => True
  | .settle _ :: tasks | .flush :: tasks => Prompt tasks
  | .reconnect _ :: tasks | .renew _ :: tasks => settles tasks = []

@[simp] theorem settles_map_settle (requests : List SettleRequest) (tasks : List Task) :
    settles (requests.map .settle ++ tasks) = requests ++ settles tasks := by
  induction requests with
  | nil => rfl
  | cons request requests ih => exact congrArg (request :: ·) ih

/-- Tasks without requests are prompt. -/
theorem prompt_of_settles_eq_nil {tasks : List Task} (h : settles tasks = []) : Prompt tasks := by
  induction tasks with
  | nil => trivial
  | cons task tasks ih =>
    cases task with
    | settle request => cases h
    | flush => exact ih h
    | reconnect due | renew due => exact h

theorem prompt_map_settle {tasks : List Task} (h : Prompt tasks) (requests : List SettleRequest) :
    Prompt (requests.map .settle ++ tasks) := by
  induction requests with
  | nil => exact h
  | cons request requests ih => exact ih

end Task

namespace Worker

/-- The requests that came since the link is busy. -/
def deferred (w : Worker) : List SettleRequest := (w.busy.map (·.deferred)).getD []

/-- The requests that were put off before the link got busy with what it does. -/
def leftover (w : Worker) : List SettleRequest := (w.busy.map (Task.settles ·.next)).getD []

theorem deferred_congr {v w : Worker} (h : v.busy = w.busy) : v.deferred = w.deferred := by
  rw [deferred, h, deferred]

theorem leftover_congr {v w : Worker} (h : v.busy = w.busy) : v.leftover = w.leftover := by
  rw [leftover, h, leftover]

theorem deferred_of_idle {w : Worker} (idle : w.busy = none) : w.deferred = [] := by
  rw [deferred, idle]
  rfl

theorem leftover_of_idle {w : Worker} (idle : w.busy = none) : w.leftover = [] := by
  rw [leftover, idle]
  rfl

theorem deferred_of_busy {w : Worker} {b : Busy} (busy : w.busy = some b) :
    w.deferred = b.deferred := by
  rw [deferred, busy]
  rfl

theorem leftover_of_busy {w : Worker} {b : Busy} (busy : w.busy = some b) :
    w.leftover = Task.settles b.next := by
  rw [leftover, busy]
  rfl

end Worker

/-- The request that an effect carries out. -/
def Effect.settle? : Effect → Option SettleRequest
  | .settle request => some request
  | _ => none

/-! ## Turns -/

namespace Turn

/-- The requests that a turn carries out, in order. -/
def settled (t : Turn) : List SettleRequest := t.effects.filterMap (·.settle?)

@[simp] theorem settled_andThen (t : Turn) (f : Worker → Turn) :
    (t.andThen f).settled = t.settled ++ (f t.worker).settled :=
  List.filterMap_append

/-- A turn of a worker *spares* its link: it settles nothing and leaves the link at what it does. -/
structure Spares (w : Worker) (t : Turn) : Prop where
  unsettled : t.settled = []
  busy : t.worker.busy = w.busy

theorem Spares.andThen {w : Worker} {t : Turn} {f : Worker → Turn} (ht : t.Spares w)
    (hf : (f t.worker).Spares t.worker) : (t.andThen f).Spares w where
  unsettled := by rw [settled_andThen, ht.unsettled, hf.unsettled, List.append_nil]
  busy := hf.busy.trans ht.busy

/-- What the link does is all that matters of the worker. -/
theorem Spares.of_busy {v w : Worker} {t : Turn} (ht : t.Spares v) (hbusy : v.busy = w.busy) :
    t.Spares w where
  unsettled := ht.unsettled
  busy := ht.busy.trans hbusy

/-- **A turn serves requests**, the first ones before the rest: it carries out and puts off some of
them in order, puts off none of the first, and leaves the link at something that it just began. -/
structure Serves (first rest : List SettleRequest) (t : Turn) : Prop where
  ordered : (t.settled ++ t.worker.leftover).Sublist (first ++ rest)
  leftover : t.worker.leftover.Sublist rest
  fresh : t.worker.deferred = []
  prompt : ∀ b, t.worker.busy = some b → Task.Prompt b.next
  connecting : t.worker.isConnecting → t.worker.leftover = []

namespace Serves

variable {first rest : List SettleRequest} {t : Turn} {w : Worker}

/-- A turn that leaves the link idle. -/
theorem of_idle (idle : t.worker.busy = none) (h : t.settled = []) : Serves first rest t where
  ordered := by
    rw [h, Worker.leftover_of_idle idle]
    exact List.nil_sublist _
  leftover := by
    rw [Worker.leftover_of_idle idle]
    exact List.nil_sublist _
  fresh := Worker.deferred_of_idle idle
  prompt b busy := by
    rw [idle] at busy
    cases busy
  connecting _ := Worker.leftover_of_idle idle

/-- A turn that spares the link comes first. -/
theorem after_spares {f : Worker → Turn} (ht : t.Spares w) (hf : Serves first rest (f t.worker)) :
    Serves first rest (t.andThen f) where
  ordered := by
    rw [settled_andThen, ht.unsettled, List.nil_append]
    exact hf.ordered
  leftover := hf.leftover
  fresh := hf.fresh
  prompt := hf.prompt
  connecting := hf.connecting

/-- None of the requests needs to be among the first. -/
theorem weaken (ht : Serves first rest t) : Serves [] (first ++ rest) t where
  ordered := ht.ordered
  leftover := ht.leftover.trans (List.sublist_append_right _ _)
  fresh := ht.fresh
  prompt := ht.prompt
  connecting := ht.connecting

/-- One more request is carried out or refused before. -/
theorem after_settle {f : Worker → Turn} (request : SettleRequest)
    (hf : Serves first rest (f w)) :
    Serves (request :: first) rest ((w.settle request).andThen f) where
  ordered := by
    have hone : (w.settle request).settled.Sublist [request] := by
      rw [Worker.settle, settled]
      split
      · exact List.Sublist.refl _
      · exact List.nil_sublist _
    rw [settled_andThen, List.append_assoc]
    exact hone.append hf.ordered
  leftover := hf.leftover
  fresh := hf.fresh
  prompt := hf.prompt
  connecting := hf.connecting

end Serves

end Turn

namespace Worker

variable {w : Worker}

/-! ### Turns that spare the link -/

theorem spares_rest (w : Worker) : Turn.Spares w { worker := w } := ⟨rfl, rfl⟩

theorem spares_enter (w : Worker) (state : ConnectionState) (reason : StatusReason) :
    (w.enter state reason).Spares w := by
  unfold enter
  split
  · exact spares_rest w
  · exact ⟨rfl, rfl⟩

theorem spares_track {α : Type} (w : Worker) (change : Change DeliveryTracker α) :
    (w.track change).Spares w where
  unsettled := by simp [track, Turn.settled, Effect.settle?]
  busy := rfl

theorem spares_answerWaiters (w : Worker) (result : Except Fault Unit) :
    (w.answerWaiters result).Spares w where
  unsettled := by simp [answerWaiters, Turn.settled, Effect.settle?]
  busy := rfl

theorem spares_release (w : Worker) : w.release.Spares w := ⟨rfl, rfl⟩

theorem spares_shut (w : Worker) (reason : StatusReason) (fault : Fault) :
    (w.shut reason fault).Spares w :=
  ((spares_enter _ _ _).andThen (spares_track _ _)).andThen (spares_answerWaiters _ _)

theorem spares_close (w : Worker) : w.close.Spares w := by
  rw [close]
  refine .of_busy (v := w.forgetPlans) (.andThen ?_ (spares_shut _ _ _)) rfl
  split
  · exact spares_rest _
  · exact spares_release _

theorem spares_giveUp (w : Worker) (fault : Fault) : (w.giveUp fault).Spares w :=
  .of_busy (v := w.forgetPlans) ((spares_release _).andThen (spares_shut _ _ _)) rfl

theorem spares_planReconnect (w : Worker) (now : Nat) (fault : Fault) :
    (w.planReconnect now fault).Spares w := by
  rw [planReconnect]
  split
  · exact spares_giveUp w fault
  · exact ⟨rfl, rfl⟩

theorem spares_connectFailed (w : Worker) (now : Nat) (fault : Fault) :
    (w.connectFailed now fault).Spares w := by
  refine .andThen ((spares_release w).andThen ?_) (spares_planReconnect _ now fault)
  split
  · exact spares_enter _ _ _
  · exact spares_rest _

theorem spares_linkLost (w : Worker) (now : Nat) (fault : Fault) :
    (w.linkLost now fault).Spares w := by
  unfold linkLost
  split
  · refine .andThen ((spares_release w).andThen ?_) (spares_planReconnect _ now fault)
    exact .of_busy (spares_enter _ _ _) rfl
  · exact spares_rest w

theorem spares_connectionUp (w : Worker) (now : Nat) (reason : StatusReason) :
    (w.connectionUp now reason).Spares w := by
  rw [connectionUp]
  exact .of_busy (.andThen (.andThen (spares_enter _ _ _) (spares_answerWaiters _ _))
    ⟨rfl, rfl⟩) rfl

theorem spares_enqueue (w : Worker) (id : Nat) : Turn.Spares w { worker := w.enqueue id } := by
  unfold enqueue
  split <;> exact ⟨rfl, rfl⟩

theorem spares_resend (w : Worker) (now id : Nat) : (w.resend now id).Spares w := by
  rw [resend]
  refine .andThen (spares_track w _) ?_
  split
  · exact spares_enqueue _ _
  · exact spares_rest _

theorem spares_resendAll (now : Nat) (ids : List Nat) (w : Worker) :
    (resendAll now ids w).Spares w := by
  induction ids generalizing w with
  | nil => exact spares_rest w
  | cons id ids ih => exact (spares_resend w now id).andThen (ih _)

/-! ### Doing what is left to do -/

/-- The link begins something. -/
theorem serves_start (w : Worker) (now : Nat) {job : Job} {effect : Effect} {next : List Task}
    (heffect : effect.settle? = none) (hprompt : Task.Prompt next)
    (hconnecting : ∀ reason, job = .connecting reason → Task.settles next = []) :
    Turn.Serves [] (Task.settles next) (w.start now job effect next) where
  ordered := by simp [start, Turn.settled, heffect, leftover]
  leftover := by simp [start, leftover]
  fresh := rfl
  prompt b busy := by
    obtain rfl := Option.some.inj busy
    exact hprompt
  connecting h := by
    obtain ⟨reason, hjob⟩ := job_of_isConnecting rfl h
    exact hconnecting reason hjob

/-- The link begins to connect. -/
theorem serves_connect (w : Worker) (now : Nat) (reason : StatusReason) {next : List Task}
    (hnext : Task.settles next = []) :
    Turn.Serves [] (Task.settles next) (w.connect now reason next) :=
  serves_start w now rfl (Task.prompt_of_settles_eq_nil hnext) fun _ _ => hnext

/-- **What is left to do serves the requests among it.** -/
theorem serves_run (idle : w.busy = none) (now : Nat) {tasks : List Task}
    (hprompt : Task.Prompt tasks) : Turn.Serves [] (Task.settles tasks) (run now tasks w) := by
  induction tasks generalizing w with
  | nil => exact .of_idle idle rfl
  | cons task tasks ih =>
    cases task with
    | settle request => exact (Turn.Serves.after_settle request (ih idle hprompt)).weaken
    | flush =>
      rw [run]
      split
      · split
        · exact serves_start _ now rfl hprompt fun _ hjob => by cases hjob
        · exact ih idle hprompt
      · exact ih idle hprompt
    | reconnect due =>
      rw [run]
      split
      · exact serves_connect _ now _ hprompt
      · exact ih idle (Task.prompt_of_settles_eq_nil hprompt)
    | renew due =>
      rw [run]
      split
      · refine .after_spares ((spares_release _).andThen (spares_enter _ _ _)) ?_
        exact serves_connect _ now _ hprompt
      · exact ih idle (Task.prompt_of_settles_eq_nil hprompt)

/-- Requests that stand before everything else that is left to do are none of them put off again. -/
theorem serves_run_settles (idle : w.busy = none) (now : Nat) {tasks : List Task}
    (hprompt : Task.Prompt tasks) (requests : List SettleRequest) :
    Turn.Serves requests (Task.settles tasks) (run now (requests.map .settle ++ tasks) w) := by
  induction requests generalizing w with
  | nil => exact serves_run idle now hprompt
  | cons request requests ih => exact .after_settle request (ih idle)

/-- **The link's work is over**: what came meanwhile is carried out first. -/
theorem serves_afterwards (idle : w.busy = none) {t : Turn} (ht : t.Spares w) (now : Nat) {b : Busy}
    (hprompt : Task.Prompt b.next) :
    Turn.Serves b.deferred (Task.settles b.next) (t.andThen (run now (afterwards b))) :=
  .after_spares ht (serves_run_settles (ht.busy.trans idle) now hprompt b.deferred)

/-- **Connecting succeeded**: messages are handed over again before anything else. -/
theorem serves_connected (idle : w.busy = none) (now : Nat) (reason : StatusReason) {b : Busy}
    (hprompt : Task.Prompt b.next) :
    Turn.Serves [] (b.deferred ++ Task.settles b.next)
      ((w.connectionUp now reason).andThen (run now (.flush :: afterwards b))) := by
  have hup := spares_connectionUp w now reason
  have hflush : Task.Prompt (.flush :: afterwards b) := Task.prompt_map_settle hprompt b.deferred
  have hsettles : Task.settles (.flush :: afterwards b) = b.deferred ++ Task.settles b.next :=
    Task.settles_map_settle b.deferred b.next
  rw [← hsettles]
  exact .after_spares hup (serves_run (hup.busy.trans idle) now hflush)

theorem serves_connectEnded (idle : w.busy = none) (now : Nat) {b : Busy} (reason : StatusReason)
    (hprompt : Task.Prompt b.next) (result : Except Fault Unit) :
    Turn.Serves [] (b.deferred ++ Task.settles b.next) (w.connectEnded now b reason result) := by
  cases result with
  | ok => exact serves_connected idle now reason hprompt
  | error fault =>
    exact (serves_afterwards idle (spares_connectFailed w now fault) now hprompt).weaken

theorem serves_sendEnded (idle : w.busy = none) (now : Nat) {b : Busy} (id : Nat)
    (hprompt : Task.Prompt b.next) (result : Except Fault SendOutcome) :
    Turn.Serves b.deferred (Task.settles b.next) (w.sendEnded now b id result) := by
  unfold sendEnded
  refine serves_afterwards idle ?_ now hprompt
  match result with
  | .ok (.acknowledged response) => exact spares_track _ _
  | .ok .awaiting => exact spares_rest w
  | .error fault =>
    refine .andThen (spares_track _ _) ?_
    split
    · exact spares_linkLost _ now fault
    · exact spares_rest _

theorem serves_interrupted (idle : w.busy = none) (now : Nat) {b : Busy}
    (hprompt : Task.Prompt b.next) (reply : Option Nat) :
    Turn.Serves b.deferred (Task.settles b.next) (w.interrupted now b reply) := by
  refine serves_afterwards idle (.andThen (spares_close w) ?_) now hprompt
  split <;> exact ⟨rfl, rfl⟩

theorem serves_wake (idle : w.busy = none) (now : Nat) : Turn.Serves [] [] (w.wake now) := by
  have hwoken : Turn.Spares w ((w.track (w.tracker.expire now)).andThen fun w =>
      if w.state = .open then
        resendAll now (w.tracker.dueForResend now w.terms.ackTimeout) w
      else { worker := w }) := by
    refine .andThen (spares_track _ _) ?_
    split
    · exact spares_resendAll now _ _
    · exact spares_rest _
  have hprompt : Task.Prompt [.flush, .reconnect now, .renew now] := rfl
  exact .after_spares hwoken (serves_run (hwoken.busy.trans idle) now hprompt)

end Worker

/-! ## Steps -/

/-- A request came while the worker was at something. -/
def History.AskedWhile (doing : Worker → Bool) (h : List Occurrence) (request : SettleRequest) :
    Prop :=
  ∃ v now, .took v now (.command (.settle request)) ∈ h ∧ doing v = true

theorem History.AskedWhile.mono {doing : Worker → Bool} {h k : List Occurrence}
    {request : SettleRequest} (hasked : AskedWhile doing h request) (hsub : h ⊆ k) :
    AskedWhile doing k request := by
  obtain ⟨v, now, hmem, hdoing⟩ := hasked
  exact ⟨v, now, hsub hmem, hdoing⟩

open History in
/-- **Requests are arranged** in a worker with a history by what the link did when they came. -/
structure Worker.Arranged (h : List Occurrence) (w : Worker) : Prop where
  /-- While the link connects, those were put off that came since it does. -/
  connecting : w.isConnecting → ∀ request ∈ w.deferred, AskedWhile isConnecting h request
  /-- While it sends, the last ones put off came since it does. -/
  sending : w.isSending → ∀ request ∈ w.deferred, AskedWhile isSending h request
  /-- Those put off before came while it connected. -/
  earlier : ∀ request ∈ w.leftover, AskedWhile isConnecting h request
  /-- None are put off from one connect to the next. -/
  renewed : w.isConnecting → w.leftover = []
  /-- They stand before whatever may connect the link. -/
  prompt : ∀ b, w.busy = some b → Task.Prompt b.next

namespace Worker

variable {h k : List Occurrence} {w v : Worker}

/-- What the link does is all that matters of the worker. -/
theorem Arranged.of_busy (hw : w.Arranged h) (hbusy : v.busy = w.busy) : v.Arranged h := by
  have hconnecting : v.isConnecting = w.isConnecting := by rw [isConnecting, hbusy, isConnecting]
  have hsending : v.isSending = w.isSending := by rw [isSending, hbusy, isSending]
  constructor
  · rw [hconnecting, deferred_congr hbusy]
    exact hw.connecting
  · rw [hsending, deferred_congr hbusy]
    exact hw.sending
  · rw [leftover_congr hbusy]
    exact hw.earlier
  · rw [hconnecting, leftover_congr hbusy]
    exact hw.renewed
  · rw [hbusy]
    exact hw.prompt

theorem Arranged.mono (hw : w.Arranged h) (hsub : h ⊆ k) : w.Arranged k where
  connecting hc request hmem := (hw.connecting hc request hmem).mono hsub
  sending hs request hmem := (hw.sending hs request hmem).mono hsub
  earlier request hmem := (hw.earlier request hmem).mono hsub
  renewed := hw.renewed
  prompt := hw.prompt

end Worker

open History in
/-- A turn that serves requests leaves them arranged, if the rest came while the link connected. -/
theorem Turn.Serves.arranged {h : List Occurrence} {first rest : List SettleRequest} {t : Turn}
    (ht : t.Serves first rest)
    (hrest : ∀ request ∈ rest, AskedWhile Worker.isConnecting h request) :
    t.worker.Arranged h where
  connecting _ request hmem := by
    rw [ht.fresh] at hmem
    cases hmem
  sending _ request hmem := by
    rw [ht.fresh] at hmem
    cases hmem
  earlier request hmem := hrest request (ht.leftover.subset hmem)
  renewed := ht.connecting
  prompt := ht.prompt

/-- **A turn of a worker keeps the order** of requests, with perhaps one more that came: it carries
out and puts off some in order, the new one behind those that came since the link is busy, and
leaves them arranged. -/
structure Turn.KeepsOrder (h : List Occurrence) (w : Worker) (arrival : List SettleRequest)
    (t : Turn) : Prop where
  ordered : (t.settled ++ (t.worker.deferred ++ t.worker.leftover)).Sublist
    (w.deferred ++ (arrival ++ w.leftover))
  arranged : t.worker.Arranged h

namespace Turn.KeepsOrder

variable {h : List Occurrence} {w : Worker} {t : Turn}

/-- A turn that spares the link. -/
theorem of_spares (hw : w.Arranged h) (ht : t.Spares w) : KeepsOrder h w [] t where
  ordered := by
    rw [ht.unsettled, List.nil_append, List.nil_append, Worker.deferred_congr ht.busy,
      Worker.leftover_congr ht.busy]
  arranged := hw.of_busy ht.busy

/-- A turn that serves the requests put off. -/
theorem of_serves {first rest : List SettleRequest} (ht : t.Serves first rest)
    (heq : first ++ rest = w.deferred ++ w.leftover)
    (hrest : ∀ request ∈ rest, History.AskedWhile Worker.isConnecting h request) :
    KeepsOrder h w [] t where
  ordered := by
    rw [ht.fresh, List.nil_append, List.nil_append, ← heq]
    exact ht.ordered
  arranged := ht.arranged hrest

end Turn.KeepsOrder

namespace Worker

variable {h : List Occurrence} {w : Worker}

/-- **The link's work is over** after something that spares the link. -/
theorem keepsOrder_of_serves {b : Busy} (hw : w.Arranged h) (busy : w.busy = some b) {t : Turn}
    (ht : t.Serves b.deferred (Task.settles b.next)) : t.KeepsOrder h w [] := by
  refine .of_serves ht ?_ ?_
  · rw [deferred_of_busy busy, leftover_of_busy busy]
  · rw [← leftover_of_busy busy]
    exact hw.earlier

/-- Connecting ended. -/
theorem keepsOrder_connectEnded {b : Busy} (hw : w.Arranged h) (busy : w.busy = some b)
    {reason : StatusReason} (job : b.job = .connecting reason) (now : Nat)
    (result : Except Fault Unit) :
    ({ w with busy := none }.connectEnded now b reason result).KeepsOrder h w [] := by
  have hconnecting := isConnecting_of_job busy job
  refine .of_serves (serves_connectEnded rfl now reason (hw.prompt b busy) result) ?_ ?_
  · rw [deferred_of_busy busy, leftover_of_busy busy, List.nil_append]
  · intro request hmem
    rw [List.mem_append, ← deferred_of_busy busy, ← leftover_of_busy busy] at hmem
    obtain hmem | hmem := hmem
    · exact hw.connecting hconnecting request hmem
    · exact hw.earlier request hmem

/-- A command comes while the link is busy. -/
theorem keepsOrder_commandWhileBusy {b : Busy} (hw : w.Arranged h) (busy : w.busy = some b)
    (now : Nat) {c : Command} (hc : ∀ request, c ≠ .settle request) :
    (w.commandWhileBusy now b c).KeepsOrder h w [] := by
  cases c with
  | «open» reply =>
    refine .of_spares hw ?_
    rw [commandWhileBusy]
    split <;> exact ⟨rfl, rfl⟩
  | close reply =>
    have idle : ({ w with busy := none } : Worker).busy = none := rfl
    rw [commandWhileBusy]
    exact keepsOrder_of_serves hw busy (serves_interrupted idle now (hw.prompt b busy) _)
  | submit message completion deadline =>
    refine .of_spares hw ?_
    rw [commandWhileBusy]
    refine .andThen (spares_track w _) ?_
    split <;> exact ⟨rfl, rfl⟩
  | cancel id => exact .of_spares hw (spares_track _ _)
  | settle request => exact absurd rfl (hc request)

/-- Something else happens while the link is busy. -/
theorem keepsOrder_stepBusy {b : Busy} (hw : w.Arranged h) (busy : w.busy = some b) (now : Nat)
    {input : Input} (hinput : input.settle? = none) :
    (w.stepBusy now b input).KeepsOrder h w [] := by
  have hprompt := hw.prompt b busy
  have idle : ({ w with busy := none } : Worker).busy = none := rfl
  cases input with
  | command c =>
    exact keepsOrder_commandWhileBusy hw busy now (by rintro request rfl; cases hinput)
  | abandoned =>
    rw [stepBusy]
    exact keepsOrder_of_serves hw busy (serves_interrupted idle now hprompt _)
  | timer => exact .of_spares hw (spares_track _ _)
  | event e => exact .of_spares hw (spares_rest w)
  | connected result =>
    cases job : b.job with
    | connecting reason =>
      simp only [stepBusy, job]
      exact keepsOrder_connectEnded hw busy job now result
    | sending id =>
      simp only [stepBusy, job]
      exact .of_spares hw (spares_rest w)
  | sent result =>
    cases job : b.job with
    | connecting reason =>
      simp only [stepBusy, job]
      exact .of_spares hw (spares_rest w)
    | sending id =>
      simp only [stepBusy, job]
      exact keepsOrder_of_serves hw busy (serves_sendEnded idle now id hprompt result)
  | overtime =>
    cases job : b.job with
    | connecting reason =>
      simp only [stepBusy, job]
      exact keepsOrder_connectEnded hw busy job now _
    | sending id =>
      simp only [stepBusy, job]
      exact keepsOrder_of_serves hw busy (serves_sendEnded idle now id hprompt _)

/-- A worker at rest does something that serves no requests. -/
theorem keepsOrder_of_rest (idle : w.busy = none) {t : Turn} (ht : t.Serves [] []) :
    t.KeepsOrder h w [] :=
  .of_serves ht (by rw [deferred_of_idle idle, leftover_of_idle idle]) (by simp)

/-- A command comes to a worker at rest. -/
theorem keepsOrder_commandAtRest (hw : w.Arranged h) (idle : w.busy = none) (now : Nat)
    {c : Command} (hc : ∀ request, c ≠ .settle request) :
    (w.commandAtRest now c).KeepsOrder h w [] := by
  cases c with
  | «open» reply =>
    rw [commandAtRest]
    split
    · exact .of_spares hw ⟨rfl, rfl⟩
    · exact .of_spares hw ⟨rfl, rfl⟩
    · exact .of_spares hw ⟨rfl, rfl⟩
    · split
      · exact .of_spares hw ⟨rfl, rfl⟩
      · refine keepsOrder_of_rest idle (.after_spares (.of_busy (spares_enter _ _ _) rfl) ?_)
        have hnone : Task.settles [] = [] := rfl
        exact serves_connect _ now .connected hnone
  | close reply =>
    rw [commandAtRest]
    exact .of_spares hw (.andThen (spares_close w) ⟨rfl, rfl⟩)
  | submit message completion deadline =>
    rw [commandAtRest]
    split
    · exact .of_spares hw ⟨rfl, rfl⟩
    · have htracked := spares_track w (w.tracker.submit message completion deadline)
      refine keepsOrder_of_rest idle (.after_spares htracked ?_)
      split
      · split
        · have hprompt : Task.Prompt [.flush] := trivial
          exact serves_run ((spares_enqueue _ _).busy.trans (htracked.busy.trans idle)) now hprompt
        · exact .of_idle idle rfl
      · exact .of_idle idle rfl
  | cancel id => exact .of_spares hw (spares_track _ _)
  | settle request => exact absurd rfl (hc request)

/-- Something else happens to a worker at rest. -/
theorem keepsOrder_stepAtRest (hw : w.Arranged h) (idle : w.busy = none) (now : Nat)
    {input : Input} (hinput : input.settle? = none) :
    (w.stepAtRest now input).KeepsOrder h w [] := by
  cases input with
  | command c => exact keepsOrder_commandAtRest hw idle now (by rintro request rfl; cases hinput)
  | abandoned =>
    rw [stepAtRest]
    exact .of_spares hw (.andThen (spares_close w) ⟨rfl, rfl⟩)
  | timer => exact keepsOrder_of_rest idle (serves_wake idle now)
  | event e =>
    rw [stepAtRest]
    split
    · cases e with
      | error fault => exact .of_spares hw (spares_linkLost w now fault)
      | ok news =>
        cases news with
        | acknowledged id response => exact .of_spares hw (spares_track _ _)
        | rejected id fault => exact .of_spares hw (spares_track _ _)
        | notification n => exact .of_spares hw ⟨rfl, rfl⟩
        | disconnected fault => exact .of_spares hw (spares_linkLost w now fault)
    · exact .of_spares hw (spares_rest w)
  | connected _ | sent _ | overtime => exact .of_spares hw (spares_rest w)

/-- What kind of thing the link does is told by its job. -/
theorem doing_congr {v : Worker} {b c : Busy} (hv : v.busy = some b) (hw : w.busy = some c)
    (job : b.job = c.job) : v.isConnecting = w.isConnecting ∧ v.isSending = w.isSending := by
  obtain ⟨_, _, _, _⟩ := b
  obtain ⟨_, _, _, _⟩ := c
  obtain rfl : _ = _ := job
  rename_i kind _ _ _ _ _ _
  cases kind <;> simp [isConnecting, isSending, hv, hw]

/-- A request comes while the link is busy. -/
theorem keepsOrder_deferred {b : Busy} (hw : w.Arranged h) (busy : w.busy = some b) (now : Nat)
    (request : SettleRequest) :
    (w.commandWhileBusy now b (.settle request)).KeepsOrder
      (h ++ [.took w now (.command (.settle request))]) w [request] := by
  have hlater := hw.mono (List.subset_append_left h [.took w now (.command (.settle request))])
  have hasked (doing : Worker → Bool) (hdoing : doing w = true)
      (hearlier : ∀ r ∈ w.deferred, History.AskedWhile doing h r) :
      ∀ r ∈ b.deferred ++ [request],
        History.AskedWhile doing (h ++ [.took w now (.command (.settle request))]) r := by
    intro r hmem
    rw [List.mem_append, ← deferred_of_busy busy, List.mem_singleton] at hmem
    obtain hmem | rfl := hmem
    · exact (hearlier r hmem).mono (List.subset_append_left _ _)
    · exact ⟨w, now, by simp, hdoing⟩
  rw [commandWhileBusy]
  generalize hv :
    ({ w with busy := some { b with deferred := b.deferred ++ [request] } } : Worker) = v
  have hbusy : v.busy = some { b with deferred := b.deferred ++ [request] } := by rw [← hv]
  obtain ⟨hconnecting, hsending⟩ := doing_congr hbusy busy rfl
  have hdeferred := deferred_of_busy hbusy
  have hleftover : v.leftover = w.leftover := by
    rw [leftover_of_busy hbusy, leftover_of_busy busy]
  refine ⟨?_, ?_, ?_, ?_, ?_, ?_⟩
  · rw [hdeferred, hleftover, deferred_of_busy busy, List.append_assoc]
    exact List.Sublist.refl _
  · rw [hconnecting, hdeferred]
    exact fun hdoing => hasked _ hdoing (hw.connecting hdoing)
  · rw [hsending, hdeferred]
    exact fun hdoing => hasked _ hdoing (hw.sending hdoing)
  · rw [hleftover]
    exact hlater.earlier
  · rw [hconnecting, hleftover]
    exact hw.renewed
  · intro b' hb'
    rw [hbusy] at hb'
    obtain rfl := Option.some.inj hb'
    exact hw.prompt b busy

/-- A link that sends does not connect. -/
theorem isConnecting_of_isSending (h : w.isSending = true) : w.isConnecting = false := by
  unfold isSending at h
  split at h
  · rename_i busy
    simp [isConnecting, busy]
  · cases h

/-- Requests were put off before only while the link sends. -/
theorem Arranged.isSending_of_mem (hw : w.Arranged h) {request : SettleRequest}
    (hmem : request ∈ w.leftover) : w.isSending = true := by
  cases busy : w.busy with
  | none =>
    rw [leftover_of_idle busy] at hmem
    cases hmem
  | some b =>
    cases job : b.job with
    | connecting reason =>
      rw [hw.renewed (isConnecting_of_job busy job)] at hmem
      cases hmem
    | sending id =>
      obtain ⟨_, _, _, _⟩ := b
      obtain rfl : _ = Job.sending id := job
      rw [isSending, busy]

/-- A request comes to a worker at rest. -/
theorem keepsOrder_settle (hw : w.Arranged h) (idle : w.busy = none) (request : SettleRequest) :
    (w.settle request).KeepsOrder h w [request] where
  ordered := by
    rw [settle, Turn.settled, deferred_of_idle idle, leftover_of_idle idle]
    split <;> simp [Effect.settle?]
  arranged := hw.of_busy rfl

/-- **A step keeps the order of requests.** -/
theorem keepsOrder_step (hw : w.Arranged h) (now : Nat) {input : Input} (takes : w.takes input) :
    (w.step now input).KeepsOrder (h ++ [.took w now input]) w input.settle?.toList := by
  have hlater := hw.mono (List.subset_append_left h [.took w now input])
  have going := going_of_takes takes
  cases busy : w.busy with
  | some b =>
    rw [step_of_busy going busy]
    cases hinput : input.settle? with
    | none => exact keepsOrder_stepBusy hlater busy now hinput
    | some request =>
      obtain rfl : input = .command (.settle request) := by
        unfold Input.settle? at hinput
        split at hinput <;> simp_all
      exact keepsOrder_deferred hw busy now request
  | none =>
    rw [step_of_idle going busy]
    cases hinput : input.settle? with
    | none => exact keepsOrder_stepAtRest hlater busy now hinput
    | some request =>
      obtain rfl : input = .command (.settle request) := by
        unfold Input.settle? at hinput
        split at hinput <;> simp_all
      exact keepsOrder_settle hlater busy request

end Worker

end HubLink
