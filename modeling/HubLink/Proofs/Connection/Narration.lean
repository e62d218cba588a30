import HubLink.Proofs.Connection.Warrant

/-! # What a worker tells and answers

Every turn of a worker speaks only what is warranted and accounts for the answers that are owed.
There is one such statement for each turn, and those for steps are put together from them
(`Worker.speaks_step`). So along a run every effect is warranted by what was seen before
(`Worker.warranted_of_run`), and every request that was taken is answered once or still owed
(`Worker.accords_of_run`). -/

namespace HubLink

namespace Worker

section Turns

variable {terms : Terms} {xs : List (Nat × Input)} {q q' : Status} {w v : Worker}

/-! ## Changes of state -/

/-- A worker whose link is not busy accords with a status of its state while nothing is added. -/
theorem Accords.of_idle (ha : w.Accords terms xs q) (idle : v.busy = none)
    (state : q'.1 = v.state) (hterms : v.terms = w.terms) (waiters : v.waiters ⊆ w.waiters)
    (planned : v.renewAt = w.renewAt ∨ v.renewAt = none) : v.Accords terms xs q' where
  state := state
  job := by simp [idle]
  waiters := fun token hmem => ha.waiters (waiters hmem)
  founded := by simp [idle]
  planned t ht := by
    obtain hsame | hnone := planned
    · exact ha.planned t (hsame.symm.trans ht)
    · rw [hnone] at ht
      cases ht
  terms := hterms.trans ha.terms

/-- A worker still accords when it forgets its plans. -/
theorem Accords.forgetPlans (ha : w.Accords terms xs q) (idle : w.busy = none) :
    w.forgetPlans.Accords terms xs q :=
  ha.of_idle idle ha.state rfl (List.Subset.refl _) (.inr rfl)

/-- A worker still accords when its link is not busy any more. -/
theorem Accords.unbusy (ha : w.Accords terms xs q) :
    Accords terms xs q { w with busy := none } :=
  ha.of_idle rfl ha.state rfl (List.Subset.refl _) (.inl rfl)

/-- The status after moving to a state. -/
theorem status_enter (w : Worker) (state : ConnectionState) (reason : StatusReason) (q : Status) :
    (w.enter state reason).effects.foldl Effect.status q =
      if w.state = state then q else (state, reason) := by
  unfold enter
  split <;> rfl

theorem speaks_enter (ha : w.Accords terms xs q) (idle : w.busy = none) {state : ConnectionState}
    {reason : StatusReason}
    (h : w.state ≠ state → Warranted terms xs q (.tell (.status state reason))) :
    (w.enter state reason).Speaks terms xs q w.owes := by
  unfold enter
  split
  · exact .rest ha
  · rename_i hne
    refine ⟨justified_singleton.2 (h hne), ?_, fun token => ?_⟩
    · exact ha.of_idle idle rfl rfl (List.Subset.refl _) (.inl rfl)
    · show 0 + w.owes token = w.owes token
      exact Nat.zero_add _

theorem speaks_release (ha : w.Accords terms xs q) : w.release.Speaks terms xs q w.owes :=
  .silent (by simp [Effect.isSilent]) ha fun _ => rfl

theorem speaks_track (ha : w.Accords terms xs q) {α : Type} (change : Change DeliveryTracker α) :
    (w.track change).Speaks terms xs q w.owes := by
  refine .silent ?_ { ha with } fun _ => rfl
  simp [Effect.isSilent]

/-- Whoever waits is answered once. -/
theorem speaks_answerWaiters (ha : w.Accords terms xs q) {result : Except Fault Unit}
    (h : ∀ token ∈ w.waiters, Warranted terms xs q (.reply token result)) :
    (w.answerWaiters result).Speaks terms xs q w.owes where
  justified := justified_replies h
  accords := by
    show Accords terms xs ((w.waiters.map (Effect.reply · result)).foldl Effect.status q) _
    rw [status_replies]
    exact { ha with waiters := List.nil_subset _ }
  accounts token := by
    have hreplies : (w.answerWaiters result).replies token = w.waiters.count token := by
      rw [answerWaiters, Turn.replies, List.countP_map, List.count_eq_countP]
      refine List.countP_congr fun k _ => ?_
      simp [Effect.repliesTo]
    rw [hreplies]
    show _ + (0 + _) = _ + _
    rw [Nat.zero_add]
    rfl

/-! ## The end of a connection -/

/-- **Closing the connection** for a reason is told, and everyone who waits is answered. -/
theorem speaks_shut (ha : w.Accords terms xs q) (idle : w.busy = none) {reason : StatusReason}
    {fault : Fault}
    (hclosed : w.state ≠ .closed → Warranted terms xs q (.tell (.status .closed reason)))
    (hreply : ∀ token ∈ w.waiters,
      Warranted terms xs (if w.state = .closed then q else (.closed, reason))
        (.reply token (.error fault))) :
    (w.shut reason fault).Speaks terms xs q w.owes := by
  have hentered := speaks_enter ha idle hclosed
  have htracked := hentered.andThen (f := fun w => w.track (w.tracker.failAll fault))
    (speaks_track hentered.accords _)
  refine htracked.andThen (speaks_answerWaiters htracked.accords fun token hmem => ?_)
  have hstatus : ((w.enter .closed reason).andThen fun w =>
      w.track (w.tracker.failAll fault)).effects.foldl Effect.status q =
        if w.state = .closed then q else (.closed, reason) := by
    rw [Turn.andThen_effects, List.foldl_append, status_enter]
    exact status_of_isSilent (by simp [track, Effect.isSilent])
  rw [hstatus]
  refine hreply token ?_
  rw [Turn.andThen_worker, enter_worker] at hmem
  exact hmem

/-- Closing the connection for the caller. -/
theorem speaks_close (ha : w.Accords terms xs q) (idle : w.busy = none) {i : Nat × Input}
    (last : xs.getLast? = some i) (closes : i.2.closes) :
    w.close.Speaks terms xs q w.owes := by
  have hforgot := ha.forgetPlans idle
  have hshut : (w.forgetPlans.shut .clientClose .cancelled).Speaks terms xs q w.owes := by
    refine speaks_shut hforgot idle (fun hstate => ?_) fun token hmem => ?_
    · refine .closed last closes ?_
      rw [ha.state]
      exact hstate
    · refine .cancelled (ha.waiters hmem) last closes ?_
      split
      · rename_i hclosed
        rw [ha.state]
        exact hclosed
      · rfl
  rw [close]
  split
  · rw [Turn.andThen_of_rest]
    exact hshut
  · exact (speaks_release hforgot).andThen hshut

section Setbacks

variable {i : Nat × Input} {fault : Fault}

/-- Closing the connection because of a fault. -/
theorem speaks_giveUp (ha : w.Accords terms xs q) (idle : w.busy = none)
    (last : xs.getLast? = some i) (setback : i.2.setback? = some fault)
    (hstate : w.state = .reconnecting ∨ w.state = .opening ∧ fault.isTransient = false) :
    (w.giveUp fault).Speaks terms xs q w.owes := by
  have hne : w.state ≠ .closed := by
    obtain h | ⟨h, -⟩ := hstate <;> simp [h]
  have hforgot := ha.forgetPlans idle
  refine (speaks_release hforgot).andThen (speaks_shut hforgot idle (fun _ => ?_) ?_)
  · refine .failed last setback ?_
    rw [show _ = w.state from ha.state]
    exact hstate
  · intro token hmem
    rw [if_neg (show w.forgetPlans.state ≠ .closed from hne)]
    exact .ended (ha.waiters hmem) last setback rfl

/-- Another attempt is planned in silence. -/
theorem speaks_planReconnect (ha : w.Accords terms xs q) (idle : w.busy = none)
    (last : xs.getLast? = some i) (setback : i.2.setback? = some fault)
    (hstate : w.state = .reconnecting ∨ w.state = .opening ∧ fault.isTransient = false)
    (now : Nat) : (w.planReconnect now fault).Speaks terms xs q w.owes := by
  obtain heq | ⟨-, due, heq⟩ := planReconnect_eq w now fault
  · rw [heq]
    exact speaks_giveUp ha idle last setback hstate
  · rw [heq]
    refine .silent (by simp) ?_ fun _ => rfl
    exact ha.of_idle idle ha.state rfl (List.Subset.refl _) (.inl rfl)

/-- **Connecting failed.** -/
theorem speaks_connectFailed (ha : w.Accords terms xs q) (idle : w.busy = none)
    (last : xs.getLast? = some i) (setback : i.2.setback? = some fault)
    (hs : w.state = .opening ∨ w.state = .reconnecting) (now : Nat) :
    (w.connectFailed now fault).Speaks terms xs q w.owes := by
  have hreleased := speaks_release ha
  rw [connectFailed]
  by_cases hc : w.state = .opening ∧ fault.isTransient
  · -- A first connect that may succeed yet: from now on the worker connects again.
    have hentered := hreleased.andThen
      (f := fun w => if w.state = .opening ∧ fault.isTransient then
          w.enter .reconnecting .communicationError
        else { worker := w }) (by
      rw [if_pos (by exact hc)]
      refine speaks_enter hreleased.accords idle fun _ => .stumbled last setback ?_
      exact ha.state.trans hc.1)
    refine hentered.andThen (speaks_planReconnect hentered.accords ?_ last setback (.inl ?_) now)
    · simp only [release, Turn.andThen, hc, and_self, ↓reduceIte, enter_worker]
      exact idle
    · simp only [release, Turn.andThen, hc, and_self, ↓reduceIte, enter_worker]
  · have hstate : w.state = .reconnecting ∨ w.state = .opening ∧ fault.isTransient = false := by
      rcases hs with hopening | hre
      · exact .inr ⟨hopening, by simpa [hopening] using hc⟩
      · exact .inl hre
    have hkept := hreleased.andThen
      (f := fun w => if w.state = .opening ∧ fault.isTransient then
          w.enter .reconnecting .communicationError
        else { worker := w }) (by
      rw [if_neg (by exact hc)]
      exact .rest hreleased.accords)
    refine hkept.andThen (speaks_planReconnect hkept.accords ?_ last setback ?_ now)
    · simp only [release, Turn.andThen, hc, ↓reduceIte]
      exact idle
    · simp only [release, Turn.andThen, hc, ↓reduceIte]
      exact hstate

/-- **The link was lost.** -/
theorem speaks_linkLost (ha : w.Accords terms xs q) (idle : w.busy = none)
    (last : xs.getLast? = some i) (setback : i.2.setback? = some fault)
    (hopen : w.state = .open) (now : Nat) :
    (w.linkLost now fault).Speaks terms xs q w.owes := by
  have hforgot : Accords terms xs q { w with renewAt := none, queue := [] } :=
    ha.of_idle idle ha.state rfl (List.Subset.refl _) (.inr rfl)
  have hentered := (speaks_release ha).andThen
    (f := fun w => { w with renewAt := none, queue := [] }.enter .reconnecting .connectionLost)
    (by exact speaks_enter hforgot idle fun _ => .lost last setback (ha.state.trans hopen))
  rw [linkLost, if_pos hopen]
  refine hentered.andThen (speaks_planReconnect hentered.accords ?_ last setback (.inl ?_) now)
  · rw [Turn.andThen_worker, enter_worker]
    exact idle
  · rw [Turn.andThen_worker, enter_worker]

end Setbacks

/-! ## The link up -/

/-- **Connecting succeeded.** -/
theorem speaks_connectionUp (ha : w.Accords terms xs q) (idle : w.busy = none) {now : Nat}
    (last : xs.getLast? = some (now, .connected (.ok ())))
    (hs : w.state = .opening ∨ w.state = .reconnecting) {reason : StatusReason}
    (which : reason = .connected ∨ reason = .tokenRenewal ∧ q = (.reconnecting, .tokenRenewal)) :
    (w.connectionUp now reason).Speaks terms xs q w.owes := by
  have hup : Accords terms xs q
      { w with
        attempt := 0, reconnectAt := none, renewAt := w.terms.renewal.map (deadlineAfter now)
        queue := w.tracker.outstanding } := by
    refine { ha with job := by simp [idle], founded := by simp [idle], planned := fun t ht => ?_ }
    obtain ⟨renewal, hrenewal, rfl⟩ := Option.map_eq_some_iff.1 ht
    refine ⟨now, renewal, Inputs.lastConnect_of_last last, ?_, rfl⟩
    rw [← ha.terms]
    exact hrenewal
  have hne : w.state ≠ .open := by
    obtain h | h := hs <;> simp [h]
  have hentered : (enter { w with
        attempt := 0, reconnectAt := none, renewAt := w.terms.renewal.map (deadlineAfter now)
        queue := w.tracker.outstanding } .open reason).Speaks terms xs q _ :=
    speaks_enter hup idle fun _ => .connected last (by rw [ha.state]; exact hs) which
  rw [connectionUp_eq]
  refine hentered.andThen (speaks_answerWaiters hentered.accords fun token hmem => ?_)
  rw [status_enter, if_neg (by exact hne)]
  rw [enter_worker] at hmem
  exact .opened (ha.waiters hmem) rfl

/-! ## Tasks -/

/-- Settling leaves the status as it is. -/
theorem status_settle (w : Worker) (request : SettleRequest) (q : Status) :
    (w.settle request).effects.foldl Effect.status q = q := by
  unfold settle
  split <;> rfl

/-- Settling answers the request, now or when the link has done it. -/
theorem speaks_settle (ha : w.Accords terms xs q) {request : SettleRequest}
    (asked : request ∈ Inputs.settlements xs) :
    (w.settle request).Speaks terms xs q fun token =>
      w.owes token + Task.owes [.settle request] token := by
  refine ⟨?_, ?_, fun token => ?_⟩
  · unfold settle
    split
    · rename_i hopen
      exact justified_singleton.2 (.settles asked (ha.state.trans hopen))
    · rename_i hne
      refine justified_singleton.2 (.unsettled asked ?_)
      rw [ha.state]
      exact hne
  · rw [status_settle]
    exact ha
  · have hreplies : (w.settle request).replies token = Task.owes [.settle request] token := by
      unfold settle
      split <;> simp [Turn.replies, Effect.repliesTo, Task.owes, Task.token?, List.countP_cons,
        List.count_cons]
    rw [hreplies, Nat.add_comm]
    rfl

/-- The link starts with a job, and what is left to do is put off. -/
theorem speaks_start (ha : w.Accords terms xs q) (idle : w.busy = none) (now : Nat) {job : Job}
    {e : Effect} {next : List Task} (he : e.isSilent) (hf : Task.Founded xs next)
    (hjob : ∀ reason, job = .connecting reason →
      reason = .connected ∨ reason = .tokenRenewal ∧ q = (.reconnecting, .tokenRenewal)) :
    (w.start now job e next).Speaks terms xs q fun token =>
      w.owes token + Task.owes next token := by
  refine .silent (List.forall_mem_singleton.2 he) { ha with job := ?_, founded := ?_ } ?_
  · rintro _ reason ⟨⟩
    exact hjob reason
  · rintro _ ⟨⟩
    exact hf
  · intro token
    rw [owes, owes, idle]
    rfl

/-- The link starts connecting. -/
theorem speaks_connect (ha : w.Accords terms xs q) (idle : w.busy = none) (now : Nat)
    {reason : StatusReason}
    (which : reason = .connected ∨ reason = .tokenRenewal ∧ q = (.reconnecting, .tokenRenewal))
    {next : List Task} (hf : Task.Founded xs next) :
    (w.connect now reason next).Speaks terms xs q fun token =>
      w.owes token + Task.owes next token :=
  speaks_start ha idle now rfl hf fun _ heq => Job.connecting.inj heq ▸ which

/-- **What is left to do** answers the requests that were put off, or leaves them to be answered. -/
theorem speaks_run (ha : w.Accords terms xs q) (idle : w.busy = none) (now : Nat)
    {tasks : List Task} (hf : Task.Founded xs tasks) :
    (run now tasks w).Speaks terms xs q fun token => w.owes token + Task.owes tasks token := by
  -- The induction is on the tasks. Settling is answered at once; a task that makes the link busy
  -- puts off those behind it, whose answers the worker owes from then on.
  induction tasks generalizing w with
  | nil => exact .rest ha
  | cons task tasks ih =>
    cases task with
    | settle request =>
      rw [run]
      refine ((speaks_settle ha (hf.1 request (List.mem_cons_self ..))).andThen_more
        (k := Task.owes tasks) ?_).congr fun token => ?_
      · rw [status_settle]
        exact ih ha idle hf.tail
      · rw [Task.owes_cons _ tasks, Nat.add_assoc]
    | flush =>
      rw [run]
      split
      · split
        · -- What is left to do is put off until the message is handed over.
          rename_i id message tracker queue _
          exact speaks_start (w := { w with tracker, queue }) { ha with } idle now rfl hf
            (by rintro reason ⟨⟩)
        · exact ih (w := { w with queue := [] }) { ha with } idle hf.tail
      · exact ih ha idle hf.tail
    | reconnect due =>
      rw [run]
      split
      · exact speaks_connect (w := { w with reconnectAt := none }) { ha with } idle now (.inl rfl)
          hf.tail
      · exact ih ha idle hf.tail
    | renew due =>
      rw [run]
      split
      · -- The renewal was planned from the last connect on, and is due at the instant of an input.
        rename_i hdue
        obtain ⟨t, hplanned, hle⟩ := isDue_eq_true_iff.1 hdue.2
        obtain ⟨connect, renewal, since, renewable, rfl⟩ := ha.planned t hplanned
        obtain ⟨input, waking⟩ := hf.2 due (List.mem_cons_self ..)
        have hforgot : Accords terms xs q { w with renewAt := none } :=
          ha.of_idle idle ha.state rfl (List.Subset.refl _) (.inr rfl)
        have hentered := (speaks_release hforgot).andThen
          (f := (·.enter .reconnecting .tokenRenewal)) (by
            refine speaks_enter hforgot idle fun _ => ?_
            exact .renewing (ha.state.trans hdue.1) renewable since waking hle)
        have hstatus : (({ w with renewAt := none }.release).andThen
            (·.enter .reconnecting .tokenRenewal)).effects.foldl Effect.status q =
              (.reconnecting, .tokenRenewal) := by
          rw [Turn.andThen_effects, List.foldl_append, status_enter]
          exact if_neg (by simp [release, hdue.1])
        have haccords := hentered.accords
        rw [hstatus] at haccords
        refine hentered.andThen_more ?_
        rw [hstatus]
        refine speaks_connect haccords ?_ now (.inr ⟨rfl, rfl⟩) hf.tail
        rw [Turn.andThen_worker, enter_worker]
        exact idle
      · exact ih ha idle hf.tail

/-! ## The link at work -/

theorem busy_planReconnect (w : Worker) (now : Nat) (fault : Fault) :
    (w.planReconnect now fault).worker.busy = w.busy := by
  obtain heq | ⟨-, due, heq⟩ := planReconnect_eq w now fault
  · rw [heq, giveUp_worker]
    rfl
  · rw [heq]

theorem busy_connectFailed (w : Worker) (now : Nat) (fault : Fault) :
    (w.connectFailed now fault).worker.busy = w.busy := by
  rw [connectFailed, Turn.andThen_worker, busy_planReconnect, Turn.andThen_worker]
  split
  · rw [enter_worker]
    rfl
  · rfl

theorem busy_linkLost (w : Worker) (now : Nat) (fault : Fault) :
    (w.linkLost now fault).worker.busy = w.busy := by
  unfold linkLost
  split
  · rw [Turn.andThen_worker, busy_planReconnect, Turn.andThen_worker, enter_worker]
    rfl
  · rfl

theorem busy_connectionUp (w : Worker) (now : Nat) (reason : StatusReason) :
    (w.connectionUp now reason).worker.busy = w.busy := by
  rw [connectionUp_eq, Turn.andThen_worker, enter_worker]
  rfl

section Work

variable {i : Nat × Input} {b : Busy}

/-- **Connecting ended.** -/
theorem speaks_connectEnded (ha : w.Accords terms xs q) (idle : w.busy = none)
    (hf : Task.Founded xs (afterwards b)) (last : xs.getLast? = some i) (now : Nat)
    (hs : w.state = .opening ∨ w.state = .reconnecting) {reason : StatusReason}
    (which : reason = .connected ∨ reason = .tokenRenewal ∧ q = (.reconnecting, .tokenRenewal))
    {result : Except Fault Unit} (succeeded : result = .ok () → i = (now, .connected (.ok ())))
    (setback : ∀ fault, result = .error fault → i.2.setback? = some fault) :
    (w.connectEnded now b reason result).Speaks terms xs q fun token =>
      w.owes token + Task.owes (afterwards b) token := by
  cases result with
  | ok =>
    have hup := speaks_connectionUp ha idle (succeeded rfl ▸ last) hs which
    have hf' : Task.Founded xs (.flush :: afterwards b) :=
      ⟨fun request hmem => hf.1 request (by simpa using hmem),
        fun due hmem => hf.2 due (by simpa using hmem)⟩
    have hrun := speaks_run hup.accords (by rw [busy_connectionUp]; exact idle) now hf'
    exact hup.andThen_more hrun
  | error fault =>
    have hfailed := speaks_connectFailed ha idle last (setback fault rfl) hs now
    refine hfailed.andThen_more (speaks_run hfailed.accords ?_ now hf)
    rw [busy_connectFailed]
    exact idle

/-- **Handing a message over ended.** -/
theorem speaks_sendEnded (ha : w.Accords terms xs q) (idle : w.busy = none)
    (hf : Task.Founded xs (afterwards b)) (last : xs.getLast? = some i) (now id : Nat)
    (hopen : w.state = .open) {result : Except Fault SendOutcome}
    (setback : ∀ fault, result = .error fault → fault.breaksLink → i.2.setback? = some fault) :
    (w.sendEnded now b id result).Speaks terms xs q fun token =>
      w.owes token + Task.owes (afterwards b) token := by
  unfold sendEnded
  match result with
  | .ok (.acknowledged response) =>
    have htracked := speaks_track ha (w.tracker.acknowledge id response)
    exact htracked.andThen_more (speaks_run htracked.accords idle now hf)
  | .ok .awaiting => exact (Turn.Speaks.rest ha).andThen_more (speaks_run ha idle now hf)
  | .error fault =>
    have htracked := speaks_track ha (w.tracker.sendFailed w.terms.policy id fault now)
    have hlost := htracked.andThen
      (f := fun w => if fault.breaksLink then w.linkLost now fault else { worker := w }) (by
        split
        · rename_i hbreaks
          exact speaks_linkLost htracked.accords idle last (setback fault rfl hbreaks) hopen now
        · exact .rest htracked.accords)
    refine hlost.andThen_more (speaks_run hlost.accords ?_ now hf)
    rw [Turn.andThen_worker]
    split
    · rw [busy_linkLost]
      exact idle
    · exact idle

/-- **Closing the connection** is answered when it is closed. -/
theorem speaks_closeFor (ha : w.Accords terms xs q) (idle : w.busy = none) {now reply : Nat}
    (last : xs.getLast? = some (now, .command (.close reply))) :
    (w.close.andThen fun w => { worker := w, effects := [.reply reply (.ok ())] }).Speaks terms xs q
      fun token => w.owes token + [reply].count token := by
  have hclosed := speaks_close ha idle last rfl
  have hstate : (w.close.effects.foldl Effect.status q).1 = .closed := by
    rw [hclosed.accords.state, close_worker]
    rfl
  exact hclosed.andThen_more (.reply hclosed.accords (.released last hstate))

/-- The worker stops when nobody is left. -/
theorem speaks_stop (ha : w.Accords terms xs q) (idle : w.busy = none)
    (last : xs.getLast? = some i) (closes : i.2.closes) :
    (w.close.andThen fun w => { worker := { w with stopped := true } }).Speaks terms xs q
      w.owes := by
  have hclosed := speaks_close ha idle last closes
  exact hclosed.andThen (.silent (by simp) { hclosed.accords with } fun _ => rfl)

/-- The link's work is abandoned for someone who asks to close the connection. -/
theorem speaks_interrupted_some (ha : w.Accords terms xs q) (idle : w.busy = none)
    (hf : Task.Founded xs (afterwards b)) {now reply : Nat}
    (last : xs.getLast? = some (now, .command (.close reply))) :
    (w.interrupted now b (some reply)).Speaks terms xs q fun token =>
      w.owes token + [reply].count token + Task.owes (afterwards b) token := by
  have hclosed := speaks_closeFor ha idle last
  refine hclosed.andThen_more (speaks_run hclosed.accords ?_ now hf)
  rw [Turn.andThen_worker, close_worker]
  exact idle

/-- The link's work is abandoned because nobody is left. -/
theorem speaks_interrupted_none (ha : w.Accords terms xs q) (idle : w.busy = none)
    (hf : Task.Founded xs (afterwards b)) (last : xs.getLast? = some i) (closes : i.2.closes)
    (now : Nat) :
    (w.interrupted now b none).Speaks terms xs q fun token =>
      w.owes token + Task.owes (afterwards b) token := by
  have hstopped := speaks_stop ha idle last closes
  refine hstopped.andThen_more (speaks_run hstopped.accords ?_ now hf)
  rw [Turn.andThen_worker, close_worker]
  exact idle

end Work

/-! ## The link at rest -/

theorem busy_enqueue (w : Worker) (id : Nat) : (w.enqueue id).busy = w.busy := by
  unfold enqueue
  split <;> rfl

theorem owes_enqueue (w : Worker) (id : Nat) : (w.enqueue id).owes = w.owes := by
  unfold enqueue
  split <;> rfl

theorem Accords.enqueue (ha : w.Accords terms xs q) (id : Nat) :
    (w.enqueue id).Accords terms xs q := by
  unfold Worker.enqueue
  split
  · exact ha
  · exact { ha with }

theorem speaks_resend (ha : w.Accords terms xs q) (now id : Nat) :
    (w.resend now id).Speaks terms xs q w.owes := by
  have htracked := speaks_track ha
    (w.tracker.sendFailed w.terms.policy id .missingAcknowledgement now)
  rw [resend]
  refine htracked.andThen ?_
  split
  · exact .silent (by simp) (htracked.accords.enqueue id) fun token =>
      congrFun (owes_enqueue _ id) token
  · exact .rest htracked.accords

theorem speaks_resendAll (ha : w.Accords terms xs q) (now : Nat) (ids : List Nat) :
    (resendAll now ids w).Speaks terms xs q w.owes := by
  induction ids generalizing w q with
  | nil => exact .rest ha
  | cons id ids ih =>
    have hfirst := speaks_resend ha now id
    exact hfirst.andThen (ih hfirst.accords)

theorem busy_resendAll (w : Worker) (now : Nat) (ids : List Nat) :
    (resendAll now ids w).worker.busy = w.busy := by
  induction ids generalizing w with
  | nil => rfl
  | cons id ids ih =>
    rw [resendAll, Turn.andThen_worker, ih, resend, Turn.andThen_worker]
    split
    · exact busy_enqueue _ id
    · rfl

/-- **The time to be woken has come.** -/
theorem speaks_wake (ha : w.Accords terms xs q) (idle : w.busy = none) {now : Nat} {input : Input}
    (last : xs.getLast? = some (now, input)) : (w.wake now).Speaks terms xs q w.owes := by
  have hexpired := speaks_track ha (w.tracker.expire now)
  have hresent := hexpired.andThen
    (f := fun w =>
      if w.state = .open then resendAll now (w.tracker.dueForResend now w.terms.ackTimeout) w
      else { worker := w }) (by
    split
    · exact speaks_resendAll hexpired.accords now _
    · exact .rest hexpired.accords)
  have hf : Task.Founded xs [.flush, .reconnect now, .renew now] := by
    refine ⟨by simp, fun due hmem => ⟨input, ?_⟩⟩
    obtain rfl : due = now := by simpa using hmem
    exact List.mem_of_getLast? last
  refine hresent.andThen (speaks_run hresent.accords ?_ now hf)
  rw [Turn.andThen_worker]
  split
  · rw [busy_resendAll]
    exact idle
  · exact idle

/-- **The link reports an event** while the connection is open. -/
theorem speaks_eventAtRest (ha : w.Accords terms xs q) (idle : w.busy = none)
    (hopen : w.state = .open) {i : Nat × Input} {e : Except Fault LinkEvent}
    (last : xs.getLast? = some i) (hi : i.2 = .event e) (now : Nat) :
    (w.eventAtRest now e).Speaks terms xs q w.owes := by
  match e with
  | .ok (.acknowledged id response) => exact speaks_track ha _
  | .ok (.rejected id fault) => exact speaks_track ha _
  | .ok (.notification n) => exact .silent (by simp [Effect.isSilent]) ha fun _ => rfl
  | .ok (.disconnected fault) =>
    exact speaks_linkLost ha idle last (by rw [hi]; rfl) hopen now
  | .error fault => exact speaks_linkLost ha idle last (by rw [hi]; rfl) hopen now

/-- Whoever asked to open the connection may wait for it. -/
theorem Accords.wait (ha : w.Accords terms xs q) {reply : Nat} (asked : reply ∈ Inputs.opens xs) :
    Accords terms xs q { w with waiters := w.waiters ++ [reply] } :=
  { ha with
    waiters := List.append_subset.2 ⟨ha.waiters, List.cons_subset.2 ⟨asked, List.nil_subset _⟩⟩ }

/-- Whoever waits is owed an answer. -/
theorem owes_wait (w : Worker) (reply token : Nat) :
    owes { w with waiters := w.waiters ++ [reply] } token =
      w.owes token + [reply].count token := by
  simp only [owes, List.count_append]
  omega

/-- **The connection is to be opened.** -/
theorem speaks_open (ha : w.Accords terms xs q) (idle : w.busy = none) {now reply : Nat}
    (last : xs.getLast? = some (now, .command (.open reply))) :
    (w.commandAtRest now (.open reply)).Speaks terms xs q fun token =>
      w.owes token + [reply].count token := by
  have asked : reply ∈ Inputs.opens xs := Inputs.mem_opens.2 ⟨now, List.mem_of_getLast? last⟩
  have hwaits := ha.wait asked
  have howes := owes_wait w reply
  rw [commandAtRest]
  split
  · rename_i hopen
    exact .reply ha (.opened asked (ha.state.trans hopen))
  · exact .silent (by simp) hwaits howes
  · exact .silent (by simp) hwaits howes
  · rename_i hclosed
    split
    · rename_i fault hinvalid
      refine .reply ha (.refused last (ha.state.trans hclosed) ?_)
      rw [← ha.terms]
      exact hinvalid
    · -- Who asked waits for the first connect.
      have hwaits' : Accords terms xs q { w with waiters := w.waiters ++ [reply], attempt := 0 } :=
        { hwaits with }
      have hentered : (enter { w with waiters := w.waiters ++ [reply], attempt := 0 } .opening
          .clientOpen).Speaks terms xs q _ :=
        speaks_enter hwaits' idle fun _ => .opening last (ha.state.trans hclosed)
      have hstarted := speaks_connect hentered.accords (by rw [enter_worker]; exact idle) now
        (.inl rfl) Task.founded_nil
      exact (hentered.andThen (f := (·.connect now .connected [])) hstarted).congr howes

/-- **A command is taken** while the link is not busy. -/
theorem speaks_commandAtRest (ha : w.Accords terms xs q) (idle : w.busy = none) {now : Nat}
    {c : Command} (last : xs.getLast? = some (now, .command c)) :
    (w.commandAtRest now c).Speaks terms xs q fun token =>
      w.owes token + (Input.command c).requests token := by
  cases c with
  | «open» reply => exact speaks_open ha idle last
  | close reply => exact speaks_closeFor ha idle last
  | submit message completion deadline =>
    rw [commandAtRest]
    split
    · exact .silent (by simp [Effect.isSilent]) ha fun _ => rfl
    · have htracked := speaks_track ha (w.tracker.submit message completion deadline)
      refine htracked.andThen ?_
      split
      · split
        · -- The message is handed over at once.
          have hrun := speaks_run (htracked.accords.enqueue message.id)
            ((busy_enqueue _ _).trans idle) now Task.founded_flush
          exact hrun.congr fun token => congrFun (owes_enqueue _ _) token
        · exact .rest htracked.accords
      · exact .rest htracked.accords
  | cancel id => exact speaks_track ha _
  | settle request =>
    have asked : request ∈ Inputs.settlements xs :=
      Inputs.mem_settlements.2 ⟨now, List.mem_of_getLast? last⟩
    exact speaks_settle ha asked

/-- **A step while the link is not busy.** -/
theorem speaks_stepAtRest (ha : w.Accords terms xs q) (idle : w.busy = none) {now : Nat}
    {input : Input} (last : xs.getLast? = some (now, input)) :
    (w.stepAtRest now input).Speaks terms xs q fun token =>
      w.owes token + input.requests token := by
  cases input with
  | command c => exact speaks_commandAtRest ha idle last
  | abandoned => exact speaks_stop ha idle last rfl
  | timer => exact speaks_wake ha idle last
  | event e =>
    rw [stepAtRest]
    split
    · rename_i hopen
      exact speaks_eventAtRest ha idle hopen last rfl now
    · exact .rest ha
  | connected | sent | overtime => exact .rest ha

/-! ## Steps -/

/-- What is owed while the link is busy: to those who wait, and afterwards. -/
theorem owes_of_busy {b : Busy} (busy : w.busy = some b) (token : Nat) :
    w.owes token = owes { w with busy := none } token + Task.owes (afterwards b) token := by
  rw [owes, busy]
  rfl

/-- **A command is taken** while the link is busy. -/
theorem speaks_commandWhileBusy {up : Bool} (hs : w.Situated up) (ha : w.Accords terms xs q)
    {b : Busy} (busy : w.busy = some b) {now : Nat} {c : Command}
    (last : xs.getLast? = some (now, .command c)) :
    (w.commandWhileBusy now b c).Speaks terms xs q fun token =>
      w.owes token + (Input.command c).requests token := by
  have hidle := ha.unbusy
  cases c with
  | «open» reply =>
    have asked : reply ∈ Inputs.opens xs := Inputs.mem_opens.2 ⟨now, List.mem_of_getLast? last⟩
    rw [commandWhileBusy]
    obtain ⟨reason, -, job⟩ | ⟨id, next, s, job, -⟩ := hs.of_busy busy
    · simp only [job]
      refine .silent (by simp) (ha.wait asked) fun token => owes_wait w reply token
    · simp only [job]
      exact .reply ha (.opened asked (ha.state.trans s.state))
  | close reply =>
    refine (speaks_interrupted_some hidle rfl (ha.founded b busy) last).congr fun token => ?_
    rw [owes_of_busy busy]
    exact Nat.add_right_comm ..
  | submit message completion deadline =>
    have htracked := speaks_track ha (w.tracker.submit message completion deadline)
    rw [commandWhileBusy]
    refine htracked.andThen ?_
    split
    · exact .silent (by simp) { htracked.accords with } fun _ => rfl
    · exact .rest htracked.accords
  | cancel id => exact speaks_track ha _
  | settle request =>
    have asked : request ∈ Inputs.settlements xs :=
      Inputs.mem_settlements.2 ⟨now, List.mem_of_getLast? last⟩
    refine .silent (by simp) { ha with job := ?_, founded := ?_ } fun token => ?_
    · rintro _ reason ⟨⟩
      exact ha.job b reason busy
    · -- The request is put off behind the others.
      rintro _ ⟨⟩
      have hfounded := ha.founded b busy
      refine ⟨fun r hmem => ?_, fun due hmem => ?_⟩
      · simp only [afterwards, List.map_append, List.map_cons, List.map_nil, List.append_assoc,
          List.mem_append, List.mem_singleton, Task.settle.injEq] at hmem
        rcases hmem with hmem | rfl | hmem
        · exact hfounded.1 r (List.mem_append_left _ hmem)
        · exact asked
        · exact hfounded.1 r (List.mem_append_right _ hmem)
      · exact hfounded.2 due (by simpa [afterwards] using hmem)
    · have hone : (Input.command (.settle request)).requests token =
          (([request].map Task.settle).filterMap (·.token?)).count token := rfl
      simp only [owes, busy, Task.owes, afterwards, List.map_append, List.filterMap_append,
        List.count_append]
      omega

/-- **A step while the link is busy.** -/
theorem speaks_stepBusy {up : Bool} (hs : w.Situated up) (ha : w.Accords terms xs q) {b : Busy}
    (busy : w.busy = some b) {now : Nat} {input : Input}
    (last : xs.getLast? = some (now, input)) :
    (w.stepBusy now b input).Speaks terms xs q fun token =>
      w.owes token + input.requests token := by
  have hidle := ha.unbusy
  have howed := owes_of_busy busy
  cases input with
  | command c => exact speaks_commandWhileBusy hs ha busy last
  | abandoned =>
    exact (speaks_interrupted_none hidle rfl (ha.founded b busy) last rfl now).congr fun token =>
      (howed token).symm
  | timer => exact speaks_track ha _
  | event e => exact .rest ha
  | connected result =>
    obtain ⟨reason, s, job⟩ | ⟨id, next, s, job, -⟩ := hs.of_busy busy
    · simp only [stepBusy, job]
      refine (speaks_connectEnded hidle rfl (ha.founded b busy) last now s.state
        (ha.job b reason busy job) (fun h => by rw [h]) fun fault h => by rw [h]; rfl).congr
          fun token => (howed token).symm
    · simp only [stepBusy, job]
      exact .rest ha
  | sent result =>
    obtain ⟨reason, s, job⟩ | ⟨id, next, s, job, -⟩ := hs.of_busy busy
    · simp only [stepBusy, job]
      exact .rest ha
    · simp only [stepBusy, job]
      refine (speaks_sendEnded hidle rfl (ha.founded b busy) last now id s.state
        fun fault h hbreaks => ?_).congr fun token => (howed token).symm
      rw [h]
      exact if_pos hbreaks
  | overtime =>
    obtain ⟨reason, s, job⟩ | ⟨id, next, s, job, -⟩ := hs.of_busy busy
    · simp only [stepBusy, job]
      refine (speaks_connectEnded hidle rfl (ha.founded b busy) last now s.state
        (ha.job b reason busy job) (fun h => ?_) fun fault h => ?_).congr
          fun token => (howed token).symm
      · cases h
      · cases h
        rfl
    · simp only [stepBusy, job]
      refine (speaks_sendEnded hidle rfl (ha.founded b busy) last now id s.state
        fun fault h _ => ?_).congr fun token => (howed token).symm
      cases h
      rfl

end Turns

/-- One more input leaves a worker in accord, unless a connect succeeds while a renewal is
planned. -/
theorem Accords.take {terms : Terms} {xs : List (Nat × Input)} {q : Status} {w : Worker}
    (ha : w.Accords terms xs q) (i : Nat × Input)
    (h : i.2 = .connected (.ok ()) → w.renewAt = none) : w.Accords terms (xs ++ [i]) q where
  state := ha.state
  job := ha.job
  waiters token hmem := by
    rw [Inputs.opens_append]
    exact List.mem_append_left _ (ha.waiters hmem)
  founded b busy := by
    obtain ⟨hsettle, hrenew⟩ := ha.founded b busy
    refine ⟨fun request hmem => ?_, fun due hmem => ?_⟩
    · rw [Inputs.settlements_append]
      exact List.mem_append_left _ (hsettle request hmem)
    · obtain ⟨input, hin⟩ := hrenew due hmem
      exact ⟨input, List.mem_append_left _ hin⟩
  planned t ht := by
    by_cases hup : i.2 = .connected (.ok ())
    · rw [h hup] at ht
      cases ht
    · rw [Inputs.lastConnect_concat_of_ne xs hup]
      exact ha.planned t ht
  terms := ha.terms

/-- **Every step that takes an input speaks** only what is warranted and answers what is owed. -/
theorem speaks_step {terms : Terms} {xs : List (Nat × Input)} {q : Status} {w : Worker} {up : Bool}
    (hs : w.Situated up) (ha : w.Accords terms xs q) (now : Nat) {input : Input}
    (takes : w.takes input) :
    (w.step now input).Speaks terms (xs ++ [(now, input)]) q fun token =>
      w.owes token + input.requests token := by
  have going := going_of_takes takes
  have last : (xs ++ [(now, input)]).getLast? = some (now, input) := List.getLast?_concat
  have ha' : w.Accords terms (xs ++ [(now, input)]) q := by
    refine ha.take _ fun hup => ?_
    -- A connect succeeds only while the link connects, and then no renewal is planned.
    obtain rfl : input = .connected (.ok ()) := hup
    obtain ⟨_, _, _, _, s⟩ := hs.of_isConnecting (Bool.and_eq_true_iff.1 takes).2
    exact s.renewAt
  cases hb : w.busy with
  | none =>
    rw [step_of_idle going hb]
    exact speaks_stepAtRest ha' hb last
  | some b =>
    rw [step_of_busy going hb]
    exact speaks_stepBusy hs ha' hb last

/-! ## Runs -/

/-- A worker that has done nothing accords with nothing told. -/
theorem accords_new (terms : Terms) :
    (Worker.new terms).Accords terms [] (.closed, .clientClose) where
  state := rfl
  job b reason busy := by cases busy
  waiters := List.Subset.refl _
  founded b busy := by cases busy
  planned t ht := by cases ht
  terms := rfl

/-- **After any inputs a worker accords with what was told and taken**, and every request was
answered once or is still owed an answer. -/
theorem accords_of_run (terms : Terms) (inputs : List (Nat × Input)) :
    ((Worker.new terms).after inputs).Accords terms
        (History.taken ((Worker.new terms).history inputs))
        (History.status ((Worker.new terms).history inputs)) ∧
      ∀ token, History.replies ((Worker.new terms).history inputs) token +
          ((Worker.new terms).after inputs).owes token =
        (Inputs.requests (History.taken ((Worker.new terms).history inputs))).count token := by
  induction inputs using List.reverseRecOn with
  | nil => exact ⟨accords_new terms, fun _ => rfl⟩
  | append_singleton inputs i ih =>
    obtain ⟨now, input⟩ := i
    obtain ⟨haccords, haccounts⟩ := ih
    rw [history_concat, after_concat]
    cases takes : ((Worker.new terms).after inputs).takes input with
    | false =>
      -- Nothing is seen of an input that is not taken.
      rw [step_of_not_takes now takes, seen, takes]
      simpa using ⟨haccords, haccounts⟩
    | true =>
      have hstep := speaks_step (situated_of_run terms inputs) haccords now takes
      rw [seen_of_takes takes, History.taken_took, History.status_took]
      refine ⟨hstep.accords, fun token => ?_⟩
      have hbefore := haccounts token
      have hthen := hstep.accounts token
      rw [History.replies_took, Inputs.count_requests_concat, ← hbefore]
      simp only [Turn.replies] at hthen ⊢
      omega

/-- **Along every run each effect is warranted** by the inputs that were taken before and the status
that was told last. -/
theorem warranted_of_run {terms : Terms} {inputs : List (Nat × Input)} {e : Effect}
    {pre post : List Occurrence} (h : (Worker.new terms).history inputs = pre ++ .did e :: post) :
    Warranted terms (History.taken pre) (History.status pre) e := by
  obtain ⟨before, now, input, es, es', -, takes, heffects, rfl⟩ := effect_split h
  have hstep := speaks_step (situated_of_run terms before) (accords_of_run terms before).1
    now takes
  have hjustified := hstep.justified
  rw [heffects, justified_append] at hjustified
  rw [History.taken_took, History.status_took]
  exact hjustified.2.1

end Worker

end HubLink
