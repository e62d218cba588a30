import HubLink.Collection.Transcript
import HubLink.Connection.Step

/-! # Histories of a worker

What is seen of a worker in the course of a run: the inputs it takes, each with the instant and the
worker that takes it, and the effects it answers with, in their order. An input that does not fit
what the worker is doing is not taken and leaves no trace (`Worker.step_of_not_takes`).

A history is read by the functions of the namespace `History`, which tell whether the link is up,
which messages were submitted and handed over, and which completions were resolved. Every input of
a history stands between the history of the inputs before it and the effects of its own step
(`Worker.history_split`). -/

namespace HubLink

/-- Something that is seen of a worker. -/
inductive Occurrence where
  /-- A worker takes an input at an instant. -/
  | took (w : Worker) (now : Nat) (input : Input)
  /-- An effect is wanted. -/
  | did (e : Effect)

/-! ## Runs -/

namespace Worker

/-- Whether the link is busy connecting. -/
def isConnecting (w : Worker) : Bool :=
  match w.busy with
  | some { job := .connecting _, .. } => true
  | _ => false

/-- Whether the link is busy with a message. -/
def isSending (w : Worker) : Bool :=
  match w.busy with
  | some { job := .sending _, .. } => true
  | _ => false

/-- Whether an input fits what a worker is doing. The link reports the end of what it is busy with,
and events only to a worker that listens. -/
def takes (w : Worker) (input : Input) : Bool :=
  !w.stopped &&
    match input with
    | .command _ | .abandoned | .timer => true
    | .event _ => w.isListening
    | .connected _ => w.isConnecting
    | .sent _ => w.isSending
    | .overtime => w.busy.isSome

/-- **An input that is not taken changes nothing.** -/
theorem step_of_not_takes {w : Worker} {input : Input} (now : Nat) (h : w.takes input = false) :
    w.step now input = { worker := w } := by
  unfold step
  split
  · -- A worker that has stopped takes nothing.
    rfl
  · rename_i hstop
    split
    · -- While the link is busy it reports nothing but the end of its job.
      rename_i b hb
      cases input <;>
        simp_all [takes, isListening, isConnecting, isSending, stepBusy]
      all_goals
        obtain ⟨job, limit, deferred, next⟩ := b
        cases job <;> simp_all
    · -- At rest only a worker with an open connection listens.
      rename_i hb
      cases input <;>
        simp_all [takes, isListening, isConnecting, isSending, stepAtRest]

/-- The worker after inputs. -/
def after (w : Worker) : List (Nat × Input) → Worker
  | [] => w
  | (now, input) :: rest => (w.step now input).worker.after rest

/-- What is seen of a step. -/
def seen (w : Worker) (now : Nat) (input : Input) : List Occurrence :=
  if w.takes input then .took w now input :: (w.step now input).effects.map .did else []

/-- What is seen of a worker while it is given inputs. -/
def history (w : Worker) : List (Nat × Input) → List Occurrence
  | [] => []
  | (now, input) :: rest => w.seen now input ++ (w.step now input).worker.history rest

theorem after_eq (w : Worker) (inputs : List (Nat × Input)) :
    w.after inputs = inputs.foldl (fun w i => (w.step i.1 i.2).worker) w := by
  induction inputs generalizing w with
  | nil => rfl
  | cons i inputs ih => exact ih _

/-- A history is a transcript of what is seen. -/
theorem history_eq (w : Worker) (inputs : List (Nat × Input)) :
    w.history inputs =
      transcript (fun w i => (w.step i.1 i.2).worker) (fun w i => w.seen i.1 i.2) w inputs := by
  induction inputs generalizing w with
  | nil => rfl
  | cons i inputs ih => exact congrArg (_ ++ ·) (ih _)

theorem after_append (w : Worker) (inputs inputs' : List (Nat × Input)) :
    w.after (inputs ++ inputs') = (w.after inputs).after inputs' := by
  simp only [after_eq, List.foldl_append]

theorem history_append (w : Worker) (inputs inputs' : List (Nat × Input)) :
    w.history (inputs ++ inputs') = w.history inputs ++ (w.after inputs).history inputs' := by
  simp only [history_eq, after_eq, transcript_append]

/-- One more input leads to one more step. -/
theorem after_concat (w : Worker) (inputs : List (Nat × Input)) (now : Nat) (input : Input) :
    w.after (inputs ++ [(now, input)]) = ((w.after inputs).step now input).worker :=
  w.after_append inputs [(now, input)]

/-- What is seen of one more input is what is seen of its step. -/
theorem history_concat (w : Worker) (inputs : List (Nat × Input)) (now : Nat) (input : Input) :
    w.history (inputs ++ [(now, input)]) = w.history inputs ++ (w.after inputs).seen now input := by
  rw [history_append, history, history, List.append_nil]

theorem seen_of_takes {w : Worker} {now : Nat} {input : Input} (h : w.takes input) :
    w.seen now input = .took w now input :: (w.step now input).effects.map .did :=
  if_pos h

/-- An input among the occurrences of a step is the first of them. -/
theorem seen_split {w v : Worker} {now now' : Nat} {input input' : Input}
    {pre post : List Occurrence} (h : w.seen now input = pre ++ .took v now' input' :: post) :
    pre = [] ∧ w = v ∧ now = now' ∧ input = input' ∧ w.takes input ∧
      post = (w.step now input).effects.map .did := by
  cases ht : w.takes input with
  | false => simp [seen, ht] at h
  | true =>
    rw [seen_of_takes ht] at h
    cases pre with
    | nil =>
      simp only [List.nil_append, List.cons.injEq, Occurrence.took.injEq] at h
      obtain ⟨⟨rfl, rfl, rfl⟩, rfl⟩ := h
      exact ⟨rfl, rfl, rfl, rfl, rfl, rfl⟩
    | cons o pre =>
      -- Only effects follow the first occurrence.
      rw [List.cons_append, List.cons.injEq] at h
      have hmem : Occurrence.took v now' input' ∈ (w.step now input).effects.map .did := by
        rw [h.2]
        simp
      simp at hmem

/-- **Where an input stands in a history.** Before it is the history of the inputs before, the
worker that takes it is the one after those, and the effects of its step follow. -/
theorem history_split {w v : Worker} {inputs : List (Nat × Input)} {now : Nat} {input : Input}
    {pre post : List Occurrence} (h : w.history inputs = pre ++ .took v now input :: post) :
    ∃ before after, inputs = before ++ (now, input) :: after ∧ pre = w.history before ∧
      v = w.after before ∧ v.takes input ∧
      post = (v.step now input).effects.map .did ++ (v.step now input).worker.history after := by
  rw [history_eq] at h
  obtain ⟨before, i, after, earlier, later, rfl, hseen, rfl, rfl⟩ := transcript_split h
  rw [← after_eq] at hseen
  obtain ⟨rfl, rfl, rfl, rfl, ht, rfl⟩ := seen_split hseen
  exact ⟨before, after, rfl, by rw [List.append_nil, history_eq], rfl, ht,
    by rw [← after_eq, history_eq]⟩

/-- An input that is seen is one of those given. -/
theorem mem_of_took {w v : Worker} {inputs : List (Nat × Input)} {now : Nat} {input : Input}
    (h : .took v now input ∈ w.history inputs) : (now, input) ∈ inputs := by
  obtain ⟨pre, post, hp⟩ := List.append_of_mem h
  obtain ⟨before, after, rfl, -⟩ := history_split hp
  exact List.mem_append_right _ (List.mem_cons_self ..)

/-- An effect among the occurrences of a step follows the input. -/
theorem seen_effect_split {w : Worker} {now : Nat} {input : Input} {e : Effect}
    {pre post : List Occurrence} (h : w.seen now input = pre ++ .did e :: post) :
    w.takes input ∧ ∃ es es', (w.step now input).effects = es ++ e :: es' ∧
      pre = .took w now input :: es.map .did := by
  cases ht : w.takes input with
  | false => simp [seen, ht] at h
  | true =>
    rw [seen_of_takes ht] at h
    cases pre with
    | nil => simp at h
    | cons o pre =>
      rw [List.cons_append, List.cons.injEq, List.map_eq_append_iff] at h
      obtain ⟨rfl, es, rest, heffects, rfl, hrest⟩ := h
      obtain ⟨e', es', rfl, he, -⟩ := List.map_eq_cons_iff.1 hrest
      obtain rfl : e' = e := Occurrence.did.inj he
      exact ⟨rfl, es, es', heffects, rfl⟩

/-- **Where an effect stands in a history.** It is one of the effects of the step that took the last
input before it. -/
theorem effect_split {w : Worker} {inputs : List (Nat × Input)} {e : Effect}
    {pre post : List Occurrence} (h : w.history inputs = pre ++ .did e :: post) :
    ∃ before now input es es', before ++ [(now, input)] <+: inputs ∧
      (w.after before).takes input ∧
      ((w.after before).step now input).effects = es ++ e :: es' ∧
      pre = w.history before ++ .took (w.after before) now input :: es.map .did := by
  rw [history_eq] at h
  obtain ⟨before, ⟨now, input⟩, after, earlier, later, rfl, hseen, rfl, -⟩ := transcript_split h
  rw [← after_eq] at hseen
  obtain ⟨ht, es, es', heffects, rfl⟩ := seen_effect_split hseen
  refine ⟨before, now, input, es, es', ⟨after, ?_⟩, ht, heffects, by rw [history_eq]⟩
  rw [List.append_assoc, List.singleton_append]

end Worker

/-! ## Readings of a history -/

/-- A message submitted to a worker, with who waits for it and until when. -/
structure Submission where
  /-- The message. -/
  message : Outbound
  /-- Who waits. -/
  completion : Nat
  /-- When the wait is over. -/
  deadline : Nat

/-- The id of the submitted message. -/
def Submission.id (s : Submission) : Nat := s.message.id

namespace Occurrence

/-- The submission that is taken. -/
def submission? : Occurrence → Option Submission
  | .took _ _ (.command (.submit message completion deadline)) =>
    some { message, completion, deadline }
  | _ => none

/-- The completion that is resolved. -/
def completion? : Occurrence → Option Nat
  | .did (.complete r) => some r.completion
  | _ => none

/-- The id of the message that is handed over. -/
def handOver? : Occurrence → Option Nat
  | .did (.send message) => some message.id
  | _ => none

/-- The fault that the link reports. -/
def linkFault? : Occurrence → Option Fault
  | .took _ _ (.connected (.error fault)) | .took _ _ (.sent (.error fault))
  | .took _ _ (.event (.ok (.rejected _ fault))) | .took _ _ (.event (.ok (.disconnected fault)))
  | .took _ _ (.event (.error fault)) => some fault
  | _ => none

/-- Whether the link is up after an occurrence. -/
def linkUp (up : Bool) : Occurrence → Bool
  | .took _ _ (.connected (.ok ())) => true
  | .did .release => false
  | _ => up

/-- Whether the messages under way are being handed over again after an occurrence: from the success
of a connect until the worker is at rest or the link is closed. -/
def replaying (r : Bool) : Occurrence → Bool
  | .took _ _ (.connected (.ok ())) => true
  | .took w _ _ => r && w.busy.isSome
  | .did .release => false
  | .did _ => r

/-- The instant after an occurrence. -/
def clock (now : Nat) : Occurrence → Nat
  | .took _ now _ => now
  | .did _ => now

end Occurrence

namespace History

/-- The submissions, in order. -/
def submissions (h : List Occurrence) : List Submission := h.filterMap (·.submission?)

/-- The submitted ids, in order. -/
def submitted (h : List Occurrence) : List Nat := (submissions h).map (·.id)

/-- The completions that were resolved, in order. -/
def completions (h : List Occurrence) : List Nat := h.filterMap (·.completion?)

/-- The ids of the messages that were handed over, in order. -/
def handOvers (h : List Occurrence) : List Nat := h.filterMap (·.handOver?)

/-- The faults that the link reported, in order. -/
def linkFaults (h : List Occurrence) : List Fault := h.filterMap (·.linkFault?)

/-- Whether the link is up: it is from the success of a connect until it is closed. -/
def linkUp (h : List Occurrence) : Bool := h.foldl Occurrence.linkUp false

/-- Whether the messages under way are being handed over again. -/
def replaying (h : List Occurrence) : Bool := h.foldl Occurrence.replaying false

/-- The instant of the last input. -/
def clock (h : List Occurrence) : Nat := h.foldl Occurrence.clock 0

@[simp] theorem submissions_append (h k : List Occurrence) :
    submissions (h ++ k) = submissions h ++ submissions k :=
  List.filterMap_append

@[simp] theorem submitted_append (h k : List Occurrence) :
    submitted (h ++ k) = submitted h ++ submitted k := by
  simp [submitted]

@[simp] theorem completions_append (h k : List Occurrence) :
    completions (h ++ k) = completions h ++ completions k :=
  List.filterMap_append

@[simp] theorem handOvers_append (h k : List Occurrence) :
    handOvers (h ++ k) = handOvers h ++ handOvers k :=
  List.filterMap_append

@[simp] theorem linkFaults_append (h k : List Occurrence) :
    linkFaults (h ++ k) = linkFaults h ++ linkFaults k :=
  List.filterMap_append

@[simp] theorem linkUp_append (h k : List Occurrence) :
    linkUp (h ++ k) = k.foldl Occurrence.linkUp (linkUp h) :=
  List.foldl_append

@[simp] theorem replaying_append (h k : List Occurrence) :
    replaying (h ++ k) = k.foldl Occurrence.replaying (replaying h) :=
  List.foldl_append

@[simp] theorem clock_append (h k : List Occurrence) :
    clock (h ++ k) = k.foldl Occurrence.clock (clock h) :=
  List.foldl_append

/-! ### One input -/

/-- The link comes up with the success of a connect only. -/
theorem linkUp_took (h : List Occurrence) (w : Worker) (now : Nat) {input : Input}
    (hne : input ≠ .connected (.ok ())) : linkUp (h ++ [.took w now input]) = linkUp h := by
  rw [linkUp_append]
  cases input with
  | connected result =>
    cases result with
    | ok => exact absurd rfl hne
    | error fault => rfl
  | command | abandoned | event | timer | sent | overtime => rfl

/-- A worker at rest has handed everything over again. -/
theorem replaying_took (h : List Occurrence) {w : Worker} (idle : w.busy = none) (now : Nat)
    {input : Input} (hne : input ≠ .connected (.ok ())) :
    replaying (h ++ [.took w now input]) = false := by
  rw [replaying_append]
  cases input with
  | connected result =>
    cases result with
    | ok => exact absurd rfl hne
    | error fault => simp [Occurrence.replaying, idle]
  | command | abandoned | event | timer | sent | overtime => simp [Occurrence.replaying, idle]

/-! ### Since a link came up -/

/-- A reading that no occurrence changes stays. -/
theorem foldl_eq_self {f : Bool → Occurrence → Bool} {r : Bool} {h : List Occurrence}
    (hf : ∀ o ∈ h, f r o = r) : h.foldl f r = r := by
  induction h with
  | nil => rfl
  | cons o h ih =>
    rw [List.forall_mem_cons] at hf
    rw [List.foldl_cons, hf.1]
    exact ih hf.2

/-- The link is up from the success of a connect until it is closed. -/
theorem linkUp_of_link (pre : List Occurrence) (w : Worker) (now : Nat) {mid : List Occurrence}
    (hrelease : .did .release ∉ mid) :
    linkUp (pre ++ .took w now (.connected (.ok ())) :: mid) = true := by
  rw [linkUp_append, List.foldl_cons]
  refine foldl_eq_self (r := true) fun o hmem => ?_
  unfold Occurrence.linkUp
  split
  · rfl
  · exact absurd hmem hrelease
  · rfl

/-- Messages are handed over again from the success of a connect until the worker is at rest or the
link is closed. -/
theorem replaying_of_link (pre : List Occurrence) (w : Worker) (now : Nat) {mid : List Occurrence}
    (hrelease : .did .release ∉ mid)
    (hbusy : ∀ u now' input, .took u now' input ∈ mid → u.busy.isSome) :
    replaying (pre ++ .took w now (.connected (.ok ())) :: mid) = true := by
  rw [replaying_append, List.foldl_cons]
  refine foldl_eq_self (r := true) fun o hmem => ?_
  unfold Occurrence.replaying
  split
  · rfl
  · rw [hbusy _ _ _ hmem]
    rfl
  · exact absurd hmem hrelease
  · rfl

/-- Messages are handed over again only since the link came up. -/
theorem replaying_of_append {h os : List Occurrence}
    (hne : ∀ w now, .took w now (.connected (.ok ())) ∉ os) (hr : replaying (h ++ os)) :
    replaying h := by
  induction os generalizing h with
  | nil => rwa [List.append_nil] at hr
  | cons o os ih =>
    rw [List.append_cons] at hr
    have hfirst := ih (fun w now hmem => hne w now (List.mem_cons_of_mem _ hmem)) hr
    rw [replaying_append, List.foldl_cons, List.foldl_nil] at hfirst
    -- The first occurrence can only have ended it.
    unfold Occurrence.replaying at hfirst
    split at hfirst
    · exact absurd (List.mem_cons_self ..) (hne _ _)
    · exact (Bool.and_eq_true_iff.1 hfirst).1
    · cases hfirst
    · exact hfirst

/-! ### Effects alone -/

/-- Effects do not move the clock. -/
@[simp] theorem foldl_clock_did (now : Nat) (es : List Effect) :
    (es.map .did).foldl Occurrence.clock now = now := by
  induction es with
  | nil => rfl
  | cons e es ih => exact ih

end History

end HubLink
