import HubLink.Proofs.Connection.Runs

/-! # Completions

What becomes of the completions of submitted messages. A *ledger* relates what was seen of a worker
to its tracker: the operations that wait are the submissions whose completions are unresolved, and
no completion was resolved twice. Every move keeps it (`Move.ledger`), as long as submissions have
ids and completions of their own. With what gives cause for an operation to end, this accounts for
every completion (`Worker.accounted_of_run`). -/

namespace HubLink

open Relation

namespace History

/-- Every submission has an id and a completion of its own. Ids are the caller's; whoever submits
makes a new completion to wait for. -/
structure Distinct (h : List Occurrence) : Prop where
  ids : ((submissions h).map (·.id)).Nodup
  completions : ((submissions h).map (·.completion)).Nodup

theorem Distinct.of_append {h k : List Occurrence} (hd : Distinct (h ++ k)) : Distinct h := by
  obtain ⟨hi, hc⟩ := hd
  rw [submissions_append, List.map_append] at hi hc
  exact ⟨hi.of_append_left, hc.of_append_left⟩

theorem Distinct.eq_of_id {h : List Occurrence} (hd : Distinct h) {s s' : Submission}
    (hs : s ∈ submissions h) (hs' : s' ∈ submissions h) (heq : s.id = s'.id) : s = s' :=
  List.inj_on_of_nodup_map hd.ids hs hs' heq

theorem Distinct.eq_of_completion {h : List Occurrence} (hd : Distinct h) {s s' : Submission}
    (hs : s ∈ submissions h) (hs' : s' ∈ submissions h) (heq : s.completion = s'.completion) :
    s = s' :=
  List.inj_on_of_nodup_map hd.completions hs hs' heq

/-- A new submission has neither the id nor the completion of an earlier one. -/
theorem Distinct.fresh {h : List Occurrence} {o : Occurrence} {s : Submission}
    (ho : o.submission? = some s) (hd : Distinct (h ++ [o])) {s' : Submission}
    (hs' : s' ∈ submissions h) : s'.id ≠ s.id ∧ s'.completion ≠ s.completion := by
  have hsub : submissions (h ++ [o]) = submissions h ++ [s] := by
    rw [submissions_append]
    simp [submissions, ho]
  obtain ⟨hi, hc⟩ := hd
  rw [hsub, List.map_append, List.nodup_append] at hi hc
  exact ⟨hi.2.2 _ (List.mem_map_of_mem hs') _ (by simp),
    hc.2.2 _ (List.mem_map_of_mem hs') _ (by simp)⟩

end History

/-! ## The ledger -/

/-- **The operations that wait are the submissions whose completions are unresolved**, and no
completion was resolved twice. -/
structure Ledger (h : List Occurrence) (w : Worker) : Prop where
  /-- An operation that waits was submitted, and its completion is unresolved. -/
  waiting : ∀ id p, w.tracker.pending? id = some p →
    p.completion ∉ History.completions h ∧ ∃ s ∈ History.submissions h,
      s.id = id ∧ s.completion = p.completion ∧ s.deadline = p.deadline
  /-- A submission whose completion is unresolved waits. -/
  unresolved : ∀ s ∈ History.submissions h, s.completion ∉ History.completions h →
    w.tracker.pending? s.id = some ⟨s.completion, s.deadline⟩
  /-- What was resolved was submitted. -/
  known : ∀ c ∈ History.completions h, ∃ s ∈ History.submissions h, s.completion = c
  /-- No completion was resolved twice. -/
  once : (History.completions h).Nodup

namespace Ledger

variable {h k : List Occurrence} {w v : Worker}

/-- Nothing was submitted to a worker that has done nothing. -/
theorem new (terms : Terms) : Ledger [] (.new terms) where
  waiting _ _ hp := by cases hp
  unresolved _ hs := by cases hs
  known _ hc := by cases hc
  once := .nil

/-- A ledger stands while nothing is submitted, resolved or retired. -/
theorem of_quiet (hl : Ledger h w) {os : List Occurrence} (hs : History.submissions os = [])
    (hc : History.completions os = [])
    (hp : ∀ id, v.tracker.pending? id = w.tracker.pending? id) : Ledger (h ++ os) v := by
  have hs' : History.submissions (h ++ os) = History.submissions h := by
    rw [History.submissions_append, hs, List.append_nil]
  have hc' : History.completions (h ++ os) = History.completions h := by
    rw [History.completions_append, hc, List.append_nil]
  refine ⟨?_, ?_, ?_, ?_⟩
  · intro id p
    rw [hs', hc', hp]
    exact hl.waiting id p
  · intro s
    rw [hs', hc', hp]
    exact hl.unresolved s
  · intro c
    rw [hs', hc']
    exact hl.known c
  · rw [hc']
    exact hl.once

/-- The completion of a submission is unresolved exactly while its id is under way. -/
theorem unresolved_iff (hl : Ledger h w) (hd : History.Distinct h) (ht : w.tracker.Coherent)
    {s : Submission} (hs : s ∈ History.submissions h) :
    s.completion ∉ History.completions h ↔ s.id ∈ w.tracker.outstanding := by
  rw [DeliveryTracker.mem_outstanding, ht.paired, Option.isSome_iff_exists]
  constructor
  · intro hopen
    exact ⟨_, hl.unresolved s hs hopen⟩
  · rintro ⟨p, hp⟩
    obtain ⟨hopen, x, hx, hid, hcompletion, -⟩ := hl.waiting s.id p hp
    rw [← hd.eq_of_id hx hs hid, hcompletion]
    exact hopen

/-- A completion that nobody submitted before is not resolved. -/
theorem not_mem_of_fresh (hl : Ledger h w) {completion : Nat}
    (hf : ∀ s ∈ History.submissions h, s.completion ≠ completion) :
    completion ∉ History.completions h := by
  intro hc
  obtain ⟨s, hs, heq⟩ := hl.known completion hc
  exact hf s hs heq

/-- **Taking on a message** adds an operation that waits. -/
theorem enroll (hl : Ledger h w) {o : Occurrence} {message : Outbound} {completion deadline : Nat}
    (ho : o.submission? = some ⟨message, completion, deadline⟩) (hn : o.completion? = none)
    (hd : History.Distinct (h ++ [o]))
    (ht : v.tracker = w.tracker.enroll message ⟨completion, deadline⟩) : Ledger (h ++ [o]) v := by
  have hs : History.submissions (h ++ [o]) =
      History.submissions h ++ [⟨message, completion, deadline⟩] := by
    rw [History.submissions_append]
    simp [History.submissions, ho]
  have hc : History.completions (h ++ [o]) = History.completions h := by
    rw [History.completions_append]
    simp [History.completions, hn]
  have hfresh := fun s (hs : s ∈ History.submissions h) => hd.fresh ho hs
  refine ⟨?_, ?_, ?_, ?_⟩
  · intro id p hp
    rw [ht, DeliveryTracker.pending?_enroll] at hp
    rw [hs, hc]
    split at hp
    · -- The new operation.
      rename_i hid
      rw [Option.some.injEq] at hp
      subst hp
      exact ⟨hl.not_mem_of_fresh fun s hs => (hfresh s hs).2, ⟨message, completion, deadline⟩,
        by simp, hid, rfl, rfl⟩
    · obtain ⟨hopen, s, hmem, heq⟩ := hl.waiting id p hp
      exact ⟨hopen, s, List.mem_append_left _ hmem, heq⟩
  · intro s hmem hopen
    rw [hs, List.mem_append, List.mem_singleton] at hmem
    rw [hc] at hopen
    rw [ht, DeliveryTracker.pending?_enroll]
    obtain hold | rfl := hmem
    · have hne : message.id ≠ s.id := Ne.symm (hfresh s hold).1
      rw [if_neg hne]
      exact hl.unresolved s hold hopen
    · exact if_pos rfl
  · intro c hmem
    rw [hc] at hmem
    obtain ⟨s, hmem, heq⟩ := hl.known c hmem
    exact ⟨s, by rw [hs]; exact List.mem_append_left _ hmem, heq⟩
  · rw [hc]
    exact hl.once

/-- **Resolving the completion of a submission**, old or new, under which no operation waits any
more. -/
theorem resolve (hl : Ledger h w) (hd : History.Distinct k) {s : Submission}
    (hopen : s.completion ∉ History.completions h)
    (hk : ∀ x, x ∈ History.submissions k ↔ x ∈ History.submissions h ∨ x = s)
    (hc : History.completions k = History.completions h ++ [s.completion])
    (hp : ∀ id, v.tracker.pending? id = if id = s.id then none else w.tracker.pending? id) :
    Ledger k v := by
  have hs : s ∈ History.submissions k := (hk s).2 (.inr rfl)
  refine ⟨?_, ?_, ?_, ?_⟩
  · intro id p hpending
    rw [hp] at hpending
    split at hpending
    · cases hpending
    · rename_i hid
      obtain ⟨hwait, x, hx, hxid, heq⟩ := hl.waiting id p hpending
      have hx' : x ∈ History.submissions k := (hk x).2 (.inl hx)
      -- What still waits has another id, so that it is another submission.
      rw [hc, List.mem_append, List.mem_singleton, not_or]
      refine ⟨⟨hwait, fun hsame => hid ?_⟩, x, hx', hxid, heq⟩
      rw [← hxid, hd.eq_of_completion hx' hs (heq.1.trans hsame)]
  · intro x hx hwait
    rw [hc, List.mem_append, List.mem_singleton, not_or] at hwait
    -- What is still unresolved is another submission, so that it has another id.
    have hne : x ≠ s := fun heq => hwait.2 (congrArg _ heq)
    rw [hp, if_neg fun hid => hne (hd.eq_of_id hx hs hid)]
    exact hl.unresolved x (((hk x).1 hx).resolve_right hne) hwait.1
  · intro c hmem
    rw [hc, List.mem_append, List.mem_singleton] at hmem
    obtain hmem | rfl := hmem
    · obtain ⟨x, hx, heq⟩ := hl.known c hmem
      exact ⟨x, (hk x).2 (.inl hx), heq⟩
    · exact ⟨s, hs, rfl⟩
  · rw [hc, List.nodup_append]
    refine ⟨hl.once, List.nodup_singleton _, ?_⟩
    rintro c hmem c' hmem' rfl
    rw [List.mem_singleton] at hmem'
    exact hopen (hmem' ▸ hmem)

end Ledger

/-- **Every move keeps the ledger.** -/
theorem Move.ledger {a b : Moment} (hm : Move a b) (hd : History.Distinct b.past)
    (hl : Ledger a.past a.worker) : Ledger b.past b.worker := by
  cases hm with
  | @aside h w v tracker queue =>
    rw [← List.append_nil h]
    exact hl.of_quiet rfl rfl fun id => by rw [tracker]
  | took takes light => exact hl.of_quiet (History.submissions_took light) rfl fun _ => rfl
  | connected | renewed => exact hl.of_quiet rfl rfl fun _ => rfl
  | enrolled takes fresh => exact hl.enroll rfl rfl hd rfl
  | @refused h w now message completion deadline fault takes reason =>
    have hd' : History.Distinct (h ++
        [.took w now (.command (.submit message completion deadline))]) := by
      rw [List.append_cons] at hd
      exact hd.of_append
    have hfresh := fun x (hx : x ∈ History.submissions h) => hd'.fresh rfl hx
    refine hl.resolve hd (s := ⟨message, completion, deadline⟩)
      (hl.not_mem_of_fresh fun x hx => (hfresh x hx).2) (fun x => ?_) ?_ fun k => ?_
    · rw [History.submissions_append, List.mem_append]
      exact or_congr_right List.mem_singleton
    · rw [History.completions_append]
      rfl
    · -- No operation waits under the id, since it would have been submitted before.
      split
      · rename_i hk
        rw [Option.eq_none_iff_forall_ne_some]
        intro p hp
        obtain ⟨-, x, hx, hid, -⟩ := hl.waiting k p hp
        exact (hfresh x hx).1 (hid.trans hk)
      · rfl
  | did plain => exact hl.of_quiet rfl (History.completions_did_of_plain plain) fun _ => rfl
  | @cleared h | @postponed h | @requeued h =>
    rw [← List.append_nil h]
    exact hl.of_quiet rfl rfl fun _ => rfl
  | sent up next =>
    obtain ⟨_, m, -, -, -, -, rfl⟩ := Worker.nextToSend_eq_some next
    exact hl.of_quiet rfl rfl fun _ => rfl
  | @ended h w id p outcome waits cause =>
    obtain ⟨hopen, s, hs, rfl, hcompletion, -⟩ := hl.waiting id p waits
    refine hl.resolve hd (s := s) (hcompletion ▸ hopen) (fun x => ?_) ?_
      (w.tracker.pending?_retire s.id)
    · rw [History.submissions_append]
      show x ∈ History.submissions h ++ [] ↔ _
      rw [List.append_nil]
      refine ⟨.inl, ?_⟩
      rintro (hx | rfl)
      · exact hx
      · exact hs
    · rw [History.completions_append, hcompletion]
      rfl

/-- **Along a course from the beginning the ledger stands.** -/
theorem Course.ledger {terms : Terms} {b : Moment} (hc : Course ⟨[], .new terms⟩ b)
    (hd : History.Distinct b.past) : Ledger b.past b.worker := by
  induction hc with
  | refl => exact .new terms
  | tail _ hmove ih =>
    obtain ⟨os, hos⟩ := Course.past_eq (.single hmove)
    rw [hos] at hd
    have hd' := hd.of_append
    rw [← hos] at hd
    exact hmove.ledger hd (ih hd')

/-- **Why a completion is resolved**: the submission is refused, or there is cause for the operation
to end. -/
theorem Course.at_complete {terms : Terms} {b : Moment} (hc : Course ⟨[], .new terms⟩ b)
    (hd : History.Distinct b.past) {r : Resolution} {pre post : List Occurrence}
    (hp : b.past = pre ++ .did (.complete r) :: post) :
    (∃ fault, r.result = .error fault ∧ (fault = .closed ∨ ∃ id, fault = .duplicateId id)) ∨
      ∃ s ∈ History.submissions pre, ∃ p outcome, s.completion = p.completion ∧
        s.deadline = p.deadline ∧ r = p.resolve s.id outcome ∧ Cause pre s.id p outcome := by
  obtain ⟨m, os, hm, -, hemits, rfl⟩ := Course.at_effect hc hp
  cases hemits with
  | @refused _ _ id fault reason => exact .inl ⟨fault, rfl, reason.imp_right fun heq => ⟨id, heq⟩⟩
  | @ended id p outcome waits cause =>
    rw [hp, List.append_nil] at hd
    obtain ⟨-, s, hs, rfl, heq⟩ := (Course.ledger hm hd.of_append).waiting id p waits
    rw [List.append_nil]
    exact .inr ⟨s, hs, p, outcome, heq.1, heq.2, rfl, cause⟩
  | plain plain => cases plain

/-- **A completion is resolved with success** when the link confirmed the message under way. -/
theorem Course.at_delivered {terms : Terms} {b : Moment} (hc : Course ⟨[], .new terms⟩ b)
    (hd : History.Distinct b.past) {r : Resolution} {d : Delivered} {pre post : List Occurrence}
    (hp : b.past = pre ++ .did (.complete r) :: post) (hr : r.result = .ok d) :
    ∃ s ∈ History.submissions pre, s.completion = r.completion ∧ s.id = d.id ∧
      ∃ v now input, .took v now input ∈ pre ∧ s.id ∈ v.tracker.outstanding ∧
        v.Confirms input s.id d.response := by
  obtain ⟨fault, hfault, -⟩ | ⟨s, hs, p, outcome, hcompletion, -, rfl, hcause⟩ :=
    Course.at_complete hc hd hp
  · rw [hfault] at hr
    cases hr
  · cases hcause with
    | confirmed seen tracked confirms =>
      obtain rfl := Except.ok.inj hr
      exact ⟨s, hs, hcompletion, rfl, _, _, _, seen, tracked, confirms⟩
    | overdue | cancelled | closed | failed => cases hr

/-- **A completion is resolved with a fault that the link did not report** when its deadline has
passed, its message was given up, or the connection was closed. -/
theorem Course.at_fault {terms : Terms} {b : Moment} (hc : Course ⟨[], .new terms⟩ b)
    (hd : History.Distinct b.past) {r : Resolution} {fault : Fault} {pre post : List Occurrence}
    (hp : b.past = pre ++ .did (.complete r) :: post) (hr : r.result = .error fault)
    (hkind : fault = .timeout ∨ fault = .cancelled) (hlink : fault ∉ History.linkFaults b.past) :
    ∃ s ∈ History.submissions pre, s.completion = r.completion ∧
      (fault = .timeout ∧ s.deadline ≤ History.clock pre ∨
        fault = .cancelled ∧ ∃ v now input, .took v now input ∈ pre ∧
          (input = .command (.cancel s.id) ∨ input.closes)) := by
  have hslow : fault ≠ .slowLink := by obtain rfl | rfl := hkind <;> decide
  have hsilent : fault ≠ .missingAcknowledgement := by obtain rfl | rfl := hkind <;> decide
  obtain ⟨fault', hfault, hrefused⟩ | ⟨s, hs, p, outcome, hcompletion, hdeadline, rfl, hcause⟩ :=
    Course.at_complete hc hd hp
  · -- Submissions are refused with faults of other kinds.
    obtain rfl := Except.error.inj (hfault.symm.trans hr)
    obtain rfl | rfl := hkind <;> simp at hrefused
  · refine ⟨s, hs, hcompletion, ?_⟩
    cases hcause with
    | confirmed => cases hr
    | overdue due => exact .inl ⟨(Except.error.inj hr).symm, hdeadline ▸ due⟩
    | cancelled seen => exact .inr ⟨(Except.error.inj hr).symm, _, _, _, seen, .inl rfl⟩
    | closed seen closes => exact .inr ⟨(Except.error.inj hr).symm, _, _, _, seen, .inr closes⟩
    | failed ofLink =>
      obtain rfl := Except.error.inj hr
      exact absurd (ofLink.mem_linkFaults hslow hsilent hp) hlink

/-- **What is handed over** is the message of a submission whose completion is unresolved. -/
theorem Course.unresolved_of_send {terms : Terms} {b : Moment} (hc : Course ⟨[], .new terms⟩ b)
    (hd : History.Distinct b.past) {message : Outbound} {pre post : List Occurrence}
    (hp : b.past = pre ++ .did (.send message) :: post) :
    ∃ s ∈ History.submissions pre, s.id = message.id ∧
      s.completion ∉ History.completions pre := by
  obtain ⟨m, os, hm, -, hemits, rfl⟩ := Course.at_effect hc hp
  cases hemits with
  | @sent now id message tracker queue up next =>
    obtain ⟨_, x, -, -, hx, rfl, -⟩ := Worker.nextToSend_eq_some next
    -- What is handed over is tracked, so that an operation waits for it.
    have ht : m.worker.tracker.Coherent := Course.coherent hm DeliveryTracker.coherent_empty
    obtain ⟨p, hwaits⟩ := ht.pending_of_message hx
    rw [hp, List.append_nil] at hd
    obtain ⟨hopen, s, hs, hid, hcompletion, -⟩ :=
      (Course.ledger hm hd.of_append).waiting id p hwaits
    rw [List.append_nil]
    exact ⟨s, hs, hid.trans (ht.filed id x hx).symm, hcompletion ▸ hopen⟩
  | plain plain => cases plain

/-! ## What is accounted for -/

/-- **What becomes of completions**, given what was seen of a worker. -/
structure Accounted (h : List Occurrence) (w : Worker) : Prop where
  /-- No completion is resolved twice. -/
  once : (History.completions h).Nodup
  /-- The completion of a submission is unresolved exactly while its id is tracked. -/
  tracked : ∀ s ∈ History.submissions h,
    s.completion ∉ History.completions h ↔ s.id ∈ w.tracker.outstanding
  /-- Every completion is resolved when the worker has stopped. -/
  finished : w.stopped → ∀ s ∈ History.submissions h, s.completion ∈ History.completions h
  /-- A completion that is resolved with success carries its id, and the link confirmed the message
  while the id was tracked. -/
  delivered : ∀ pre r post d, h = pre ++ .did (.complete r) :: post → r.result = .ok d →
    ∃ s ∈ History.submissions pre, s.completion = r.completion ∧ s.id = d.id ∧
      ∃ v now input, .took v now input ∈ pre ∧ s.id ∈ v.tracker.outstanding ∧
        v.Confirms input s.id d.response
  /-- A completion is resolved with a timeout at or after its deadline only, unless the link reports
  timeouts of this kind. -/
  timedOut : Fault.timeout ∉ History.linkFaults h → ∀ pre r post,
    h = pre ++ .did (.complete r) :: post → r.result = .error .timeout →
      ∃ s ∈ History.submissions pre, s.completion = r.completion ∧ s.deadline ≤ History.clock pre
  /-- A completion is resolved as cancelled only after its id was cancelled or the connection was
  closed, unless the link reports cancellations. -/
  cancelled : Fault.cancelled ∉ History.linkFaults h → ∀ pre r post,
    h = pre ++ .did (.complete r) :: post → r.result = .error .cancelled →
      ∃ s ∈ History.submissions pre, s.completion = r.completion ∧
        ∃ v now input, .took v now input ∈ pre ∧ (input = .command (.cancel s.id) ∨ input.closes)
  /-- Once a completion is resolved, the message is not handed over again. -/
  settled : ∀ pre m post, h = pre ++ .did (.send m) :: post →
    ∀ s ∈ History.submissions h, s.completion ∈ History.completions pre → s.id ≠ m.id

namespace Worker

/-- **Every completion is accounted for**, after any inputs among which no two submissions share an
id or a completion. -/
theorem accounted_of_run (terms : Terms) (inputs : List (Nat × Input))
    (hd : History.Distinct ((Worker.new terms).history inputs)) :
    Accounted ((Worker.new terms).history inputs) ((Worker.new terms).after inputs) := by
  have hc := course_of_run terms inputs
  have hl : Ledger _ _ := Course.ledger hc hd
  have ht := coherent_of_run terms inputs
  refine ⟨hl.once, fun s => hl.unresolved_iff hd ht, ?_, ?_, ?_, ?_, ?_⟩
  · -- A worker that has stopped has nothing under way.
    intro hstop s hs
    have hdormant := (situated_of_run terms inputs).dormant_of_stopped hstop
    by_contra hopen
    have hmem := (hl.unresolved_iff hd ht hs).1 hopen
    rw [hdormant.tracker] at hmem
    cases hmem
  · intro pre r post d hp hr
    exact Course.at_delivered hc hd hp hr
  · intro hlink pre r post hp hr
    obtain ⟨s, hs, hcompletion, ⟨-, hdue⟩ | ⟨hne, -⟩⟩ :=
      Course.at_fault hc hd hp hr (.inl rfl) hlink
    · exact ⟨s, hs, hcompletion, hdue⟩
    · cases hne
  · intro hlink pre r post hp hr
    obtain ⟨s, hs, hcompletion, ⟨hne, -⟩ | ⟨-, hwhy⟩⟩ :=
      Course.at_fault hc hd hp hr (.inr rfl) hlink
    · cases hne
    · exact ⟨s, hs, hcompletion, hwhy⟩
  · -- What is handed over is unresolved, and no other submission has its id.
    intro pre message post hp s hs hresolved hid
    obtain ⟨y, hy, hyid, hopen⟩ := Course.unresolved_of_send hc hd hp
    have hsame : s = y := by
      refine hd.eq_of_id hs ?_ (hid.trans hyid.symm)
      rw [hp, History.submissions_append]
      exact List.mem_append_left _ hy
    exact hopen (hsame ▸ hresolved)

/-- After the renewal the first reading is delivered, and the second waits for its confirmation. -/
theorem accounted_after_renewal :
    History.Distinct ((Worker.new Renewal.terms).history (Renewal.before ++ Renewal.onLink)) ∧
      Accounted ((Worker.new Renewal.terms).history (Renewal.before ++ Renewal.onLink))
        ((Worker.new Renewal.terms).after (Renewal.before ++ Renewal.onLink)) :=
  have hd : History.Distinct
      ((Worker.new Renewal.terms).history (Renewal.before ++ Renewal.onLink)) :=
    ⟨by decide, by decide⟩
  ⟨hd, accounted_of_run Renewal.terms (Renewal.before ++ Renewal.onLink) hd⟩

end Worker

end HubLink
