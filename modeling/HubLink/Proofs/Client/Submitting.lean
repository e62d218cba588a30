import HubLink.Bench.Basic
import HubLink.Client.Clones
import HubLink.Proofs.Connection.Replay

/-! # In which order submissions reach the worker

Clones of a client share the ids, and a call draws the id of its message before it puts its command
on the way to the worker. So the ids are all different and those of one caller ascend, but a call
that is slow to put its command on the way is overtaken by later ones. Submissions reach the worker
in the order of their ids exactly if the calls put their commands on the way in the order in which
they drew the ids (`Clones.sequences_of_room`), as they do when each call is over before the next
begins (`Clones.sendCommand_eq`). -/

namespace HubLink

namespace Call

/-- The ids of the messages that calls submit, in order. -/
def ids (calls : List Call) : List Nat := calls.filterMap (·.command.id?)

@[simp] theorem ids_append (calls calls' : List Call) :
    ids (calls ++ calls') = ids calls ++ ids calls' :=
  List.filterMap_append

theorem ids_cons {call : Call} {id : Nat} (h : call.command.id? = some id) (calls : List Call) :
    ids (call :: calls) = id :: ids calls :=
  List.filterMap_cons_some h

end Call

namespace CallStep

/-- Whether a step draws an id. -/
def isDraw : CallStep → Bool
  | .draw .. => true
  | .queue _ => false

/-- How many ids are drawn in steps. -/
def draws (steps : List CallStep) : Nat := steps.countP isDraw

@[simp] theorem draws_append (steps steps' : List CallStep) :
    draws (steps ++ steps') = draws steps + draws steps' :=
  List.countP_append

end CallStep

namespace Clones

variable {s : Clones} {k : Nat}

/-- The ids that were drawn: those on the way to the worker, and behind them those of the calls that
are not over. -/
def ids (s : Clones) : List Nat := Call.ids (s.inbox ++ s.drawn)

theorem after_concat (s : Clones) (steps : List CallStep) (step : CallStep) :
    s.after (steps ++ [step]) = (s.after steps).step step :=
  List.foldl_append

/-- Who is in no call has drawn no id. -/
theorem isCalling_eq_false_iff {caller : Nat} :
    s.isCalling caller = false ↔ ∀ call ∈ s.drawn, call.caller ≠ caller := by
  simp [isCalling]

/-! ## One call after the other -/

/-- A caller in a call begins no other. -/
theorem step_draw_of_calling {caller now completion : Nat} {kind : MessageKind} {message : Message}
    {timeout : Option Nat} (h : s.isCalling caller = true) :
    s.step (.draw caller now completion kind message timeout) = s := by
  rw [step, if_pos h]

/-- A call that begins draws the next id. -/
theorem step_draw_of_free {caller now completion : Nat} {kind : MessageKind} {message : Message}
    {timeout : Option Nat} (h : s.isCalling caller = false) :
    s.step (.draw caller now completion kind message timeout) =
      { s with
        client := { s.client with nextId := (s.client.nextId + 1) % Text.bound64 }
        drawn := s.drawn ++ [⟨caller, .submit { id := s.client.nextId, kind, message } completion
          (deadlineAfter now (timeout.getD s.client.operationTime))⟩] } := by
  simp [step, h, Client.command]

/-- **A request on the bench is a call whose steps follow one another.** -/
theorem sendCommand_eq (b : Bench.ClientBench) (caller completion : Nat) (kind : MessageKind)
    (message : Message) (timeout : Option Nat) (reading : Reading)
    (hclient : s.client = b.client) (hdrawn : s.drawn = [])
    (hinbox : s.inbox.map (·.command) = b.inbox) :
    ((s.step (.draw caller b.now completion kind message timeout)).step (.queue caller)).client =
        (b.sendCommand completion (.deliver kind message timeout reading)).1.client ∧
      ((s.step (.draw caller b.now completion kind message timeout)).step (.queue caller)).inbox.map
          (·.command) =
        (b.sendCommand completion (.deliver kind message timeout reading)).1.inbox := by
  have hrouse (b' : Bench.ClientBench) (a : Bench.Actor) :
      (b'.rouse a).client = b'.client ∧ (b'.rouse a).inbox = b'.inbox := by
    rw [Bench.ClientBench.rouse]
    split <;> exact ⟨rfl, rfl⟩
  have hfree : s.isCalling caller = false := by simp [isCalling, hdrawn]
  rw [step_draw_of_free hfree, hdrawn, hclient]
  simp [step, Bench.ClientBench.sendCommand, Client.command, Bench.ClientBench.order, hrouse,
    hinbox]

/-! ## What is known of the ids -/

/-- **Calls are numbered**: their ids are the first ones, each drawn once. Those of the calls that
are not over ascend, and each of these calls has a caller of its own. -/
structure Numbered (k : Nat) (s : Clones) : Prop where
  nextId : s.client.nextId = (k + 1) % Text.bound64
  given : s.ids.Perm (List.range' 1 k)
  submits : ∀ call ∈ s.drawn, ∃ id, call.command.id? = some id
  ascending : (Call.ids s.drawn).Pairwise (· < ·)
  callers : (s.drawn.map (·.caller)).Nodup

namespace Numbered

/-- A drawn id is one of the first ones. -/
theorem le_of_mem (h : s.Numbered k) {id : Nat} (hid : id ∈ s.ids) : id ≤ k := by
  rw [h.given.mem_iff, List.mem_range'_1] at hid
  omega

/-- No id is drawn twice. -/
theorem nodup (h : s.Numbered k) : s.ids.Nodup :=
  h.given.nodup_iff.2 List.nodup_range'

/-- Drawn ids that ascend still do with the next id behind them. -/
theorem pairwise_concat (h : s.Numbered k) {ids : List Nat} (hids : ids ⊆ s.ids)
    (hasc : ids.Pairwise (· < ·)) : (ids ++ [k + 1]).Pairwise (· < ·) := by
  refine List.pairwise_append.2 ⟨hasc, List.pairwise_singleton _ _, fun id hmem id' hid' => ?_⟩
  rw [List.mem_singleton.1 hid']
  exact Nat.lt_succ_of_le (h.le_of_mem (hids hmem))

end Numbered

/-- Nothing is drawn before the first call. -/
theorem numbered_new (time : Nat) : Numbered 0 { client := { operationTime := time } } where
  nextId := rfl
  given := List.Perm.refl _
  submits := by simp
  ascending := .nil
  callers := .nil

/-- The call that a caller is in is the only one of his. -/
theorem queue_eq (h : s.Numbered k) {call : Call} {pre post : List Call}
    (hdrawn : s.drawn = pre ++ call :: post) :
    s.step (.queue call.caller) = { s with drawn := pre ++ post, inbox := s.inbox ++ [call] } := by
  have hcallers := h.callers
  rw [hdrawn, List.map_append, List.map_cons, List.nodup_append, List.nodup_cons] at hcallers
  have hpre : ∀ other ∈ pre, other.caller ≠ call.caller := fun other hmem heq =>
    hcallers.2.2 _ (List.mem_map_of_mem hmem) _ (List.mem_cons_self ..) heq
  have hpost : ∀ other ∈ post, other.caller ≠ call.caller := fun other hmem heq =>
    hcallers.2.1.1 (heq ▸ List.mem_map_of_mem hmem)
  have hothers : s.drawn.filter (·.caller ≠ call.caller) = pre ++ post := by
    rw [hdrawn, List.filter_append, List.filter_cons_of_neg (by simp),
      List.filter_eq_self.2 (by simpa using hpre), List.filter_eq_self.2 (by simpa using hpost)]
  have hown : s.drawn.filter (·.caller = call.caller) = [call] := by
    rw [hdrawn, List.filter_append, List.filter_cons_of_pos (by simp),
      List.filter_eq_nil_iff.2 (by simpa using hpre),
      List.filter_eq_nil_iff.2 (by simpa using hpost), List.nil_append]
  rw [step, hothers, hown]

/-- Who is in no call puts nothing on the way. -/
theorem queue_of_free {caller : Nat} (h : s.isCalling caller = false) :
    s.step (.queue caller) = s := by
  have hcalls := isCalling_eq_false_iff.1 h
  have hothers : s.drawn.filter (·.caller ≠ caller) = s.drawn :=
    List.filter_eq_self.2 (by simpa using hcalls)
  have hown : s.drawn.filter (·.caller = caller) = [] :=
    List.filter_eq_nil_iff.2 (by simpa using hcalls)
  rw [step, hothers, hown, List.append_nil]

/-- Who is in a call has drawn an id. -/
theorem split_of_calling {caller : Nat} (h : s.isCalling caller = true) :
    ∃ call pre post, call.caller = caller ∧ s.drawn = pre ++ call :: post := by
  rw [isCalling, List.any_eq_true] at h
  obtain ⟨call, hmem, hcaller⟩ := h
  obtain ⟨pre, post, hdrawn⟩ := List.append_of_mem hmem
  exact ⟨call, pre, post, by simpa using hcaller, hdrawn⟩

/-- The call that begins, with the id that it draws. -/
theorem draw_eq (h : s.Numbered k) (room : k + 1 < Text.bound64) {caller now completion : Nat}
    {kind : MessageKind} {message : Message} {timeout : Option Nat}
    (hfree : s.isCalling caller = false) :
    ∃ call : Call, call.caller = caller ∧ call.command.id? = some (k + 1) ∧
      s.step (.draw caller now completion kind message timeout) =
        { s with
          client := { s.client with nextId := (k + 1 + 1) % Text.bound64 }
          drawn := s.drawn ++ [call] } := by
  have hid : s.client.nextId = k + 1 := by rw [h.nextId, Nat.mod_eq_of_lt room]
  rw [step_draw_of_free hfree, hid]
  exact ⟨_, rfl, rfl, rfl⟩

/-- One more call has the id that it drew. -/
theorem ids_concat {call : Call} {id : Nat} (hid : call.command.id? = some id)
    (calls : List Call) : Call.ids (calls ++ [call]) = Call.ids calls ++ [id] := by
  rw [Call.ids_append, Call.ids_cons hid []]
  rfl

/-- A call begins. -/
theorem numbered_draw (h : s.Numbered k) (room : k + 1 < Text.bound64) {caller now completion : Nat}
    {kind : MessageKind} {message : Message} {timeout : Option Nat}
    (hfree : s.isCalling caller = false) :
    (s.step (.draw caller now completion kind message timeout)).Numbered (k + 1) := by
  obtain ⟨call, hcaller, hid, heq⟩ := draw_eq h room hfree
  rw [heq]
  refine ⟨rfl, ?_, ?_, ?_, ?_⟩
  · rw [ids, ← List.append_assoc, ids_concat hid, List.range'_1_concat, Nat.add_comm 1 k]
    exact h.given.append_right _
  · intro other hmem
    rw [List.mem_append, List.mem_singleton] at hmem
    obtain hmem | rfl := hmem
    · exact h.submits other hmem
    · exact ⟨_, hid⟩
  · rw [ids_concat hid]
    refine h.pairwise_concat ?_ h.ascending
    rw [ids, Call.ids_append]
    exact List.subset_append_right _ _
  · have hnew : caller ∉ s.drawn.map (·.caller) := by
      rw [List.mem_map]
      rintro ⟨other, hmem, heq⟩
      exact isCalling_eq_false_iff.1 hfree other hmem heq
    rw [List.map_append, List.map_singleton, hcaller, List.nodup_append]
    refine ⟨h.callers, List.nodup_singleton _, fun c hc c' hc' heq => hnew ?_⟩
    rw [← List.mem_singleton.1 hc', ← heq]
    exact hc

/-- A call is over. -/
theorem numbered_queue (h : s.Numbered k) (caller : Nat) : (s.step (.queue caller)).Numbered k := by
  cases hcalling : s.isCalling caller with
  | false =>
    rw [queue_of_free hcalling]
    exact h
  | true =>
    obtain ⟨call, pre, post, rfl, hdrawn⟩ := split_of_calling hcalling
    have hsub : (pre ++ post).Sublist s.drawn := by
      rw [hdrawn]
      exact (List.Sublist.refl _).append (List.sublist_cons_self _ _)
    rw [queue_eq h hdrawn]
    refine ⟨h.nextId, ?_, fun other hmem => h.submits other (hsub.subset hmem),
      h.ascending.sublist (hsub.filterMap _), h.callers.sublist (hsub.map _)⟩
    refine List.Perm.trans ?_ h.given
    have hperm : (s.inbox ++ [call] ++ (pre ++ post)).Perm (s.inbox ++ s.drawn) := by
      rw [hdrawn, List.append_assoc, List.singleton_append]
      exact List.perm_middle.symm.append_left _
    exact hperm.filterMap _

/-- **Calls stay numbered** while fewer ids are drawn than there are. -/
theorem numbered_step (h : s.Numbered k) (step : CallStep)
    (room : k + CallStep.draws [step] < Text.bound64) :
    ∃ k', k' ≤ k + CallStep.draws [step] ∧ (s.step step).Numbered k' := by
  cases step with
  | draw caller now completion kind message timeout =>
    cases hcalling : s.isCalling caller with
    | false => exact ⟨k + 1, Nat.le_refl _, numbered_draw h room hcalling⟩
    | true =>
      rw [step_draw_of_calling hcalling]
      exact ⟨k, Nat.le_add_right _ _, h⟩
  | queue caller => exact ⟨k, Nat.le_refl _, numbered_queue h caller⟩

/-- **Calls are numbered** after steps that draw fewer ids than there are. -/
theorem numbered_after (time : Nat) {steps : List CallStep}
    (room : CallStep.draws steps < Text.bound64) :
    ∃ k, k ≤ CallStep.draws steps ∧
      (after { client := { operationTime := time } } steps).Numbered k := by
  induction steps using List.reverseRecOn with
  | nil => exact ⟨0, Nat.le_refl _, numbered_new time⟩
  | append_singleton steps step ih =>
    rw [CallStep.draws_append] at room ⊢
    obtain ⟨k, hk, hnumbered⟩ := ih (by omega)
    obtain ⟨k', hk', hnumbered'⟩ := numbered_step hnumbered step (by omega)
    rw [after_concat]
    exact ⟨k', by omega, hnumbered'⟩

/-! ## The order of the ids -/

/-- It is a caller's turn if he is in no call, or in the one that drew the first id. -/
def InTurn (s : Clones) (caller : Nat) : Prop :=
  ∀ call ∈ s.drawn, call.caller = caller → s.drawn.head? = some call

/-- **Calls take turns** in steps: each puts its command on the way before those that drew later. -/
def TakesTurns (s : Clones) (steps : List CallStep) : Prop :=
  ∀ pre caller post, steps = pre ++ .queue caller :: post → (s.after pre).InTurn caller

theorem takesTurns_nil (s : Clones) : s.TakesTurns [] := by
  intro pre caller post h
  simp at h

theorem takesTurns_concat_iff {steps : List CallStep} {step : CallStep} :
    s.TakesTurns (steps ++ [step]) ↔
      s.TakesTurns steps ∧ ∀ caller, step = .queue caller → (s.after steps).InTurn caller := by
  constructor
  · intro h
    refine ⟨fun pre caller post hsplit => ?_, fun caller hstep => ?_⟩
    · exact h pre caller (post ++ [step]) (by rw [hsplit, List.append_assoc, List.cons_append])
    · exact h steps caller [] (by rw [hstep])
  · rintro ⟨hsteps, hlast⟩ pre caller post hsplit
    obtain ⟨rfl, hstep, -⟩ | ⟨post, -, rfl⟩ := split_concat hsplit
    · exact hlast caller hstep.symm
    · exact hsteps pre caller post rfl

/-- The ids of the calls of a caller, in order. -/
def idsOf (s : Clones) (caller : Nat) : List Nat :=
  Call.ids ((s.inbox ++ s.drawn).filter (·.caller = caller))

/-- Putting a command on the way leaves the order of each caller's calls as it is. -/
theorem idsOf_queue (s : Clones) (caller caller' : Nat) :
    (s.step (.queue caller)).idsOf caller' = s.idsOf caller' := by
  have hcalls : (s.drawn.filter (·.caller = caller)).filter (·.caller = caller') ++
      (s.drawn.filter (·.caller ≠ caller)).filter (·.caller = caller') =
        s.drawn.filter (·.caller = caller') := by
    rw [List.filter_filter, List.filter_filter]
    by_cases heq : caller' = caller
    · subst heq
      simp
    · have hnone : s.drawn.filter
          (fun call => decide (call.caller = caller') && decide (call.caller = caller)) = [] := by
        rw [List.filter_eq_nil_iff]
        intro call _
        simpa using fun h => h ▸ heq
      have hall : s.drawn.filter
          (fun call => decide (call.caller = caller') && decide (call.caller ≠ caller)) =
            s.drawn.filter (·.caller = caller') := by
        refine List.filter_congr fun call _ => ?_
        simpa using fun h => h ▸ heq
      rw [hnone, hall, List.nil_append]
  rw [idsOf, step, List.append_assoc, List.filter_append, List.filter_append, hcalls, idsOf,
    List.filter_append]

/-- **Each caller's ids ascend** from step to step. -/
theorem idsOf_step (h : s.Numbered k) (step : CallStep)
    (room : k + CallStep.draws [step] < Text.bound64) {caller : Nat}
    (hasc : (s.idsOf caller).Pairwise (· < ·)) :
    ((s.step step).idsOf caller).Pairwise (· < ·) := by
  cases step with
  | draw caller' now completion kind message timeout =>
    cases hcalling : s.isCalling caller' with
    | true =>
      rw [step_draw_of_calling hcalling]
      exact hasc
    | false =>
      obtain ⟨call, -, hid, heq⟩ := draw_eq h room hcalling
      rw [heq, idsOf, ← List.append_assoc, List.filter_append]
      by_cases hcaller : call.caller = caller
      · rw [List.filter_cons_of_pos (by simpa using hcaller), List.filter_nil, ids_concat hid]
        have hsub : (s.idsOf caller).Sublist s.ids := List.filter_sublist.filterMap _
        exact h.pairwise_concat hsub.subset hasc
      · rw [List.filter_cons_of_neg (by simpa using hcaller), List.filter_nil, List.append_nil]
        exact hasc
  | queue caller' =>
    rw [idsOf_queue]
    exact hasc

/-- Whether it is the turn of a caller in a call. -/
theorem inTurn_iff (h : s.Numbered k) {call : Call} {pre post : List Call}
    (hdrawn : s.drawn = pre ++ call :: post) : s.InTurn call.caller ↔ pre = [] := by
  have hcallers := h.callers
  constructor
  · intro hturn
    have hhead := hturn call (by simp [hdrawn]) rfl
    cases pre with
    | nil => rfl
    | cons first pre =>
      rw [hdrawn, List.cons_append, List.head?_cons, Option.some.injEq] at hhead
      rw [hdrawn, hhead] at hcallers
      simp at hcallers
  · rintro rfl other hmem hcaller
    rw [hdrawn, List.nil_append, List.mem_cons] at hmem
    rw [hdrawn, List.nil_append, List.map_cons, List.nodup_cons] at hcallers
    obtain rfl | hmem := hmem
    · rw [hdrawn]
      rfl
    · exact absurd (hcaller ▸ List.mem_map_of_mem hmem) hcallers.1

/-- **Whether all ids ascend** after a step. -/
theorem pairwise_ids_step_iff (h : s.Numbered k) (step : CallStep)
    (room : k + CallStep.draws [step] < Text.bound64) :
    (s.step step).ids.Pairwise (· < ·) ↔
      s.ids.Pairwise (· < ·) ∧ ∀ caller, step = .queue caller → s.InTurn caller := by
  cases step with
  | draw caller now completion kind message timeout =>
    have hno : ∀ caller',
        CallStep.draw caller now completion kind message timeout = .queue caller' →
          s.InTurn caller' := by
      rintro caller' ⟨⟩
    cases hcalling : s.isCalling caller with
    | true =>
      rw [step_draw_of_calling hcalling]
      exact ⟨fun hasc => ⟨hasc, hno⟩, fun hasc => hasc.1⟩
    | false =>
      obtain ⟨call, -, hid, heq⟩ := draw_eq h room hcalling
      rw [heq, ids, ← List.append_assoc, ids_concat hid]
      exact ⟨fun hasc => ⟨(List.pairwise_append.1 hasc).1, hno⟩,
        fun hasc => h.pairwise_concat (List.Subset.refl _) hasc.1⟩
  | queue caller =>
    cases hcalling : s.isCalling caller with
    | false =>
      rw [queue_of_free hcalling]
      refine ⟨fun hasc => ⟨hasc, ?_⟩, fun hasc => hasc.1⟩
      rintro caller' ⟨⟩ call hmem hcaller
      exact absurd hcaller (isCalling_eq_false_iff.1 hcalling call hmem)
    | true =>
      obtain ⟨call, pre, post, rfl, hdrawn⟩ := split_of_calling hcalling
      have hturn : (∀ caller', CallStep.queue call.caller = .queue caller' → s.InTurn caller') ↔
          pre = [] := by
        rw [← inTurn_iff h hdrawn]
        exact ⟨fun hturn => hturn _ rfl, by rintro hturn _ ⟨⟩; exact hturn⟩
      rw [queue_eq h hdrawn, hturn]
      cases pre with
      | nil => simp [ids, hdrawn]
      | cons first pre =>
        -- The call overtakes the first one, whose id is smaller.
        obtain ⟨id, hid⟩ := h.submits call (by simp [hdrawn])
        obtain ⟨id', hid'⟩ := h.submits first (by simp [hdrawn])
        have hlt := h.ascending
        rw [hdrawn, List.cons_append, Call.ids_cons hid', Call.ids_append, Call.ids_cons hid,
          List.pairwise_cons] at hlt
        refine iff_of_false (fun hasc => ?_) (by simp)
        rw [ids, List.cons_append, Call.ids_append, ids_concat hid, Call.ids_cons hid',
          List.pairwise_append] at hasc
        exact Nat.lt_asymm (hlt.1 id (by simp)) (hasc.2.2 id (by simp) id' (by simp))

/-- **How submissions are numbered** by the calls of clones. -/
structure Sequences (s : Clones) (steps : List CallStep) : Prop where
  /-- No id is drawn twice. -/
  distinct : (s.after steps).ids.Nodup
  /-- Each caller's ids ascend. -/
  own : ∀ caller, ((s.after steps).idsOf caller).Pairwise (· < ·)
  /-- All ids ascend, on the way to the worker and in the calls that are not over, exactly if calls
  take turns. -/
  in_order_iff : (s.after steps).ids.Pairwise (· < ·) ↔ s.TakesTurns steps
  /-- If they do, and the worker takes submissions from those on the way in their order, first
  hand-overs on every link ascend, as hand-overs do that are made again. -/
  handedOver : s.TakesTurns steps → ∀ terms inputs,
    (History.submitted ((Worker.new terms).history inputs)).Sublist
        (Call.ids (s.after steps).inbox) →
      ∀ pre v now mid post,
        (Worker.new terms).history inputs =
            pre ++ .took v now (.connected (.ok ())) :: (mid ++ post) →
          .did .release ∉ mid → (History.handOvers mid).eraseDups.Pairwise (· < ·)

/-- All ids ascend exactly if calls take turns. -/
theorem pairwise_ids_iff (time : Nat) {steps : List CallStep}
    (room : CallStep.draws steps < Text.bound64) :
    (after { client := { operationTime := time } } steps).ids.Pairwise (· < ·) ↔
      TakesTurns { client := { operationTime := time } } steps := by
  induction steps using List.reverseRecOn with
  | nil => exact iff_of_true .nil (takesTurns_nil _)
  | append_singleton steps step ih =>
    rw [CallStep.draws_append] at room
    have hroom : CallStep.draws steps < Text.bound64 := by omega
    obtain ⟨k, hk, hnumbered⟩ := numbered_after time hroom
    rw [after_concat, takesTurns_concat_iff, pairwise_ids_step_iff hnumbered step (by omega),
      ih hroom]

/-- Each caller's ids ascend. -/
theorem pairwise_idsOf (time : Nat) {steps : List CallStep}
    (room : CallStep.draws steps < Text.bound64) (caller : Nat) :
    ((after { client := { operationTime := time } } steps).idsOf caller).Pairwise (· < ·) := by
  induction steps using List.reverseRecOn with
  | nil => exact .nil
  | append_singleton steps step ih =>
    rw [CallStep.draws_append] at room
    have hroom : CallStep.draws steps < Text.bound64 := by omega
    obtain ⟨k, hk, hnumbered⟩ := numbered_after time hroom
    rw [after_concat]
    exact idsOf_step hnumbered step (by omega) (ih hroom)

/-- **Submissions reach the worker in the order of their ids exactly if calls take turns**, while
fewer ids are drawn than there are. -/
theorem sequences_of_room (time : Nat) (steps : List CallStep)
    (room : CallStep.draws steps < Text.bound64) :
    Sequences { client := { operationTime := time } } steps := by
  obtain ⟨k, -, hnumbered⟩ := numbered_after time room
  have hiff := pairwise_ids_iff time room
  refine ⟨hnumbered.nodup, pairwise_idsOf time room, hiff, ?_⟩
  intro hturns terms inputs hsub pre v now mid post hp hrelease
  have hasc : History.Ascending ((Worker.new terms).history inputs) := by
    have hids := hiff.2 hturns
    rw [ids, Call.ids_append] at hids
    exact (List.pairwise_append.1 hids).1.sublist hsub
  refine History.pairwise_handOvers fun sofar message rest hmid => ?_
  obtain ⟨u, hqueued, hlinked⟩ :=
    Course.queued_of_send (Worker.course_of_run terms inputs) hasc hp hrelease hmid
  exact hlinked.later message.id hqueued

/-! ### Two callers

Two callers begin a call each, one after the other. -/

/-- A caller begins a call. -/
def begins (caller : Nat) : CallStep := .draw caller 0 caller .telemetry .empty none

/-- The callers put their commands on the way in turn. -/
theorem sequences_of_two :
    CallStep.draws [begins 1, begins 2, .queue 1, .queue 2] < Text.bound64 ∧
      Sequences { client := { operationTime := 60 } } [begins 1, begins 2, .queue 1, .queue 2] :=
  have room : CallStep.draws [begins 1, begins 2, .queue 1, .queue 2] < Text.bound64 := by decide
  ⟨room, sequences_of_room 60 _ room⟩

/-- Submissions do not always reach the worker in the order of their ids: the caller who begins
later may put its command on the way first. -/
theorem not_ascending_of_overtaking :
    ¬∀ time steps, CallStep.draws steps < Text.bound64 →
      (Call.ids (after { client := { operationTime := time } } steps).inbox).Pairwise (· < ·) := by
  intro h
  have hasc := h 60 [begins 1, begins 2, .queue 2, .queue 1] (by decide)
  have hids : Call.ids (after { client := { operationTime := 60 } }
      [begins 1, begins 2, .queue 2, .queue 1]).inbox = [2, 1] := by decide
  rw [hids] at hasc
  exact absurd hasc (by decide)

end Clones

/-- Submissions out of order are handed over on an open link as they come, but again in the order of
their ids. -/
example :
    let inputs : List (Nat × Input) :=
      [(0, .command (.open 1)), (1, .connected (.ok ())),
        (2, .command (.submit (Renewal.reading 2) 102 900)), (3, .sent (.ok .awaiting)),
        (4, .command (.submit (Renewal.reading 1) 101 900)), (5, .sent (.ok .awaiting))]
    History.handOvers ((Worker.new Renewal.terms).history inputs) = [2, 1] ∧
      ((Worker.new Renewal.terms).after inputs).tracker.outstanding = [1, 2] := by
  decide +kernel

end HubLink
