import HubLink.Proofs.Connection.Replay

/-! # The queue on a link

As long as the link stays up, what is queued is passed in its order: ids leave the queue at its
front, and new ones join it at its end. An id that leaves is handed over, or its operation has ended
(`PassesInOrder`). Every move that keeps the link keeps this (`Move.passesInOrder`), so it holds from
any moment on (`Course.passesInOrder`). -/

namespace HubLink

open Relation

/-- **The queue is passed in order**, given the worker at first and what was seen since. -/
structure PassesInOrder (v : Worker) (seen : List Occurrence) (w : Worker) : Prop where
  /-- What was queued and what joined it has been passed up to what is queued now. Messages were
  handed over in this order, and an id without a hand-over had no operation, or one that ended. -/
  order : ∃ passed joined, passed ++ w.queue = v.queue ++ joined ∧
    (History.handOvers seen).Sublist passed ∧
    ∀ id ∈ passed, id ∈ History.handOvers seen ∨ ∀ p, v.tracker.pending? id = some p →
      p.completion ∈ History.completions seen
  /-- An operation waits on unless it has ended. -/
  kept : ∀ id p, v.tracker.pending? id = some p →
    p.completion ∈ History.completions seen ∨ w.tracker.pending? id = some p

namespace PassesInOrder

variable {v w w' : Worker} {seen os : List Occurrence}

/-- At first nothing was passed. -/
theorem start (v : Worker) : PassesInOrder v [] v where
  order := ⟨[], [], by simp, .slnil, by simp⟩
  kept _ _ hp := .inr hp

/-- Operations go on as they did, or end. -/
theorem kept_append (hv : PassesInOrder v seen w)
    (hp : ∀ id p, w.tracker.pending? id = some p →
      p.completion ∈ History.completions os ∨ w'.tracker.pending? id = some p) {id : Nat}
    {p : PendingCorrelation} (hpending : v.tracker.pending? id = some p) :
    p.completion ∈ History.completions (seen ++ os) ∨ w'.tracker.pending? id = some p := by
  rw [History.completions_append, List.mem_append]
  rcases hv.kept id p hpending with hended | hwaits
  · exact .inl (.inl hended)
  · exact (hp id p hwaits).imp_left .inr

/-- Some ids are passed and some join. -/
theorem advance (hv : PassesInOrder v seen w) (gone arrived : List Nat)
    (hq : gone ++ w'.queue = w.queue ++ arrived)
    (hsent : (History.handOvers os).Sublist gone)
    (hgone : ∀ id ∈ gone, id ∈ History.handOvers os ∨ w.tracker.pending? id = none)
    (hp : ∀ id p, w.tracker.pending? id = some p →
      p.completion ∈ History.completions os ∨ w'.tracker.pending? id = some p) :
    PassesInOrder v (seen ++ os) w' where
  order := by
    obtain ⟨passed, joined, horder, hsub, hpassed⟩ := hv.order
    refine ⟨passed ++ gone, joined ++ arrived, ?_, ?_, ?_⟩
    · rw [List.append_assoc, hq, ← List.append_assoc, horder, List.append_assoc]
    · rw [History.handOvers_append]
      exact hsub.append hsent
    · rw [List.forall_mem_append, History.handOvers_append, History.completions_append]
      refine ⟨fun id hid => ?_, fun id hid => ?_⟩
      · exact (hpassed id hid).imp (List.mem_append_left _) fun hended p hpending =>
          List.mem_append_left _ (hended p hpending)
      · refine (hgone id hid).imp (List.mem_append_right _) fun hnone p hpending => ?_
        -- Nothing waits under the id any more, so that what waited at first has ended.
        refine List.mem_append_left _ ((hv.kept id p hpending).resolve_right ?_)
        rw [hnone]
        rintro ⟨⟩
  kept _ _ := hv.kept_append hp

/-- Nothing is passed and nothing joins. -/
theorem stay (hv : PassesInOrder v seen w) (hq : w'.queue = w.queue)
    (hh : History.handOvers os = [])
    (hp : ∀ id p, w.tracker.pending? id = some p →
      p.completion ∈ History.completions os ∨ w'.tracker.pending? id = some p) :
    PassesInOrder v (seen ++ os) w' :=
  hv.advance [] [] (by simp [hq]) (by rw [hh]) (by simp) hp

end PassesInOrder

/-- In a coherent tracker no operation waits without a message. -/
theorem DeliveryTracker.Coherent.pending_eq_none {t : DeliveryTracker} (ht : t.Coherent) {id : Nat}
    (hm : t.message? id = none) : t.pending? id = none := by
  rw [← Option.not_isSome_iff_eq_none, ← ht.paired, hm]
  exact Bool.false_ne_true

/-- An operation that ends is resolved; the others wait on. -/
theorem DeliveryTracker.pending?_of_ended {t : DeliveryTracker} {id : Nat} {p : PendingCorrelation}
    (waits : t.pending? id = some p) (outcome : Except Fault (Option Response)) (k : Nat)
    (x : PendingCorrelation) (hx : t.pending? k = some x) :
    x.completion ∈ History.completions [.did (.complete (p.resolve id outcome))] ∨
      (t.retire id).pending? k = some x := by
  rw [DeliveryTracker.pending?_retire]
  by_cases hk : k = id
  · subst hk
    obtain rfl := Option.some.inj (waits.symm.trans hx)
    exact .inl (List.mem_singleton_self _)
  · rw [if_neg hk]
    exact .inr hx

/-- **Every move that keeps the link passes the queue in order.** -/
theorem Move.passesInOrder {a b : Moment} (hm : Move a b) {v : Worker} {seen os : List Occurrence}
    (hp : b.past = a.past ++ os) (hup : History.linkUp a.past = true)
    (hrelease : .did .release ∉ os) (ht : a.worker.tracker.Coherent)
    (hv : PassesInOrder v seen a.worker) : PassesInOrder v (seen ++ os) b.worker := by
  cases hm with
  | aside tracker queue =>
    obtain rfl := List.self_eq_append_right.1 hp
    exact hv.stay queue rfl fun _ _ hpending => .inr (by rw [tracker]; exact hpending)
  | took | refused =>
    obtain rfl := List.append_cancel_left hp
    exact hv.stay rfl rfl fun _ _ hpending => .inr hpending
  | connected takes down =>
    -- The link comes up only while it is down.
    rw [down] at hup
    cases hup
  | @enrolled h w now message completion deadline takes fresh =>
    obtain rfl := List.append_cancel_left hp
    refine hv.advance [] [message.id] ?_ .slnil (by simp)
      fun id p hpending => .inr ?_
    · rw [if_pos hup, List.nil_append]
    · have hne : message.id ≠ id := by
        rintro rfl
        rw [fresh] at hpending
        cases hpending
      rw [DeliveryTracker.pending?_enroll, if_neg hne]
      exact hpending
  | renewed =>
    obtain rfl := List.append_cancel_left hp
    simp at hrelease
  | did plain =>
    obtain rfl := List.append_cancel_left hp
    exact hv.stay rfl (History.handOvers_did_of_plain plain) fun _ _ hpending => .inr hpending
  | @cleared h w idle =>
    -- While the link is up the queue is emptied only if nothing queued is under way.
    obtain rfl := List.self_eq_append_right.1 hp
    have hnone := idle.resolve_left (by simp [hup])
    refine hv.advance w.queue [] (by simp) (List.nil_sublist _)
      (fun id hid => .inr ?_) fun _ _ hpending => .inr hpending
    exact ht.pending_eq_none (hnone id hid)
  | @sent h w now id message tracker queue up next =>
    obtain rfl := List.append_cancel_left hp
    obtain ⟨skipped, m, hq, hskip, hm, rfl, rfl⟩ := Worker.nextToSend_eq_some next
    have hid : History.handOvers [.did (.send (m.handOver now).message)] = [id] :=
      congrArg (fun k => [k]) (ht.filed id m hm)
    refine hv.advance (skipped ++ [id]) [] ?_ ?_ ?_
      fun _ _ hpending => .inr hpending
    · simp [hq]
    · rw [hid]
      exact List.sublist_append_right _ _
    · rw [List.forall_mem_append, List.forall_mem_singleton, hid]
      exact ⟨fun k hk => .inr (ht.pending_eq_none (hskip k hk)), .inl (List.mem_singleton_self _)⟩
  | ended waits =>
    obtain rfl := List.append_cancel_left hp
    exact hv.stay rfl rfl (DeliveryTracker.pending?_of_ended waits _)
  | postponed =>
    obtain rfl := List.self_eq_append_right.1 hp
    exact hv.stay rfl rfl fun _ _ hpending => .inr hpending
  | @requeued h w id tracked later last again =>
    obtain rfl := List.self_eq_append_right.1 hp
    exact hv.advance [] [id] rfl .slnil (by simp)
      fun _ _ hpending => .inr hpending

/-- The link stays up until it is closed. -/
theorem History.linkUp_of_not_release {h os : List Occurrence} (hup : linkUp h = true)
    (hrelease : .did .release ∉ os) : linkUp (h ++ os) = true := by
  rw [linkUp_append, hup]
  refine foldl_eq_self (r := true) fun o hmem => ?_
  unfold Occurrence.linkUp
  split
  · rfl
  · exact absurd hmem hrelease
  · rfl

/-- **Along a course the queue is passed in order**, from any moment on at which the link is up until
it is closed. -/
theorem Course.passesInOrder {a b : Moment} (hc : Course a b) {os : List Occurrence}
    (hp : b.past = a.past ++ os) (hup : History.linkUp a.past = true)
    (hrelease : .did .release ∉ os) (ht : a.worker.tracker.Coherent) :
    PassesInOrder a.worker os b.worker := by
  induction hc generalizing os with
  | refl =>
    obtain rfl := List.self_eq_append_right.1 hp
    exact .start a.worker
  | @tail c b hac hmove ih =>
    obtain ⟨os₁, hos₁⟩ := Course.past_eq hac
    obtain ⟨os₂, hos₂⟩ := Course.past_eq (.single hmove)
    rw [hos₂, hos₁, List.append_assoc] at hp
    obtain rfl := List.append_cancel_left hp
    rw [List.mem_append, not_or] at hrelease
    refine hmove.passesInOrder hos₂ ?_ hrelease.2 (Course.coherent hac ht) (ih hos₁ hrelease.1)
    rw [hos₁]
    exact History.linkUp_of_not_release hup hrelease.1

end HubLink
