import HubLink.Proofs.Connection.Runs
import Mathlib.Data.List.Induction

/-! # Replay and ordering

In which order messages are handed over on a link. A link lasts from the success of a connect until
it is closed; `mid` stands for what was seen since it came up, which closes it nowhere. When
messages are submitted with ascending ids, the queue stays sorted through everything that is done to
it, and every message under way was handed over on the link or is queued (`Linked`). Every move that
keeps the link keeps this (`Move.linked`), so first hand-overs ascend, what was under way when the
link came up goes before what is submitted later, and nothing is left out
(`Worker.ordered_of_run`). -/

namespace HubLink

open Relation

/-- Messages are submitted with ascending ids. -/
def History.Ascending (h : List Occurrence) : Prop := (submitted h).Pairwise (· < ·)

theorem History.Ascending.of_append {h os : List Occurrence} (hasc : Ascending (h ++ os)) :
    Ascending h := by
  rw [Ascending, submitted_append] at hasc
  exact (List.pairwise_append.1 hasc).1

/-- What is submitted later has a greater id. -/
theorem History.Ascending.lt {h os : List Occurrence} (hasc : Ascending (h ++ os)) {k id : Nat}
    (hk : k ∈ submitted h) (hid : id ∈ submitted os) : k < id := by
  rw [Ascending, submitted_append] at hasc
  exact (List.pairwise_append.1 hasc).2.2 k hk id hid

/-! ## What is known of ids -/

section Moves

variable {a b : Moment} {os : List Occurrence} {id : Nat}

/-- What is under way after a move was before, or is submitted with it. -/
theorem Move.outstanding (hm : Move a b) (hp : b.past = a.past ++ os)
    (hid : id ∈ b.worker.tracker.outstanding) :
    id ∈ a.worker.tracker.outstanding ∨ id ∈ History.submitted os := by
  cases hm with
  | aside tracker queue => exact .inl (tracker ▸ hid)
  | took | connected | refused | renewed | did | cleared | requeued => exact .inl hid
  | enrolled =>
    obtain rfl := List.append_cancel_left hp
    exact (DeliveryTracker.mem_outstanding_enroll.1 hid).symm.imp_right List.mem_singleton.2
  | sent up next =>
    obtain ⟨_, m, -, -, hm, -, rfl⟩ := Worker.nextToSend_eq_some next
    exact .inl ((DeliveryTracker.mem_outstanding_insert hm).1 hid)
  | ended => exact .inl ((DeliveryTracker.within_retire _ _).outstanding_subset hid)
  | postponed tracked => exact .inl ((DeliveryTracker.mem_outstanding_insert tracked).1 hid)

/-- What is queued after a move was queued or under way before, or is submitted with it. -/
theorem Move.queue (hm : Move a b) (hp : b.past = a.past ++ os) (hid : id ∈ b.worker.queue) :
    id ∈ a.worker.queue ∨ id ∈ a.worker.tracker.outstanding ∨ id ∈ History.submitted os := by
  cases hm with
  | aside tracker queue => exact .inl (queue ▸ hid)
  | took | refused | renewed | did | ended | postponed => exact .inl hid
  | connected => exact .inr (.inl hid)
  | enrolled =>
    obtain rfl := List.append_cancel_left hp
    dsimp only at hid
    split at hid
    · rw [List.mem_append] at hid
      exact hid.imp_right .inr
    · exact .inl hid
  | cleared => cases hid
  | sent up next =>
    obtain ⟨_, _, hq, -⟩ := Worker.nextToSend_eq_some next
    refine .inl ?_
    show id ∈ Worker.queue _
    rw [hq]
    exact List.mem_append_right _ (List.mem_cons_of_mem _ hid)
  | requeued tracked =>
    rw [List.mem_append, List.mem_singleton] at hid
    refine hid.imp_right fun heq => .inl ?_
    rw [heq]
    exact DeliveryTracker.mem_outstanding.2 tracked

/-- What is handed over by a move was under way. -/
theorem Move.handOvers (hm : Move a b) (ht : a.worker.tracker.Coherent)
    (hp : b.past = a.past ++ os) (hid : id ∈ History.handOvers os) :
    id ∈ a.worker.tracker.outstanding := by
  cases hm with
  | aside | cleared | postponed | requeued =>
    obtain rfl := List.self_eq_append_right.1 hp
    cases hid
  | took | connected | enrolled | refused | renewed | ended =>
    obtain rfl := List.append_cancel_left hp
    cases hid
  | did plain =>
    obtain rfl := List.append_cancel_left hp
    rw [History.handOvers_did_of_plain plain] at hid
    cases hid
  | sent up next =>
    obtain rfl := List.append_cancel_left hp
    obtain ⟨_, m, -, -, hm, rfl, -⟩ := Worker.nextToSend_eq_some next
    obtain rfl := List.mem_singleton.1 hid
    rw [DeliveryTracker.mem_outstanding, show (m.handOver _).message.id = m.message.id from rfl,
      ht.filed _ m hm, hm]
    rfl

end Moves

/-- What is under way after a course was before, or is submitted along it. -/
theorem Course.outstanding {a b : Moment} (hc : Course a b) {os : List Occurrence}
    (hp : b.past = a.past ++ os) {id : Nat} (hid : id ∈ b.worker.tracker.outstanding) :
    id ∈ a.worker.tracker.outstanding ∨ id ∈ History.submitted os := by
  induction hc generalizing os with
  | refl => exact .inl hid
  | @tail c b hac hmove ih =>
    obtain ⟨os₁, hos₁⟩ := Course.past_eq hac
    obtain ⟨os₂, hos₂⟩ := Course.past_eq (.single hmove)
    rw [hos₂, hos₁, List.append_assoc] at hp
    obtain rfl := List.append_cancel_left hp
    rw [History.submitted_append, List.mem_append]
    obtain hold | hnew := hmove.outstanding hos₂ hid
    · exact (ih hos₁ hold).imp_right .inl
    · exact .inr (.inr hnew)

/-- **What is not under way is not handed over** unless it is submitted. -/
theorem Course.not_mem_handOvers {a b : Moment} (hc : Course a b) (ht : a.worker.tracker.Coherent)
    {os : List Occurrence} (hp : b.past = a.past ++ os) {id : Nat}
    (hgone : id ∉ a.worker.tracker.outstanding) (hnew : id ∉ History.submitted os) :
    id ∉ History.handOvers os := by
  induction hc generalizing os with
  | refl =>
    obtain rfl := List.self_eq_append_right.1 hp
    exact List.not_mem_nil
  | @tail c b hac hmove ih =>
    obtain ⟨os₁, hos₁⟩ := Course.past_eq hac
    obtain ⟨os₂, hos₂⟩ := Course.past_eq (.single hmove)
    rw [hos₂, hos₁, List.append_assoc] at hp
    obtain rfl := List.append_cancel_left hp
    rw [History.submitted_append, List.mem_append, not_or] at hnew
    rw [History.handOvers_append, List.mem_append, not_or]
    refine ⟨ih hos₁ hnew.1, fun hid => ?_⟩
    -- What is handed over is under way at that moment, and so was from the beginning.
    have hunder := hmove.handOvers (Course.coherent hac ht) hos₂ hid
    exact (Course.outstanding hac hos₁ hunder).elim hgone hnew.1

/-- Every id that a worker has to do with was submitted. -/
structure Known (h : List Occurrence) (w : Worker) : Prop where
  outstanding : w.tracker.outstanding ⊆ History.submitted h
  queue : w.queue ⊆ History.submitted h
  handOvers : History.handOvers h ⊆ History.submitted h

/-- Along a course from the beginning every id was submitted. -/
theorem Course.known {terms : Terms} {b : Moment} (hc : Course ⟨[], .new terms⟩ b) :
    Known b.past b.worker := by
  induction hc with
  | refl => exact ⟨List.nil_subset _, List.nil_subset _, List.nil_subset _⟩
  | @tail a b ha hmove ih =>
    have ht : a.worker.tracker.Coherent := Course.coherent ha DeliveryTracker.coherent_empty
    obtain ⟨os, hp⟩ := Course.past_eq (.single hmove)
    rw [hp]
    refine ⟨?_, ?_, ?_⟩
    · intro id hid
      rw [History.submitted_append, List.mem_append]
      exact (hmove.outstanding hp hid).imp_left fun hold => ih.outstanding hold
    · intro id hid
      rw [History.submitted_append, List.mem_append]
      obtain hold | hold | hnew := hmove.queue hp hid
      · exact .inl (ih.queue hold)
      · exact .inl (ih.outstanding hold)
      · exact .inr hnew
    · intro id hid
      rw [History.handOvers_append, List.mem_append] at hid
      rw [History.submitted_append, List.mem_append]
      refine .inl (hid.elim (fun hold => ih.handOvers hold) fun hnew => ?_)
      exact ih.outstanding (hmove.handOvers ht hp hnew)

/-! ## A link -/

/-- **What holds on a link**, given the worker it came up for, what was seen since, and whether the
messages under way are being handed over again. -/
structure Linked (v : Worker) (mid : List Occurrence) (replaying : Bool) (w : Worker) : Prop where
  /-- The queue is sorted. -/
  sorted : w.queue.Pairwise (· < ·)
  /-- What is queued was handed over before, or comes after everything that was. -/
  later : ∀ id ∈ w.queue, id ∈ History.handOvers mid ∨ ∀ k ∈ History.handOvers mid, k < id
  /-- What is under way was handed over or is queued. -/
  covered : ∀ id ∈ w.tracker.outstanding, id ∈ History.handOvers mid ∨ id ∈ w.queue
  /-- At first nothing is handed over twice. -/
  once : replaying → ∀ id ∈ w.queue, ∀ k ∈ History.handOvers mid, k < id
  /-- What was under way when the link came up still is, unless its completion was resolved. -/
  kept : ∀ id p, v.tracker.pending? id = some p →
    p.completion ∈ History.completions mid ∨ w.tracker.pending? id = some p

namespace Linked

variable {v w w' : Worker} {mid os : List Occurrence} {r r' : Bool}

/-- When the link comes up, everything under way is queued, and nothing was handed over. -/
theorem start (v : Worker) (r : Bool) :
    Linked v [] r { v with queue := v.tracker.outstanding } where
  sorted := v.tracker.messages.keys_pairwise
  later _ _ := .inr fun _ hk => by cases hk
  covered _ hid := .inr hid
  once _ _ _ _ hk := by cases hk
  kept _ _ hp := .inr hp

/-- While nothing is handed over and the queue stays, what is under way may become less. -/
theorem of_same (hl : Linked v mid r w) (hh : History.handOvers os = [])
    (hq : w'.queue = w.queue) (hr : r' → r)
    (ho : w'.tracker.outstanding ⊆ w.tracker.outstanding)
    (hp : ∀ id p, w.tracker.pending? id = some p →
      p.completion ∈ History.completions os ∨ w'.tracker.pending? id = some p) :
    Linked v (mid ++ os) r' w' := by
  have hsame : History.handOvers (mid ++ os) = History.handOvers mid := by
    rw [History.handOvers_append, hh, List.append_nil]
  refine ⟨?_, ?_, ?_, ?_, ?_⟩
  · rw [hq]
    exact hl.sorted
  · rw [hq, hsame]
    exact hl.later
  · rw [hq, hsame]
    exact fun id hid => hl.covered id (ho hid)
  · rw [hq, hsame]
    exact fun hrep => hl.once (hr hrep)
  · intro id p hv
    rw [History.completions_append, List.mem_append]
    obtain hold | hpending := hl.kept id p hv
    · exact .inl (.inl hold)
    · exact (hp id p hpending).imp_left .inr

/-- A message that comes after all others is taken on and queued. -/
theorem enroll (hl : Linked v mid r w) (hh : History.handOvers os = []) {message : Outbound}
    {p : PendingCorrelation} (hfresh : w.tracker.pending? message.id = none)
    (hq : ∀ k ∈ w.queue, k < message.id) (hk : ∀ k ∈ History.handOvers mid, k < message.id)
    (hr : r' → r) :
    Linked v (mid ++ os) r'
      { w with
        tracker := w.tracker.enroll message p
        queue := w.queue ++ [message.id] } := by
  have hsame : History.handOvers (mid ++ os) = History.handOvers mid := by
    rw [History.handOvers_append, hh, List.append_nil]
  refine ⟨?_, ?_, ?_, ?_, ?_⟩
  · rw [List.pairwise_append]
    refine ⟨hl.sorted, List.pairwise_singleton _ _, fun k hmem x hx => ?_⟩
    rw [List.mem_singleton.1 hx]
    exact hq k hmem
  · intro id hid
    rw [List.mem_append, List.mem_singleton] at hid
    rw [hsame]
    obtain hold | rfl := hid
    · exact hl.later id hold
    · exact .inr hk
  · intro id hid
    rw [hsame, List.mem_append, List.mem_singleton]
    obtain rfl | hold := DeliveryTracker.mem_outstanding_enroll.1 hid
    · exact .inr (.inr rfl)
    · exact (hl.covered id hold).imp_right .inl
  · intro hrep id hid
    rw [List.mem_append, List.mem_singleton] at hid
    rw [hsame]
    obtain hold | rfl := hid
    · exact hl.once (hr hrep) id hold
    · exact hk
  · intro id x hv
    rw [History.completions_append, List.mem_append]
    obtain hold | hpending := hl.kept id x hv
    · exact .inl (.inl hold)
    · refine .inr ?_
      have hne : message.id ≠ id := by
        rintro rfl
        rw [hfresh] at hpending
        cases hpending
      rw [DeliveryTracker.pending?_enroll, if_neg hne]
      exact hpending

/-- The queue is emptied when nothing queued is under way. -/
theorem clear (hl : Linked v mid r w) (hidle : ∀ id ∈ w.queue, w.tracker.message? id = none) :
    Linked v mid r { w with queue := [] } where
  sorted := .nil
  later _ hid := by cases hid
  covered id hid := by
    refine .inl ((hl.covered id hid).resolve_right fun hmem => ?_)
    rw [DeliveryTracker.mem_outstanding, hidle id hmem] at hid
    cases hid
  once _ _ hid := by cases hid
  kept := hl.kept

/-- **The next message is handed over.** It was handed over before or comes after all that were, and
what remains queued comes after it. -/
theorem send (hl : Linked v mid r w) (ht : w.tracker.Coherent) {now id : Nat} {message : Outbound}
    {tracker : DeliveryTracker} {queue : List Nat}
    (hnext : Worker.nextToSend w.tracker now w.queue = some (id, message, tracker, queue)) :
    Linked v (mid ++ [.did (.send message)]) r { w with tracker, queue } := by
  obtain ⟨skipped, m, hq, hskip, hm, rfl, rfl⟩ := Worker.nextToSend_eq_some hnext
  have hid : History.handOvers (mid ++ [.did (.send (m.handOver now).message)]) =
      History.handOvers mid ++ [id] := by
    rw [History.handOvers_append, ← ht.filed id m hm]
    rfl
  have hrest : queue ⊆ w.queue := by
    rw [hq]
    exact fun k hk => List.mem_append_right _ (List.mem_cons_of_mem _ hk)
  have hsorted := hl.sorted
  rw [hq, List.pairwise_append, List.pairwise_cons] at hsorted
  obtain ⟨-, ⟨hafter, hqueue⟩, -⟩ := hsorted
  refine ⟨hqueue, ?_, ?_, ?_, ?_⟩
  · -- The queue is sorted, so that what remains queued comes after the message, too.
    intro k hk
    rw [hid, List.mem_append]
    refine (hl.later k (hrest hk)).imp .inl fun hlast => ?_
    intro x hx
    rw [List.mem_append, List.mem_singleton] at hx
    obtain hx | rfl := hx
    · exact hlast x hx
    · exact hafter k hk
  · intro k hk
    rw [hid, List.mem_append, List.mem_singleton]
    have hold := (DeliveryTracker.mem_outstanding_insert hm).1 hk
    obtain hdone | hqueued := hl.covered k hold
    · exact .inl (.inl hdone)
    · rw [hq, List.mem_append, List.mem_cons] at hqueued
      obtain hskipped | rfl | hlater := hqueued
      · -- What was skipped is not under way.
        rw [DeliveryTracker.mem_outstanding, hskip k hskipped] at hold
        cases hold
      · exact .inl (.inr rfl)
      · exact .inr hlater
  · intro hrep k hk x hx
    rw [hid, List.mem_append, List.mem_singleton] at hx
    obtain hx | rfl := hx
    · exact hl.once hrep k (hrest hk) x hx
    · exact hafter k hk
  · intro k p hv
    rw [History.completions_append, List.mem_append]
    exact (hl.kept k p hv).imp_left .inl

/-- With nothing queued, everything under way was handed over. -/
theorem handedOver_of_clear (hl : Linked v mid r w) (clear : w.queue = []) {id : Nat}
    (hid : id ∈ w.tracker.outstanding) : id ∈ History.handOvers mid := by
  refine (hl.covered id hid).resolve_right ?_
  rw [clear]
  exact List.not_mem_nil

/-- **A message is queued again** behind the others. Being under way, it was handed over before. -/
theorem requeue (hl : Linked v mid r w) (hr : r = false) {id : Nat}
    (htracked : (w.tracker.message? id).isSome) (hlast : ∀ k ∈ w.queue, k < id) :
    Linked v mid r { w with queue := w.queue ++ [id] } where
  sorted := by
    rw [List.pairwise_append]
    refine ⟨hl.sorted, List.pairwise_singleton _ _, fun k hk x hx => ?_⟩
    rw [List.mem_singleton.1 hx]
    exact hlast k hk
  later k hk := by
    rw [List.mem_append, List.mem_singleton] at hk
    obtain hold | rfl := hk
    · exact hl.later k hold
    · have hcovered := hl.covered k (DeliveryTracker.mem_outstanding.2 htracked)
      exact .inl (hcovered.resolve_right fun hmem => Nat.lt_irrefl k (hlast k hmem))
  covered k hk := (hl.covered k hk).imp_right fun hmem => List.mem_append_left _ hmem
  once hrep := by
    rw [hr] at hrep
    cases hrep
  kept := hl.kept

/-- **What was under way when the link came up** was handed over before a later message is, unless
its completion was resolved: in the sorted queue it would stand before that message, where nothing
is under way. -/
theorem replayed (hl : Linked v mid r w) (ht : w.tracker.Coherent) {next : Nat}
    {skipped queue : List Nat} (hq : w.queue = skipped ++ next :: queue)
    (hskip : ∀ k ∈ skipped, w.tracker.message? k = none) {id : Nat} {p : PendingCorrelation}
    (hv : v.tracker.pending? id = some p) (hlt : id < next) :
    id ∈ History.handOvers mid ∨ p.completion ∈ History.completions mid := by
  obtain hresolved | hpending := hl.kept id p hv
  · exact .inr hresolved
  · obtain ⟨m, hm⟩ := ht.message_of_pending hpending
    have htracked : id ∈ w.tracker.outstanding := by
      rw [DeliveryTracker.mem_outstanding, hm]
      rfl
    refine .inl ((hl.covered id htracked).resolve_right fun hqueued => ?_)
    have hsorted := hl.sorted
    rw [hq, List.pairwise_append, List.pairwise_cons] at hsorted
    obtain ⟨-, ⟨hafter, -⟩, -⟩ := hsorted
    rw [hq, List.mem_append, List.mem_cons] at hqueued
    obtain hmem | rfl | hmem := hqueued
    · rw [hskip id hmem] at hm
      cases hm
    · exact Nat.lt_irrefl _ hlt
    · exact Nat.lt_asymm hlt (hafter id hmem)

end Linked

/-- **Every move that keeps the link keeps what holds on it.** -/
theorem Move.linked {a b : Moment} (hm : Move a b) {v : Worker} {mid os : List Occurrence}
    (hp : b.past = a.past ++ os) (hup : History.linkUp a.past = true)
    (hrelease : .did .release ∉ os) (hasc : History.Ascending b.past)
    (hk : Known a.past a.worker) (ht : a.worker.tracker.Coherent)
    (hmid : History.handOvers mid ⊆ History.handOvers a.past)
    (hl : Linked v mid (History.replaying a.past) a.worker) :
    Linked v (mid ++ os) (History.replaying b.past) b.worker := by
  cases hm with
  | aside tracker queue =>
    obtain rfl := List.self_eq_append_right.1 hp
    exact hl.of_same rfl queue id (by rw [tracker]; exact fun _ hid => hid)
      fun _ _ hpending => .inr (by rw [tracker]; exact hpending)
  | @took h w now input takes light =>
    obtain rfl := List.append_cancel_left hp
    refine hl.of_same rfl rfl (History.replaying_of_append ?_) (fun _ hid => hid)
      fun _ _ hpending => .inr hpending
    rintro u now' hmem
    obtain ⟨-, -, rfl⟩ := Occurrence.took.inj (List.mem_singleton.1 hmem)
    cases light
  | connected takes down =>
    -- The link comes up only while it is down.
    rw [down] at hup
    cases hup
  | @enrolled h w now message completion deadline takes fresh =>
    obtain rfl := List.append_cancel_left hp
    -- Whatever is queued or was handed over was submitted before.
    have hlast : ∀ k ∈ History.submitted h, k < message.id :=
      fun k hmem => hasc.lt hmem (List.mem_singleton_self _)
    dsimp only
    rw [if_pos hup]
    refine hl.enroll rfl fresh (fun k hmem => hlast k (hk.queue hmem))
      (fun k hmem => hlast k (hk.handOvers (hmid hmem))) (History.replaying_of_append ?_)
    simp
  | refused takes reason =>
    obtain rfl := List.append_cancel_left hp
    refine hl.of_same rfl rfl (History.replaying_of_append ?_) (fun _ hid => hid)
      fun _ _ hpending => .inr hpending
    simp
  | renewed =>
    obtain rfl := List.append_cancel_left hp
    simp at hrelease
  | did plain =>
    obtain rfl := List.append_cancel_left hp
    refine hl.of_same (History.handOvers_did_of_plain plain) rfl (History.replaying_of_append ?_)
      (fun _ hid => hid) fun _ _ hpending => .inr hpending
    simp
  | cleared idle =>
    -- While the link is up the queue is emptied only if nothing queued is under way.
    obtain rfl := List.self_eq_append_right.1 hp
    rw [List.append_nil]
    exact hl.clear (idle.resolve_left (by simp [hup]))
  | sent up next =>
    obtain rfl := List.append_cancel_left hp
    rw [History.replaying_append]
    exact hl.send ht next
  | @ended h w id p outcome waits cause =>
    obtain rfl := List.append_cancel_left hp
    refine hl.of_same rfl rfl (History.replaying_of_append ?_)
      (DeliveryTracker.within_retire _ _).outstanding_subset fun k x hpending => ?_
    · simp
    · rw [DeliveryTracker.pending?_retire]
      by_cases hid : k = id
      · -- The completion of the id that ends is resolved with the move.
        subst hid
        obtain rfl := Option.some.inj (waits.symm.trans hpending)
        exact .inl (List.mem_singleton_self _)
      · rw [if_neg hid]
        exact .inr hpending
  | postponed tracked =>
    obtain rfl := List.self_eq_append_right.1 hp
    exact hl.of_same rfl rfl id
      (fun _ hid => (DeliveryTracker.mem_outstanding_insert tracked).1 hid)
      fun _ _ hpending => .inr hpending
  | requeued tracked later last =>
    obtain rfl := List.self_eq_append_right.1 hp
    rw [List.append_nil]
    exact hl.requeue later tracked last

/-- **What every move on a link keeps holds along it**, from when it comes up until it is closed. -/
theorem Course.on_link {terms : Terms} {b : Moment} (hc : Course ⟨[], .new terms⟩ b)
    {pre mid : List Occurrence} {v : Worker} {now : Nat} {P : List Occurrence → Moment → Prop}
    (hp : b.past = pre ++ .took v now (.connected (.ok ())) :: mid) (hrelease : .did .release ∉ mid)
    (start : ∀ a, a.worker = { v with queue := v.tracker.outstanding } → P [] a)
    (move : ∀ a b mid os, Course ⟨[], .new terms⟩ a → Move a b → b.past = a.past ++ os →
      a.past = pre ++ .took v now (.connected (.ok ())) :: mid → .did .release ∉ mid →
      .did .release ∉ os → P mid a → P (mid ++ os) b) : P mid b := by
  induction hc generalizing mid with
  | refl => simp at hp
  | @tail a b ha hmove ih =>
    obtain ⟨os, hos⟩ := Course.past_eq (.single hmove)
    obtain ⟨mid', hpast, rfl⟩ | ⟨mid', rfl, hrest⟩ := split_append (hos.symm.trans hp)
    · -- The link came up earlier, and the move keeps it.
      rw [List.mem_append, not_or] at hrelease
      exact move a b mid' os ha hmove hos hpast hrelease.1 hrelease.2 (ih hpast hrelease.1)
    · -- The link comes up with the move.
      rw [hrest] at hos
      obtain ⟨-, rfl, hworker⟩ := hmove.of_connected hos
      exact start b hworker

/-- What was handed over on a link is part of what was handed over. -/
theorem History.handOvers_subset_of_link {h pre mid : List Occurrence} {v : Worker} {now : Nat}
    (hp : h = pre ++ .took v now (.connected (.ok ())) :: mid) : handOvers mid ⊆ handOvers h := by
  rw [hp, List.append_cons, handOvers_append _ mid]
  exact List.subset_append_right _ _

/-- **Along a course, what holds on a link holds** from when it comes up until it is closed. -/
theorem Course.linked {terms : Terms} {b : Moment} (hc : Course ⟨[], .new terms⟩ b)
    (hasc : History.Ascending b.past) {pre mid : List Occurrence} {v : Worker} {now : Nat}
    (hp : b.past = pre ++ .took v now (.connected (.ok ())) :: mid)
    (hrelease : .did .release ∉ mid) : Linked v mid (History.replaying b.past) b.worker := by
  -- The ids are known to ascend at the end, and with it at every moment before.
  refine Course.on_link hc hp hrelease
    (P := fun mid a => History.Ascending a.past → Linked v mid (History.replaying a.past) a.worker)
    (fun a hworker _ => ?_) (fun a b mid os ha hmove hos hpast hmid hrelease hlinked hasc => ?_) hasc
  · rw [hworker]
    exact .start v _
  · have hasc' : History.Ascending a.past := by
      rw [hos] at hasc
      exact hasc.of_append
    refine hmove.linked hos ?_ hrelease hasc (Course.known ha)
      (Course.coherent ha DeliveryTracker.coherent_empty)
      (History.handOvers_subset_of_link hpast) (hlinked hasc')
    rw [hpast]
    exact History.linkUp_of_link pre v now hmid

/-! ## Hand-overs -/

/-- Handing over an id again, or one that comes after all others, keeps first hand-overs
ascending. -/
theorem pairwise_eraseDups_concat {l : List Nat} {id : Nat} (hl : l.eraseDups.Pairwise (· < ·))
    (hid : id ∈ l ∨ ∀ k ∈ l, k < id) : (l ++ [id]).eraseDups.Pairwise (· < ·) := by
  rw [List.eraseDups_append]
  by_cases hmem : id ∈ l
  · -- It is no first hand-over.
    simpa [List.removeAll, hmem] using hl
  · have hlast := hid.resolve_left hmem
    have hnew : [id].removeAll l = [id] := by simp [List.removeAll, hmem]
    rw [hnew, List.pairwise_append]
    refine ⟨hl, List.pairwise_singleton _ _, fun k hk x hx => ?_⟩
    rw [List.mem_eraseDups, List.mem_singleton] at hx
    rw [hx]
    exact hlast k (List.mem_eraseDups.1 hk)

namespace History

/-- One occurrence more. -/
theorem handOvers_concat (h : List Occurrence) (o : Occurrence) :
    handOvers (h ++ [o]) = handOvers h ∨
      ∃ message, o = .did (.send message) ∧ handOvers (h ++ [o]) = handOvers h ++ [message.id] := by
  rw [handOvers_append]
  match o with
  | .did (.send message) => exact .inr ⟨message, rfl, rfl⟩
  | .took .. | .did .connect | .did (.settle _) | .did .release | .did (.reply ..)
  | .did (.complete _) | .did (.tell _) => exact .inl (List.append_nil _)

/-- First hand-overs ascend when each either repeats one or comes after all before. -/
theorem pairwise_handOvers {h : List Occurrence}
    (hsend : ∀ mid message post, h = mid ++ .did (.send message) :: post →
      message.id ∈ handOvers mid ∨ ∀ k ∈ handOvers mid, k < message.id) :
    (handOvers h).eraseDups.Pairwise (· < ·) := by
  induction h using List.reverseRecOn with
  | nil => exact .nil
  | append_singleton h o ih =>
    have hl := ih fun mid message post hp => hsend mid message (post ++ [o]) (by simp [hp])
    obtain heq | ⟨message, rfl, heq⟩ := handOvers_concat h o
    · rw [heq]
      exact hl
    · rw [heq]
      exact pairwise_eraseDups_concat hl (hsend h message [] rfl)

/-- No id is handed over twice when each hand-over is the first. -/
theorem nodup_handOvers {h : List Occurrence}
    (hsend : ∀ mid message post, h = mid ++ .did (.send message) :: post →
      message.id ∉ handOvers mid) : (handOvers h).Nodup := by
  induction h using List.reverseRecOn with
  | nil => exact .nil
  | append_singleton h o ih =>
    have hl := ih fun mid message post hp => hsend mid message (post ++ [o]) (by simp [hp])
    obtain heq | ⟨message, rfl, heq⟩ := handOvers_concat h o
    · rw [heq]
      exact hl
    · rw [heq, List.nodup_append]
      refine ⟨hl, List.nodup_singleton _, fun k hk x hx => ?_⟩
      rw [List.mem_singleton.1 hx]
      exact fun hid => hsend h message [] rfl (hid ▸ hk)

end History

/-- **A message is handed over** as the next of the queue. -/
theorem Course.next_of_send {w : Worker} {b : Moment} (hc : Course ⟨[], w⟩ b)
    {pre post : List Occurrence} {message : Outbound}
    (hp : b.past = pre ++ .did (.send message) :: post) :
    ∃ m now id tracker queue, Course ⟨[], w⟩ m ∧ m.past = pre ∧
      Worker.nextToSend m.worker.tracker now m.worker.queue = some (id, message, tracker, queue) := by
  obtain ⟨m, os, hm, -, hemits, hpre⟩ := Course.at_effect hc hp
  cases hemits with
  | sent up next =>
    rw [List.append_nil] at hpre
    exact ⟨m, _, _, _, _, hm, hpre.symm, next⟩
  | plain plain => cases plain

/-- **A message is handed over on a link** as the next of the queue of a worker for which it holds
what holds on the link. -/
theorem Course.at_send {terms : Terms} {b : Moment} (hc : Course ⟨[], .new terms⟩ b)
    (hasc : History.Ascending b.past) {pre mid post : List Occurrence} {v : Worker} {now : Nat}
    {message : Outbound}
    (hp : b.past =
      pre ++ .took v now (.connected (.ok ())) :: (mid ++ .did (.send message) :: post))
    (hrelease : .did .release ∉ mid) :
    ∃ w skipped queue, w.queue = skipped ++ message.id :: queue ∧
      (∀ k ∈ skipped, w.tracker.message? k = none) ∧
      Linked v mid (History.replaying (pre ++ .took v now (.connected (.ok ())) :: mid)) w ∧
      w.tracker.Coherent := by
  have hsplit : b.past =
      (pre ++ .took v now (.connected (.ok ())) :: mid) ++ .did (.send message) :: post := by
    rw [hp, List.append_assoc, List.cons_append]
  obtain ⟨m, now', id, tracker, queue, hm, hpast, next⟩ := Course.next_of_send hc hsplit
  obtain ⟨skipped, x, hq, hskip, hx, rfl, -⟩ := Worker.nextToSend_eq_some next
  have ht : m.worker.tracker.Coherent := Course.coherent hm DeliveryTracker.coherent_empty
  refine ⟨m.worker, skipped, queue, ?_, hskip, ?_, ht⟩
  · rw [hq, ← ht.filed id x hx]
    rfl
  · rw [hsplit, ← hpast] at hasc
    rw [← hpast]
    exact Course.linked hm hasc.of_append hpast hrelease

/-- Whatever is handed over on a link was queued on it. -/
theorem Course.queued_of_send {terms : Terms} {b : Moment} (hc : Course ⟨[], .new terms⟩ b)
    (hasc : History.Ascending b.past) {pre mid post : List Occurrence} {v : Worker} {now : Nat}
    (hp : b.past = pre ++ .took v now (.connected (.ok ())) :: (mid ++ post))
    (hrelease : .did .release ∉ mid) {sofar rest : List Occurrence} {message : Outbound}
    (hmid : mid = sofar ++ .did (.send message) :: rest) :
    ∃ w, message.id ∈ w.queue ∧
      Linked v sofar (History.replaying (pre ++ .took v now (.connected (.ok ())) :: sofar)) w := by
  rw [hmid, List.mem_append, not_or] at hrelease
  rw [hmid, List.append_assoc, List.cons_append] at hp
  obtain ⟨w, skipped, queue, hq, -, hlinked, -⟩ := Course.at_send hc hasc hp hrelease.1
  refine ⟨w, ?_, hlinked⟩
  rw [hq]
  exact List.mem_append_right _ (List.mem_cons_self ..)

/-- **When the token is renewed**, nothing is queued, and nothing is submitted before the link
connects again. -/
theorem Course.at_renewal {w : Worker} {b : Moment} (hc : Course ⟨[], w⟩ b)
    {link : List Occurrence}
    (hp : b.past = link ++
      [.did .release, .did (.tell (.status .reconnecting .tokenRenewal)), .did .connect]) :
    ∃ m, Course ⟨[], w⟩ m ∧ m.past = link ∧ m.worker.queue = [] ∧
      b.worker.tracker.outstanding ⊆ m.worker.tracker.outstanding := by
  have hsplit : b.past = (link ++ [.did .release]) ++
      .did (.tell (.status .reconnecting .tokenRenewal)) :: [.did .connect] := by
    rw [hp, List.append_assoc]
    rfl
  obtain ⟨m, os, hm, hrest, hemits, hpre⟩ := Course.at_effect hc hsplit
  cases hemits with
  | renewed clear =>
    obtain rfl := List.append_cancel_right hpre
    refine ⟨m, hm, rfl, clear, fun id hid => ?_⟩
    exact (Course.outstanding hrest hp hid).resolve_right List.not_mem_nil
  | plain plain => cases plain

/-! ## What is ordered -/

/-- **In which order messages are handed over on a link**, given what was seen of a worker. The link
comes up for `v`, and `mid` is what was seen since, without its being closed. -/
structure Ordered (h : List Occurrence) (w : Worker) : Prop where
  /-- First hand-overs of messages ascend. -/
  ascending : ∀ pre v now mid post,
    h = pre ++ .took v now (.connected (.ok ())) :: (mid ++ post) → .did .release ∉ mid →
      (History.handOvers mid).eraseDups.Pairwise (· < ·)
  /-- What was under way when the link came up is handed over before anything that is submitted
  later, unless its completion was resolved first. -/
  replayed : ∀ pre v now mid message post,
    h = pre ++ .took v now (.connected (.ok ())) :: (mid ++ .did (.send message) :: post) →
      .did .release ∉ mid → message.id ∈ History.submitted mid →
        ∀ id ∈ v.tracker.outstanding, id ∈ History.handOvers mid ∨
          ∃ p, v.tracker.pending? id = some p ∧ p.completion ∈ History.completions mid
  /-- Nothing is handed over twice until the worker is at rest. -/
  once : ∀ pre v now mid post,
    h = pre ++ .took v now (.connected (.ok ())) :: (mid ++ post) → .did .release ∉ mid →
      (∀ u now' input, .took u now' input ∈ mid → u.busy.isSome) → (History.handOvers mid).Nodup
  /-- When the worker is at rest on the link, everything under way was handed over on it. -/
  complete : ∀ pre v now mid, h = pre ++ .took v now (.connected (.ok ())) :: mid →
    .did .release ∉ mid → w.busy = none →
      ∀ id ∈ w.tracker.outstanding, id ∈ History.handOvers mid
  /-- When the worker closes the link to renew the token, everything under way was handed over
  on it. -/
  renewed : ∀ pre v now mid,
    h = pre ++ .took v now (.connected (.ok ())) ::
      (mid ++ [.did .release, .did (.tell (.status .reconnecting .tokenRenewal)), .did .connect]) →
      .did .release ∉ mid → ∀ id ∈ w.tracker.outstanding, id ∈ History.handOvers mid

namespace Worker

/-- **Messages are handed over in order on every link**, after any inputs among which submissions
have ascending ids. -/
theorem ordered_of_run (terms : Terms) (inputs : List (Nat × Input))
    (hasc : History.Ascending ((Worker.new terms).history inputs)) :
    Ordered ((Worker.new terms).history inputs) ((Worker.new terms).after inputs) := by
  have hc := course_of_run terms inputs
  refine ⟨?_, ?_, ?_, ?_, ?_⟩
  · intro pre v now mid post hp hrelease
    refine History.pairwise_handOvers fun sofar message rest hmid => ?_
    obtain ⟨u, hqueued, hlinked⟩ := Course.queued_of_send hc hasc hp hrelease hmid
    exact hlinked.later message.id hqueued
  · intro pre v now mid message post hp hrelease hnew id hid
    obtain ⟨u, skipped, queue, hq, hskip, hlinked, ht⟩ := Course.at_send hc hasc hp hrelease
    obtain ⟨before, after, -, rfl, rfl, -, -⟩ := history_split hp
    obtain ⟨x, hx⟩ := Option.isSome_iff_exists.1 (DeliveryTracker.mem_outstanding.1 hid)
    obtain ⟨p, hwaits⟩ := (coherent_of_run terms before).pending_of_message hx
    -- What was under way was submitted earlier, so that its id is smaller.
    have hlt : id < message.id := by
      rw [hp] at hasc
      refine hasc.lt ((Course.known (course_of_run terms before)).outstanding hid) ?_
      show message.id ∈ History.submitted (mid ++ _)
      rw [History.submitted_append]
      exact List.mem_append_left _ hnew
    obtain hdone | hresolved := hlinked.replayed ht hq hskip hwaits hlt
    · exact .inl hdone
    · exact .inr ⟨p, hwaits, hresolved⟩
  · intro pre v now mid post hp hrelease hbusy
    refine History.nodup_handOvers fun sofar message rest hmid hmem => ?_
    obtain ⟨u, hqueued, hlinked⟩ := Course.queued_of_send hc hasc hp hrelease hmid
    -- Up to this hand-over the worker has not been at rest either.
    have hsub : sofar ⊆ mid := by
      rw [hmid]
      exact List.subset_append_left _ _
    rw [History.replaying_of_link pre v now (fun hin => hrelease (hsub hin))
      fun u now' input hin => hbusy u now' input (hsub hin)] at hlinked
    exact Nat.lt_irrefl _ (hlinked.once rfl message.id hqueued _ hmem)
  · intro pre v now mid hp hrelease idle id hid
    have hup : History.linkUp ((Worker.new terms).history inputs) = true := by
      rw [hp]
      exact History.linkUp_of_link pre v now hrelease
    obtain hoff | ⟨-, clear⟩ := (situated_of_run terms inputs).of_idle idle
    · rw [hoff.down] at hup
      cases hup
    · have hlinked : Linked v mid _ _ := Course.linked hc hasc hp hrelease
      exact hlinked.handedOver_of_clear clear hid
  · -- What the token is renewed for is read off the moment before the link is closed.
    intro pre v now mid hp hrelease id hid
    rw [← List.cons_append, ← List.append_assoc] at hp
    obtain ⟨m, hm, hpast, clear, hsub⟩ := Course.at_renewal hc hp
    rw [hp, ← hpast] at hasc
    exact (Course.linked hm hasc.of_append hpast hrelease).handedOver_of_clear clear (hsub hid)

/-- After the renewal both readings are handed over on the new link, in the order of their ids. -/
theorem ordered_after_renewal :
    History.Ascending ((Worker.new Renewal.terms).history (Renewal.before ++ Renewal.onLink)) ∧
      Ordered ((Worker.new Renewal.terms).history (Renewal.before ++ Renewal.onLink))
        ((Worker.new Renewal.terms).after (Renewal.before ++ Renewal.onLink)) :=
  have hasc : History.Ascending
      ((Worker.new Renewal.terms).history (Renewal.before ++ Renewal.onLink)) := by
    show List.Pairwise _ [1, 2]
    decide
  ⟨hasc, ordered_of_run Renewal.terms (Renewal.before ++ Renewal.onLink) hasc⟩

end Worker

end HubLink
