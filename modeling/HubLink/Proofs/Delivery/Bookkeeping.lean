import HubLink.Proofs.Delivery.Handling

/-! # The books of a tracker

A tracker keeps two maps in step through eight kinds of requests. What that amounts to is said here
for every list of requests: the ids of the messages are those of the operations that wait, every
message is as it was taken on but for being handed over since, and the completion that came with it
is resolved once, on the request that ends its stay (`DeliveryTracker.keepsBooks_of_apart`). A
message that came in as new tells how often it was handed over, up to as many times as 32 bits can
count; one that did not come in as new, or was handed over more often, does not
(`DeliveryTracker.not_tallies`).

Two facts about a single request carry this. What it leaves of a delivery has the same operation
waiting and the same message, handed over once more or not (`TrackerRequest.leaves_some`). And no
completion gets lost or doubled: those that ended and those that still wait are those that were
brought (`DeliveryTracker.waiting_after_perm`). -/

namespace HubLink

namespace TrackerRequest

variable {r : TrackerRequest} {id : Nat}

/-- The completions that a request brings. -/
def brings : TrackerRequest → List Nat
  | .about (.submit _ completion _) => [completion]
  | _ => []

/-- Whether a request hands the message of an id to a link. -/
def handsOver (id : Nat) : TrackerRequest → Bool
  | .about (.markSent i _) => i = id
  | _ => false

/-- How often requests hand the message of an id to a link. -/
def handOvers (id : Nat) (requests : List TrackerRequest) : Nat := requests.countP (handsOver id)

/-- **Only a submission brings a delivery about.** -/
theorem leaves_none {d : Delivery} (h : r.leaves id none = some d) :
    ∃ message completion deadline, r = .about (.submit message completion deadline) ∧
      message.id = id ∧ d = ⟨{ message }, ⟨completion, deadline⟩⟩ := by
  cases r with
  | about r =>
    simp only [leaves] at h
    split at h
    · rename_i hid
      cases r with
      | submit message completion deadline =>
        exact ⟨message, completion, deadline, rfl, hid, (Option.some.inj h).symm⟩
      | markSent | acknowledge | sendFailed | fail | cancel => cases h
    · cases h
  | expire | failAll => cases h

/-- **A delivery that a request leaves** has the same operation waiting for it, and its message was
handed over once more or is the same. -/
theorem leaves_some {d d' : Delivery} (h : r.leaves id (some d) = some d') :
    d'.waits = d.waits ∧ d'.tracked.message =
      if r.handsOver id then d.tracked.message.handOver else d.tracked.message := by
  cases r with
  | about r =>
    simp only [leaves] at h
    split at h
    · rename_i hid
      cases r with
      | submit message completion deadline =>
        obtain rfl := Option.some.inj h
        exact ⟨rfl, rfl⟩
      | markSent i now =>
        obtain rfl := Option.some.inj h
        have hhands : handsOver id (.about (.markSent i now)) = true := decide_eq_true hid
        rw [if_pos hhands]
        exact ⟨rfl, rfl⟩
      | sendFailed policy i fault now =>
        simp only [MessageRequest.act] at h
        split at h
        · cases h
        · obtain rfl := Option.some.inj h
          exact ⟨rfl, rfl⟩
      | acknowledge | fail | cancel => cases h
    · rename_i hid
      obtain rfl := Option.some.inj h
      cases r with
      | markSent i now =>
        have hi : i ≠ id := hid
        simp [handsOver, hi]
      | submit | acknowledge | sendFailed | fail | cancel => exact ⟨rfl, rfl⟩
  | expire now =>
    rw [leaves, Option.filter_eq_some_iff] at h
    obtain rfl := Option.some.inj h.1
    exact ⟨rfl, rfl⟩
  | failAll fault => cases h

end TrackerRequest

/-! ## How often a message was handed over -/

namespace Outbound

/-- The message after it was handed over so many times. -/
def handedOver (m : Outbound) : Nat → Outbound
  | 0 => m
  | n + 1 => (m.handedOver n).handOver

/-- **What hand-overs make of a message.** It is sent and counts all of them but the first, which
counts only if the message was sent before. -/
theorem handedOver_succ (m : Outbound) (n : Nat) :
    m.handedOver (n + 1) =
      { m with state := .sent, retryCount := (m.handOver.retryCount + n) % Text.bound32 } := by
  induction n with
  | zero =>
    have hwrapped : (m.handOver.retryCount + 0) % Text.bound32 = m.handOver.retryCount :=
      Nat.mod_mod ..
    rw [hwrapped]
    rfl
  | succ n ih =>
    rw [handedOver, ih, handOver, if_pos rfl]
    simp only [Nat.mod_add_mod, Nat.add_assoc]

/-- **A message tells how often it was handed over**: it is not at an end, pending exactly if it was
not handed over, and otherwise counts the times after the first. -/
structure Tells (m : Outbound) (n : Nat) : Prop where
  live : m.state.isTerminal = false
  pending_iff : m.state = .pending ↔ n = 0
  counts : m.state ≠ .pending → m.retryCount + 1 = n

/-- **When a message tells how often it was handed over** since it was submitted: before the first
time, if it was submitted as pending; after that, if it did not count anything at the first time and
its count has room for the others. -/
theorem tells_handedOver_iff (m : Outbound) (n : Nat) :
    (m.handedOver n).Tells n ↔
      if n = 0 then m.state = .pending else m.handOver.retryCount = 0 ∧ n ≤ Text.bound32 := by
  cases n with
  | zero =>
    rw [if_pos rfl, handedOver]
    refine ⟨fun h => h.pending_iff.2 rfl, fun h => ?_⟩
    exact { live := by rw [h, DeliveryState.isTerminal]
            pending_iff := by simp [h]
            counts := fun hne => absurd h hne }
  | succ n =>
    rw [if_neg (Nat.succ_ne_zero n), handedOver_succ]
    have hlt : m.handOver.retryCount < Text.bound32 := Nat.mod_lt _ (by decide)
    have hbound : (m.handOver.retryCount + n) % Text.bound32 = n ↔
        m.handOver.retryCount = 0 ∧ n + 1 ≤ Text.bound32 := by
      simp only [Text.bound32] at hlt ⊢
      omega
    rw [← hbound]
    refine ⟨fun h => Nat.succ.inj (h.counts (by simp)), fun h => ?_⟩
    exact { live := rfl
            pending_iff := by simp
            counts := fun _ => congrArg Nat.succ h }

/-- One that was submitted as new tells it as long as its count has room. -/
theorem tells_handedOver {m : Outbound} (hstate : m.state = .pending) (hcount : m.retryCount = 0)
    {n : Nat} (hn : n ≤ Text.bound32) : (m.handedOver n).Tells n := by
  rw [tells_handedOver_iff]
  split
  · exact hstate
  · refine ⟨?_, hn⟩
    rw [handOver, hstate, hcount]
    rfl

end Outbound

namespace DeliveryTracker

variable {t : DeliveryTracker} {requests since : List TrackerRequest} {r : TrackerRequest}
  {message : Outbound} {completion deadline id : Nat}

/-! ## Completions -/

/-- The completions that wait, in the order of the ids. -/
def waiting (t : DeliveryTracker) : List Nat := t.registry.pending.values.map (·.completion)

theorem mem_waiting {d : Delivery} (hd : t.delivery? id = some d) :
    d.waits.completion ∈ t.waiting := by
  have hp : t.pending? id = some d.waits := (delivery?_eq_some_iff.1 hd).2
  exact List.mem_map_of_mem (List.mem_map_of_mem (SortedMap.get?_eq_some_iff.1 hp))

/-- What waits is what waits for one message and what waits for the others. -/
theorem waiting_put_perm (t : DeliveryTracker) (id : Nat) (d : Option Delivery) :
    (t.put id d).waiting.Perm
      (d.toList.map (·.waits.completion) ++
        (t.registry.pending.erase id).values.map (·.completion)) := by
  have h := ((t.registry.pending.entries_alter_perm id (d.map (·.waits))).map (·.2)).map
    (·.completion)
  refine h.trans (List.Perm.of_eq ?_)
  cases d <;> rfl

/-- A request about one message resolves or keeps the completions of its delivery and the one that
it brings. -/
theorem resolved_act_perm (r : MessageRequest) (d : Option Delivery) :
    ((r.act d).resolved.map (·.completion) ++
        (r.act d).state.toList.map (·.waits.completion)).Perm
      ((TrackerRequest.about r).brings ++ d.toList.map (·.waits.completion)) := by
  cases d with
  | none => cases r <;> exact List.Perm.refl _
  | some d =>
    cases r with
    | sendFailed policy id fault now =>
      simp only [MessageRequest.act]
      split <;> exact List.Perm.refl _
    | submit | markSent | acknowledge | fail | cancel => exact List.Perm.refl _

/-- **A request loses no completion and doubles none.** -/
theorem waiting_next_perm (ht : t.Coherent) (r : TrackerRequest) :
    ((t.ends r).map (·.completion) ++ (t.next r).waiting).Perm (r.brings ++ t.waiting) := by
  cases r with
  | about r =>
    show ((t.handle r).resolved.map _ ++ (t.handle r).state.waiting).Perm _
    rw [handle_eq ht]
    have hafter := waiting_put_perm t r.id (r.act (t.delivery? r.id)).state
    have hbefore := waiting_put_perm t r.id (t.delivery? r.id)
    rw [ht.put_self] at hbefore
    refine (hafter.append_left _).trans ?_
    rw [← List.append_assoc]
    refine ((resolved_act_perm r _).append_right _).trans ?_
    rw [List.append_assoc]
    exact hbefore.symm.append_left _
  | expire now =>
    have hsplit := (List.filter_append_perm (fun e => e.2.isExpired now)
      t.registry.pending.entries).map fun e => e.2.completion
    rw [List.map_append] at hsplit
    simpa [ends, next, expire, CorrelationRegistry.sweep, SortedMap.filter, SortedMap.values,
      waiting, TrackerRequest.brings, PendingCorrelation.resolve, Function.comp_def] using hsplit
  | failAll fault =>
    refine List.Perm.of_eq ?_
    simp [ends, next, failAll, CorrelationRegistry.drain, SortedMap.values, SortedMap.empty,
      waiting, TrackerRequest.brings, PendingCorrelation.resolve, Function.comp_def,
      CorrelationRegistry.empty]

/-- **Requests lose no completion and double none**: those that ended and those that still wait are
those that were brought. -/
theorem waiting_after_perm (ht : t.Coherent) (requests : List TrackerRequest) :
    ((t.endings requests).map (·.completion) ++ (t.after requests).waiting).Perm
      (requests.flatMap TrackerRequest.brings ++ t.waiting) := by
  induction requests generalizing t with
  | nil => exact List.Perm.refl _
  | cons r requests ih =>
    have hrest := (ih (ht.next r)).append_left ((t.ends r).map (·.completion))
    show ((t.ends r ++ (t.next r).endings requests).map _ ++ _).Perm _
    rw [List.map_append, List.append_assoc]
    refine hrest.trans ?_
    -- What the later requests bring goes past what waits after the first.
    refine (List.perm_append_comm_assoc ..).trans ?_
    refine ((waiting_next_perm ht r).append_left _).trans ?_
    rw [List.flatMap_cons, List.append_assoc]
    exact List.perm_append_comm_assoc ..

/-- A completion that waits for a message is resolved by the request that ends it. -/
theorem completion_mem_ends (ht : t.Coherent) {d : Delivery} (hd : t.delivery? id = some d)
    (hgone : (t.next r).delivery? id = none) :
    d.waits.completion ∈ (t.ends r).map (·.completion) := by
  rw [delivery?_next ht, hd] at hgone
  have hp : t.pending? id = some d.waits := (delivery?_eq_some_iff.1 hd).2
  have hmem : (id, d.waits) ∈ t.registry.pending.entries := SortedMap.get?_eq_some_iff.1 hp
  cases r with
  | about r =>
    simp only [TrackerRequest.leaves] at hgone
    split at hgone
    · rename_i hid
      have hends : t.ends (.about r) = (r.act (some d)).resolved := by
        show (t.handle r).resolved = _
        rw [handle_eq ht, hid, hd]
        rfl
      rw [hends]
      cases r with
      | sendFailed policy i fault now =>
        simp only [MessageRequest.act] at hgone ⊢
        split at hgone
        · exact List.mem_singleton.2 rfl
        · cases hgone
      | acknowledge | fail | cancel => exact List.mem_singleton.2 rfl
      | submit | markSent => cases hgone
    · cases hgone
  | expire now =>
    have hexpired : d.waits.isExpired now = true := by
      simpa [TrackerRequest.leaves, Option.filter] using hgone
    have hover : (id, d.waits) ∈ t.overdue now := List.mem_filter.2 ⟨hmem, hexpired⟩
    show _ ∈ (t.expire now).resolved.map _
    rw [expire_eq]
    exact List.mem_map_of_mem (List.mem_map_of_mem hover)
  | failAll fault => exact List.mem_map_of_mem (List.mem_map_of_mem hmem)

/-! ## From a submission on -/

/-- A message that one of `requests` made a tracker take on is under way ever since; `since` are the
requests after that one. -/
inductive UnderWay (message : Outbound) (completion deadline : Nat) :
    List TrackerRequest → List TrackerRequest → Prop
  /-- It was taken on by the last request, since its id was free. -/
  | taken {requests : List TrackerRequest}
    (hfree : message.id ∉ (ofRequests requests).outstanding) :
    UnderWay message completion deadline
      (requests ++ [.about (.submit message completion deadline)]) []
  /-- It was under way before the last request and is so after it. -/
  | stays {requests since : List TrackerRequest} {r : TrackerRequest}
    (hbefore : UnderWay message completion deadline requests since)
    (hid : message.id ∈ (ofRequests (requests ++ [r])).outstanding) :
    UnderWay message completion deadline (requests ++ [r]) (since ++ [r])

/-- Every message was submitted and is under way since. -/
theorem exists_underWay (hid : id ∈ (ofRequests requests).outstanding) :
    ∃ message completion deadline since, message.id = id ∧
      UnderWay message completion deadline requests since := by
  induction requests using List.reverseRecOn with
  | nil => cases hid
  | append_singleton requests r ih =>
    by_cases hold : id ∈ (ofRequests requests).outstanding
    · obtain ⟨message, completion, deadline, since, rfl, hunder⟩ := ih hold
      exact ⟨message, completion, deadline, since ++ [r], rfl, .stays hunder hid⟩
    · have ht := coherent_ofRequests requests
      obtain ⟨d, hd⟩ := (coherent_ofRequests _).mem_outstanding_iff.1 hid
      rw [ofRequests_concat, delivery?_next ht, ht.notMem_outstanding_iff.1 hold] at hd
      obtain ⟨message, completion, deadline, rfl, rfl, -⟩ := TrackerRequest.leaves_none hd
      exact ⟨message, completion, deadline, [], rfl, .taken hold⟩

/-- **The delivery of a message that is under way** has the operation it was submitted with, and the
message is as submitted but for being handed over since. -/
theorem UnderWay.delivery (h : UnderWay message completion deadline requests since) :
    ∃ m, (ofRequests requests).delivery? message.id = some ⟨m, ⟨completion, deadline⟩⟩ ∧
      m.message = message.handedOver (TrackerRequest.handOvers message.id since) := by
  induction h with
  | @taken requests hfree =>
    have ht := coherent_ofRequests requests
    refine ⟨{ message }, ?_, rfl⟩
    rw [ofRequests_concat, delivery?_next ht, ht.notMem_outstanding_iff.1 hfree]
    exact if_pos rfl
  | @stays requests since r hbefore hid ih =>
    have ht := coherent_ofRequests requests
    obtain ⟨m, hm, hmessage⟩ := ih
    obtain ⟨d, hd⟩ := (coherent_ofRequests _).mem_outstanding_iff.1 hid
    have hleaves := hd
    rw [ofRequests_concat, delivery?_next ht, hm] at hleaves
    obtain ⟨hwaits, hleft⟩ := TrackerRequest.leaves_some hleaves
    refine ⟨d.tracked, ?_, ?_⟩
    · rw [hd]
      exact congrArg (fun p => some (Delivery.mk d.tracked p)) hwaits
    · rw [hleft, TrackerRequest.handOvers, List.countP_append, List.countP_singleton, hmessage]
      split <;> rfl

/-! ## The books -/

/-- No completion is resolved twice, and none that waits is resolved, if every submission has a
completion of its own. -/
theorem nodup_completions (apart : (requests.flatMap TrackerRequest.brings).Nodup) :
    ((empty.endings requests).map (·.completion) ++ (ofRequests requests).waiting).Nodup := by
  have hperm := waiting_after_perm coherent_empty requests
  rw [show empty.waiting = [] from rfl, List.append_nil] at hperm
  exact hperm.nodup_iff.2 apart

/-- **What the books of a tracker show** after requests. -/
structure KeepsBooks (requests : List TrackerRequest) : Prop where
  /-- The ids of the messages are those under which operations wait. -/
  paired : ∀ id, id ∈ (ofRequests requests).outstanding ↔
    (ofRequests requests).registry.contains id = true
  /-- Every message was submitted and is under way since. -/
  submitted : ∀ id ∈ (ofRequests requests).outstanding, ∃ message completion deadline since,
    message.id = id ∧ UnderWay message completion deadline requests since
  /-- A message is as it was submitted but for being handed over since. It tells how often that was
  exactly if it was pending when it was submitted and was not handed over, or if it counted nothing
  the first time and its count had room for the others. -/
  handed : ∀ {message : Outbound} {completion deadline : Nat} {since : List TrackerRequest},
    UnderWay message completion deadline requests since →
      ∃ m, (ofRequests requests).message? message.id = some m ∧
        m.message = message.handedOver (TrackerRequest.handOvers message.id since) ∧
        (m.message.Tells (TrackerRequest.handOvers message.id since) ↔
          if TrackerRequest.handOvers message.id since = 0 then message.state = .pending
          else message.handOver.retryCount = 0 ∧
            TrackerRequest.handOvers message.id since ≤ Text.bound32)
  /-- So a message that was pending and counted nothing when it was submitted tells how often it was
  handed over: it is not at an end, pending exactly if it was not handed over, and otherwise counts
  the times after the first, of which there may be as many as 32 bits can count. -/
  counted : ∀ {message : Outbound} {completion deadline : Nat} {since : List TrackerRequest},
    UnderWay message completion deadline requests since →
      message.state = .pending → message.retryCount = 0 →
        TrackerRequest.handOvers message.id since ≤ Text.bound32 →
          ∃ m, (ofRequests requests).message? message.id = some m ∧
            m.message.Tells (TrackerRequest.handOvers message.id since)
  /-- To submit an id that is under way resolves the new completion and does nothing else. -/
  refused : ∀ (message : Outbound) (completion deadline : Nat),
    message.id ∈ (ofRequests requests).outstanding →
      (ofRequests requests).submit message completion deadline =
        { state := ofRequests requests, value := .error (.duplicateId message.id)
          resolved := [⟨completion, .error (.duplicateId message.id)⟩] }
  /-- The completion of a message that is under way was not resolved. -/
  unresolved : ∀ {message : Outbound} {completion deadline : Nat} {since : List TrackerRequest},
    UnderWay message completion deadline requests since →
      completion ∉ (empty.endings requests).map (·.completion)
  /-- The request that ends a message resolves its completion once, and no other does. -/
  resolvedOnce : ∀ {before after since : List TrackerRequest} {r : TrackerRequest}
    {message : Outbound} {completion deadline : Nat}, requests = before ++ r :: after →
      UnderWay message completion deadline before since →
      message.id ∉ (ofRequests (before ++ [r])).outstanding →
        (((ofRequests before).ends r).map (·.completion)).count completion = 1 ∧
          ((empty.endings requests).map (·.completion)).count completion = 1

/-- **Whatever callers ask of a tracker, it keeps its books**, if every submission has a completion
of its own. -/
theorem keepsBooks_of_apart (apart : (requests.flatMap TrackerRequest.brings).Nodup) :
    KeepsBooks requests where
  paired id := by
    rw [mem_outstanding, (coherent_ofRequests requests).paired]
    rfl
  submitted id hid := exists_underWay hid
  handed hunder := by
    obtain ⟨m, hm, hmessage⟩ := hunder.delivery
    refine ⟨m, (delivery?_eq_some_iff.1 hm).1, hmessage, ?_⟩
    rw [hmessage]
    exact Outbound.tells_handedOver_iff ..
  counted hunder hstate hcount hroom := by
    obtain ⟨m, hm, hmessage⟩ := hunder.delivery
    refine ⟨m, (delivery?_eq_some_iff.1 hm).1, ?_⟩
    rw [hmessage]
    exact Outbound.tells_handedOver hstate hcount hroom
  refused message completion deadline hid := by
    obtain ⟨-, heq⟩ | ⟨hnone, -⟩ := submit_eq (ofRequests requests) message completion deadline
    · exact heq
    · rw [mem_outstanding, (coherent_ofRequests requests).paired, hnone] at hid
      cases hid
  unresolved hunder hmem := by
    obtain ⟨m, hm, -⟩ := hunder.delivery
    have hwaits := mem_waiting hm
    exact (List.nodup_append.1 (nodup_completions apart)).2.2 _ hmem _ hwaits rfl
  resolvedOnce := by
    rintro before after since r message completion deadline rfl hunder hgone
    obtain ⟨m, hm, -⟩ := hunder.delivery
    rw [(coherent_ofRequests _).notMem_outstanding_iff, ofRequests_concat] at hgone
    have hends := completion_mem_ends (coherent_ofRequests before) hm hgone
    -- The endings of one request are among all endings, which are different.
    have hsublist :
        ((ofRequests before).ends r).Sublist (empty.endings (before ++ r :: after)) := by
      rw [endings, transcript_append, transcript]
      exact (List.sublist_append_left ..).trans (List.sublist_append_right ..)
    have hnodup := (nodup_completions apart).of_append_left
    have hmap := hsublist.map (·.completion)
    exact ⟨List.count_eq_one_of_mem (hnodup.sublist hmap) hends,
      List.count_eq_one_of_mem hnodup (hmap.subset hends)⟩

/-- Two readings are submitted; the first is handed over twice, submitted once more and confirmed,
the second runs out of time. -/
def twoReadings : List TrackerRequest :=
  [.about (.submit (.reading 1) 10 500), .about (.submit (.reading 2) 20 300),
    .about (.markSent 1 0), .about (.markSent 1 100), .about (.submit (.reading 1) 11 900),
    .about (.acknowledge 1 none), .expire 300]

/-- The second submission of the first reading is resolved at once, the first one by the
confirmation, and the second reading by its deadline. -/
theorem keepsBooks_twoReadings : (twoReadings.flatMap TrackerRequest.brings).Nodup ∧
    (empty.endings twoReadings).map (·.completion) = [11, 10, 20] ∧ KeepsBooks twoReadings := by
  have apart : (twoReadings.flatMap TrackerRequest.brings).Nodup := by decide
  exact ⟨apart, by decide, keepsBooks_of_apart apart⟩

/-! ## Messages that do not tell -/

/-- **Every message tells how often it was handed over** since it was submitted. -/
def Tallies (requests : List TrackerRequest) : Prop :=
  ∀ {message : Outbound} {completion deadline : Nat} {since : List TrackerRequest},
    UnderWay message completion deadline requests since →
      ∃ m, (ofRequests requests).message? message.id = some m ∧
        m.message.Tells (TrackerRequest.handOvers message.id since)

/-- A reading that failed before is submitted. -/
def failedReading : List TrackerRequest :=
  [.about (.submit { Outbound.reading 1 with state := .failed } 10 500)]

/-- A reading is submitted and handed over so many times. -/
def wornReading (n : Nat) : List TrackerRequest :=
  .about (.submit (.reading 1) 10 500) :: List.replicate n (.about (.markSent 1 0))

/-- The first message to be submitted is taken on. -/
theorem underWay_first :
    UnderWay message completion deadline [.about (.submit message completion deadline)] [] :=
  @UnderWay.taken message completion deadline [] List.not_mem_nil

/-- The reading stays under way however often it is handed over. -/
theorem underWay_wornReading (n : Nat) :
    UnderWay (.reading 1) 10 500 (wornReading n) (List.replicate n (.about (.markSent 1 0))) := by
  induction n with
  | zero => exact underWay_first
  | succ n ih =>
    have hlast : wornReading (n + 1) = wornReading n ++ [.about (.markSent 1 0)] := by
      rw [wornReading, List.replicate_succ', wornReading, List.cons_append]
    rw [hlast, List.replicate_succ']
    refine .stays ih ?_
    obtain ⟨m, hm, -⟩ := ih.delivery
    have ht := coherent_ofRequests (wornReading n)
    rw [(coherent_ofRequests _).mem_outstanding_iff, ofRequests_concat, delivery?_next ht, hm]
    exact ⟨_, rfl⟩

theorem Tallies.tells (h : Tallies requests)
    (hunder : UnderWay message completion deadline requests since) :
    (message.handedOver (TrackerRequest.handOvers message.id since)).Tells
      (TrackerRequest.handOvers message.id since) := by
  obtain ⟨m, hm, htells⟩ := h hunder
  obtain ⟨m', hm', hmessage⟩ := hunder.delivery
  obtain rfl := Option.some.inj (hm.symm.trans (delivery?_eq_some_iff.1 hm').1)
  rwa [hmessage] at htells

/-- **Not every message tells how often it was handed over**: one that was submitted as failed is
at an end from the start, and one that was handed over more often than 32 bits can count starts
over. -/
theorem not_tallies : ¬Tallies failedReading ∧ ¬Tallies (wornReading (Text.bound32 + 1)) := by
  constructor
  · intro h
    have htells := h.tells underWay_first
    exact absurd htells.live (by decide)
  · intro h
    have htells := h.tells (underWay_wornReading (Text.bound32 + 1))
    have hcount : TrackerRequest.handOvers (Outbound.reading 1).id
        (List.replicate (Text.bound32 + 1) (.about (.markSent 1 0))) = Text.bound32 + 1 := by
      simp [TrackerRequest.handOvers, List.countP_replicate, TrackerRequest.handsOver,
        Outbound.reading]
    rw [Outbound.tells_handedOver_iff, hcount, if_neg (Nat.succ_ne_zero _)] at htells
    exact Nat.not_succ_le_self _ htells.2

end DeliveryTracker

end HubLink
