import HubLink.Delivery.Tracker
import HubLink.Proofs.Collection.Reading

/-! # What the operations of a tracker leave behind

A tracker is determined by what it reads: the message and the waiting operation of each id. Every
operation either changes one reading or *retires* ids, which removes the message and the waiting
operation together and resolves the completion. The statements here say for each operation which it
does, for **coherent** trackers: those with a waiting operation beside every message and no other,
and every message filed under its own id. -/

namespace HubLink

namespace DeliveryTracker

/-- The message of an id. -/
def message? (t : DeliveryTracker) (id : Nat) : Option Tracked := t.messages.get? id

/-- The waiting operation of an id. -/
def pending? (t : DeliveryTracker) (id : Nat) : Option PendingCorrelation :=
  t.registry.pending.get? id

/-- **Trackers with the same readings are equal.** -/
theorem ext_readings {t t' : DeliveryTracker} (hm : ∀ id, t.message? id = t'.message? id)
    (hp : ∀ id, t.pending? id = t'.pending? id) : t = t' := by
  obtain ⟨m, ⟨p⟩⟩ := t
  obtain ⟨m', ⟨p'⟩⟩ := t'
  have hm' : m = m' := SortedMap.ext_get? hm
  have hp' : p = p' := SortedMap.ext_get? hp
  rw [hm', hp']

/-- An id is under way exactly when it has a message. -/
theorem mem_outstanding {t : DeliveryTracker} {id : Nat} :
    id ∈ t.outstanding ↔ (t.message? id).isSome :=
  SortedMap.mem_keys

/-- Messages and waiting operations belong together. -/
structure Coherent (t : DeliveryTracker) : Prop where
  /-- An id has a message exactly when an operation waits under it. -/
  paired : ∀ id, (t.message? id).isSome = (t.pending? id).isSome
  /-- Every message is filed under its own id. -/
  filed : ∀ id m, t.message? id = some m → m.message.id = id

@[simp] theorem message?_empty (id : Nat) : DeliveryTracker.empty.message? id = none := rfl

@[simp] theorem pending?_empty (id : Nat) : DeliveryTracker.empty.pending? id = none := rfl

/-- The tracker without messages is coherent. -/
theorem coherent_empty : Coherent .empty where
  paired _ := rfl
  filed _ _ h := by simp at h

/-- In a coherent tracker an operation waits for every message. -/
theorem Coherent.pending_of_message {t : DeliveryTracker} (ht : t.Coherent) {id : Nat} {m : Tracked}
    (hm : t.message? id = some m) : ∃ p, t.pending? id = some p := by
  rw [← Option.isSome_iff_exists, ← ht.paired, hm]
  rfl

/-- In a coherent tracker every operation that waits has a message. -/
theorem Coherent.message_of_pending {t : DeliveryTracker} (ht : t.Coherent) {id : Nat}
    {p : PendingCorrelation} (hp : t.pending? id = some p) : ∃ m, t.message? id = some m := by
  rw [← Option.isSome_iff_exists, ht.paired, hp]
  rfl

/-! ## Retiring -/

/-- Remove the message and the waiting operation of an id. -/
def retire (t : DeliveryTracker) (id : Nat) : DeliveryTracker where
  messages := t.messages.erase id
  registry := ⟨t.registry.pending.erase id⟩

@[simp] theorem message?_retire (t : DeliveryTracker) (id k : Nat) :
    (t.retire id).message? k = if k = id then none else t.message? k :=
  SortedMap.get?_erase _ _ _

@[simp] theorem pending?_retire (t : DeliveryTracker) (id k : Nat) :
    (t.retire id).pending? k = if k = id then none else t.pending? k :=
  SortedMap.get?_erase _ _ _

/-- Retiring keeps a tracker coherent. -/
theorem Coherent.retire {t : DeliveryTracker} (ht : t.Coherent) (id : Nat) :
    (t.retire id).Coherent where
  paired k := by by_cases h : k = id <;> simp [h, ht.paired]
  filed k m hm := by
    by_cases h : k = id
    · simp [h] at hm
    · exact ht.filed k m (by simpa [h] using hm)

/-- Retire several ids, one after the other. -/
def retireAll (t : DeliveryTracker) (ids : List Nat) : DeliveryTracker := ids.foldl retire t

@[simp] theorem retireAll_nil (t : DeliveryTracker) : t.retireAll [] = t := rfl

@[simp] theorem retireAll_cons (t : DeliveryTracker) (id : Nat) (ids : List Nat) :
    t.retireAll (id :: ids) = (t.retire id).retireAll ids := rfl

theorem message?_retireAll (t : DeliveryTracker) (ids : List Nat) (k : Nat) :
    (t.retireAll ids).message? k = if k ∈ ids then none else t.message? k := by
  induction ids generalizing t with
  | nil => simp [retireAll]
  | cons id ids ih =>
    rw [retireAll_cons, ih]
    by_cases h : k = id <;> simp [h]

theorem pending?_retireAll (t : DeliveryTracker) (ids : List Nat) (k : Nat) :
    (t.retireAll ids).pending? k = if k ∈ ids then none else t.pending? k := by
  induction ids generalizing t with
  | nil => simp [retireAll]
  | cons id ids ih =>
    rw [retireAll_cons, ih]
    by_cases h : k = id <;> simp [h]

/-! ## Less under way -/

/-- What is under way in a tracker is under way in another, handed over as often and as lately. -/
def Within (t t' : DeliveryTracker) : Prop :=
  ∀ id m, t.message? id = some m →
    ∃ m', t'.message? id = some m' ∧ m.message = m'.message ∧ m.sentAt = m'.sentAt

theorem Within.refl (t : DeliveryTracker) : t.Within t :=
  fun _ m hm => ⟨m, hm, rfl, rfl⟩

theorem Within.trans {t t' t'' : DeliveryTracker} (h : t.Within t') (h' : t'.Within t'') :
    t.Within t'' := by
  intro id m hm
  obtain ⟨m', hm', hmsg, hsent⟩ := h id m hm
  obtain ⟨m'', hm'', hmsg', hsent'⟩ := h' id m' hm'
  exact ⟨m'', hm'', hmsg.trans hmsg', hsent.trans hsent'⟩

theorem within_retireAll (t : DeliveryTracker) (ids : List Nat) : (t.retireAll ids).Within t := by
  intro id m hm
  rw [message?_retireAll] at hm
  split at hm
  · cases hm
  · exact ⟨m, hm, rfl, rfl⟩

theorem within_retire (t : DeliveryTracker) (id : Nat) : (t.retire id).Within t :=
  t.within_retireAll [id]

/-- A coherent tracker within the empty one is empty. -/
theorem Within.eq_empty {t : DeliveryTracker} (ht : t.Coherent) (h : t.Within .empty) :
    t = .empty := by
  have hm : ∀ id, t.message? id = none := by
    intro id
    rw [Option.eq_none_iff_forall_ne_some]
    intro m hm
    obtain ⟨m', hm', -⟩ := h id m hm
    cases hm'
  refine ext_readings hm fun id => ?_
  have hp := ht.paired id
  rw [hm, Option.isSome_none, eq_comm, Option.isSome_eq_false_iff, Option.isNone_iff_eq_none] at hp
  exact hp

/-! ## Operations that retire -/

/-- **Ending a message retires its id** and resolves its completion; ending one that is not under
way changes nothing. -/
theorem finish_eq {t : DeliveryTracker} (ht : t.Coherent) (id : Nat)
    (outcome : Except Fault (Option Response)) :
    (t.message? id = none ∧ t.finish id outcome = { state := t, value := false }) ∨
      ∃ p, t.pending? id = some p ∧ t.finish id outcome =
        { state := t.retire id, value := true, resolved := [p.resolve id outcome] } := by
  cases hm : t.message? id with
  | none => exact .inl ⟨rfl, by rw [message?] at hm; simp only [finish, hm]⟩
  | some m =>
    obtain ⟨p, hp⟩ := ht.pending_of_message hm
    rw [message?] at hm
    refine .inr ⟨p, hp, ?_⟩
    rw [pending?] at hp
    simp only [finish, hm, CorrelationRegistry.resolve, hp, retire]

/-- The operations whose wait is over. -/
def overdue (t : DeliveryTracker) (now : Nat) : List (Nat × PendingCorrelation) :=
  (t.registry.pending.filter fun _ p => p.isExpired now).entries

/-- The operations whose wait is over wait still. -/
theorem pending?_of_mem_overdue {t : DeliveryTracker} {now : Nat} {e : Nat × PendingCorrelation}
    (he : e ∈ t.overdue now) : t.pending? e.1 = some e.2 ∧ e.2.deadline ≤ now := by
  obtain ⟨hmem, hexp⟩ := List.mem_filter.1 he
  exact ⟨SortedMap.get?_of_mem hmem, by simpa [PendingCorrelation.isExpired] using hexp⟩

/-- An id is overdue exactly when an operation waits under it whose deadline has passed. -/
theorem mem_overdue_ids {t : DeliveryTracker} {now id : Nat} :
    id ∈ (t.overdue now).map (·.1) ↔ ∃ p, t.pending? id = some p ∧ p.isExpired now := by
  rw [show (t.overdue now).map (·.1)
      = (t.registry.pending.filter fun _ p => p.isExpired now).keys from rfl,
    SortedMap.mem_keys, Option.isSome_iff_exists]
  simp only [SortedMap.get?_filter, Option.filter_eq_some_iff, pending?]

/-- **Expiring retires the overdue ids** and resolves their completions with a timeout. -/
theorem expire_eq {t : DeliveryTracker} (now : Nat) :
    t.expire now =
      { state := t.retireAll ((t.overdue now).map (·.1))
        value := (t.overdue now).map (·.1)
        resolved := (t.overdue now).map fun e => e.2.resolve e.1 (.error .timeout) } := by
  have hstate : (t.expire now).state = t.retireAll ((t.overdue now).map (·.1)) := by
    apply ext_readings
    · -- Messages are filtered by the list of the overdue ids.
      intro id
      rw [message?_retireAll]
      show (t.messages.filter _).get? id = _
      rw [SortedMap.get?_filter]
      show (t.message? id).filter (fun _ => !((t.overdue now).map (·.1)).contains id) = _
      by_cases h : id ∈ (t.overdue now).map (·.1)
      · simp [h, Option.filter]
        cases t.message? id <;> rfl
      · simp [h, Option.filter]
        cases t.message? id <;> rfl
    · -- Waiting operations are filtered by their own deadlines.
      intro id
      rw [pending?_retireAll]
      show (t.registry.pending.filter _).get? id = _
      rw [SortedMap.get?_filter]
      show (t.pending? id).filter (fun p => !p.isExpired now) = _
      split
      · rename_i h
        obtain ⟨p, hp, hexp⟩ := mem_overdue_ids.1 h
        simp [hp, Option.filter, hexp]
      · rename_i h
        cases hp : t.pending? id with
        | none => rfl
        | some p =>
          have : p.isExpired now = false := by
            cases hexp : p.isExpired now with
            | false => rfl
            | true => exact absurd (mem_overdue_ids.2 ⟨p, hp, hexp⟩) h
          simp [Option.filter, this]
  rw [← hstate]
  rfl

/-- **Ending everything retires every id** and resolves the completions with the fault. -/
theorem failAll_eq {t : DeliveryTracker} (ht : t.Coherent) (fault : Fault) :
    (t.failAll fault).state = t.retireAll t.registry.pending.keys ∧
      (t.failAll fault).resolved =
        t.registry.pending.entries.map fun e => e.2.resolve e.1 (.error fault) := by
  refine ⟨?_, rfl⟩
  have hmem : ∀ id, id ∈ t.registry.pending.keys ↔ (t.pending? id).isSome :=
    fun _ => SortedMap.mem_keys
  apply ext_readings
  · intro id
    rw [message?_retireAll]
    show none = _
    split
    · rfl
    · rename_i h
      rw [hmem, ← ht.paired, Option.not_isSome_iff_eq_none] at h
      exact h.symm
  · intro id
    rw [pending?_retireAll]
    show none = _
    split
    · rfl
    · rename_i h
      rw [hmem, Option.not_isSome_iff_eq_none] at h
      exact h.symm

/-- **A failed send** of an id that is not under way changes nothing; otherwise it retires the id or
plans to send the message again. -/
theorem sendFailed_eq {t : DeliveryTracker} (ht : t.Coherent) (policy : RetryPolicy) (id : Nat)
    (fault : Fault) (now : Nat) :
    (t.message? id = none ∧
        t.sendFailed policy id fault now = { state := t, value := none }) ∨
      (∃ p, t.pending? id = some p ∧ t.sendFailed policy id fault now =
        { state := t.retire id, value := some .failed
          resolved := [p.resolve id (.error fault)] }) ∨
      ∃ m retryAt, t.message? id = some m ∧ t.sendFailed policy id fault now =
        { state := { t with messages := t.messages.insert id { m with retryAt } }
          value := some .sent } := by
  cases hm : t.message? id with
  | none => exact .inl ⟨rfl, by rw [message?] at hm; simp only [sendFailed, hm]⟩
  | some m =>
    refine .inr ?_
    have hm' : t.messages.get? id = some m := hm
    cases hd : policy.decide fault.kind m.message.retryCount with
    | giveUp =>
      obtain ⟨hnone, -⟩ | ⟨p, hp, hfin⟩ := finish_eq ht id (.error fault)
      · simp [hm] at hnone
      · refine .inl ⟨p, hp, ?_⟩
        simp only [sendFailed, hm', hd, fail, hfin]
    | retry after =>
      refine .inr ⟨m, some (deadlineAfter now after), rfl, ?_⟩
      simp only [sendFailed, hm', hd]

/-- A message is to be sent again only if the policy gives it another attempt. -/
theorem isFinal_of_sendFailed {t : DeliveryTracker} {policy : RetryPolicy} {id now : Nat}
    {fault : Fault} (h : (t.sendFailed policy id fault now).value = some .sent) (m : Tracked)
    (hm : t.message? id = some m) :
    (policy.decide fault.kind m.message.retryCount).isFinal = false := by
  have hm' : t.messages.get? id = some m := hm
  cases hd : policy.decide fault.kind m.message.retryCount with
  | giveUp => simp [sendFailed, hm', hd] at h
  | retry after => rfl

/-- **A message that the policy gives no other attempt fails for good.** -/
theorem sendFailed_of_giveUp {t : DeliveryTracker} (ht : t.Coherent) {policy : RetryPolicy}
    {id : Nat} {fault : Fault} {m : Tracked} {p : PendingCorrelation}
    (hm : t.message? id = some m) (hp : t.pending? id = some p)
    (hspent : policy.decide fault.kind m.message.retryCount = .giveUp) (now : Nat) :
    t.sendFailed policy id fault now =
      { state := t.retire id, value := some .failed, resolved := [p.resolve id (.error fault)] } := by
  obtain ⟨hnone, -⟩ | ⟨p', hp', heq⟩ | ⟨x, retryAt, -, heq⟩ :=
    sendFailed_eq ht policy id fault now
  · rw [hm] at hnone
    cases hnone
  · obtain rfl := Option.some.inj (hp.symm.trans hp')
    exact heq
  · have hagain := isFinal_of_sendFailed (by rw [heq]) m hm
    rw [hspent] at hagain
    cases hagain

/-! ## Operations that change one reading -/

theorem message?_insert (t : DeliveryTracker) (id k : Nat) (m : Tracked) :
    DeliveryTracker.message? { t with messages := t.messages.insert id m } k =
      if id = k then some m else t.message? k :=
  SortedMap.get?_insert _ _ _ _

/-- Changing a message that is under way leaves the same ids under way. -/
theorem mem_outstanding_insert {t : DeliveryTracker} {id : Nat} {m m' : Tracked}
    (hm : t.message? id = some m) {k : Nat} :
    k ∈ outstanding { t with messages := t.messages.insert id m' } ↔ k ∈ t.outstanding := by
  rw [mem_outstanding, mem_outstanding, message?_insert]
  by_cases h : id = k
  · subst h
    simp [hm]
  · simp [h]

/-- Planning when to send a message again leaves it as it was handed over. -/
theorem within_insert_retryAt {t : DeliveryTracker} {id : Nat} {m : Tracked}
    (hm : t.message? id = some m) (retryAt : Option Nat) :
    Within { t with messages := t.messages.insert id { m with retryAt } } t := by
  intro k x hx
  rw [message?_insert] at hx
  split at hx
  · rename_i h
    subst h
    rw [Option.some.injEq] at hx
    exact ⟨m, hm, hx ▸ rfl, hx ▸ rfl⟩
  · exact ⟨x, hx, rfl, rfl⟩

/-- Changing a message that is under way keeps a tracker coherent. -/
theorem Coherent.insert {t : DeliveryTracker} (ht : t.Coherent) {id : Nat} {m m' : Tracked}
    (hm : t.message? id = some m) (hid : m'.message.id = m.message.id) :
    Coherent { t with messages := t.messages.insert id m' } where
  paired k := by
    rw [message?_insert]
    by_cases h : id = k
    · subst h
      rw [if_pos rfl]
      show true = (t.pending? id).isSome
      rw [← ht.paired, hm]
      rfl
    · rw [if_neg h]
      exact ht.paired k
  filed k x hx := by
    rw [message?_insert] at hx
    by_cases h : id = k
    · subst h
      rw [if_pos rfl, Option.some.injEq] at hx
      rw [← hx, hid, ht.filed id m hm]
    · rw [if_neg h] at hx
      exact ht.filed k x hx

/-! ## What is left after an end -/

/-- Ending a message leaves less under way. -/
theorem within_finish {t : DeliveryTracker} (ht : t.Coherent) (id : Nat)
    (outcome : Except Fault (Option Response)) : (t.finish id outcome).state.Within t := by
  obtain ⟨-, heq⟩ | ⟨p, -, heq⟩ := finish_eq ht id outcome
  · rw [heq]
    exact .refl t
  · rw [heq]
    exact t.within_retire id

/-- Expiring leaves less under way. -/
theorem within_expire (t : DeliveryTracker) (now : Nat) : (t.expire now).state.Within t := by
  rw [expire_eq]
  exact t.within_retireAll _

/-- A failed send leaves less under way, or the same. -/
theorem within_sendFailed {t : DeliveryTracker} (ht : t.Coherent) (policy : RetryPolicy) (id : Nat)
    (fault : Fault) (now : Nat) : (t.sendFailed policy id fault now).state.Within t := by
  obtain ⟨-, heq⟩ | ⟨p, -, heq⟩ | ⟨m, retryAt, hm, heq⟩ := sendFailed_eq ht policy id fault now
  · rw [heq]
    exact .refl t
  · rw [heq]
    exact t.within_retire id
  · rw [heq]
    exact within_insert_retryAt hm retryAt

/-- Less under way is under fewer ids. -/
theorem Within.outstanding_subset {t t' : DeliveryTracker} (h : t.Within t') :
    t.outstanding ⊆ t'.outstanding := by
  intro id hid
  rw [mem_outstanding, Option.isSome_iff_exists] at hid ⊢
  obtain ⟨m, hm⟩ := hid
  obtain ⟨m', hm', -⟩ := h id m hm
  exact ⟨m', hm'⟩

/-- Retiring several ids keeps a tracker coherent. -/
theorem Coherent.retireAll {t : DeliveryTracker} (ht : t.Coherent) (ids : List Nat) :
    (t.retireAll ids).Coherent := by
  induction ids generalizing t with
  | nil => exact ht
  | cons id ids ih => exact ih (ht.retire id)

/-- Ending a message keeps a tracker coherent. -/
theorem Coherent.finish {t : DeliveryTracker} (ht : t.Coherent) (id : Nat)
    (outcome : Except Fault (Option Response)) : (t.finish id outcome).state.Coherent := by
  obtain ⟨-, heq⟩ | ⟨p, -, heq⟩ := finish_eq ht id outcome
  · rw [heq]
    exact ht
  · rw [heq]
    exact ht.retire id

/-- Expiring keeps a tracker coherent. -/
theorem Coherent.expire {t : DeliveryTracker} (ht : t.Coherent) (now : Nat) :
    (t.expire now).state.Coherent := by
  rw [expire_eq]
  exact ht.retireAll _

/-- A failed send keeps a tracker coherent. -/
theorem Coherent.sendFailed {t : DeliveryTracker} (ht : t.Coherent) (policy : RetryPolicy)
    (id : Nat) (fault : Fault) (now : Nat) : (t.sendFailed policy id fault now).state.Coherent := by
  obtain ⟨-, heq⟩ | ⟨p, -, heq⟩ | ⟨m, retryAt, hm, heq⟩ := sendFailed_eq ht policy id fault now
  · rw [heq]
    exact ht
  · rw [heq]
    exact ht.retire id
  · rw [heq]
    exact ht.insert hm rfl

/-- **A message that is under way after it failed** is planned for the end of the policy's delay. -/
theorem message?_sendFailed {t : DeliveryTracker} (ht : t.Coherent) {policy : RetryPolicy}
    {id now : Nat} {fault : Fault} {x : Tracked}
    (hx : (t.sendFailed policy id fault now).state.message? id = some x) :
    ∃ m after, t.message? id = some m ∧
      policy.decide fault.kind m.message.retryCount = .retry after ∧
      x = { m with retryAt := some (deadlineAfter now after) } := by
  cases hm : t.message? id with
  | none =>
    have hget : t.messages.get? id = none := hm
    simp only [sendFailed, hget] at hx
    rw [hm] at hx
    cases hx
  | some m =>
    have hget : t.messages.get? id = some m := hm
    cases hd : policy.decide fault.kind m.message.retryCount with
    | giveUp =>
      obtain ⟨p, hp⟩ := ht.pending_of_message hm
      rw [sendFailed_of_giveUp ht hm hp hd, message?_retire, if_pos rfl] at hx
      cases hx
    | retry after =>
      simp only [sendFailed, hget, hd] at hx
      rw [message?_insert, if_pos rfl, Option.some.injEq] at hx
      exact ⟨m, after, rfl, hd, hx.symm⟩

/-! ## Taking on -/

/-- Take on a message with the operation that waits for it. -/
def enroll (t : DeliveryTracker) (message : Outbound) (p : PendingCorrelation) :
    DeliveryTracker where
  messages := t.messages.insert message.id { message }
  registry := ⟨t.registry.pending.insert message.id p⟩

/-- **Submitting** an id under which an operation waits is refused, which ends the new operation;
otherwise the message is taken on. -/
theorem submit_eq (t : DeliveryTracker) (message : Outbound) (completion deadline : Nat) :
    ((t.pending? message.id).isSome ∧ t.submit message completion deadline =
        { state := t, value := .error (.duplicateId message.id)
          resolved := [⟨completion, .error (.duplicateId message.id)⟩] }) ∨
      t.pending? message.id = none ∧ t.submit message completion deadline =
        { state := t.enroll message ⟨completion, deadline⟩, value := .ok () } := by
  cases hp : t.pending? message.id with
  | some p =>
    have hc : t.registry.contains message.id = true := by
      show (t.pending? message.id).isSome = true
      rw [hp]
      rfl
    exact .inl ⟨rfl, by simp [submit, CorrelationRegistry.register, hc]⟩
  | none =>
    have hc : t.registry.contains message.id = false := by
      show (t.pending? message.id).isSome = false
      rw [hp]
      rfl
    exact .inr ⟨rfl, by simp [submit, CorrelationRegistry.register, hc, enroll]⟩

@[simp] theorem message?_enroll (t : DeliveryTracker) (message : Outbound) (p : PendingCorrelation)
    (k : Nat) : (t.enroll message p).message? k =
      if message.id = k then some { message } else t.message? k :=
  SortedMap.get?_insert _ _ _ _

@[simp] theorem pending?_enroll (t : DeliveryTracker) (message : Outbound) (p : PendingCorrelation)
    (k : Nat) : (t.enroll message p).pending? k =
      if message.id = k then some p else t.pending? k :=
  SortedMap.get?_insert _ _ _ _

theorem mem_outstanding_enroll {t : DeliveryTracker} {message : Outbound} {p : PendingCorrelation}
    {id : Nat} : id ∈ (t.enroll message p).outstanding ↔ id = message.id ∨ id ∈ t.outstanding := by
  rw [mem_outstanding, mem_outstanding, message?_enroll]
  by_cases h : message.id = id
  · simp [h]
  · simp [h, Ne.symm h]

/-- Taking on a message keeps a tracker coherent. -/
theorem Coherent.enroll {t : DeliveryTracker} (ht : t.Coherent) (message : Outbound)
    (p : PendingCorrelation) : (t.enroll message p).Coherent where
  paired k := by by_cases h : message.id = k <;> simp [h, ht.paired]
  filed k x hx := by
    by_cases h : message.id = k
    · rw [message?_enroll, if_pos h, Option.some.injEq] at hx
      rw [← hx]
      exact h
    · exact ht.filed k x (by simpa [h] using hx)

end DeliveryTracker

end HubLink
