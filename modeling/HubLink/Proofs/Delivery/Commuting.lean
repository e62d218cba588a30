import HubLink.Proofs.Delivery.Handling

/-! # Requests about different messages

A request about one message acts on its delivery alone, so two requests about different messages may
come in either order: the tracker is the same afterwards, and each is answered as if the other had
not been made. Hence lists of requests in which the requests about each message come in the same order
have the same outcome (`DeliveryTracker.sameOutcome_of_concerning`), as confirmations have in any
order; and a request about a message that is not under way, which comes too late or twice, changes
nothing (`DeliveryTracker.independent_ofRequests`). -/

namespace HubLink.DeliveryTracker

variable {t : DeliveryTracker} {r r' : MessageRequest}

/-! ## Two requests -/

theorem delivery?_handle_of_ne (ht : t.Coherent) (h : r.id ≠ r'.id) :
    (t.handle r').state.delivery? r.id = t.delivery? r.id := by
  rw [delivery?_handle ht, if_neg h]

/-- **Requests about different messages may come in either order.** -/
theorem handle_comm (ht : t.Coherent) (h : r.id ≠ r'.id) :
    ((t.handle r).state.handle r').state = ((t.handle r').state.handle r).state := by
  rw [handle_eq (ht.handle r), handle_eq (ht.handle r'), delivery?_handle_of_ne ht h.symm,
    delivery?_handle_of_ne ht h, handle_eq ht, handle_eq ht]
  exact put_comm t h _ _

/-- **A request is answered alike** and ends the same operations before and after one about another
message. -/
theorem answer_handle (ht : t.Coherent) (h : r.id ≠ r'.id) :
    ((t.handle r').state.handle r).value = (t.handle r).value ∧
      ((t.handle r').state.handle r).resolved = (t.handle r).resolved := by
  rw [handle_eq (ht.handle r'), delivery?_handle_of_ne ht h, handle_eq ht r]
  exact ⟨rfl, rfl⟩

/-! ## Requests in another order -/

/-- Two lists of requests leave the same behind and end the same operations in the same way. -/
structure SameOutcome (t : DeliveryTracker) (requests requests' : List TrackerRequest) : Prop where
  /-- The tracker is the same afterwards. -/
  state : t.after requests = t.after requests'
  /-- The operations that end are the same, with their results. -/
  endings : (t.endings requests).Perm (t.endings requests')

namespace SameOutcome

theorem refl (t : DeliveryTracker) (requests : List TrackerRequest) :
    SameOutcome t requests requests :=
  ⟨rfl, List.Perm.refl _⟩

theorem symm {l l' : List TrackerRequest} (h : SameOutcome t l l') : SameOutcome t l' l :=
  ⟨h.state.symm, h.endings.symm⟩

theorem trans {l l' l'' : List TrackerRequest} (h : SameOutcome t l l')
    (h' : SameOutcome t l' l'') : SameOutcome t l l'' :=
  ⟨h.state.trans h'.state, h.endings.trans h'.endings⟩

theorem cons {l l' : List TrackerRequest} (q : TrackerRequest) (h : SameOutcome (t.next q) l l') :
    SameOutcome t (q :: l) (q :: l') :=
  ⟨h.state, h.endings.append_left _⟩

/-- The first two requests may change places if they are about different messages. -/
theorem swap (ht : t.Coherent) (h : r.id ≠ r'.id) (l : List TrackerRequest) :
    SameOutcome t (.about r :: .about r' :: l) (.about r' :: .about r :: l) := by
  have hstate : (t.next (.about r)).next (.about r') = (t.next (.about r')).next (.about r) :=
    handle_comm ht h
  have hr : (t.next (.about r')).ends (.about r) = t.ends (.about r) := (answer_handle ht h).2
  have hr' : (t.next (.about r)).ends (.about r') = t.ends (.about r') :=
    (answer_handle ht h.symm).2
  constructor
  · show ((t.next (.about r)).next (.about r')).after l = _
    rw [hstate]
    rfl
  · show (t.ends (.about r) ++ ((t.next (.about r)).ends (.about r') ++
      ((t.next (.about r)).next (.about r')).endings l)).Perm (t.ends (.about r') ++
        ((t.next (.about r')).ends (.about r) ++ ((t.next (.about r')).next (.about r)).endings l))
    rw [hr, hr', hstate]
    exact List.perm_append_comm_assoc ..

/-- A request may come before those about other messages. -/
theorem move (ht : t.Coherent) {before : List MessageRequest} (h : ∀ q ∈ before, q.id ≠ r.id)
    (later : List MessageRequest) :
    SameOutcome t ((before ++ r :: later).map .about) ((r :: (before ++ later)).map .about) := by
  induction before generalizing t with
  | nil => exact refl t _
  | cons q before ih =>
    obtain ⟨hq, hbefore⟩ := List.forall_mem_cons.1 h
    exact (cons (.about q) (ih (ht.next _) hbefore)).trans (swap ht hq _)

end SameOutcome

/-- The requests about the message of an id. -/
def concerning (id : Nat) (l : List MessageRequest) : List MessageRequest := l.filter (·.id = id)

/-- **What becomes of the messages depends only on the order of the requests about each of
them.** -/
theorem sameOutcome_of_concerning (ht : t.Coherent) {l l' : List MessageRequest}
    (h : ∀ id, concerning id l = concerning id l') :
    SameOutcome t (l.map .about) (l'.map .about) := by
  induction l generalizing t l' with
  | nil =>
    cases l' with
    | nil => exact .refl t _
    | cons q rest => simpa [concerning] using h q.id
  | cons q rest ih =>
    -- The first request about the message of `q` is `q` in both lists.
    have hq := (h q.id).symm
    rw [concerning, concerning, List.filter_cons_of_pos (by simp), List.filter_eq_cons_iff] at hq
    obtain ⟨before, later, rfl, hbefore, -, hlater⟩ := hq
    have hothers : ∀ x ∈ before, x.id ≠ q.id := fun x hx hid => hbefore x hx (decide_eq_true hid)
    have hrest : ∀ id, concerning id rest = concerning id (before ++ later) := by
      intro id
      rw [concerning, concerning, List.filter_append]
      by_cases hid : q.id = id
      · subst hid
        rw [hlater, List.filter_eq_nil_iff.2 hbefore, List.nil_append]
      · have hid' := h id
        rw [concerning, concerning, List.filter_cons_of_neg (by simpa using hid),
          List.filter_append, List.filter_cons_of_neg (by simpa using hid)] at hid'
        exact hid'
    have hbehind : SameOutcome t ((q :: rest).map .about) ((q :: (before ++ later)).map .about) :=
      .cons (.about q) (ih (ht.next _) hrest)
    exact hbehind.trans (SameOutcome.move ht hothers later).symm

/-- Requests of which those about the same message are the same have the same outcome in any
order. -/
theorem sameOutcome_of_perm (ht : t.Coherent) {l l' : List MessageRequest} (hperm : l.Perm l')
    (halike : ∀ a ∈ l, ∀ b ∈ l, a.id = b.id → a = b) :
    SameOutcome t (l.map .about) (l'.map .about) := by
  refine sameOutcome_of_concerning ht fun id => ?_
  have hfilter : (concerning id l).Perm (concerning id l') := hperm.filter _
  cases hl : concerning id l with
  | nil =>
    rw [hl] at hfilter
    exact hfilter.nil_eq
  | cons a rest =>
    -- All requests about this message are `a`.
    have ha : ∀ b ∈ a :: rest, b = a := by
      intro b hb
      rw [← hl] at hb
      have hmem : a ∈ concerning id l := hl ▸ List.mem_cons_self
      obtain ⟨hb, hbid⟩ := List.mem_filter.1 hb
      obtain ⟨ha, haid⟩ := List.mem_filter.1 hmem
      exact halike b hb a ha ((of_decide_eq_true hbid).trans (of_decide_eq_true haid).symm)
    have hreplicate := List.eq_replicate_of_mem ha
    rw [hl, hreplicate] at hfilter
    exact hreplicate.trans (List.replicate_perm.1 hfilter)

/-! ## Late requests -/

/-- Whether a tracker answers that there is no such message. -/
def isMiss : MessageReply → Bool
  | .handed none | .ended false | .judged none => true
  | _ => false

/-- **A request about a message that is not under way**, other than to take it on, changes
nothing. -/
theorem handle_of_notMem (ht : t.Coherent) (hid : r.id ∉ t.outstanding)
    (hsubmit : ∀ message completion deadline, r ≠ .submit message completion deadline) :
    (t.handle r).state = t ∧ (t.handle r).resolved = [] ∧ isMiss (t.handle r).value = true := by
  have hd := ht.notMem_outstanding_iff.1 hid
  rw [handle_eq ht, hd]
  cases r with
  | submit message completion deadline => exact absurd rfl (hsubmit _ _ _)
  | markSent | acknowledge | sendFailed | fail | cancel => exact ⟨ht.put_none hd, rfl, rfl⟩

/-- **What is asked about one message is independent of what is asked about the others.** -/
structure Independent (t : DeliveryTracker) : Prop where
  /-- After two requests about different messages, the tracker is the same in either order. -/
  state : ∀ r r' : MessageRequest, r.id ≠ r'.id →
    ((t.handle r).state.handle r').state = ((t.handle r').state.handle r).state
  /-- A request is answered alike and ends the same operations, in the same way, whether it comes
  before or after one about another message. -/
  answer : ∀ r r' : MessageRequest, r.id ≠ r'.id →
    ((t.handle r').state.handle r).value = (t.handle r).value ∧
      ((t.handle r').state.handle r).resolved = (t.handle r).resolved
  /-- So the outcome of requests depends only on the order of those about each message. -/
  order : ∀ l l' : List MessageRequest, (∀ id, concerning id l = concerning id l') →
    SameOutcome t (l.map .about) (l'.map .about)
  /-- Confirmations of different messages, and the same ones more than once, have the same outcome
  in any order. -/
  confirmations : ∀ acks acks' : List (Nat × Option Response), acks.Perm acks' →
    (∀ a ∈ acks, ∀ b ∈ acks, a.1 = b.1 → a = b) →
      SameOutcome t (acks.map fun a => .about (.acknowledge a.1 a.2))
        (acks'.map fun a => .about (.acknowledge a.1 a.2))
  /-- Any request but a submission is too late for a message that is not under way: nothing changes,
  no operation ends, and the answer is that there is no such message. -/
  late : ∀ r : MessageRequest, r.id ∉ t.outstanding →
    (∀ message completion deadline, r ≠ .submit message completion deadline) →
      (t.handle r).state = t ∧ (t.handle r).resolved = [] ∧ isMiss (t.handle r).value = true

/-- **Whatever was asked of a tracker**, requests about different messages are independent. -/
theorem independent_ofRequests (requests : List TrackerRequest) :
    Independent (ofRequests requests) where
  state r r' h := handle_comm (coherent_ofRequests requests) h
  answer r r' h := answer_handle (coherent_ofRequests requests) h
  order l l' h := sameOutcome_of_concerning (coherent_ofRequests requests) h
  confirmations acks acks' hperm halike := by
    have h := sameOutcome_of_perm (coherent_ofRequests requests)
      (hperm.map fun a => MessageRequest.acknowledge a.1 a.2) (by
        intro a ha b hb hid
        obtain ⟨x, hx, rfl⟩ := List.mem_map.1 ha
        obtain ⟨y, hy, rfl⟩ := List.mem_map.1 hb
        rw [halike x hx y hy hid])
    rw [List.map_map, List.map_map] at h
    exact h
  late r hid hsubmit := handle_of_notMem (coherent_ofRequests requests) hid hsubmit

end HubLink.DeliveryTracker
