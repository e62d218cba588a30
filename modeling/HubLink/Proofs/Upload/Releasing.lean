import HubLink.Bench.Receiver
import HubLink.Collection.Transcript
import Mathlib.Data.List.Induction

/-! # How a receiver uses its link

What an upload receiver does to its link while it is opened, waited on and closed, whatever the link
answers. The link is *held* from a success to connect until it is closed. The receiver remembers
only whether it is connected as far as it knows, and forgets that when the link is lost without
closing the link. So the link is held while the receiver is open, and from a loss on until
connecting succeeds again (`UploadReceiver.areHeld_record_iff`), and the receiver connects no held
link and leaves none behind exactly if it is neither opened nor closed while the link is lost
(`UploadReceiver.releasesLink_iff`). -/

namespace HubLink

/-! ## Requests and uses -/

/-- What is asked of a receiver, with what its link answers. -/
inductive ReceiverRequest where
  /-- To open, where connecting has a result. -/
  | open (connected : Except Fault Unit)
  /-- To wait for news while events arrive, where settling has a result. -/
  | receive (events : List (Except Fault LinkEvent)) (settled : Except Fault Unit)
  /-- To close, where closing the link has a result. -/
  | close (released : Except Fault Unit)

/-- Whether a receiver is only asked to wait. -/
def ReceiverRequest.isWait : ReceiverRequest → Bool
  | .receive .. => true
  | .open _ | .close _ => false

/-- What a receiver does to its link, with what comes of it. -/
inductive LinkUse where
  /-- It connects the link. -/
  | connect (result : Except Fault Unit)
  /-- It settles a piece of news. -/
  | settle (tag : DeliveryTag) (disposition : Disposition) (result : Except Fault Unit)
  /-- It closes the link. -/
  | close (result : Except Fault Unit)

namespace LinkUse

/-- Whether the link is held after a use of it. Closing releases it, however that ends. -/
def isHeld (held : Bool) : LinkUse → Bool
  | .connect (.ok ()) => true
  | .connect (.error _) | .settle .. => held
  | .close _ => false

/-- Whether the link is held after uses of it, the first of which finds it released. -/
def areHeld (uses : List LinkUse) : Bool := uses.foldl isHeld false

@[simp] theorem areHeld_append (uses uses' : List LinkUse) :
    areHeld (uses ++ uses') = uses'.foldl isHeld (areHeld uses) :=
  List.foldl_append

/-- The call of a link that a use is. -/
def call : LinkUse → Bench.LinkCall
  | .connect _ => .connect
  | .settle tag disposition _ => .settle tag disposition
  | .close _ => .close

end LinkUse

namespace UploadReceiver

/-- The receiver after a request. -/
def next (r : UploadReceiver) : ReceiverRequest → UploadReceiver
  | .open connected => (r.opened connected).1
  | .receive events _ => if r.isOpen then r.after (pick events).1 else r
  | .close released => (r.closed released).1

/-- What a receiver does to its link when it has taken an event. -/
def settles (settled : Except Fault Unit) : Verdict → List LinkUse
  | .news n => ((settleCall n).map fun call => LinkUse.settle call.1 call.2 settled).toList
  | .skip | .lost _ => []

/-- What the receiver does to its link on a request. -/
def uses (r : UploadReceiver) : ReceiverRequest → List LinkUse
  | .open connected => if r.openCall.isSome then [.connect connected] else []
  | .receive events settled => if r.isOpen then settles settled (pick events).1 else []
  | .close released => if r.closeCall.isSome then [.close released] else []

/-- The receiver after requests. -/
def follow (r : UploadReceiver) (requests : List ReceiverRequest) : UploadReceiver :=
  requests.foldl next r

/-- What the receiver does to its link on requests. -/
def record (r : UploadReceiver) (requests : List ReceiverRequest) : List LinkUse :=
  transcript next uses r requests

theorem follow_concat (r : UploadReceiver) (requests : List ReceiverRequest)
    (request : ReceiverRequest) :
    r.follow (requests ++ [request]) = (r.follow requests).next request :=
  List.foldl_append

theorem record_nil (r : UploadReceiver) : r.record [] = [] := rfl

theorem record_cons (r : UploadReceiver) (request : ReceiverRequest)
    (requests : List ReceiverRequest) :
    r.record (request :: requests) = r.uses request ++ (r.next request).record requests := rfl

/-- What is done on requests after others. -/
theorem record_append (r : UploadReceiver) (requests requests' : List ReceiverRequest) :
    r.record (requests ++ requests') = r.record requests ++ (r.follow requests).record requests' :=
  transcript_append r requests requests'

/-- What is done on one more request. -/
theorem record_concat (r : UploadReceiver) (requests : List ReceiverRequest)
    (request : ReceiverRequest) :
    r.record (requests ++ [request]) = r.record requests ++ (r.follow requests).uses request :=
  transcript_concat r requests request

/-- A use in a record is what was done on one of the requests, and what was done on the requests
before comes before it. -/
theorem record_split {r : UploadReceiver} {requests : List ReceiverRequest} {use : LinkUse}
    {pre post : List LinkUse} (h : r.record requests = pre ++ use :: post) :
    ∃ before request after earlier later, requests = before ++ request :: after ∧
      (r.follow before).uses request = earlier ++ use :: later ∧
      pre = r.record before ++ earlier := by
  obtain ⟨before, request, after, earlier, later, hrequests, huses, hpre, -⟩ := transcript_split h
  exact ⟨before, request, after, earlier, later, hrequests, huses, hpre⟩

/-! ## Receivers on the bench -/

section Bench

variable (b : Bench.ReceiverBench)

/-- Opened on the bench, a receiver does this. -/
theorem openUp_eq :
    b.openUp.1.receiver = b.receiver.next (.open b.link.connected.2) ∧
      b.openUp.1.link.calls =
        b.link.calls ++ (b.receiver.uses (.open b.link.connected.2)).map fun use =>
          (b.now, use.call) := by
  cases hopen : b.receiver.isOpen <;>
    simp [Bench.ReceiverBench.openUp, Bench.ReceiverBench.connect, openCall, opened, next, uses,
      hopen, Bench.ScriptedLink.connected, Bench.ScriptedLink.record, LinkUse.call]

/-- Closed on the bench, a receiver does this. -/
theorem closeDown_eq :
    b.closeDown.1.receiver = b.receiver.next (.close (b.link.close b.now).2) ∧
      b.closeDown.1.link.calls =
        b.link.calls ++ (b.receiver.uses (.close (b.link.close b.now).2)).map fun use =>
          (b.now, use.call) := by
  cases hopen : b.receiver.isOpen <;>
    simp [Bench.ReceiverBench.closeDown, closeCall, closed, next, uses, hopen,
      Bench.ScriptedLink.close, Bench.ScriptedLink.record, LinkUse.call]

/-- Waiting on the bench, a receiver does this, unless waiting so long aborts the program. -/
theorem receive_eq {timeout : Nat} {b' : Bench.ReceiverBench}
    {result : Except Fault (Option UploadNotification)}
    (h : b.receive timeout = some (b', result)) :
    b'.receiver = b.receiver.next (.receive b.link.events (b.link.settles.headD (.ok ()))) ∧
      b'.link.calls =
        b.link.calls ++
          (b.receiver.uses (.receive b.link.events (b.link.settles.headD (.ok ())))).map
            fun use => (b.now, use.call) := by
  cases hopen : b.receiver.isOpen with
  | false =>
    simp only [Bench.ReceiverBench.receive, hopen, Bool.false_eq_true, ↓reduceIte,
      Option.some.injEq, Prod.mk.injEq] at h
    simp [next, uses, hopen, ← h.1]
  | true =>
    simp only [Bench.ReceiverBench.receive, hopen, ↓reduceIte, Option.map_eq_some_iff] at h
    obtain ⟨deadline, -, h⟩ := h
    cases hpick : pick b.link.events with | mk verdict events
    simp only [Bench.ReceiverBench.receiveUntil, hpick] at h
    cases verdict with
    | skip =>
      obtain ⟨rfl, -⟩ := Prod.mk.inj h
      simp [next, uses, settles, hopen, hpick]
    | lost fault =>
      obtain ⟨rfl, -⟩ := Prod.mk.inj h
      simp [next, uses, settles, hopen, hpick]
    | news n =>
      obtain ⟨rfl, -⟩ := Prod.mk.inj h
      -- News without a tag is not settled.
      cases hcall : settleCall n <;>
        simp [next, uses, settles, hopen, hpick, hcall, Bench.ReceiverBench.accept,
          Bench.ScriptedLink.settle, Bench.ScriptedLink.pop, Bench.ScriptedLink.record,
          LinkUse.call]

end Bench

/-! ## What is held -/

/-- **The link is lost** after requests to a new receiver: it was found so by waiting for news, and
connecting has not succeeded since. -/
def IsLost (requests : List ReceiverRequest) : Prop :=
  ∃ pre events settled post fault, requests = pre ++ .receive events settled :: post ∧
    (follow {} pre).isOpen = true ∧ (pick events).1 = .lost fault ∧
      ∀ request ∈ post, request ≠ .open (.ok ())

theorem not_isLost_nil : ¬IsLost [] := by
  rintro ⟨pre, events, settled, post, fault, h, -⟩
  simp at h

/-- **One more request**: the link stays lost unless connecting succeeds, and it is lost when an
open receiver finds it so. -/
theorem isLost_concat_iff {requests : List ReceiverRequest} {request : ReceiverRequest} :
    IsLost (requests ++ [request]) ↔
      IsLost requests ∧ request ≠ .open (.ok ()) ∨
        ∃ events settled fault, request = .receive events settled ∧
          (follow {} requests).isOpen = true ∧ (pick events).1 = .lost fault := by
  constructor
  · rintro ⟨pre, events, settled, post, fault, h, hopen, hlost, hpost⟩
    obtain ⟨rfl, rfl, -⟩ | ⟨post, rfl, rfl⟩ := split_concat h
    · exact .inr ⟨events, settled, fault, rfl, hopen, hlost⟩
    · rw [List.forall_mem_append, List.forall_mem_singleton] at hpost
      exact .inl ⟨⟨pre, events, settled, post, fault, rfl, hopen, hlost, hpost.1⟩, hpost.2⟩
  · rintro (⟨⟨pre, events, settled, post, fault, rfl, hopen, hlost, hpost⟩, hne⟩ |
      ⟨events, settled, fault, rfl, hopen, hlost⟩)
    · refine ⟨pre, events, settled, post ++ [request], fault, ?_, hopen, hlost, ?_⟩
      · rw [List.append_assoc, List.cons_append]
      · rw [List.forall_mem_append, List.forall_mem_singleton]
        exact ⟨hpost, hne⟩
    · exact ⟨requests, events, settled, [], fault, rfl, hopen, hlost, by simp⟩

/-- Waiting for news leaves the link held or released. -/
theorem foldl_isHeld_receive (r : UploadReceiver) (events : List (Except Fault LinkEvent))
    (settled : Except Fault Unit) (held : Bool) :
    (r.uses (.receive events settled)).foldl LinkUse.isHeld held = held := by
  rw [uses]
  split
  · cases (pick events).1 with
    | news n =>
      rw [settles]
      cases settleCall n <;> rfl
    | skip | lost => rfl
  · rfl

/-- A receiver stays open while it waits unless it finds the link lost. -/
theorem isOpen_receive_iff (r : UploadReceiver) (events : List (Except Fault LinkEvent))
    (settled : Except Fault Unit) :
    (r.next (.receive events settled)).isOpen = true ↔
      r.isOpen = true ∧ ∀ fault, (pick events).1 ≠ .lost fault := by
  cases hopen : r.isOpen <;> cases hpick : (pick events).1 <;> simp [next, after, hopen, hpick]

/-- A receiver whose link is lost takes it for released. -/
theorem isOpen_of_isLost {requests : List ReceiverRequest} (h : IsLost requests) :
    (follow {} requests).isOpen = false := by
  induction requests using List.reverseRecOn with
  | nil => exact absurd h not_isLost_nil
  | append_singleton requests request ih =>
    rw [follow_concat]
    obtain ⟨hlost, hne⟩ | ⟨events, settled, fault, rfl, -, hfound⟩ := isLost_concat_iff.1 h
    · have hclosed := ih hlost
      cases request with
      | «open» connected =>
        cases connected with
        | ok => exact absurd rfl hne
        | error fault => simp [next, opened, hclosed]
      | receive events settled => simp [next, hclosed]
      | close released => simp [next, closed, hclosed]
    · rw [Bool.eq_false_iff, ne_eq, isOpen_receive_iff]
      exact fun hopen => hopen.2 fault hfound

/-- **When the link is held**: while the receiver is open, and while the link is lost. -/
theorem areHeld_record_iff (requests : List ReceiverRequest) :
    LinkUse.areHeld (record {} requests) = true ↔
      (follow {} requests).isOpen = true ∨ IsLost requests := by
  induction requests using List.reverseRecOn with
  | nil => simp [record_nil, follow, LinkUse.areHeld, not_isLost_nil]
  | append_singleton requests request ih =>
    rw [record_concat, follow_concat, LinkUse.areHeld_append, isLost_concat_iff]
    have hclosed : IsLost requests → (follow {} requests).isOpen = false := isOpen_of_isLost
    generalize follow {} requests = r at ih hclosed ⊢
    cases request with
    | «open» connected =>
      cases hopen : r.isOpen <;> cases connected <;>
        simp_all [uses, openCall, next, opened, LinkUse.isHeld]
    | receive events settled =>
      rw [foldl_isHeld_receive, isOpen_receive_iff, ih]
      constructor
      · rintro (hopen | hlost)
        · by_cases hfound : ∃ fault, (pick events).1 = .lost fault
          · obtain ⟨fault, hfound⟩ := hfound
            exact .inr (.inr ⟨events, settled, fault, rfl, hopen, hfound⟩)
          · exact .inl ⟨hopen, fun fault h => hfound ⟨fault, h⟩⟩
        · exact .inr (.inl ⟨hlost, by rintro ⟨⟩⟩)
      · rintro (⟨hopen, -⟩ | ⟨hlost, -⟩ | ⟨-, -, -, -, hopen, -⟩)
        · exact .inl hopen
        · exact .inr hlost
        · exact .inl hopen
    | close released =>
      cases hopen : r.isOpen <;>
        simp_all [uses, closeCall, next, closed, LinkUse.isHeld]

/-! ## Releasing the link -/

/-- **A receiver releases its link** on requests: it connects no link that is held, and once it was
closed, whatever came before, the link is not held. -/
structure ReleasesLink (requests : List ReceiverRequest) : Prop where
  /-- Only a link that is not held is connected. -/
  connects : ∀ pre result post, record {} requests = pre ++ .connect result :: post →
    LinkUse.areHeld pre = false
  /-- After closing the link is not held. -/
  closes : ∀ pre released post, requests = pre ++ .close released :: post →
    LinkUse.areHeld (record {} (pre ++ [.close released])) = false

/-- A receiver connects its link when it is opened and was not open. -/
theorem uses_eq_connect {r : UploadReceiver} {request : ReceiverRequest}
    {result : Except Fault Unit} {earlier later : List LinkUse}
    (h : r.uses request = earlier ++ .connect result :: later) :
    request = .open result ∧ r.isOpen = false ∧ earlier = [] := by
  cases request with
  | «open» connected =>
    cases hopen : r.isOpen with
    | false =>
      have hsingle : [LinkUse.connect connected] = earlier ++ .connect result :: later := by
        simpa [uses, openCall, hopen] using h
      obtain ⟨rfl, heq⟩ | ⟨_, -, hnil⟩ := List.cons_eq_append_iff.1 hsingle
      · obtain ⟨⟨rfl⟩, -⟩ := List.cons.inj heq
        exact ⟨rfl, rfl, rfl⟩
      · simp at hnil
    | true => simp [uses, openCall, hopen] at h
  | receive events settled =>
    -- Waiting settles at most.
    have hmem : LinkUse.connect result ∈ r.uses (.receive events settled) := by
      rw [h]
      simp
    rw [uses] at hmem
    split at hmem
    · cases hpick : (pick events).1 <;> simp [settles, hpick] at hmem
    · cases hmem
  | close released =>
    have hmem : LinkUse.connect result ∈ r.uses (.close released) := by
      rw [h]
      simp
    rw [uses] at hmem
    split at hmem <;> simp at hmem

/-- A receiver that was closed is not open. -/
theorem isOpen_close (r : UploadReceiver) (released : Except Fault Unit) :
    (r.next (.close released)).isOpen = false := by
  cases hopen : r.isOpen <;> simp [next, closed, hopen]

/-- **A receiver releases its link exactly if it is neither opened nor closed while the link is
lost**: then opening connects a link that is held, and closing leaves it held. -/
theorem releasesLink_iff (requests : List ReceiverRequest) :
    ReleasesLink requests ↔
      ∀ pre request post, requests = pre ++ request :: post → IsLost pre →
        request.isWait = true := by
  constructor
  · intro h pre request post hsplit hlost
    have hheld := (areHeld_record_iff pre).2 (.inr hlost)
    have hclosed := isOpen_of_isLost hlost
    cases request with
    | receive events settled => rfl
    | «open» connected =>
      -- The link is connected again without having been closed.
      have hrecord : record {} requests = record {} pre ++ .connect connected ::
          ((follow {} pre).next (.open connected)).record post := by
        rw [hsplit, record_append, record_cons, uses, openCall, hclosed]
        rfl
      rw [h.connects _ _ _ hrecord] at hheld
      cases hheld
    | close released =>
      -- The receiver has nothing to close.
      have hreleased := h.closes pre released post hsplit
      rw [record_concat, uses, closeCall, hclosed] at hreleased
      simp [hheld] at hreleased
  · intro h
    constructor
    · intro pre result post hrecord
      obtain ⟨before, request, after, earlier, later, hsplit, huses, rfl⟩ := record_split hrecord
      obtain ⟨rfl, hclosed, rfl⟩ := uses_eq_connect huses
      rw [List.append_nil, Bool.eq_false_iff, ne_eq, areHeld_record_iff, hclosed]
      rintro (hopen | hlost)
      · cases hopen
      · cases h before _ after hsplit hlost
    · intro pre released post hsplit
      rw [Bool.eq_false_iff, ne_eq, areHeld_record_iff, follow_concat, isLost_concat_iff]
      rintro (hopen | ⟨hlost, -⟩ | ⟨_, _, _, ⟨⟩, -⟩)
      · rw [isOpen_close] at hopen
        cases hopen
      · cases h pre _ post hsplit hlost

/-- Not every receiver releases its link: one that was opened and finds its link lost has nothing to
close any more, so the link stays held. -/
theorem not_releasesLink_of_loss : ¬∀ requests, ReleasesLink requests := by
  intro h
  have hreleased := (h [.open (.ok ()),
      .receive [.ok (.disconnected (.link .reset "bye"))] (.ok ()), .close (.ok ())]).closes
    [.open (.ok ()), .receive [.ok (.disconnected (.link .reset "bye"))] (.ok ())] (.ok ()) [] rfl
  cases hreleased

end UploadReceiver

end HubLink
