import HubLink.Bench.Receiver

/-! # What a receiver makes of events

An upload receiver that waits for news goes through the events of its link until one matters: the
news of an upload, or the loss of the link. What came before is skipped and what comes after is left
for later (`UploadReceiver.pick_eq_iff`). News is settled by its own tag, completed if it can be
read and rejected otherwise, and it is given to the caller exactly if it can be read and nothing went
wrong with settling it (`Bench.ReceiverBench.receives_of_open`). -/

namespace HubLink

namespace UploadReceiver

variable {e e' : Except Fault LinkEvent} {events rest : List (Except Fault LinkEvent)}

/-! ## The event that decides -/

/-- An event matters to a receiver if it is the news of an upload or the loss of the link. -/
def Matters : Except Fault LinkEvent → Prop
  | .ok (.notification n) => n.kind = .upload
  | .ok (.disconnected _) | .error _ => True
  | .ok (.acknowledged ..) | .ok (.rejected ..) => False

/-- An event is the first one that matters, and others come after it. -/
def IsFirst (events : List (Except Fault LinkEvent)) (e : Except Fault LinkEvent)
    (rest : List (Except Fault LinkEvent)) : Prop :=
  ∃ skipped, events = skipped ++ e :: rest ∧ (∀ s ∈ skipped, ¬Matters s) ∧ Matters e

theorem judge_eq_skip_iff : judge e = .skip ↔ ¬Matters e := by
  unfold judge Matters
  split <;> simp

theorem judge_eq_news_iff {n : Notification} :
    judge e = .news n ↔ e = .ok (.notification n) ∧ Matters e := by
  unfold judge Matters
  split
  · split
    · rename_i hkind
      simp only [Verdict.news.injEq, Except.ok.injEq, LinkEvent.notification.injEq, hkind, and_true]
    · rename_i hkind
      simp [hkind]
  all_goals simp

theorem judge_eq_lost_iff {fault : Fault} :
    judge e = .lost fault ↔ e = .ok (.disconnected fault) ∨ e = .error fault := by
  unfold judge
  split
  · split <;> simp
  all_goals simp

theorem IsFirst.matters (h : IsFirst events e rest) : Matters e := by
  obtain ⟨-, -, -, hmatters⟩ := h
  exact hmatters

theorem not_isFirst_nil : ¬IsFirst [] e rest := by
  rintro ⟨skipped, h, -⟩
  simp at h

/-- The first event decides, or it is skipped. -/
theorem isFirst_cons_iff :
    IsFirst (e' :: events) e rest ↔
      Matters e' ∧ e' = e ∧ events = rest ∨ ¬Matters e' ∧ IsFirst events e rest := by
  constructor
  · rintro ⟨skipped, h, hskipped, he⟩
    rcases List.cons_eq_append_iff.1 h with ⟨rfl, heq⟩ | ⟨skipped, rfl, rfl⟩
    · obtain ⟨rfl, rfl⟩ := List.cons.inj heq
      exact .inl ⟨he, rfl, rfl⟩
    · rw [List.forall_mem_cons] at hskipped
      exact .inr ⟨hskipped.1, skipped, rfl, hskipped.2, he⟩
  · rintro (⟨he, rfl, rfl⟩ | ⟨he', skipped, rfl, hskipped, he⟩)
    · exact ⟨[], rfl, by simp, he⟩
    · exact ⟨e' :: skipped, rfl, List.forall_mem_cons.2 ⟨he', hskipped⟩, he⟩

theorem pick_cons_of_matters (h : Matters e) : pick (e :: events) = (judge e, events) := by
  rw [pick]
  split
  · rename_i hskip
    exact absurd h (judge_eq_skip_iff.1 hskip)
  · rfl

theorem pick_cons_of_not_matters (h : ¬Matters e) : pick (e :: events) = pick events := by
  rw [pick, judge_eq_skip_iff.2 h]

/-- **Nothing is picked exactly if nothing matters.** -/
theorem pick_eq_skip_iff : (pick events).1 = .skip ↔ ∀ e ∈ events, ¬Matters e := by
  induction events with
  | nil => simp [pick]
  | cons e events ih =>
    rw [List.forall_mem_cons]
    by_cases h : Matters e
    · rw [pick_cons_of_matters h, judge_eq_skip_iff]
      simp [h]
    · rw [pick_cons_of_not_matters h, ih]
      simp [h]

/-- **What is picked is the first event that matters**, and the events after it are left. -/
theorem pick_eq_iff {verdict : Verdict} (hne : verdict ≠ .skip) :
    pick events = (verdict, rest) ↔ ∃ e, IsFirst events e rest ∧ judge e = verdict := by
  induction events with
  | nil =>
    simp only [pick, not_isFirst_nil, false_and, exists_false, iff_false, Prod.mk.injEq, not_and]
    exact fun h => absurd h.symm hne
  | cons e' events ih =>
    simp only [isFirst_cons_iff]
    by_cases h : Matters e'
    · rw [pick_cons_of_matters h, Prod.mk.injEq]
      constructor
      · rintro ⟨hjudge, hrest⟩
        exact ⟨e', .inl ⟨h, rfl, hrest⟩, hjudge⟩
      · rintro ⟨e, ⟨-, rfl, hrest⟩ | ⟨hnot, -⟩, hjudge⟩
        · exact ⟨hjudge, hrest⟩
        · exact absurd h hnot
    · rw [pick_cons_of_not_matters h, ih]
      simp [h]

theorem pick_of_isFirst (h : IsFirst events e rest) : pick events = (judge e, rest) :=
  (pick_eq_iff fun hskip => judge_eq_skip_iff.1 hskip h.matters).2 ⟨e, h, rfl⟩

/-- What is left after picking comes after the event that decides. -/
theorem IsFirst.eq_of_pick (h : IsFirst events e rest) {verdict : Verdict}
    {left : List (Except Fault LinkEvent)} (hpick : pick events = (verdict, left)) :
    left = rest := by
  rw [pick_of_isFirst h] at hpick
  exact (Prod.mk.inj hpick).2.symm

theorem pick_eq_news_iff {n : Notification} :
    pick events = (.news n, rest) ↔ IsFirst events (.ok (.notification n)) rest := by
  rw [pick_eq_iff (by simp)]
  constructor
  · rintro ⟨e, h, he⟩
    obtain ⟨rfl, -⟩ := judge_eq_news_iff.1 he
    exact h
  · exact fun h => ⟨_, h, judge_eq_news_iff.2 ⟨rfl, h.matters⟩⟩

theorem pick_eq_lost_iff {fault : Fault} :
    pick events = (.lost fault, rest) ↔
      IsFirst events (.ok (.disconnected fault)) rest ∨ IsFirst events (.error fault) rest := by
  rw [pick_eq_iff (by simp)]
  simp only [judge_eq_lost_iff]
  constructor
  · rintro ⟨e, h, rfl | rfl⟩
    · exact .inl h
    · exact .inr h
  · rintro (h | h)
    · exact ⟨_, h, .inl rfl⟩
    · exact ⟨_, h, .inr rfl⟩

/-! ## News -/

/-- **News is given to the caller exactly if it can be read** and settling it did not fail, where it
can be settled. -/
theorem accept_eq_ok_iff {n : Notification} {settled : Except Fault Unit}
    {complaint : List UInt8 → String} {news : UploadNotification} :
    accept n settled complaint = .ok news ↔
      UploadNotification.parse? n.message.body = some news ∧ (n.tag = none ∨ settled = .ok ()) := by
  unfold accept
  cases n.tag with
  | none => simp
  | some tag => cases settled <;> simp [Except.bind]

end UploadReceiver

namespace Bench.ReceiverBench

open UploadReceiver

variable (b : ReceiverBench)

/-- What settling a piece of news leads to next. -/
def answer : Except Fault Unit := b.link.settles.headD (.ok ())

/-- A piece of news is settled by its own tag, if it has one, and nothing else changes. -/
theorem accept_eq (n : Notification) :
    (b.accept n).2 = UploadReceiver.accept n b.answer b.complaint ∧
      (b.accept n).1.receiver = b.receiver ∧ (b.accept n).1.now = b.now ∧
      (b.accept n).1.link.events = b.link.events ∧
      (b.accept n).1.link.calls = b.link.calls ++
        ((settleCall n).map fun call => (b.now, LinkCall.settle call.1 call.2)).toList := by
  unfold ReceiverBench.accept settleCall UploadReceiver.accept
  cases n.tag <;>
    simp [answer, ScriptedLink.settle, ScriptedLink.pop, ScriptedLink.record]

/-! ## Waiting -/

/-- The bench when the link has given out its events up to some that are left. -/
def leave (rest : List (Except Fault LinkEvent)) : ReceiverBench :=
  { b with link := { b.link with events := rest } }

variable {b} {rest : List (Except Fault LinkEvent)} (deadline : Nat)

theorem receiveUntil_of_skip (h : pick b.link.events = (.skip, rest)) :
    b.receiveUntil deadline = ({ b.leave rest with now := deadline }, .ok none) := by
  simp [receiveUntil, h, after, leave]

theorem receiveUntil_of_lost {fault : Fault} (h : pick b.link.events = (.lost fault, rest)) :
    b.receiveUntil deadline = ({ b.leave rest with receiver := {} }, .error fault) := by
  simp [receiveUntil, h, after, leave]

theorem receiveUntil_of_news {n : Notification} (h : pick b.link.events = (.news n, rest)) :
    b.receiveUntil deadline =
      (((b.leave rest).accept n).1, ((b.leave rest).accept n).2.map some) := by
  simp [receiveUntil, h, after, leave]

/-- **What comes of waiting for news** until a deadline: one event decides, at most one piece of
news is settled, and what is returned is what that news says. -/
structure Receives (b : ReceiverBench) (deadline : Nat) (b' : ReceiverBench)
    (result : Except Fault (Option UploadNotification)) : Prop where
  /-- Events before the one that decides are skipped, and those after it are left for later. -/
  leaves : ∀ e rest, IsFirst b.link.events e rest → b'.link.events = rest
  /-- If news decides, it is settled by its own tag, if it has one: completed if it can be read, and
  rejected otherwise. -/
  settles : ∀ n tag rest, IsFirst b.link.events (.ok (.notification n)) rest → n.tag = some tag →
    b'.link.calls = b.link.calls ++
      [(b.now, .settle tag
        (if (UploadNotification.parse? n.message.body).isSome then .complete else .reject))]
  /-- Otherwise nothing is settled. -/
  spares : (∀ n tag rest, IsFirst b.link.events (.ok (.notification n)) rest → n.tag ≠ some tag) →
    b'.link.calls = b.link.calls
  /-- News is returned exactly if it decides, it can be read, and it has no tag or settling it
  succeeded. -/
  returns_iff : ∀ news, result = .ok (some news) ↔
    ∃ n rest, IsFirst b.link.events (.ok (.notification n)) rest ∧
      UploadNotification.parse? n.message.body = some news ∧ (n.tag = none ∨ b.answer = .ok ())
  /-- News that is completed with success is returned. -/
  completes : ∀ tag, b'.link.calls = b.link.calls ++ [(b.now, .settle tag .complete)] →
    b.answer = .ok () →
      ∃ n rest news, IsFirst b.link.events (.ok (.notification n)) rest ∧ n.tag = some tag ∧
        UploadNotification.parse? n.message.body = some news ∧ result = .ok (some news)
  /-- Nothing is returned exactly if nothing matters that arrives by the deadline. -/
  nothing_iff : result = .ok none ↔ ∀ e ∈ b.link.events, ¬Matters e
  /-- Then the deadline is waited for. -/
  waits : result = .ok none → b'.now = deadline
  /-- Otherwise there is no more waiting. -/
  hurries : result ≠ .ok none → b'.now = b.now
  /-- If the loss of the link decides, it is returned. -/
  fails : ∀ fault rest, IsFirst b.link.events (.ok (.disconnected fault)) rest ∨
    IsFirst b.link.events (.error fault) rest → result = .error fault
  /-- The receiver stops being open exactly then. -/
  closes_iff : b'.receiver.isOpen = false ↔ ∃ fault rest,
    IsFirst b.link.events (.ok (.disconnected fault)) rest ∨
      IsFirst b.link.events (.error fault) rest

theorem receives_of_skip (hopen : b.receiver.isOpen = true)
    (h : pick b.link.events = (.skip, rest)) :
    Receives b deadline { b.leave rest with now := deadline } (.ok none) where
  leaves e rest he := he.eq_of_pick h
  settles n tag rest hn := by
    rw [← pick_eq_news_iff, h] at hn
    cases hn
  spares _ := rfl
  returns_iff news := by simp [← pick_eq_news_iff, h]
  completes tag hcalls := by simp [leave] at hcalls
  nothing_iff := by simp [← pick_eq_skip_iff, h]
  waits _ := rfl
  hurries hne := absurd rfl hne
  fails fault rest hlost := by
    rw [← pick_eq_lost_iff, h] at hlost
    cases hlost
  closes_iff := by simp [← pick_eq_lost_iff, h, leave, hopen]

theorem receives_of_lost {fault : Fault} (h : pick b.link.events = (.lost fault, rest)) :
    Receives b deadline { b.leave rest with receiver := {} } (.error fault) where
  leaves e rest he := he.eq_of_pick h
  settles n tag rest hn := by
    rw [← pick_eq_news_iff, h] at hn
    cases hn
  spares _ := rfl
  returns_iff news := by simp [← pick_eq_news_iff, h]
  completes tag hcalls := by simp [leave] at hcalls
  nothing_iff := by simp [← pick_eq_skip_iff, h]
  waits := by simp
  hurries _ := rfl
  fails fault rest hlost := by
    rw [← pick_eq_lost_iff, h] at hlost
    cases hlost
    rfl
  closes_iff := by simp [← pick_eq_lost_iff, h]

theorem receives_of_news (hopen : b.receiver.isOpen = true) {n : Notification}
    (h : pick b.link.events = (.news n, rest)) :
    Receives b deadline ((b.leave rest).accept n).1 (((b.leave rest).accept n).2.map some) := by
  obtain ⟨hresult, hreceiver, hnow, hevents, hcalls⟩ := (b.leave rest).accept_eq n
  have hn : IsFirst b.link.events (.ok (.notification n)) rest := pick_eq_news_iff.1 h
  have hunique {n' : Notification} {rest' : List (Except Fault LinkEvent)}
      (hn' : IsFirst b.link.events (.ok (.notification n')) rest') : n' = n := by
    rw [← pick_eq_news_iff, h] at hn'
    cases hn'
    rfl
  have hreturned (news : UploadNotification) :
      ((b.leave rest).accept n).2.map some = .ok (some news) ↔
        UploadNotification.parse? n.message.body = some news ∧
          (n.tag = none ∨ b.answer = .ok ()) := by
    have hmap : ((b.leave rest).accept n).2.map some = .ok (some news) ↔
        ((b.leave rest).accept n).2 = .ok news := by
      cases ((b.leave rest).accept n).2 <;> simp [Except.map]
    rw [hmap, hresult, accept_eq_ok_iff]
    rfl
  have hsome : ((b.leave rest).accept n).2.map some ≠ .ok none := by
    cases ((b.leave rest).accept n).2 <;> simp [Except.map]
  constructor
  case leaves => exact fun e rest he => hevents.trans (he.eq_of_pick h)
  case settles =>
    intro n' tag rest' hn' htag
    obtain rfl := hunique hn'
    rw [hcalls, settleCall, htag]
    rfl
  case spares =>
    intro hnone
    cases htag : n.tag with
    | none =>
      rw [hcalls, settleCall, htag]
      exact List.append_nil _
    | some tag => exact absurd htag (hnone n tag rest hn)
  case returns_iff =>
    intro news
    rw [hreturned]
    constructor
    · exact fun hread => ⟨n, rest, hn, hread⟩
    · rintro ⟨n', rest', hn', hread⟩
      obtain rfl := hunique hn'
      exact hread
  case completes =>
    intro tag hcompleted hanswer
    rw [hcalls, settleCall] at hcompleted
    have hcall := List.append_cancel_left hcompleted
    cases htag : n.tag with
    | none => simp [htag] at hcall
    | some tag' =>
      -- Only news that can be read is completed.
      cases hparse : UploadNotification.parse? n.message.body with
      | none => simp [htag, hparse] at hcall
      | some news =>
        simp only [htag, hparse, Option.map_some, Option.toList_some, List.cons.injEq,
          Prod.mk.injEq, LinkCall.settle.injEq] at hcall
        obtain ⟨⟨-, rfl, -⟩, -⟩ := hcall
        exact ⟨n, rest, news, hn, htag, hparse, (hreturned news).2 ⟨hparse, .inr hanswer⟩⟩
  case nothing_iff =>
    rw [← pick_eq_skip_iff, h]
    exact iff_of_false hsome nofun
  case waits => exact fun hnone => absurd hnone hsome
  case hurries => exact fun _ => hnow
  case fails =>
    intro fault rest hlost
    rw [← pick_eq_lost_iff, h] at hlost
    cases hlost
  case closes_iff =>
    rw [hreceiver]
    simp [← pick_eq_lost_iff, h, leave, hopen]

/-- Waiting until a deadline, whatever decides. -/
theorem receives_receiveUntil (hopen : b.receiver.isOpen = true) :
    Receives b deadline (b.receiveUntil deadline).1 (b.receiveUntil deadline).2 := by
  match h : pick b.link.events with
  | (.skip, rest) =>
    rw [receiveUntil_of_skip deadline h]
    exact receives_of_skip deadline hopen h
  | (.news n, rest) =>
    rw [receiveUntil_of_news deadline h]
    exact receives_of_news deadline hopen h
  | (.lost fault, rest) =>
    rw [receiveUntil_of_lost deadline h]
    exact receives_of_lost deadline h

/-- **An open receiver that waits for news** ends its wait, by the deadline at the latest, and this
is what comes of it. -/
theorem receives_of_open (b : ReceiverBench) (hopen : b.receiver.isOpen = true) {timeout : Nat}
    (hroom : b.now + timeout ≤ Instant.last) :
    ∃ b' result, b.receive timeout = some (b', result) ∧
      Receives b (b.now + timeout) b' result := by
  have hdeadline : deadline? b.now timeout = some (b.now + timeout) :=
    Instant.after?_eq_some_iff.2 ⟨rfl, hroom⟩
  rw [ReceiverBench.receive, if_pos hopen, hdeadline, Option.map_some]
  exact ⟨(b.receiveUntil _).1, (b.receiveUntil _).2, rfl, receives_receiveUntil _ hopen⟩

end Bench.ReceiverBench

/-! ## News from the pump -/

namespace Pump

/-- The news that the pump uploaded its log. -/
def news : Notification where
  kind := .upload
  message := .ofBody (Text.Utf8.ofString
    ("\x7b\"deviceId\":\"pump\",\"blobUri\":\"u\",\"blobName\":\"pump/log\"," ++
      "\"blobSizeInBytes\":7," ++
      "\"lastUpdatedTime\":\"2026-10-14T08:00:00Z\"," ++
      "\"enqueuedTimeUtc\":\"2026-10-14T08:00:01Z\"\x7d"))
  tag := some ⟨"7"⟩

/-- An open receiver whose link confirms a message that nobody sent, gives out the news and is
lost. -/
def bench : Bench.ReceiverBench where
  receiver := { isOpen := true }
  link := {
    events := [.ok (.acknowledged 3 none), .ok (.notification news),
      .ok (.disconnected (.link .reset "bye"))] }
  complaint _ := "no news of an upload"

/-- The news is completed and returned, and the loss of the link is left for later. -/
theorem receives_bench :
    bench.receiver.isOpen = true ∧ bench.now + Duration.ofSeconds 60 ≤ Instant.last ∧
      ∃ b' n, bench.receive (Duration.ofSeconds 60) = some (b', .ok (some n)) ∧
        b'.receiver.isOpen = true ∧ b'.link.calls = [(0, .settle ⟨"7"⟩ .complete)] ∧
        b'.link.events = [.ok (.disconnected (.link .reset "bye"))] := by
  have hroom : bench.now + Duration.ofSeconds 60 ≤ Instant.last := by decide
  obtain ⟨b', result, hreceive, h⟩ := Bench.ReceiverBench.receives_of_open bench rfl hroom
  have hfirst : UploadReceiver.IsFirst bench.link.events (.ok (.notification news))
      [.ok (.disconnected (.link .reset "bye"))] :=
    ⟨[.ok (.acknowledged 3 none)], rfl, by simp [UploadReceiver.Matters], rfl⟩
  have hread : (UploadNotification.parse? news.message.body).isSome = true := by decide +kernel
  obtain ⟨n, hn⟩ := Option.isSome_iff_exists.1 hread
  obtain rfl := (h.returns_iff n).2 ⟨news, _, hfirst, hn, .inr rfl⟩
  refine ⟨rfl, hroom, b', n, hreceive, ?_, ?_, h.leaves _ _ hfirst⟩
  · rw [← Bool.not_eq_false, h.closes_iff]
    rintro ⟨fault, rest, hlost⟩
    rw [← UploadReceiver.pick_eq_lost_iff, UploadReceiver.pick_eq_news_iff.2 hfirst] at hlost
    cases hlost
  · have hcalls := h.settles news _ _ hfirst rfl
    rwa [hread] at hcalls

end Pump

end HubLink
