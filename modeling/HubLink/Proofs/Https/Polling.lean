import HubLink.Collection.Transcript
import HubLink.Https.Poller
import HubLink.Proxy
import Mathlib.Data.List.Basic

/-! # What a poller reports

What a poller does round after round, whatever the hub has in store for it. A poll that fails for
good is reported and ends the polling, and after any other failure a connection is opened before the
next poll. A connection that cannot be opened for good is not told from one that cannot be opened
for now: nothing is reported and the poller goes on. So the poller surfaces every failure exactly if
no connection of its fails to open for good (`Poller.surfaces_trace_iff`), which a proxy that asks
for credentials makes it do. -/

namespace HubLink.Https

namespace PollAct

/-- The failure that an act ended with. -/
def failure? : PollAct → Option Fault
  | .open (.error fault) | .poll (.error fault) => some fault
  | .open (.ok ()) | .poll (.ok _) | .await | .report _ => none

/-- The event that is to be reported because of an act: the message fetched, or a failure for good.
-/
def owed? : PollAct → Option LinkEvent
  | .poll (.ok (some n)) => some (.notification n)
  | .open (.error fault) | .poll (.error fault) =>
    if fault.isTransient then none else some (.disconnected fault)
  | .open (.ok ()) | .poll (.ok none) | .await | .report _ => none

/-- The event that an act reports. -/
def event? : PollAct → Option LinkEvent
  | .report event => some event
  | .await | .open _ | .poll _ => none

end PollAct

/-- **A poller surfaces its failures** in what it did. -/
structure Surfaces (acts : List PollAct) : Prop where
  /-- It reports the messages fetched and the failures for good, in order and each once. -/
  reported : acts.filterMap PollAct.event? = acts.filterMap PollAct.owed?
  /-- After a failure for good it reports that and stops. -/
  stops : ∀ pre act post fault, acts = pre ++ act :: post → act.failure? = some fault →
    fault.isTransient = false → post = [.report (.disconnected fault)]
  /-- After a failure that may pass it opens a connection before it polls. -/
  renews : ∀ pre act post fault, acts = pre ++ act :: post → act.failure? = some fault →
    fault.isTransient = true →
      ∀ mid result rest, post = mid ++ .poll result :: rest → .open (.ok ()) ∈ mid
  /-- After a message, which it reports, it polls again at once. -/
  hurries : ∀ pre n post, acts = pre ++ .poll (.ok (some n)) :: post →
    post = [.report (.notification n)] ∨
      ∃ result rest, post = .report (.notification n) :: .poll result :: rest

namespace Poller

/-- What a poller does in rounds. -/
def trace (p : Poller) (rounds : List PollRound) : List PollAct := transcript next acts p rounds

/-- How rounds end. -/
def outcomes (p : Poller) (rounds : List PollRound) : List PollOutcome :=
  transcript next (fun p round => [p.outcome round]) p rounds

theorem trace_nil (p : Poller) : p.trace [] = [] := rfl

theorem trace_cons (p : Poller) (round : PollRound) (rounds : List PollRound) :
    p.trace (round :: rounds) = p.acts round ++ (p.next round).trace rounds := rfl

/-! ## A round -/

/-- A stopped poller does nothing. -/
theorem acts_of_stopped {p : Poller} (h : p.isStopped = true) (round : PollRound) :
    p.acts round = [] := by
  rw [acts, if_pos h]

theorem next_of_stopped {p : Poller} (h : p.isStopped = true) (round : PollRound) :
    p.next round = p := by
  simp [next, step, h]

/-- How far a poller came in a round that it began. -/
inductive Course (p : Poller) (round : PollRound) : Prop where
  /-- It could not open a connection. -/
  | unopened (fault : Fault) (connected : p.isConnected = false)
      (acts_eq : p.acts round =
        (if p.isEager then [] else [.await]) ++ [.open (.error fault)])
      (next_eq : p.next round = { p with isEager := false })
  /-- It polled, on a connection opened before if it had none. -/
  | polled (way : List PollAct) (mem_way : ∀ act ∈ way, act = .await ∨ act = .open (.ok ()))
      (opened : p.isConnected = false → .open (.ok ()) ∈ way)
      (acts_eq : p.acts round =
        way ++ .poll round.polling :: (p.step (.polled round.polling)).2.map .report)
      (next_eq : p.next round = (p.step (.polled round.polling)).1)

theorem course_of_running {p : Poller} (h : p.isStopped = false) (round : PollRound) :
    p.Course round := by
  cases hconnected : p.isConnected with
  | true =>
    refine .polled (if p.isEager then [] else [.await]) ?_ ?_ ?_ ?_
    · split <;> simp
    · simp [hconnected]
    · simp [acts, h, approach, outcome, hconnected, PollOutcome.polls]
    · simp [next, outcome, hconnected]
  | false =>
    cases hopening : round.opening with
    | ok =>
      refine .polled ((if p.isEager then [] else [.await]) ++ [.open (.ok ())]) ?_ ?_ ?_ ?_
      · split <;> simp
      · simp
      · simp [acts, h, approach, outcome, hconnected, hopening, PollOutcome.polls]
      · simp [next, outcome, hconnected, hopening]
    | error fault =>
      refine .unopened fault hconnected ?_ ?_
      · simp [acts, h, approach, outcome, hconnected, hopening, PollOutcome.polls, step]
      · simp [next, outcome, hconnected, hopening, step, h]

theorem isStopped_of_mem {p : Poller} {round : PollRound} {act : PollAct}
    (h : act ∈ p.acts round) : p.isStopped = false := by
  rw [Bool.eq_false_iff]
  intro hstopped
  rw [acts_of_stopped hstopped] at h
  cases h

/-- **After a poll** nothing follows in its round but what it has the poller report. -/
theorem later_of_poll {p : Poller} {round : PollRound} {earlier later : List PollAct}
    {result : Except Fault (Option Notification)}
    (h : p.acts round = earlier ++ .poll result :: later) :
    p.isStopped = false ∧ later = (p.step (.polled result)).2.map .report ∧
      p.next round = (p.step (.polled result)).1 := by
  have hmem : .poll result ∈ p.acts round := by simp [h]
  have hrunning := isStopped_of_mem hmem
  obtain ⟨fault, -, hacts, -⟩ | ⟨way, hway, -, hacts, hnext⟩ := course_of_running hrunning round
  · rw [hacts] at hmem
    split at hmem <;> simp at hmem
  · rw [hacts] at h
    have hnot : .poll result ∉ way := by
      intro hmem
      obtain ⟨⟨⟩⟩ | ⟨⟨⟩⟩ := hway _ hmem
    obtain ⟨mid, -, h⟩ := split_append_of_notMem h hnot
    obtain ⟨-, hhead⟩ | ⟨mid, -, hreports⟩ := List.cons_eq_append_iff.1 h
    · obtain ⟨⟨⟩, rfl⟩ := List.cons.inj hhead
      exact ⟨hrunning, rfl, hnext⟩
    · -- Behind the poll there are reports only.
      have hreport : .poll result ∈ (p.step (.polled round.polling)).2.map PollAct.report := by
        simp [hreports]
      simp at hreport

/-- **After a failure to open a connection** nothing follows in its round, and the poller goes on.
-/
theorem later_of_unopened {p : Poller} {round : PollRound} {earlier later : List PollAct}
    {fault : Fault} (h : p.acts round = earlier ++ .open (.error fault) :: later) :
    later = [] ∧ (p.next round).isConnected = false ∧ (p.next round).isEager = false := by
  have hmem : .open (.error fault) ∈ p.acts round := by simp [h]
  have hrunning := isStopped_of_mem hmem
  obtain ⟨fault', hconnected, hacts, hnext⟩ | ⟨way, hway, -, hacts, -⟩ :=
    course_of_running hrunning round
  · rw [hacts] at h
    obtain ⟨mid, -, h⟩ := split_append_of_notMem h (by split <;> simp)
    obtain ⟨-, hhead⟩ | ⟨mid, -, hnil⟩ := List.cons_eq_append_iff.1 h
    · obtain ⟨-, rfl⟩ := List.cons.inj hhead
      exact ⟨rfl, by rw [hnext, hconnected], by rw [hnext]⟩
    · simp at hnil
  · rw [hacts, List.mem_append, List.mem_cons] at hmem
    obtain hmem | ⟨⟨⟩⟩ | hmem := hmem
    · obtain ⟨⟨⟩⟩ | ⟨⟨⟩⟩ := hway _ hmem
    · simp at hmem

/-- In a round that opens no connection in vain for good, what is owed is reported. -/
theorem reported_acts {p : Poller} {round : PollRound}
    (hopen : ∀ fault, .open (.error fault) ∈ p.acts round → fault.isTransient = true) :
    (p.acts round).filterMap PollAct.event? = (p.acts round).filterMap PollAct.owed? := by
  cases hstopped : p.isStopped with
  | true => rw [acts_of_stopped hstopped, List.filterMap_nil, List.filterMap_nil]
  | false =>
    obtain ⟨fault, -, hacts, -⟩ | ⟨way, hway, -, hacts, -⟩ := course_of_running hstopped round
    · have htransient := hopen fault (by simp [hacts])
      rw [hacts]
      split <;> simp [List.filterMap_cons, PollAct.event?, PollAct.owed?, htransient]
    · have hevents : way.filterMap PollAct.event? = [] := by
        rw [List.filterMap_eq_nil_iff]
        intro act hact
        obtain rfl | rfl := hway act hact <;> rfl
      have howed : way.filterMap PollAct.owed? = [] := by
        rw [List.filterMap_eq_nil_iff]
        intro act hact
        obtain rfl | rfl := hway act hact <;> rfl
      rw [hacts, List.filterMap_append, List.filterMap_append, hevents, howed]
      match round.polling with
      | .ok none | .ok (some _) =>
        simp [List.filterMap_cons, step, hstopped, PollAct.event?, PollAct.owed?]
      | .error fault =>
        cases htransient : fault.isTransient <;>
          simp [List.filterMap_cons, step, hstopped, htransient, PollAct.event?, PollAct.owed?]

/-! ## Round after round -/

/-- A stopped poller does nothing any more. -/
theorem trace_of_stopped {p : Poller} (h : p.isStopped = true) (rounds : List PollRound) :
    p.trace rounds = [] := by
  induction rounds with
  | nil => rfl
  | cons round rounds ih =>
    rw [trace_cons, acts_of_stopped h, next_of_stopped h, ih]
    rfl

/-- **A poller reports what its rounds have it report.** -/
theorem filterMap_event?_trace (p : Poller) (rounds : List PollRound) :
    (p.trace rounds).filterMap PollAct.event? = (p.run (p.outcomes rounds)).2 := by
  induction rounds generalizing p with
  | nil => rfl
  | cons round rounds ih =>
    have hevents : (p.acts round).filterMap PollAct.event? = (p.step (p.outcome round)).2 := by
      cases hstopped : p.isStopped with
      | true => simp [acts_of_stopped hstopped, step, hstopped]
      | false =>
        have hway : (p.approach round).filterMap PollAct.event? = [] := by
          cases hconnected : p.isConnected <;> cases heager : p.isEager <;>
            simp [List.filterMap_cons, approach, hconnected, heager, PollAct.event?]
        have hpoll : (p.outcome round).polls.filterMap PollAct.event? = [] := by
          cases p.outcome round <;> rfl
        rw [acts, if_neg (by simp [hstopped]), List.filterMap_append, List.filterMap_append, hway,
          hpoll, List.filterMap_map, List.nil_append, List.nil_append]
        exact List.filterMap_some
    rw [trace_cons, List.filterMap_append, ih, hevents]
    rfl

/-- A poller without a connection opens one before it polls. -/
theorem opened_of_poll {p : Poller} {rounds : List PollRound} {mid rest : List PollAct}
    {result : Except Fault (Option Notification)} (h : p.isConnected = false)
    (htrace : p.trace rounds = mid ++ .poll result :: rest) : .open (.ok ()) ∈ mid := by
  induction rounds generalizing p mid with
  | nil => simp [trace_nil] at htrace
  | cons round rounds ih =>
    cases hstopped : p.isStopped with
    | true => simp [trace_of_stopped hstopped] at htrace
    | false =>
      rw [trace_cons] at htrace
      obtain ⟨fault, -, hacts, hnext⟩ | ⟨way, hway, hopened, hacts, -⟩ :=
        course_of_running hstopped round
      · -- The next round has no connection either.
        obtain ⟨mid', rfl, hrest⟩ := split_append_of_notMem htrace (by
          rw [hacts]
          split <;> simp)
        exact List.mem_append_right _ (ih (by rw [hnext, h]) hrest)
      · rw [hacts, List.append_assoc] at htrace
        obtain ⟨mid', rfl, -⟩ := split_append_of_notMem htrace (by
          intro hmem
          obtain ⟨⟨⟩⟩ | ⟨⟨⟩⟩ := hway _ hmem)
        exact List.mem_append_left _ (hopened h)

/-- A poller that opens no connection in vain for good reports what is owed. -/
theorem reported_trace {p : Poller} {rounds : List PollRound}
    (hopen : ∀ fault, .open (.error fault) ∈ p.trace rounds → fault.isTransient = true) :
    (p.trace rounds).filterMap PollAct.event? = (p.trace rounds).filterMap PollAct.owed? := by
  induction rounds generalizing p with
  | nil => rfl
  | cons round rounds ih =>
    rw [trace_cons] at hopen ⊢
    rw [List.filterMap_append, List.filterMap_append,
      reported_acts fun fault hmem => hopen fault (List.mem_append_left _ hmem),
      ih fun fault hmem => hopen fault (List.mem_append_right _ hmem)]

/-- **After a failure that may pass** a poller opens a connection before it polls. -/
theorem renews_trace {p : Poller} {rounds : List PollRound} {act : PollAct} {fault : Fault}
    {pre post : List PollAct} (h : p.trace rounds = pre ++ act :: post)
    (hfailure : act.failure? = some fault) (htransient : fault.isTransient = true)
    {mid rest : List PollAct} {result : Except Fault (Option Notification)}
    (hpost : post = mid ++ .poll result :: rest) : .open (.ok ()) ∈ mid := by
  obtain ⟨before, round, after, earlier, later, -, hacts, -, rfl⟩ := transcript_split h
  have hlater : later = [] ∧ ((before.foldl next p).next round).isConnected = false := by
    match act, hfailure with
    | .open (.error fault'), _ =>
      obtain ⟨hlater, hconnected, -⟩ := later_of_unopened hacts
      exact ⟨hlater, hconnected⟩
    | .poll (.error fault'), hfailure =>
      obtain rfl := Option.some.inj hfailure
      obtain ⟨hrunning, hlater, hnext⟩ := later_of_poll hacts
      simp [hlater, hnext, step, hrunning, htransient]
  obtain ⟨rfl, hconnected⟩ := hlater
  exact opened_of_poll hconnected hpost

/-- **After a poll that fails for good** a poller reports that and stops. -/
theorem stops_trace {p : Poller} {rounds : List PollRound} {fault : Fault}
    {pre post : List PollAct} (h : p.trace rounds = pre ++ .poll (.error fault) :: post)
    (hlasting : fault.isTransient = false) : post = [.report (.disconnected fault)] := by
  obtain ⟨before, round, after, earlier, later, -, hacts, -, rfl⟩ := transcript_split h
  obtain ⟨hrunning, hlater, hnext⟩ := later_of_poll hacts
  have hstopped : ((before.foldl next p).next round).isStopped = true := by
    simp [hnext, step, hrunning, hlasting]
  have htrace := trace_of_stopped hstopped after
  rw [trace] at htrace
  rw [htrace, hlater]
  simp [step, hrunning, hlasting]

/-- **After a message** a poller reports it and polls again at once. -/
theorem hurries_trace {p : Poller} {rounds : List PollRound} {n : Notification}
    {pre post : List PollAct} (h : p.trace rounds = pre ++ .poll (.ok (some n)) :: post) :
    post = [.report (.notification n)] ∨
      ∃ result rest, post = .report (.notification n) :: .poll result :: rest := by
  obtain ⟨before, round, after, earlier, later, -, hacts, -, rfl⟩ := transcript_split h
  obtain ⟨hrunning, hlater, hnext⟩ := later_of_poll hacts
  rw [hlater, hnext]
  cases after with
  | nil => exact .inl (by simp [step, hrunning, transcript])
  | cons round' after =>
    right
    simp [step, hrunning, transcript, acts, approach, outcome, PollOutcome.polls]

/-- Opening a connection in vain does not stop a poller: it does nothing more or waits. -/
theorem waits_of_unopened {p : Poller} {rounds : List PollRound} {fault : Fault}
    {pre post : List PollAct} (h : p.trace rounds = pre ++ .open (.error fault) :: post) :
    post = [] ∨ post.head? = some .await := by
  obtain ⟨before, round, after, earlier, later, -, hacts, -, rfl⟩ := transcript_split h
  obtain ⟨rfl, -, heager⟩ := later_of_unopened hacts
  generalize (before.foldl next p).next round = p' at heager ⊢
  cases after with
  | nil => exact .inl rfl
  | cons round' after =>
    cases hstopped : p'.isStopped with
    | true => exact .inl (trace_of_stopped hstopped _)
    | false => exact .inr (by simp [transcript, acts, hstopped, approach, heager])

/-- **A poller surfaces its failures exactly if no connection of its fails to open for good**: such
a failure neither is reported nor ends the polling. -/
theorem surfaces_trace_iff (rounds : List PollRound) :
    Surfaces (trace {} rounds) ↔
      ∀ fault, .open (.error fault) ∈ trace {} rounds → fault.isTransient = true := by
  constructor
  · intro h fault hmem
    obtain ⟨pre, post, hsplit⟩ := List.append_of_mem hmem
    by_contra hlasting
    have hpost := h.stops pre _ post fault hsplit rfl (by simpa using hlasting)
    obtain hnil | hhead := waits_of_unopened hsplit
    · simp [hpost] at hnil
    · simp [hpost] at hhead
  · intro hopen
    refine ⟨reported_trace hopen, ?_, ?_, ?_⟩
    · intro pre act post fault hsplit hfailure hlasting
      match act, hfailure with
      | .open (.error fault'), hfailure =>
        obtain rfl := Option.some.inj hfailure
        rw [hopen fault' (by simp [hsplit])] at hlasting
        cases hlasting
      | .poll (.error fault'), hfailure =>
        obtain rfl := Option.some.inj hfailure
        exact stops_trace hsplit hlasting
    · intro pre act post fault hsplit hfailure htransient mid result rest hpost
      exact renews_trace hsplit hfailure htransient hpost
    · intro pre n post hsplit
      exact hurries_trace hsplit

/-- The answer of a proxy that asks for credentials. -/
def credentialsWanted : List UInt8 :=
  "HTTP/1.1 407 Proxy Authentication Required\r\n\r\n".toUTF8.toList

theorem tunnel_credentialsWanted :
    Proxy.tunnel [credentialsWanted] =
      .error (.service 407 "proxy authentication required" none) := by
  decide +kernel

/-- Not every poller surfaces its failures: one whose proxy asks for credentials gets no connection
and never will, but reports nothing and goes on. -/
theorem not_surfaces_of_refusing_proxy : ¬∀ rounds, Surfaces (trace {} rounds) := by
  intro h
  have hsurfaces := h [⟨Proxy.tunnel [credentialsWanted], .ok none⟩]
  rw [tunnel_credentialsWanted] at hsurfaces
  have hpost := hsurfaces.stops [.await]
    (.open (.error (.service 407 "proxy authentication required" none))) [] _ rfl rfl (by decide)
  cases hpost

end Poller

end HubLink.Https
