import HubLink.Proofs.Mqtt.Confirmation

/-! # Messages in flight

What a link keeps of the messages that wait for a confirmation, whatever is done with it: packet ids
that messages can have, each message under one of them at most, and never more confirmations put
down to a message than it was given packet ids. A confirmation that is put down to a message follows
a handing over of it that was made since the link was last closed (`Link.keepsInFlight_of_uses`).

A message is given its packet id before anything is written, and keeps it if nothing is written
after all. So a confirmation may be put down to a message that was published on an earlier link only
(`Link.not_staysOnLink_of_lapse`), though never if that handing over succeeded. -/

namespace HubLink.Mqtt

/-! ## Packet ids of messages -/

/-- The packet ids that messages can have: none is that of the subscription. -/
theorem packetIdOf_range (n : Nat) :
    1 ≤ packetIdOf n ∧ packetIdOf n ≤ maxPacketId ∧ packetIdOf n ≠ subscribeId := by
  have hlt : n % cycle < cycle := Nat.mod_lt n (by decide)
  simp only [cycle, maxPacketId] at hlt
  unfold packetIdOf subscribeId cycle maxPacketId
  split <;> omega

namespace Mark

/-- Whether a packet id is given to the message of an id. -/
def gives (id : Nat) : Mark → Bool
  | .given _ id' _ => id' = id
  | _ => false

/-- Whether a confirmation is put down to the message of an id. -/
def acknowledges (id : Nat) : Mark → Bool
  | .confirmed _ id? => id? = some id
  | _ => false

end Mark

/-- How many packet ids were given to the message of an id. -/
def givingsOf (id : Nat) (h : List Mark) : Nat := h.countP (·.gives id)

/-- How many confirmations were put down to the message of an id. -/
def acknowledgements (id : Nat) (h : List Mark) : Nat := h.countP (·.acknowledges id)

theorem givingsOf_concat (id : Nat) (h : List Mark) (m : Mark) :
    givingsOf id (h ++ [m]) = givingsOf id h + if m.gives id then 1 else 0 := by
  rw [givingsOf, List.countP_append, List.countP_singleton, givingsOf]

theorem acknowledgements_concat (id : Nat) (h : List Mark) (m : Mark) :
    acknowledgements id (h ++ [m]) =
      acknowledgements id h + if m.acknowledges id then 1 else 0 := by
  rw [acknowledgements, List.countP_append, List.countP_singleton, acknowledgements]

namespace Link

/-! ## One use -/

/-- **What a use does to the messages in flight**, by the mark it leaves. -/
inductive Changes (l l' : Link) : Option Mark → Prop where
  /-- Nothing is in flight on a closed link. -/
  | closed (empty : ∀ packetId, l'.inFlight.get? packetId = none) : Changes l l' (some .closed)
  /-- A message in flight has the packet id it was given last. -/
  | given (id : Nat) (written : Bool) (moved : ∀ packetId, l'.inFlight.get? packetId =
      if packetIdAfter l.lastPacketId = packetId then some id
      else (l.inFlight.get? packetId).filter (· ≠ id)) :
    Changes l l' (some (.given (packetIdAfter l.lastPacketId) id written))
  /-- A packet id that is confirmed is not in flight any more. -/
  | confirmed (packetId : Nat) (gone : ∀ packetId', l'.inFlight.get? packetId' =
      if packetId' = packetId then none else l.inFlight.get? packetId') :
    Changes l l' (some (.confirmed packetId (l.inFlight.get? packetId)))
  /-- Nothing else changes what is in flight. -/
  | nothing (same : l' = l) : Changes l l' none

theorem changes_read (l : Link) (packet : Inbound) :
    Changes l (l.use (.read packet)) (l.mark? (.read packet)) := by
  cases packet with
  | publish | other => exact .nothing rfl
  | confirm packetId =>
    refine .confirmed packetId fun packetId' => ?_
    rw [use, read]
    split
    · rw [SortedMap.get?_erase]
    · -- A packet id that was not in flight is none that is.
      rename_i hnone
      split
      · rename_i heq
        rw [heq, hnone]
      · rfl

theorem changes_send (l : Link) (message : Outbound) (w : Writing) :
    Changes l (l.use (.send message w)) (l.mark? (.send message w)) := by
  cases htopic : l.topicOf message with
  | error fault =>
    rw [mark?, htopic]
    exact .nothing (by rw [use, send, htopic])
  | ok r =>
    obtain ⟨topic, isConfirmed⟩ := r
    rw [use, send_link l message w htopic, mark?, htopic]
    cases isConfirmed with
    | false => exact .nothing rfl
    | true => exact .given message.id _ (l.get?_assign message.id)

theorem changes_use (l : Link) (u : Use) : Changes l (l.use u) (l.mark? u) := by
  cases u with
  | connect now reached =>
    refine .closed fun packetId => ?_
    rw [use, (l.connect_link now reached).1]
    rfl
  | close => exact .closed fun _ => rfl
  | read packet => exact l.changes_read packet
  | send message w => exact l.changes_send message w

/-! ## All uses -/

/-- **The messages in flight are in balance** with what was given and confirmed. -/
structure Balanced (h : List Mark) (l : Link) : Prop where
  /-- A message is in flight under one packet id at most. -/
  sole : ∀ packetId packetId' id, l.inFlight.get? packetId = some id →
    l.inFlight.get? packetId' = some id → packetId = packetId'
  /-- No message was confirmed more often than it was given a packet id. -/
  covered : ∀ id, acknowledgements id h ≤ givingsOf id h
  /-- One in flight has a confirmation to come. -/
  owed : ∀ packetId id, l.inFlight.get? packetId = some id →
    acknowledgements id h < givingsOf id h

variable {h : List Mark} {l l' : Link}

/-- Nothing is in flight any more. -/
theorem Balanced.closed (hb : Balanced h l)
    (empty : ∀ packetId, l'.inFlight.get? packetId = none) : Balanced (h ++ [.closed]) l' where
  sole packetId packetId' id hid := by
    rw [empty] at hid
    cases hid
  covered id := by
    rw [acknowledgements_concat, givingsOf_concat]
    exact hb.covered id
  owed packetId id hid := by
    rw [empty] at hid
    cases hid

/-- A message is given a packet id in place of the one it had. -/
theorem Balanced.given (hb : Balanced h l) {packetId id : Nat} (written : Bool)
    (moved : ∀ packetId', l'.inFlight.get? packetId' =
      if packetId = packetId' then some id else (l.inFlight.get? packetId').filter (· ≠ id)) :
    Balanced (h ++ [.given packetId id written]) l' := by
  -- Another message in flight was so before, under the same packet id.
  have hbefore {packetId' id' : Nat} (hid : l'.inFlight.get? packetId' = some id') :
      packetId = packetId' ∧ id = id' ∨ l.inFlight.get? packetId' = some id' ∧ id' ≠ id := by
    rw [moved] at hid
    split at hid
    · exact .inl ⟨‹_›, Option.some.inj hid⟩
    · rw [Option.filter_eq_some_iff, decide_eq_true_eq] at hid
      exact .inr hid
  have hacknowledged (id' : Nat) :
      acknowledgements id' (h ++ [.given packetId id written]) = acknowledgements id' h :=
    acknowledgements_concat ..
  have hgiven (id' : Nat) : givingsOf id' (h ++ [.given packetId id written]) =
      givingsOf id' h + if id = id' then 1 else 0 := by
    simp [givingsOf_concat, Mark.gives]
  refine ⟨fun p p' id' hid hid' => ?_, fun id' => ?_, fun p id' hid => ?_⟩
  · rcases hbefore hid with ⟨hp, heq⟩ | ⟨hp, hne⟩
    · rcases hbefore hid' with ⟨hp', -⟩ | ⟨-, hne'⟩
      · exact hp.symm.trans hp'
      · exact absurd heq.symm hne'
    · rcases hbefore hid' with ⟨-, heq'⟩ | ⟨hp', -⟩
      · exact absurd heq'.symm hne
      · exact hb.sole _ _ _ hp hp'
  · rw [hacknowledged, hgiven]
    exact Nat.le_add_right_of_le (hb.covered id')
  · rw [hacknowledged, hgiven]
    rcases hbefore hid with ⟨-, heq⟩ | ⟨hp, -⟩
    · rw [if_pos heq]
      exact Nat.lt_succ_of_le (hb.covered id')
    · exact Nat.lt_add_right _ (hb.owed p id' hp)

/-- A packet id is confirmed. -/
theorem Balanced.confirmed (hb : Balanced h l) {packetId : Nat}
    (gone : ∀ packetId', l'.inFlight.get? packetId' =
      if packetId' = packetId then none else l.inFlight.get? packetId') :
    Balanced (h ++ [.confirmed packetId (l.inFlight.get? packetId)]) l' := by
  have hbefore {packetId' id : Nat} (hid : l'.inFlight.get? packetId' = some id) :
      l.inFlight.get? packetId' = some id ∧ packetId' ≠ packetId := by
    rw [gone] at hid
    split at hid
    · cases hid
    · exact ⟨hid, ‹_›⟩
  have hacknowledged (id : Nat) : acknowledgements id
      (h ++ [.confirmed packetId (l.inFlight.get? packetId)]) =
        acknowledgements id h + if l.inFlight.get? packetId = some id then 1 else 0 := by
    simp [acknowledgements_concat, Mark.acknowledges]
  have hgiven (id : Nat) : givingsOf id
      (h ++ [.confirmed packetId (l.inFlight.get? packetId)]) = givingsOf id h :=
    givingsOf_concat ..
  refine ⟨fun p p' id hid hid' => hb.sole _ _ _ (hbefore hid).1 (hbefore hid').1, fun id => ?_,
    fun p id hid => ?_⟩
  · rw [hacknowledged, hgiven]
    split
    · exact hb.owed packetId id ‹_›
    · exact hb.covered id
  · -- The message that is confirmed was in flight under this packet id only.
    obtain ⟨hp, hne⟩ := hbefore hid
    have hnot : l.inFlight.get? packetId ≠ some id := fun hid' => hne (hb.sole _ _ _ hp hid')
    rw [hacknowledged, hgiven, if_neg hnot]
    exact hb.owed p id hp

/-- **Every use keeps the balance.** -/
theorem Balanced.step (hb : Balanced h l) {m? : Option Mark} (hc : Changes l l' m?) :
    Balanced (h ++ m?.toList) l' := by
  cases hc with
  | closed empty => exact hb.closed empty
  | given id written moved => exact hb.given written moved
  | confirmed packetId gone => exact hb.confirmed gone
  | nothing same =>
    subst same
    rw [Option.toList_none, List.append_nil]
    exact hb

/-- Along all uses of a link its messages stay in balance. -/
theorem Balanced.after (hb : Balanced h l) (uses : List Use) :
    Balanced (h ++ l.marks uses) (l.after uses) := by
  induction uses generalizing h l with
  | nil =>
    rw [marks, List.append_nil]
    exact hb
  | cons u uses ih =>
    have hrest := ih (hb.step (l.changes_use u))
    rw [List.append_assoc] at hrest
    exact hrest

theorem balanced_of_uses (identity : Identity) (credential : Credential) (options : ClientOptions)
    (uses : List Use) :
    Balanced (marks { identity, credential, options } uses)
      (after { identity, credential, options } uses) := by
  have hnew : Balanced [] { identity, credential, options } :=
    { sole := fun _ _ _ hid => nomatch hid
      covered := fun _ => Nat.le_refl 0
      owed := fun _ _ hid => nomatch hid }
  exact hnew.after uses

/-! ## The books of a link -/

/-- A message was handed over under a packet id since the link was last closed, and written or
not. -/
def HandedOver (h : List Mark) (packetId id : Nat) (written : Bool) : Prop :=
  ∃ early late, h = early ++ .given packetId id written :: late ∧ .closed ∉ late

/-- What was handed over since the link was last closed was so since any closing. -/
theorem HandedOver.of_closed {h k : List Mark} {packetId id : Nat} {written : Bool}
    (hh : HandedOver (h ++ .closed :: k) packetId id written) :
    HandedOver k packetId id written := by
  obtain ⟨early, late, hsplit, hopen⟩ := hh
  obtain ⟨mid, -, rfl⟩ | ⟨mid, -, hk⟩ := split_append hsplit
  · simp at hopen
  · cases mid with
    | nil => cases hk
    | cons m mid =>
      obtain ⟨-, rfl⟩ := List.cons.inj hk
      exact ⟨mid, late, rfl, hopen⟩

/-- **A link keeps its messages in flight**, whatever was done with it. -/
structure KeepsInFlight (l : Link) (uses : List Use) : Prop where
  /-- They have packet ids that messages can have. -/
  keys : ∀ packetId id, (l.after uses).inFlight.get? packetId = some id →
    1 ≤ packetId ∧ packetId ≤ maxPacketId ∧ packetId ≠ subscribeId
  /-- Each has one packet id. -/
  sole : ∀ packetId packetId' id, (l.after uses).inFlight.get? packetId = some id →
    (l.after uses).inFlight.get? packetId' = some id → packetId = packetId'
  /-- A confirmation is told exactly if its packet id is in flight, as that of the message there. -/
  told : ∀ packetId, ((l.after uses).read (.confirm packetId)).2 =
    ((l.after uses).inFlight.get? packetId).map (LinkEvent.acknowledged · none)
  /-- No message is told to be confirmed more often than it was handed over. -/
  covered : ∀ id, acknowledgements id (l.marks uses) ≤ givingsOf id (l.marks uses)
  /-- One that is told to be confirmed was handed over under this packet id, which since then was
  neither given to another one nor confirmed, and the link was not closed. -/
  own : ∀ pre packetId id post, l.marks uses = pre ++ .confirmed packetId (some id) :: post →
    ∃ early written late, pre = early ++ .given packetId id written :: late ∧
      ∀ m ∈ late, m.settles packetId = false ∧ ∀ id' written', m ≠ .given packetId id' written'
  /-- It was published with this packet id since the link was last closed, unless handing it over
  under this packet id failed. -/
  published : ∀ pre packetId id post, l.marks uses = pre ++ .confirmed packetId (some id) :: post →
    ¬HandedOver pre packetId id false → HandedOver pre packetId id true

/-- What a packet id that is confirmed says. -/
theorem read_confirm (l : Link) (packetId : Nat) :
    (l.read (.confirm packetId)).2 =
      (l.inFlight.get? packetId).map (LinkEvent.acknowledged · none) := by
  rw [read]
  cases l.inFlight.get? packetId <;> rfl

/-- When a packet id is confirmed, its message is the last one it was given to, and nothing settled
it since. -/
theorem held_of_marks (identity : Identity) (credential : Credential) (options : ClientOptions)
    {uses : List Use} {pre post : List Mark} {packetId id : Nat}
    (hp : marks { identity, credential, options } uses =
      pre ++ .confirmed packetId (some id) :: post) :
    ∃ early written late, pre = early ++ .given packetId id written :: late ∧ ∀ m ∈ late,
      m.settles packetId = false ∧ ∀ id' written', m ≠ .given packetId id' written' := by
  obtain ⟨before, u, rest, rfl, rfl, hmark⟩ := marks_split hp
  exact (recorded_of_uses identity credential options before).held _ _ (held_of_confirmed hmark)

/-- **Every link keeps its messages in flight.** -/
theorem keepsInFlight_of_uses (identity : Identity) (credential : Credential)
    (options : ClientOptions) (uses : List Use) :
    KeepsInFlight { identity, credential, options } uses where
  keys packetId id hid := by
    have hr := recorded_of_uses identity credential options uses
    obtain ⟨pre, written, post, hp, -⟩ := hr.held packetId id hid
    rw [hr.numbered pre packetId id written post hp]
    exact packetIdOf_range _
  sole := (balanced_of_uses identity credential options uses).sole
  told := read_confirm _
  covered := (balanced_of_uses identity credential options uses).covered
  own _ _ _ _ hp := held_of_marks identity credential options hp
  published pre packetId id post hp hsucceeded := by
    obtain ⟨early, written, late, hearly, hlate⟩ := held_of_marks identity credential options hp
    -- Closing would have settled the packet id.
    have hopen : .closed ∉ late := by
      intro hclosed
      cases (hlate _ hclosed).1
    cases written with
    | false => exact absurd ⟨early, late, hearly, hopen⟩ hsucceeded
    | true => exact ⟨early, late, hearly, hopen⟩

end Link

/-! ## A reading that was published on an earlier link -/

namespace Pump

/-- The first reading is published, and after reconnecting a reading that cannot be published has
its id; then the packet id of that one is confirmed. -/
def lapse : List Use :=
  [connects, .send (reading 1) wire, .close, connects, .send spaced wire, .read (.confirm 2)]

/-- A reading that cannot be published is given a packet id all the same. -/
theorem send_spaced {l : Link} (hidentity : l.identity = link.identity) :
    l.use (.send spaced wire) = (l.assign 1).1 ∧
      l.mark? (.send spaced wire) = some (.given (packetIdAfter l.lastPacketId) 1 false) := by
  have htopic : l.topicOf spaced = .ok (Topic.withProperties
      (Topic.telemetryLead link.identity.device) spaced.message, true) := by
    rw [← hidentity]
    rfl
  have hname : Topic.isName (Topic.withProperties (Topic.telemetryLead link.identity.device)
      spaced.message) = false := by
    rw [← Bool.not_eq_true, Topic.isName_telemetry_iff (by simp [link]) (by simp [link])
      length_spaced]
    exact not_not_intro hasSpace_spaced
  have hgiven := Link.given_of_send htopic wire
  rwa [Link.send_of_not_isName htopic hname] at hgiven

theorem marks_lapse : link.marks lapse =
    [.closed, .given 1 1 true, .closed, .closed, .given 2 1 false, .confirmed 2 (some 1)] := by
  have hup : link.use connects = { link with isUp := true } := use_connects rfl
  obtain ⟨hpublished, hwritten⟩ := send_reading (l := { link with isUp := true }) rfl rfl 1
  have hdown : (({ link with isUp := true } : Link).assign 1).1.use .close =
      { link with lastPacketId := 1 } := rfl
  have hagain : ({ link with lastPacketId := 1 } : Link).use connects =
      { link with isUp := true, lastPacketId := 1 } := use_connects rfl
  obtain ⟨hrefused, hunwritten⟩ :=
    send_spaced (l := { link with isUp := true, lastPacketId := 1 }) rfl
  rw [lapse, Link.marks, hup, Link.marks, hwritten, hpublished, Link.marks, hdown, Link.marks,
    hagain, Link.marks, hunwritten, hrefused]
  rfl

end Pump

namespace Link

/-- **Confirmations stay on their link**: none is put down to a message that was published on
earlier links only. -/
def StaysOnLink (l : Link) (uses : List Use) : Prop :=
  ∀ pre packetId id post, l.marks uses = pre ++ .confirmed packetId (some id) :: post →
    (∃ packetId', .given packetId' id true ∈ pre) → ∃ packetId', HandedOver pre packetId' id true

/-- **A confirmation may be put down to a message that was published on an earlier link only.** The
packet id that is confirmed was given to a message of the same id on this link, and nothing was
written with it. -/
theorem not_staysOnLink_of_lapse : ¬StaysOnLink Pump.link Pump.lapse := by
  intro hstays
  have hmarks : Pump.link.marks Pump.lapse =
      ([.closed, .given 1 1 true, .closed] ++ .closed :: [.given 2 1 false]) ++
        .confirmed 2 (some 1) :: [] := Pump.marks_lapse
  obtain ⟨packetId, honLink⟩ := hstays _ _ _ _ hmarks ⟨1, by simp⟩
  obtain ⟨early, late, hsplit, -⟩ := honLink.of_closed
  -- On this link there is only the handing over that failed.
  obtain ⟨-, heq⟩ | ⟨_, -, hnil⟩ := List.cons_eq_append_iff.1 hsplit
  · cases heq
  · simp at hnil

end Link

end HubLink.Mqtt
