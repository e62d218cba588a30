import HubLink.Collection.Transcript
import HubLink.Proofs.Mqtt.Name

/-! # Confirmations

To which messages the confirmations of the hub are put down. A confirmation names nothing but a
packet id, and packet ids are given out in a cycle, whether or not they were confirmed. As long as
no packet id waits for its confirmation while all the others are given out, a packet id never stands
for two messages at a time and every confirmation is put down to the message it is for
(`Link.attributed_of_prompt`). Without that it may be put down to another one
(`Link.not_attributed_of_overrun`). -/

namespace HubLink.Mqtt

/-! ## The cycle of packet ids -/

/-- How many packet ids there are for messages: all but that of the subscription. -/
def cycle : Nat := maxPacketId - 1

/-- The packet id that is given out after so many others. -/
def packetIdOf (n : Nat) : Nat :=
  if n % cycle + 1 < subscribeId then n % cycle + 1 else n % cycle + 2

/-- Packet ids follow one another in the cycle. -/
theorem packetIdAfter_packetIdOf (n : Nat) : packetIdAfter (packetIdOf n) = packetIdOf (n + 1) := by
  simp only [packetIdAfter, packetIdOf, cycle, maxPacketId, subscribeId]
  grind

/-- **A packet id comes again after a whole cycle** and not before. -/
theorem packetIdOf_eq_iff {i j : Nat} : packetIdOf i = packetIdOf j ↔ i % cycle = j % cycle := by
  unfold packetIdOf subscribeId
  grind

/-- Between two uses of a packet id all the others are given out. -/
theorem cycle_le_of_packetIdOf_eq {i j : Nat} (hlt : i < j) (heq : packetIdOf i = packetIdOf j) :
    i + cycle ≤ j := by
  rw [packetIdOf_eq_iff] at heq
  simp only [cycle, maxPacketId] at heq ⊢
  omega

/-! ## Traffic -/

/-- Something that is done with a link. -/
inductive Use where
  /-- It is connected. -/
  | connect (now : Int) (reached : Except Fault (LoginReply × Writing))
  /-- A message is handed over. -/
  | send (message : Outbound) (writing : Writing)
  /-- A packet is read. -/
  | read (packet : Inbound)
  /-- It is closed. -/
  | close

/-- What becomes of packet ids. -/
inductive Mark where
  /-- A packet id is given to the message of an id, and written if the message is. -/
  | given (packetId id : Nat) (written : Bool)
  /-- A packet id is confirmed, and put down to the message of an id. -/
  | confirmed (packetId : Nat) (id? : Option Nat)
  /-- The link is closed. -/
  | closed

namespace Mark

/-- Whether a packet id is given out. -/
def isGiven : Mark → Bool
  | .given .. => true
  | _ => false

/-- Whether nothing waits any more for the confirmation of a packet id. -/
def settles (packetId : Nat) : Mark → Bool
  | .given .. => false
  | .confirmed packetId' _ => packetId' = packetId
  | .closed => true

end Mark

/-- How many packet ids were given out. -/
def givings (h : List Mark) : Nat := h.countP (·.isGiven)

@[simp] theorem givings_append (h k : List Mark) : givings (h ++ k) = givings h + givings k :=
  List.countP_append

/-- **No packet id waits for its confirmation while all the others are given out.** -/
def Prompt (h : List Mark) : Prop :=
  ∀ pre packetId id written mid post, h = pre ++ .given packetId id written :: (mid ++ post) →
    (∀ m ∈ mid, m.settles packetId = false) → givings mid < cycle

/-- What is prompt was prompt before. -/
theorem Prompt.of_append {h k : List Mark} (hp : Prompt (h ++ k)) : Prompt h := by
  rintro pre packetId id written mid post rfl hmid
  exact hp pre packetId id written mid (post ++ k) (by simp) hmid

namespace Link

/-- Whether the last handing over was written. -/
def isWritten : Except Fault Packet → Bool
  | .ok _ => true
  | .error _ => false

/-- The link after something is done with it. -/
def use (l : Link) : Use → Link
  | .connect now reached => (l.connect now reached).link
  | .send message writing => (l.send message writing).1
  | .read packet => (l.read packet).1
  | .close => l.close.1

/-- What becomes of a packet id when something is done with a link. -/
def mark? (l : Link) : Use → Option Mark
  | .connect .. | .close => some .closed
  | .send message writing =>
    match l.topicOf message with
    | .ok (_, true) =>
      some (.given (packetIdAfter l.lastPacketId) message.id (isWritten (l.send message writing).2))
    | _ => none
  | .read (.confirm packetId) => some (.confirmed packetId (l.inFlight.get? packetId))
  | .read _ => none

/-- The link after several things are done with it. -/
def after (l : Link) : List Use → Link
  | [] => l
  | u :: uses => (l.use u).after uses

/-- What becomes of packet ids while things are done with a link. -/
def marks (l : Link) : List Use → List Mark
  | [] => []
  | u :: uses => (l.mark? u).toList ++ (l.use u).marks uses

theorem after_eq (l : Link) (uses : List Use) : l.after uses = uses.foldl use l := by
  induction uses generalizing l with
  | nil => rfl
  | cons u uses ih => exact ih _

/-- Marks are a transcript of what is done. -/
theorem marks_eq (l : Link) (uses : List Use) :
    l.marks uses = transcript use (fun l u => (l.mark? u).toList) l uses := by
  induction uses generalizing l with
  | nil => rfl
  | cons u uses ih => exact congrArg (_ ++ ·) (ih _)

theorem after_append (l : Link) (uses uses' : List Use) :
    l.after (uses ++ uses') = (l.after uses).after uses' := by
  simp only [after_eq, List.foldl_append]

theorem marks_append (l : Link) (uses uses' : List Use) :
    l.marks (uses ++ uses') = l.marks uses ++ (l.after uses).marks uses' := by
  simp only [marks_eq, after_eq, transcript_append]

/-- **Where a mark stands.** It is made by the use that follows those before it. -/
theorem marks_split {l : Link} {uses : List Use} {m : Mark} {pre post : List Mark}
    (h : l.marks uses = pre ++ m :: post) :
    ∃ before u rest, uses = before ++ u :: rest ∧ pre = l.marks before ∧
      (l.after before).mark? u = some m := by
  rw [marks_eq] at h
  obtain ⟨before, u, rest, earlier, later, rfl, hmark, rfl, -⟩ := transcript_split h
  rw [← after_eq] at hmark
  -- A use makes one mark at most.
  obtain ⟨hearlier, hsome⟩ : earlier = [] ∧ ((l.after before).mark? u) = some m := by
    cases hm : (l.after before).mark? u with
    | none => simp [hm] at hmark
    | some m' =>
      rw [hm, Option.toList_some] at hmark
      obtain ⟨rfl, heq⟩ | ⟨_, -, hnil⟩ := List.cons_eq_append_iff.1 hmark
      · obtain ⟨rfl, -⟩ := List.cons.inj heq
        exact ⟨rfl, rfl⟩
      · simp at hnil
  exact ⟨before, u, rest, rfl, by rw [hearlier, List.append_nil, marks_eq], hsome⟩

/-! ## What a link does -/

/-- Connecting keeps nothing in flight and gives out no packet id. -/
theorem connect_link (l : Link) (now : Int) (reached : Except Fault (LoginReply × Writing)) :
    (l.connect now reached).link.inFlight = .empty ∧
      (l.connect now reached).link.lastPacketId = l.lastPacketId := by
  simp only [connect, close]
  split
  · exact ⟨rfl, rfl⟩
  · split
    · exact ⟨rfl, rfl⟩
    · split
      · exact ⟨rfl, rfl⟩
      · split <;> exact ⟨rfl, rfl⟩

/-- A link is up once its login is accepted, whatever subscribing comes to. -/
theorem connect_of_accepted (l : Link) {now : Int} {password : String} {reply : LoginReply}
    (w : Writing) (htoken : l.credential.token (now + l.options.tokenSpan) = .ok password)
    (hreply : reply.fault? = none) :
    (l.connect now (.ok (reply, w))).link = { l with isUp := true, inFlight := .empty } := by
  simp only [connect, close, htoken, hreply]
  cases subscribe { l with isUp := true, inFlight := .empty } w <;> rfl

/-- A message that is confirmed by packet id is given one, whatever becomes of it. -/
theorem send_link (l : Link) (m : Outbound) (w : Writing) {topic : Topic} {isConfirmed : Bool}
    (htopic : l.topicOf m = .ok (topic, isConfirmed)) :
    (l.send m w).1 = if isConfirmed then (l.assign m.id).1 else l := by
  unfold send
  rw [htopic]
  cases isConfirmed <;> cases hname : Topic.isName topic <;> simp [hname, assign]

/-- Which packet id it is given. -/
theorem given_of_send {l : Link} {m : Outbound} {topic : Topic}
    (htopic : l.topicOf m = .ok (topic, true)) (w : Writing) :
    l.use (.send m w) = (l.assign m.id).1 ∧
      l.mark? (.send m w) =
        some (.given (packetIdAfter l.lastPacketId) m.id (isWritten (l.send m w).2)) := by
  refine ⟨l.send_link m w htopic, ?_⟩
  rw [mark?, htopic]

/-- What is in flight after a packet id is given to a message. -/
theorem get?_assign (l : Link) (id packetId : Nat) :
    (l.assign id).1.inFlight.get? packetId =
      if packetIdAfter l.lastPacketId = packetId then some id
      else (l.inFlight.get? packetId).filter (· ≠ id) := by
  rw [assign, SortedMap.get?_insert, SortedMap.get?_filter]

/-! ## What is in flight -/

/-- **What a link knows of the packet ids it gave out.** -/
structure Recorded (h : List Mark) (l : Link) : Prop where
  /-- It knows which one is next. -/
  next : packetIdAfter l.lastPacketId = packetIdOf (givings h)
  /-- They were given out in the order of the cycle. -/
  numbered : ∀ pre packetId id written post, h = pre ++ .given packetId id written :: post →
    packetId = packetIdOf (givings pre)
  /-- A message in flight was the last one given its packet id, and nothing settled that since. -/
  held : ∀ packetId id, l.inFlight.get? packetId = some id →
    ∃ pre written post, h = pre ++ .given packetId id written :: post ∧
      ∀ m ∈ post, m.settles packetId = false ∧ ∀ id' written', m ≠ .given packetId id' written'

variable {h : List Mark} {l : Link}

/-- Something that gives out no packet id. -/
theorem Recorded.concat {l' : Link} {m : Mark} (hr : Recorded h l) (hm : m.isGiven = false)
    (hlast : l'.lastPacketId = l.lastPacketId)
    (hheld : ∀ packetId id, l'.inFlight.get? packetId = some id →
      l.inFlight.get? packetId = some id ∧ m.settles packetId = false) :
    Recorded (h ++ [m]) l' where
  next := by
    have hnone : givings [m] = 0 := by simp [givings, hm]
    rw [hlast, givings_append, hnone]
    exact hr.next
  numbered pre packetId id written post hp := by
    obtain ⟨-, rfl, -⟩ | ⟨post', rfl, hp'⟩ := split_concat hp
    · cases hm
    · exact hr.numbered pre packetId id written post' hp'
  held packetId id hid := by
    obtain ⟨hget, hsettles⟩ := hheld packetId id hid
    obtain ⟨pre, written, post, rfl, hpost⟩ := hr.held packetId id hget
    refine ⟨pre, written, post ++ [m], by simp, ?_⟩
    rw [List.forall_mem_append, List.forall_mem_singleton]
    refine ⟨hpost, hsettles, ?_⟩
    rintro id' written' rfl
    cases hm

/-- A packet id is given to a message. -/
theorem Recorded.assign (hr : Recorded h l) (id : Nat) (written : Bool) :
    Recorded (h ++ [.given (packetIdAfter l.lastPacketId) id written]) (l.assign id).1 where
  next := by
    have hone : givings [.given (packetIdAfter l.lastPacketId) id written] = 1 := rfl
    rw [givings_append, hone, ← packetIdAfter_packetIdOf, ← hr.next]
    rfl
  numbered pre packetId id' written' post hp := by
    obtain ⟨rfl, hm, -⟩ | ⟨post', rfl, hp'⟩ := split_concat hp
    · rw [← hr.next]
      exact (Mark.given.inj hm).1
    · exact hr.numbered pre packetId id' written' post' hp'
  held packetId id' hid := by
    rw [get?_assign] at hid
    split at hid
    · rename_i heq
      obtain rfl := Option.some.inj hid
      subst heq
      exact ⟨h, written, [], rfl, by simp⟩
    · -- Another packet id stays in flight unless its message has got a new one.
      rename_i hne
      rw [Option.filter_eq_some_iff] at hid
      obtain ⟨pre, written', post, rfl, hpost⟩ := hr.held packetId id' hid.1
      refine ⟨pre, written', post ++ [.given (packetIdAfter l.lastPacketId) id written],
        by simp, ?_⟩
      rw [List.forall_mem_append, List.forall_mem_singleton]
      refine ⟨hpost, rfl, fun id'' written'' heq => hne (Mark.given.inj heq).1⟩

/-- **Whatever is done with a link, it knows of the packet ids it gave out.** -/
theorem Recorded.use (hr : Recorded h l) (u : Use) :
    Recorded (h ++ (l.mark? u).toList) (l.use u) := by
  have hclosed {l' : Link} (hlast : l'.lastPacketId = l.lastPacketId)
      (hempty : l'.inFlight = .empty) : Recorded (h ++ [.closed]) l' := by
    refine hr.concat rfl hlast fun packetId id hid => ?_
    rw [hempty] at hid
    cases hid
  have hnothing : Recorded (h ++ (none : Option Mark).toList) l := by
    rw [Option.toList_none, List.append_nil]
    exact hr
  cases u with
  | connect now reached =>
    obtain ⟨hempty, hlast⟩ := l.connect_link now reached
    exact hclosed hlast hempty
  | close => exact hclosed rfl rfl
  | read packet =>
    cases packet with
    | publish | other => exact hnothing
    | confirm packetId =>
      refine hr.concat rfl ?_ fun packetId' id hid => ?_
      · rw [Link.use, read]
        split <;> rfl
      · -- The packet id that is confirmed is not in flight any more.
        rw [Link.use, read] at hid
        split at hid
        · rw [SortedMap.get?_erase] at hid
          split at hid
          · cases hid
          · rename_i hne
            exact ⟨hid, decide_eq_false (Ne.symm hne)⟩
        · rename_i hnone
          refine ⟨hid, decide_eq_false ?_⟩
          rintro rfl
          simp [hnone] at hid
  | send message writing =>
    cases htopic : l.topicOf message with
    | error fault =>
      have hsame : l.use (.send message writing) = l := by
        rw [Link.use, send, htopic]
      rw [mark?, htopic, hsame]
      exact hnothing
    | ok r =>
      obtain ⟨topic, isConfirmed⟩ := r
      rw [Link.use, send_link l message writing htopic, mark?, htopic]
      cases isConfirmed with
      | false => exact hnothing
      | true => exact hr.assign message.id _

/-- Along every use of a link it knows of the packet ids it gave out. -/
theorem Recorded.after (hr : Recorded h l) (uses : List Use) :
    Recorded (h ++ l.marks uses) (l.after uses) := by
  induction uses generalizing h l with
  | nil =>
    rw [marks, List.append_nil]
    exact hr
  | cons u uses ih =>
    have hrest := ih (hr.use u)
    rw [List.append_assoc] at hrest
    exact hrest

/-- **A link that was never used** gave out no packet id. -/
theorem recorded_new (identity : Identity) (credential : Credential) (options : ClientOptions) :
    Recorded [] { identity, credential, options } where
  next := rfl
  numbered pre packetId id written post hp := by simp at hp
  held packetId id hid := by cases hid

theorem recorded_of_uses (identity : Identity) (credential : Credential) (options : ClientOptions)
    (uses : List Use) :
    Recorded (marks { identity, credential, options } uses)
      (after { identity, credential, options } uses) :=
  (recorded_new identity credential options).after uses

/-! ## Attribution -/

/-- **Confirmations are put down to the messages they are for**, whatever is done with a link. -/
structure Attributed (l : Link) (uses : List Use) : Prop where
  /-- A packet id that is given out is not in flight for another message. -/
  fresh : ∀ before m w topic rest, uses = before ++ .send m w :: rest →
    (l.after before).topicOf m = .ok (topic, true) →
    ∀ id, (l.after before).inFlight.get? (packetIdAfter (l.after before).lastPacketId) = some id →
      id = m.id
  /-- When a confirmation is put down to a message, all that was given the packet id since it was
  confirmed before or the link closed was that message, whether or not it was written. -/
  own : ∀ pre packetId id post, l.marks uses = pre ++ .confirmed packetId (some id) :: post →
    ∀ early id' written late, pre = early ++ .given packetId id' written :: late →
      (∀ m ∈ late, m.settles packetId = false) → id' = id

/-- If no packet id waits too long, something settles it before it is given out again. -/
theorem Recorded.settled (hr : Recorded h l) (hprompt : Prompt h) {pre mid post : List Mark}
    {packetId id id' : Nat} {written written' : Bool}
    (hp : h = pre ++ .given packetId id written :: (mid ++ .given packetId id' written' :: post)) :
    ∃ m ∈ mid, m.settles packetId := by
  have hfirst := hr.numbered _ _ _ _ _ hp
  have hsecond := hr.numbered (pre ++ .given packetId id written :: mid) packetId id' written' post
    (by rw [hp, List.append_assoc]; rfl)
  have hone : givings (.given packetId id written :: mid) = givings mid + 1 :=
    List.countP_cons_of_pos rfl
  rw [givings_append, hone] at hsecond
  have hcycle := cycle_le_of_packetIdOf_eq (by omega) (hfirst.symm.trans hsecond)
  -- All the others were given out between the two.
  refine Classical.byContradiction fun hnone => ?_
  have hfew := hprompt pre packetId id written (mid ++ [.given packetId id' written']) post
    (by rw [hp]; simp) (by
      rw [List.forall_mem_append, List.forall_mem_singleton]
      exact ⟨fun m hm => by simpa using fun hs => hnone ⟨m, hm, hs⟩, rfl⟩)
  have hlast : givings [.given packetId id' written'] = 1 := rfl
  rw [givings_append, hlast] at hfew
  omega

/-- A confirmation is put down to the message in flight. -/
theorem held_of_confirmed {u : Use} {packetId : Nat} {id? : Option Nat}
    (hm : l.mark? u = some (.confirmed packetId id?)) : l.inFlight.get? packetId = id? := by
  cases u with
  | connect | close => cases hm
  | send =>
    rw [mark?] at hm
    split at hm <;> cases hm
  | read packet =>
    cases packet with
    | publish | other => cases hm
    | confirm =>
      obtain ⟨rfl, hid⟩ := Mark.confirmed.inj (Option.some.inj hm)
      exact hid

/-- **While no packet id waits too long, confirmations are put down to the messages they are for.**
-/
theorem Recorded.attributed (hr : Recorded [] l) {uses : List Use} (hprompt : Prompt (l.marks uses)) :
    Attributed l uses where
  fresh := by
    rintro before m w topic rest rfl htopic id hid
    -- The packet id was given out before, and nothing settled it since.
    obtain ⟨pre, written, post, hbefore, hpost⟩ := (hr.after before).held _ _ hid
    rw [List.nil_append] at hbefore
    have hmarks : l.marks (before ++ .send m w :: rest) =
        pre ++ .given (packetIdAfter (l.after before).lastPacketId) id written ::
          (post ++ .given (packetIdAfter (l.after before).lastPacketId) m.id
            (isWritten ((l.after before).send m w).2) ::
              ((l.after before).use (.send m w)).marks rest) := by
      rw [marks_append, marks, mark?, htopic, hbefore]
      simp
    obtain ⟨x, hx, hsettles⟩ := (hr.after (before ++ .send m w :: rest)).settled hprompt hmarks
    rw [(hpost x hx).1] at hsettles
    cases hsettles
  own := by
    intro pre packetId id post hp early id' written' late hpre hlate
    obtain ⟨before, u, rest, rfl, rfl, hmark⟩ := marks_split hp
    have hrecorded := hr.after before
    rw [List.nil_append] at hrecorded
    obtain ⟨pre', written, post', hlast, hpost'⟩ :=
      hrecorded.held _ _ (held_of_confirmed hmark)
    obtain ⟨-, heq, -⟩ | ⟨mid, -, rfl⟩ | ⟨mid, rfl, rfl⟩ := split_split (hlast.symm.trans hpre)
    · exact (Mark.given.inj heq).2.1.symm
    · -- The packet id was given to the message in flight last.
      exact absurd rfl ((hpost' (.given packetId id' written') (by simp)).2 id' written')
    · -- Otherwise it was given out twice, and something settled it in between.
      have hearly : Prompt (l.marks before) := by
        rw [marks_append] at hprompt
        exact hprompt.of_append
      obtain ⟨x, hx, hsettles⟩ := hrecorded.settled hearly (hpre.trans rfl)
      rw [hlate x (List.mem_append_left _ hx)] at hsettles
      cases hsettles

/-- A link that is used less often than there are packet ids is used promptly. -/
theorem prompt_of_length_lt (l : Link) {uses : List Use} (hlength : uses.length < cycle) :
    Prompt (l.marks uses) := by
  intro pre packetId id written mid post hp _
  -- Every use makes at most one mark.
  have hmarks : (l.marks uses).length ≤ uses.length := by
    clear hp hlength
    induction uses generalizing l with
    | nil => exact Nat.le_refl 0
    | cons u uses ih =>
      have hrest := ih (l.use u)
      rw [marks, List.length_append, List.length_cons]
      cases l.mark? u <;> simp only [Option.toList_none, Option.toList_some, List.length_nil,
        List.length_singleton] <;> omega
  have hmid : givings mid ≤ mid.length := List.countP_le_length
  rw [hp] at hmarks
  simp only [List.length_append, List.length_cons] at hmarks
  omega

/-- **Confirmations of a link that is used promptly.** -/
theorem attributed_of_prompt (identity : Identity) (credential : Credential)
    (options : ClientOptions) {uses : List Use}
    (hprompt : Prompt (marks { identity, credential, options } uses)) :
    Attributed { identity, credential, options } uses :=
  (recorded_new identity credential options).attributed hprompt

end Link

/-! ## Readings of a pump -/

namespace Pump

/-- A reading without properties. -/
def reading (id : Nat) : Outbound where
  id
  kind := .telemetry
  message := .empty

/-- The hub lets the pump in. -/
def connects : Use := .connect 0 (.ok (.code 0, wire))

/-- The pump connects and hands over so many readings. -/
def readings (n : Nat) : List Use :=
  connects :: (List.range n).map fun id => .send (reading id) wire

theorem isName_reading (id : Nat) :
    Topic.isName (Topic.withProperties (Topic.telemetryLead link.identity.device)
      (reading id).message) := by
  have hproperties : Topic.properties (reading id).message = [] := List.mergeSort_nil
  rw [Topic.withProperties, hproperties]
  decide

/-- The topic of every reading is a name. -/
theorem topicOf_reading {l : Link} (hidentity : l.identity = link.identity) (id : Nat) :
    ∃ topic, l.topicOf (reading id) = .ok (topic, true) ∧ Topic.isName topic = true := by
  refine ⟨_, ?_, isName_reading id⟩
  rw [← hidentity]
  rfl

/-- With the credential of the pump a link comes up. -/
theorem use_connects {l : Link} (hcredential : l.credential = link.credential) :
    l.use connects = { l with isUp := true, inFlight := .empty } :=
  l.connect_of_accepted wire (by rw [hcredential]; rfl) rfl

/-- A reading that is handed over while the link is up is written. -/
theorem send_reading {l : Link} (hup : l.isUp) (hidentity : l.identity = link.identity) (id : Nat) :
    l.use (.send (reading id) wire) = (l.assign id).1 ∧
      l.mark? (.send (reading id) wire) =
        some (.given (packetIdAfter l.lastPacketId) id true) := by
  obtain ⟨topic, htopic, hname⟩ := topicOf_reading hidentity id
  obtain ⟨packet, hsend⟩ := Link.send_of_isName htopic hname wire
  have hwritten : Link.isWritten (l.send (reading id) wire).2 = true := by
    rw [hsend, Link.write, if_pos hup]
    rfl
  have hgiven := Link.given_of_send htopic wire
  rwa [hwritten] at hgiven

theorem readings_succ (n : Nat) : readings (n + 1) = readings n ++ [.send (reading n) wire] := by
  simp [readings, List.range_succ]

/-- What becomes of packet ids when a link connects and hands over so many messages. -/
def givenOut (n : Nat) : List Mark :=
  .closed :: (List.range n).map fun id => .given (packetIdOf id) id true

theorem givings_givenOut (n : Nat) : givings (givenOut n) = n := by
  rw [givings, givenOut, List.countP_cons_of_neg (by simp [Mark.isGiven]), List.countP_map]
  simp [Function.comp_def, Mark.isGiven]

/-- **The readings are given the packet ids of the cycle**, one after the other. -/
theorem marks_readings (n : Nat) :
    (link.after (readings n)).isUp ∧ (link.after (readings n)).identity = link.identity ∧
      link.marks (readings n) = givenOut n := by
  induction n with
  | zero =>
    have hafter : link.after (readings 0) = { link with isUp := true } := use_connects rfl
    rw [hafter]
    exact ⟨rfl, rfl, rfl⟩
  | succ n ih =>
    obtain ⟨hup, hidentity, hmarks⟩ := ih
    obtain ⟨huse, hmark⟩ := send_reading hup hidentity n
    have hnext : packetIdAfter (link.after (readings n)).lastPacketId =
        packetIdOf (givings (link.marks (readings n))) :=
      (Link.recorded_of_uses link.identity link.credential link.options (readings n)).next
    have hafter : link.after (readings (n + 1)) = ((link.after (readings n)).assign n).1 := by
      rw [readings_succ, Link.after_append]
      exact huse
    rw [hafter]
    refine ⟨hup, hidentity, ?_⟩
    rw [hmarks, givings_givenOut] at hnext
    rw [readings_succ, Link.marks_append, Link.marks, hmark, hmarks, hnext, givenOut, givenOut,
      List.range_succ, List.map_append]
    rfl

/-- The last reading is in flight under its packet id, whatever had that before. -/
theorem get?_readings (n : Nat) :
    (link.after (readings (n + 1))).inFlight.get? (packetIdOf n) = some n := by
  obtain ⟨hup, hidentity, hmarks⟩ := marks_readings n
  have hnext : packetIdAfter (link.after (readings n)).lastPacketId =
      packetIdOf (givings (link.marks (readings n))) :=
    (Link.recorded_of_uses link.identity link.credential link.options (readings n)).next
  rw [hmarks, givings_givenOut] at hnext
  rw [readings_succ, Link.after_append, Link.after, (send_reading hup hidentity n).1, Link.after,
    Link.get?_assign, if_pos hnext]

/-- The pump hands over one reading more than there are packet ids, and the first packet id is
confirmed. -/
def overrun : List Use := readings (cycle + 1) ++ [.read (.confirm 1)]

/-- The pump hands over two readings, and the hub confirms the second before the first. -/
def exchange : List Use := readings 2 ++ [.read (.confirm 2), .read (.confirm 1)]

end Pump

namespace Link

/-- **Without promptness a confirmation may be put down to another message.** The first packet id is
given to the last reading while it waits for the first one to be confirmed, and that confirmation is
put down to the last one. -/
theorem not_attributed_of_overrun : ¬Attributed Pump.link Pump.overrun := by
  intro hattributed
  obtain ⟨-, -, hmarks⟩ := Pump.marks_readings (cycle + 1)
  have hagain : (Pump.link.after (Pump.readings (cycle + 1))).inFlight.get? 1 = some cycle :=
    Pump.get?_readings cycle
  have hall : Pump.link.marks Pump.overrun =
      Pump.givenOut (cycle + 1) ++ [.confirmed 1 (some cycle)] := by
    rw [Pump.overrun, marks_append, hmarks, marks, mark?, hagain]
    rfl
  have hfirst : Pump.givenOut (cycle + 1) = [.closed] ++ .given 1 0 true ::
      (List.range cycle).map fun id => .given (packetIdOf (id + 1)) (id + 1) true := by
    rw [Pump.givenOut, List.range_succ_eq_map, List.map_cons, List.map_map]
    rfl
  have heq := hattributed.own _ _ _ _ hall _ _ _ _ hfirst (by simp [Mark.settles])
  exact absurd heq (by decide)

/-- The confirmations of the exchange are put down to the readings they are for. -/
theorem attributed_exchange :
    Prompt (Pump.link.marks Pump.exchange) ∧ Attributed Pump.link Pump.exchange := by
  have hprompt : Prompt (Pump.link.marks Pump.exchange) :=
    prompt_of_length_lt Pump.link (by decide)
  exact ⟨hprompt, attributed_of_prompt _ _ _ hprompt⟩

end Link

end HubLink.Mqtt
