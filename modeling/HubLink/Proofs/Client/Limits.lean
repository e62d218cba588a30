import HubLink.Client.Build
import HubLink.Proofs.Connection.Deadlines
import HubLink.Proofs.Options.Checked

/-! # Limits of checked settings

What the check of the settings is worth. The numbers of checked settings go into clocks, timers, a
calendar and a channel, each of which takes numbers of a certain range only and aborts the program on
others. All of them stay in range, for as long as a client runs (`ClientOptions.inRange_of_validate`),
save one: nothing keeps the capacity of the event channel below the greatest that a channel can have,
so settings that pass the check may still abort the program. -/

namespace HubLink

open Duration (year)

namespace ClientOptions

/-! ## Numbers -/

/-- The numbers have the width of their fields. -/
structure Fits (o : ClientOptions) : Prop where
  operationTimeout : o.operationTimeout < Text.bound64
  ackTimeout : o.ackTimeout < Text.bound64
  connectTimeout : o.connectTimeout < Text.bound64
  keepAlive : o.keepAlive < Text.bound16
  tokenLifetime : o.tokenLifetime < Text.bound64
  pollInterval : o.pollInterval < Text.bound64
  eventCapacity : o.eventCapacity < Text.bound64

namespace Checked

variable {o : ClientOptions}

/-- A checked lifetime is a span that the calendar counts. -/
theorem isSpan (h : o.Checked) : ClientPlan.isSpan o.tokenSpan = true := by
  have hle := h.lifetime
  rw [maxTokenLifetime] at hle
  rw [h.tokenSpan_eq, ClientPlan.isSpan, ClientPlan.maxSpan, Bool.and_eq_true, decide_eq_true_eq,
    decide_eq_true_eq]
  omega

/-- A token made within the calendar expires within it, if a year later still belongs to it. -/
theorem isInCalendar (h : o.Checked) {date : Int} (hdate : Timestamp.isInCalendar date = true)
    (hyear : Timestamp.isInCalendar (date + maxTokenLifetime) = true) :
    Timestamp.isInCalendar (date + o.tokenSpan) = true := by
  have hle := h.lifetime
  rw [Timestamp.isInCalendar, Bool.and_eq_true, decide_eq_true_eq, decide_eq_true_eq] at hdate hyear ⊢
  rw [h.tokenSpan_eq]
  omega

end Checked

/-! ## Ranges -/

/-- **What is computed from settings stays in the range of what it is for**, at an instant and a
date, for a client with these settings. -/
structure InRange (o : ClientOptions) (identity : Identity) (now : Nat) (date : Int) : Prop where
  /-- The lifetime of a token is a span that the calendar counts. -/
  span : ClientPlan.isSpan o.tokenSpan = true
  /-- A token made then expires within the calendar. -/
  expiry : Timestamp.isInCalendar (date + o.tokenSpan) = true
  /-- So does the one that connecting asks for, whatever it leads to. -/
  asked : ∀ (credential : Credential)
    (reached : Except Fault (Mqtt.LoginReply × Mqtt.Writing)) (expiry : Int),
    (Mqtt.Link.connect { identity, credential, options := o } date reached).expiry = some expiry →
      Timestamp.isInCalendar expiry = true
  /-- A token is renewed at an instant that the clock shows, before a year is over. -/
  renewal : o.renewalTime ≤ year ∧ (Instant.after? now (min o.renewalTime year)).isSome = true
  /-- Operations end at an instant that the clock shows. -/
  operation : (Instant.after? now (min o.operationTime year)).isSome = true
  /-- Confirmations are due at an instant that the clock shows. -/
  confirmation : (Instant.after? now (min o.ackTime year)).isSome = true
  /-- Connecting and sending end at an instant that the clock shows. -/
  connect : (Instant.after? now o.connectTime).isSome = true
  /-- A poller can tick, and its first tick is at an instant that the clock shows. -/
  poll : (Https.Poller.firstTick? now o.pollTime).isSome = true
  /-- The silence after which a link counts as lost ends at an instant that the clock shows. -/
  silence : ∀ (credential : Credential),
    (Instant.after? now (Duration.ofSeconds
      (Mqtt.Link.idleLimit { identity, credential, options := o }))).isSome = true
  /-- Whatever came to the worker by now, it and its link wait no longer than the clock runs. -/
  waits : ∀ (renewable : Bool) (inputs : List (Nat × Input)),
    (∀ i ∈ inputs, i.1 ≤ now ∧ i.2.IsIssued now) →
      let w := (Worker.new (.ofOptions identity o renewable)).after inputs
      (∀ t, w.nextWake = some t → t ≤ Instant.last) ∧
        ∀ b, w.busy = some b → b.limit ≤ Instant.last

section Range

/-- The instant after a duration is shown if the clock runs so long. -/
theorem isSome_after? {now d room : Nat} (hroom : now + room ≤ Instant.last) (hd : d ≤ room) :
    (Instant.after? now d).isSome = true := by
  rw [Option.isSome_iff_exists]
  exact ⟨now + d, Instant.after?_eq_some_iff.2 ⟨rfl, by omega⟩⟩

/-- The greatest number of milliseconds takes more than a year. -/
theorem year_le_ofMillis : year ≤ Duration.ofMillis Text.bound64 := by decide

/-- Every way to connect asks for a token with the same expiry. -/
theorem expiry_connect (l : Mqtt.Link) (date : Int)
    (reached : Except Fault (Mqtt.LoginReply × Mqtt.Writing)) :
    (l.connect date reached).expiry = some (date + l.options.tokenSpan) := by
  rw [Mqtt.Link.connect]
  simp only [Mqtt.Link.close]
  split
  · rfl
  · split
    · rfl
    · split
      · rfl
      · split <;> rfl

variable {o : ClientOptions} {now : Nat}

/-- A link with settings that fit counts as lost well before a year of silence. -/
theorem idleLimit_le (fits : o.Fits) (identity : Identity) (credential : Credential) :
    Duration.ofSeconds (Mqtt.Link.idleLimit { identity, credential, options := o }) ≤ year := by
  have hkeep := fits.keepAlive
  rw [Text.bound16] at hkeep
  simp only [Mqtt.Link.idleLimit, Mqtt.Link.keepAlive, Duration.ofSeconds, year, Duration.perSecond]
  omega

/-- Neither a worker nor its link waits past the end of the clock. -/
theorem waits_of_fits (fits : o.Fits) (identity : Identity) (renewable : Bool)
    (room : now + Duration.ofMillis Text.bound64 ≤ Instant.last) {inputs : List (Nat × Input)}
    (hinputs : ∀ i ∈ inputs, i.1 ≤ now ∧ i.2.IsIssued now) :
    let w := (Worker.new (.ofOptions identity o renewable)).after inputs
    (∀ t, w.nextWake = some t → t ≤ Instant.last) ∧
      ∀ b, w.busy = some b → b.limit ≤ Instant.last := by
  have hyear := year_le_ofMillis
  have hw : ((Worker.new (.ofOptions identity o renewable)).after inputs).WithinYear now :=
    Worker.withinYear_of_run _ fun i hi => ⟨(hinputs i hi).1, (hinputs i hi).2.withinYear⟩
  refine ⟨fun t ht => ?_, fun b busy => ?_⟩
  · have hle : t ≤ now + year := hw.nextWake ht
    omega
  · have hle := hw.limit b busy
    rw [Worker.terms_of_run] at hle
    have hlimit : (Terms.ofOptions identity o renewable).operationLimit ≤
        Duration.ofMillis Text.bound64 := Nat.mul_le_mul_right _ (Nat.le_of_lt fits.connectTimeout)
    omega

/-- A poller with checked settings ticks. -/
theorem Checked.isSome_firstTick? (h : o.Checked) (fits : o.Fits)
    (room : now + Duration.ofMillis Text.bound64 ≤ Instant.last) :
    (Https.Poller.firstTick? now o.pollTime).isSome = true := by
  have hpos : 0 < o.pollTime := Nat.mul_pos h.pollInterval_pos (by decide)
  rw [Https.Poller.firstTick?, if_neg (Nat.ne_of_gt hpos)]
  exact isSome_after? room (Nat.mul_le_mul_right _ (Nat.le_of_lt fits.pollInterval))

/-- **All that is computed from checked settings stays in range**, while the clock and the calendar
have room. -/
theorem Checked.inRange (h : o.Checked) (fits : o.Fits) (identity : Identity)
    (room : now + Duration.ofMillis Text.bound64 ≤ Instant.last) {date : Int}
    (hdate : Timestamp.isInCalendar date = true)
    (hyear : Timestamp.isInCalendar (date + maxTokenLifetime) = true) :
    o.InRange identity now date where
  span := h.isSpan
  expiry := h.isInCalendar hdate hyear
  asked credential reached expiry hexpiry := by
    rw [expiry_connect, Option.some.injEq] at hexpiry
    exact hexpiry ▸ h.isInCalendar hdate hyear
  renewal := ⟨h.renewalTime_le, isSome_after? room ((Nat.min_le_right _ _).trans year_le_ofMillis)⟩
  operation := isSome_after? room ((Nat.min_le_right _ _).trans year_le_ofMillis)
  confirmation := isSome_after? room ((Nat.min_le_right _ _).trans year_le_ofMillis)
  connect := isSome_after? room (Nat.mul_le_mul_right _ (Nat.le_of_lt fits.connectTimeout))
  poll := h.isSome_firstTick? fits room
  silence credential :=
    isSome_after? room ((idleLimit_le fits identity credential).trans year_le_ofMillis)
  waits renewable inputs hinputs := waits_of_fits fits identity renewable room hinputs

end Range

/-! ## Launching -/

/-- **A client with checked settings starts, unless its event channel would be too large**; then the
program aborts. -/
theorem Checked.launch_eq {o : ClientOptions} (h : o.Checked) (valid : o.validate = .ok ())
    (identity : Identity) (renewable : Bool) :
    Client.launch identity o renewable =
      if o.eventCapacity ≤ EventChannel.maxCapacity then
        .built { operationTime := o.operationTime } (.new (.ofOptions identity o renewable))
      else .aborted .eventCapacity := by
  have hpos := h.capacity
  simp only [Client.launch, valid, EventChannel.isCapacity, hpos, decide_true, Bool.true_and,
    decide_eq_true_eq]

/-- **What the check of the settings is worth.** A client whose settings pass it starts, and nothing
computed from them leaves its range later, except that the program aborts at the start if the event
channel would be larger than one can be. -/
theorem inRange_of_validate {o : ClientOptions} (fits : o.Fits) (valid : o.validate = .ok ())
    (identity : Identity) (renewable : Bool) {now : Nat} {date : Int}
    (room : now + Duration.ofMillis Text.bound64 ≤ Instant.last)
    (hdate : Timestamp.isInCalendar date = true)
    (hyear : Timestamp.isInCalendar (date + maxTokenLifetime) = true) :
    Client.launch identity o renewable =
        (if o.eventCapacity ≤ EventChannel.maxCapacity then
          .built { operationTime := o.operationTime } (.new (.ofOptions identity o renewable))
        else .aborted .eventCapacity) ∧
      o.InRange identity now date :=
  ⟨(checked_of_validate valid).launch_eq valid identity renewable,
    (checked_of_validate valid).inRange fits identity room hdate hyear⟩

/-- The standard settings. -/
theorem inRange_standard :
    ({} : ClientOptions).Fits ∧ ({} : ClientOptions).validate = .ok () ∧
      Client.launch ⟨"hub.azure-devices.net", "dev1"⟩ {} true =
        .built { operationTime := 240000000000 }
          (.new (.ofOptions ⟨"hub.azure-devices.net", "dev1"⟩ {} true)) ∧
      ({} : ClientOptions).InRange ⟨"hub.azure-devices.net", "dev1"⟩ 0 1700000000 := by
  have fits : ({} : ClientOptions).Fits := by constructor <;> decide
  have valid : ({} : ClientOptions).validate = .ok () := by rfl
  have h := inRange_of_validate fits valid ⟨"hub.azure-devices.net", "dev1"⟩ true
    (by decide : 0 + Duration.ofMillis Text.bound64 ≤ Instant.last)
    (by decide : Timestamp.isInCalendar 1700000000 = true) (by decide)
  exact ⟨fits, valid, h.1, h.2⟩

/-- Settings that fit and pass the check may abort the program: the channel is just too large. -/
theorem not_built_of_capacity :
    ¬∀ o : ClientOptions, o.Fits → o.validate = .ok () →
      ∃ client worker,
        Client.launch ⟨"hub.azure-devices.net", "dev1"⟩ o true = .built client worker := by
  intro h
  obtain ⟨client, worker, hbuilt⟩ :=
    h { eventCapacity := 2305843009213693952 } (by constructor <;> decide) rfl
  have habort : Client.launch ⟨"hub.azure-devices.net", "dev1"⟩
      { eventCapacity := 2305843009213693952 } true = .aborted .eventCapacity := rfl
  rw [habort] at hbuilt
  cases hbuilt

end ClientOptions

end HubLink
