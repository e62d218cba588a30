import HubLink.Proofs.Client.Limits

/-! # What building a client leads to

A client is checked twice: its identity first, then its settings (`ClientPlan.check`). Building ends
as the checks do, over either protocol, with one exception (`ClientPlan.endsAsChecked`). A link over
HTTPS takes the lifetime of its tokens over before the settings are checked, so a lifetime that is no
span of the calendar aborts the program where it should be refused (`ClientPlan.Overspans`). A link
over MQTT leaves that for later. -/

namespace HubLink

/-- **The lifetimes that are spans of the calendar** are the small ones and, as the number wraps
around, the greatest ones. -/
theorem ClientOptions.isSpan_tokenSpan_iff {o : ClientOptions}
    (fits : o.tokenLifetime < Text.bound64) :
    ClientPlan.isSpan o.tokenSpan = true ↔
      o.tokenLifetime ≤ ClientPlan.maxSpan ∨
        Text.bound64 - ClientPlan.maxSpan ≤ o.tokenLifetime := by
  rw [Text.bound64] at fits ⊢
  rw [ClientPlan.isSpan, Bool.and_eq_true, decide_eq_true_eq, decide_eq_true_eq, ClientPlan.maxSpan,
    tokenSpan, Text.bound64, Int.bmod]
  omega

namespace ClientPlan

/-- The checks of what a client is built from: the identity, then the settings. -/
def check (p : ClientPlan) : Except Fault Unit :=
  p.identity.validate.bind fun () => p.options.validate

/-- The same plan over a protocol. -/
def speaking (p : ClientPlan) (protocol : Protocol) : ClientPlan := { p with protocol }

/-- The lifetime of the tokens is taken over before it is checked, and it is no span of the
calendar. -/
structure Overspans (p : ClientPlan) : Prop where
  protocol : p.protocol = .https
  identity : p.identity.validate = .ok ()
  least : maxSpan < p.options.tokenLifetime
  greatest : p.options.tokenLifetime < Text.bound64 - maxSpan

/-- What building leads to after checks that end so: a client if they pass. -/
def ending (p : ClientPlan) : Except Fault Unit → BuildOutcome
  | .ok () =>
    .built { operationTime := p.options.operationTime }
      (.new (.ofOptions p.identity p.options p.credential.isRenewable))
  | .error fault => .refused fault

variable {p : ClientPlan}

/-! ## Endings -/

theorem exists_ending_eq_built_iff {checked : Except Fault Unit} :
    (∃ client worker, p.ending checked = .built client worker) ↔ checked = .ok () := by
  cases checked <;> simp [ending]

theorem ending_eq_refused_iff {checked : Except Fault Unit} {fault : Fault} :
    p.ending checked = .refused fault ↔ checked = .error fault := by
  cases checked <;> simp [ending]

theorem ending_ne_aborted (checked : Except Fault Unit) (why : Abort) :
    p.ending checked ≠ .aborted why := by
  cases checked <;> simp [ending]

/-! ## The checks -/

theorem validate_identity_iff {i : Identity} : i.validate = .ok () ↔ i.defect? = none := by
  rw [Identity.validate]
  cases i.defect? <;> simp

theorem check_eq_ok_iff :
    p.check = .ok () ↔ p.identity.validate = .ok () ∧ p.options.validate = .ok () := by
  rw [check]
  cases p.identity.validate <;> simp [Except.bind]

/-- Settings with a lifetime that is no span do not pass the check. -/
theorem Overspans.not_validate (h : p.Overspans) : p.options.validate ≠ .ok () := by
  intro valid
  have hle := (ClientOptions.checked_of_validate valid).lifetime
  have hleast := h.least
  rw [ClientOptions.maxTokenLifetime] at hle
  rw [maxSpan] at hleast
  omega

/-- Starting the worker ends as the check of the settings does. -/
theorem start_eq (hcapacity : p.options.eventCapacity ≤ EventChannel.maxCapacity) :
    p.start = p.ending p.options.validate := by
  cases hvalid : p.options.validate with
  | error fault => simp only [start, Client.launch, hvalid, ending]
  | ok =>
    rw [start, (ClientOptions.checked_of_validate hvalid).launch_eq hvalid, if_pos hcapacity]
    rfl

/-! ## Building -/

/-- **Building over HTTPS aborts if the lifetime is no span.** -/
theorem build_of_overspans (fits : p.options.tokenLifetime < Text.bound64) (h : p.Overspans) :
    p.build = .aborted .tokenLifetime := by
  have hspan : ¬isSpan p.options.tokenSpan = true := by
    have hleast := h.least
    have hgreatest := h.greatest
    rw [ClientOptions.isSpan_tokenSpan_iff fits]
    omega
  simp only [build, h.identity, h.protocol, hspan, Bool.false_eq_true, ↓reduceIte]

/-- **Else building ends as the checks do.** -/
theorem build_of_not_overspans (fits : p.options.tokenLifetime < Text.bound64)
    (hprotocol : p.protocol ≠ .amqp)
    (hcapacity : p.options.eventCapacity ≤ EventChannel.maxCapacity) (h : ¬p.Overspans) :
    p.build = p.ending p.check := by
  rw [build, check]
  cases hidentity : p.identity.validate with
  | error fault => rfl
  | ok =>
    cases hp : p.protocol with
    | amqp => exact absurd hp hprotocol
    | mqtt => exact start_eq hcapacity
    | https =>
      have hspan : isSpan p.options.tokenSpan = true := by
        rw [ClientOptions.isSpan_tokenSpan_iff fits]
        by_contra hno
        exact h ⟨hp, hidentity, by omega, by omega⟩
      simp only [hspan, ↓reduceIte]
      exact start_eq hcapacity

/-- **Building ends as the checks do**, save for lifetimes that are taken over too early. -/
structure EndsAsChecked (p : ClientPlan) : Prop where
  /-- There is a client exactly if both checks pass. -/
  built : (∃ client worker, p.build = .built client worker) ↔ p.check = .ok ()
  /-- A fault that building ends with is that of the first check that fails. -/
  refused : ∀ fault, p.build = .refused fault ↔ p.check = .error fault ∧ ¬p.Overspans
  /-- The program aborts exactly if the lifetime is taken over before it is checked. -/
  aborted : ∀ why, p.build = .aborted why ↔ why = .tokenLifetime ∧ p.Overspans
  /-- The protocols differ in nothing else. -/
  independent : (p.speaking .mqtt).build = (p.speaking .https).build ↔ ¬(p.speaking .https).Overspans

/-- Over MQTT and over HTTPS the same is built, unless the lifetime is taken over too early. -/
theorem build_speaking_eq_iff (fits : p.options.tokenLifetime < Text.bound64)
    (hcapacity : p.options.eventCapacity ≤ EventChannel.maxCapacity) :
    (p.speaking .mqtt).build = (p.speaking .https).build ↔ ¬(p.speaking .https).Overspans := by
  have hmqtt : (p.speaking .mqtt).build = p.ending p.check :=
    build_of_not_overspans (p := p.speaking .mqtt) fits Protocol.noConfusion hcapacity fun h =>
      Protocol.noConfusion h.protocol
  by_cases h : (p.speaking .https).Overspans
  · rw [hmqtt, build_of_overspans (p := p.speaking .https) fits h]
    exact iff_of_false (ending_ne_aborted _ _) (not_not_intro h)
  · refine ⟨fun _ => h, fun _ => ?_⟩
    rw [hmqtt, build_of_not_overspans (p := p.speaking .https) fits Protocol.noConfusion hcapacity h]
    rfl

/-- **What building leads to**, whatever the identity, the credential and the settings. -/
theorem endsAsChecked (fits : p.options.tokenLifetime < Text.bound64)
    (hprotocol : p.protocol ≠ .amqp)
    (hcapacity : p.options.eventCapacity ≤ EventChannel.maxCapacity) : p.EndsAsChecked := by
  by_cases h : p.Overspans
  · have hbuild := build_of_overspans fits h
    have hcheck : p.check ≠ .ok () := fun hok => h.not_validate (check_eq_ok_iff.1 hok).2
    constructor
    · simp [hbuild, hcheck]
    · simp [hbuild, h]
    · simp [hbuild, h, eq_comm]
    · exact build_speaking_eq_iff fits hcapacity
  · have hbuild := build_of_not_overspans fits hprotocol hcapacity h
    constructor
    · rw [hbuild, exists_ending_eq_built_iff]
    · simp [hbuild, ending_eq_refused_iff, h]
    · simp [hbuild, ending_ne_aborted, h]
    · exact build_speaking_eq_iff fits hcapacity

/-- A device with a token made beforehand, over HTTPS. -/
theorem endsAsChecked_of_device :
    ({} : ClientOptions).tokenLifetime < Text.bound64 ∧ Protocol.https ≠ .amqp ∧
      ({} : ClientOptions).eventCapacity ≤ EventChannel.maxCapacity ∧
      EndsAsChecked
        { identity := ⟨"hub.azure-devices.net", "dev1"⟩
          credential := .fixed "SharedAccessSignature sr=hub%2Fdevices%2Fd&sig=fixed&se=1"
          protocol := .https } :=
  ⟨by decide, by decide, by decide, endsAsChecked (by decide) (by decide) (by decide)⟩

/-- Building is not total: over HTTPS a lifetime of ten thousand billion seconds aborts it, although
the settings are to be refused. -/
theorem not_total_of_lifetime :
    ¬∀ p : ClientPlan, p.options.tokenLifetime < Text.bound64 → p.protocol ≠ .amqp →
      p.options.eventCapacity ≤ EventChannel.maxCapacity →
        p.check = .ok () ∧ (∃ client worker, p.build = .built client worker) ∨
          ∃ fault, p.check = .error fault ∧ p.build = .refused fault := by
  intro h
  let plan : ClientPlan :=
    { identity := ⟨"hub.azure-devices.net", "dev1"⟩
      credential := .fixed "SharedAccessSignature sr=hub%2Fdevices%2Fd&sig=fixed&se=1"
      options := { tokenLifetime := 10000000000000000 }
      protocol := .https }
  have habort : plan.build = .aborted .tokenLifetime :=
    build_of_overspans (by decide) ⟨rfl, validate_identity_iff.2 (by decide), by decide, by decide⟩
  obtain ⟨-, client, worker, hbuilt⟩ | ⟨fault, -, hrefused⟩ :=
    h plan (by decide) (by decide) (by decide)
  · rw [habort] at hbuilt
    cases hbuilt
  · rw [habort] at hrefused
    cases hrefused

end ClientPlan

end HubLink
